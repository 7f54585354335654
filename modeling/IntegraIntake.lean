import IntegraIntake.Library.Machine
import IntegraIntake.Library.Dict
import IntegraIntake.Library.Simulation
import IntegraIntake.Library.Table
import IntegraIntake.Library.Session
import IntegraIntake.Library.Json
import IntegraIntake.Library.Jsonb
import IntegraIntake.Library.Isolation
import IntegraIntake.Database.Tenants
import IntegraIntake.Library.PyString
import IntegraIntake.Tenants.Config
import IntegraIntake.Observability.Codes
import IntegraIntake.Agent.Models
import IntegraIntake.Documents.Models
import IntegraIntake.Tools.Models
import IntegraIntake.Tenants.Compiled
import IntegraIntake.Policy.Models
import IntegraIntake.Tenants.FieldValues
import IntegraIntake.Tenants.Routing
import IntegraIntake.Tools.Executor
import IntegraIntake.Tools.Soundness
import IntegraIntake.Tools.ModelInput
import IntegraIntake.Database.Schema
import IntegraIntake.Jobs.Repository
import IntegraIntake.Jobs.Read
import IntegraIntake.Cases.Repository
import IntegraIntake.Approvals.Repository
import IntegraIntake.Approvals.Executor
import IntegraIntake.Approvals.Decision
import IntegraIntake.Lifecycle.Moves
import IntegraIntake.Lifecycle.JobOperations
import IntegraIntake.Lifecycle.ApprovalOperations
import IntegraIntake.Lifecycle.Decision
import IntegraIntake.Lifecycle.Machine
import IntegraIntake.Decisions.Machine
import IntegraIntake.Decisions.Invariant
import IntegraIntake.Decisions.Finality
import IntegraIntake.Decisions.Winner
import IntegraIntake.Tools.Postgres
import IntegraIntake.Workers.AgentWorker
import IntegraIntake.System.Machine
import IntegraIntake.System.Rows
import IntegraIntake.System.Invariant
import IntegraIntake.System.Fencing
import IntegraIntake.System.Replay
import IntegraIntake.System.Failure
import IntegraIntake.System.Business
import IntegraIntake.System.Unique
import IntegraIntake.System.OnePerJob
import IntegraIntake.Intake.Enqueue
import IntegraIntake.Intake.Invariant
import IntegraIntake.Intake.Idempotency
import IntegraIntake.Agent.Loop
import IntegraIntake.Tools.Outcomes
import IntegraIntake.Agent.Runs
import IntegraIntake.Agent.SideBySide
import IntegraIntake.Agent.DoubleRuns
import IntegraIntake.Runtime.Preflight
import IntegraIntake.Workers.Summary
import IntegraIntake.Jobs.ExecutionRead
import IntegraIntake.Jobs.Response
import IntegraIntake.System.Submission
import IntegraIntake.System.Polling
import IntegraIntake.System.Parking
import IntegraIntake.System.Attempts
import IntegraIntake.Workers.Vocabulary
import IntegraIntake.System.SourceFree
import IntegraIntake.System.Queue
import IntegraIntake.System.Upkeep
import IntegraIntake.Library.References
import IntegraIntake.System.References
import IntegraIntake.Tools.Arguments
import IntegraIntake.Tools.Registry
import IntegraIntake.Tenants.FrozenFields
import IntegraIntake.Approvals.Frozen
import IntegraIntake.Tools.PostgresPort
import IntegraIntake.Tools.InMemory
import IntegraIntake.Tools.Mirror
import IntegraIntake.Approvals.Recipients
import IntegraIntake.Approvals.Review
import IntegraIntake.System.CaseActions
import IntegraIntake.Approvals.Reviewed
import IntegraIntake.Intake.Service
import IntegraIntake.Cases.Service
import IntegraIntake.Isolation.Reads
import IntegraIntake.Isolation.Intake
import IntegraIntake.Isolation.Decisions
import IntegraIntake.Isolation.Port
import IntegraIntake.Isolation.Operations
import IntegraIntake.Policy.Signals
import IntegraIntake.Tools.Requests
import IntegraIntake.Tenants.FieldSpec
import IntegraIntake.Library.JsonText
import IntegraIntake.Agent.Trace
import IntegraIntake.Providers.Messages
import IntegraIntake.Agent.Calls
import IntegraIntake.Agent.Guard
import IntegraIntake.Agent.Transcript
import IntegraIntake.Intake.Parsing
import IntegraIntake.Workers.Serve
import IntegraIntake.Workers.ServeOnce
import IntegraIntake.Workers.FinalWrites
import IntegraIntake.Decisions.AuditLog
import IntegraIntake.Providers.OpenAICompatible
import IntegraIntake.Workers.LeaseSupervisor
import IntegraIntake.Workers.LeaseRuns
import IntegraIntake.Workers.ProviderFailures
import IntegraIntake.Library.JsonDecode
import IntegraIntake.Tenants.Snapshot
import IntegraIntake.Tenants.Compilation
import IntegraIntake.Runtime.Profiles
import IntegraIntake.Runtime.LegacyProfiles
import IntegraIntake.Documents.Snapshot
import IntegraIntake.Runtime.Factory
import IntegraIntake.Policy.Completeness
import IntegraIntake.Runtime.Catalog
import IntegraIntake.Library.PyText
import IntegraIntake.Documents.Normalizer
import IntegraIntake.Workers.Backoff
import IntegraIntake.System.Evidence
import IntegraIntake.Cases.CustomerLookup
import IntegraIntake.Library.PyInt
import IntegraIntake.Auth.InboundWebhook
import IntegraIntake.Library.Base64
import IntegraIntake.Inbound.Models
import IntegraIntake.Library.Application
import IntegraIntake.Inbound.Sender
import IntegraIntake.Inbound.Service
import IntegraIntake.Api.BodyLimit
import IntegraIntake.Auth.ApiKeys
import IntegraIntake.Api.Inbound
import IntegraIntake.Inbound.Delivery
import IntegraIntake.Auth.Provisioning
import IntegraIntake.Auth.IssuedKeys
