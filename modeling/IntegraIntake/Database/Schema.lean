import IntegraIntake.Library.Session
import IntegraIntake.Library.Table
import IntegraIntake.Tools.Models

/-!
# The database

`app/db/models.py`: the tables the modelled code reads and writes.  A table is
the list of its rows; rows are never deleted.  A column that decides nothing in the
modelled code (update times, the primary keys of the event and idempotency tables) is
left out, and so are the creation times of other rows than jobs, which reads of cases
and artifacts only pass on.  The closed sets of the check constraints are enumerations.
-/

namespace IntegraIntake

open Library

/-! ## Rows -/

/-- `ck_agent_jobs_status`. -/
inductive JobStatus where
  | queued | running | awaitingApproval | succeeded | failed | failedUncertain
  deriving DecidableEq, Repr

/-- The statuses a job never leaves. -/
def JobStatus.isTerminal : JobStatus → Bool
  | .succeeded | .failed | .failedUncertain => true
  | _ => false

/-- `ck_approvals_status`. -/
inductive ApprovalStatus where
  | staged | cancelled | pending | approved | rejected | expired
  deriving DecidableEq, Repr

/-- The status as the column holds it. -/
def ApprovalStatus.value : ApprovalStatus → String
  | .staged => "staged"
  | .cancelled => "cancelled"
  | .pending => "pending"
  | .approved => "approved"
  | .rejected => "rejected"
  | .expired => "expired"

/-- The statuses an operator can see. -/
def ApprovalStatus.isPublic : ApprovalStatus → Bool
  | .pending | .approved | .rejected | .expired => true
  | _ => false

/-- The statuses of a decided approval. -/
def ApprovalStatus.isFinal : ApprovalStatus → Bool
  | .approved | .rejected | .expired => true
  | _ => false

/-- The `event_type` of a row of `approval_events`. -/
inductive ApprovalEventType where
  | requested | replaced | cancelled | approved | actionExecuted | rejected | expired
  deriving DecidableEq, Repr

/-- The `event_type` of a row of `case_events`. -/
inductive CaseEventType where
  | created | fieldsUpdated
  deriving DecidableEq, Repr

/-- `ck_job_artifacts_kind`. -/
inductive ArtifactKind where
  | replyDraft | reviewFlag
  deriving DecidableEq, Repr

/-- The kind of the reference an artifact is returned as. -/
def ArtifactKind.resultKind : ArtifactKind → ResultKind
  | .replyDraft => .replyDraft
  | .reviewFlag => .reviewFlag

/-- `agent_jobs`. -/
structure AgentJob where
  id : Uuid
  tenantId : Uuid
  traceId : Uuid
  status : JobStatus
  sourceSnapshot : Json
  tenantConfigSnapshot : Json
  tenantConfigSha256 : String
  riskSignals : Json
  attemptCount : ℕ
  availableAt : Timestamp
  leaseExpiresAt : Option Timestamp
  startedAt : Option Timestamp
  finishedAt : Option Timestamp
  sideEffectCommittedAt : Option Timestamp
  result : Option Json
  errorCode : Option String
  createdAt : Timestamp

/-- `idempotency_records`. -/
structure IdempotencyRecord where
  tenantId : Uuid
  key : String
  requestHash : String
  jobId : Option Uuid
  caseId : Option Uuid
  response : Json

/-- `approvals`. -/
structure Approval where
  id : Uuid
  tenantId : Uuid
  caseId : Option Uuid
  jobId : Option Uuid
  action : String
  status : ApprovalStatus
  decision : Json
  policyReason : Option String
  pendingAction : Option Json
  tenantConfigSha256 : Option String
  expiresAt : Option Timestamp
  decidedAt : Option Timestamp
  decidedByActorRef : Option String
  decisionReason : Option String
  executedAt : Option Timestamp
  executionResult : Option Json

/-- The approval with another status and nothing else changed. -/
def Approval.withStatus (status : ApprovalStatus) (approval : Approval) : Approval :=
  { approval with status := status }

/-- `approval_events`. -/
structure ApprovalEvent where
  tenantId : Uuid
  approvalId : Uuid
  eventType : ApprovalEventType
  actorRef : Option String
  payload : Json

/-- `customers`. -/
structure Customer where
  id : Uuid
  tenantId : Uuid
  externalId : Option String
  name : Option String
  email : Option String
  phone : Option String

/-- `intake_cases`. -/
structure IntakeCase where
  id : Uuid
  tenantId : Uuid
  customerId : Option Uuid
  status : String
  channel : String
  subject : String
  body : String
  source : Option String
  rawPayload : Json
  extractedFields : List (String × Json)

/-- `case_events`. -/
structure CaseEvent where
  tenantId : Uuid
  caseId : Uuid
  eventType : CaseEventType
  payload : Json

/-- `job_artifacts`. -/
structure JobArtifact where
  id : Uuid
  tenantId : Uuid
  jobId : Uuid
  kind : ArtifactKind
  payload : Json

/-- The columns of `uq_job_artifacts_tenant_job_kind`. -/
def JobArtifact.key (artifact : JobArtifact) : Uuid × Uuid × ArtifactKind :=
  (artifact.tenantId, artifact.jobId, artifact.kind)

/-- The tables of one database. -/
structure Db where
  jobs : List AgentJob
  idempotency : List IdempotencyRecord
  approvals : List Approval
  approvalEvents : List ApprovalEvent
  customers : List Customer
  cases : List IntakeCase
  caseEvents : List CaseEvent
  artifacts : List JobArtifact

/-- The exceptions of the repositories and services, with their texts. -/
inductive AppError where
  | jobLeaseLost (message : String)
  | approvalCreationConflict (message : String)
  | approvalNotFound
  | approvalDecisionConflict (message : String)
  | approvalExpired (message : String)
  | runtimeError (message : String)
  | customerNotFound
  | idempotencyConflict (message : String)
  | valueError (message : String)
  | documentCapabilityUnavailable (message : String)
  | tenantProfileUnavailable
  /-- A violated unique constraint. -/
  | integrityError
  /-- The `TypeError` of `_parse_uuid`. -/
  | typeError
  /-- The `RuntimeError` of `_check_cancelled`. -/
  | cancelled
  deriving DecidableEq, Repr

/-! ## Writing rows -/

namespace Db

/-- The row of a job is written. -/
def setJob (db : Db) (job : AgentJob) : Db :=
  { db with jobs := Table.replace AgentJob.id job db.jobs }

/-- The row of an approval is written. -/
def setApproval (db : Db) (approval : Approval) : Db :=
  { db with approvals := Table.replace Approval.id approval db.approvals }

/-- An approval is inserted. -/
def addApproval (db : Db) (approval : Approval) : Db :=
  { db with approvals := db.approvals ++ [approval] }

/-- An approval event is inserted. -/
def addApprovalEvent (db : Db) (event : ApprovalEvent) : Db :=
  { db with approvalEvents := db.approvalEvents ++ [event] }

/-- The key of `uq_idempotency_records_tenant_id_key`. -/
def setIdempotency (db : Db) (record : IdempotencyRecord) : Db :=
  { db with idempotency :=
      Table.replace (fun row : IdempotencyRecord => (row.tenantId, row.key)) record db.idempotency }

/-- A case is inserted. -/
def addCase (db : Db) (case : IntakeCase) : Db :=
  { db with cases := db.cases ++ [case] }

/-- The row of a case is written. -/
def setCase (db : Db) (case : IntakeCase) : Db :=
  { db with cases := Table.replace IntakeCase.id case db.cases }

/-- A case event is inserted. -/
def addCaseEvent (db : Db) (event : CaseEvent) : Db :=
  { db with caseEvents := db.caseEvents ++ [event] }

/-- An artifact is inserted. -/
def addArtifact (db : Db) (artifact : JobArtifact) : Db :=
  { db with artifacts := db.artifacts ++ [artifact] }

/-! ## Reading rows -/

/-- A job by its identifier and tenant. -/
def job? (db : Db) (jobId tenantId : Uuid) : Option AgentJob :=
  db.jobs.find? fun job => job.id = jobId ∧ job.tenantId = tenantId

/-- The approval of a job. -/
def approvalOf? (db : Db) (jobId tenantId : Uuid) : Option Approval :=
  db.approvals.find? fun approval => approval.jobId = some jobId ∧ approval.tenantId = tenantId

/-- The idempotency record of a job. -/
def idempotencyOf? (db : Db) (jobId tenantId : Uuid) : Option IdempotencyRecord :=
  db.idempotency.find? fun record => record.tenantId = tenantId ∧ record.jobId = some jobId

/-- `CaseRepository.get_for_tenant`, with or without the row lock. -/
def case? (db : Db) (caseId tenantId : Uuid) : Option IntakeCase :=
  db.cases.find? fun case => case.id = caseId ∧ case.tenantId = tenantId

/-- `CaseRepository.get_customer_for_tenant`. -/
def customer? (db : Db) (customerId tenantId : Uuid) : Option Customer :=
  db.customers.find? fun customer => customer.id = customerId ∧ customer.tenantId = tenantId

/-- The artifact of a job and kind. -/
def artifact? (db : Db) (tenantId jobId : Uuid) (kind : ArtifactKind) : Option JobArtifact :=
  Table.lookup JobArtifact.key (tenantId, jobId, kind) db.artifacts

end Db

/-- A program in one database session. -/
abbrev Query (α : Type) := Session Db AppError α

end IntegraIntake
