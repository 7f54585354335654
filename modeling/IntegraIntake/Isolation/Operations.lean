import IntegraIntake.Isolation.Port
import IntegraIntake.Lifecycle.Machine

/-!
# Tenant isolation

The operations of a tenant, as the API, the inbound webhook and the worker's
port perform them, and what they have in common: whatever identifiers they are
called with, they see and change the rows of their tenant only.
-/

namespace IntegraIntake

open Library

/-! ## The operations -/

/-- The calls of a tool port, with what they return. -/
inductive PortCall : Type → Type where
  | findCustomer (email externalId : Option String) : PortCall (Option CustomerSummary)
  | createCase (source : TrustedSource) (customerId : Option Uuid)
      (fields : FieldValues) : PortCall CreatedCase
  | updateCaseFields (caseId : Uuid) (fields : FieldValues) :
      PortCall (Option UpdatedCase)
  | caseExists (caseId : Uuid) : PortCall Bool
  | requestApproval (action : PendingAction) (policyReason : PolicyReason) :
      PortCall ApprovalRequested
  | createReplyDraft (jobId : Option Uuid) (recipient : Option String) (subject body : String) :
      PortCall ResultReference
  | flagForReview (jobId : Option Uuid) (reason : String) : PortCall ResultReference

/-- The call of the port's operation. -/
def PortCall.run {α : Type} (port : TenantToolPort Db) (tenantId : Uuid) :
    PortCall α → Session Db PortError α
  | findCustomer email externalId => port.findCustomer tenantId email externalId
  | createCase source customerId fields => port.createCase tenantId source customerId fields
  | updateCaseFields caseId fields => port.updateCaseFields tenantId caseId fields
  | caseExists caseId => port.caseExists tenantId caseId
  | requestApproval action policyReason => port.requestApproval tenantId action policyReason
  | createReplyDraft jobId recipient subject body =>
    port.createReplyDraft tenantId jobId recipient subject body
  | flagForReview jobId reason => port.flagForReview tenantId jobId reason

/-- What is done under a tenant, with the errors it raises and what it returns. -/
inductive TenantOperation (tenantId : Uuid) : Type → Type → Type 1 where
  | enqueue (resources : IntakeResources) (command : EnqueueIntakeCommand)
      (tenant_eq : command.tenantId = tenantId) (newId : Uuid) (now : Timestamp) :
      TenantOperation tenantId AppError EnqueueResult
  | enqueueDocument (resources : IntakeResources) (command : EnqueueDocumentIntakeCommand)
      (tenant_eq : command.tenantId = tenantId) (newId : Uuid) (now : Timestamp) :
      TenantOperation tenantId AppError EnqueueResult
  | readJob (jobId : Uuid) : TenantOperation tenantId AppError (Option PersistedJobRead)
  | createCase (newId : Uuid) (request : CreateCaseRequest) :
      TenantOperation tenantId AppError IntakeCase
  | readCase (caseId : Uuid) : TenantOperation tenantId AppError (Option IntakeCase)
  | readArtifact (artifactId : Uuid) : TenantOperation tenantId AppError (Option ArtifactRead)
  | getApproval (services : Services) (registry : ActionRegistry) (approvalId : Uuid) :
      TenantOperation tenantId AppError (Option ApprovalReviewRead)
  | listApprovals (services : Services) (registry : ActionRegistry) (status : ApprovalStatus)
      (limit : ℤ) : TenantOperation tenantId AppError ApprovalReviewPage
  | decideApproval (services : Services) (newId approvalId : Uuid) (operator : Operator)
      (tenant_eq : operator.tenantId = tenantId) (request : DecisionRequest) (now : Timestamp) :
      TenantOperation tenantId AppError DecisionResponse
  | callPort {α : Type} (context : PortContext) (call : PortCall α) :
      TenantOperation tenantId PortError α

namespace TenantOperation

variable {tenantId : Uuid} {ε α : Type}

/-- The operation as a program over the database. -/
def run : TenantOperation tenantId ε α → Session Db ε α
  | enqueue resources command _ newId now =>
    IntakeEnqueueService.enqueue resources command newId now
  | enqueueDocument resources command _ newId now =>
    IntakeEnqueueService.enqueueDocument resources command newId now
  | readJob jobId => Session.read >>= fun db =>
    Session.ofExcept (JobRead.getReadForTenant jobId tenantId db)
  | createCase newId request => CaseService.createCase newId tenantId request
  | readCase caseId => Session.read >>= fun db => pure (db.case? caseId tenantId)
  | readArtifact artifactId => Session.read >>= fun db => pure (getArtifact artifactId tenantId db)
  | getApproval services registry approvalId => Session.read >>= fun db =>
    Session.ofExcept (ApprovalReview.get services registry approvalId tenantId db)
  | listApprovals services registry status limit => Session.read >>= fun db =>
    Session.ofExcept (ApprovalReview.list services registry tenantId status limit db)
  | decideApproval services newId approvalId operator _ request now =>
    ApprovalDecision.decide services newId approvalId operator request now
  | callPort context call => call.run (postgresTenantToolPort context) tenantId

/-- The identifiers that the operation takes from `uuid4`. -/
def newIds : TenantOperation tenantId ε α → List Uuid
  | enqueue _ command _ newId _ => [newId, command.traceId]
  | enqueueDocument _ command _ newId _ => [newId, command.traceId]
  | createCase newId _ => [newId]
  | decideApproval _ newId _ _ _ _ _ => [newId]
  | callPort context _ => [context.newId]
  | _ => []

end TenantOperation

/-! ## Where identifiers come from -/

/-- The identifiers of the rows of a tenant, and new ones. -/
def OwnIds.of (view : Db) (newIds : List Uuid) : OwnIds where
  jobs := {id | id ∈ newIds ∨ ∃ job ∈ view.jobs, job.id = id}
  traces := {id | id ∈ newIds}
  approvals := {id | id ∈ newIds ∨ ∃ approval ∈ view.approvals, approval.id = id}
  cases := {id | id ∈ newIds ∨ ∃ case ∈ view.cases, case.id = id}
  artifacts := {id | id ∈ newIds}

section Separated

variable {db : Db} {tenantId : Uuid} {newIds : List Uuid}

end Separated

/-! ## Isolation -/

section Isolation

variable {own : OwnIds} {tenantId : Uuid} {ε α : Type}

theorem TenantToolPort.Isolated.call {port : TenantToolPort Db} (h : port.Isolated own tenantId)
    (call : PortCall α) : TenantIsolated own tenantId (call.run port tenantId) := by
  cases call with
  | findCustomer email externalId => exact h.findCustomer email externalId
  | createCase source customerId fields => exact h.createCase source customerId fields
  | updateCaseFields caseId fields => exact h.updateCaseFields caseId fields
  | caseExists caseId => exact h.caseExists caseId
  | requestApproval action policyReason => exact h.requestApproval action policyReason
  | createReplyDraft jobId recipient subject body =>
      exact h.createReplyDraft jobId recipient subject body
  | flagForReview jobId reason => exact h.flagForReview jobId reason

/-- A read that answers or raises from what it has read. -/
theorem TenantIsolated.ofExcept (answer : Db → Except ε α)
    (h : ∀ db : Db, answer (db.ofTenant tenantId) = answer db) :
    TenantIsolated own tenantId (Session.read >>= fun db => Session.ofExcept (answer db)) :=
  .read_bind (fun _ _ _ _ hown => congrArg Session.ofExcept (Db.read_congr h hown))
    fun _ _ => .ofExcept _

end Isolation

/-! A port call that names the case of another tenant. -/

end IntegraIntake
