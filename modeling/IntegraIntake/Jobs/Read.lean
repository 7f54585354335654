import Mathlib.Data.List.Sort
import Mathlib.Data.Prod.Lex
import IntegraIntake.Database.Schema

/-!
# Reading a job

`JobRepository.get_read_for_tenant` and the part of `project_job_read` in
`app/domain/jobs.py` that decides whether a caller sees the job's approval.
-/

namespace IntegraIntake

open Library

/-- `PersistedJobRead`. -/
structure PersistedJobRead where
  jobId : Uuid
  traceId : Uuid
  status : JobStatus
  attemptCount : ℕ
  result : Option Json
  errorCode : Option String
  tenantConfigSnapshot : Json
  tenantConfigSha256 : String
  approval : Option (Uuid × ApprovalStatus)
  createdAt : Timestamp
  startedAt : Option Timestamp
  finishedAt : Option Timestamp
  resultReferences : List ResultReference

/-- `ApprovalRead`. -/
structure ApprovalRead where
  approvalId : Uuid
  status : ApprovalStatus
  deriving DecidableEq

namespace JobRead

/-- `isinstance(value, dict)`, with the value. -/
def asDict? : Json → Option Json
  | .obj members => some (.obj members)
  | _ => none

/-- The approvals that the outer join of `get_read_for_tenant` gives for a job. -/
def publicApprovals (job : AgentJob) (db : Db) : List Approval :=
  db.approvals.filter fun approval =>
    approval.jobId = some job.id ∧ approval.tenantId = job.tenantId ∧ approval.status.isPublic

/-- The artifacts of a job in the order of `get_read_for_tenant`. -/
def artifactsOf (jobId tenantId : Uuid) (db : Db) : List JobArtifact :=
  (db.artifacts.filter fun artifact =>
      artifact.tenantId = tenantId ∧ artifact.jobId = jobId).insertionSort
    fun left right => left.kind.resultKind.value < right.kind.resultKind.value ∨
      (left.kind = right.kind ∧ left.id ≤ right.id)

/-- The references to the case and the artifacts of a job. -/
def resultReferences (jobId tenantId : Uuid) (db : Db) : List ResultReference :=
  (((db.idempotencyOf? jobId tenantId).bind IdempotencyRecord.caseId).map
      (ResultReference.mk .case)).toList ++
    (artifactsOf jobId tenantId db).map fun artifact => ⟨artifact.kind.resultKind, artifact.id⟩

/-- The row that is read for a job joined with `approval`. -/
def persistedRow (job : AgentJob) (approval : Option Approval) (db : Db) : PersistedJobRead where
  jobId := job.id
  traceId := job.traceId
  status := job.status
  attemptCount := job.attemptCount
  result := job.result.bind asDict?
  errorCode := job.errorCode
  tenantConfigSnapshot := job.tenantConfigSnapshot
  tenantConfigSha256 := job.tenantConfigSha256
  approval := approval.map fun row => (row.id, row.status)
  createdAt := job.createdAt
  startedAt := job.startedAt
  finishedAt := job.finishedAt
  resultReferences := resultReferences job.id job.tenantId db

/-- `get_read_for_tenant`; `MultipleResultsFound` of `one_or_none` is an
`integrityError`. -/
def getReadForTenant (jobId tenantId : Uuid) (db : Db) :
    Except AppError (Option PersistedJobRead) :=
  match db.job? jobId tenantId with
  | none => .ok none
  | some job =>
    match publicApprovals job db with
    | _ :: _ :: _ => .error .integrityError
    | joined =>
      if (asDict? job.sourceSnapshot).isNone ∨ (asDict? job.tenantConfigSnapshot).isNone then
        .ok none
      else .ok (some (persistedRow job joined.head? db))

/-- `approval_state_matches` of `project_job_read`. -/
def approvalStateMatches (status : JobStatus) : ApprovalStatus → Bool
  | .pending => status = .awaitingApproval
  | .approved => status = .succeeded
  | .rejected => status = .succeeded
  | .expired => status = .failed
  | _ => false

/-- The `approval` of the `JobRead` that `project_job_read` returns. -/
def projectApproval (row : PersistedJobRead) : Option ApprovalRead :=
  match row.approval with
  | some (approvalId, status) =>
    if approvalStateMatches row.status status then some ⟨approvalId, status⟩ else none
  | none => none

end JobRead
end IntegraIntake
