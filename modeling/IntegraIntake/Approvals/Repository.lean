import Mathlib.Data.List.Sort
import Mathlib.Data.Prod.Lex
import IntegraIntake.Database.Schema

/-!
# The approval repository

`app/domain/approval_repository.py`: requesting an approval for a running job,
publishing it to operators, expiring it and finishing the parked job it belongs
to.
-/

namespace IntegraIntake

open Library

namespace ApprovalRepository

/-! ## Requesting -/

/-- The event of a request or of its replacement. -/
def requestEvent (tenantId approvalId : Uuid) (eventType : ApprovalEventType) (action : String)
    (policyReason : String) : ApprovalEvent :=
  ⟨tenantId, approvalId, eventType, none,
    .obj [("action", .str action), ("policy_reason", .str policyReason)]⟩

/-- The new row of `create_for_running_job`. -/
def stagedRow (newId : Uuid) (job : AgentJob) (tenantId : Uuid) (action : PendingAction)
    (policyReason : String) (expiresAt : Timestamp) : Approval where
  id := newId
  tenantId := tenantId
  caseId := none
  jobId := some job.id
  action := action.name
  status := .staged
  decision := .obj []
  policyReason := some policyReason
  pendingAction := some action.modelDump
  tenantConfigSha256 := some job.tenantConfigSha256
  expiresAt := some expiresAt
  decidedAt := none
  decidedByActorRef := none
  decisionReason := none
  executedAt := none
  executionResult := some (.obj [])

/-- Whether a request differs from the staged one. -/
def requestDiffers (job : AgentJob) (existing : Approval) (action : PendingAction)
    (policyReason : String) : Bool :=
  existing.action ≠ action.name ∨
    (existing.pendingAction.elim true fun stored => !stored.pyEq action.modelDump) ∨
    existing.policyReason ≠ some policyReason ∨
    existing.tenantConfigSha256 ≠ some job.tenantConfigSha256

/-- The staged row with the command of a later request. -/
def replacedRow (job : AgentJob) (existing : Approval) (action : PendingAction)
    (policyReason : String) (deadline : Timestamp) : Approval :=
  { existing with
    action := action.name
    policyReason := some policyReason
    pendingAction := some action.modelDump
    tenantConfigSha256 := some job.tenantConfigSha256
    expiresAt := some deadline }

/-- The staged row with a new deadline. -/
def refreshedRow (existing : Approval) (deadline : Timestamp) : Approval :=
  { existing with expiresAt := some deadline }

/-- The branch of `create_for_running_job` for a job that has an approval: the
staged command is replaced when it differs, and the deadline is set anew. -/
def refreshStaged (job : AgentJob) (existing : Approval) (tenantId : Uuid) (action : PendingAction)
    (policyReason : String) (deadline : Timestamp) : Query (Uuid × Timestamp) :=
  if existing.pendingAction.isNone then
    Session.raise (.approvalCreationConflict "legacy approval cannot be reused")
  else if existing.expiresAt.isNone then
    Session.raise (.approvalCreationConflict "approval expiry is unavailable")
  else if existing.status ≠ .staged then
    Session.raise (.approvalCreationConflict "approval is already published")
  else if requestDiffers job existing action policyReason then do
    Session.write fun db =>
      (db.setApproval (replacedRow job existing action policyReason deadline)).addApprovalEvent
        (requestEvent tenantId existing.id .replaced action.name policyReason)
    pure (existing.id, deadline)
  else do
    Session.write (·.setApproval (refreshedRow existing deadline))
    pure (existing.id, deadline)

/-- The branch of `create_for_running_job` for a job without an approval. -/
def stageNew (newId : Uuid) (job : AgentJob) (tenantId : Uuid) (action : PendingAction)
    (policyReason : String) (deadline : Timestamp) : Query (Uuid × Timestamp) := do
  let db ← Session.read
  -- the primary key and `uq_approvals_job_id`
  if db.approvals.any fun approval => approval.id = newId ∨ approval.jobId = some job.id then
    Session.raise .integrityError
  else
    Session.write fun db =>
      (db.addApproval (stagedRow newId job tenantId action policyReason deadline)).addApprovalEvent
        (requestEvent tenantId newId .requested action.name policyReason)
    pure (newId, deadline)

/-- `create_for_running_job`; the result is the approval's identifier and
deadline. -/
def createForRunningJob (newId tenantId jobId : Uuid) (attemptCount : ℕ) (action : PendingAction)
    (policyReason : String) (expiresIn : ℤ) (now : Timestamp) : Query (Uuid × Timestamp) :=
  Session.transaction do
    let db ← Session.read
    match db.job? jobId tenantId with
    | none => Session.raise (.approvalCreationConflict "job is unavailable")
    | some job =>
      if ¬ (job.status = .running ∧ job.attemptCount = attemptCount) then
        Session.raise (.approvalCreationConflict "job is not running")
      else match db.approvalOf? jobId tenantId with
        | some existing => refreshStaged job existing tenantId action policyReason (now + expiresIn)
        | none => stageNew newId job tenantId action policyReason (now + expiresIn)

/-! ## Publishing -/

/-- `_published_lifecycle_predicate` of an approval and the job it is joined
with; on an outer join without a job every comparison with it fails. -/
def publishedLifecycle (approval : Approval) (job : Option AgentJob) : Bool :=
  (approval.jobId.isNone && approval.status.isPublic) ||
    (approval.status = .pending && job.map AgentJob.status = some .awaitingApproval) ||
    ((approval.status = .approved || approval.status = .rejected) &&
      job.map AgentJob.status = some .succeeded) ||
    (approval.status = .expired && job.map AgentJob.status = some .failed)

/-- The job an approval is joined with. -/
def joinedJob (db : Db) (approval : Approval) : Option AgentJob :=
  approval.jobId.bind fun jobId => db.job? jobId approval.tenantId

/-- `get_for_tenant_for_update`, and `get_for_tenant`, which differs in its lock. -/
def getForTenant (approvalId tenantId : Uuid) (db : Db) : Option Approval :=
  db.approvals.find? fun approval => approval.id = approvalId ∧ approval.tenantId = tenantId ∧
    publishedLifecycle approval (joinedJob db approval)

/-! ## Expiring and finishing -/

/-- The row as `expire_locked` leaves a pending approval. -/
def expiredRow (now : Timestamp) (approval : Approval) : Approval :=
  { approval with
    status := .expired
    decidedAt := some now
    decidedByActorRef := some "system_timeout"
    decisionReason := some "approval_timeout"
    decision := .obj [("decision", .str "reject"), ("reason", .str "approval_timeout")] }

/-- `expire_locked`: the row it leaves and the database with its writes. -/
def expireLocked (approval : Approval) (now : Timestamp) : Query Approval :=
  if approval.status ≠ .pending then pure approval
  else do
    Session.write fun db => (db.setApproval (expiredRow now approval)).addApprovalEvent
      ⟨approval.tenantId, approval.id, .expired, some "system_timeout", .obj []⟩
    pure (expiredRow now approval)

/-- What a final decision makes of the job: status, error code and outcome. -/
def decisionOutcome : ApprovalStatus → Option (JobStatus × Option WorkerErrorCode × String)
  | .approved => some (.succeeded, none, "tool_result")
  | .rejected => some (.succeeded, none, "approval_rejected")
  | .expired => some (.failed, some .approvalExpired, "approval_expired")
  | _ => none

/-- The keys of the agent's result that a decision keeps. -/
def preservedKeys : List String :=
  ["reason", "steps", "execution_path", "routing_status", "routing_reason",
    "missing_required_fields"]

/-- The case a decision refers to: the approval's own, or the one its execution
reported. -/
def decidedCase (approval : Approval) : Option Uuid :=
  match approval.caseId with
  | some caseId => some caseId
  | none => do
    let raw ← (← approval.executionResult).get? "case_id"
    PyString.parseUuid (← raw.asStr?)

/-- The result a decision writes to the job. -/
def decisionResult (approval : Approval) (job : AgentJob) (businessOutcome : String) : Json :=
  let preserved := preservedKeys.filterMap fun key =>
    (job.result.bind fun result => result.get? key).map fun value => (key, value)
  .obj (preserved ++ [("business_outcome", .str businessOutcome),
    ("approval_id", .str (uuidString approval.id)),
    ("approval_status", .str approval.status.value),
    ("result_reference", .obj (((decidedCase approval).map fun caseId =>
      ("case_id", Json.str (uuidString caseId))).toList))])

/-- The job row a decision writes. -/
def decidedRow (approval : Approval) (job : AgentJob) (now : Timestamp) (status : JobStatus)
    (errorCode : Option WorkerErrorCode) (businessOutcome : String) : AgentJob :=
  { job with
    status := status
    errorCode := errorCode.map WorkerErrorCode.value
    finishedAt := some now
    leaseExpiresAt := none
    result := some (decisionResult approval job businessOutcome) }

/-- Whether the job already carries the decision's result. -/
def alreadyDecided (approval : Approval) (job : AgentJob) : Bool :=
  (job.result.bind fun result => (result.get? "approval_id").bind Json.asStr?) =
      some (uuidString approval.id) &&
    (job.result.bind fun result => (result.get? "approval_status").bind Json.asStr?) =
      some approval.status.value

/-- `finalize_job_for_decision`: the job row it leaves. -/
def finalizeJobForDecision (approval : Approval) (job : AgentJob) (now : Timestamp) :
    Except AppError AgentJob :=
  match decisionOutcome approval.status with
  | none => .error (.approvalCreationConflict "approval decision is not final")
  | some (status, errorCode, businessOutcome) =>
    if job.status ≠ .awaitingApproval then
      -- a defensive retry after a committed decision
      if job.status = status ∧ alreadyDecided approval job then .ok job
      else .error (.approvalCreationConflict "approval job is not awaiting approval")
    else .ok (decidedRow approval job now status errorCode businessOutcome)

/-- `finalize_job_for_decision` with its write. -/
def finalizeJob (approval : Approval) (job : AgentJob) (now : Timestamp) : Query Unit :=
  match finalizeJobForDecision approval job now with
  | .error error => Session.raise error
  | .ok row => Session.write (·.setJob row)

/-- The rows `expire_due` selects, before its order and limit. -/
def expiryDue (now : Timestamp) (locked : Uuid → Bool) (db : Db) (approval : Approval) : Bool :=
  approval.status = .pending ∧ !locked approval.id ∧
    (approval.jobId = none ∨
      (joinedJob db approval).map AgentJob.status = some .awaitingApproval) ∧
    ∃ deadline ∈ approval.expiresAt, deadline ≤ now

/-- The order of `expire_due`. -/
def expiryOrder (approval : Approval) : ℤ ×ₗ ℕ :=
  toLex (approval.expiresAt.getD 0, approval.id)

/-- The statement of `expire_due`: the rows it locks. -/
def selectDue (now : Timestamp) (limit : ℕ) (locked : Uuid → Bool) (db : Db) : List Approval :=
  ((db.approvals.filter (expiryDue now locked db)).insertionSort
    fun left right => expiryOrder left ≤ expiryOrder right).take limit

/-- One turn of the loop in `expire_due`. -/
def expireOne (now : Timestamp) (approval : Approval) : Query Unit :=
  match approval.jobId with
  | none => do
    let _ ← expireLocked approval now
    pure ()
  | some jobId => do
    let db ← Session.read
    match db.job? jobId approval.tenantId with
    | none => Session.raise (.approvalCreationConflict "approval job is unavailable")
    | some job => do
      let expired ← expireLocked approval now
      finalizeJob expired job now

/-- `expire_due`. -/
def expireDue (now : Timestamp) (limit : ℕ) (locked : Uuid → Bool) : Query Unit :=
  Session.transaction do
    let db ← Session.read
    (selectDue now limit locked db).forM (expireOne now)

end ApprovalRepository
end IntegraIntake
