import IntegraIntake.Approvals.Executor
import IntegraIntake.Tools.Registry

/-!
# Reviewing approvals

`ApprovalReviewService` of `app/domain/approvals.py`: what an operator is shown
of an approval before deciding it.  The projection checks the frozen command a
third time, after the executor that froze it and before the decision, to say
whether it is `executable`.
-/

namespace IntegraIntake

open Library

namespace ApprovalRepository

/-- `get_job_observation_identity`: the profile snapshot of the approval's job and
its hash. -/
def getJobObservationIdentity (approval : Approval) (db : Db) : Option (Json × String) :=
  (joinedJob db approval).bind fun job =>
    match job.tenantConfigSnapshot with
    | .obj members => some (.obj members, job.tenantConfigSha256)
    | _ => none

/-- The order of `list_for_tenant`; approvals without a deadline come last. -/
def reviewOrder (approval : Approval) : Bool ×ₗ ℤ ×ₗ ℕ :=
  toLex (approval.expiresAt.isNone, toLex (approval.expiresAt.getD 0, approval.id))

/-- `list_for_tenant`. -/
def listForTenant (tenantId : Uuid) (status : ApprovalStatus) (limit : ℕ) (db : Db) :
    List Approval :=
  ((db.approvals.filter fun approval => approval.tenantId = tenantId ∧ approval.status = status ∧
      publishedLifecycle approval (joinedJob db approval)).insertionSort
    fun left right => reviewOrder left ≤ reviewOrder right).take (limit + 1)

end ApprovalRepository

/-- `ArtifactRepository.get_for_tenant`. -/
def Db.artifactForTenant? (db : Db) (artifactId tenantId : Uuid) : Option JobArtifact :=
  db.artifacts.find? fun artifact => artifact.id = artifactId ∧ artifact.tenantId = tenantId

/-- `ApprovalReviewRead`. -/
structure ApprovalReviewRead where
  approvalId : Uuid
  jobId : Option Uuid
  action : Option String
  caseId : Option Uuid
  validatedFields : List (String × ProposalValueData)
  policyReason : Option PolicyReason
  expiresAt : Option Timestamp
  status : ApprovalStatus
  resultReference : List (String × String)
  executable : Bool
  decidedAt : Option Timestamp

/-- `ApprovalReviewPage`. -/
structure ApprovalReviewPage where
  items : List ApprovalReviewRead
  limit : ℕ
  hasMore : Bool

namespace ApprovalReview

open ApprovalRepository

/-- `_safe_action_name`: the pattern `[a-z][a-z0-9_]{0,99}`. -/
def safeActionName (value : String) : Option String :=
  if PyString.isIdentifier 99 value then some value else none

/-- The members of `PolicyReason`. -/
def policyReasons : List PolicyReason :=
  [.safetyOrLegalRisk, .unknownIntakeType, .missingRequiredFields, .invalidFieldValues,
    .actionNotConfigured, .actionNotExecutable, .actionNotAllowed, .approvalRequired,
    .actionAllowed, .noActionRequested, .documentUnreadable]

/-- `_safe_policy_reason`. -/
def safePolicyReason (value : Option String) : Option PolicyReason :=
  value.bind fun text => policyReasons.find? fun reason => reason.value == text

/-- The artifact that the execution result of an approval refers to. -/
def referredArtifact (approval : Approval) (db : Db) : Option JobArtifact := do
  let reference ← (← approval.executionResult).get? "result_reference"
  let kind ← (← reference.get? "kind").asStr?
  guard (["case", "reply_draft", "review_flag"].contains kind)
  let artifactId ← PyString.parseUuid (← (← reference.get? "id").asStr?)
  let jobId ← approval.jobId
  guard (["reply_draft", "review_flag"].contains kind)
  let artifact ← db.artifactForTenant? artifactId approval.tenantId
  guard (artifact.jobId = jobId ∧ artifact.kind.resultKind.value = kind)
  some artifact

/-- `_safe_result_reference`. -/
def safeResultReference (approval : Approval) (db : Db) : List (String × String) :=
  match approval.caseId with
  | some caseId => [("case_id", uuidString caseId)]
  | none =>
    match referredArtifact approval db with
    | some artifact =>
      [("kind", artifact.kind.resultKind.value), ("id", uuidString artifact.id)]
    | none => []

/-- The frozen command of an approval, when it is one and has the approval's name. -/
def frozenCommand (approval : Approval) : Option PendingAction := do
  let action ← PendingAction.modelValidate (← approval.pendingAction)
  guard (action.name = approval.action)
  some action

variable (services : Services) (registry : ActionRegistry)

/-- The profile a projection checks the command against. -/
def reviewProfile (approval : Approval) (db : Db) :
    Option (TenantConfig × Option CompiledTenantProfile) :=
  (getJobObservationIdentity approval db).bind fun identity =>
    services.resolvePersistedProfile identity.1 identity.2

/-- The innermost branch of `_project`, where the fields were accepted and the
approval is pending.  Of the two exceptions that validating the arguments can
raise, the `TypeError` is not caught. -/
def projectExecutable (approval : Approval) (action : PendingAction)
    (compiled : Option CompiledTenantProfile) : Except AppError Bool :=
  match registry.require action.name with
  | none => .ok false
  | some capability =>
    match capability.argumentsModel action.arguments with
    | .error .validation => .ok false
    | .error .typeError => .error .typeError
    | .ok _ => .ok ((compiled.any fun profile => profile.availableActions.contains action.name) &&
        safeActionName approval.action = some action.name)

/-- The checks of `_project`: the validated fields and `executable`. -/
def projectCommand (approval : Approval) (db : Db) :
    Except AppError (List (String × ProposalValueData) × Bool) :=
  match frozenCommand approval with
  | none => .ok ([], false)
  | some action =>
    match reviewProfile services approval db with
    | none => .ok ([], false)
    | some profile =>
      let validation := validateFrozenFields services.checks action.knownFields profile.1 none
      if validation.invalidFields = [] ∧ approval.status = .pending then do
        let executable ← projectExecutable registry approval action profile.2
        .ok (validation.values, executable)
      else .ok (validation.values, false)

/-- `_project`; its callers have read a published approval. -/
def project (approval : Approval) (db : Db) : Except AppError ApprovalReviewRead := do
  let command ← projectCommand services registry approval db
  .ok {
    approvalId := approval.id
    jobId := approval.jobId
    action := safeActionName approval.action
    caseId := approval.caseId
    validatedFields := command.1
    policyReason := safePolicyReason approval.policyReason
    expiresAt := approval.expiresAt
    status := approval.status
    resultReference := safeResultReference approval db
    executable := command.2
    decidedAt := approval.decidedAt }

/-- `get`. -/
def get (approvalId tenantId : Uuid) (db : Db) : Except AppError (Option ApprovalReviewRead) :=
  match getForTenant approvalId tenantId db with
  | none => .ok none
  | some approval =>
    if approval.status.isPublic then (project services registry approval db).map some else .ok none

/-- `list`. -/
def list (tenantId : Uuid) (status : ApprovalStatus) (limit : ℤ) (db : Db) :
    Except AppError ApprovalReviewPage := do
  let bounded := (min (max limit 1) 100).toNat
  let rows := (listForTenant tenantId status bounded db).filter fun approval =>
    approval.status.isPublic
  let items ← (rows.take bounded).mapM fun approval => project services registry approval db
  .ok ⟨items, bounded, bounded < rows.length⟩

end ApprovalReview
end IntegraIntake
