import IntegraIntake.Approvals.Repository
import IntegraIntake.Cases.Repository

/-!
# Executing an approved action

`PostgresApprovalActionExecutor` of `app/tools/postgres.py`.  It runs in the
transaction of the decision.  The rows of the approval and its job are held by
the caller, so what the executor sets on them is returned with its result and
written by the decision; every other write goes to the session.
-/

namespace IntegraIntake

open Library

/-- What the modelled services take from outside: the leaf checks on field
values, the decoder of a stored document and the resolver of a stored profile. -/
structure Services where
  checks : ValueChecks
  decodeDocument : Json → Option NormalizedDocument
  /-- `resolve_persisted_profile`; `none` stands for the exceptions it raises,
  all of which its callers here treat alike. -/
  resolvePersistedProfile : Json → String → Option (TenantConfig × Option CompiledTenantProfile)

namespace ApprovalExecutor

variable (services : Services)

/-- What a handler leaves: the case it set on the approval, and its result. -/
structure Handled where
  caseId : Option Uuid
  result : List (String × Json)

/-- `_find_customer`. -/
def findCustomer (approval : Approval) (values : FindCustomerArgs) : Query Handled := do
  let db ← Session.read
  let customer := findCustomerForTenant approval.tenantId values.email values.externalId db
  pure ⟨approval.caseId, [("found", .bool customer.isSome),
    ("customer_id", optionJson (fun row => .str (uuidString row.id)) customer)]⟩

/-- `_source_from_job`. -/
def sourceFromJob (job : AgentJob) : Query TrustedSource :=
  Session.orRaise (.runtimeError "approved source snapshot is invalid")
    (trustedSourceFromSnapshot services.decodeDocument job.sourceSnapshot)

/-- The case that a reply draft names, when it names one. -/
def namedCase (approval : Approval) (caseId : Option Uuid) : Query (Option Uuid) :=
  match caseId with
  | none => pure approval.caseId
  | some caseId => do
    let db ← Session.read
    match db.case? caseId approval.tenantId with
    | none => Session.raise (.runtimeError "approved case is unavailable")
    | some case => pure (some case.id)

/-- What the two artifact handlers return. -/
def artifactResult (reference : ResultReference) : List (String × Json) :=
  [("result_reference", .obj [("kind", .str reference.kind.value),
    ("id", .str (uuidString reference.id))]), ("persisted", .bool true)]

/-- `_create_reply_draft`. -/
def createReplyDraft (newId : Uuid) (approval : Approval) (job : AgentJob) (action : PendingAction)
    (values : CreateReplyDraftArgs) : Query Handled := do
  let caseId ← namedCase approval values.caseId
  let source ← sourceFromJob services job
  let reference ← createForJob newId approval.tenantId job.id .replyDraft
    (.obj [("recipient", optionJson .str ((action.knownFields.lookup "contact").bind Json.asStr?)),
      ("subject", .str (if source.subject = "" then "Intake reply" else source.subject)),
      ("body", .str "Reply draft generated for operator review.")])
  pure ⟨caseId, artifactResult reference⟩

/-- `_flag_for_review`. -/
def flagForReview (newId : Uuid) (approval : Approval) (job : AgentJob)
    (values : FlagForReviewArgs) : Query Handled := do
  let reference ← createForJob newId approval.tenantId job.id .reviewFlag
    (.obj [("reason", .str (if values.note.getD "" = "" then
      "Review requested for operator follow-up." else values.note.getD ""))])
  pure ⟨approval.caseId, artifactResult reference⟩

/-- What `_create_case` returns. -/
def caseResult (caseId : Uuid) (status : String) (fields : List String) : List (String × Json) :=
  [("case_id", .str (uuidString caseId)), ("status", .str status),
    ("accepted_fields", .arr ((sortedSet fields).map .str))]

/-- `_create_case` when the job has no case yet. -/
def createNewCase (newId : Uuid) (approval : Approval) (job : AgentJob) (action : PendingAction)
    (values : CreateCaseArgs) (record : IdempotencyRecord) : Query Handled := do
  let db ← Session.read
  if values.customerId.any fun customerId => (db.customer? customerId approval.tenantId).isNone then
    Session.raise (.runtimeError "approved customer is unavailable")
  else
    let source ← sourceFromJob services job
    -- the primary key of `intake_cases`
    if db.cases.any fun case => case.id = newId then Session.raise .integrityError
    else
      Session.write fun db =>
        ((db.addCase (caseFromSource newId approval.tenantId source values.customerId
          action.knownFields)).addCaseEvent (createdEvent approval.tenantId newId)).setIdempotency
          { record with caseId := some newId }
      pure ⟨some newId, caseResult newId "received" (dictKeys action.knownFields)⟩

/-- `_create_case`. -/
def createCase (newId : Uuid) (approval : Approval) (job : AgentJob) (action : PendingAction)
    (values : CreateCaseArgs) : Query Handled := do
  let db ← Session.read
  match db.idempotencyOf? job.id approval.tenantId with
  | none => Session.raise (.runtimeError "approval job idempotency record is unavailable")
  | some record =>
    match record.caseId with
    | none => createNewCase services newId approval job action values record
    | some caseId =>
      match db.case? caseId approval.tenantId with
      | none => Session.raise (.runtimeError "approved case is unavailable")
      | some existing => pure ⟨some existing.id,
          caseResult existing.id existing.status (dictKeys existing.extractedFields)⟩

/-- `_update_case_fields`. -/
def updateCaseFields (approval : Approval) (action : PendingAction)
    (values : UpdateCaseFieldsArgs) : Query Handled := do
  let db ← Session.read
  match db.case? values.caseId approval.tenantId with
  | none => Session.raise (.runtimeError "approved case is unavailable")
  | some case =>
    Session.write fun db => (db.setCase (mergedCase action.knownFields case)).addCaseEvent
      (fieldsUpdatedEvent approval.tenantId case.id action.knownFields)
    pure ⟨some case.id, [("case_id", .str (uuidString case.id)),
      ("updated_fields", .arr ((sortedSet (dictKeys action.knownFields)).map .str))]⟩

/-- The handler of an action, on its validated arguments. -/
def handle (newId : Uuid) (approval : Approval) (job : AgentJob) (action : PendingAction) :
    ToolArgs → Query Handled
  | .findCustomer values => findCustomer approval values
  | .createCase values => createCase services newId approval job action values
  | .updateCaseFields values => updateCaseFields approval action values
  | .createReplyDraft values => createReplyDraft services newId approval job action values
  | .flagForReview values => flagForReview newId approval job values

/-- The rows and the result of an executed action. -/
structure Executed where
  approval : Approval
  job : AgentJob
  result : Json

/-- `execute`; `job` is the row it locks, which the decision has locked before. -/
def execute (newId : Uuid) (approval : Approval) (job : AgentJob) (action : PendingAction)
    (now : Timestamp) : Query Executed :=
  if job.status ≠ .awaitingApproval ∨ approval.tenantConfigSha256 ≠ some job.tenantConfigSha256 ∨
      approval.action ≠ action.name then
    Session.raise (.runtimeError "approval trusted job is unavailable")
  else match requireAction action.name with
    | none => Session.raise (.runtimeError "approval action is not registered")
    | some capability =>
      if action.version ≠ capability.pendingActionVersion then
        Session.raise (.runtimeError "approval action version is unavailable")
      else match ToolArgs.modelValidate capability.key action.arguments with
        | .error _ => Session.raise (.runtimeError "approved action arguments are invalid")
        | .ok arguments => do
          let handled ← handle services newId approval job action arguments
          pure {
            approval := { approval with caseId := handled.caseId }
            job := { job with sideEffectCommittedAt :=
              if capability.commitsSideEffect then some now else job.sideEffectCommittedAt }
            result := .obj handled.result }

end ApprovalExecutor
end IntegraIntake
