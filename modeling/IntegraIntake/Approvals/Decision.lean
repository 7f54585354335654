import IntegraIntake.Approvals.Executor

/-!
# Deciding an approval

`ApprovalDecisionService.decide` of `app/domain/approvals.py`: one transaction
under the lock of the approval row, and one exception, `ApprovalExpired`, that
is raised only after that transaction has committed.
-/

namespace IntegraIntake

open Library

/-- What an operator decides. -/
inductive Decision where
  | approve | reject
  deriving DecidableEq, Repr

/-- `ApprovalDecisionRequest`; the stored reason is the stripped one. -/
structure DecisionRequest where
  decision : Decision
  reason : String
  reason_valid : PyString.isBlank reason = false

/-- `AuthenticatedOperator`. -/
structure Operator where
  tenantId : Uuid
  actorRef : String

/-- `ApprovalDecisionResponse`. -/
structure DecisionResponse where
  approvalId : Uuid
  status : ApprovalStatus
  action : String
  decidedAt : Timestamp
  caseId : Option Uuid
  executed : Bool
  deriving DecidableEq

namespace ApprovalDecision

open ApprovalRepository

variable (services : Services)

/-- `_is_same_final_decision`. -/
def isSameFinalDecision (approval : Approval) (decision : Decision) : Bool :=
  match approval.status with
  | .approved => decision = .approve
  | .rejected => decision = .reject
  | .expired => decision = .reject
  | _ => false

/-- `_response`. -/
def response (approval : Approval) : Except AppError DecisionResponse :=
  match approval.decidedAt with
  | none => .error (.approvalDecisionConflict "approval decision timestamp is missing")
  | some decidedAt => .ok ⟨approval.id, approval.status, approval.action, decidedAt,
      approval.caseId, approval.executedAt.isSome⟩

/-- Lift a check into the session. -/
def ofExcept {α : Type} : Except AppError α → Query α
  | .ok a => pure a
  | .error error => Session.raise error

/-- What the transaction of `decide` ends with: a response, or the note that an
approve came too late. -/
inductive Verdict where
  | response (value : DecisionResponse)
  | expired
  deriving DecidableEq

/-- The branch for an approval at or past its deadline. -/
def expireBranch (approval : Approval) (job : AgentJob) (request : DecisionRequest)
    (now : Timestamp) : Query Verdict := do
  let expired ← expireLocked approval now
  finalizeJob expired job now
  match request.decision with
  | .reject => do
    let value ← ofExcept (response expired)
    pure (.response value)
  | .approve => pure .expired

/-- The row of a rejected approval. -/
def rejectedRow (operator : Operator) (request : DecisionRequest) (now : Timestamp)
    (approval : Approval) : Approval :=
  { approval with
    status := .rejected
    decidedAt := some now
    decidedByActorRef := some operator.actorRef
    decisionReason := some (PyString.strip request.reason)
    decision :=
      .obj [("decision", .str "reject"), ("reason", .str (PyString.strip request.reason))] }

/-- The branch that rejects. -/
def rejectBranch (approval : Approval) (job : AgentJob) (operator : Operator)
    (request : DecisionRequest) (now : Timestamp) : Query Verdict := do
  let rejected := rejectedRow operator request now approval
  Session.write fun db => (db.setApproval rejected).addApprovalEvent
    ⟨approval.tenantId, approval.id, .rejected, some operator.actorRef, .obj []⟩
  finalizeJob rejected job now
  let value ← ofExcept (response rejected)
  pure (.response value)

/-- The checks of the frozen command before it is executed. -/
def approvableAction (approval : Approval) (pending : Json)
    (profile : TenantConfig × Option CompiledTenantProfile) : Except AppError PendingAction :=
  match PendingAction.modelValidate pending with
  | none => .error (.approvalDecisionConflict "approval action is invalid")
  | some action =>
    if action.name ≠ approval.action then
      .error (.approvalDecisionConflict "approval action is invalid")
    else match requireAction action.name with
      | none => .error (.approvalDecisionConflict "approval action is invalid")
      | some capability =>
        if action.version ≠ capability.pendingActionVersion then
          .error (.approvalDecisionConflict "approval action is invalid")
        else match ToolArgs.modelValidate capability.key action.arguments with
          | .error .validation => .error (.approvalDecisionConflict "approval action is invalid")
          | .error .typeError => .error .typeError
          | .ok _ =>
            if !(profile.2.any fun compiled => compiled.availableActions.contains action.name) then
              .error (.approvalDecisionConflict "approval action is no longer authorized")
            else
              let validated :=
                validateFrozenFields services.checks action.knownFields profile.1 none
              if validated.invalidFields ≠ [] ∨
                  sortedSet (dictKeys validated.values) ≠ sortedSet (dictKeys action.knownFields)
              then .error (.approvalDecisionConflict "approval known fields are no longer valid")
              else .ok action

/-- The row of an approved and executed approval. -/
def approvedRow (operator : Operator) (request : DecisionRequest) (now : Timestamp)
    (executed : ApprovalExecutor.Executed) : Approval :=
  { executed.approval with
    status := .approved
    decidedAt := some now
    decidedByActorRef := some operator.actorRef
    decisionReason := some (PyString.strip request.reason)
    executedAt := some now
    executionResult := some executed.result
    decision := .obj [("decision", .str "approve"),
      ("reason", .str (PyString.strip request.reason))] }

/-- The branch that executes the frozen command. -/
def approveBranch (newId : Uuid) (approval : Approval) (pending : Json) (job : AgentJob)
    (profile : TenantConfig × Option CompiledTenantProfile) (operator : Operator)
    (request : DecisionRequest) (now : Timestamp) : Query Verdict := do
  let action ← ofExcept (approvableAction services approval pending profile)
  let executed ← ApprovalExecutor.execute services newId approval job action now
  let approved := approvedRow operator request now executed
  Session.write fun db => ((db.setApproval approved).addApprovalEvent
    ⟨approval.tenantId, approval.id, .approved, some operator.actorRef, .obj []⟩).addApprovalEvent
    ⟨approval.tenantId, approval.id, .actionExecuted, some operator.actorRef,
      .obj [("action", .str approval.action), ("executed", .bool true)]⟩
  finalizeJob approved executed.job now
  let value ← ofExcept (response approved)
  pure (.response value)

/-- The body of the transaction, once the job is locked and its profile
resolved. -/
def decideResolved (newId : Uuid) (approval : Approval) (pending : Json) (deadline : Timestamp)
    (job : AgentJob) (profile : TenantConfig × Option CompiledTenantProfile) (operator : Operator)
    (request : DecisionRequest) (now : Timestamp) : Query Verdict :=
  if approval.status.isFinal then
    if isSameFinalDecision approval request.decision then do
      let value ← ofExcept (response approval)
      pure (.response value)
    else Session.raise (.approvalDecisionConflict "approval already decided")
  else if approval.status ≠ .pending then
    Session.raise (.approvalDecisionConflict "approval state is not decidable")
  else if deadline ≤ now then expireBranch approval job request now
  else match request.decision with
    | .reject => rejectBranch approval job operator request now
    | .approve => approveBranch services newId approval pending job profile operator request now

/-- The body of the transaction, once the approval row is locked. -/
def decideLocked (newId : Uuid) (approval : Approval) (operator : Operator)
    (request : DecisionRequest) (now : Timestamp) : Query Verdict :=
  match approval.jobId, approval.pendingAction, approval.tenantConfigSha256,
      approval.expiresAt with
  | some jobId, some pending, some _, some deadline => do
    let db ← Session.read
    match db.job? jobId approval.tenantId with
    | none => Session.raise (.approvalDecisionConflict "approval job is unavailable")
    | some job =>
      match services.resolvePersistedProfile job.tenantConfigSnapshot job.tenantConfigSha256 with
      | none => Session.raise (.approvalDecisionConflict "approval trusted profile is unavailable")
      | some profile =>
        decideResolved services newId approval pending deadline job profile operator request now
  | _, _, _, _ => Session.raise (.approvalDecisionConflict "legacy approval is not executable")

/-- The statements of `decide`, from the one that locks the approval row. -/
def decideBody (newId approvalId : Uuid) (operator : Operator) (request : DecisionRequest)
    (now : Timestamp) : Query Verdict := do
  let db ← Session.read
  match getForTenant approvalId operator.tenantId db with
  | none => Session.raise .approvalNotFound
  | some approval => decideLocked services newId approval operator request now

/-- The transaction of `decide`. -/
def decideTransaction (newId approvalId : Uuid) (operator : Operator) (request : DecisionRequest)
    (now : Timestamp) : Query Verdict :=
  Session.transaction (decideBody services newId approvalId operator request now)

/-- What the caller sees of a committed verdict. -/
def report : Verdict → Query DecisionResponse
  | .response value => pure value
  | .expired => Session.raise (.approvalExpired "approval expired")

/-- What is left of `decide` once it holds the approval row. -/
def decideHolding (newId : Uuid) (approval : Approval) (operator : Operator)
    (request : DecisionRequest) (now : Timestamp) : Query DecisionResponse := do
  let verdict ← Session.transaction (decideLocked services newId approval operator request now)
  report verdict

/-- `ApprovalDecisionService.decide`. -/
def decide (newId approvalId : Uuid) (operator : Operator) (request : DecisionRequest)
    (now : Timestamp) : Query DecisionResponse := do
  let verdict ← decideTransaction services newId approvalId operator request now
  report verdict

end ApprovalDecision
end IntegraIntake
