import IntegraIntake.Library.Session
import IntegraIntake.Tenants.Routing

/-!
# Policy-gated execution of tools

`app/tools/executor.py`.  The port is any implementation of `TenantToolPort`
over a state `σ` of its own.  The executor runs over that state together with
the log of what it invoked, a handler or an operation of the port, so that a
result can say which effects a call may have had.
-/

namespace IntegraIntake

open Library

/-! ## The port -/

/-- `CustomerSummary`. -/
structure CustomerSummary where
  id : String
  externalId : Option String
  name : Option String
  email : Option String
  phone : Option String

/-- `CreatedCase`. -/
structure CreatedCase where
  id : String
  status : String
  acceptedFields : List String

/-- `UpdatedCase`. -/
structure UpdatedCase where
  id : String
  updatedFields : List String

/-- `ApprovalRequested`. -/
structure ApprovalRequested where
  id : Uuid
  expiresAt : Timestamp

/-- The exceptions of a port operation: the one the executor knows, and any other. -/
inductive PortError where
  | customerNotFound
  | other
  deriving DecidableEq, Repr

/-- The values of the validated fields, as the port receives them. -/
abbrev FieldValues := List (String × ProposalValueData)

/-- `TenantToolPort` over a state `σ`. -/
structure TenantToolPort (σ : Type) where
  findCustomer (tenantId : Uuid) (email externalId : Option String) :
    Session σ PortError (Option CustomerSummary)
  createCase (tenantId : Uuid) (source : TrustedSource) (customerId : Option Uuid)
    (fields : FieldValues) : Session σ PortError CreatedCase
  updateCaseFields (tenantId caseId : Uuid) (fields : FieldValues) :
    Session σ PortError (Option UpdatedCase)
  caseExists (tenantId caseId : Uuid) : Session σ PortError Bool
  requestApproval (tenantId : Uuid) (action : PendingAction) (policyReason : PolicyReason) :
    Session σ PortError ApprovalRequested
  createReplyDraft (tenantId : Uuid) (jobId : Option Uuid) (recipient : Option String)
    (subject body : String) : Session σ PortError ResultReference
  flagForReview (tenantId : Uuid) (jobId : Option Uuid) (reason : String) :
    Session σ PortError ResultReference

/-- The operations of the port. -/
inductive PortOperation where
  | findCustomer | createCase | updateCaseFields | caseExists | requestApproval
  | createReplyDraft | flagForReview
  deriving DecidableEq, Repr

/-- What the executor invoked. -/
inductive Invocation where
  | handler (key : ActionKey)
  | port (operation : PortOperation)
  deriving DecidableEq, Repr

/-- The port's state and the invocations so far. -/
structure World (σ : Type) where
  state : σ
  log : List Invocation

/-- What a handler can raise: `_ToolExecutionStop`, or what the port raises. -/
inductive HandlerError where
  | stop (outcome : String)
  | port (error : PortError)
  deriving DecidableEq

/-- What `execute` itself can raise. -/
inductive ExecuteError where
  /-- The `RuntimeError` of `_check_cancelled`. -/
  | cancelled
  /-- The assertion that an allowed action has a registered tool. -/
  | assertion
  /-- The `TypeError` of `_parse_uuid`. -/
  | argumentType
  /-- What `request_approval` raised. -/
  | port (error : PortError)
  deriving DecidableEq

variable {σ α ε : Type}

/-- Call an operation of the port and log the call. -/
def callPort (operation : PortOperation) (raising : PortError → ε) (call : Session σ PortError α) :
    Session (World σ) ε α := fun world =>
  match call world.state with
  | (.ok a, next) => (.ok a, ⟨next, world.log ++ [.port operation]⟩)
  | (.error error, next) => (.error (raising error), ⟨next, world.log ++ [.port operation]⟩)

/-! ## Handlers -/

section Handlers

variable (checks : ValueChecks) (port : TenantToolPort σ) (proposal : AgentProposal)
  (runtime : TrustedToolRuntimeContext)

/-- `_customer_data`. -/
def customerData (summary : Option CustomerSummary) : Json :=
  .obj [("found", .bool summary.isSome),
    ("customer", optionJson (fun customer => .obj [("id", .str customer.id),
      ("external_id", optionJson .str customer.externalId), ("name", optionJson .str customer.name),
      ("email", optionJson .str customer.email), ("phone", optionJson .str customer.phone)])
      summary)]

/-- `_recomputed_missing_required_fields`. -/
def recomputedMissingRequiredFields : List String :=
  match proposal.intakeType.bind runtime.tenantConfig.findIntake with
  | none => []
  | some intake => missingFields intake
      (dictKeys (validateProposalFields checks proposal runtime).values)

/-- What `create_reply_draft` and `flag_for_review` return. -/
def persistedReference (reference : ResultReference) : Json :=
  .obj [("result_reference", .obj [("kind", .str reference.kind.value),
    ("id", .str (uuidString reference.id))]), ("persisted", .bool true)]

/-- `_find_customer`. -/
def findCustomerHandler (values : FindCustomerArgs) : Session (World σ) HandlerError Json := do
  let summary ← callPort .findCustomer .port
    (port.findCustomer runtime.tenantId values.email values.externalId)
  pure (customerData summary)

/-- `_create_case`. -/
def createCaseHandler (values : CreateCaseArgs) : Session (World σ) HandlerError Json :=
  match runtime.source with
  | none => Session.raise (.stop "trusted_source_unavailable")
  | some source => do
    let created ← callPort .createCase .port (port.createCase runtime.tenantId source
      values.customerId (validateProposalFields checks proposal runtime).values)
    pure (.obj [("id", .str created.id), ("status", .str created.status),
      ("accepted_fields", .arr (created.acceptedFields.map .str))])

/-- `_update_case_fields`. -/
def updateCaseFieldsHandler (values : UpdateCaseFieldsArgs) :
    Session (World σ) HandlerError Json := do
  let updated ← callPort .updateCaseFields .port (port.updateCaseFields runtime.tenantId
    values.caseId (validateProposalFields checks proposal runtime).values)
  match updated with
  | none => Session.raise (.stop "case_not_found")
  | some result =>
    pure (.obj [("id", .str result.id), ("updated_fields", .arr (result.updatedFields.map .str))])

/-- The recipient of a reply draft: the validated `contact`, when it is an
e-mail field of the profile. -/
def replyRecipient : Option String :=
  match runtime.tenantConfig.field? "contact" with
  | none => none
  | some definition =>
    if definition.type = .email then
      ((validateProposalFields checks proposal runtime).values.lookup "contact").bind
        ProposalValueData.str?
    else none

/-- The body of a reply draft. -/
def replyBody : String :=
  let missing := ", ".intercalate (recomputedMissingRequiredFields checks proposal runtime)
  if missing = "" then proposal.rationaleShort
  else proposal.rationaleShort ++ " Missing information: " ++ missing ++ "."

/-- The look at the case a reply draft names. -/
def replyCaseExists (values : CreateReplyDraftArgs) : Session (World σ) HandlerError Bool :=
  match values.caseId with
  | none => pure true
  | some caseId => callPort .caseExists .port (port.caseExists runtime.tenantId caseId)

/-- `_create_reply_draft`. -/
def createReplyDraftHandler (values : CreateReplyDraftArgs) :
    Session (World σ) HandlerError Json := do
  let found ← replyCaseExists port runtime values
  if found = false then Session.raise (.stop "case_not_found")
  else
    let reference ← callPort .createReplyDraft .port (port.createReplyDraft runtime.tenantId
      runtime.jobId (replyRecipient checks proposal runtime)
      ((runtime.source.map TrustedSource.subject).getD "Intake reply draft")
      (replyBody checks proposal runtime))
    pure (persistedReference reference)

/-- `_flag_for_review`; an empty note gives way to the rationale. -/
def flagForReviewHandler (values : FlagForReviewArgs) : Session (World σ) HandlerError Json := do
  let note := values.note.getD ""
  let reference ← callPort .flagForReview .port (port.flagForReview runtime.tenantId runtime.jobId
    (if note = "" then proposal.rationaleShort else note))
  pure (persistedReference reference)

/-- `definition.handler`, with its invocation logged. -/
def invokeHandler (key : ActionKey) (arguments : ToolArgs) : Session (World σ) HandlerError Json :=
  Session.write (fun world => { world with log := world.log ++ [.handler key] }) >>= fun _ =>
    match arguments with
    | .findCustomer values => findCustomerHandler port runtime values
    | .createCase values => createCaseHandler checks port proposal runtime values
    | .updateCaseFields values => updateCaseFieldsHandler checks port proposal runtime values
    | .createReplyDraft values => createReplyDraftHandler checks port proposal runtime values
    | .flagForReview values => flagForReviewHandler port proposal runtime values

end Handlers

/-! ## The executor -/

/-- `_tool_outcome`. -/
def toolOutcome (data : Json) : OutcomeCode :=
  match data with
  | .null => .noResult
  | _ =>
    match (data.get? "outcome").bind Json.asStr? with
    | none => .executed
    | some raw =>
      if raw = "tool_arguments_invalid" then .invalidArguments
      else if raw = "customer_not_found" ∨ raw = "case_not_found" then .notFound
      else if raw = "tool_execution_failed" then .backendFailure
      else (OutcomeCode.ofString? raw).getD .executed

/-- `_result_reference`. -/
def resultReference (data : Json) : Option ResultReference := do
  let raw ← data.get? "result_reference"
  let kind ← ResultKind.ofString? (← (← raw.get? "kind").asStr?)
  let id ← PyString.parseUuid (← (← raw.get? "id").asStr?)
  some ⟨kind, id⟩

/-- A result with its evidence, as `_with_evidence` completes it. -/
def withEvidence (data : Json) (disposition : ToolExecutionDisposition)
    (finalResponse : Option String) (actionKey : Option String) (policy : PolicyOutcome)
    (toolExecuted sideEffectCommitted : Bool) : ToolExecutionResult where
  data := data
  disposition := disposition
  finalResponse := finalResponse
  resultReference := resultReference data
  evidence := {
    actionKey := actionKey
    policyDecision := policy.decision
    routingStatus := policy.status
    policyReason := policy.reason
    missingRequiredFields := sortedSet policy.missingRequiredFields
    toolOutcome := if toolExecuted then some (toolOutcome data) else none
    sideEffectCommitted := sideEffectCommitted }

/-- A terminal result whose data is only its outcome. -/
def stoppedResult (outcome : String) (disposition : ToolExecutionDisposition)
    (capability : ActionCapability) (policy : PolicyOutcome) : ToolExecutionResult :=
  withEvidence (.obj [("outcome", .str outcome)]) disposition (some outcome)
    (some capability.key.name) policy true false

section Execute

variable (checks : ValueChecks) (port : TenantToolPort σ) (runtime : TrustedToolRuntimeContext)

/-- The actions the executor passes to the policy as registered. -/
def TrustedToolRuntimeContext.registeredActions (runtime : TrustedToolRuntimeContext) :
    List String :=
  match runtime.compiledProfile with
  | some compiled => compiled.registeredActions
  | none => registryKeys

/-- The `PolicyInput` that `execute` builds. -/
def policyInput (proposal : AgentProposal) (call : ToolCall) : PolicyInput where
  proposal := proposal
  requestedAction := call.name
  requiresCompleteFields := ((requireAction call.name).map (·.requiresCompleteFields)).getD false
  registeredActions := runtime.registeredActions
  runtime := runtime
  verifiedPresentFields := some (dictKeys (validateProposalFields checks proposal runtime).values)
  invalidFields := (validateProposalFields checks proposal runtime).invalidFields

/-- `_check_cancelled`, the n-th time it is called. -/
def checkCancelled (n : ℕ) : Session (World σ) ExecuteError Unit :=
  if runtime.cancelled n = true then Session.raise .cancelled else pure ()

/-- `_pending_action`. -/
def pendingAction (proposal : AgentProposal) (capability : ActionCapability)
    (arguments : ToolArgs) : PendingAction where
  version := capability.pendingActionVersion
  name := capability.key.name
  arguments := arguments.modelDump
  knownFields := (validateProposalFields checks proposal runtime).values.map fun field =>
    (field.1, field.2.toJson)

/-- The branch of `execute` that asks for an approval. -/
def requestApprovalBranch (proposal : AgentProposal) (policy : PolicyOutcome)
    (capability : ActionCapability) (arguments : ToolArgs) :
    Session (World σ) ExecuteError ToolExecutionResult := do
  checkCancelled runtime 1
  let requested ← callPort .requestApproval .port (port.requestApproval runtime.tenantId
    (pendingAction checks runtime proposal capability arguments) policy.reason)
  pure (withEvidence
    (.obj (policy.asToolData ++ [("approval_id", .str (uuidString requested.id))]))
    .completed (some "approval_requested") (some capability.key.name) policy false false)

/-- The branch of `execute` that runs the handler; every exception in it,
cancellation included, becomes a result. -/
def handlerBranch (proposal : AgentProposal) (policy : PolicyOutcome)
    (capability : ActionCapability) (arguments : ToolArgs) :
    Session (World σ) ExecuteError ToolExecutionResult := fun world =>
  if runtime.cancelled 1 = true then
    (.ok (stoppedResult "tool_execution_failed" .failed capability policy), world)
  else match invokeHandler checks port proposal runtime capability.key arguments world with
    | (.ok data, next) => (.ok (withEvidence data .continue_ none (some capability.key.name) policy
        true capability.commitsSideEffect), next)
    | (.error (.stop outcome), next) =>
        (.ok (stoppedResult outcome .completed capability policy), next)
    | (.error (.port .customerNotFound), next) =>
        (.ok (stoppedResult "customer_not_found" .completed capability policy), next)
    | (.error (.port .other), next) =>
        (.ok (stoppedResult "tool_execution_failed" .failed capability policy), next)

/-- `execute` for a registered action that the policy does not deny. -/
def executeRegistered (proposal : AgentProposal) (call : ToolCall) (policy : PolicyOutcome)
    (capability : ActionCapability) : Session (World σ) ExecuteError ToolExecutionResult :=
  match ToolArgs.modelValidate capability.key call.arguments with
  | .error .validation =>
    pure (stoppedResult "tool_arguments_invalid" .completed capability policy)
  | .error .typeError => Session.raise .argumentType
  | .ok arguments =>
    if policy.decision = .needsApproval then
      requestApprovalBranch checks port runtime proposal policy capability arguments
    else handlerBranch checks port runtime proposal policy capability arguments

/-- `execute`, once the policy has decided. -/
def executeDecided (proposal : AgentProposal) (call : ToolCall) (policy : PolicyOutcome) :
    Session (World σ) ExecuteError ToolExecutionResult :=
  match policy.decision, requireAction call.name with
  | .deny, definition => pure (withEvidence (.obj policy.asToolData) .completed
      (some policy.reason.value) (definition.map fun _ => call.name) policy false false)
  | .needsApproval, none => pure (withEvidence (.obj policy.asToolData) .completed
      (some policy.reason.value) none policy false false)
  | .allow, none => Session.raise .assertion
  | _, some capability => executeRegistered checks port runtime proposal call policy capability

/-- `PolicyGatedToolExecutor.execute`. -/
def execute (proposal : AgentProposal) (call : ToolCall) :
    Session (World σ) ExecuteError ToolExecutionResult := do
  checkCancelled runtime 0
  executeDecided checks port runtime proposal call
    (evaluate (policyInput checks runtime proposal call))

/-- `PolicyGatedToolExecutor.evaluate_terminal`. -/
def executeTerminal (proposal : AgentProposal) :
    Session (World σ) ExecuteError ToolExecutionResult := do
  checkCancelled runtime 0
  let policy := evaluateTerminal { policyInput checks runtime proposal ⟨"", []⟩ with
    requiresCompleteFields := true }
  pure (withEvidence (.obj (policy.asToolData ++ [("business_outcome", .str "routing_only")]))
    .completed (some (if policy.reason = .safetyOrLegalRisk then "review_required"
      else policy.reason.value)) none policy false false)

end Execute

end IntegraIntake
