import IntegraIntake.Agent.Runs
import IntegraIntake.Library.Simulation

/-!
# Runs over two ports

If the operations of one port follow those of another, so do the handlers, the
executor and the loop over them: the run sees of a port what its operations answer,
and nothing else.
-/

namespace IntegraIntake

open Library Session

variable {σ τ π ε : Type}

/-- The operations of one port follow those of the other, as a run calls them. -/
structure PortsFollow (runtime : TrustedToolRuntimeContext) (R : World σ → World τ → Prop)
    (lost : World σ → Prop) (left : TenantToolPort σ) (right : TenantToolPort τ) : Prop where
  handler : ∀ key : ActionKey, Follows R lost Eq
    (Session.write fun world => { world with log := world.log ++ [.handler key] } :
      Session (World σ) HandlerError Unit)
    (Session.write fun world => { world with log := world.log ++ [.handler key] })
  findCustomer : ∀ email externalId, Follows R lost Eq
    (callPort .findCustomer HandlerError.port
      (left.findCustomer runtime.tenantId email externalId))
    (callPort .findCustomer HandlerError.port
      (right.findCustomer runtime.tenantId email externalId))
  createCase : ∀ source customerId fields, Follows R lost Eq
    (callPort .createCase HandlerError.port
      (left.createCase runtime.tenantId source customerId fields))
    (callPort .createCase HandlerError.port
      (right.createCase runtime.tenantId source customerId fields))
  updateCaseFields : ∀ caseId fields, Follows R lost Eq
    (callPort .updateCaseFields HandlerError.port
      (left.updateCaseFields runtime.tenantId caseId fields))
    (callPort .updateCaseFields HandlerError.port
      (right.updateCaseFields runtime.tenantId caseId fields))
  caseExists : ∀ caseId, Follows R lost Eq
    (callPort .caseExists HandlerError.port (left.caseExists runtime.tenantId caseId))
    (callPort .caseExists HandlerError.port (right.caseExists runtime.tenantId caseId))
  /-- Of an approval only the identifier is read. -/
  requestApproval : ∀ action policyReason, Follows R lost (fun a b => a.id = b.id)
    (callPort .requestApproval ExecuteError.port
      (left.requestApproval runtime.tenantId action policyReason))
    (callPort .requestApproval ExecuteError.port
      (right.requestApproval runtime.tenantId action policyReason))
  createReplyDraft : ∀ recipient subject body, Follows R lost Eq
    (callPort .createReplyDraft HandlerError.port
      (left.createReplyDraft runtime.tenantId runtime.jobId recipient subject body))
    (callPort .createReplyDraft HandlerError.port
      (right.createReplyDraft runtime.tenantId runtime.jobId recipient subject body))
  flagForReview : ∀ reason, Follows R lost Eq
    (callPort .flagForReview HandlerError.port
      (left.flagForReview runtime.tenantId runtime.jobId reason))
    (callPort .flagForReview HandlerError.port
      (right.flagForReview runtime.tenantId runtime.jobId reason))

namespace PortsFollow

variable {checks : ValueChecks} {runtime : TrustedToolRuntimeContext}
  {R : World σ → World τ → Prop} {lost : World σ → Prop} {left : TenantToolPort σ}
  {right : TenantToolPort τ} {proposal : AgentProposal}

/-! ## Handlers -/

theorem replyCaseExists (h : PortsFollow runtime R lost left right)
    (values : CreateReplyDraftArgs) :
    Follows R lost Eq (replyCaseExists left runtime values)
      (IntegraIntake.replyCaseExists right runtime values) := by
  unfold IntegraIntake.replyCaseExists
  cases values.caseId with
  | none => exact .pure rfl
  | some caseId => exact h.caseExists caseId

theorem updateCaseFieldsHandler (h : PortsFollow runtime R lost left right)
    (values : UpdateCaseFieldsArgs) :
    Follows R lost Eq (updateCaseFieldsHandler checks left proposal runtime values)
      (IntegraIntake.updateCaseFieldsHandler checks right proposal runtime values) := by
  refine (h.updateCaseFields _ _).bind_eq fun updated => ?_
  cases updated with
  | none => exact .raise _
  | some result => exact .pure rfl

theorem createReplyDraftHandler (h : PortsFollow runtime R lost left right)
    (values : CreateReplyDraftArgs) :
    Follows R lost Eq (createReplyDraftHandler checks left proposal runtime values)
      (IntegraIntake.createReplyDraftHandler checks right proposal runtime values) := by
  refine (h.replyCaseExists values).bind_eq fun found => ?_
  cases found with
  | false => exact .raise _
  | true => exact (h.createReplyDraft _ _ _).bind_eq fun _ => .pure rfl

theorem createCaseHandler (h : PortsFollow runtime R lost left right) (values : CreateCaseArgs) :
    Follows R lost Eq (createCaseHandler checks left proposal runtime values)
      (IntegraIntake.createCaseHandler checks right proposal runtime values) := by
  unfold IntegraIntake.createCaseHandler
  cases runtime.source with
  | none => exact .raise _
  | some source => exact (h.createCase _ _ _).bind_eq fun _ => .pure rfl

theorem invokeHandler (h : PortsFollow runtime R lost left right) (key : ActionKey)
    (arguments : ToolArgs) :
    Follows R lost Eq (invokeHandler checks left proposal runtime key arguments)
      (IntegraIntake.invokeHandler checks right proposal runtime key arguments) := by
  refine (h.handler key).bind_eq fun _ => ?_
  cases arguments with
  | findCustomer values => exact (h.findCustomer _ _).bind_eq fun _ => .pure rfl
  | createCase values => exact h.createCaseHandler values
  | updateCaseFields values => exact h.updateCaseFieldsHandler values
  | createReplyDraft values => exact h.createReplyDraftHandler values
  | flagForReview values => exact (h.flagForReview _).bind_eq fun _ => .pure rfl

/-! ## The executor -/

theorem checkCancelled (n : ℕ) :
    Follows R lost Eq (checkCancelled runtime n : Session (World σ) ExecuteError Unit)
      (IntegraIntake.checkCancelled runtime n) := by
  unfold IntegraIntake.checkCancelled
  split
  · exact .raise _
  · exact .pure rfl

/-- What `execute` makes of the end of a handler. -/
def handlerResult (policy : PolicyOutcome) (capability : ActionCapability) :
    Except HandlerError Json → ToolExecutionResult
  | .ok data => withEvidence data .continue_ none (some capability.key.name) policy true
      capability.commitsSideEffect
  | .error (.stop outcome) => stoppedResult outcome .completed capability policy
  | .error (.port .customerNotFound) =>
    stoppedResult "customer_not_found" .completed capability policy
  | .error (.port .other) => stoppedResult "tool_execution_failed" .failed capability policy

/-- Every end of a handler becomes a result. -/
theorem handlerBranch_eq (port : TenantToolPort σ) (policy : PolicyOutcome)
    (capability : ActionCapability) (arguments : ToolArgs)
    (hcancelled : ¬ runtime.cancelled 1 = true) :
    IntegraIntake.handlerBranch checks port runtime proposal policy capability arguments =
      fun world => (.ok (handlerResult policy capability
        (IntegraIntake.invokeHandler checks port proposal runtime capability.key arguments
          world).1),
        (IntegraIntake.invokeHandler checks port proposal runtime capability.key arguments
          world).2) := by
  funext world
  rw [IntegraIntake.handlerBranch, if_neg hcancelled]
  split <;> rename_i heq <;> rw [heq] <;> rfl

theorem handlerBranch (h : PortsFollow runtime R lost left right) (policy : PolicyOutcome)
    (capability : ActionCapability) (arguments : ToolArgs) :
    Follows R lost Eq
      (IntegraIntake.handlerBranch checks left runtime proposal policy capability arguments)
      (IntegraIntake.handlerBranch checks right runtime proposal policy capability arguments) := by
  by_cases hcancelled : runtime.cancelled 1 = true
  · unfold IntegraIntake.handlerBranch
    simp only [if_pos hcancelled]
    exact .pure rfl
  · rw [handlerBranch_eq left policy capability arguments hcancelled,
      handlerBranch_eq right policy capability arguments hcancelled]
    have hhandler : Follows R lost Eq
        (IntegraIntake.invokeHandler checks left proposal runtime capability.key arguments)
        (IntegraIntake.invokeHandler checks right proposal runtime capability.key arguments) :=
      h.invokeHandler capability.key arguments
    exact hhandler.outcome fun ended => .ok (handlerResult policy capability ended)

theorem requestApprovalBranch (h : PortsFollow runtime R lost left right) (policy : PolicyOutcome)
    (capability : ActionCapability) (arguments : ToolArgs) :
    Follows R lost Eq
      (requestApprovalBranch checks left runtime proposal policy capability arguments)
      (IntegraIntake.requestApprovalBranch checks right runtime proposal policy capability
        arguments) := by
  refine (checkCancelled 1).bind_eq fun _ => ?_
  refine (h.requestApproval _ _).bind (fun _ => .pure _) fun requested other hid => .pure ?_
  rw [hid]

theorem executeRegistered (h : PortsFollow runtime R lost left right) (call : ToolCall)
    (policy : PolicyOutcome) (capability : ActionCapability) :
    Follows R lost Eq (executeRegistered checks left runtime proposal call policy capability)
      (IntegraIntake.executeRegistered checks right runtime proposal call policy capability) := by
  unfold IntegraIntake.executeRegistered
  cases ToolArgs.modelValidate capability.key call.arguments with
  | error error =>
      cases error with
      | validation => exact .pure rfl
      | typeError => exact .raise _
  | ok arguments =>
      dsimp only
      split
      · exact h.requestApprovalBranch policy capability arguments
      · exact h.handlerBranch policy capability arguments

theorem executeDecided (h : PortsFollow runtime R lost left right) (call : ToolCall)
    (policy : PolicyOutcome) :
    Follows R lost Eq (executeDecided checks left runtime proposal call policy)
      (IntegraIntake.executeDecided checks right runtime proposal call policy) := by
  unfold IntegraIntake.executeDecided
  split
  · exact .pure rfl
  · exact .pure rfl
  · exact .raise _
  · exact h.executeRegistered call policy _

theorem execute (h : PortsFollow runtime R lost left right) (call : ToolCall) :
    Follows R lost Eq (execute checks left runtime proposal call)
      (IntegraIntake.execute checks right runtime proposal call) :=
  (checkCancelled 0).bind_eq fun _ => h.executeDecided call _

theorem executeTerminal :
    Follows R lost Eq
      (executeTerminal checks runtime proposal : Session (World σ) ExecuteError ToolExecutionResult)
      (IntegraIntake.executeTerminal checks runtime proposal) :=
  (checkCancelled 0).bind_eq fun _ => .pure rfl

end PortsFollow

/-! ## The loop -/

/-- The operations of one executor follow those of the other. -/
structure ExecutorsFollow (R : σ → τ → Prop) (lost : σ → Prop) (left : ToolExecutor σ ε)
    (right : ToolExecutor τ ε) : Prop where
  execute : ∀ step proposal call, Follows R lost Eq (left.execute step proposal call)
    (right.execute step proposal call)
  evaluateTerminal : ∀ step proposal, Follows R lost Eq (left.evaluateTerminal step proposal)
    (right.evaluateTerminal step proposal)

theorem PortsFollow.executors {runtime : TrustedToolRuntimeContext}
    {R : World σ → World τ → Prop} {lost : World σ → Prop} {left : TenantToolPort σ}
    {right : TenantToolPort τ} (h : PortsFollow runtime R lost left right) (checks : ValueChecks)
    (cancelled : ℕ → ℕ → Bool) :
    ExecutorsFollow R lost (policyGatedToolExecutor checks left runtime cancelled)
      (policyGatedToolExecutor checks right runtime cancelled) := by
  -- the operations read no cancellation of the runtime
  have hstep : ∀ step, PortsFollow (runtime.atStep cancelled step) R lost left right := fun _ =>
    ⟨h.handler, h.findCustomer, h.createCase, h.updateCaseFields, h.caseExists, h.requestApproval,
      h.createReplyDraft, h.flagForReview⟩
  exact ⟨fun step _ call => ((hstep step).execute call).bind_eq fun _ => .pure rfl,
    fun _ _ => PortsFollow.executeTerminal.bind_eq fun _ => .pure rfl⟩

namespace AgentLoop

variable {R : σ → τ → Prop} {lost : σ → Prop} {left : ToolExecutor σ ε} {right : ToolExecutor τ ε}
  {llm : LLMClient π}

theorem answeredTurn_follows (h : ExecutorsFollow R lost left right) (state : State)
    (proposal : AgentProposal) :
    Follows R lost Eq (answeredTurn left state proposal) (answeredTurn right state proposal) := by
  unfold answeredTurn
  split
  · exact (h.evaluateTerminal _ _).bind_eq fun _ => .pure rfl
  · split
    · exact .pure rfl
    · unfold toolTurn
      split
      · exact .pure rfl
      · exact (h.execute _ _ _).bind_eq fun _ => .pure rfl

theorem turn_follows (h : ExecutorsFollow R lost left right) (state : State) :
    Follows R lost Eq (turn llm left state) (turn llm right state) := by
  unfold turn
  cases llm state.messages with
  | error error => exact .raise _
  | ok proposal => exact (answeredTurn_follows h _ proposal).mapError RunError.tools

/-- The loops follow each other, turn by turn. -/
theorem loop_follows (h : ExecutorsFollow R lost left right) (turns : ℕ) (state : State) :
    Follows R lost Eq (loop llm left turns state) (loop llm right turns state) := by
  induction turns generalizing state with
  | zero => exact .pure rfl
  | succ turns ih =>
      refine (turn_follows h state).bind_eq fun outcome => ?_
      cases outcome with
      | goesOn next => exact ih next
      | ends result => exact .pure rfl

theorem run_follows (h : ExecutorsFollow R lost left right) (steps : ℕ)
    (messages : List AgentMessage) :
    Follows R lost Eq (run llm left steps messages) (run llm right steps messages) :=
  loop_follows h _ _

end AgentLoop
end IntegraIntake
