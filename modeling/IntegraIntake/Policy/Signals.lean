import Mathlib.Logic.Relation
import Mathlib.Order.Basic
import IntegraIntake.Tools.ModelInput
import IntegraIntake.Tools.Requests

/-!
# What the model's signals can do

A proposal says more than what it asks for: how confident the model is, why, what
it thinks is missing, whether the text looks like an attack.  Two laws bound what
that can do.  Confidence, rationale and the list of missing fields reach neither
the policy nor the identifiers and fields in a call of the port
(`SameButSignals`).  The signals that the policy does read can only make its
decision stricter (`Raises`).
-/

namespace IntegraIntake

open Library

/-! ## The order of decisions -/

/-- How much a decision withholds. -/
def RoutingDecision.strictness : RoutingDecision → ℕ
  | .allow => 0
  | .needsApproval => 1
  | .deny => 2

theorem RoutingDecision.strictness_injective : Function.Injective RoutingDecision.strictness := by
  intro left right h
  cases left <;> cases right <;> first | rfl | cases h

/-- `ALLOW < NEEDS_APPROVAL < DENY`. -/
instance : LinearOrder RoutingDecision :=
  LinearOrder.lift' RoutingDecision.strictness RoutingDecision.strictness_injective

theorem RoutingDecision.le_iff {left right : RoutingDecision} :
    left ≤ right ↔ left.strictness ≤ right.strictness := Iff.rfl

theorem RoutingDecision.le_deny (decision : RoutingDecision) : decision ≤ .deny := by
  rw [RoutingDecision.le_iff]
  cases decision <;> decide

/-! ## Signals that the policy reads -/

namespace PolicyInput

/-- The assessment that `evaluate` hands to the router. -/
def assessment (value : PolicyInput) : RoutingAssessment where
  intakeType := value.proposal.intakeType.getD ""
  presentFields := value.presentFields
  containsSafetyOrLegalRisk := value.risky
  requestedAction := value.requestedAction
  requiresCompleteFields := value.requiresCompleteFields
  executableActions := value.registeredActions
  isCritical := value.proposal.priority = .critical

/-- One of the changes that ask for more caution. -/
inductive Raises : PolicyInput → PolicyInput → Prop
  | injection (value : PolicyInput) :
      Raises value { value with
        proposal := { value.proposal with containsInjectionOrOverrideAttempt := true } }
  | risk (value : PolicyInput) :
      Raises value { value with runtime := { value.runtime with safetyOrLegalRisk := true } }
  | critical (value : PolicyInput) :
      Raises value { value with proposal := { value.proposal with priority := .critical } }
  | unverify (value : PolicyInput) {names fewer : List String}
      (verified : value.verifiedPresentFields = some names) (subset : fewer ⊆ names) :
      Raises value { value with verifiedPresentFields := some fewer }
  | invalidate (value : PolicyInput) {more : List String} (subset : value.invalidFields ⊆ more) :
      Raises value { value with invalidFields := more }

/-- What all these changes have in common. -/
structure Stricter (value other : PolicyInput) : Prop where
  config_eq : other.runtime.tenantConfig = value.runtime.tenantConfig
  document_eq : other.document = value.document
  intake_eq : other.proposal.intakeType = value.proposal.intakeType
  action_eq : other.requestedAction = value.requestedAction
  complete_eq : other.requiresCompleteFields = value.requiresCompleteFields
  registered_eq : other.registeredActions = value.registeredActions
  present_subset : other.presentFields ⊆ value.presentFields
  invalid_subset : value.invalidFields ⊆ other.invalidFields
  risky_le : value.risky = true → other.risky = true
  critical_le : value.proposal.priority = .critical → other.proposal.priority = .critical

theorem Raises.stricter {value other : PolicyInput} (h : Raises value other) :
    Stricter value other := by
  cases h with
  | injection =>
      refine ⟨rfl, rfl, rfl, rfl, rfl, rfl, fun _ => id, fun _ => id, fun _ => ?_, id⟩
      exact Bool.or_true _
  | risk =>
      exact ⟨rfl, rfl, rfl, rfl, rfl, rfl, fun _ => id, fun _ => id, fun _ => rfl, id⟩
  | critical =>
      exact ⟨rfl, rfl, rfl, rfl, rfl, rfl, fun _ => id, fun _ => id, id, fun _ => rfl⟩
  | unverify hverified hsubset =>
      refine ⟨rfl, rfl, rfl, rfl, rfl, rfl, fun name hname => ?_, fun _ => id, id, id⟩
      unfold presentFields at hname ⊢
      rw [hverified]
      obtain ⟨hfewer, hknown⟩ := List.mem_filter.1 hname
      exact List.mem_filter.2 ⟨hsubset hfewer, hknown⟩
  | invalidate hsubset =>
      exact ⟨rfl, rfl, rfl, rfl, rfl, rfl, fun _ => id, hsubset, id, id⟩

variable {value other : PolicyInput}

theorem evaluate_eq (value : PolicyInput) :
    evaluate value =
      match value.document.filter fun document => document.extractionError.isSome with
      | some document => value.documentUnreadable document
      | none =>
        match value.intake with
        | none => ⟨.deny, .rejected, .unknownIntakeType, []⟩
        | some _ =>
          if value.invalidFields ≠ [] then
            ⟨.deny, .awaitingInput, .invalidFieldValues, sorted value.invalidFields⟩
          else route value.runtime.tenantConfig value.assessment := rfl

/-- What `evaluate` asks of its input before it is routed. -/
structure Admitted (value : PolicyInput) (intake : IntakeTypeConfig) : Prop where
  readable : value.document.filter (fun document => document.extractionError.isSome) = none
  intake_known : value.intake = some intake
  valid : value.invalidFields = []

theorem Admitted.evaluate_eq {intake : IntakeTypeConfig} (h : value.Admitted intake) :
    evaluate value = route value.runtime.tenantConfig value.assessment := by
  rw [PolicyInput.evaluate_eq, h.readable, h.intake_known]
  exact if_neg fun hinvalid => hinvalid h.valid

/-- Everything that is not denied was admitted. -/
theorem admitted_of_evaluate (h : (evaluate value).decision ≠ .deny) :
    ∃ intake, value.Admitted intake := by
  rw [evaluate_eq] at h
  cases hreadable : value.document.filter fun document => document.extractionError.isSome with
  | some document =>
      rw [hreadable] at h
      exact absurd rfl h
  | none =>
      rw [hreadable] at h
      cases hintake : value.intake with
      | none =>
          rw [hintake] at h
          exact absurd rfl h
      | some intake =>
          simp only [hintake] at h
          by_cases hvalid : value.invalidFields = []
          · exact ⟨intake, hreadable, hintake, hvalid⟩
          · rw [if_pos hvalid] at h
            exact absurd rfl h

theorem eq_nil_of_subset {names more : List String} (hsubset : names ⊆ more) (hmore : more = []) :
    names = [] :=
  List.eq_nil_of_subset_nil (hmore ▸ hsubset)

/-- What is admitted after a change was admitted before it. -/
theorem Stricter.admitted (h : Stricter value other) {intake : IntakeTypeConfig}
    (hother : other.Admitted intake) : value.Admitted intake where
  readable := h.document_eq ▸ hother.readable
  intake_known := by
    have hknown := hother.intake_known
    unfold PolicyInput.intake at hknown ⊢
    rwa [h.intake_eq, h.config_eq] at hknown
  valid := eq_nil_of_subset h.invalid_subset hother.valid

/-- An action that is eligible after a change was eligible before it. -/
theorem Stricter.eligible (h : Stricter value other) {intake : IntakeTypeConfig}
    {rule : ActionRule}
    (hother : other.assessment.Eligible other.runtime.tenantConfig intake rule) :
    value.assessment.Eligible value.runtime.tenantConfig intake rule := by
  obtain ⟨hintake, hcomplete, hrule, hexecutable, hregistered, hallowed⟩ := hother
  rw [h.config_eq] at hintake hrule
  refine ⟨?_, fun hrequired field hfield => ?_, ?_, hexecutable, ?_, hallowed⟩
  · show value.runtime.tenantConfig.findIntake (value.proposal.intakeType.getD "") = some intake
    rw [← h.intake_eq]
    exact hintake
  · have hrequired' : other.requiresCompleteFields = true := h.complete_eq.trans hrequired
    exact h.present_subset (hcomplete hrequired' field hfield)
  · show value.runtime.tenantConfig.rule? value.requestedAction = some rule
    rw [← h.action_eq]
    exact hrule
  · show value.requestedAction ∈ value.registeredActions
    rw [← h.action_eq, ← h.registered_eq]
    exact hregistered

/-- A reason to involve a human stays one. -/
theorem Stricter.needsHuman (h : Stricter value other) {rule : ActionRule}
    (hvalue : value.assessment.NeedsHuman value.runtime.tenantConfig rule) :
    other.assessment.NeedsHuman other.runtime.tenantConfig rule := by
  rcases hvalue with hrisk | halways | happroval | hcritical
  · exact .inl (h.risky_le hrisk)
  · refine .inr (.inl ?_)
    show other.requestedAction ∈ other.runtime.tenantConfig.routing.alwaysApprovalActions
    rw [h.action_eq, h.config_eq]
    exact halways
  · exact .inr (.inr (.inl happroval))
  · refine .inr (.inr (.inr ?_))
    exact decide_eq_true (h.critical_le (of_decide_eq_true hcritical))

theorem Stricter.evaluate_le (h : Stricter value other) :
    (evaluate value).decision ≤ (evaluate other).decision := by
  by_cases hdeny : (evaluate other).decision = .deny
  · rw [hdeny]
    exact RoutingDecision.le_deny _
  -- the changed input is admitted and eligible, so the one before it was
  obtain ⟨intake, hadmitted⟩ := admitted_of_evaluate hdeny
  rw [hadmitted.evaluate_eq] at hdeny ⊢
  obtain ⟨routed, rule, heligible⟩ := eligible_of_route hdeny
  rw [(h.admitted hadmitted).evaluate_eq]
  rcases route_of_eligible heligible with ⟨hneeds, -⟩ | ⟨hallows, hnone⟩
  · rw [hneeds]
    rcases route_of_eligible (h.eligible heligible) with ⟨hbefore, -⟩ | ⟨hbefore, -⟩
    · exact hbefore.le
    · rw [hbefore]
      decide
  · rcases route_of_eligible (h.eligible heligible) with ⟨-, hhuman⟩ | ⟨hbefore, -⟩
    · exact absurd (h.needsHuman hhuman) hnone
    · rw [hbefore, hallows]

theorem Stricter.evaluateTerminal_le (h : Stricter value other) :
    (evaluateTerminal value).decision ≤ (evaluateTerminal other).decision := by
  have hintake : other.intake = value.intake := by
    unfold PolicyInput.intake
    rw [h.intake_eq, h.config_eq]
  unfold evaluateTerminal
  rw [h.document_eq, hintake, h.complete_eq]
  split
  · exact RoutingDecision.le_deny _
  · split
    · exact le_rfl
    · rename_i intake _
      by_cases hinvalid : other.invalidFields = []
      · have hvalid := eq_nil_of_subset h.invalid_subset hinvalid
        simp only [hinvalid, hvalid, ne_eq, not_true_eq_false, if_false]
        by_cases hmissing : value.requiresCompleteFields = true ∧
            missingFields intake other.presentFields ≠ []
        · rw [if_pos hmissing]
          exact RoutingDecision.le_deny _
        · have hbefore : ¬ (value.requiresCompleteFields = true ∧
              missingFields intake value.presentFields ≠ []) := by
            rintro ⟨hrequired, hsome⟩
            refine hmissing ⟨hrequired, fun hnone => hsome ?_⟩
            have hall := missingFields_eq_nil_iff.1 hnone
            exact missingFields_eq_nil_iff.2 fun field hfield =>
              h.present_subset (hall field hfield)
          rw [if_neg hmissing, if_neg hbefore]
          by_cases hrisk : value.risky = true
          · rw [if_pos hrisk, if_pos (h.risky_le hrisk)]
          · rw [if_neg hrisk]
            exact RoutingDecision.le_iff.2 (Nat.zero_le _)
      · rw [if_pos hinvalid]
        exact RoutingDecision.le_deny _

/-- However many of the changes are made, no decision gets smaller. -/
theorem decision_le_of_raises (h : Relation.ReflTransGen Raises value other) :
    (evaluate value).decision ≤ (evaluate other).decision ∧
      (evaluateTerminal value).decision ≤ (evaluateTerminal other).decision := by
  induction h with
  | refl => exact ⟨le_rfl, le_rfl⟩
  | tail _ hstep ih =>
      have hstricter := hstep.stricter
      exact ⟨ih.1.trans hstricter.evaluate_le, ih.2.trans hstricter.evaluateTerminal_le⟩

end PolicyInput

/-! ## Signals that nothing reads -/

/-- Two proposals that differ only in their confidence, their rationale and the
fields they call missing. -/
structure SameButSignals (proposal other : AgentProposal) : Prop where
  intakeType_eq : proposal.intakeType = other.intakeType
  fields_eq : proposal.fields = other.fields
  priority_eq : proposal.priority = other.priority
  injection_eq : proposal.containsInjectionOrOverrideAttempt =
    other.containsInjectionOrOverrideAttempt
  toolCalls_eq : proposal.toolCalls = other.toolCalls

namespace SameButSignals

variable {proposal other : AgentProposal} (h : SameButSignals proposal other)
  (checks : ValueChecks) (runtime : TrustedToolRuntimeContext)

include h

theorem validateProposalFields_eq :
    validateProposalFields checks proposal runtime =
      validateProposalFields checks other runtime := by
  unfold validateProposalFields
  rw [h.fields_eq]

theorem policyInput_eq (call : ToolCall) :
    policyInput checks runtime other call =
      { policyInput checks runtime proposal call with proposal := other } := by
  unfold policyInput
  rw [h.validateProposalFields_eq]

theorem evaluate_eq (call : ToolCall) :
    evaluate (policyInput checks runtime proposal call) =
      evaluate (policyInput checks runtime other call) := by
  rw [h.policyInput_eq]
  simp only [evaluate, policyInput, PolicyInput.document, PolicyInput.documentUnreadable,
    PolicyInput.intake, PolicyInput.presentFields, PolicyInput.risky, h.intakeType_eq,
    h.priority_eq, h.injection_eq]
  rfl

theorem terminalPolicy_eq :
    terminalPolicy checks runtime proposal = terminalPolicy checks runtime other := by
  unfold terminalPolicy
  rw [h.policyInput_eq]
  simp only [evaluateTerminal, policyInput, PolicyInput.document, PolicyInput.documentUnreadable,
    PolicyInput.intake, PolicyInput.presentFields, PolicyInput.risky, h.intakeType_eq,
    h.injection_eq]
  rfl

variable {σ : Type} (port : TenantToolPort σ) (world : World (σ × List PortRequest))

/-- Each handler asks the port for the same. -/
theorem invokeHandler_requests (key : ActionKey) (arguments : ToolArgs) :
    (invokeHandler checks port.noting proposal runtime key arguments world).2.requests =
      (invokeHandler checks port.noting other runtime key arguments world).2.requests := by
  have hfields := h.validateProposalFields_eq checks runtime
  cases arguments with
  | findCustomer values => rfl
  | createCase values =>
      show (createCaseHandler checks port.noting proposal runtime values _).2.requests =
        (createCaseHandler checks port.noting other runtime values _).2.requests
      unfold createCaseHandler
      rw [hfields]
  | updateCaseFields values =>
      show (updateCaseFieldsHandler checks port.noting proposal runtime values _).2.requests =
        (updateCaseFieldsHandler checks port.noting other runtime values _).2.requests
      unfold updateCaseFieldsHandler
      rw [hfields]
  | createReplyDraft values =>
      show (createReplyDraftHandler checks port.noting proposal runtime values _).2.requests =
        (createReplyDraftHandler checks port.noting other runtime values _).2.requests
      have hrecipient : replyRecipient checks proposal runtime =
          replyRecipient checks other runtime := by
        unfold replyRecipient
        rw [hfields]
      unfold createReplyDraftHandler
      rw [Session.bind_run, Session.bind_run]
      -- up to here both runs are the same; the bodies of the drafts may differ
      split
      · split
        · rfl
        · rw [bind_requests fun _ => .pure _, bind_requests fun _ => .pure _, hrecipient]
          exact (callPort_requests _).trans (callPort_requests _).symm
      · rfl
  | flagForReview values =>
      show (flagForReviewHandler port.noting proposal runtime values _).2.requests =
        (flagForReviewHandler port.noting other runtime values _).2.requests
      unfold flagForReviewHandler
      rw [bind_requests fun _ => .pure _, bind_requests fun _ => .pure _]
      exact (callPort_requests _).trans (callPort_requests _).symm

theorem handlerBranch_requests (policy : PolicyOutcome) (capability : ActionCapability)
    (arguments : ToolArgs) :
    (handlerBranch checks port.noting runtime proposal policy capability arguments
        world).2.requests =
      (handlerBranch checks port.noting runtime other policy capability arguments
        world).2.requests := by
  have hbranch : ∀ sent : AgentProposal,
      (handlerBranch checks port.noting runtime sent policy capability arguments
          world).2.requests =
        if runtime.cancelled 1 = true then world.requests
        else (invokeHandler checks port.noting sent runtime capability.key arguments
          world).2.requests := by
    intro sent
    unfold handlerBranch
    by_cases hcancelled : runtime.cancelled 1 = true
    · rw [if_pos hcancelled, if_pos hcancelled]
    · rw [if_neg hcancelled, if_neg hcancelled]
      split <;> rename_i heq <;> rw [heq]
  rw [hbranch, hbranch, h.invokeHandler_requests]

theorem executeRegistered_requests (call : ToolCall) (policy : PolicyOutcome)
    (capability : ActionCapability) :
    (executeRegistered checks port.noting runtime proposal call policy capability
        world).2.requests =
      (executeRegistered checks port.noting runtime other call policy capability
        world).2.requests := by
  have hpending : pendingAction checks runtime proposal = pendingAction checks runtime other := by
    unfold pendingAction
    rw [h.validateProposalFields_eq]
  unfold executeRegistered
  cases ToolArgs.modelValidate capability.key call.arguments with
  | error error => cases error <;> rfl
  | ok arguments =>
      by_cases hneeds : policy.decision = .needsApproval
      · simp only [if_pos hneeds]
        unfold requestApprovalBranch
        rw [hpending]
      · simp only [if_neg hneeds]
        exact h.handlerBranch_requests checks runtime port world policy capability arguments

/-- The policy is the same, so the same branch of `execute` is taken; the
command that is frozen for an approval is the same. -/
theorem execute_requests (call : ToolCall) :
    (execute checks port.noting runtime proposal call world).2.requests =
      (execute checks port.noting runtime other call world).2.requests := by
  have hdecided : ∀ (policy : PolicyOutcome) (working : World (σ × List PortRequest)),
      (executeDecided checks port.noting runtime proposal call policy working).2.requests =
        (executeDecided checks port.noting runtime other call policy working).2.requests := by
    intro policy working
    unfold executeDecided
    cases hdecision : policy.decision <;> cases hcapability : requireAction call.name
    case allow.some capability =>
      exact h.executeRegistered_requests checks runtime port working call policy capability
    case needsApproval.some capability =>
      exact h.executeRegistered_requests checks runtime port working call policy capability
    all_goals rfl
  unfold execute
  rw [h.evaluate_eq, Session.bind_run, Session.bind_run]
  split
  · exact hdecided _ _
  · rfl

end SameButSignals

/-- What the evidence of a result keeps of the policy's outcome. -/
def ToolExecutionEvidence.policy (evidence : ToolExecutionEvidence) :
    RoutingDecision × RoutingStatus × PolicyReason × List String :=
  (evidence.policyDecision, evidence.routingStatus, evidence.policyReason,
    evidence.missingRequiredFields)

theorem execute_policy {σ : Type} {checks : ValueChecks} {port : TenantToolPort σ}
    {runtime : TrustedToolRuntimeContext} {proposal : AgentProposal} {call : ToolCall}
    {world next : World σ} {result : ToolExecutionResult}
    (h : execute checks port runtime proposal call world = (.ok result, next)) :
    result.evidence.policy =
      ((evaluate (policyInput checks runtime proposal call)).decision,
        (evaluate (policyInput checks runtime proposal call)).status,
        (evaluate (policyInput checks runtime proposal call)).reason,
        sortedSet (evaluate (policyInput checks runtime proposal call)).missingRequiredFields) := by
  obtain ⟨hdecision, hstatus, hreason, hmissing⟩ := (executes_of_ok h).policy_eq
  unfold ToolExecutionEvidence.policy
  rw [hdecision, hstatus, hreason, hmissing]

/-- The model's signals never grant anything.  What it says about its confidence,
its reasons and what is missing changes neither the policy nor what is asked of
the port, and whatever raises concern makes no decision smaller. -/
theorem signals_never_grant {σ : Type} (checks : ValueChecks) (port : TenantToolPort σ)
    (runtime : TrustedToolRuntimeContext) (call : ToolCall) :
    (∀ proposal other : AgentProposal, SameButSignals proposal other →
        evaluate (policyInput checks runtime proposal call) =
            evaluate (policyInput checks runtime other call) ∧
          (∀ (world world' next next' : World σ) (result result' : ToolExecutionResult),
            execute checks port runtime proposal call world = (.ok result, next) →
            execute checks port runtime other call world' = (.ok result', next') →
            result.evidence.policy = result'.evidence.policy) ∧
          (∀ world : World σ, executeTerminal checks runtime proposal world =
            executeTerminal checks runtime other world) ∧
          ∀ world, (execute checks port.noting runtime proposal call world).2.requests =
            (execute checks port.noting runtime other call world).2.requests) ∧
      ∀ value other : PolicyInput, Relation.ReflTransGen PolicyInput.Raises value other →
        (evaluate value).decision ≤ (evaluate other).decision ∧
          (evaluateTerminal value).decision ≤ (evaluateTerminal other).decision := by
  refine ⟨fun proposal other h => ?_, fun value other h => PolicyInput.decision_le_of_raises h⟩
  have hevaluate := h.evaluate_eq checks runtime call
  refine ⟨hevaluate, fun world world' next next' result result' hfirst hsecond => ?_,
    fun world => ?_, fun world => h.execute_requests checks runtime port world call⟩
  · rw [execute_policy hfirst, execute_policy hsecond, hevaluate]
  · have hterminal := h.terminalPolicy_eq checks runtime
    unfold terminalPolicy at hterminal
    unfold executeTerminal
    rw [hterminal]

/-- The same reply, sure of nothing and with other reasons. -/
def unsureProposal : AgentProposal :=
  { replyProposal with
    confidence := 0
    confidence_bounded := by decide
    rationaleShort := "Nothing is certain."
    rationale_nonempty := by decide
    rationale_bounded := by decide }

/-- An unsure reply asks for the same draft, and one that looks like an attack is
no longer sent without approval. -/
theorem signals_never_grant_reply :
    SameButSignals replyProposal unsureProposal ∧
      (execute noChecks grantingPort.noting replyRuntime replyProposal ⟨"create_reply_draft", []⟩
          ⟨((), []), []⟩).2.requests =
        (execute noChecks grantingPort.noting replyRuntime unsureProposal
          ⟨"create_reply_draft", []⟩ ⟨((), []), []⟩).2.requests ∧
      (evaluate
        (policyInput noChecks replyRuntime replyProposal ⟨"create_reply_draft", []⟩)).decision ≤
        (evaluate { policyInput noChecks replyRuntime replyProposal ⟨"create_reply_draft", []⟩ with
          proposal := { replyProposal with
            containsInjectionOrOverrideAttempt := true } }).decision := by
  have hsame : SameButSignals replyProposal unsureProposal := ⟨rfl, rfl, rfl, rfl, rfl⟩
  have hlaw := signals_never_grant noChecks grantingPort replyRuntime ⟨"create_reply_draft", []⟩
  refine ⟨hsame, ?_, ?_⟩
  · exact (hlaw.1 replyProposal unsureProposal hsame).2.2.2 _
  · exact (hlaw.2 _ _ (.single (.injection _))).1

end IntegraIntake
