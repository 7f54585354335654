import IntegraIntake.Library.Table
import IntegraIntake.Policy.Signals

/-!
# Two evaluations of one intake

`PolicyEngine.evaluate` leaves the required fields to `TenantRouter`, and
`evaluate_terminal` looks for them itself.  Both turn an intake away for the same
things: `obstacle` is what they find first, and an intake without one is decided by
its action, or by its risk alone if it asks for none.
-/

namespace IntegraIntake

open Library

/-! ## The dictionary of the router -/

/-- `TenantRouter._intake_types.get`: in a dictionary that is filled from the intake
types a later one replaces an earlier one of its name. -/
def TenantConfig.routerIntake (config : TenantConfig) (name : String) : Option IntakeTypeConfig :=
  config.intakeTypes.reverse.find? fun item => item.name == name

/-- Names are distinct, so the last intake type of a name is the first one. -/
theorem TenantConfig.routerIntake_eq (config : TenantConfig) (name : String) :
    config.routerIntake name = config.findIntake name := by
  have hunique : Table.Unique IntakeTypeConfig.name config.intakeTypes := config.intakeNames_nodup
  unfold routerIntake
  cases hfound : config.findIntake name with
  | none =>
      rw [List.find?_eq_none]
      intro item hitem
      exact List.find?_eq_none.1 hfound item (List.mem_reverse.1 hitem)
  | some intake =>
      have hunique' : Table.Unique IntakeTypeConfig.name config.intakeTypes.reverse := by
        rw [Table.Unique, List.map_reverse]
        exact List.nodup_reverse.2 hunique
      obtain ⟨hmem, hname⟩ := TenantConfig.findIntake_eq_some_iff.1 hfound
      refine hunique'.find?_eq (List.mem_reverse.2 hmem) ?_ fun other hother => ?_
      · rw [hname, beq_self_eq_true]
      · exact (beq_iff_eq.1 hother).trans hname.symm

/-! ## What turns an intake away -/

/-- The reasons that are about the intake and not about an action. -/
def PolicyReason.ofIntake : PolicyReason → Bool
  | .documentUnreadable | .unknownIntakeType | .invalidFieldValues | .missingRequiredFields => true
  | _ => false

/-- The intake is denied for one of these reasons. -/
def PolicyOutcome.TurnsAway (outcome : PolicyOutcome) : Prop :=
  outcome.decision = .deny ∧ outcome.reason.ofIntake = true

/-- An approval is asked for because of a safety or legal risk. -/
def PolicyOutcome.AsksForRisk (outcome : PolicyOutcome) : Prop :=
  outcome.decision = .needsApproval ∧ outcome.reason = .safetyOrLegalRisk

namespace PolicyInput

variable {value : PolicyInput}

/-- The first thing that is wrong with an intake whose fields have to be complete. -/
def obstacle (value : PolicyInput) : Option PolicyOutcome :=
  match value.document.filter fun document => document.extractionError.isSome with
  | some document => some (value.documentUnreadable document)
  | none =>
    match value.intake with
    | none => some ⟨.deny, .rejected, .unknownIntakeType, []⟩
    | some intake =>
      if value.invalidFields ≠ [] then
        some ⟨.deny, .awaitingInput, .invalidFieldValues, sorted value.invalidFields⟩
      else if missingFields intake value.presentFields ≠ [] then
        some ⟨.deny, .awaitingInput, .missingRequiredFields,
          missingFields intake value.presentFields⟩
      else none

theorem obstacle_turnsAway {outcome : PolicyOutcome} (h : value.obstacle = some outcome) :
    outcome.TurnsAway := by
  unfold obstacle at h
  split at h
  · cases h
    exact ⟨rfl, rfl⟩
  · split at h
    · cases h
      exact ⟨rfl, rfl⟩
    · split at h
      · cases h
        exact ⟨rfl, rfl⟩
      · split at h <;> cases h
        exact ⟨rfl, rfl⟩

/-- An intake without an obstacle is admitted, and none of its required fields is
missing. -/
theorem admitted_of_clear (h : value.obstacle = none) :
    ∃ intake, value.Admitted intake ∧ missingFields intake value.presentFields = [] := by
  unfold obstacle at h
  split at h
  · cases h
  · rename_i hreadable
    split at h
    · cases h
    · rename_i intake hintake
      split at h
      · cases h
      · rename_i hvalid
        split at h
        · cases h
        · rename_i hmissing
          exact ⟨intake, ⟨hreadable, hintake, not_not.1 hvalid⟩, not_not.1 hmissing⟩

/-- The router looks the intake of an admitted input up under its name. -/
theorem Admitted.findIntake {intake : IntakeTypeConfig} (h : value.Admitted intake) :
    value.runtime.tenantConfig.findIntake value.assessment.intakeType = some intake := by
  obtain ⟨name, hname, hfound⟩ := Option.bind_eq_some_iff.1 h.intake_known
  show value.runtime.tenantConfig.findIntake (value.proposal.intakeType.getD "") = some intake
  rw [hname]
  exact hfound

end PolicyInput

/-! ## The two evaluations -/

/-- The router names none of these reasons for a complete intake. -/
theorem route_of_complete {config : TenantConfig} {assessment : RoutingAssessment}
    {intake : IntakeTypeConfig} (hintake : config.findIntake assessment.intakeType = some intake)
    (hcomplete : missingFields intake assessment.presentFields = []) :
    (route config assessment).reason.ofIntake = false := by
  unfold route
  simp only [hintake, hcomplete, ne_eq, not_true_eq_false, and_false, if_false]
  split
  · rfl
  · repeat' split
    all_goals rfl

/-- An eligible action is sent to a human for its risk exactly if there is one. -/
theorem route_asksForRisk_iff {config : TenantConfig} {assessment : RoutingAssessment}
    {intake : IntakeTypeConfig} {rule : ActionRule}
    (h : assessment.Eligible config intake rule) :
    (route config assessment).AsksForRisk ↔ assessment.containsSafetyOrLegalRisk = true := by
  have hcomplete : ¬ (assessment.requiresCompleteFields = true ∧
      missingFields intake assessment.presentFields ≠ []) := by
    rintro ⟨hrequired, hmissing⟩
    exact hmissing (missingFields_eq_nil_iff.2 (h.complete hrequired))
  unfold route PolicyOutcome.AsksForRisk
  simp only [h.intake_known, h.rule_known, if_neg hcomplete, h.executable, h.registered, h.allowed,
    ne_eq, not_true_eq_false, if_false, Bool.true_eq_false]
  by_cases hrisk : assessment.containsSafetyOrLegalRisk = true
  · simp [hrisk]
  · rw [if_neg hrisk]
    split <;> simp [hrisk]

namespace PolicyInput

variable {value : PolicyInput}

theorem evaluate_of_obstacle (hrequired : value.requiresCompleteFields = true)
    {outcome : PolicyOutcome} (h : value.obstacle = some outcome) : evaluate value = outcome := by
  rw [evaluate_eq]
  unfold obstacle at h
  cases hreadable : value.document.filter fun document => document.extractionError.isSome with
  | some document =>
      simp only [hreadable] at h ⊢
      exact Option.some.inj h
  | none =>
      simp only [hreadable] at h ⊢
      cases hintake : value.intake with
      | none =>
          simp only [hintake] at h ⊢
          exact Option.some.inj h
      | some intake =>
          simp only [hintake] at h ⊢
          by_cases hvalid : value.invalidFields = []
          · rw [if_neg (not_not.2 hvalid)] at h ⊢
            -- the router finds the same intake type and the same fields missing
            have hfound := Admitted.findIntake ⟨hreadable, hintake, hvalid⟩
            split at h
            · rename_i hmissing
              unfold route
              rw [hfound]
              exact (if_pos ⟨hrequired, hmissing⟩).trans (Option.some.inj h)
            · cases h
          · rw [if_pos hvalid] at h ⊢
            exact Option.some.inj h

theorem evaluate_of_clear (h : value.obstacle = none) :
    (evaluate value).reason.ofIntake = false := by
  obtain ⟨intake, hadmitted, hcomplete⟩ := admitted_of_clear h
  rw [hadmitted.evaluate_eq]
  exact route_of_complete hadmitted.findIntake hcomplete

theorem evaluateTerminal_of_obstacle (hrequired : value.requiresCompleteFields = true)
    {outcome : PolicyOutcome} (h : value.obstacle = some outcome) :
    evaluateTerminal value = outcome := by
  unfold obstacle at h
  unfold evaluateTerminal
  cases hreadable : value.document.filter fun document => document.extractionError.isSome with
  | some document =>
      simp only [hreadable] at h ⊢
      exact Option.some.inj h
  | none =>
      simp only [hreadable] at h ⊢
      cases hintake : value.intake with
      | none =>
          simp only [hintake] at h ⊢
          exact Option.some.inj h
      | some intake =>
          simp only [hintake] at h ⊢
          by_cases hvalid : value.invalidFields = []
          · rw [if_neg (not_not.2 hvalid)] at h ⊢
            split at h
            · rename_i hmissing
              exact (if_pos ⟨hrequired, hmissing⟩).trans (Option.some.inj h)
            · cases h
          · rw [if_pos hvalid] at h ⊢
            exact Option.some.inj h

theorem evaluateTerminal_of_clear (h : value.obstacle = none) :
    evaluateTerminal value =
      if value.risky = true then ⟨.needsApproval, .urgent, .safetyOrLegalRisk, []⟩
      else ⟨.allow, .ready, .noActionRequested, []⟩ := by
  obtain ⟨intake, hadmitted, hcomplete⟩ := admitted_of_clear h
  unfold evaluateTerminal
  rw [hadmitted.readable, hadmitted.intake_known]
  simp only [hadmitted.valid, hcomplete, ne_eq, not_true_eq_false, and_false, if_false]

theorem turnsAway_iff (hrequired : value.requiresCompleteFields = true) :
    (evaluate value).TurnsAway ↔ value.obstacle.isSome := by
  cases hobstacle : value.obstacle with
  | none =>
      refine ⟨fun haway => ?_, nofun⟩
      rw [PolicyOutcome.TurnsAway, evaluate_of_clear hobstacle] at haway
      cases haway.2
  | some outcome =>
      rw [evaluate_of_obstacle hrequired hobstacle]
      exact ⟨fun _ => rfl, fun _ => obstacle_turnsAway hobstacle⟩

theorem terminal_deny_iff (hrequired : value.requiresCompleteFields = true) :
    (evaluateTerminal value).decision = .deny ↔ value.obstacle.isSome := by
  cases hobstacle : value.obstacle with
  | none =>
      rw [evaluateTerminal_of_clear hobstacle]
      split <;> simp
  | some outcome =>
      rw [evaluateTerminal_of_obstacle hrequired hobstacle]
      exact ⟨fun _ => rfl, fun _ => (obstacle_turnsAway hobstacle).1⟩

/-- Asking for another action changes nothing about the intake. -/
theorem obstacle_requestedAction (value : PolicyInput) (action : String) :
    obstacle { value with requestedAction := action } = value.obstacle := rfl

/-- An action that the profile allows is eligible in a complete intake. -/
theorem eligible_of_clear (h : value.obstacle = none) {rule : ActionRule}
    (hrule : value.runtime.tenantConfig.rule? value.requestedAction = some rule)
    (hexecutable : rule.execution = .executable)
    (hregistered : value.requestedAction ∈ value.registeredActions)
    (hallowed : rule.allowed = true) :
    ∃ intake, value.Admitted intake ∧
      value.assessment.Eligible value.runtime.tenantConfig intake rule := by
  obtain ⟨intake, hadmitted, hcomplete⟩ := admitted_of_clear h
  exact ⟨intake, hadmitted, hadmitted.findIntake, fun _ => missingFields_eq_nil_iff.1 hcomplete,
    hrule, hexecutable, hregistered, hallowed⟩

end PolicyInput

/-- Where fields have to be complete, a proposal without an action is denied exactly
if one with an action is turned away for its intake, and then for the same; and where
neither is, both involve a human for the same risk. -/
theorem evaluations_agree_on_intake (value : PolicyInput)
    (hrequired : value.requiresCompleteFields = true) :
    ((evaluateTerminal value).decision = .deny ↔ (evaluate value).TurnsAway) ∧
      ((evaluate value).TurnsAway → evaluateTerminal value = evaluate value) ∧
      (¬ (evaluateTerminal value).TurnsAway → ¬ (evaluate value).TurnsAway →
        ∀ action rule, value.runtime.tenantConfig.rule? action = some rule →
          rule.execution = .executable → action ∈ value.registeredActions → rule.allowed = true →
          ((evaluateTerminal value).AsksForRisk ↔
            (evaluate { value with requestedAction := action }).AsksForRisk)) := by
  refine ⟨?_, fun haway => ?_,
    fun _ hclear action rule hrule hexecutable hregistered hallowed => ?_⟩
  · rw [PolicyInput.terminal_deny_iff hrequired, PolicyInput.turnsAway_iff hrequired]
  · obtain ⟨outcome, hobstacle⟩ :=
      Option.isSome_iff_exists.1 ((PolicyInput.turnsAway_iff hrequired).1 haway)
    rw [PolicyInput.evaluateTerminal_of_obstacle hrequired hobstacle,
      PolicyInput.evaluate_of_obstacle hrequired hobstacle]
  · have hnone : value.obstacle = none := by
      rwa [PolicyInput.turnsAway_iff hrequired, Option.not_isSome_iff_eq_none] at hclear
    obtain ⟨intake, hadmitted, heligible⟩ := PolicyInput.eligible_of_clear
      (value.obstacle_requestedAction action |>.trans hnone) hrule hexecutable hregistered hallowed
    rw [hadmitted.evaluate_eq, route_asksForRisk_iff heligible,
      PolicyInput.evaluateTerminal_of_clear hnone]
    show _ ↔ value.risky = true
    split <;> simp [PolicyOutcome.AsksForRisk, *]

/-- The reply to a question, from a source with a risk. -/
def riskyReply : PolicyInput :=
  { policyInput noChecks { replyRuntime with safetyOrLegalRisk := true } replyProposal
      ⟨"create_reply_draft", []⟩ with requiresCompleteFields := true }

/-- A risky reply goes to a human, with its draft and without. -/
theorem evaluations_agree_on_riskyReply :
    (evaluateTerminal riskyReply).AsksForRisk ∧
      (evaluate { riskyReply with requestedAction := "create_reply_draft" }).AsksForRisk := by
  obtain ⟨-, -, hrisk⟩ := evaluations_agree_on_intake riskyReply rfl
  have hterminal : (evaluateTerminal riskyReply).AsksForRisk := ⟨rfl, rfl⟩
  refine ⟨hterminal, (hrisk ?_ ?_ "create_reply_draft" ⟨true, false, .executable⟩ rfl rfl ?_ rfl).1
    hterminal⟩
  · rintro ⟨hdeny, -⟩
    cases hdeny
  · rintro ⟨hdeny, -⟩
    cases hdeny
  · exact replyCall_permitted.registered

end IntegraIntake
