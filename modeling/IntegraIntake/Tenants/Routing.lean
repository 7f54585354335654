import IntegraIntake.Tenants.FieldValues

/-!
# Routing and the policy engine

`app/tenants/routing.py` and `app/policy/engine.py`: the fixed sequence of
checks between a proposal and a decision.
-/

namespace IntegraIntake

/-- `RoutingAssessment`, as the policy engine fills it. -/
structure RoutingAssessment where
  intakeType : String
  presentFields : List String
  containsSafetyOrLegalRisk : Bool
  requestedAction : String
  requiresCompleteFields : Bool
  executableActions : List String
  isCritical : Bool

/-- `sorted(set(intake.required_fields) - present)`. -/
def missingFields (intake : IntakeTypeConfig) (present : List String) : List String :=
  sortedSet (intake.requiredFields.filter fun field => !present.contains field)

/-- `TenantRouter.route`.  Intake names are distinct, so the router's dictionary
finds what the first match finds. -/
def route (config : TenantConfig) (assessment : RoutingAssessment) : PolicyOutcome :=
  match config.findIntake assessment.intakeType with
  | none => ⟨.deny, .rejected, .unknownIntakeType, []⟩
  | some intake =>
    let missing := missingFields intake assessment.presentFields
    if assessment.requiresCompleteFields = true ∧ missing ≠ [] then
      ⟨.deny, .awaitingInput, .missingRequiredFields, missing⟩
    else match config.rule? assessment.requestedAction with
      | none => ⟨.deny, .rejected, .actionNotConfigured, []⟩
      | some rule =>
        if rule.execution ≠ .executable then ⟨.deny, .rejected, .actionNotExecutable, []⟩
        else if assessment.requestedAction ∉ assessment.executableActions then
          ⟨.deny, .rejected, .actionNotConfigured, []⟩
        else if rule.allowed = false then ⟨.deny, .rejected, .actionNotAllowed, []⟩
        else if assessment.containsSafetyOrLegalRisk = true then
          ⟨.needsApproval, .urgent, .safetyOrLegalRisk, []⟩
        else if assessment.requestedAction ∈ config.routing.alwaysApprovalActions ∨
            rule.requiresApproval = true ∨ assessment.isCritical = true then
          ⟨.needsApproval, .pendingApproval, .approvalRequired, []⟩
        else ⟨.allow, .ready, .actionAllowed, []⟩

theorem missingFields_eq_nil_iff {intake : IntakeTypeConfig} {present : List String} :
    missingFields intake present = [] ↔ ∀ field ∈ intake.requiredFields, field ∈ present := by
  simp [missingFields, sortedSet_eq_nil_iff, List.filter_eq_nil_iff]

/-- What the router asks of an action before it looks for reasons to involve a
human. -/
structure RoutingAssessment.Eligible (config : TenantConfig) (assessment : RoutingAssessment)
    (intake : IntakeTypeConfig) (rule : ActionRule) : Prop where
  intake_known : config.findIntake assessment.intakeType = some intake
  complete : assessment.requiresCompleteFields = true →
    ∀ field ∈ intake.requiredFields, field ∈ assessment.presentFields
  rule_known : config.rule? assessment.requestedAction = some rule
  executable : rule.execution = .executable
  registered : assessment.requestedAction ∈ assessment.executableActions
  allowed : rule.allowed = true

/-- The reasons to involve a human. -/
def RoutingAssessment.NeedsHuman (config : TenantConfig) (assessment : RoutingAssessment)
    (rule : ActionRule) : Prop :=
  assessment.containsSafetyOrLegalRisk = true ∨
    assessment.requestedAction ∈ config.routing.alwaysApprovalActions ∨
    rule.requiresApproval = true ∨ assessment.isCritical = true

/-- An eligible action is sent to a human or allowed. -/
theorem route_of_eligible {config : TenantConfig} {assessment : RoutingAssessment}
    {intake : IntakeTypeConfig} {rule : ActionRule}
    (h : assessment.Eligible config intake rule) :
    ((route config assessment).decision = .needsApproval ∧ assessment.NeedsHuman config rule) ∨
      ((route config assessment).decision = .allow ∧ ¬ assessment.NeedsHuman config rule) := by
  have hcomplete : ¬ (assessment.requiresCompleteFields = true ∧
      missingFields intake assessment.presentFields ≠ []) := by
    rintro ⟨hrequired, hmissing⟩
    exact hmissing (missingFields_eq_nil_iff.2 (h.complete hrequired))
  unfold route RoutingAssessment.NeedsHuman
  simp only [h.intake_known, h.rule_known, if_neg hcomplete, h.executable, h.registered, h.allowed,
    ne_eq, not_true_eq_false, if_false, Bool.true_eq_false]
  by_cases hrisk : assessment.containsSafetyOrLegalRisk = true
  · exact .inl ⟨by rw [if_pos hrisk], .inl hrisk⟩
  · rw [if_neg hrisk]
    split
    · exact .inl ⟨rfl, .inr ‹_›⟩
    · exact .inr ⟨rfl, fun hhuman => hhuman.elim hrisk ‹_›⟩

/-- Everything that is not denied was eligible. -/
theorem eligible_of_route {config : TenantConfig} {assessment : RoutingAssessment}
    (h : (route config assessment).decision ≠ .deny) :
    ∃ intake rule, assessment.Eligible config intake rule := by
  cases hintake : config.findIntake assessment.intakeType with
  | none => simp [route, hintake] at h
  | some intake =>
      by_cases hmissing : assessment.requiresCompleteFields = true ∧
          missingFields intake assessment.presentFields ≠ []
      · simp [route, hintake, hmissing] at h
      cases hrule : config.rule? assessment.requestedAction with
      | none => simp [route, hintake, hmissing, hrule] at h
      | some rule =>
          by_cases hexecutable : rule.execution = .executable
          · by_cases hregistered : assessment.requestedAction ∈ assessment.executableActions
            · by_cases hallowed : rule.allowed = true
              · refine ⟨intake, rule, hintake, ?_, hrule, hexecutable, hregistered, hallowed⟩
                intro hrequired
                by_contra hnot
                exact hmissing ⟨hrequired, fun hnil => hnot (missingFields_eq_nil_iff.1 hnil)⟩
              · simp [route, hintake, hmissing, hrule, hexecutable, hregistered, hallowed] at h
            · simp [route, hintake, hmissing, hrule, hexecutable, hregistered] at h
          · simp [route, hintake, hmissing, hrule, hexecutable] at h

namespace PolicyInput

/-- The document of the trusted source. -/
def document (value : PolicyInput) : Option NormalizedDocument :=
  value.runtime.source.bind TrustedSource.document

/-- `present_fields`: the verified names, or the names the proposal gives a
value, that the profile knows. -/
def presentFields (value : PolicyInput) : List String :=
  let known := dictKeys value.runtime.tenantConfig.fields
  let names := match value.verifiedPresentFields with
    | some names => names
    | none => (value.proposal.fields.filter fun (item : ProposalValue) =>
        known.contains item.name && proposalValueIsPresent item.value).map ProposalValue.name
  names.filter fun name => known.contains name

/-- The trusted risk flag or the model's own. -/
def risky (value : PolicyInput) : Bool :=
  value.runtime.safetyOrLegalRisk || value.proposal.containsInjectionOrOverrideAttempt

/-- The outcome for an unreadable document, which asks for every required field
of the document's intake type. -/
def documentUnreadable (value : PolicyInput) (document : NormalizedDocument) : PolicyOutcome :=
  ⟨.deny, .awaitingInput, .documentUnreadable,
    ((value.runtime.tenantConfig.findIntake document.targetIntakeType).map fun intake =>
      sorted intake.requiredFields).getD []⟩

/-- `next(... if item.name == proposal.intake_type)`: a missing intake type
names none. -/
def intake (value : PolicyInput) : Option IntakeTypeConfig :=
  value.proposal.intakeType.bind value.runtime.tenantConfig.findIntake

end PolicyInput

/-- `PolicyEngine.evaluate`. -/
def evaluate (value : PolicyInput) : PolicyOutcome :=
  match value.document.filter fun document => document.extractionError.isSome with
  | some document => value.documentUnreadable document
  | none =>
    match value.intake with
    | none => ⟨.deny, .rejected, .unknownIntakeType, []⟩
    | some _ =>
      if value.invalidFields ≠ [] then
        ⟨.deny, .awaitingInput, .invalidFieldValues, sorted value.invalidFields⟩
      else route value.runtime.tenantConfig
        { intakeType := value.proposal.intakeType.getD ""
          presentFields := value.presentFields
          containsSafetyOrLegalRisk := value.risky
          requestedAction := value.requestedAction
          requiresCompleteFields := value.requiresCompleteFields
          executableActions := value.registeredActions
          isCritical := value.proposal.priority = .critical }

/-- `PolicyEngine.evaluate_terminal`: the same checks for a proposal that asks
for no action. -/
def evaluateTerminal (value : PolicyInput) : PolicyOutcome :=
  match value.document.filter fun document => document.extractionError.isSome with
  | some document => value.documentUnreadable document
  | none =>
    match value.intake with
    | none => ⟨.deny, .rejected, .unknownIntakeType, []⟩
    | some intake =>
      let missing := missingFields intake value.presentFields
      if value.invalidFields ≠ [] then
        ⟨.deny, .awaitingInput, .invalidFieldValues, sorted value.invalidFields⟩
      else if value.requiresCompleteFields = true ∧ missing ≠ [] then
        ⟨.deny, .awaitingInput, .missingRequiredFields, missing⟩
      else if value.risky = true then ⟨.needsApproval, .urgent, .safetyOrLegalRisk, []⟩
      else ⟨.allow, .ready, .noActionRequested, []⟩

end IntegraIntake
