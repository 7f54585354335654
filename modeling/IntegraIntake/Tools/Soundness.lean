import IntegraIntake.Tools.Executor

/-!
# What the policy gate guarantees

The decision of `execute` is the composition of field validation, the policy
engine and the router.  `Permitted` collects, in the terms of the profile and
the proposal, everything that must hold before a human is worth asking;
`NeedsHuman` is the group of conditions that sends a permitted call to one.
`evaluate_decision` says that the composed early returns decide exactly that.
The effects of a call are then read off the log of its invocations.
-/

namespace IntegraIntake

open Library

variable {σ : Type} {checks : ValueChecks} {port : TenantToolPort σ}
  {runtime : TrustedToolRuntimeContext} {proposal : AgentProposal} {call : ToolCall}

/-! ## The decision -/

/-- Everything the gate asks of a call, apart from its arguments, before it
considers reasons to involve a human. -/
structure Permitted (checks : ValueChecks) (runtime : TrustedToolRuntimeContext)
    (proposal : AgentProposal) (call : ToolCall) : Prop where
  readable : ∀ document ∈ runtime.source.bind TrustedSource.document,
    document.extractionError = none
  intake_known : ∃ intake ∈ runtime.tenantConfig.intakeTypes, proposal.intakeType = some intake.name
  supported : ∀ item ∈ proposal.fields,
    FieldSupported checks runtime.tenantConfig runtime.source item
  complete : ∀ capability, requireAction call.name = some capability →
    capability.requiresCompleteFields = true →
    ∀ intake ∈ runtime.tenantConfig.intakeTypes, proposal.intakeType = some intake.name →
    ∀ field ∈ intake.requiredFields,
      ∃ value, (field, value) ∈ (validateProposalFields checks proposal runtime).values
  rule_executable : ∃ rule, runtime.tenantConfig.rule? call.name = some rule ∧
    rule.execution = .executable ∧ rule.allowed = true
  registered : call.name ∈ runtime.registeredActions

/-- The conditions that send a permitted call to a human. -/
def NeedsHuman (runtime : TrustedToolRuntimeContext) (proposal : AgentProposal)
    (call : ToolCall) : Prop :=
  runtime.safetyOrLegalRisk = true ∨ proposal.containsInjectionOrOverrideAttempt = true ∨
    call.name ∈ runtime.tenantConfig.routing.alwaysApprovalActions ∨
    (∃ rule, runtime.tenantConfig.rule? call.name = some rule ∧ rule.requiresApproval = true) ∨
    proposal.priority = .critical

/-- The call's arguments fit the closed model of its action. -/
def ArgumentsValid (call : ToolCall) : Prop :=
  ∃ capability arguments, requireAction call.name = some capability ∧
    ToolArgs.modelValidate capability.key call.arguments = .ok arguments

theorem mem_dictKeys {α : Type} {dict : List (String × α)} {key : String} :
    key ∈ dictKeys dict ↔ ∃ value, (key, value) ∈ dict := by
  simp [dictKeys]

/-- Intake names are distinct, so a first match is the only one. -/
theorem TenantConfig.findIntake_eq_some_iff {config : TenantConfig} {name : String}
    {intake : IntakeTypeConfig} :
    config.findIntake name = some intake ↔ intake ∈ config.intakeTypes ∧ intake.name = name := by
  constructor
  · intro h
    exact ⟨List.mem_of_find?_eq_some h, by simpa using List.find?_some h⟩
  · rintro ⟨hmem, rfl⟩
    cases hfound : config.findIntake intake.name with
    | none => simpa using List.find?_eq_none.1 hfound intake hmem
    | some found =>
        have hname : found.name = intake.name := by simpa using List.find?_some hfound
        rw [List.inj_on_of_nodup_map config.intakeNames_nodup (List.mem_of_find?_eq_some hfound)
          hmem hname]

/-- The assessment the engine hands to the router. -/
def assessment (value : PolicyInput) : RoutingAssessment where
  intakeType := value.proposal.intakeType.getD ""
  presentFields := value.presentFields
  containsSafetyOrLegalRisk := value.risky
  requestedAction := value.requestedAction
  requiresCompleteFields := value.requiresCompleteFields
  executableActions := value.registeredActions
  isCritical := value.proposal.priority = .critical

/-- The engine's own checks, ahead of the router. -/
structure PolicyInput.Screened (value : PolicyInput) (intake : IntakeTypeConfig) : Prop where
  readable : ∀ document ∈ value.document, document.extractionError = none
  intake_known : value.intake = some intake
  valid : value.invalidFields = []

theorem evaluate_of_screened {value : PolicyInput} {intake : IntakeTypeConfig}
    (h : value.Screened intake) :
    evaluate value = route value.runtime.tenantConfig (assessment value) := by
  have hdocument : (value.document.filter fun document => document.extractionError.isSome)
      = none := by
    rw [Option.filter_eq_none_iff]
    intro document hmem
    simp [h.readable document hmem]
  rw [evaluate, hdocument, h.intake_known]
  simp [h.valid, assessment]

theorem screened_of_evaluate {value : PolicyInput} (h : (evaluate value).decision ≠ .deny) :
    ∃ intake, value.Screened intake := by
  cases hdocument : value.document.filter fun document => document.extractionError.isSome with
  | some document => simp [evaluate, hdocument, PolicyInput.documentUnreadable] at h
  | none =>
      cases hintake : value.intake with
      | none => simp [evaluate, hdocument, hintake] at h
      | some intake =>
          by_cases hvalid : value.invalidFields = []
          · refine ⟨intake, ?_, hintake, hvalid⟩
            intro document hmem
            simpa using Option.filter_eq_none_iff.1 hdocument document hmem
          · simp [evaluate, hdocument, hintake, hvalid] at h

/-- Both sets of checks together are `Permitted`. -/
theorem permitted_of_eligible {intake known : IntakeTypeConfig} {rule : ActionRule}
    (hscreened : (policyInput checks runtime proposal call).Screened intake)
    (heligible : (assessment (policyInput checks runtime proposal call)).Eligible
      runtime.tenantConfig known rule) :
    Permitted checks runtime proposal call := by
  obtain ⟨name, hname, hfound⟩ := Option.bind_eq_some_iff.1 hscreened.intake_known
  have hname : proposal.intakeType = some name := hname
  have hintake := TenantConfig.findIntake_eq_some_iff.1 hfound
  have hknown := TenantConfig.findIntake_eq_some_iff.1 heligible.intake_known
  refine ⟨hscreened.readable, ⟨intake, hintake.1, by rw [hname, hintake.2]⟩,
    validateFields_invalidFields_eq_nil_iff.1 hscreened.valid, ?_,
    ⟨rule, heligible.rule_known, heligible.executable, heligible.allowed⟩, heligible.registered⟩
  intro capability hcapability hcomplete other hother hothername field hfield
  -- the intake type the router found is the proposal's
  have hsame : other = known := by
    refine List.inj_on_of_nodup_map runtime.tenantConfig.intakeNames_nodup hother hknown.1 ?_
    rw [hknown.2, assessment]
    simp [policyInput, hothername]
  have hpresent := heligible.complete (by simp [assessment, policyInput, hcapability, hcomplete])
    field (hsame ▸ hfield)
  exact mem_dictKeys.1 (List.mem_filter.1 hpresent).1

theorem screened_of_permitted (h : Permitted checks runtime proposal call) :
    ∃ intake, (policyInput checks runtime proposal call).Screened intake := by
  obtain ⟨intake, hmem, hname⟩ := h.intake_known
  refine ⟨intake, h.readable, ?_, validateFields_invalidFields_eq_nil_iff.2 h.supported⟩
  rw [PolicyInput.intake, Option.bind_eq_some_iff]
  exact ⟨intake.name, hname, TenantConfig.findIntake_eq_some_iff.2 ⟨hmem, rfl⟩⟩

theorem eligible_of_permitted (h : Permitted checks runtime proposal call) :
    ∃ intake rule, (assessment (policyInput checks runtime proposal call)).Eligible
      runtime.tenantConfig intake rule ∧ runtime.tenantConfig.rule? call.name = some rule := by
  obtain ⟨intake, hmem, hname⟩ := h.intake_known
  obtain ⟨rule, hrule, hexecutable, hallowed⟩ := h.rule_executable
  refine ⟨intake, rule, ⟨?_, ?_, hrule, hexecutable, h.registered, hallowed⟩, hrule⟩
  · refine TenantConfig.findIntake_eq_some_iff.2 ⟨hmem, ?_⟩
    simp [assessment, policyInput, hname]
  · intro hcomplete field hfield
    have hknown := runtime.tenantConfig.required_known intake hmem field hfield
    cases hcapability : requireAction call.name with
    | none => simp [assessment, policyInput, hcapability] at hcomplete
    | some capability =>
        have hvalue := h.complete capability hcapability
          (by simpa [assessment, policyInput, hcapability] using hcomplete) intake hmem hname
          field hfield
        exact List.mem_filter.2 ⟨mem_dictKeys.2 hvalue, by simpa [policyInput] using hknown⟩

/-- The router's reasons for a human are `NeedsHuman`. -/
theorem assessment_needsHuman_iff (checks : ValueChecks) (proposal : AgentProposal)
    {rule : ActionRule} (hrule : runtime.tenantConfig.rule? call.name = some rule) :
    (assessment (policyInput checks runtime proposal call)).NeedsHuman runtime.tenantConfig rule ↔
      NeedsHuman runtime proposal call := by
  have hcritical : (assessment (policyInput checks runtime proposal call)).isCritical = true ↔
      proposal.priority = .critical := decide_eq_true_iff
  rw [RoutingAssessment.NeedsHuman, NeedsHuman, hcritical]
  simp only [assessment, policyInput, PolicyInput.risky, Bool.or_eq_true, hrule,
    Option.some.injEq, exists_eq_left', or_assoc]

/-- What the policy decides, in the terms of the profile and the proposal. -/
theorem evaluate_decision (checks : ValueChecks) (runtime : TrustedToolRuntimeContext)
    (proposal : AgentProposal) (call : ToolCall) :
    ((evaluate (policyInput checks runtime proposal call)).decision = .deny ∧
        ¬ Permitted checks runtime proposal call) ∨
      ((evaluate (policyInput checks runtime proposal call)).decision = .needsApproval ∧
        Permitted checks runtime proposal call ∧ NeedsHuman runtime proposal call) ∨
      ((evaluate (policyInput checks runtime proposal call)).decision = .allow ∧
        Permitted checks runtime proposal call ∧ ¬ NeedsHuman runtime proposal call) := by
  by_cases hpermitted : Permitted checks runtime proposal call
  · obtain ⟨_, hscreened⟩ := screened_of_permitted hpermitted
    obtain ⟨_, rule, heligible, hrule⟩ := eligible_of_permitted hpermitted
    have hhuman := assessment_needsHuman_iff checks proposal hrule
    rw [evaluate_of_screened hscreened]
    rcases route_of_eligible heligible with ⟨hdecision, h⟩ | ⟨hdecision, h⟩
    · exact .inr (.inl ⟨hdecision, hpermitted, hhuman.1 h⟩)
    · exact .inr (.inr ⟨hdecision, hpermitted, fun hn => h (hhuman.2 hn)⟩)
  · refine .inl ⟨?_, hpermitted⟩
    by_contra hdecision
    obtain ⟨_, hscreened⟩ := screened_of_evaluate hdecision
    rw [evaluate_of_screened hscreened] at hdecision
    obtain ⟨_, _, heligible⟩ := eligible_of_route hdecision
    exact hpermitted (permitted_of_eligible hscreened heligible)

/-! ## The invocations of a call -/

/-- Every run of the program adds to the log, and never a request for approval. -/
def NoRequest {ε α : Type} (program : Session (World σ) ε α) : Prop :=
  ∀ world, ∃ invoked, (program world).2.log = world.log ++ invoked ∧
    Invocation.port .requestApproval ∉ invoked

theorem NoRequest.pure {ε α : Type} (a : α) : NoRequest (pure a : Session (World σ) ε α) :=
  fun world => ⟨[], by simp⟩

theorem NoRequest.raise {ε α : Type} (error : ε) :
    NoRequest (Session.raise error : Session (World σ) ε α) :=
  fun world => ⟨[], by simp⟩

theorem NoRequest.bind {ε α β : Type} {program : Session (World σ) ε α}
    {next : α → Session (World σ) ε β} (hprogram : NoRequest program)
    (hnext : ∀ a, NoRequest (next a)) : NoRequest (program >>= next) := by
  intro world
  obtain ⟨invoked, hlog, hnot⟩ := hprogram world
  rw [Session.bind_run]
  split
  · rename_i a working heq
    rw [heq] at hlog
    obtain ⟨more, hmore, hnotmore⟩ := hnext a working
    exact ⟨invoked ++ more, by rw [hmore, hlog, List.append_assoc], by simp [hnot, hnotmore]⟩
  · rename_i error working heq
    rw [heq] at hlog
    exact ⟨invoked, hlog, hnot⟩

theorem callPort_log {ε α : Type} (operation : PortOperation) (raising : PortError → ε)
    (program : Session σ PortError α) (world : World σ) :
    (callPort operation raising program world).2.log = world.log ++ [.port operation] := by
  unfold callPort
  split <;> rfl

theorem NoRequest.callPort {ε α : Type} {operation : PortOperation}
    (hoperation : operation ≠ .requestApproval) (raising : PortError → ε)
    (program : Session σ PortError α) : NoRequest (callPort operation raising program) :=
  fun world => ⟨[.port operation], callPort_log operation raising program world,
    by simp [hoperation.symm]⟩

theorem NoRequest.write {ε : Type} (key : ActionKey) :
    NoRequest (Session.write (fun world => { world with log := world.log ++ [.handler key] }) :
      Session (World σ) ε Unit) :=
  fun world => ⟨[.handler key], by simp⟩

/-- No handler asks for an approval. -/
theorem invokeHandler_noRequest (checks : ValueChecks) (port : TenantToolPort σ)
    (proposal : AgentProposal) (runtime : TrustedToolRuntimeContext) (key : ActionKey)
    (arguments : ToolArgs) :
    NoRequest (invokeHandler checks port proposal runtime key arguments) := by
  refine (NoRequest.write key).bind fun _ => ?_
  cases arguments with
  | findCustomer values => exact (NoRequest.callPort (by decide) _ _).bind fun _ => .pure _
  | createCase values =>
      simp only [createCaseHandler]
      cases runtime.source with
      | none => exact .raise _
      | some source => exact (NoRequest.callPort (by decide) _ _).bind fun _ => .pure _
  | updateCaseFields values =>
      refine (NoRequest.callPort (by decide) _ _).bind fun updated => ?_
      cases updated with
      | none => exact .raise _
      | some result => exact .pure _
  | createReplyDraft values =>
      refine NoRequest.bind ?_ fun found => ?_
      · unfold replyCaseExists
        cases values.caseId with
        | none => exact .pure _
        | some caseId => exact .callPort (by decide) _ _
      · cases found with
        | false => exact .raise _
        | true => exact (NoRequest.callPort (by decide) _ _).bind fun _ => .pure _
  | flagForReview values => exact (NoRequest.callPort (by decide) _ _).bind fun _ => .pure _

theorem handlerBranch_noRequest (policy : PolicyOutcome) (capability : ActionCapability)
    (arguments : ToolArgs) :
    NoRequest (handlerBranch checks port runtime proposal policy capability arguments) := by
  intro world
  obtain ⟨invoked, hlog, hnot⟩ :=
    invokeHandler_noRequest checks port proposal runtime capability.key arguments world
  unfold handlerBranch
  split
  · exact ⟨[], by simp⟩
  · split <;> rename_i heq <;> rw [heq] at hlog <;> exact ⟨invoked, hlog, hnot⟩

/-- Asking for an approval invokes that operation only. -/
theorem requestApprovalBranch_log (policy : PolicyOutcome) (capability : ActionCapability)
    (arguments : ToolArgs) (world : World σ) :
    ∃ invoked, (requestApprovalBranch checks port runtime proposal policy capability arguments
        world).2.log = world.log ++ invoked ∧
      ∀ invocation ∈ invoked, invocation = .port .requestApproval := by
  unfold requestApprovalBranch checkCancelled
  split
  · exact ⟨[], by simp⟩
  · have hlog := callPort_log PortOperation.requestApproval ExecuteError.port
      (port.requestApproval runtime.tenantId
        (pendingAction checks runtime proposal capability arguments) policy.reason) world
    rw [Session.pure_bind, Session.bind_run]
    refine ⟨[.port .requestApproval], ?_, by simp⟩
    split <;> rename_i heq <;> rw [heq] at hlog <;> exact hlog

/-! ## Calls that invoke nothing -/

/-- The program leaves the world alone, and what it returns ends the run
without a side effect. -/
def Quiet {ε : Type} (program : Session (World σ) ε ToolExecutionResult) : Prop :=
  ∀ world, (program world).2 = world ∧ ∀ result, (program world).1 = .ok result →
    result.disposition = .completed ∧ result.evidence.sideEffectCommitted = false

theorem Quiet.raise {ε : Type} (error : ε) :
    Quiet (Session.raise error : Session (World σ) ε ToolExecutionResult) := by
  intro world
  refine ⟨rfl, fun result h => ?_⟩
  cases h

theorem Quiet.pure {ε : Type} {result : ToolExecutionResult}
    (hdisposition : result.disposition = .completed)
    (heffect : result.evidence.sideEffectCommitted = false) :
    Quiet (pure result : Session (World σ) ε ToolExecutionResult) := by
  intro world
  refine ⟨rfl, fun returned h => ?_⟩
  cases h
  exact ⟨hdisposition, heffect⟩

theorem executeDecided_quiet_of_deny {policy : PolicyOutcome}
    (hdecision : policy.decision = .deny) :
    Quiet (executeDecided checks port runtime proposal call policy) := by
  unfold executeDecided
  rw [hdecision]
  exact .pure rfl rfl

/-- With arguments that do not validate, nothing is invoked. -/
theorem executeRegistered_quiet_of_not_valid (hvalid : ¬ ArgumentsValid call)
    (policy : PolicyOutcome) {capability : ActionCapability}
    (hcapability : requireAction call.name = some capability) :
    Quiet (executeRegistered checks port runtime proposal call policy capability) := by
  unfold executeRegistered
  cases harguments : ToolArgs.modelValidate capability.key call.arguments with
  | ok arguments => exact absurd ⟨capability, arguments, hcapability, harguments⟩ hvalid
  | error error =>
      cases error with
      | validation => exact .pure rfl rfl
      | typeError => exact .raise _

theorem executeDecided_quiet_of_not_valid (hvalid : ¬ ArgumentsValid call)
    (policy : PolicyOutcome) : Quiet (executeDecided checks port runtime proposal call policy) := by
  have hregistered := @executeRegistered_quiet_of_not_valid σ checks port runtime proposal call
    hvalid policy
  unfold executeDecided
  cases hcapability : requireAction call.name <;> cases policy.decision
  · exact .raise _
  · exact .pure rfl rfl
  · exact .pure rfl rfl
  · exact hregistered hcapability
  · exact hregistered hcapability
  · exact .pure rfl rfl

theorem executeDecided_of_registered {policy : PolicyOutcome} {capability : ActionCapability}
    (hcapability : requireAction call.name = some capability)
    (hdecision : policy.decision ≠ .deny) :
    executeDecided checks port runtime proposal call policy =
      executeRegistered checks port runtime proposal call policy capability := by
  unfold executeDecided
  rw [hcapability]
  cases hcase : policy.decision with
  | deny => exact absurd hcase hdecision
  | needsApproval => rfl
  | allow => rfl

/-- A call with valid arguments that the policy does not deny takes one of two branches. -/
theorem executeDecided_of_valid {policy : PolicyOutcome} {capability : ActionCapability}
    {arguments : ToolArgs} (hcapability : requireAction call.name = some capability)
    (harguments : ToolArgs.modelValidate capability.key call.arguments = .ok arguments)
    (hdecision : policy.decision ≠ .deny) :
    executeDecided checks port runtime proposal call policy =
      if policy.decision = .needsApproval
      then requestApprovalBranch checks port runtime proposal policy capability arguments
      else handlerBranch checks port runtime proposal policy capability arguments := by
  rw [executeDecided_of_registered hcapability hdecision, executeRegistered, harguments]

/-- Executing a call that is not permitted, or whose arguments do not validate,
invokes nothing. -/
theorem execute_quiet (port : TenantToolPort σ)
    (h : ¬ (Permitted checks runtime proposal call ∧ ArgumentsValid call)) :
    Quiet (execute checks port runtime proposal call) := by
  unfold execute checkCancelled
  split
  · exact .raise _
  · rcases evaluate_decision checks runtime proposal call with
      ⟨hdecision, -⟩ | ⟨-, hpermitted, -⟩ | ⟨-, hpermitted, -⟩
    · exact executeDecided_quiet_of_deny hdecision
    · exact executeDecided_quiet_of_not_valid (fun hvalid => h ⟨hpermitted, hvalid⟩) _
    · exact executeDecided_quiet_of_not_valid (fun hvalid => h ⟨hpermitted, hvalid⟩) _

/-- Soundness of the gate, for every profile, context, proposal and call.  A
handler, and with it any operation of the port other than `request_approval`,
is invoked only for a permitted call with valid arguments and no reason for a
human; `request_approval` only for such a call with a reason for a human; in
every other case nothing is invoked, the port's state stays as it was, and a
returned result ends the run without a side effect. -/
theorem execute_invocations_sound (checks : ValueChecks) (port : TenantToolPort σ)
    (runtime : TrustedToolRuntimeContext) (proposal : AgentProposal) (call : ToolCall)
    (world : World σ) :
    ∃ invoked, (execute checks port runtime proposal call world).2.log = world.log ++ invoked ∧
      ((∃ invocation ∈ invoked, invocation ≠ .port .requestApproval) →
        Permitted checks runtime proposal call ∧ ArgumentsValid call ∧
          ¬ NeedsHuman runtime proposal call) ∧
      (.port .requestApproval ∈ invoked →
        Permitted checks runtime proposal call ∧ ArgumentsValid call ∧
          NeedsHuman runtime proposal call) ∧
      (¬ (Permitted checks runtime proposal call ∧ ArgumentsValid call) →
        invoked = [] ∧ (execute checks port runtime proposal call world).2.state = world.state ∧
        ∀ result, (execute checks port runtime proposal call world).1 = .ok result →
          result.disposition = .completed ∧ result.evidence.sideEffectCommitted = false) := by
  by_cases hadmissible : Permitted checks runtime proposal call ∧ ArgumentsValid call
  · obtain ⟨hpermitted, hvalid⟩ := hadmissible
    obtain ⟨capability, arguments, hcapability, harguments⟩ := hvalid
    have hadmissible := And.intro hpermitted (show ArgumentsValid call from
      ⟨capability, arguments, hcapability, harguments⟩)
    unfold execute checkCancelled
    split
    · exact ⟨[], by simp [hadmissible]⟩
    rw [Session.pure_bind]
    rcases evaluate_decision checks runtime proposal call with
      ⟨-, hnot⟩ | ⟨hdecision, -, hhuman⟩ | ⟨hdecision, -, hhuman⟩
    · exact absurd hpermitted hnot
    · rw [executeDecided_of_valid hcapability harguments (by simp [hdecision]), if_pos hdecision]
      obtain ⟨invoked, hlog, hall⟩ := requestApprovalBranch_log _ capability arguments world
      refine ⟨invoked, hlog, ?_, fun _ => ⟨hadmissible.1, hadmissible.2, hhuman⟩,
        fun hnot => absurd hadmissible hnot⟩
      rintro ⟨invocation, hmem, hne⟩
      exact absurd (hall invocation hmem) hne
    · rw [executeDecided_of_valid hcapability harguments (by simp [hdecision]),
        if_neg (by simp [hdecision])]
      obtain ⟨invoked, hlog, hnone⟩ := handlerBranch_noRequest _ capability arguments world
      exact ⟨invoked, hlog, fun _ => ⟨hadmissible.1, hadmissible.2, hhuman⟩,
        fun hmem => absurd hmem hnone, fun hnot => absurd hadmissible hnot⟩
  · obtain ⟨hworld, hresult⟩ := execute_quiet port hadmissible world
    exact ⟨[], by rw [hworld, List.append_nil], by simp, by simp,
      fun _ => ⟨rfl, by rw [hworld], hresult⟩⟩

end IntegraIntake
