import IntegraIntake.Tools.Soundness

/-!
# How an executed call ends

`execute` and `evaluate_terminal`, taken apart once for everything that is said
about whole runs: `Executes` lists the ways a call can return, each with what it
did to the port, and the lemmas after it say what its evidence may hold.
-/

namespace IntegraIntake

open Library

variable {σ : Type} {checks : ValueChecks} {port : TenantToolPort σ}
  {runtime : TrustedToolRuntimeContext} {proposal : AgentProposal} {call : ToolCall}

/-- The ways `execute` returns, once the policy has decided. -/
inductive Executes (checks : ValueChecks) (port : TenantToolPort σ)
    (runtime : TrustedToolRuntimeContext) (proposal : AgentProposal) (call : ToolCall)
    (policy : PolicyOutcome) (world : World σ) : ToolExecutionResult → World σ → Prop
  | denied : policy.decision = .deny →
      Executes checks port runtime proposal call policy world
        (withEvidence (.obj policy.asToolData) .completed (some policy.reason.value)
          ((requireAction call.name).map fun _ => call.name) policy false false) world
  /-- Approval would be needed for an action nobody has registered. -/
  | unregistered : policy.decision = .needsApproval → requireAction call.name = none →
      Executes checks port runtime proposal call policy world
        (withEvidence (.obj policy.asToolData) .completed (some policy.reason.value) none policy
          false false) world
  | invalidArguments {capability : ActionCapability} : policy.decision ≠ .deny →
      requireAction call.name = some capability →
      Executes checks port runtime proposal call policy world
        (stoppedResult "tool_arguments_invalid" .completed capability policy) world
  | requested {capability : ActionCapability} {arguments : ToolArgs}
      {approval : ApprovalRequested} {next : σ} : policy.decision = .needsApproval →
      requireAction call.name = some capability →
      ToolArgs.modelValidate capability.key call.arguments = .ok arguments →
      port.requestApproval runtime.tenantId
        (pendingAction checks runtime proposal capability arguments) policy.reason world.state =
        (.ok approval, next) →
      Executes checks port runtime proposal call policy world
        (withEvidence
          (.obj (policy.asToolData ++ [("approval_id", .str (uuidString approval.id))]))
          .completed (some "approval_requested") (some capability.key.name) policy false false)
        ⟨next, world.log ++ [.port .requestApproval]⟩
  | handled {capability : ActionCapability} {arguments : ToolArgs} {data : Json}
      {next : World σ} : policy.decision = .allow → requireAction call.name = some capability →
      invokeHandler checks port proposal runtime capability.key arguments world = (.ok data, next) →
      Executes checks port runtime proposal call policy world
        (withEvidence data .continue_ none (some capability.key.name) policy true
          capability.commitsSideEffect) next
  /-- The handler ran, or was cancelled before it did, and the call ends the run. -/
  | stopped {capability : ActionCapability} {outcome : String}
      {disposition : ToolExecutionDisposition} {next : World σ} {invoked : List Invocation} :
      policy.decision = .allow → requireAction call.name = some capability →
      disposition ≠ .continue_ →
      next.log = world.log ++ invoked → .port .requestApproval ∉ invoked →
      Executes checks port runtime proposal call policy world
        (stoppedResult outcome disposition capability policy) next

theorem checkCancelled_ok {n : ℕ} {done : Unit} {world next : World σ}
    (h : checkCancelled runtime n world = (.ok done, next)) : next = world := by
  unfold checkCancelled at h
  split at h <;> cases h
  rfl

theorem requestApprovalBranch_executes {policy : PolicyOutcome} {capability : ActionCapability}
    {arguments : ToolArgs} {world next : World σ} {result : ToolExecutionResult}
    (hdecision : policy.decision = .needsApproval)
    (hcapability : requireAction call.name = some capability)
    (harguments : ToolArgs.modelValidate capability.key call.arguments = .ok arguments)
    (h : requestApprovalBranch checks port runtime proposal policy capability arguments world =
      (.ok result, next)) :
    Executes checks port runtime proposal call policy world result next := by
  obtain ⟨done, checked, hchecked, hrest⟩ := Session.bind_eq_ok h
  have hworld : checked = world := checkCancelled_ok hchecked
  subst hworld
  obtain ⟨approval, called, hcalled, hanswer⟩ := Session.bind_eq_ok hrest
  cases hanswer
  unfold callPort at hcalled
  split at hcalled
  · rename_i requested state hport
    cases hcalled
    exact .requested hdecision hcapability harguments hport
  · cases hcalled

theorem handlerBranch_executes {policy : PolicyOutcome} {capability : ActionCapability}
    {arguments : ToolArgs} {world next : World σ} {result : ToolExecutionResult}
    (hdecision : policy.decision = .allow)
    (hcapability : requireAction call.name = some capability)
    (h : handlerBranch checks port runtime proposal policy capability arguments world =
      (.ok result, next)) :
    Executes checks port runtime proposal call policy world result next := by
  obtain ⟨invoked, hlog, hnone⟩ :=
    invokeHandler_noRequest checks port proposal runtime capability.key arguments world
  unfold handlerBranch at h
  split at h
  · cases h
    have hquiet : world.log = world.log ++ [] := (List.append_nil _).symm
    exact .stopped hdecision hcapability (by decide) hquiet List.not_mem_nil
  · split at h
    · rename_i data state heq
      cases h
      exact .handled hdecision hcapability heq
    all_goals
      rename_i state heq
      rw [heq] at hlog
      cases h
      exact .stopped hdecision hcapability (by decide) hlog hnone

/-- Every returned result comes about in one of the listed ways. -/
theorem executes_of_ok {world next : World σ} {result : ToolExecutionResult}
    (h : execute checks port runtime proposal call world = (.ok result, next)) :
    Executes checks port runtime proposal call
      (evaluate (policyInput checks runtime proposal call)) world result next := by
  obtain ⟨done, checked, hchecked, hdecided⟩ := Session.bind_eq_ok h
  have hworld : checked = world := checkCancelled_ok hchecked
  subst hworld
  clear h
  generalize evaluate (policyInput checks runtime proposal call) = policy at hdecided ⊢
  cases hdecision : policy.decision with
  | deny =>
      unfold executeDecided at hdecided
      rw [hdecision] at hdecided
      cases hdecided
      exact .denied hdecision
  | needsApproval =>
      cases hcapability : requireAction call.name with
      | none =>
          unfold executeDecided at hdecided
          rw [hdecision, hcapability] at hdecided
          cases hdecided
          exact .unregistered hdecision hcapability
      | some capability =>
          rw [executeDecided_of_registered hcapability
            (by simp [hdecision]), executeRegistered] at hdecided
          cases harguments : ToolArgs.modelValidate capability.key call.arguments with
          | error error =>
              rw [harguments] at hdecided
              cases error <;> cases hdecided
              exact .invalidArguments (by simp [hdecision]) hcapability
          | ok arguments =>
              simp only [harguments, hdecision, if_true] at hdecided
              exact requestApprovalBranch_executes hdecision hcapability harguments hdecided
  | allow =>
      cases hcapability : requireAction call.name with
      | none =>
          unfold executeDecided at hdecided
          rw [hdecision, hcapability] at hdecided
          cases hdecided
      | some capability =>
          rw [executeDecided_of_registered hcapability
            (by simp [hdecision]), executeRegistered] at hdecided
          cases harguments : ToolArgs.modelValidate capability.key call.arguments with
          | error error =>
              rw [harguments] at hdecided
              cases error <;> cases hdecided
              exact .invalidArguments (by simp [hdecision]) hcapability
          | ok arguments =>
              simp only [harguments, hdecision, reduceCtorEq, if_false] at hdecided
              exact handlerBranch_executes hdecision hcapability hdecided

/-! ## The evidence of a call -/

/-- The registered tool a call names. -/
def ToolCall.knownAction (call : ToolCall) : Option String :=
  (requireAction call.name).map fun _ => call.name

theorem knownAction_eq_some_iff {key : String} :
    call.knownAction = some key ↔ call.name = key ∧ key ∈ registryKeys := by
  unfold ToolCall.knownAction
  rw [Option.map_eq_some_iff, ← requireAction_isSome_iff]
  constructor
  · rintro ⟨capability, hcapability, rfl⟩
    exact ⟨rfl, by rw [hcapability]; rfl⟩
  · rintro ⟨rfl, hsome⟩
    obtain ⟨capability, hcapability⟩ := Option.isSome_iff_exists.1 hsome
    exact ⟨capability, hcapability, rfl⟩

theorem knownAction_of_require {capability : ActionCapability}
    (h : requireAction call.name = some capability) :
    call.knownAction = some capability.key.name := by
  rw [ToolCall.knownAction, h, Option.map_some, requireAction_name h]

namespace Executes

variable {policy : PolicyOutcome} {world next : World σ} {result : ToolExecutionResult}

/-- The evidence repeats the decision. -/
theorem policy_eq (h : Executes checks port runtime proposal call policy world result next) :
    result.evidence.policyDecision = policy.decision ∧
      result.evidence.routingStatus = policy.status ∧
      result.evidence.policyReason = policy.reason ∧
      result.evidence.missingRequiredFields = sortedSet policy.missingRequiredFields := by
  cases h <;> exact ⟨rfl, rfl, rfl, rfl⟩

/-- The evidence names the tool of the call, if there is one. -/
theorem actionKey_eq (h : Executes checks port runtime proposal call policy world result next) :
    result.evidence.actionKey = call.knownAction := by
  cases h with
  | denied _ => rfl
  | unregistered _ hnone =>
      rw [ToolCall.knownAction, hnone]
      rfl
  | invalidArguments _ hcapability => exact (knownAction_of_require hcapability).symm
  | requested _ hcapability => exact (knownAction_of_require hcapability).symm
  | handled _ hcapability => exact (knownAction_of_require hcapability).symm
  | stopped _ hcapability => exact (knownAction_of_require hcapability).symm

/-- The run goes on only after an allowed call of a registered tool. -/
theorem allowed_of_continue
    (h : Executes checks port runtime proposal call policy world result next)
    (hcontinue : result.disposition = .continue_) :
    policy.decision = .allow ∧ ∃ capability, requireAction call.name = some capability := by
  cases h with
  | handled hdecision hcapability => exact ⟨hdecision, _, hcapability⟩
  | stopped _ _ hends => exact absurd hcontinue hends
  | denied _ => cases hcontinue
  | unregistered _ _ => cases hcontinue
  | invalidArguments _ _ => cases hcontinue
  | requested _ _ _ _ => cases hcontinue

/-- What a result says of a request for approval: the decision was one, the tool
is known, no outcome of a tool is recorded. -/
def Requests (evidence : ToolExecutionEvidence) : Prop :=
  evidence.policyDecision = .needsApproval ∧ evidence.actionKey.isSome ∧
    evidence.toolOutcome = none

/-- A call asks for an approval, and then says so, or it does not call
`request_approval` at all. -/
theorem requests_or_quiet
    (h : Executes checks port runtime proposal call policy world result next) :
    (Requests result.evidence ∧ result.disposition = .completed ∧
        result.finalResponse = some "approval_requested" ∧
        next.log = world.log ++ [.port .requestApproval] ∧
        ∃ capability arguments approval, requireAction call.name = some capability ∧
          ToolArgs.modelValidate capability.key call.arguments = .ok arguments ∧
          port.requestApproval runtime.tenantId
            (pendingAction checks runtime proposal capability arguments) policy.reason
            world.state = (.ok approval, next.state)) ∨
      (¬ Requests result.evidence ∧
        ¬ (result.finalResponse = some "approval_requested" ∧
          result.evidence.policyDecision = .needsApproval ∧ result.evidence.actionKey.isSome) ∧
        ∃ invoked, next.log = world.log ++ invoked ∧ .port .requestApproval ∉ invoked) := by
  cases h with
  | requested hdecision hcapability harguments hport =>
      exact .inl ⟨⟨hdecision, rfl, rfl⟩, rfl, rfl, rfl, _, _, _, hcapability, harguments, hport⟩
  | denied hdecision =>
      refine .inr ⟨fun hrequests => ?_, fun hrequests => ?_, [], by simp, by simp⟩
      · exact absurd (hdecision.symm.trans hrequests.1) (by decide)
      · exact absurd (hdecision.symm.trans hrequests.2.1) (by decide)
  | unregistered _ _ =>
      refine .inr ⟨fun hrequests => ?_, fun hrequests => ?_, [], by simp, by simp⟩
      · exact absurd hrequests.2.1 (by simp [withEvidence])
      · exact absurd hrequests.2.2 (by simp [withEvidence])
  | invalidArguments _ _ =>
      refine .inr ⟨fun hrequests => ?_, fun hrequests => ?_, [], by simp, by simp⟩
      · exact absurd hrequests.2.2 (by simp [stoppedResult, withEvidence])
      · exact absurd hrequests.1 (by simp [stoppedResult, withEvidence])
  | handled hdecision _ hhandler =>
      obtain ⟨invoked, hlog, hnone⟩ :=
        invokeHandler_noRequest checks port proposal runtime _ _ world
      rw [hhandler] at hlog
      refine .inr ⟨fun hrequests => ?_, fun hrequests => ?_, invoked, hlog, hnone⟩
      · exact absurd (hdecision.symm.trans hrequests.1) (by decide)
      · exact absurd (hdecision.symm.trans hrequests.2.1) (by decide)
  | stopped hdecision _ _ hlog hnone =>
      refine .inr ⟨fun hrequests => ?_, fun hrequests => ?_, _, hlog, hnone⟩
      · exact absurd (hdecision.symm.trans hrequests.1) (by decide)
      · exact absurd (hdecision.symm.trans hrequests.2.1) (by decide)

end Executes

/-- A call that is not denied names an action the profile registers. -/
theorem registered_of_not_denied
    (h : (evaluate (policyInput checks runtime proposal call)).decision ≠ .deny) :
    call.name ∈ runtime.registeredActions := by
  rcases evaluate_decision checks runtime proposal call with
    ⟨hdecision, -⟩ | ⟨-, hpermitted, -⟩ | ⟨-, hpermitted, -⟩
  · exact absurd hdecision h
  · exact hpermitted.registered
  · exact hpermitted.registered

/-! ## Missing fields are fields of the profile -/

theorem foldl_scanField_invalid_known {config : TenantConfig} {body : String}
    {document : Option String} (fields : List ProposalValue) (scan : FieldScan)
    (hscan : ∀ name ∈ scan.invalid, name ∈ dictKeys config.fields) :
    ∀ name ∈ (fields.foldl (scanField checks config body document) scan).invalid,
      name ∈ dictKeys config.fields := by
  induction fields generalizing scan with
  | nil => exact hscan
  | cons item rest ih =>
      rw [List.foldl_cons]
      apply ih
      unfold scanField
      split
      · exact hscan
      · rename_i definition hfield
        have hitem : item.name ∈ dictKeys config.fields := by
          rw [mem_dictKeys_iff]
          exact Option.isSome_iff_exists.2 ⟨definition, hfield⟩
        -- the two refusals add the item's name, the other branches keep the list
        have hadded : ∀ name ∈ scan.invalid ++ [item.name], name ∈ dictKeys config.fields := by
          intro name hname
          rcases List.mem_append.1 hname with hold | hnew
          · exact hscan name hold
          · rw [List.mem_singleton.1 hnew]
            exact hitem
        split
        · exact hscan
        · split
          · exact hadded
          · split
            · exact hadded
            · exact hscan

/-- Only fields of the profile are reported invalid. -/
theorem invalidFields_known (checks : ValueChecks) (proposal : AgentProposal)
    (runtime : TrustedToolRuntimeContext) :
    ∀ name ∈ (validateProposalFields checks proposal runtime).invalidFields,
      name ∈ dictKeys runtime.tenantConfig.fields := by
  intro name hname
  rw [validateProposalFields, validateFields, mem_sortedSet] at hname
  exact foldl_scanField_invalid_known proposal.fields ⟨[], []⟩ (by simp) name hname

theorem missingFields_known {config : TenantConfig} {intake : IntakeTypeConfig}
    (hintake : intake ∈ config.intakeTypes) (present : List String) :
    ∀ name ∈ missingFields intake present, name ∈ dictKeys config.fields := by
  intro name hname
  rw [missingFields, mem_sortedSet] at hname
  exact config.required_known intake hintake name (List.mem_filter.1 hname).1

theorem documentUnreadable_missing_known (value : PolicyInput) (document : NormalizedDocument) :
    ∀ name ∈ (value.documentUnreadable document).missingRequiredFields,
      name ∈ dictKeys value.runtime.tenantConfig.fields := by
  intro name hname
  simp only [PolicyInput.documentUnreadable] at hname
  cases hintake : value.runtime.tenantConfig.findIntake document.targetIntakeType with
  | none => simp [hintake] at hname
  | some intake =>
      simp only [hintake, Option.map_some, Option.getD_some, mem_sorted] at hname
      exact value.runtime.tenantConfig.required_known intake
        (TenantConfig.findIntake_eq_some_iff.1 hintake).1 name hname

theorem route_missing_known (config : TenantConfig) (assessment : RoutingAssessment) :
    ∀ name ∈ (route config assessment).missingRequiredFields, name ∈ dictKeys config.fields := by
  intro name hname
  unfold route at hname
  cases hintake : config.findIntake assessment.intakeType with
  | none => simp [hintake] at hname
  | some intake =>
      simp only [hintake] at hname
      split at hname
      · exact missingFields_known (TenantConfig.findIntake_eq_some_iff.1 hintake).1 _ name hname
      · split at hname
        · simp at hname
        · -- every later outcome has an empty list
          repeat' split at hname
          all_goals simp at hname

/-- The missing fields of a decision are fields of the profile. -/
theorem evaluate_missing_known (checks : ValueChecks) (runtime : TrustedToolRuntimeContext)
    (proposal : AgentProposal) (call : ToolCall) :
    ∀ name ∈ (evaluate (policyInput checks runtime proposal call)).missingRequiredFields,
      name ∈ dictKeys runtime.tenantConfig.fields := by
  intro name hname
  unfold evaluate at hname
  split at hname
  · exact documentUnreadable_missing_known _ _ name hname
  · split at hname
    · simp at hname
    · split at hname
      · rw [mem_sorted] at hname
        exact invalidFields_known checks proposal runtime name hname
      · exact route_missing_known _ _ name hname

theorem intake_mem {value : PolicyInput} {intake : IntakeTypeConfig}
    (h : value.intake = some intake) : intake ∈ value.runtime.tenantConfig.intakeTypes := by
  obtain ⟨name, -, hfound⟩ := Option.bind_eq_some_iff.1 h
  exact (TenantConfig.findIntake_eq_some_iff.1 hfound).1

theorem evaluateTerminal_missing_known {value : PolicyInput}
    (hinvalid : ∀ name ∈ value.invalidFields, name ∈ dictKeys value.runtime.tenantConfig.fields) :
    ∀ name ∈ (evaluateTerminal value).missingRequiredFields,
      name ∈ dictKeys value.runtime.tenantConfig.fields := by
  intro name hname
  unfold evaluateTerminal at hname
  split at hname
  · exact documentUnreadable_missing_known _ _ name hname
  · split at hname
    · simp at hname
    · rename_i intake hintake
      simp only at hname
      split at hname
      · rw [mem_sorted] at hname
        exact hinvalid name hname
      · split at hname
        · exact missingFields_known (intake_mem hintake) _ name hname
        · split at hname
          · simp at hname
          · simp at hname

/-! ## Terminal proposals -/

/-- The outcome `evaluate_terminal` of the executor computes. -/
def terminalPolicy (checks : ValueChecks) (runtime : TrustedToolRuntimeContext)
    (proposal : AgentProposal) : PolicyOutcome :=
  evaluateTerminal { policyInput checks runtime proposal ⟨"", []⟩ with
    requiresCompleteFields := true }

/-- A terminal proposal invokes nothing and its evidence names no action. -/
theorem executeTerminal_ok {world next : World σ} {result : ToolExecutionResult}
    (h : executeTerminal checks runtime proposal world = (.ok result, next)) :
    next = world ∧ result.disposition = .completed ∧ result.evidence.actionKey = none ∧
      result.evidence.toolOutcome = none ∧ result.evidence.sideEffectCommitted = false ∧
      result.evidence.policyDecision = (terminalPolicy checks runtime proposal).decision ∧
      result.evidence.missingRequiredFields =
        sortedSet (terminalPolicy checks runtime proposal).missingRequiredFields := by
  obtain ⟨done, checked, hchecked, hrest⟩ := Session.bind_eq_ok h
  have hworld : checked = world := checkCancelled_ok hchecked
  subst hworld
  cases hrest
  exact ⟨rfl, rfl, rfl, rfl, rfl, rfl, rfl⟩

theorem terminalPolicy_missing_known (checks : ValueChecks) (runtime : TrustedToolRuntimeContext)
    (proposal : AgentProposal) :
    ∀ name ∈ (terminalPolicy checks runtime proposal).missingRequiredFields,
      name ∈ dictKeys runtime.tenantConfig.fields :=
  evaluateTerminal_missing_known (invalidFields_known checks proposal runtime)

end IntegraIntake
