import IntegraIntake.Approvals.Repository
import IntegraIntake.Tools.ModelInput
import IntegraIntake.Workers.Summary

/-!
# Reading an execution path back

`_safe_execution_values` of `app/domain/jobs.py`: the strict decoder of what
`_result_summary` has persisted.  It takes a path as a whole or not at all: one
entry that it does not accept empties the path.

`execution_path_round_trip` says when the decoder gives a completed run back.
The executor records a call as known when the server has a tool of that name; the
decoder accepts only the actions that the profile registers.  The two differ on a
denied call of a tool outside the profile, and a denied call ends the run.
-/

namespace IntegraIntake

open Library

/-! ## The decoder -/

/-- `RoutingDecision(raw)`. -/
def RoutingDecision.ofString? (raw : String) : Option RoutingDecision :=
  [RoutingDecision.allow, .needsApproval, .deny].find? fun decision => decision.value == raw

/-- `RoutingStatus(raw)`. -/
def RoutingStatus.ofString? (raw : String) : Option RoutingStatus :=
  RoutingStatus.all.find? fun status => status.value == raw

/-- Every `PolicyReason`. -/
def PolicyReason.all : List PolicyReason :=
  [.safetyOrLegalRisk, .unknownIntakeType, .missingRequiredFields, .invalidFieldValues,
   .actionNotConfigured, .actionNotExecutable, .actionNotAllowed, .approvalRequired,
   .actionAllowed, .noActionRequested, .documentUnreadable]

/-- `PolicyReason(raw)`. -/
def PolicyReason.ofString? (raw : String) : Option PolicyReason :=
  PolicyReason.all.find? fun reason => reason.value == raw

/-- `StopReason(raw)`. -/
def StopReason.ofString? (raw : String) : Option StopReason :=
  StopReason.all.find? fun reason => reason.value == raw

/-- `ExecutionPathRead`. -/
structure ExecutionPathRead where
  step : ℕ
  actionKey : Option String
  actionKnown : Bool
  policyDecision : RoutingDecision
  routingStatus : RoutingStatus
  policyReason : PolicyReason
  missingRequiredFields : List String
  toolOutcome : Option OutcomeCode
  sideEffectCommitted : Bool
  deriving DecidableEq

namespace ExecutionRead

/-- `MAX_EXECUTION_STEPS`. -/
def maxExecutionSteps : ℕ := 8

/-- `expected_keys`. -/
def expectedKeys : List String :=
  ["step", "action_key", "action_known", "policy_decision", "routing_status", "policy_reason",
    "missing_required_fields", "tool_outcome", "side_effect_committed"]

/-- `agent_steps`. -/
def agentSteps : Option Json → Option ℕ
  | some (.int steps) => if 0 ≤ steps ∧ steps ≤ maxExecutionSteps then some steps.toNat else none
  | _ => none

/-- The step of an entry, which comes after the step of the entry before. -/
def readStep (previous : ℕ) : Json → Option ℕ
  | .int step =>
    if 1 ≤ step ∧ step ≤ maxExecutionSteps ∧ (previous : ℤ) < step then some step.toNat else none
  | _ => none

/-- `action_known` and `action_key`: a known action is one that is registered. -/
def readAction (registered : List String) : Json → Json → Option (Option String)
  | .bool true, .str key =>
    if registered.contains key && isSafeIdentifier key then some (some key) else none
  | .bool false, .null => some none
  | _, _ => none

/-- `missing_required_fields`: a list of safe identifiers. -/
def readMissing : Json → Option (List String)
  | .arr items => do
    let names ← items.mapM Json.asStr?
    guard (names.all isSafeIdentifier)
    some (sortedSet names)
  | _ => none

/-- `tool_outcome`: null or an outcome code. -/
def readOutcome : Json → Option (Option OutcomeCode)
  | .null => some none
  | value => (value.asStr?.bind OutcomeCode.ofString?).map some

/-- One turn of the loop over `raw_path`. -/
def readEntry (registered : List String) (previous : ℕ) : Json → Option ExecutionPathRead
  | .obj members => do
    guard ((dictKeys members).all expectedKeys.contains &&
      expectedKeys.all (dictKeys members).contains)
    let step ← readStep previous (← members.lookup "step")
    let actionKey ← readAction registered (← members.lookup "action_known")
      (← members.lookup "action_key")
    let decision ← RoutingDecision.ofString? (← (← members.lookup "policy_decision").asStr?)
    let status ← RoutingStatus.ofString? (← (← members.lookup "routing_status").asStr?)
    let reason ← PolicyReason.ofString? (← (← members.lookup "policy_reason").asStr?)
    let missing ← readMissing (← members.lookup "missing_required_fields")
    let outcome ← readOutcome (← members.lookup "tool_outcome")
    let committed ← match ← members.lookup "side_effect_committed" with
      | .bool value => some value
      | _ => none
    some ⟨step, actionKey, actionKey.isSome, decision, status, reason, missing, outcome, committed⟩
  | _ => none

/-- The loop over `raw_path`; `none` is the early return without a path. -/
def readPath (registered : List String) : ℕ → List Json → Option (List ExecutionPathRead)
  | _, [] => some []
  | previous, item :: rest => do
    let entry ← readEntry registered previous item
    let path ← readPath registered entry.step rest
    some (entry :: path)

/-- The path of a result, empty when it is not accepted. -/
def executionPath (registered : List String) : Option Json → List ExecutionPathRead
  | some (.arr items) =>
    if maxExecutionSteps < items.length then [] else (readPath registered 0 items).getD []
  | _ => []

/-- `_safe_execution_values`. -/
def safeExecutionValues (result : Option Json) (registered : List String) :
    Option ℕ × Option StopReason × List ExecutionPathRead :=
  match result with
  | some (.obj members) =>
    if (members.lookup "steps").isNone ∧ (members.lookup "execution_path").isNone then
      (none, none, [])
    else (agentSteps (members.lookup "steps"),
      ((members.lookup "reason").bind Json.asStr?).bind StopReason.ofString?,
      executionPath registered (members.lookup "execution_path"))
  | _ => (none, none, [])

end ExecutionRead

/-! ## Reading back what was written -/

open ExecutionRead

theorem RoutingDecision.ofString?_value (decision : RoutingDecision) :
    RoutingDecision.ofString? decision.value = some decision := by
  cases decision <;> decide

theorem RoutingStatus.ofString?_value (status : RoutingStatus) :
    RoutingStatus.ofString? status.value = some status := by
  cases status <;> decide

theorem PolicyReason.ofString?_value (reason : PolicyReason) :
    PolicyReason.ofString? reason.value = some reason := by
  cases reason <;> decide

theorem StopReason.ofString?_value (reason : StopReason) :
    StopReason.ofString? reason.value = some reason := by
  cases reason <;> decide

theorem OutcomeCode.ofString?_value (code : OutcomeCode) :
    OutcomeCode.ofString? code.value = some code := by
  cases code <;> decide

/-- The entry as a reader sees it. -/
def ExecutionPathEntry.read (entry : ExecutionPathEntry) : ExecutionPathRead where
  step := entry.step
  actionKey := entry.actionKey
  actionKnown := entry.actionKnown
  policyDecision := entry.policyDecision
  routingStatus := entry.routingStatus
  policyReason := entry.policyReason
  missingRequiredFields := entry.missingRequiredFields
  toolOutcome := entry.toolOutcome
  sideEffectCommitted := entry.sideEffectCommitted

variable {registered : List String} {runtime : TrustedToolRuntimeContext}

theorem registryKeys_safe {key : String} (h : key ∈ registryKeys) :
    isSafeIdentifier key = true := by
  have hall : ∀ name ∈ registryKeys, isSafeIdentifier name = true := by decide
  exact hall key h

theorem readStep_int {previous step : ℕ} (hlow : previous < step) (hhigh : step ≤ 8) :
    readStep previous (.int step) = some step := by
  have hcheck : (1 : ℤ) ≤ step ∧ (step : ℤ) ≤ maxExecutionSteps ∧ (previous : ℤ) < step := by
    unfold maxExecutionSteps
    omega
  rw [readStep, if_pos hcheck, Int.toNat_natCast]

theorem readAction_summary {entry : ExecutionPathEntry} (h : EntryKnown runtime entry) :
    readAction registered (.bool entry.actionKnown) (optionJson .str entry.actionKey) =
      if entry.actionKey.all registered.contains then some entry.actionKey else none := by
  unfold ToolExecutionEvidence.actionKnown
  cases hkey : entry.actionKey with
  | none => rfl
  | some key =>
      have hsafe := registryKeys_safe (h.action key hkey)
      show (if registered.contains key && isSafeIdentifier key then some (some key) else none) =
        if registered.contains key then some (some key) else none
      rw [hsafe, Bool.and_true]

theorem mapM_asStr (names : List String) : (names.map Json.str).mapM Json.asStr? = some names := by
  induction names with
  | nil => rfl
  | cons name rest ih =>
      rw [List.map_cons, List.mapM_cons, ih]
      rfl

theorem readMissing_summary {entry : ExecutionPathEntry} (h : EntryKnown runtime entry) :
    readMissing (.arr (entry.missingRequiredFields.map .str)) =
      some entry.missingRequiredFields := by
  have hsafe : entry.missingRequiredFields.all isSafeIdentifier = true := by
    rw [List.all_eq_true]
    intro name hname
    exact runtime.tenantConfig.fields_safe name (h.missing_known name hname)
  simp only [readMissing, mapM_asStr, Option.bind_eq_bind, Option.bind_some, hsafe, guard_true,
    Option.pure_def, h.missing_sorted]

theorem readOutcome_summary (outcome : Option OutcomeCode) :
    readOutcome (optionJson (fun code => .str code.value) outcome) = some outcome := by
  cases outcome with
  | none => rfl
  | some code =>
      show (OutcomeCode.ofString? code.value).map some = some (some code)
      rw [OutcomeCode.ofString?_value, Option.map_some]

/-- One entry is read back, unless it names an action that is not registered. -/
theorem readEntry_summary {previous : ℕ} {entry : ExecutionPathEntry}
    (h : EntryKnown runtime entry) (hlow : previous < entry.step) (hhigh : entry.step ≤ 8) :
    readEntry registered previous entry.summary =
      if entry.actionKey.all registered.contains then some entry.read else none := by
  -- the keys are the expected ones, so what is left are the checks of the values
  have hread : readEntry registered previous entry.summary = (do
      let step ← readStep previous (.int entry.step)
      let actionKey ← readAction registered (.bool entry.actionKnown)
        (optionJson .str entry.actionKey)
      let decision ← RoutingDecision.ofString? entry.policyDecision.value
      let status ← RoutingStatus.ofString? entry.routingStatus.value
      let reason ← PolicyReason.ofString? entry.policyReason.value
      let missing ← readMissing (.arr (entry.missingRequiredFields.map .str))
      let outcome ← readOutcome (optionJson (fun code => .str code.value) entry.toolOutcome)
      some ⟨step, actionKey, actionKey.isSome, decision, status, reason, missing, outcome,
        entry.sideEffectCommitted⟩) := rfl
  rw [hread, readStep_int hlow hhigh, readAction_summary h, RoutingDecision.ofString?_value,
    RoutingStatus.ofString?_value, PolicyReason.ofString?_value, readMissing_summary h,
    readOutcome_summary]
  split
  · rfl
  · rfl

/-- A path is read back, unless one of its entries names an action that is not
registered: then nothing of it is. -/
theorem readPath_summary {previous : ℕ} {path : List ExecutionPathEntry}
    (hknown : ∀ entry ∈ path, EntryKnown runtime entry)
    (hsteps : path.map (·.step) = List.range' (previous + 1) path.length)
    (hbound : previous + path.length ≤ 8) :
    readPath registered previous (path.map ExecutionPathEntry.summary) =
      if path.all fun entry => entry.actionKey.all registered.contains
      then some (path.map ExecutionPathEntry.read) else none := by
  induction path generalizing previous with
  | nil => rfl
  | cons entry rest ih =>
      simp only [List.map_cons, List.length_cons, List.range'_succ, List.cons.injEq] at hsteps
      obtain ⟨hstep, hrest⟩ := hsteps
      rw [List.length_cons] at hbound
      have hentry : readEntry registered previous entry.summary =
          if entry.actionKey.all registered.contains then some entry.read else none :=
        readEntry_summary (hknown entry List.mem_cons_self) (by omega) (by omega)
      have htail := ih (fun other hother => hknown other (List.mem_cons_of_mem _ hother)) hrest
        (by omega)
      rw [List.map_cons, readPath, hentry, List.all_cons]
      by_cases hkey : entry.actionKey.all registered.contains = true
      · have hread : readPath registered entry.read.step (rest.map ExecutionPathEntry.summary) =
            if rest.all fun entry => entry.actionKey.all registered.contains
            then some (rest.map ExecutionPathEntry.read) else none := by
          show readPath registered entry.step _ = _
          rw [hstep]
          exact htail
        rw [if_pos hkey, hkey, Bool.true_and]
        show (readPath registered entry.read.step (rest.map ExecutionPathEntry.summary)).bind
          (fun path => some (entry.read :: path)) = _
        rw [hread]
        split
        · rfl
        · rfl
      · rw [if_neg hkey, Bool.eq_false_of_not_eq_true hkey, Bool.false_and]
        rfl

/-- The three members of a result that the decoder reads. -/
theorem safeExecutionValues_of_members {members : List (String × Json)} {result : AgentRunResult}
    (hreason : members.lookup "reason" = some (.str result.reason.value))
    (hsteps : members.lookup "steps" = some (.int result.steps))
    (hpath : members.lookup "execution_path" =
      some (.arr (result.executionPath.map ExecutionPathEntry.summary)))
    (hknown : ∀ entry ∈ result.executionPath, EntryKnown runtime entry)
    (hpath_steps : result.executionPath.map (·.step) = List.range' 1 result.steps)
    (hbound : result.steps ≤ 8) :
    safeExecutionValues (some (.obj members)) registered =
      (some result.steps, some result.reason,
        if result.executionPath.all fun entry => entry.actionKey.all registered.contains
        then result.executionPath.map ExecutionPathEntry.read else []) := by
  have hlength : result.executionPath.length = result.steps := by
    have hcount := congrArg List.length hpath_steps
    rwa [List.length_map, List.length_range'] at hcount
  have hread : readPath registered 0 (result.executionPath.map ExecutionPathEntry.summary) =
      if result.executionPath.all fun entry => entry.actionKey.all registered.contains
      then some (result.executionPath.map ExecutionPathEntry.read) else none :=
    readPath_summary hknown (by rw [hlength]; exact hpath_steps) (by omega)
  have hshort : ¬ maxExecutionSteps <
      (result.executionPath.map ExecutionPathEntry.summary).length := by
    rw [List.length_map, hlength]
    exact Nat.not_lt.2 hbound
  have hagent : agentSteps (some (.int result.steps)) = some result.steps := by
    rw [agentSteps, if_pos ⟨Int.natCast_nonneg _, by exact_mod_cast hbound⟩, Int.toNat_natCast]
  have hstop : ((some (Json.str result.reason.value)).bind Json.asStr?).bind StopReason.ofString? =
      some result.reason := StopReason.ofString?_value result.reason
  rw [safeExecutionValues, hsteps, hreason, hpath, if_neg (by simp), hagent, hstop]
  simp only [executionPath, if_neg hshort, hread]
  split
  · rfl
  · rfl

/-! ## Completed runs -/

section Completed

variable {σ π : Type} {llm : LLMClient π} {checks : ValueChecks} {port : TenantToolPort σ}
  {cancelled : ℕ → ℕ → Bool} {compiled : CompiledTenantProfile} {result : AgentRunResult}

/-- If the proposal calls one of the server's tools, the profile registers it. -/
def CallsRegistered (registered : List String) (proposal : AgentProposal) : Prop :=
  ∀ call, proposal.toolCall = some call → call.name ∈ registryKeys → call.name ∈ registered

/-- What decoding is to give back: the steps, the reason and the path of the run. -/
def AgentRunResult.executionValues (result : AgentRunResult) :
    Option ℕ × Option StopReason × List ExecutionPathRead :=
  (some result.steps, some result.reason, result.executionPath.map ExecutionPathEntry.read)

theorem callsRegistered_iff {proposal : AgentProposal} :
    CallsRegistered registered proposal ↔
      ∀ key, proposal.knownAction = some key → key ∈ registered := by
  unfold CallsRegistered AgentProposal.knownAction
  constructor
  · intro h key hkey
    obtain ⟨call, hcall, hknown⟩ := Option.bind_eq_some_iff.1 hkey
    obtain ⟨rfl, hmem⟩ := knownAction_eq_some_iff.1 hknown
    exact h call hcall hmem
  · intro h call hcall hmem
    refine h call.name ?_
    rw [hcall, Option.bind_some]
    exact knownAction_eq_some_iff.2 ⟨rfl, hmem⟩

/-- In a completed run only the last call can be one that is not registered. -/
theorem path_registered_iff {base final : World σ} {total : ℕ} {front : List ExecutionPathEntry}
    {last : ExecutionPathEntry} {proposal : AgentProposal}
    (h : CompletedRun checks port runtime base total result final front last proposal) :
    (result.executionPath.all fun entry => entry.actionKey.all runtime.registeredActions.contains) =
      true ↔ CallsRegistered runtime.registeredActions proposal := by
  have hentry : ∀ entry : ExecutionPathEntry,
      entry.actionKey.all runtime.registeredActions.contains = true ↔
        ∀ key, entry.actionKey = some key → key ∈ runtime.registeredActions := by
    intro entry
    cases entry.actionKey with
    | none => simp
    | some key => simp
  rw [callsRegistered_iff, ← h.last_action, h.path, List.all_append, Bool.and_eq_true,
    List.all_eq_true]
  simp only [List.all_cons, List.all_nil, Bool.and_true, hentry]
  constructor
  · intro hall
    exact hall.2
  · intro hlast
    refine ⟨fun entry hmem key hkey => ?_, hlast⟩
    obtain ⟨-, allowed, hallowed, hsome⟩ := h.front_allowed entry hmem
    rw [hkey] at hsome
    cases hsome
    exact hallowed

/-- The decoder gives back a completed run whose members it finds exactly when
its last call is registered. -/
theorem safeExecutionValues_iff {base final : World σ} {total : ℕ}
    {front : List ExecutionPathEntry} {last : ExecutionPathEntry} {proposal : AgentProposal}
    (h : CompletedRun checks port runtime base total result final front last proposal)
    (htotal : total ≤ 8) {members : List (String × Json)}
    (hreason : members.lookup "reason" = some (.str result.reason.value))
    (hsteps : members.lookup "steps" = some (.int result.steps))
    (hpath : members.lookup "execution_path" =
      some (.arr (result.executionPath.map ExecutionPathEntry.summary))) :
    safeExecutionValues (some (.obj members)) runtime.registeredActions = result.executionValues ↔
      CallsRegistered runtime.registeredActions proposal := by
  rw [← path_registered_iff h, safeExecutionValues_of_members hreason hsteps hpath h.known
    h.path_steps (h.steps_le.trans htotal), AgentRunResult.executionValues]
  constructor
  · intro heq
    by_contra hnot
    rw [if_neg hnot, h.path] at heq
    simp at heq
  · intro hall
    rw [if_pos hall]

/-- The members that a decision keeps. -/
theorem lookup_preserved {keys : List String} {value : String → Option Json} {key : String}
    (hkey : key ∈ keys) :
    (keys.filterMap fun name => (value name).map fun found => (name, found)).lookup key =
      value key := by
  induction keys with
  | nil => cases hkey
  | cons name rest ih =>
      by_cases hname : key = name
      · subst hname
        cases hvalue : value key with
        | none =>
            rw [List.filterMap_cons_none (by rw [hvalue]; rfl)]
            by_cases hrest : key ∈ rest
            · rw [ih hrest, hvalue]
            · rw [List.lookup_eq_none_iff]
              intro member hmember
              obtain ⟨other, hother, hsome⟩ := List.mem_filterMap.1 hmember
              obtain ⟨found, -, rfl⟩ := Option.map_eq_some_iff.1 hsome
              have hne : key ≠ other := fun heq => hrest (heq ▸ hother)
              simpa using hne
        | some found =>
            rw [List.filterMap_cons_some (by rw [hvalue]; rfl), List.lookup_cons_self]
      · have hrest : key ∈ rest := (List.mem_cons.1 hkey).resolve_left hname
        cases hvalue : value name with
        | none =>
            rw [List.filterMap_cons_none (by rw [hvalue]; rfl)]
            exact ih hrest
        | some found =>
            rw [List.filterMap_cons_some (by rw [hvalue]; rfl), List.lookup_cons]
            simp only [beq_eq_false_iff_ne.2 hname]
            exact ih hrest

theorem decisionResult_lookup {approval : Approval} {job : AgentJob} {outcome key : String}
    {summary value : Json} (hresult : job.result = some summary)
    (hkey : key ∈ ApprovalRepository.preservedKeys) (hvalue : summary.get? key = some value) :
    (ApprovalRepository.decisionResult approval job outcome).get? key = some value := by
  have hpreserved : (ApprovalRepository.preservedKeys.filterMap fun name =>
      (job.result.bind fun result => result.get? name).map fun found => (name, found)).lookup key =
      some value := by
    rw [lookup_preserved hkey, hresult, Option.bind_some, hvalue]
  show (_ ++ _ : List (String × Json)).lookup key = some value
  rw [List.lookup_append, hpreserved]
  rfl

/-- A final decision on a parked job rewrites its result. -/
theorem finalizeJobForDecision_of_final {approval : Approval} {job : AgentJob}
    (hfinal : approval.status.isFinal = true) (hjob : job.status = .awaitingApproval)
    (now : Timestamp) :
    ∃ row outcome, ApprovalRepository.finalizeJobForDecision approval job now = .ok row ∧
      row.result = some (ApprovalRepository.decisionResult approval job outcome) := by
  have houtcome : ∃ status errorCode outcome,
      ApprovalRepository.decisionOutcome approval.status = some (status, errorCode, outcome) := by
    cases hstatus : approval.status with
    | approved => exact ⟨_, _, _, rfl⟩
    | rejected => exact ⟨_, _, _, rfl⟩
    | expired => exact ⟨_, _, _, rfl⟩
    | staged => simp [hstatus, ApprovalStatus.isFinal] at hfinal
    | cancelled => simp [hstatus, ApprovalStatus.isFinal] at hfinal
    | pending => simp [hstatus, ApprovalStatus.isFinal] at hfinal
  obtain ⟨status, errorCode, outcome, houtcome⟩ := houtcome
  refine ⟨ApprovalRepository.decidedRow approval job now status errorCode outcome, outcome, ?_, rfl⟩
  rw [ApprovalRepository.finalizeJobForDecision, houtcome]
  simp only [hjob, ne_eq, not_true_eq_false, if_false]

/-- Decoding what a completed run persists gives back its steps, its reason and
its path, entry by entry, exactly when the model's last proposal calls no tool
that the server has and the profile does not register.  The same holds of the
job's result after a decision on its approval has rewritten it. -/
theorem execution_path_round_trip {steps : ℕ} {messages : List AgentMessage}
    {base final : World σ} (hprofile : runtime.compiledProfile = some compiled)
    (hrun : AgentLoop.run llm (policyGatedToolExecutor checks port runtime cancelled) steps messages
      base = (.ok result, final)) (hstatus : result.status = .completed) :
    ∃ proposal transcript, llm transcript = .ok proposal ∧ result.proposal = some proposal ∧
      (safeExecutionValues (some (resultSummary result)) compiled.registeredActions =
        result.executionValues ↔ CallsRegistered compiled.registeredActions proposal) ∧
      ∀ (approval : Approval) (job : AgentJob) (now : Timestamp),
        approval.status.isFinal = true → job.status = .awaitingApproval →
        job.result = some (resultSummary result) →
        ∃ row, ApprovalRepository.finalizeJobForDecision approval job now = .ok row ∧
          (safeExecutionValues row.result compiled.registeredActions = result.executionValues ↔
            CallsRegistered compiled.registeredActions proposal) := by
  obtain ⟨front, last, proposal, transcript, hanswer, hcompleted⟩ :=
    completedRun_of_run hrun hstatus
  have hregistered : runtime.registeredActions = compiled.registeredActions := by
    rw [TrustedToolRuntimeContext.registeredActions, hprofile]
  have htotal : min steps AgentLoop.maxSteps ≤ 8 := Nat.min_le_right _ _
  rw [← hregistered]
  refine ⟨proposal, transcript, hanswer, hcompleted.answered,
    safeExecutionValues_iff hcompleted htotal rfl rfl rfl, ?_⟩
  intro approval job now hfinal hjob hresult
  obtain ⟨row, outcome, hrow, hwritten⟩ := finalizeJobForDecision_of_final hfinal hjob now
  refine ⟨row, hrow, ?_⟩
  rw [hwritten]
  -- the three members that the decoder reads are among those a decision keeps
  exact safeExecutionValues_iff hcompleted htotal
    (decisionResult_lookup hresult (by decide) rfl) (decisionResult_lookup hresult (by decide) rfl)
    (decisionResult_lookup hresult (by decide) rfl)

end Completed

/-! ## A run that is not given back -/

/-- The model calls a tool that the server has and the reply profile lacks. -/
def flagToolCall : ProposalToolCall where
  name := "flag_for_review"
  arguments := []
  name_nonempty := by decide
  arguments_nodup := List.nodup_nil

def flagProposal : AgentProposal :=
  { replyProposal with toolCalls := [flagToolCall], toolCalls_bounded := le_rfl }

def flagClient : LLMClient Unit := fun _ => .ok flagProposal

/-- The call is denied, and its entry names the tool. -/
def flagResult : AgentRunResult where
  status := .completed
  reason := .executorStopped
  messages := [
    ⟨.assistant, some "Answer the question.", some flagProposal,
    some ⟨"flag_for_review", []⟩, .null⟩,
    ⟨.tool, none, none, some ⟨"flag_for_review", []⟩,
      .obj [("decision", .str "deny"), ("status", .str "rejected"),
        ("reason", .str "action_not_configured"), ("missing_required_fields", .arr [])]⟩]
  steps := 1
  finalResponse := some "action_not_configured"
  proposal := some flagProposal
  executionPath := [⟨⟨some "flag_for_review", .deny, .rejected, .actionNotConfigured, [], none,
    false⟩, 1⟩]

theorem flagRun : AgentLoop.run flagClient
    (policyGatedToolExecutor noChecks grantingPort replyRuntime fun _ _ => false) 8 [] ⟨(), []⟩ =
    (.ok flagResult, ⟨(), []⟩) := by
  rfl

/-- The run is completed and its path has an entry, but nothing of the path is
read back. -/
theorem denied_tool_empties_path :
    ∃ compiled, compileTenantProfile replyProfile replyFingerprint = .ok compiled ∧
      replyRuntime.compiledProfile = some compiled ∧
      AgentLoop.run flagClient
        (policyGatedToolExecutor noChecks grantingPort replyRuntime fun _ _ => false) 8
        [] ⟨(), []⟩ = (.ok flagResult, ⟨(), []⟩) ∧
      flagResult.status = .completed ∧
      safeExecutionValues (some (resultSummary flagResult)) compiled.registeredActions =
        (some 1, some .executorStopped, []) ∧
      safeExecutionValues (some (resultSummary flagResult)) compiled.registeredActions ≠
        flagResult.executionValues := by
  exact ⟨_, rfl, rfl, flagRun, rfl, by decide +kernel, by decide +kernel⟩

theorem execution_path_round_trip_flag :
    ∃ compiled, replyRuntime.compiledProfile = some compiled ∧ flagResult.status = .completed ∧
      ∃ proposal transcript, flagClient transcript = .ok proposal ∧
        flagResult.proposal = some proposal ∧
        (safeExecutionValues (some (resultSummary flagResult)) compiled.registeredActions =
          flagResult.executionValues ↔ CallsRegistered compiled.registeredActions proposal) := by
  refine ⟨_, rfl, rfl, ?_⟩
  obtain ⟨proposal, transcript, hanswer, hproposal, hiff, -⟩ :=
    execution_path_round_trip rfl flagRun rfl
  exact ⟨proposal, transcript, hanswer, hproposal, hiff⟩

end IntegraIntake
