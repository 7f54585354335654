import IntegraIntake.Agent.Loop
import IntegraIntake.Tools.Outcomes

/-!
# Runs over the policy-gated executor

The agent loop with `PolicyGatedToolExecutor` as its executor.  As long as the
run goes on, every call so far was allowed and nothing was asked of a human
(`RunInvariant`).  What a completed run looks like follows from that and from its
last step (`CompletedRun`): the last entry of its execution path is the only one
that can be anything but an allowed call.
-/

namespace IntegraIntake

open Library AgentLoop

variable {σ π : Type} {llm : LLMClient π} {checks : ValueChecks} {port : TenantToolPort σ}
  {runtime : TrustedToolRuntimeContext} {cancelled : ℕ → ℕ → Bool}

/-- The runtime as the calls of one step see it: `cancelled step n` is the n-th
look at the cancellation event in that step. -/
def TrustedToolRuntimeContext.atStep (runtime : TrustedToolRuntimeContext)
    (cancelled : ℕ → ℕ → Bool) (step : ℕ) : TrustedToolRuntimeContext :=
  { runtime with cancelled := cancelled step }

/-- `PolicyGatedToolExecutor` as the loop calls it. -/
def policyGatedToolExecutor (checks : ValueChecks) (port : TenantToolPort σ)
    (runtime : TrustedToolRuntimeContext) (cancelled : ℕ → ℕ → Bool) :
    ToolExecutor (World σ) ExecuteError where
  execute step proposal call := do
    let result ← execute checks port (runtime.atStep cancelled step) proposal call
    pure result.toExecution
  evaluateTerminal step proposal := do
    let result ← executeTerminal checks (runtime.atStep cancelled step) proposal
    pure result.toExecution

/-- The registered tool a proposal calls. -/
def AgentProposal.knownAction (proposal : AgentProposal) : Option String :=
  proposal.toolCall.bind ToolCall.knownAction

/-- What holds of every entry of an execution path. -/
structure EntryKnown (runtime : TrustedToolRuntimeContext) (entry : ExecutionPathEntry) : Prop where
  action : ∀ key, entry.actionKey = some key → key ∈ registryKeys
  missing_known : ∀ name ∈ entry.missingRequiredFields,
    name ∈ dictKeys runtime.tenantConfig.fields
  missing_sorted : sortedSet entry.missingRequiredFields = entry.missingRequiredFields

/-- The entry of a step after which the run went on. -/
def EntryAllowed (runtime : TrustedToolRuntimeContext) (entry : ExecutionPathEntry) : Prop :=
  entry.policyDecision = .allow ∧ ∃ key ∈ runtime.registeredActions, entry.actionKey = some key

/-- What holds before every turn; `total` is the number of turns the run has. -/
structure RunInvariant (runtime : TrustedToolRuntimeContext) (base : World σ) (total turns : ℕ)
    (state : State) (world : World σ) : Prop where
  budget : state.steps + turns = total
  steps : state.executionPath.map (·.step) = List.range' 1 state.steps
  known : ∀ entry ∈ state.executionPath, EntryKnown runtime entry
  allowed : ∀ entry ∈ state.executionPath, EntryAllowed runtime entry
  quiet : ∃ invoked, world.log = base.log ++ invoked ∧ .port .requestApproval ∉ invoked

/-- What the result of a completed run says about the run: `front` are the
entries of the earlier steps, `last` is the entry of the last one and `proposal`
the model's last answer. -/
structure CompletedRun (checks : ValueChecks) (port : TenantToolPort σ)
    (runtime : TrustedToolRuntimeContext) (base : World σ) (total : ℕ)
    (result : AgentRunResult) (final : World σ) (front : List ExecutionPathEntry)
    (last : ExecutionPathEntry) (proposal : AgentProposal) : Prop where
  reason : result.reason = .executorStopped
  answered : result.proposal = some proposal
  steps_le : result.steps ≤ total
  path : result.executionPath = front ++ [last]
  path_steps : result.executionPath.map (·.step) = List.range' 1 result.steps
  known : ∀ entry ∈ result.executionPath, EntryKnown runtime entry
  front_allowed : ∀ entry ∈ front, EntryAllowed runtime entry
  last_action : last.actionKey = proposal.knownAction
  last_registered : last.policyDecision ≠ .deny → ∀ key, last.actionKey = some key →
    key ∈ runtime.registeredActions
  /-- Either the last step asked for an approval, which the port granted, or
  nothing in the run did. -/
  request : (Executes.Requests last.toToolExecutionEvidence ∧
      result.finalResponse = some "approval_requested" ∧
      ∃ invoked, final.log = base.log ++ invoked ++ [.port .requestApproval] ∧
        .port .requestApproval ∉ invoked ∧
        ∃ call capability arguments reason approval before, proposal.toolCall = some call ∧
          requireAction call.name = some capability ∧
          ToolArgs.modelValidate capability.key call.arguments = .ok arguments ∧
          port.requestApproval runtime.tenantId
            (pendingAction checks runtime proposal capability arguments) reason before =
            (.ok approval, final.state)) ∨
    (¬ Executes.Requests last.toToolExecutionEvidence ∧
      ¬ (result.finalResponse = some "approval_requested" ∧
        last.policyDecision = .needsApproval ∧ last.actionKey.isSome) ∧
      ∃ invoked, final.log = base.log ++ invoked ∧ .port .requestApproval ∉ invoked)

/-! ## One turn -/

section Turn

variable {base world next : World σ} {total turns : ℕ} {state : State} {proposal : AgentProposal}
  {call : ToolCall} {execution : ToolExecutionResult}

/-- The entry of an executed call. -/
theorem entryKnown_of_execute {step : ℕ}
    (h : Executes checks port (runtime.atStep cancelled step) proposal call
      (evaluate (policyInput checks (runtime.atStep cancelled step) proposal call)) world execution
      next) (number : ℕ) :
    EntryKnown runtime (.fromTool number execution.evidence) := by
  obtain ⟨-, -, -, hmissing⟩ := h.policy_eq
  refine ⟨?_, ?_, sortedSet_idem _⟩
  · intro key hkey
    have hcalled : call.knownAction = some key := h.actionKey_eq.symm.trans hkey
    exact (knownAction_eq_some_iff.1 hcalled).2
  · intro name hname
    rw [ExecutionPathEntry.fromTool, mem_sortedSet, hmissing, mem_sortedSet] at hname
    exact evaluate_missing_known checks (runtime.atStep cancelled step) proposal call name hname

/-- The entry of a terminal proposal. -/
theorem entryKnown_of_terminal {step : ℕ}
    (h : executeTerminal checks (runtime.atStep cancelled step) proposal world =
      (.ok execution, next)) (number : ℕ) :
    EntryKnown runtime (.fromTool number execution.evidence) := by
  obtain ⟨-, -, hkey, -, -, -, hmissing⟩ := executeTerminal_ok h
  refine ⟨?_, ?_, sortedSet_idem _⟩
  · intro key hsome
    have hnone : execution.evidence.actionKey = some key := hsome
    rw [hkey] at hnone
    cases hnone
  · intro name hname
    rw [ExecutionPathEntry.fromTool, mem_sortedSet, hmissing, mem_sortedSet] at hname
    exact terminalPolicy_missing_known checks (runtime.atStep cancelled step) proposal name hname

theorem range_append_last {steps : ℕ} {path : List ExecutionPathEntry} {entry : ExecutionPathEntry}
    (hpath : path.map (·.step) = List.range' 1 steps) (hentry : entry.step = steps + 1) :
    (path ++ [entry]).map (·.step) = List.range' 1 (steps + 1) := by
  rw [List.map_append, hpath, List.map_singleton, hentry, List.range'_1_concat, Nat.add_comm 1]

theorem forall_append_last {path : List ExecutionPathEntry} {entry : ExecutionPathEntry}
    {P : ExecutionPathEntry → Prop} (hpath : ∀ e ∈ path, P e) (hentry : P entry) :
    ∀ e ∈ path ++ [entry], P e := by
  intro e he
  rcases List.mem_append.1 he with hold | hnew
  · exact hpath e hold
  · rw [List.mem_singleton.1 hnew]
    exact hentry

theorem recorded_counted_path (state : State) (call : ToolCall) (evidence : ToolExecutionEvidence) :
    ((state.counted call).recorded (some evidence)).executionPath =
      state.executionPath ++ [.fromTool state.steps evidence] := by
  rw [State.recorded, counted_executionPath, counted_steps]
  rfl

/-- A terminal proposal ends the run, and the run is completed. -/
theorem completedRun_of_terminal (hI : RunInvariant runtime base total (turns + 1) state world)
    (h : executeTerminal checks (runtime.atStep cancelled (state.answered proposal).steps) proposal
      world = (.ok execution, next)) (hterminal : proposal.toolCall = none)
    {status : RunStatus} {response : Option String} :
    CompletedRun checks port runtime base total
      (((state.answered proposal).recorded (some execution.evidence)).result status .executorStopped
        response (some proposal)) next state.executionPath
      (.fromTool (state.steps + 1) execution.evidence) proposal := by
  obtain ⟨hworld, -, hkey, -, -, -, -⟩ := executeTerminal_ok h
  have hentry :
      (ExecutionPathEntry.fromTool (state.steps + 1) execution.evidence).actionKey = none :=
    hkey
  have hbudget := hI.budget
  refine ⟨rfl, rfl, ?_, rfl, range_append_last hI.steps rfl,
    forall_append_last hI.known (entryKnown_of_terminal h _), hI.allowed, ?_, ?_, .inr ⟨?_, ?_, ?_⟩⟩
  · show state.steps + 1 ≤ total
    omega
  · rw [hentry, AgentProposal.knownAction, hterminal, Option.bind_none]
  · intro _ key hsome
    rw [hentry] at hsome
    cases hsome
  · rintro ⟨-, hsome, -⟩
    rw [hentry] at hsome
    cases hsome
  · rintro ⟨-, -, hsome⟩
    rw [hentry] at hsome
    cases hsome
  · rw [hworld]
    exact hI.quiet

/-- A call that completes ends the run, and the run is completed. -/
theorem completedRun_of_execute (hI : RunInvariant runtime base total (turns + 1) state world)
    (hcall : proposal.toolCall = some call)
    (h : Executes checks port (runtime.atStep cancelled (state.steps + 1)) proposal call
      (evaluate (policyInput checks (runtime.atStep cancelled (state.steps + 1)) proposal call))
      world execution next) :
    CompletedRun checks port runtime base total
      (((((state.answered proposal).counted call).recorded (some execution.evidence)).heard call
        execution.data).result .completed .executorStopped execution.finalResponse (some proposal))
      next state.executionPath (.fromTool (state.steps + 1) execution.evidence) proposal := by
  have hbudget := hI.budget
  have hpath := recorded_counted_path (state.answered proposal) call execution.evidence
  have haction : (ExecutionPathEntry.fromTool (state.steps + 1) execution.evidence).actionKey =
      call.knownAction := h.actionKey_eq
  obtain ⟨invoked, hlog, hnone⟩ := hI.quiet
  refine ⟨rfl, rfl, ?_, hpath, ?_, ?_, hI.allowed, ?_, ?_, ?_⟩
  · show ((state.answered proposal).counted call).steps ≤ total
    rw [counted_steps]
    show state.steps + 1 ≤ total
    omega
  · show (((state.answered proposal).counted call).recorded
      (some execution.evidence)).executionPath.map
      (·.step) = List.range' 1 ((state.answered proposal).counted call).steps
    rw [hpath, counted_steps]
    exact range_append_last hI.steps rfl
  · show ∀ entry ∈ (((state.answered proposal).counted call).recorded
      (some execution.evidence)).executionPath, EntryKnown runtime entry
    rw [hpath]
    exact forall_append_last hI.known (entryKnown_of_execute h _)
  · rw [haction, AgentProposal.knownAction, hcall, Option.bind_some]
  · intro hdecision key hkey
    have hallowed : (evaluate (policyInput checks (runtime.atStep cancelled (state.steps + 1))
        proposal call)).decision ≠ .deny := h.policy_eq.1 ▸ hdecision
    rw [haction] at hkey
    rw [← (knownAction_eq_some_iff.1 hkey).1]
    exact registered_of_not_denied hallowed
  · rcases h.requests_or_quiet with
      ⟨hrequests, -, hresponse, hnext, capability, arguments, approval, hcapability, harguments,
        hport⟩ | ⟨hnot, hsilent, more, hnext, hmore⟩
    · refine .inl ⟨hrequests, hresponse, invoked, ?_, hnone, call, capability, arguments, _,
        approval, _, hcall, hcapability, harguments, hport⟩
      rw [hnext, hlog]
    · refine .inr ⟨hnot, hsilent, invoked ++ more, ?_, ?_⟩
      · rw [hnext, hlog, List.append_assoc]
      · rw [List.mem_append, not_or]
        exact ⟨hnone, hmore⟩

/-- A call after which the run goes on keeps the invariant. -/
theorem runInvariant_of_execute (hI : RunInvariant runtime base total (turns + 1) state world)
    (h : Executes checks port (runtime.atStep cancelled (state.steps + 1)) proposal call
      (evaluate (policyInput checks (runtime.atStep cancelled (state.steps + 1)) proposal call))
      world execution next) (hcontinue : execution.disposition = .continue_) :
    RunInvariant runtime base total turns
      ((((state.answered proposal).counted call).recorded (some execution.evidence)).heard call
        execution.data) next := by
  have hbudget := hI.budget
  have hpath := recorded_counted_path (state.answered proposal) call execution.evidence
  obtain ⟨hdecision, capability, hcapability⟩ := h.allowed_of_continue hcontinue
  obtain ⟨invoked, hlog, hnone⟩ := hI.quiet
  refine ⟨?_, ?_, ?_, ?_, ?_⟩
  · show ((state.answered proposal).counted call).steps + turns = total
    rw [counted_steps]
    show state.steps + 1 + turns = total
    omega
  · show (((state.answered proposal).counted call).recorded
      (some execution.evidence)).executionPath.map
      (·.step) = List.range' 1 ((state.answered proposal).counted call).steps
    rw [hpath, counted_steps]
    exact range_append_last hI.steps rfl
  · show ∀ entry ∈ (((state.answered proposal).counted call).recorded
      (some execution.evidence)).executionPath, EntryKnown runtime entry
    rw [hpath]
    exact forall_append_last hI.known (entryKnown_of_execute h _)
  · show ∀ entry ∈ (((state.answered proposal).counted call).recorded
      (some execution.evidence)).executionPath, EntryAllowed runtime entry
    rw [hpath]
    apply forall_append_last hI.allowed
    refine ⟨h.policy_eq.1.trans hdecision, call.name, ?_, ?_⟩
    · have hallowed : (evaluate (policyInput checks (runtime.atStep cancelled (state.steps + 1))
          proposal call)).decision ≠ .deny := by
        rw [hdecision]
        decide
      exact registered_of_not_denied hallowed
    · show execution.evidence.actionKey = some call.name
      rw [h.actionKey_eq, ToolCall.knownAction, hcapability, Option.map_some]
  · rcases h.requests_or_quiet with ⟨hrequests, hcompleted, -⟩ | ⟨-, -, more, hnext, hmore⟩
    · rw [hcontinue] at hcompleted
      cases hcompleted
    · refine ⟨invoked ++ more, ?_, ?_⟩
      · rw [hnext, hlog, List.append_assoc]
      · rw [List.mem_append, not_or]
        exact ⟨hnone, hmore⟩

end Turn

/-! ## Whole runs -/

/-- What the loop establishes: a completed run has the shape of `CompletedRun`,
and its last proposal is an answer of the model. -/
def CompletedShape (llm : LLMClient π) (checks : ValueChecks) (port : TenantToolPort σ)
    (runtime : TrustedToolRuntimeContext) (base : World σ) (total : ℕ) (result : AgentRunResult)
    (final : World σ) : Prop :=
  result.status = .completed → ∃ front last proposal transcript, llm transcript = .ok proposal ∧
    CompletedRun checks port runtime base total result final front last proposal

/-- One turn, for the loop rule. -/
theorem answeredTurn_runInvariant {base : World σ} {total : ℕ} (turns : ℕ) (state : State)
    (proposal : AgentProposal) (hanswer : llm state.messages = .ok proposal) :
    Session.Establishes (fun world => RunInvariant runtime base total (turns + 1) state world)
      (answeredTurn (policyGatedToolExecutor checks port runtime cancelled)
        (state.answered proposal) proposal)
      fun outcome world => match outcome with
        | .goesOn next => RunInvariant runtime base total turns next world
        | .ends result => CompletedShape llm checks port runtime base total result world := by
  intro world outcome next hI hturn
  rcases answeredTurn_ok hturn with ⟨told, hterminal, htold, rfl⟩ | ⟨call, -, -, -, rfl⟩ |
    ⟨call, told, hcall, -, htold, rfl⟩
  · obtain ⟨execution, after, hexecution, hdone⟩ := Session.bind_eq_ok htold
    cases hdone
    have hdisposition : execution.toExecution.disposition ≠ .failed := by
      show execution.disposition ≠ .failed
      rw [(executeTerminal_ok hexecution).2.1]
      decide
    rw [if_neg hdisposition]
    intro _
    exact ⟨_, _, _, _, hanswer, completedRun_of_terminal hI hexecution hterminal⟩
  · intro hcompleted
    cases hcompleted
  · obtain ⟨execution, after, hexecution, hdone⟩ := Session.bind_eq_ok htold
    cases hdone
    have hexecutes := executes_of_ok hexecution
    have hread : execution.toExecution.disposition = execution.disposition := rfl
    cases hdisposition : execution.disposition with
    | failed =>
        simp only [executedTurn, hread, hdisposition]
        intro hcompleted
        cases hcompleted
    | completed =>
        simp only [executedTurn, hread, hdisposition]
        intro _
        exact ⟨_, _, _, _, hanswer, completedRun_of_execute hI hcall hexecutes⟩
    | continue_ =>
        simp only [executedTurn, hread, hdisposition]
        exact runInvariant_of_execute hI hexecutes hdisposition

/-- Every completed run has the shape of `CompletedRun`. -/
theorem completedRun_of_run {steps : ℕ} {messages : List AgentMessage} {base final : World σ}
    {result : AgentRunResult}
    (h : run llm (policyGatedToolExecutor checks port runtime cancelled) steps messages base =
      (.ok result, final)) :
    CompletedShape llm checks port runtime base (min steps maxSteps) result final := by
  -- running out of steps is a failure
  have hlast : ∀ state world, RunInvariant runtime base (min steps maxSteps) 0 state world →
      CompletedShape llm checks port runtime base (min steps maxSteps)
        (state.stopped .maxSteps) world := by
    intro state world _ hcompleted
    cases hcompleted
  have hinitial : RunInvariant runtime base (min steps maxSteps) (min steps maxSteps)
      (.initial messages) base := by
    refine ⟨Nat.zero_add _, rfl, ?_, ?_, [], (List.append_nil _).symm, List.not_mem_nil⟩
    · intro entry hentry
      cases hentry
    · intro entry hentry
      cases hentry
  exact loop_establishes
    (fun turns state proposal => answeredTurn_runInvariant turns state proposal)
    hlast _ _ base result final hinitial h

end IntegraIntake
