import IntegraIntake.Agent.Loop

/-!
# What happens in a run

The loop seen from outside: the transcripts the model is asked with (`asked`),
its answers (`answers`) and the calls the executor is given (`noting`).  All of
these are there for every run, also for one that raises.

`Went` follows the turns after which a run goes on.  `went_of_answers` finds them
before every answer, and `loop_cases` takes a run that returns apart into such
turns and the last one.
-/

namespace IntegraIntake

open Library

variable {σ π ε : Type}

/-- The executor, noting the calls it is given. -/
def ToolExecutor.noting (tools : ToolExecutor σ ε) : ToolExecutor (σ × List ToolCall) ε where
  execute step proposal call := fun world =>
    let outcome := tools.execute step proposal call world.1
    (outcome.1, outcome.2, world.2 ++ [call])
  evaluateTerminal step proposal := fun world =>
    let outcome := tools.evaluateTerminal step proposal world.1
    (outcome.1, outcome.2, world.2)

namespace AgentLoop

variable {llm : LLMClient π} {tools : ToolExecutor σ ε}

/-! ## The trace -/

/-- The states in which the loop asks the model, in order. -/
def asked (llm : LLMClient π) (tools : ToolExecutor σ ε) : ℕ → State → σ → List State
  | 0, _, _ => []
  | turns + 1, state, world =>
    state :: match turn llm tools state world with
      | (.ok (.goesOn next), after) => asked llm tools turns next after
      | _ => []

/-- The answer of the model in a state, if it does not raise. -/
def answer? (llm : LLMClient π) (state : State) : Option (State × AgentProposal) :=
  match llm state.messages with
  | .ok proposal => some (state, proposal)
  | .error _ => none

/-- The proposals that the loop receives, each with the state it is received in. -/
def answers (llm : LLMClient π) (tools : ToolExecutor σ ε) (turns : ℕ) (state : State)
    (world : σ) : List (State × AgentProposal) :=
  (asked llm tools turns state world).filterMap (answer? llm)

theorem length_asked_le (turns : ℕ) (state : State) (world : σ) :
    (asked llm tools turns state world).length ≤ turns := by
  induction turns generalizing state world with
  | zero => exact le_rfl
  | succ turns ih =>
      rw [asked, List.length_cons]
      apply Nat.succ_le_succ
      split
      · exact ih _ _
      · exact Nat.zero_le _

/-! ## Turns that go on -/

/-- The state after a turn in which a call is executed. -/
def State.executed (state : State) (proposal : AgentProposal) (call : ToolCall)
    (execution : ToolExecution) : State :=
  (((state.answered proposal).counted call).recorded execution.evidence).heard call execution.data

/-- A run goes on only after a call is executed. -/
theorem goesOn_cases {state next : State} {proposal : AgentProposal} {world after : σ}
    (h : answeredTurn tools (state.answered proposal) proposal world =
      (.ok (.goesOn next), after)) :
    ∃ call execution, proposal.toolCall = some call ∧
      ((state.answered proposal).counted call).consecutiveToolCalls ≠ maxConsecutiveToolCalls ∧
      next = state.executed proposal call execution := by
  rcases answeredTurn_ok h with ⟨_, -, -, hends⟩ | ⟨_, -, -, -, hends⟩ |
    ⟨call, execution, hcall, hbelow, -, houtcome⟩
  · cases hends
  · cases hends
  · refine ⟨call, execution, hcall, hbelow, ?_⟩
    unfold executedTurn at houtcome
    split at houtcome
    · cases houtcome
    · cases houtcome
    · cases houtcome
      rfl

/-- The turns from one state to another, with the proposals received in them. -/
inductive Went (llm : LLMClient π) (tools : ToolExecutor σ ε) :
    State → σ → List AgentProposal → State → σ → Prop
  | here {state : State} {world : σ} : Went llm tools state world [] state world
  | turn {state next last : State} {world after final : σ} {proposal : AgentProposal}
      {rest : List AgentProposal} (answered : llm state.messages = .ok proposal)
      (goesOn : answeredTurn tools (state.answered proposal) proposal world =
        (.ok (.goesOn next), after))
      (went : Went llm tools next after rest last final) :
      Went llm tools state world (proposal :: rest) last final

/-- A turn of the loop that goes on, with the model's answer. -/
theorem turn_goesOn {state next : State} {world after : σ}
    (h : turn llm tools state world = (.ok (.goesOn next), after)) :
    ∃ proposal, llm state.messages = .ok proposal ∧
      answeredTurn tools (state.answered proposal) proposal world =
        (.ok (.goesOn next), after) := by
  unfold turn at h
  cases hanswer : llm state.messages with
  | error error =>
      rw [hanswer] at h
      cases h
  | ok proposal =>
      rw [hanswer] at h
      exact ⟨proposal, rfl, Session.mapError_ok.1 h⟩

theorem answers_succ (turns : ℕ) (state : State) (world : σ) :
    answers llm tools (turns + 1) state world = (answer? llm state).toList ++
      match turn llm tools state world with
        | (.ok (.goesOn next), after) => answers llm tools turns next after
        | _ => [] := by
  have hrest : ∀ rest : List State, (state :: rest).filterMap (answer? llm) =
      (answer? llm state).toList ++ rest.filterMap (answer? llm) := by
    intro rest
    rw [List.filterMap_cons]
    cases answer? llm state <;> rfl
  rw [answers, asked, hrest]
  split
  · rw [answers]
  · rw [List.filterMap_nil]

/-- Every answer is received after turns that went on. -/
theorem went_of_answers {turns : ℕ} {state : State} {world : σ}
    {front back : List (State × AgentProposal)} {received : State × AgentProposal}
    (h : answers llm tools turns state world = front ++ received :: back) :
    front.length < turns ∧ llm received.1.messages = .ok received.2 ∧
      ∃ after, Went llm tools state world (front.map Prod.snd) received.1 after := by
  induction turns generalizing state world front with
  | zero =>
      have hnil : ([] : List (State × AgentProposal)) = front ++ received :: back := h
      simp at hnil
  | succ turns ih =>
      rw [answers_succ] at h
      cases hanswer : llm state.messages with
      | error error =>
          have hturn : turn llm tools state world = (.error (.provider error), world) := by
            unfold turn
            rw [hanswer]
            rfl
          have hnone : answer? llm state = none := by
            unfold answer?
            rw [hanswer]
          rw [hturn, hnone] at h
          simp at h
      | ok proposal =>
          have hsome : answer? llm state = some (state, proposal) := by
            unfold answer?
            rw [hanswer]
          rw [hsome] at h
          cases front with
          | nil =>
              obtain ⟨rfl, -⟩ := List.cons.inj h
              exact ⟨Nat.succ_pos _, hanswer, _, .here⟩
          | cons first front =>
              obtain ⟨rfl, hrest⟩ := List.cons.inj h
              split at hrest
              · rename_i next after hturn
                obtain ⟨other, hother, hgoes⟩ := turn_goesOn hturn
                obtain rfl : proposal = other := Except.ok.inj (hanswer.symm.trans hother)
                obtain ⟨hlength, hreceived, final, hwent⟩ := ih hrest
                exact ⟨Nat.succ_lt_succ hlength, hreceived, final, .turn hanswer hgoes hwent⟩
              · simp at hrest

/-- A run that returns: it ran out of turns, or its last turn ended it. -/
theorem loop_cases {turns : ℕ} {state : State} {world final : σ} {result : AgentRunResult}
    (h : loop llm tools turns state world = (.ok result, final)) :
    ∃ proposals last after, Went llm tools state world proposals last after ∧
      ((proposals.length = turns ∧ result = last.stopped .maxSteps ∧
          (answers llm tools turns state world).map Prod.snd = proposals) ∨
        ∃ proposal, llm last.messages = .ok proposal ∧
          answeredTurn tools (last.answered proposal) proposal after = (.ok (.ends result), final) ∧
          (answers llm tools turns state world).map Prod.snd = proposals ++ [proposal]) := by
  induction turns generalizing state world with
  | zero =>
      cases h
      exact ⟨[], state, _, .here, .inl ⟨rfl, rfl, rfl⟩⟩
  | succ turns ih =>
      obtain ⟨outcome, middle, hfirst, hrest⟩ := Session.bind_eq_ok h
      have hturn := hfirst
      unfold turn at hfirst
      cases hanswer : llm state.messages with
      | error error =>
          rw [hanswer] at hfirst
          cases hfirst
      | ok proposal =>
          rw [hanswer] at hfirst
          have hanswered := Session.mapError_ok.1 hfirst
          have hsome : answer? llm state = some (state, proposal) := by
            unfold answer?
            rw [hanswer]
          rw [answers_succ, hturn, hsome]
          cases outcome with
          | goesOn next =>
              obtain ⟨proposals, last, after, hwent, hcases⟩ := ih hrest
              refine ⟨proposal :: proposals, last, after, .turn hanswer hanswered hwent, ?_⟩
              rcases hcases with ⟨hlength, hresult, hall⟩ | ⟨ending, hending, hends, hall⟩
              · refine .inl ⟨congrArg Nat.succ hlength, hresult, ?_⟩
                rw [List.map_append, hall]
                rfl
              · refine .inr ⟨ending, hending, hends, ?_⟩
                rw [List.map_append, hall]
                rfl
          | ends ended =>
              cases hrest
              exact ⟨[], state, world, .here, .inr ⟨proposal, hanswer, hanswered, rfl⟩⟩

/-- A rule for what holds whenever the model is asked. -/
theorem forall_asked (I : State → Prop)
    (hturn : ∀ state proposal call execution, I state → proposal.toolCall = some call →
      I (state.executed proposal call execution))
    {turns : ℕ} {state : State} {world : σ} (hstate : I state) :
    ∀ visited ∈ asked llm tools turns state world, I visited := by
  induction turns generalizing state world with
  | zero =>
      intro visited hvisited
      cases hvisited
  | succ turns ih =>
      intro visited hvisited
      rw [asked] at hvisited
      rcases List.mem_cons.1 hvisited with rfl | hlater
      · exact hstate
      · split at hlater
        · rename_i next after hgoes
          obtain ⟨proposal, -, hanswered⟩ := turn_goesOn hgoes
          obtain ⟨call, execution, hcall, -, rfl⟩ := goesOn_cases hanswered
          exact ih (hturn state proposal call execution hstate hcall) visited hlater
        · cases hlater

/-- The same for the turns of `Went`. -/
theorem Went.keeps (I : State → Prop)
    (hturn : ∀ state proposal call execution, I state → proposal.toolCall = some call →
      I (state.executed proposal call execution))
    {state last : State} {world final : σ} {proposals : List AgentProposal}
    (h : Went llm tools state world proposals last final) (hstate : I state) : I last := by
  induction h with
  | here => exact hstate
  | turn _ hgoes _ ih =>
      obtain ⟨call, execution, hcall, -, rfl⟩ := goesOn_cases hgoes
      exact ih (hturn _ _ call execution hstate hcall)

/-- Every turn is a step. -/
theorem Went.steps_eq {state last : State} {world final : σ} {proposals : List AgentProposal}
    (h : Went llm tools state world proposals last final) :
    last.steps = state.steps + proposals.length := by
  induction h with
  | here => rfl
  | turn _ hgoes _ ih =>
      obtain ⟨call, execution, -, -, rfl⟩ := goesOn_cases hgoes
      rw [ih, List.length_cons]
      show (State.counted _ call).steps + _ = _
      rw [counted_steps]
      show _ + 1 + _ = _
      omega

end AgentLoop
end IntegraIntake
