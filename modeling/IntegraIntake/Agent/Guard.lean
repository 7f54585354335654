import IntegraIntake.Agent.Calls

/-!
# The guard against repeated calls

The loop counts how often a call is repeated in a row and stops at the third
time.  Its two variables say what the last calls were (`Repeats`), so the guard
fires exactly on the third of three calls in a row that are equal for Python, and
the executor is never given the third of them (`Calm`).

Equality for Python is coarser than equality of JSON: `True`, `1` and `1.0` are
one number.  The guard does what it is for in exactly the runs in which no two
calls in a row differ only by that (`guard_exact_iff`).
-/

namespace IntegraIntake

open Library

namespace AgentLoop

variable {σ π ε : Type} {llm : LLMClient π} {tools : ToolExecutor σ ε}

/-! ## What the counter says -/

/-- What the guard's variables say about the calls so far, the latest first. -/
inductive Repeats : List ToolCall → State → Prop
  | none {state : State} (previous : state.previousToolCall = none)
      (count : state.consecutiveToolCalls = 0) : Repeats [] state
  | once {state : State} {call : ToolCall} {rest : List ToolCall}
      (previous : state.previousToolCall = some call) (count : state.consecutiveToolCalls = 1)
      (changed : ∀ before ∈ rest.head?, call.pyEq before = false) : Repeats (call :: rest) state
  | twice {state : State} {call first : ToolCall} {rest : List ToolCall}
      (previous : state.previousToolCall = some first) (count : state.consecutiveToolCalls = 2)
      (equal : call.pyEq first = true)
      (changed : ∀ before ∈ rest.head?, first.pyEq before = false) :
      Repeats (call :: first :: rest) state

/-- A call is the third of its kind in a row. -/
def Third (history : List ToolCall) (call : ToolCall) : Prop :=
  ∃ second first rest, history = second :: first :: rest ∧ call.pyEq second = true ∧
    second.pyEq first = true

/-- What counting a call comes to. -/
structure Counting (history : List ToolCall) (call : ToolCall) (state : State) : Prop where
  stops_iff : (state.counted call).consecutiveToolCalls = maxConsecutiveToolCalls ↔
    Third history call
  raised_iff : 1 < (state.counted call).consecutiveToolCalls ↔
    ∃ before rest, history = before :: rest ∧ call.pyEq before = true
  repeats : (state.counted call).consecutiveToolCalls ≠ maxConsecutiveToolCalls →
    Repeats (call :: history) (state.counted call)

theorem counted_same {state : State} {call previous : ToolCall}
    (hprevious : state.previousToolCall = some previous) (hequal : call.pyEq previous = true) :
    state.counted call =
      { state with consecutiveToolCalls := state.consecutiveToolCalls + 1 } := by
  unfold State.counted
  rw [if_pos]
  rw [hprevious]
  exact hequal

theorem counted_changed {state : State} {call : ToolCall}
    (h : ∀ previous ∈ state.previousToolCall, call.pyEq previous = false) :
    state.counted call =
      { state with previousToolCall := some call, consecutiveToolCalls := 1 } := by
  unfold State.counted
  rw [if_neg]
  cases hprevious : state.previousToolCall with
  | none => simp
  | some previous => simpa using h previous (by rw [hprevious]; rfl)

/-- A call that differs from the latest starts a new row. -/
theorem counting_changed {history : List ToolCall} {call : ToolCall} {state : State}
    (hprevious : ∀ previous ∈ state.previousToolCall, call.pyEq previous = false)
    (hlatest : ∀ before ∈ history.head?, call.pyEq before = false) :
    Counting history call state := by
  have hcounted := counted_changed hprevious
  have hdiffers : ∀ before rest, history = before :: rest → call.pyEq before ≠ true := by
    rintro before rest rfl hequal
    rw [hlatest before rfl] at hequal
    cases hequal
  refine ⟨?_, ?_, fun _ => ?_⟩
  · rw [hcounted]
    refine iff_of_false (by simp [maxConsecutiveToolCalls]) ?_
    rintro ⟨second, first, rest, rfl, hequal, -⟩
    exact hdiffers _ _ rfl hequal
  · rw [hcounted]
    refine iff_of_false (by simp) ?_
    rintro ⟨before, rest, rfl, hequal⟩
    exact hdiffers _ _ rfl hequal
  · rw [hcounted]
    exact .once rfl rfl hlatest

theorem Repeats.counting {history : List ToolCall} {call : ToolCall} {state : State}
    (h : Repeats history state) (hhistory : ∀ earlier ∈ history, earlier.Proposed)
    (hcall : call.Proposed) : Counting history call state := by
  cases h with
  | none hprevious hcount =>
      refine counting_changed ?_ ?_
      · rw [hprevious]
        rintro previous ⟨⟩
      · rintro before ⟨⟩
  | @once _ latest rest hprevious hcount hchanged =>
      -- the second in a row is counted, and the run goes on
      cases hequal : call.pyEq latest with
      | false =>
          refine counting_changed ?_ ?_
          · rw [hprevious]
            rintro previous ⟨⟩
            exact hequal
          · rintro before ⟨⟩
            exact hequal
      | true =>
          have hcounted := counted_same hprevious hequal
          refine ⟨?_, ?_, fun _ => ?_⟩
          · rw [hcounted]
            refine iff_of_false (by simp [hcount, maxConsecutiveToolCalls]) ?_
            rintro ⟨second, first, others, hcons, -, hsame⟩
            obtain ⟨rfl, rfl⟩ := List.cons.inj hcons
            rw [hchanged first rfl] at hsame
            cases hsame
          · rw [hcounted]
            exact iff_of_true (by simp [hcount]) ⟨latest, rest, rfl, hequal⟩
          · rw [hcounted]
            exact .twice hprevious (by simp [hcount]) hequal hchanged
  | @twice _ latest first rest hprevious hcount hsame hchanged =>
      have hlatest : latest.Proposed := hhistory _ List.mem_cons_self
      have hfirst : first.Proposed := hhistory _ (List.mem_cons_of_mem _ List.mem_cons_self)
      cases hequal : call.pyEq first with
      | false =>
          -- equal to the latest would be equal to the first of the row
          have hdiffers : call.pyEq latest = false := by
            refine Bool.eq_false_iff.2 fun hlater => ?_
            rw [ToolCall.pyEq_trans hcall hlatest hfirst hlater hsame] at hequal
            cases hequal
          refine counting_changed ?_ ?_
          · rw [hprevious]
            rintro previous ⟨⟩
            exact hequal
          · rintro before ⟨⟩
            exact hdiffers
      | true =>
          have hcounted := counted_same hprevious hequal
          have hlater : call.pyEq latest = true :=
            ToolCall.pyEq_trans hcall hfirst hlatest hequal
              (ToolCall.pyEq_symm hlatest hfirst hsame)
          have hcount' : (state.counted call).consecutiveToolCalls = 3 := by
            rw [hcounted]
            simp [hcount]
          refine ⟨?_, ?_, fun hbelow => absurd hcount' hbelow⟩
          · exact iff_of_true hcount' ⟨latest, first, rest, rfl, hlater, hsame⟩
          · exact iff_of_true (by rw [hcount']; decide) ⟨latest, first :: rest, rfl, hlater⟩

theorem Repeats.congr {history : List ToolCall} {state other : State} (h : Repeats history state)
    (hprevious : other.previousToolCall = state.previousToolCall)
    (hcount : other.consecutiveToolCalls = state.consecutiveToolCalls) :
    Repeats history other := by
  cases h with
  | none hnone hzero => exact .none (hprevious.trans hnone) (hcount.trans hzero)
  | once hsome hone hchanged => exact .once (hprevious.trans hsome) (hcount.trans hone) hchanged
  | twice hsome htwo hequal hchanged =>
      exact .twice (hprevious.trans hsome) (hcount.trans htwo) hequal hchanged

theorem Repeats.answered {history : List ToolCall} {state : State} (h : Repeats history state)
    (proposal : AgentProposal) : Repeats history (state.answered proposal) :=
  h.congr rfl rfl

/-- After a call is executed the variables speak of it. -/
theorem Repeats.executed {history : List ToolCall} {state : State} (h : Repeats history state)
    (hhistory : ∀ earlier ∈ history, earlier.Proposed) {proposal : AgentProposal} {call : ToolCall}
    (hcall : proposal.toolCall = some call) (execution : ToolExecution)
    (hbelow : ((state.answered proposal).counted call).consecutiveToolCalls ≠
      maxConsecutiveToolCalls) :
    Repeats (call :: history) (state.executed proposal call execution) := by
  have hcounting := (h.answered proposal).counting hhistory (AgentProposal.toolCall_proposed hcall)
  exact (hcounting.repeats hbelow).congr rfl rfl

/-! ## Along a run -/

/-- The calls of proposals, the latest first. -/
def callHistory (proposals : List AgentProposal) : List ToolCall :=
  (proposals.filterMap AgentProposal.toolCall).reverse

theorem callHistory_proposed (proposals : List AgentProposal) :
    ∀ call ∈ callHistory proposals, call.Proposed := by
  intro call hcall
  obtain ⟨proposal, -, hproposal⟩ := List.mem_filterMap.1 (List.mem_reverse.1 hcall)
  exact AgentProposal.toolCall_proposed hproposal

theorem callHistory_append (proposals : List AgentProposal) {proposal : AgentProposal}
    {call : ToolCall} (h : proposal.toolCall = some call) :
    callHistory (proposals ++ [proposal]) = call :: callHistory proposals := by
  simp [callHistory, h]

/-- The history grows by a call a turn. -/
theorem Went.repeats_from {state last : State} {world final : σ} {proposals : List AgentProposal}
    (h : Went llm tools state world proposals last final) {earlier : List AgentProposal}
    (hstate : Repeats (callHistory earlier) state) :
    Repeats (callHistory (earlier ++ proposals)) last := by
  induction h generalizing earlier with
  | here => rwa [List.append_nil]
  | @turn _ _ _ _ _ _ proposal rest _ hgoes _ ih =>
      obtain ⟨call, execution, hcall, hbelow, rfl⟩ := goesOn_cases hgoes
      have hnext := hstate.executed (callHistory_proposed earlier) hcall execution hbelow
      rw [← callHistory_append earlier hcall] at hnext
      have hlast := ih hnext
      rwa [List.append_assoc] at hlast

theorem Went.repeats {last : State} {world final : σ} {messages : List AgentMessage}
    {proposals : List AgentProposal}
    (h : Went llm tools (.initial messages) world proposals last final) :
    Repeats (callHistory proposals) last := by
  have hinitial : Repeats (callHistory []) (.initial messages) := .none rfl rfl
  simpa using h.repeats_from hinitial

theorem Went.toolCall_isSome {state last : State} {world final : σ}
    {proposals : List AgentProposal} (h : Went llm tools state world proposals last final) :
    ∀ proposal ∈ proposals, ∃ call, proposal.toolCall = some call := by
  induction h with
  | here => simp
  | turn _ hgoes _ ih =>
      obtain ⟨call, -, hcall, -⟩ := goesOn_cases hgoes
      exact List.forall_mem_cons.2 ⟨⟨call, hcall⟩, ih⟩

/-! ## What the executor is given -/

/-- No call is the third of its kind in a row; the latest comes first. -/
def Calm (history : List ToolCall) : Prop :=
  ∀ front third second first rest, history = front ++ third :: second :: first :: rest →
    ¬ (third.pyEq second = true ∧ second.pyEq first = true)

theorem Calm.cons {history : List ToolCall} (h : Calm history) {call : ToolCall}
    (hcall : ¬ Third history call) : Calm (call :: history) := by
  intro front third second first rest hhistory hequal
  cases front with
  | nil =>
      obtain ⟨rfl, rfl⟩ := List.cons.inj hhistory
      exact hcall ⟨second, first, rest, rfl, hequal⟩
  | cons latest front =>
      exact h front third second first rest (List.cons.inj hhistory).2 hequal

/-- One turn gives the executor nothing, or a call that may be executed. -/
theorem answeredTurn_noting (tools : ToolExecutor σ ε) (state : State) (proposal : AgentProposal)
    (world : σ) (log : List ToolCall) :
    ((answeredTurn tools.noting (state.answered proposal) proposal (world, log)).2.2 = log ∧
        ∀ next, (answeredTurn tools.noting (state.answered proposal) proposal (world, log)).1 ≠
          .ok (.goesOn next)) ∨
      ∃ call, proposal.toolCall = some call ∧
        ((state.answered proposal).counted call).consecutiveToolCalls ≠ maxConsecutiveToolCalls ∧
        (answeredTurn tools.noting (state.answered proposal) proposal (world, log)).2.2 =
          log ++ [call] := by
  unfold answeredTurn
  by_cases hterminal : proposal.isTerminal = true
  · left
    rw [if_pos hterminal, terminalTurn, Session.bind_run]
    cases houtcome : tools.evaluateTerminal (state.answered proposal).steps proposal world with
    | mk outcome after =>
        have hnoting : tools.noting.evaluateTerminal (state.answered proposal).steps proposal
            (world, log) = (outcome, after, log) := by
          simp only [ToolExecutor.noting, houtcome]
        rw [hnoting]
        cases outcome with
        | error error => exact ⟨rfl, fun next h => nomatch h⟩
        | ok execution =>
            refine ⟨rfl, fun next h => ?_⟩
            cases Except.ok.inj h
  · rw [if_neg hterminal]
    obtain ⟨call, hcall⟩ := toolCall_isSome_of_not_terminal (by simpa using hterminal)
    simp only [hcall, toolTurn]
    by_cases hlimit : ((state.answered proposal).counted call).consecutiveToolCalls =
        maxConsecutiveToolCalls
    · left
      rw [if_pos hlimit]
      refine ⟨rfl, fun next h => ?_⟩
      cases Except.ok.inj h
    · right
      refine ⟨call, rfl, hlimit, ?_⟩
      rw [if_neg hlimit, Session.bind_run]
      cases houtcome : tools.execute (state.answered proposal).steps proposal call world with
      | mk outcome after =>
          have hnoting : tools.noting.execute (state.answered proposal).steps proposal call
              (world, log) = (outcome, after, log ++ [call]) := by
            simp only [ToolExecutor.noting, houtcome]
          rw [hnoting]
          cases outcome <;> rfl

/-- What the executor may have been given. -/
structure GivenCalls (log : List ToolCall) : Prop where
  proposed : ∀ call ∈ log, call.Proposed
  calm : Calm log.reverse

theorem GivenCalls.proposed_reverse {log : List ToolCall} (h : GivenCalls log) :
    ∀ call ∈ log.reverse, call.Proposed := fun call hcall =>
  h.proposed call (List.mem_reverse.1 hcall)

theorem GivenCalls.concat {log : List ToolCall} (h : GivenCalls log) {call : ToolCall}
    (hcall : call.Proposed) (hthird : ¬ Third log.reverse call) : GivenCalls (log ++ [call]) := by
  refine ⟨fun earlier hearlier => ?_, ?_⟩
  · rw [List.mem_append, List.mem_singleton] at hearlier
    rcases hearlier with hold | rfl
    · exact h.proposed earlier hold
    · exact hcall
  · rw [List.reverse_append]
    exact h.calm.cons hthird

theorem loop_noting_given (turns : ℕ) (state : State) (world : σ) (log : List ToolCall)
    (hrepeats : Repeats log.reverse state) (hgiven : GivenCalls log) :
    GivenCalls (loop llm tools.noting turns state (world, log)).2.2 := by
  induction turns generalizing state world log with
  | zero => exact hgiven
  | succ turns ih =>
      rw [loop, Session.bind_run]
      unfold turn
      cases hanswer : llm state.messages with
      | error error => exact hgiven
      | ok proposal =>
          have hcases := answeredTurn_noting tools state proposal world log
          simp only [Session.mapError]
          cases hturn : answeredTurn tools.noting (state.answered proposal) proposal
            (world, log) with
          | mk outcome after =>
              rw [hturn] at hcases
              rcases hcases with ⟨hlog, hnot⟩ | ⟨call, hcall, hbelow, hlog⟩
              · have hafter : GivenCalls after.2 := by
                  have hlog' : after.2 = log := hlog
                  rwa [hlog']
                cases outcome with
                | error error => exact hafter
                | ok done =>
                    cases done with
                    | ends result => exact hafter
                    | goesOn next => exact absurd rfl (hnot next)
              · have hproposed := AgentProposal.toolCall_proposed hcall
                have hcounting :=
                  (hrepeats.answered proposal).counting hgiven.proposed_reverse hproposed
                have hlog' : after.2 = log ++ [call] := hlog
                have hafter : GivenCalls after.2 := by
                  rw [hlog']
                  exact hgiven.concat hproposed fun hthird =>
                    hbelow (hcounting.stops_iff.2 hthird)
                cases outcome with
                | error error => exact hafter
                | ok done =>
                    cases done with
                    | ends result => exact hafter
                    | goesOn next =>
                        obtain ⟨other, execution, hother, -, rfl⟩ := goesOn_cases hturn
                        obtain rfl : call = other := Option.some.inj (hcall.symm.trans hother)
                        have hnext :=
                          hrepeats.executed hgiven.proposed_reverse hcall execution hbelow
                        have hreverse : after.2.reverse = call :: log.reverse := by
                          rw [hlog', List.reverse_append]
                          rfl
                        rw [← hreverse] at hnext
                        exact ih _ after.1 after.2 hnext hafter

theorem run_noting_given (llm : LLMClient π) (tools : ToolExecutor σ ε) (steps : ℕ)
    (messages : List AgentMessage) (world : σ) :
    GivenCalls (run llm tools.noting steps messages (world, [])).2.2 := by
  refine loop_noting_given _ _ _ _ (.none rfl rfl) ⟨by simp, ?_⟩
  intro front third second first rest hnil
  simp at hnil

/-- Whatever the model answers and the executor does, the executor is not given
three calls in a row that are equal for Python. -/
theorem run_noting_calm (steps : ℕ) (messages : List AgentMessage) (world : σ)
    {front back : List ToolCall} {first second third : ToolCall}
    (h : (run llm tools.noting steps messages (world, [])).2.2 =
      front ++ first :: second :: third :: back) :
    ¬ (third.pyEq second = true ∧ second.pyEq first = true) := by
  refine (run_noting_given llm tools steps messages world).calm back.reverse third second first
    front.reverse ?_
  rw [h]
  simp

/-! ## The guard and identical calls -/

/-- The calls of two proposals are identical. -/
def SameCall (left right : AgentProposal) : Prop :=
  ∃ call other, left.toolCall = some call ∧ right.toolCall = some other ∧ call.Identical other

/-- The calls of two proposals are equal for Python and differ in JSON. -/
def Confused (left right : AgentProposal) : Prop :=
  ∃ call other, left.toolCall = some call ∧ right.toolCall = some other ∧
    other.pyEq call = true ∧ ¬ call.Identical other

/-- The guard counts the call of a proposal as a repetition. -/
def CountsAsRepetition (received : State × AgentProposal) : Prop :=
  ∃ call, received.2.toolCall = some call ∧
    1 < ((received.1.answered received.2).counted call).consecutiveToolCalls

/-- What the guard is for: a run stops with `REPEATED_TOOL` exactly on the third
of three identical calls, calls that differ are not counted as repetitions, and
the third of three identical calls is never executed. -/
structure GuardExact (llm : LLMClient π) (tools : ToolExecutor σ ε) (steps : ℕ)
    (messages : List AgentMessage) (world : σ) : Prop where
  stops_iff : ∀ result final, run llm tools steps messages world = (.ok result, final) →
    (result.reason = .repeatedTool ↔ ∃ front first second third,
      (answers llm tools (min steps maxSteps) (.initial messages) world).map Prod.snd =
        front ++ [first, second, third] ∧ SameCall first second ∧ SameCall second third)
  counts_identical : ∀ front before received back,
    answers llm tools (min steps maxSteps) (.initial messages) world =
      front ++ before :: received :: back →
    CountsAsRepetition received → SameCall before.2 received.2
  never_third : ∀ front first second third back,
    (run llm tools.noting steps messages (world, [])).2.2 =
      front ++ first :: second :: third :: back →
    ¬ (first.Identical second ∧ second.Identical third)

/-- The calls of two proposals are equal for Python. -/
def EqualCall (left right : AgentProposal) : Prop :=
  ∃ call other, left.toolCall = some call ∧ right.toolCall = some other ∧ other.pyEq call = true

theorem SameCall.equal {left right : AgentProposal} (h : SameCall left right) :
    EqualCall left right := by
  obtain ⟨call, other, hcall, hother, hsame⟩ := h
  exact ⟨call, other, hcall, hother, hsame.symm.pyEq (AgentProposal.toolCall_proposed hother)
    (AgentProposal.toolCall_proposed hcall)⟩

/-- A call is counted as a repetition exactly when it is equal for Python to the
call before it. -/
theorem countsAsRepetition_iff {steps : ℕ} {messages : List AgentMessage} {world : σ}
    {front back : List (State × AgentProposal)} {before received : State × AgentProposal}
    (h : answers llm tools steps (.initial messages) world = front ++ before :: received :: back) :
    CountsAsRepetition received ↔ EqualCall before.2 received.2 := by
  have hsplit : answers llm tools steps (.initial messages) world =
      (front ++ [before]) ++ received :: back := by
    rw [h, List.append_assoc]
    rfl
  obtain ⟨-, -, after, hwent⟩ := went_of_answers hsplit
  rw [List.map_append] at hwent
  obtain ⟨previous, hprevious⟩ := hwent.toolCall_isSome before.2 (by simp)
  have hrepeats := hwent.repeats
  have hhistory : callHistory (front.map Prod.snd ++ [before.2]) =
      previous :: callHistory (front.map Prod.snd) := callHistory_append _ hprevious
  have hproposed := callHistory_proposed (front.map Prod.snd ++ [before.2])
  rw [List.map_singleton, hhistory] at hrepeats
  rw [hhistory] at hproposed
  have hraised : ∀ call, received.2.toolCall = some call →
      (1 < ((received.1.answered received.2).counted call).consecutiveToolCalls ↔
        call.pyEq previous = true) := by
    intro call hcall
    rw [((hrepeats.answered received.2).counting hproposed
      (AgentProposal.toolCall_proposed hcall)).raised_iff]
    constructor
    · rintro ⟨latest, rest, hcons, hequal⟩
      rw [(List.cons.inj hcons).1]
      exact hequal
    · exact fun hequal => ⟨previous, _, rfl, hequal⟩
  constructor
  · rintro ⟨call, hcall, hcount⟩
    exact ⟨previous, call, hprevious, hcall, (hraised call hcall).1 hcount⟩
  · rintro ⟨call, other, hcall, hother, hequal⟩
    obtain rfl : previous = call := Option.some.inj (hprevious.symm.trans hcall)
    exact ⟨other, hother, (hraised other hother).2 hequal⟩

theorem exists_of_callHistory {proposals : List AgentProposal}
    (hcalls : ∀ proposal ∈ proposals, ∃ call, proposal.toolCall = some call)
    {second first : ToolCall} {rest : List ToolCall}
    (h : callHistory proposals = second :: first :: rest) :
    ∃ front left right, proposals = front ++ [left, right] ∧ left.toolCall = some first ∧
      right.toolCall = some second := by
  -- the latest call is that of the last proposal, the one before it of the one before
  have hlast : ∀ {others : List AgentProposal} {call : ToolCall} {earlier : List ToolCall},
      (∀ proposal ∈ others, ∃ call, proposal.toolCall = some call) →
      callHistory others = call :: earlier →
      ∃ front proposal, others = front ++ [proposal] ∧ proposal.toolCall = some call ∧
        callHistory front = earlier := by
    intro others call earlier hothers hhistory
    rcases List.eq_nil_or_concat others with rfl | ⟨front, proposal, rfl⟩
    · cases hhistory
    · rw [List.concat_eq_append] at hothers hhistory ⊢
      obtain ⟨found, hfound⟩ := hothers proposal (by simp)
      rw [callHistory_append front hfound] at hhistory
      obtain ⟨rfl, rfl⟩ := List.cons.inj hhistory
      exact ⟨front, proposal, rfl, hfound, rfl⟩
  obtain ⟨others, right, rfl, hright, hothers⟩ := hlast hcalls h
  obtain ⟨front, left, rfl, hleft, -⟩ :=
    hlast (fun proposal hproposal => hcalls proposal (List.mem_append_left _ hproposal)) hothers
  exact ⟨front, left, right, by simp, hleft, hright⟩

/-- The last of three proposals with equal calls is the third of its kind. -/
theorem third_of_pyEq {front : List AgentProposal} {left right : AgentProposal}
    {first second third : ToolCall} (hleft : left.toolCall = some first)
    (hright : right.toolCall = some second) (hlater : third.pyEq second = true)
    (hearlier : second.pyEq first = true) :
    Third (callHistory (front ++ [left, right])) third := by
  have hhistory : callHistory (front ++ [left, right]) = second :: first :: callHistory front := by
    have hsplit : front ++ [left, right] = (front ++ [left]) ++ [right] := by simp
    rw [hsplit, callHistory_append _ hright, callHistory_append _ hleft]
  exact ⟨second, first, _, hhistory, hlater, hearlier⟩

/-- Three calls in a row of which two would have been let through cannot be equal. -/
theorem Repeats.not_three {state : State} {rest : List ToolCall} {first second third : ToolCall}
    (h : Repeats (third :: second :: first :: rest) state) :
    ¬ (third.pyEq second = true ∧ second.pyEq first = true) := by
  rintro ⟨hlater, hearlier⟩
  cases h with
  | once _ _ hchanged =>
      rw [hchanged second rfl] at hlater
      cases hlater
  | twice _ _ _ hchanged =>
      rw [hchanged first rfl] at hearlier
      cases hearlier

/-- The last of three proposals is the last of all. -/
theorem eq_of_concat_eq {proposals front : List AgentProposal}
    {proposal left middle right : AgentProposal}
    (h : proposals ++ [proposal] = front ++ [left, middle, right]) :
    proposals = front ++ [left, middle] ∧ proposal = right := by
  have hsplit : proposals ++ [proposal] = (front ++ [left, middle]) ++ [right] := by
    rw [h]
    simp
  obtain ⟨hfront, hlast⟩ := List.append_inj' hsplit rfl
  exact ⟨hfront, List.singleton_inj.1 hlast⟩

/-- A run stops for repetition exactly on the third of three equal calls. -/
theorem reason_eq_repeatedTool_iff {steps : ℕ} {messages : List AgentMessage} {world final : σ}
    {result : AgentRunResult} (h : run llm tools steps messages world = (.ok result, final)) :
    result.reason = .repeatedTool ↔ ∃ front first second third,
      (answers llm tools (min steps maxSteps) (.initial messages) world).map Prod.snd =
        front ++ [first, second, third] ∧ EqualCall first second ∧ EqualCall second third := by
  obtain ⟨proposals, last, after, hwent, hcases⟩ := loop_cases h
  have hrepeats := hwent.repeats
  rcases hcases with ⟨-, rfl, hreceived⟩ | ⟨proposal, -, hends, hreceived⟩
  · -- three equal calls would have stopped the run before its turns ran out
    refine iff_of_false (by rintro ⟨⟩) ?_
    rintro ⟨front, left, middle, right, hall, ⟨first, second, hfirst, hsecond, hearlier⟩,
      ⟨second', third, hsecond', hthird, hlater⟩⟩
    obtain rfl : second = second' := Option.some.inj (hsecond.symm.trans hsecond')
    have hhistory : callHistory proposals =
        third :: second :: first :: callHistory front := by
      have hsplit : proposals = ((front ++ [left]) ++ [middle]) ++ [right] := by
        rw [← hreceived, hall]
        simp
      rw [hsplit, callHistory_append _ hthird, callHistory_append _ hsecond,
        callHistory_append _ hfirst]
    rw [hhistory] at hrepeats
    exact hrepeats.not_three ⟨hlater, hearlier⟩
  rw [hreceived]
  have hproposed := callHistory_proposed proposals
  -- what the last three proposals say about the last call
  have hthree : ∀ {call : ToolCall}, proposal.toolCall = some call →
      ((∃ front first second third, proposals ++ [proposal] = front ++ [first, second, third] ∧
        EqualCall first second ∧ EqualCall second third) ↔ Third (callHistory proposals) call) := by
    intro call hcall
    constructor
    · rintro ⟨front, left, middle, right, hall, ⟨first, second, hfirst, hsecond, hearlier⟩,
        ⟨second', third, hsecond', hthird, hlater⟩⟩
      obtain rfl : second = second' := Option.some.inj (hsecond.symm.trans hsecond')
      obtain ⟨rfl, rfl⟩ := eq_of_concat_eq hall
      obtain rfl : third = call := Option.some.inj (hthird.symm.trans hcall)
      exact third_of_pyEq hfirst hsecond hlater hearlier
    · rintro ⟨second, first, rest, hhistory, hlater, hearlier⟩
      obtain ⟨front, left, right, rfl, hleft, hright⟩ :=
        exists_of_callHistory hwent.toolCall_isSome hhistory
      exact ⟨front, left, right, proposal, by simp, ⟨first, second, hleft, hright, hearlier⟩,
        ⟨second, call, hright, hcall, hlater⟩⟩
  rcases answeredTurn_ok hends with ⟨execution, hterminal, -, houtcome⟩ |
    ⟨call, hcall, -, hlimit, houtcome⟩ | ⟨call, execution, hcall, hbelow, -, houtcome⟩
  -- the last proposal asks for no tool
  · refine iff_of_false ?_ ?_
    · split at houtcome <;> cases houtcome <;> rintro ⟨⟩
    · rintro ⟨front, left, middle, right, hall, -, ⟨second, third, -, hthird, -⟩⟩
      rw [← (eq_of_concat_eq hall).2, hterminal] at hthird
      cases hthird
  · have hcounting := (hrepeats.answered proposal).counting hproposed
      (AgentProposal.toolCall_proposed hcall)
    cases houtcome
    exact iff_of_true rfl ((hthree hcall).2 (hcounting.stops_iff.1 hlimit))
  · have hcounting := (hrepeats.answered proposal).counting hproposed
      (AgentProposal.toolCall_proposed hcall)
    refine iff_of_false ?_ fun hall => hbelow (hcounting.stops_iff.2 ((hthree hcall).1 hall))
    unfold executedTurn at houtcome
    split at houtcome <;> cases houtcome <;> rintro ⟨⟩

/-- Neighbours in the list of proposals are neighbours among the answers. -/
theorem exists_neighbours {received : List (State × AgentProposal)} {front : List AgentProposal}
    {left right : AgentProposal} {back : List AgentProposal}
    (h : received.map Prod.snd = front ++ left :: right :: back) :
    ∃ earlier first second later, received = earlier ++ first :: second :: later ∧
      first.2 = left ∧ second.2 = right := by
  obtain ⟨earlier, others, rfl, -, hothers⟩ := List.map_eq_append_iff.1 h
  obtain ⟨first, rest, rfl, hfirst, hrest⟩ := List.map_eq_cons_iff.1 hothers
  obtain ⟨second, later, rfl, hsecond, -⟩ := List.map_eq_cons_iff.1 hrest
  exact ⟨earlier, first, second, later, rfl, hfirst, hsecond⟩

/-- The guard does what it is for in exactly the runs in which no call is followed
by one that is equal to it for Python and differs from it in JSON. -/
theorem guard_exact_iff (llm : LLMClient π) (tools : ToolExecutor σ ε) (steps : ℕ)
    (messages : List AgentMessage) (world : σ) :
    GuardExact llm tools steps messages world ↔ ∀ front before received back,
      answers llm tools (min steps maxSteps) (.initial messages) world =
        front ++ before :: received :: back → ¬ Confused before.2 received.2 := by
  constructor
  · rintro hexact front before received back hanswers ⟨call, other, hcall, hother, hequal, hdiffer⟩
    have hcounts := (countsAsRepetition_iff hanswers).2 ⟨call, other, hcall, hother, hequal⟩
    obtain ⟨call', other', hcall', hother', hsame⟩ :=
      hexact.counts_identical front before received back hanswers hcounts
    obtain rfl : call = call' := Option.some.inj (hcall.symm.trans hcall')
    obtain rfl : other = other' := Option.some.inj (hother.symm.trans hother')
    exact hdiffer hsame
  · intro hclear
    -- calls in a row that are equal for Python are identical here
    have hidentical : ∀ {front : List AgentProposal} {left right : AgentProposal}
        {back : List AgentProposal},
        (answers llm tools (min steps maxSteps) (.initial messages) world).map Prod.snd =
          front ++ left :: right :: back → EqualCall left right → SameCall left right := by
      rintro front left right back hreceived ⟨call, other, hcall, hother, hequal⟩
      obtain ⟨earlier, first, second, later, hanswers, rfl, rfl⟩ := exists_neighbours hreceived
      refine ⟨call, other, hcall, hother, ?_⟩
      by_contra hdiffer
      exact hclear earlier first second later hanswers ⟨call, other, hcall, hother, hequal, hdiffer⟩
    refine ⟨fun result final hrun => ?_, ?_, ?_⟩
    · rw [reason_eq_repeatedTool_iff hrun]
      constructor
      · rintro ⟨front, first, second, third, hreceived, hearlier, hlater⟩
        have hshifted : (answers llm tools (min steps maxSteps) (.initial messages)
            world).map Prod.snd = (front ++ [first]) ++ [second, third] := by
          rw [hreceived]
          simp
        exact ⟨front, first, second, third, hreceived, hidentical hreceived hearlier,
          hidentical hshifted hlater⟩
      · rintro ⟨front, first, second, third, hreceived, hearlier, hlater⟩
        exact ⟨front, first, second, third, hreceived, hearlier.equal, hlater.equal⟩
    · intro front before received back hanswers hcounts
      have hreceived : (answers llm tools (min steps maxSteps) (.initial messages)
          world).map Prod.snd =
            front.map Prod.snd ++ before.2 :: received.2 :: back.map Prod.snd := by
        rw [hanswers, List.map_append]
        rfl
      exact hidentical hreceived ((countsAsRepetition_iff hanswers).1 hcounts)
    · intro front first second third back hlog hsame
      have hproposed : ∀ call ∈ [first, second, third], call.Proposed := by
        intro call hcall
        refine (run_noting_given llm tools steps messages world).proposed call ?_
        rw [hlog]
        simp only [List.mem_append, List.mem_cons] at hcall ⊢
        tauto
      refine run_noting_calm steps messages world hlog ⟨?_, ?_⟩
      · exact hsame.2.symm.pyEq (hproposed third (by simp)) (hproposed second (by simp))
      · exact hsame.1.symm.pyEq (hproposed second (by simp)) (hproposed first (by simp))

/-! ## Three calls that differ -/

/-- A call that looks a customer up under an id. -/
def customerCall (id : ProposalScalar) : ProposalToolCall where
  name := "find_customer"
  arguments := [⟨"external_id", .scalar id, none, none, by decide, excerpt_valid_none⟩]
  name_nonempty := by decide
  arguments_nodup := List.nodup_singleton _

/-- It looks for the customer with this external identifier. -/
def customerProposal (id : ProposalScalar) : AgentProposal where
  intakeType := none
  fields := []
  missingRequiredFields := []
  priority := .normal
  containsInjectionOrOverrideAttempt := false
  rationaleShort := "Look the customer up."
  toolCalls := [customerCall id]
  confidence := 1
  intakeType_nonempty := by simp
  fields_nodup := fields_nodup_nil
  missing_nonempty := missing_nonempty_nil
  missing_nodup := List.nodup_nil
  rationale_nonempty := by decide
  rationale_bounded := by decide
  toolCalls_bounded := by simp
  confidence_bounded := confidence_bounded_one

/-- The model looks up `1`, then `true`, then `1.0`. -/
def customerClient : LLMClient Unit := fun messages =>
  .ok (customerProposal (match messages.length with
    | 0 => .int 1
    | 2 => .bool true
    | _ => .float (.of 1)))

/-- An executor that finds nothing and goes on. -/
def silentTools : ToolExecutor Unit Unit where
  execute _ _ _ := pure ⟨.null, .continue_, none, none⟩
  evaluateTerminal _ _ := pure ⟨.null, .completed, none, none⟩

theorem guard_inexact_on_mixed_numbers :
    (run customerClient silentTools 8 [] ()).1.map AgentRunResult.reason = .ok .repeatedTool ∧
      ¬ GuardExact customerClient silentTools 8 [] () := by
  refine ⟨rfl, fun h => ?_⟩
  obtain ⟨call, other, hcall, hother, -, hvalues⟩ := h.counts_identical []
    (.initial [], customerProposal (.int 1)) _ _ rfl ⟨_, rfl, by decide⟩
  cases hcall
  cases hother
  cases hvalues "external_id"

end AgentLoop
end IntegraIntake
