import Mathlib.Data.List.Sort
import IntegraIntake.Library.Machine

/-!
# How many documents are parsed at a time

`_normalize_document` of `app/domain/intake.py` and the service that
`get_inbound_intake_service` builds around it, for all webhook requests of one
process.  `document_parse_concurrency` is the number of slots of the semaphore
that a service makes for itself.  Every request has a service of its own, so it
never waits for the slots of another; and a request that gives up, because its
deadline passes or its client leaves, gives its slot back while the thread goes
on.  What bounds the parses in the process is the default executor that
`asyncio.to_thread` submits them to, and nothing else (`parse_bound_iff`).
-/

namespace IntegraIntake

open Library

/-- Where a request with an attachment is. -/
inductive ParsePhase where
  /-- Its service is built. -/
  | arrived
  /-- It holds a slot, and its call waits for a worker thread. -/
  | submitted
  /-- `normalize` runs, and the request waits for it. -/
  | parsing
  /-- `normalize` runs, and nobody waits for it. -/
  | abandoned
  | finished
  deriving DecidableEq, Repr

/-- A thread is inside `normalize`. -/
def ParsePhase.executes : ParsePhase → Bool
  | .parsing | .abandoned => true
  | _ => false

/-- A request, with the semaphore of its service. -/
structure ParseRequest where
  semaphore : ℕ
  phase : ParsePhase

/-- `document_parse_concurrency`, and the worker threads of the default executor. -/
structure ParseSettings where
  concurrency : ℕ
  workers : ℕ
  concurrency_pos : 1 ≤ concurrency

/-- The free slots of every semaphore of the process, and its requests. -/
structure ParseState where
  slots : List ℕ
  requests : List ParseRequest

namespace ParseState

/-- The `normalize` calls that are executing. -/
def executing (state : ParseState) : ℕ :=
  state.requests.countP (·.phase.executes)

/-- A request goes on to a phase. -/
def advance (state : ParseState) (index semaphore : ℕ) (phase : ParsePhase) : ParseState :=
  { state with requests := state.requests.set index ⟨semaphore, phase⟩ }

/-- `acquire` of a semaphore that has a free slot. -/
def acquire (state : ParseState) (semaphore : ℕ) : ParseState :=
  { state with slots := state.slots.modify semaphore (· - 1) }

/-- `release`. -/
def release (state : ParseState) (semaphore : ℕ) : ParseState :=
  { state with slots := state.slots.modify semaphore (· + 1) }

end ParseState

/-- What can happen next. -/
inductive ParseStep where
  /-- A request comes in, and a service is built for it. -/
  | arrive
  /-- It takes a slot and submits its call to the executor. -/
  | acquire (index : ℕ)
  /-- A worker thread takes the call. -/
  | start (index : ℕ)
  /-- `normalize` returns. -/
  | finish (index : ℕ)
  /-- The deadline passes or the request is cancelled. -/
  | abandon (index : ℕ)

/-- One step.  A call that no thread has taken yet is cancelled with its request;
a thread that runs is not. -/
def parseStep (settings : ParseSettings) (state : ParseState) : ParseStep → Option ParseState
  | .arrive => some {
      slots := state.slots ++ [settings.concurrency]
      requests := state.requests ++ [⟨state.slots.length, .arrived⟩] }
  | .acquire index =>
    match state.requests[index]? with
    | some ⟨semaphore, .arrived⟩ =>
      if 0 < state.slots.getD semaphore 0
      then some ((state.acquire semaphore).advance index semaphore .submitted) else none
    | _ => none
  | .start index =>
    match state.requests[index]? with
    | some ⟨semaphore, .submitted⟩ =>
      if state.executing < settings.workers then
        some (state.advance index semaphore .parsing)
      else none
    | _ => none
  | .finish index =>
    match state.requests[index]? with
    | some ⟨semaphore, .parsing⟩ =>
      some ((state.release semaphore).advance index semaphore .finished)
    | some ⟨semaphore, .abandoned⟩ => some (state.advance index semaphore .finished)
    | _ => none
  | .abandon index =>
    match state.requests[index]? with
    | some ⟨semaphore, .submitted⟩ =>
      some ((state.release semaphore).advance index semaphore .finished)
    | some ⟨semaphore, .parsing⟩ =>
      some ((state.release semaphore).advance index semaphore .abandoned)
    | _ => none

/-- The requests of one process, from its start. -/
def parseMachine (settings : ParseSettings) : Machine ParseState ParseStep where
  initial state := state = ⟨[], []⟩
  step := parseStep settings

/-! ## The executor bounds the parses -/

namespace ParseState

variable {state : ParseState} {index semaphore : ℕ} {before : ParsePhase}

/-- Moving a request on changes the count by what its phase counted before and
counts after. -/
theorem executing_advance (h : state.requests[index]? = some ⟨semaphore, before⟩)
    (other : ℕ) (phase : ParsePhase) :
    (state.advance index other phase).executing + (if before.executes then 1 else 0) =
      state.executing + if phase.executes then 1 else 0 := by
  obtain ⟨hlt, hget⟩ := List.getElem?_eq_some_iff.1 h
  have hcounted : (if before.executes then 1 else 0) ≤ state.executing := by
    split
    · rename_i hexecutes
      refine List.countP_pos_iff.2 ⟨_, List.getElem_mem hlt, ?_⟩
      rw [hget]
      exact hexecutes
    · exact Nat.zero_le _
  have hset : (state.advance index other phase).executing =
      state.executing - (if before.executes then 1 else 0) + if phase.executes then 1 else 0 := by
    unfold executing advance
    rw [List.countP_set hlt, hget]
  omega

/-- A request that does not go into `normalize` does not raise the count. -/
theorem executing_advance_le (state : ParseState)
    (h : state.requests[index]? = some ⟨semaphore, before⟩) (other : ℕ) {phase : ParsePhase}
    (hphase : phase.executes = true → before.executes = true) :
    (state.advance index other phase).executing ≤ state.executing := by
  have hcount := executing_advance h other phase
  split at hcount
  · split at hcount <;> omega
  · rename_i hbefore
    rw [if_neg fun hexecutes => hbefore (hphase hexecutes)] at hcount
    omega

end ParseState

variable {settings : ParseSettings}

/-- Only a thread that starts raises the count, and it needs a free worker. -/
theorem executing_step {state next : ParseState} {label : ParseStep}
    (hle : state.executing ≤ settings.workers)
    (hstep : parseStep settings state label = some next) : next.executing ≤ settings.workers := by
  have hless : ∀ {other : ParseState}, other.executing ≤ state.executing →
      other.executing ≤ settings.workers := fun hother => hother.trans hle
  cases label with
  | arrive =>
      cases hstep
      apply hless
      simp [ParseState.executing, List.countP_append, ParsePhase.executes]
  | acquire index =>
      simp only [parseStep] at hstep
      split at hstep
      · rename_i semaphore hrequest
        split at hstep <;> cases hstep
        exact hless (ParseState.executing_advance_le (state.acquire semaphore) hrequest
          semaphore (by decide))
      · cases hstep
  | start index =>
      simp only [parseStep] at hstep
      split at hstep
      · rename_i semaphore hrequest
        split at hstep
        · rename_i hroom
          cases hstep
          have hcount := ParseState.executing_advance hrequest semaphore .parsing
          simp only [ParsePhase.executes, if_true] at hcount
          simp only [Bool.false_eq_true, if_false] at hcount
          omega
        · cases hstep
      · cases hstep
  | finish index =>
      simp only [parseStep] at hstep
      split at hstep
      · rename_i semaphore hrequest
        cases hstep
        exact hless (ParseState.executing_advance_le (state.release semaphore) hrequest
          semaphore (by decide))
      · rename_i semaphore hrequest
        cases hstep
        exact hless (ParseState.executing_advance_le state hrequest semaphore (by decide))
      · cases hstep
  | abandon index =>
      simp only [parseStep] at hstep
      split at hstep
      · rename_i semaphore hrequest
        cases hstep
        exact hless (ParseState.executing_advance_le (state.release semaphore) hrequest
          semaphore (by decide))
      · rename_i semaphore hrequest
        cases hstep
        exact hless (ParseState.executing_advance_le (state.release semaphore) hrequest
          semaphore (by decide))
      · cases hstep

theorem executing_le_workers {state : ParseState}
    (h : (parseMachine settings).Reachable state) : state.executing ≤ settings.workers := by
  refine Machine.Reachable.invariant (P := fun state => state.executing ≤ settings.workers) ?_ ?_ h
  · rintro state rfl
    exact Nat.zero_le _
  · exact fun state label next _ hle hstep => executing_step hle hstep

/-! ## Nothing else does -/

/-- As many requests, each parsing with a slot of its own semaphore. -/
def parsingRequests (settings : ParseSettings) (n : ℕ) : ParseState where
  slots := List.replicate n (settings.concurrency - 1)
  requests := (List.range n).map (⟨·, .parsing⟩)

/-- The same, and one request more on its way. -/
def oneMore (settings : ParseSettings) (n slot : ℕ) (phase : ParsePhase) : ParseState where
  slots := List.replicate n (settings.concurrency - 1) ++ [slot]
  requests := (List.range n).map (⟨·, .parsing⟩) ++ [⟨n, phase⟩]

section OneMore

variable {n slot : ℕ} {phase : ParsePhase}

theorem executing_parsingRequests : (parsingRequests settings n).executing = n := by
  have hall : (parsingRequests settings n).executing =
      (parsingRequests settings n).requests.length := by
    refine List.countP_eq_length.2 fun request hrequest => ?_
    obtain ⟨index, -, rfl⟩ := List.mem_map.1 hrequest
    rfl
  rw [hall, parsingRequests, List.length_map, List.length_range]

theorem oneMore_request : (oneMore settings n slot phase).requests[n]? = some ⟨n, phase⟩ := by
  have hlength :
      ((List.range n).map fun index => (⟨index, .parsing⟩ : ParseRequest)).length = n := by
    rw [List.length_map, List.length_range]
  rw [oneMore, List.getElem?_append_right hlength.le, hlength, Nat.sub_self]
  rfl

theorem oneMore_slot : (oneMore settings n slot phase).slots.getD n 0 = slot := by
  have hlength : (List.replicate n (settings.concurrency - 1)).length = n := List.length_replicate
  rw [oneMore, List.getD_eq_getElem?_getD, List.getElem?_append_right hlength.le, hlength,
    Nat.sub_self]
  rfl

theorem oneMore_advance (next : ParsePhase) :
    (oneMore settings n slot phase).advance n n next = oneMore settings n slot next := by
  have hlength :
      ((List.range n).map fun index => (⟨index, .parsing⟩ : ParseRequest)).length = n := by
    rw [List.length_map, List.length_range]
  unfold ParseState.advance oneMore
  simp only
  rw [List.set_append_right _ _ hlength.le, hlength, Nat.sub_self]
  rfl

theorem modify_concat (f : ℕ → ℕ) (front : List ℕ) (item : ℕ) :
    (front ++ [item]).modify front.length f = front ++ [f item] := by
  induction front with
  | nil => rfl
  | cons first rest ih =>
      rw [List.cons_append, List.length_cons, List.modify_succ_cons, ih, List.cons_append]

theorem oneMore_acquire :
    (oneMore settings n slot phase).acquire n = oneMore settings n (slot - 1) phase := by
  have hmodified := modify_concat (· - 1) (List.replicate n (settings.concurrency - 1)) slot
  rw [List.length_replicate] at hmodified
  unfold ParseState.acquire oneMore
  rw [hmodified]

theorem oneMore_executing : (oneMore settings n slot .submitted).executing = n := by
  have hcount : (oneMore settings n slot .submitted).executing =
      (parsingRequests settings n).executing := by
    unfold ParseState.executing oneMore parsingRequests
    rw [List.countP_append]
    rfl
  rw [hcount, executing_parsingRequests]

theorem oneMore_parsing :
    oneMore settings n (settings.concurrency - 1) .parsing = parsingRequests settings (n + 1) := by
  unfold oneMore parsingRequests
  rw [List.range_succ, List.map_append, List.replicate_succ']
  rfl

/-- While a worker thread is free, one more request comes in and is parsed. -/
theorem run_parsingRequests (hn : n < settings.workers) :
    (parseMachine settings).run (parsingRequests settings n) [.arrive, .acquire n, .start n] =
      some (parsingRequests settings (n + 1)) := by
  have harrive : parseStep settings (parsingRequests settings n) .arrive =
      some (oneMore settings n settings.concurrency .arrived) := by
    have hlength : (parsingRequests settings n).slots.length = n := List.length_replicate
    rw [parseStep, hlength]
    rfl
  have hacquire : parseStep settings (oneMore settings n settings.concurrency .arrived)
      (.acquire n) = some (oneMore settings n (settings.concurrency - 1) .submitted) := by
    rw [parseStep, oneMore_request]
    simp only
    rw [oneMore_slot, if_pos (Nat.lt_of_succ_le settings.concurrency_pos), oneMore_acquire,
      oneMore_advance]
  have hstart : parseStep settings (oneMore settings n (settings.concurrency - 1) .submitted)
      (.start n) = some (parsingRequests settings (n + 1)) := by
    rw [parseStep, oneMore_request]
    simp only
    rw [oneMore_executing, if_pos hn, oneMore_advance, oneMore_parsing]
  simp only [Machine.run, parseMachine, harrive, hacquire, hstart, Option.bind_some]

end OneMore

theorem reachable_parsingRequests {n : ℕ} (hn : n ≤ settings.workers) :
    (parseMachine settings).Reachable (parsingRequests settings n) := by
  induction n with
  | zero => exact .initial rfl
  | succ n ih =>
      exact (ih (Nat.le_of_succ_le hn)).run _ (run_parsingRequests hn)

/-- At most `document_parse_concurrency` documents are parsed at a time, in every
state that requests can bring the process to, exactly if the default executor has
no more worker threads than that. -/
theorem parse_bound_iff (settings : ParseSettings) :
    (∀ state, (parseMachine settings).Reachable state →
        state.executing ≤ settings.concurrency) ↔ settings.workers ≤ settings.concurrency := by
  constructor
  · intro h
    have hall := h _ (reachable_parsingRequests le_rfl)
    rwa [executing_parsingRequests] at hall
  · exact fun hworkers state hstate => (executing_le_workers hstate).trans hworkers

/-- The default of two slots, with the executor of a machine with four processors. -/
def defaultParseSettings : ParseSettings := ⟨2, 8, by decide⟩

/-- Three requests overlap, and three documents are parsed. -/
theorem three_parses_with_two_slots :
    ∃ state, (parseMachine defaultParseSettings).Reachable state ∧
      ¬ state.executing ≤ defaultParseSettings.concurrency := by
  refine ⟨⟨[1, 1, 1], [⟨0, .parsing⟩, ⟨1, .parsing⟩, ⟨2, .parsing⟩]⟩, ?_, by decide⟩
  have hstart : (parseMachine defaultParseSettings).Reachable ⟨[], []⟩ := .initial rfl
  exact hstart.run [.arrive, .arrive, .arrive, .acquire 0, .acquire 1, .acquire 2, .start 0,
    .start 1, .start 2] rfl

end IntegraIntake
