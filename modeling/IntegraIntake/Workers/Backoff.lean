import Mathlib.Data.List.DropRight
import Mathlib.Data.Rat.Floor
import Mathlib.Tactic.Linarith
import IntegraIntake.Workers.Serve

/-!
# The backoff of the serve loop

`serve` sleeps after a persistence failure and doubles the delay for the next
one, up to a maximum.  Two handlers do so, for `TransientPersistenceError` and for
the errors of the driver, with the same statements.  The delay goes back to the
initial one in the `else` of the `try`, and a pass that finds no work never gets
there: it sleeps inside the `try` and leaves it with `continue`.

```text
pass ends with        backoff afterwards
a failure             min maximum (max (backoff * 2) initial)
an idle poll          unchanged
work collected        initial
```

So the variable counts the failures since work was collected last
(`min_backoffAfter`), not the failures in a row, and the two differ when an idle
poll lies between (`Remembered`).  Delays are rationals: what the code computes
with its floats is doubling, minimum and maximum, which are exact.
-/

namespace IntegraIntake

open Library

/-! ## What a pass does to the delay -/

/-- `worker_persistence_backoff_initial_seconds` and
`worker_persistence_backoff_max_seconds`, both with `gt=0`. -/
structure BackoffSettings where
  initial : ℚ
  maximum : ℚ
  initial_pos : 0 < initial
  maximum_pos : 0 < maximum

/-- How a pass of `while True` ends, when `serve` goes on after it.  A pass is idle
when it leaves through the poll, also if its slots were served while it filled
them. -/
inductive PassEnd where
  | failed | idle | worked
  deriving DecidableEq, Repr

namespace BackoffSettings

variable (settings : BackoffSettings)

/-- The assignment at the end of both handlers. -/
def doubled (backoff : ℚ) : ℚ :=
  min settings.maximum (max (backoff * 2) settings.initial)

/-- `delay`, before the jitter is added. -/
def delay (backoff : ℚ) : ℚ :=
  min backoff settings.maximum

/-- The delay after a pass. -/
def next (backoff : ℚ) : PassEnd → ℚ
  | .failed => settings.doubled backoff
  | .idle => backoff
  | .worked => settings.initial

/-- `backoff` after these passes. -/
def backoffAfter (passes : List PassEnd) : ℚ :=
  passes.foldl settings.next settings.initial

/-- The delay of a failure that follows these passes. -/
def baseDelay (passes : List PassEnd) : ℚ :=
  settings.delay (settings.backoffAfter passes)

/-- The delay that doubles with each of `failures` earlier failures. -/
def law (failures : ℕ) : ℚ :=
  min (settings.initial * 2 ^ failures) settings.maximum

theorem backoffAfter_concat (passes : List PassEnd) (pass : PassEnd) :
    settings.backoffAfter (passes ++ [pass]) =
      settings.next (settings.backoffAfter passes) pass := by
  rw [backoffAfter, List.foldl_append]
  rfl

end BackoffSettings

/-! ## Counting failures -/

/-- The failures at the end of these passes, with nothing between them. -/
def failuresInRow (passes : List PassEnd) : ℕ :=
  (passes.rtakeWhile (· = .failed)).length

/-- The failures since work was collected last. -/
def failuresSinceWork (passes : List PassEnd) : ℕ :=
  (passes.rtakeWhile (· ≠ .worked)).count .failed

/-- A failure is followed by an idle poll, and no work was collected since. -/
def Remembered (passes : List PassEnd) : Prop :=
  ∃ earlier later, passes = earlier ++ .failed :: later ∧ .idle ∈ later ∧ .worked ∉ later

/-- A failure without work collected since. -/
def FailedSinceWork (passes : List PassEnd) : Prop :=
  ∃ earlier later, passes = earlier ++ .failed :: later ∧ .worked ∉ later

theorem failuresInRow_concat (passes : List PassEnd) (pass : PassEnd) :
    failuresInRow (passes ++ [pass]) =
      if pass = .failed then failuresInRow passes + 1 else 0 := by
  rw [failuresInRow, List.rtakeWhile_concat]
  by_cases hfailed : pass = .failed
  · rw [if_pos (decide_eq_true hfailed), if_pos hfailed, List.length_append]
    rfl
  · rw [if_neg (by simpa using hfailed), if_neg hfailed]
    rfl

theorem failuresSinceWork_concat (passes : List PassEnd) (pass : PassEnd) :
    failuresSinceWork (passes ++ [pass]) =
      match pass with
      | .failed => failuresSinceWork passes + 1
      | .idle => failuresSinceWork passes
      | .worked => 0 := by
  rw [failuresSinceWork, List.rtakeWhile_concat]
  cases pass <;> simp [failuresSinceWork]

/-- A split of a longer list at an element is at its last one or before it. -/
theorem exists_split_concat {α : Type*} {items : List α} {last item : α} {Q : List α → Prop} :
    (∃ earlier later, items ++ [last] = earlier ++ item :: later ∧ Q later) ↔
      (last = item ∧ Q []) ∨
        ∃ earlier later, items = earlier ++ item :: later ∧ Q (later ++ [last]) := by
  constructor
  · rintro ⟨earlier, later, hitems, hQ⟩
    rcases List.eq_nil_or_concat' later with rfl | ⟨middle, final, rfl⟩
    · obtain ⟨-, hlast⟩ := List.append_inj' hitems rfl
      exact .inl ⟨List.singleton_injective hlast, hQ⟩
    · rw [← List.cons_append, ← List.append_assoc] at hitems
      obtain ⟨hbefore, hlast⟩ := List.append_inj' hitems rfl
      rw [List.singleton_injective hlast]
      exact .inr ⟨earlier, middle, hbefore, hQ⟩
  · rintro (⟨rfl, hQ⟩ | ⟨earlier, later, rfl, hQ⟩)
    · exact ⟨items, [], rfl, hQ⟩
    · exact ⟨earlier, later ++ [last], by rw [List.append_assoc, List.cons_append], hQ⟩

theorem failedSinceWork_concat (passes : List PassEnd) (pass : PassEnd) :
    FailedSinceWork (passes ++ [pass]) ↔
      pass = .failed ∨ pass ≠ .worked ∧ FailedSinceWork passes := by
  unfold FailedSinceWork
  rw [exists_split_concat]
  cases pass <;> simp

theorem remembered_concat (passes : List PassEnd) (pass : PassEnd) :
    Remembered (passes ++ [pass]) ↔
      pass = .failed ∧ Remembered passes ∨ pass = .idle ∧ FailedSinceWork passes := by
  unfold Remembered FailedSinceWork
  rw [exists_split_concat]
  cases pass <;> simp

theorem failedSinceWork_iff (passes : List PassEnd) :
    FailedSinceWork passes ↔ 0 < failuresSinceWork passes := by
  induction passes using List.reverseRecOn with
  | nil => simp [FailedSinceWork, failuresSinceWork]
  | append_singleton passes pass ih =>
      rw [failedSinceWork_concat, failuresSinceWork_concat]
      cases pass <;> simp [ih]

/-- What the variable counts is more than the failures in a row exactly after an
idle poll that followed a failure. -/
theorem failures_compare (passes : List PassEnd) :
    failuresInRow passes ≤ failuresSinceWork passes ∧
      (failuresInRow passes < failuresSinceWork passes ↔ Remembered passes) := by
  induction passes using List.reverseRecOn with
  | nil => simp [failuresInRow, failuresSinceWork, Remembered]
  | append_singleton passes pass ih =>
      obtain ⟨hle, hlt⟩ := ih
      rw [failuresInRow_concat, failuresSinceWork_concat, remembered_concat]
      cases pass with
      | failed => simp [hle, hlt]
      | idle => simp [failedSinceWork_iff]
      | worked => simp

/-! ## What the variable counts -/

namespace BackoffSettings

variable {settings : BackoffSettings}

/-- Doubling is one step of the law, below the maximum and from there on. -/
theorem delay_doubled {backoff : ℚ} {failures : ℕ}
    (h : settings.delay backoff = settings.law failures) :
    settings.delay (settings.doubled backoff) = settings.law (failures + 1) := by
  have hinitial := settings.initial_pos
  have hpower : (1 : ℚ) ≤ 2 ^ failures := one_le_pow₀ one_le_two
  have hscaled : settings.initial ≤ settings.initial * 2 ^ failures :=
    le_mul_of_one_le_right hinitial.le hpower
  have hsucc : settings.initial * 2 ^ (failures + 1) = settings.initial * 2 ^ failures * 2 := by
    rw [pow_succ, mul_assoc]
  unfold delay law doubled at *
  rw [hsucc, min_comm settings.maximum, min_assoc, min_self]
  rcases le_or_gt settings.maximum backoff with hfull | hroom
  · -- both are at the maximum already
    rw [min_eq_right hfull] at h
    have hlaw : settings.maximum ≤ settings.initial * 2 ^ failures := min_eq_right_iff.1 h.symm
    have hmaximum := settings.maximum_pos
    have hdouble : settings.maximum ≤ backoff * 2 := by linarith
    have hnext : settings.maximum ≤ settings.initial * 2 ^ failures * 2 := by linarith
    rw [min_eq_right (le_max_of_le_left hdouble), min_eq_right hnext]
  · -- the variable is what the law says
    rw [min_eq_left hroom.le] at h
    have hlaw : backoff = settings.initial * 2 ^ failures := by
      rcases min_choice (settings.initial * 2 ^ failures) settings.maximum with hmin | hmin
      · rw [h, hmin]
      · exact absurd (h.trans hmin) hroom.ne
    rw [hlaw, max_eq_left (by linarith)]

/-- The delay is that of the law for the failures since work was collected. -/
theorem baseDelay_eq (settings : BackoffSettings) (passes : List PassEnd) :
    settings.baseDelay passes = settings.law (failuresSinceWork passes) := by
  have hstart : settings.delay settings.initial = settings.law 0 := by
    rw [delay, law, pow_zero, mul_one]
  induction passes using List.reverseRecOn with
  | nil => exact hstart
  | append_singleton passes pass ih =>
      rw [baseDelay, backoffAfter_concat, failuresSinceWork_concat]
      cases pass with
      | failed => exact delay_doubled ih
      | idle => exact ih
      | worked => exact hstart

/-- The law takes one value for two counts only at the maximum. -/
theorem law_eq_law_iff (settings : BackoffSettings) {fewer more : ℕ} (h : fewer ≤ more) :
    settings.law more = settings.law fewer ↔
      more = fewer ∨ settings.maximum ≤ settings.initial * 2 ^ fewer := by
  constructor
  · intro hlaw
    rcases h.eq_or_lt with rfl | hlt
    · exact .inl rfl
    · refine .inr (le_of_not_gt fun hroom => ?_)
      have hgrows : settings.initial * 2 ^ fewer < settings.initial * 2 ^ more :=
        mul_lt_mul_of_pos_left (pow_lt_pow_right₀ one_lt_two hlt) settings.initial_pos
      rw [law, law, min_eq_left hroom.le] at hlaw
      exact (lt_min hgrows hroom).ne' hlaw
  · rintro (rfl | hfull)
    · rfl
    · have hmore : settings.maximum ≤ settings.initial * 2 ^ more :=
        hfull.trans (mul_le_mul_of_nonneg_left (pow_le_pow_right₀ one_le_two h)
          settings.initial_pos.le)
      rw [law, law, min_eq_right hfull, min_eq_right hmore]

/-- When the delay is that of the failures in a row. -/
theorem baseDelay_eq_law_iff (settings : BackoffSettings) (passes : List PassEnd) :
    settings.baseDelay passes = settings.law (failuresInRow passes) ↔
      ¬ Remembered passes ∨ settings.maximum ≤ settings.initial * 2 ^ failuresInRow passes := by
  obtain ⟨hle, hremembered⟩ := failures_compare passes
  rw [baseDelay_eq, settings.law_eq_law_iff hle, ← hremembered, not_lt, eq_comm,
    hle.ge_iff_eq]

end BackoffSettings

/-! ## The loop with its delay -/

/-- A sleep after an outage: its delay before the jitter, and how the passes before
it ended. -/
structure OutageSleep where
  passes : List PassEnd
  delay : ℚ
  deriving DecidableEq

/-- The serve loop with `backoff`, and what it did so far. -/
structure BackoffState where
  serve : ServeState
  backoff : ℚ
  passes : List PassEnd
  slept : List OutageSleep

namespace BackoffState

/-- Before the first pass. -/
def initial (settings : BackoffSettings) : BackoffState :=
  ⟨.initial, settings.initial, [], []⟩

/-- What a step of the loop to `next` does to the delay. -/
def moved (settings : BackoffSettings) (state : BackoffState) (label : ServeStep)
    (next : ServeState) : BackoffState :=
  match label, state.serve.point, next.point with
  -- `continue`, inside the `try`
  | .loop, .polling, _ => { state with serve := next, passes := state.passes ++ [.idle] }
  -- in a handler, once the tasks are cancelled
  | .loop, .cancelling .backOff, _ =>
      { state with
        serve := next
        slept := state.slept ++ [⟨state.passes, settings.delay state.backoff⟩] }
  | .loop, .backingOff, _ =>
      { state with
        serve := next
        backoff := settings.doubled state.backoff
        passes := state.passes ++ [.failed] }
  -- the `else` of the `try`
  | .collect _, _, .fill =>
      { state with
        serve := next
        backoff := settings.initial
        passes := state.passes ++ [.worked] }
  | _, _, _ => { state with serve := next }

end BackoffState

/-- Runs of `serve` with the delays that it takes. -/
def backoffMachine (concurrency : ℕ) (settings : BackoffSettings) :
    Machine BackoffState ServeStep where
  initial state := state = .initial settings
  step state label := (serveStep concurrency state.serve label).map (state.moved settings label)

/-- The variable and every sleep are those of the passes before them. -/
structure BackoffInvariant (settings : BackoffSettings) (state : BackoffState) : Prop where
  backoff_eq : state.backoff = settings.backoffAfter state.passes
  slept : ∀ sleep ∈ state.slept,
    sleep.passes <+: state.passes ∧ sleep.delay = settings.baseDelay sleep.passes

namespace BackoffInvariant

variable {settings : BackoffSettings} {state : BackoffState}

theorem initial (settings : BackoffSettings) : BackoffInvariant settings (.initial settings) where
  backoff_eq := rfl
  slept := by simp [BackoffState.initial]

/-- The end of a pass. -/
theorem ended (h : BackoffInvariant settings state) (pass : PassEnd) (next : ServeState) :
    BackoffInvariant settings
      { state with
        serve := next
        backoff := settings.next state.backoff pass
        passes := state.passes ++ [pass] } where
  backoff_eq := by rw [settings.backoffAfter_concat, ← h.backoff_eq]
  slept sleep hsleep := by
    obtain ⟨hpast, hdelay⟩ := h.slept sleep hsleep
    exact ⟨hpast.trans (List.prefix_append _ _), hdelay⟩

/-- The beginning of a sleep. -/
theorem sleeping (h : BackoffInvariant settings state) (next : ServeState) :
    BackoffInvariant settings
      { state with
        serve := next
        slept := state.slept ++ [⟨state.passes, settings.delay state.backoff⟩] } where
  backoff_eq := h.backoff_eq
  slept := by
    rw [List.forall_mem_append, List.forall_mem_singleton]
    refine ⟨h.slept, List.prefix_rfl, ?_⟩
    rw [BackoffSettings.baseDelay, ← h.backoff_eq]

theorem moved (h : BackoffInvariant settings state) (label : ServeStep) (next : ServeState) :
    BackoffInvariant settings (state.moved settings label next) := by
  unfold BackoffState.moved
  split
  · exact h.ended .idle next
  · exact h.sleeping next
  · exact h.ended .failed next
  · exact h.ended .worked next
  · exact ⟨h.backoff_eq, h.slept⟩

end BackoffInvariant

theorem backoffInvariant {concurrency : ℕ} {settings : BackoffSettings} {state : BackoffState}
    (h : (backoffMachine concurrency settings).Reachable state) :
    BackoffInvariant settings state := by
  refine h.invariant ?_ ?_
  · rintro _ rfl
    exact .initial settings
  · intro state label next _ hinvariant hstep
    obtain ⟨serve, -, rfl⟩ := Option.map_eq_some_iff.1 hstep
    exact hinvariant.moved label serve

/-- The loop with its delay is the serve loop. -/
theorem serve_reachable {concurrency : ℕ} {settings : BackoffSettings} {state : BackoffState}
    (h : (backoffMachine concurrency settings).Reachable state) :
    (serveMachine concurrency).Reachable state.serve := by
  refine h.invariant (P := fun state => (serveMachine concurrency).Reachable state.serve) ?_ ?_
  · rintro _ rfl
    exact .initial rfl
  · intro state label next _ hserve hstep
    obtain ⟨serve, hserveStep, rfl⟩ := Option.map_eq_some_iff.1 hstep
    have hnext : (state.moved settings label serve).serve = serve := by
      unfold BackoffState.moved
      split <;> rfl
    rw [hnext]
    exact hserve.step hserveStep

/-- The delay after an outage is the one for the failures in a row, `k - 1` of them
before the `k`-th, exactly when no failure came before an idle poll since work was
collected last, or the law is at the maximum already.  This is so of every sequence
of passes and of every sleep in a run of the loop. -/
theorem outage_delay_lawful_iff (settings : BackoffSettings) :
    (∀ passes, settings.baseDelay passes = settings.law (failuresInRow passes) ↔
      ¬ Remembered passes ∨ settings.maximum ≤ settings.initial * 2 ^ failuresInRow passes) ∧
    ∀ concurrency state, (backoffMachine concurrency settings).Reachable state →
      ∀ sleep ∈ state.slept, sleep.delay = settings.law (failuresInRow sleep.passes) ↔
        ¬ Remembered sleep.passes ∨
          settings.maximum ≤ settings.initial * 2 ^ failuresInRow sleep.passes := by
  refine ⟨settings.baseDelay_eq_law_iff, fun concurrency state hstate sleep hsleep => ?_⟩
  obtain ⟨-, hdelay⟩ := (backoffInvariant hstate).slept sleep hsleep
  rw [hdelay]
  exact settings.baseDelay_eq_law_iff sleep.passes

/-- Half a second at first, and two at most. -/
def shortBackoff : BackoffSettings := ⟨1 / 2, 2, by norm_num, by norm_num⟩

/-- An outage, a poll that finds no work, and an outage again. -/
def outageAfterPoll : List ServeStep :=
  [.loop, .finish 0 (.raised .transient), .loop, .loop, .loop,
    .loop, .finish 1 (.returned false), .loop, .loop,
    .loop, .finish 2 (.raised .transient), .loop, .loop]

/-- The loop in its second sleep. -/
def secondOutage : BackoffState where
  serve := ⟨.backingOff, [], ∅, 3⟩
  backoff := shortBackoff.doubled shortBackoff.initial
  passes := [.failed, .idle]
  slept := [⟨[], shortBackoff.delay shortBackoff.initial⟩,
    ⟨[.failed, .idle], shortBackoff.delay (shortBackoff.doubled shortBackoff.initial)⟩]

theorem secondOutage_reachable : (backoffMachine 1 shortBackoff).Reachable secondOutage := by
  have hstart : (backoffMachine 1 shortBackoff).Reachable (.initial shortBackoff) := .initial rfl
  exact hstart.run outageAfterPoll rfl

/-- The second sleep is the first one after a pass without an error, and lasts twice
the initial delay. -/
theorem outage_delay_after_poll :
    (backoffMachine 1 shortBackoff).Reachable secondOutage ∧
      shortBackoff.initial ≤ shortBackoff.maximum ∧
      ∃ sleep ∈ secondOutage.slept, sleep.passes = [.failed, .idle] ∧
        failuresInRow sleep.passes = 0 ∧ sleep.delay = 1 ∧ shortBackoff.law 0 = 1 / 2 := by
  refine ⟨secondOutage_reachable, by norm_num [shortBackoff],
    _, List.mem_cons_of_mem _ List.mem_cons_self, rfl, rfl, ?_, ?_⟩
  · norm_num [BackoffSettings.delay, BackoffSettings.doubled, shortBackoff]
  · norm_num [BackoffSettings.law, shortBackoff]

end IntegraIntake
