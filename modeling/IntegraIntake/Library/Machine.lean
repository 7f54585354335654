import Mathlib.Data.List.Basic
import Mathlib.Logic.Relation

/-!
# Machines, their runs and their reachable states

A machine is a step function on states: a label says which step is tried, and
`none` means that the step is not enabled.  All nondeterminism (scheduling,
clock values, new identifiers) sits in the labels, so a run is a list of labels
and can be evaluated.

The reachable states come in two forms.  `Reachable` is the usual one.
`ReachableWith allowed` keeps only the runs whose every step satisfies
`allowed` in the state in which it is taken; it is what a property that holds
under a scheduling condition is stated over.
-/

namespace IntegraIntake.Library

/-- A set of initial states and a labelled, partial step function. -/
structure Machine (State Label : Type*) where
  initial : State → Prop
  step : State → Label → Option State

namespace Machine

variable {State Label : Type*}

/-- The states reached by runs all of whose steps satisfy `allowed`. -/
inductive ReachableWith (machine : Machine State Label) (allowed : State → Label → Prop) :
    State → Prop
  | initial {state : State} : machine.initial state → ReachableWith machine allowed state
  | step {state next : State} {label : Label} : ReachableWith machine allowed state →
      allowed state label → machine.step state label = some next →
      ReachableWith machine allowed next

/-- The states reached by any run. -/
def Reachable (machine : Machine State Label) : State → Prop :=
  machine.ReachableWith fun _ _ => True

/-- Take the steps `labels` in order; `none` as soon as one is not enabled. -/
def run (machine : Machine State Label) : State → List Label → Option State
  | state, [] => some state
  | state, label :: labels => (machine.step state label).bind fun next => machine.run next labels

variable {machine : Machine State Label} {allowed : State → Label → Prop}

theorem ReachableWith.mono {wider : State → Label → Prop}
    (hwider : ∀ state label, allowed state label → wider state label) {state : State}
    (h : machine.ReachableWith allowed state) : machine.ReachableWith wider state := by
  induction h with
  | initial hinit => exact .initial hinit
  | step _ hallowed hstep ih => exact .step ih (hwider _ _ hallowed) hstep

theorem ReachableWith.reachable {state : State} (h : machine.ReachableWith allowed state) :
    machine.Reachable state :=
  h.mono fun _ _ _ => trivial

theorem Reachable.step {state next : State} {label : Label} (h : machine.Reachable state)
    (hstep : machine.step state label = some next) : machine.Reachable next :=
  ReachableWith.step h trivial hstep

/-- The invariant rule: what holds initially and is kept by every allowed step
taken from a reachable state holds of every state reached. -/
theorem ReachableWith.invariant {P : State → Prop}
    (hinit : ∀ state, machine.initial state → P state)
    (hstep : ∀ state label next, machine.ReachableWith allowed state → P state →
      allowed state label → machine.step state label = some next → P next)
    {state : State} (h : machine.ReachableWith allowed state) : P state := by
  induction h with
  | initial h => exact hinit _ h
  | step hreach hallowed hs ih => exact hstep _ _ _ hreach ih hallowed hs

theorem Reachable.invariant {P : State → Prop}
    (hinit : ∀ state, machine.initial state → P state)
    (hstep : ∀ state label next, machine.Reachable state → P state →
      machine.step state label = some next → P next)
    {state : State} (h : machine.Reachable state) : P state :=
  ReachableWith.invariant hinit (fun s l n hr hp _ hs => hstep s l n hr hp hs) h

/-- A run evaluated to `some final` is a run of reachable states. -/
theorem ReachableWith.run {state final : State} (h : machine.ReachableWith allowed state)
    (labels : List Label) (hallowed : ∀ label ∈ labels, ∀ state, allowed state label)
    (hrun : machine.run state labels = some final) : machine.ReachableWith allowed final := by
  induction labels generalizing state with
  | nil =>
      simp only [Machine.run, Option.some.injEq] at hrun
      exact hrun ▸ h
  | cons label labels ih =>
      simp only [Machine.run, Option.bind_eq_some_iff] at hrun
      obtain ⟨next, hstep, hrest⟩ := hrun
      exact ih (h.step (hallowed label List.mem_cons_self state) hstep)
        (fun other hother => hallowed other (List.mem_cons_of_mem _ hother)) hrest

theorem Reachable.run {state final : State} (h : machine.Reachable state) (labels : List Label)
    (hrun : machine.run state labels = some final) : machine.Reachable final :=
  ReachableWith.run h labels (fun _ _ _ => trivial) hrun

/-- The same steps, begun in a given state. -/
def startingAt (machine : Machine State Label) (state : State) : Machine State Label :=
  { machine with initial := fun other => other = state }

/-- Going on from a reachable state stays among the reachable states. -/
theorem ReachableWith.later {state final : State} (h : machine.ReachableWith allowed state)
    (hlater : (machine.startingAt state).ReachableWith allowed final) :
    machine.ReachableWith allowed final := by
  induction hlater with
  | initial hstart => exact hstart ▸ h
  | step _ hallowed hstep ih => exact ih.step hallowed hstep

/-! ## Later states -/

/-- `next` is reached from `state` by some run. -/
def Later (machine : Machine State Label) : State → State → Prop :=
  Relation.ReflTransGen fun state next => ∃ label, machine.step state label = some next

theorem Later.refl (machine : Machine State Label) (state : State) : machine.Later state state :=
  Relation.ReflTransGen.refl

theorem Later.trans {first second third : State} (h : machine.Later first second)
    (h' : machine.Later second third) : machine.Later first third :=
  Relation.ReflTransGen.trans h h'

theorem Later.of_run {state next : State} (labels : List Label)
    (hrun : machine.run state labels = some next) : machine.Later state next := by
  induction labels generalizing state with
  | nil =>
      simp only [Machine.run, Option.some.injEq] at hrun
      exact hrun ▸ .refl machine state
  | cons label labels ih =>
      simp only [Machine.run, Option.bind_eq_some_iff] at hrun
      obtain ⟨middle, hstep, hrest⟩ := hrun
      exact Relation.ReflTransGen.head ⟨label, hstep⟩ (ih hrest)

theorem Later.reachable {state next : State} (h : machine.Later state next)
    (hstate : machine.Reachable state) : machine.Reachable next := by
  induction h with
  | refl => exact hstate
  | tail _ hstep ih =>
      obtain ⟨label, hstep⟩ := hstep
      exact ih.step hstep

/-- A preorder that every step goes up in is gone up in along a run. -/
theorem Later.preorder {R : State → State → Prop} (hrefl : ∀ state, R state state)
    (htrans : ∀ {first second third}, R first second → R second third → R first third)
    (hstep : ∀ {state label next}, machine.Reachable state →
      machine.step state label = some next → R state next)
    {state next : State} (h : machine.Later state next) (hstate : machine.Reachable state) :
    R state next := by
  induction h with
  | refl => exact hrefl state
  | @tail middle next hbefore hlast ih =>
      obtain ⟨label, hlast⟩ := hlast
      have hmiddle : machine.Later state middle := hbefore
      exact htrans ih (hstep (hmiddle.reachable hstate) hlast)

/-! ## Runs with their states -/

/-- A run from `state` to `final` as the list of its transitions, each with the
state before and after it. -/
inductive Path (machine : Machine State Label) : State → List (State × Label × State) → State → Prop
  | nil (state : State) : Path machine state [] state
  | cons {state next final : State} {label : Label} {rest : List (State × Label × State)} :
      machine.step state label = some next → Path machine next rest final →
      Path machine state ((state, label, next) :: rest) final

theorem Path.reachable {state final : State} {transitions : List (State × Label × State)}
    (h : machine.Path state transitions final) (hstate : machine.Reachable state) :
    machine.Reachable final := by
  induction h with
  | nil => exact hstate
  | cons hstep _ ih => exact ih (hstate.step hstep)

/-- Every transition of a run starts in a reachable state. -/
theorem Path.transition {state final : State} {transitions : List (State × Label × State)}
    (h : machine.Path state transitions final) (hstate : machine.Reachable state) :
    ∀ t ∈ transitions, machine.Reachable t.1 ∧ machine.step t.1 t.2.1 = some t.2.2 := by
  induction h with
  | nil => simp
  | cons hstep _ ih =>
      intro t ht
      rcases List.mem_cons.1 ht with rfl | ht
      · exact ⟨hstate, hstep⟩
      · exact ih (hstate.step hstep) t ht

theorem Path.snoc {state middle final : State} {label : Label}
    {transitions : List (State × Label × State)} (h : machine.Path state transitions middle)
    (hstep : machine.step middle label = some final) :
    machine.Path state (transitions ++ [(middle, label, final)]) final := by
  induction h with
  | nil => exact .cons hstep (.nil _)
  | cons hfirst _ ih => exact .cons hfirst (ih hstep)

/-- The run up to one of its transitions. -/
theorem Path.upTo {state final : State} {transitions : List (State × Label × State)}
    (h : machine.Path state transitions final) {t : State × Label × State} (ht : t ∈ transitions) :
    ∃ earlier later, transitions = earlier ++ t :: later ∧
      machine.Path state (earlier ++ [t]) t.2.2 := by
  induction h with
  | nil => cases ht
  | @cons state next final label rest hstep hrest ih =>
      rcases List.mem_cons.1 ht with rfl | hlater
      · exact ⟨[], rest, rfl, .cons hstep (.nil next)⟩
      · obtain ⟨earlier, later, rfl, hpath⟩ := ih hlater
        exact ⟨(state, label, next) :: earlier, later, rfl, .cons hstep hpath⟩

/-- The invariant rule for properties of the whole past: what holds of the empty
run and is kept when a step is added holds of every run. -/
theorem Path.history {P : List (State × Label × State) → State → Prop} {state final : State}
    {transitions : List (State × Label × State)} (h : machine.Path state transitions final)
    (hstart : P [] state)
    (hstep : ∀ past middle label next, machine.Path state past middle → P past middle →
      machine.step middle label = some next → P (past ++ [(middle, label, next)]) next) :
    P transitions final := by
  -- `past` is the part of the run that has been read
  have hgeneral : ∀ {middle last : State} {rest : List (State × Label × State)},
      machine.Path middle rest last → ∀ past, machine.Path state past middle → P past middle →
      P (past ++ rest) last := by
    intro middle last rest hrest
    induction hrest with
    | nil =>
        intro past _ hP
        rwa [List.append_nil]
    | cons hfirst _ ih =>
        intro past hpast hP
        rw [List.append_cons]
        exact ih _ (hpast.snoc hfirst) (hstep past _ _ _ hpast hP hfirst)
  exact hgeneral h [] (.nil state) hstart

/-- The transitions of an evaluated run. -/
theorem Path.of_run {state final : State} {labels : List Label}
    (h : machine.run state labels = some final) :
    ∃ transitions, machine.Path state transitions final ∧
      transitions.map (fun t => t.2.1) = labels := by
  induction labels generalizing state with
  | nil =>
      simp only [Machine.run, Option.some.injEq] at h
      exact ⟨[], h ▸ .nil state, rfl⟩
  | cons label labels ih =>
      simp only [Machine.run, Option.bind_eq_some_iff] at h
      obtain ⟨next, hstep, hrest⟩ := h
      obtain ⟨transitions, hpath, hlabels⟩ := ih hrest
      exact ⟨_, .cons hstep hpath, congrArg (label :: ·) hlabels⟩

open Classical in
/-- If a transition of kind `event` can only start in `P` and always ends in a
set `Q` that no step leaves and that is disjoint from `P`, a run has at most
one such transition. -/
theorem Path.countP_le_one {P Q : State → Prop} {event : State × Label × State → Prop}
    (hfrom : ∀ state label next, machine.Reachable state →
      machine.step state label = some next → event (state, label, next) → P state ∧ Q next)
    (hkeep : ∀ state label next, machine.Reachable state → Q state →
      machine.step state label = some next → Q next)
    (hdisjoint : ∀ state, machine.Reachable state → P state → ¬ Q state)
    {state final : State} {transitions : List (State × Label × State)}
    (h : machine.Path state transitions final) (hstate : machine.Reachable state) :
    transitions.countP (fun t => decide (event t)) ≤ 1 := by
  -- once in `Q`, no further transition of the kind can start
  have hnone : ∀ {state final : State} {transitions : List (State × Label × State)},
      machine.Path state transitions final → machine.Reachable state → Q state →
      transitions.countP (fun t => decide (event t)) = 0 := by
    intro state final transitions h
    induction h with
    | nil => intro _ _; rfl
    | cons hstep _ ih =>
        intro hreach hQ
        have hnot : ¬ event _ := fun hevent =>
          hdisjoint _ hreach (hfrom _ _ _ hreach hstep hevent).1 hQ
        rw [List.countP_cons_of_neg (by simpa using hnot)]
        exact ih (hreach.step hstep) (hkeep _ _ _ hreach hQ hstep)
  induction h with
  | nil => simp
  | @cons state next final label rest hstep hrest ih =>
      by_cases hevent : event (state, label, next)
      · have hrest_none := hnone hrest (hstate.step hstep) (hfrom _ _ _ hstate hstep hevent).2
        rw [List.countP_cons_of_pos (by simpa using hevent)]
        omega
      · rw [List.countP_cons_of_neg (by simpa using hevent)]
        exact ih (hstate.step hstep)

/-- If every step raises a rank or leaves it, and those of kind `event` raise it, a
run has no more steps of the kind than its rank has risen. -/
theorem Path.countP_add_rank_le {rank : State → ℕ} {event : State × Label × State → Bool}
    (hstep : ∀ state label next, machine.Reachable state → machine.step state label = some next →
      rank state ≤ rank next ∧ (event (state, label, next) = true → rank state < rank next))
    {state final : State} {transitions : List (State × Label × State)}
    (h : machine.Path state transitions final) (hstate : machine.Reachable state) :
    transitions.countP event + rank state ≤ rank final := by
  induction h with
  | nil => simp
  | @cons state next final label rest hfirst hrest ih =>
      obtain ⟨hle, hlt⟩ := hstep state label next hstate hfirst
      have hlater := ih (hstate.step hfirst)
      by_cases hevent : event (state, label, next) = true
      · have := hlt hevent
        rw [List.countP_cons_of_pos hevent]
        omega
      · rw [List.countP_cons_of_neg hevent]
        omega

open Classical in
/-- If no transition of a run raises a rank and those of kind `event` lower it, the run has
no more of these than the rank has fallen. -/
theorem Path.countP_add_le_rank (rank : State → ℕ) (event : State × Label × State → Prop)
    {state final : State} {transitions : List (State × Label × State)}
    (h : machine.Path state transitions final)
    (hstep : ∀ t ∈ transitions, rank t.2.2 ≤ rank t.1 ∧ (event t → rank t.2.2 < rank t.1)) :
    transitions.countP (fun t => decide (event t)) + rank final ≤ rank state := by
  induction h with
  | nil => simp
  | @cons state next final label rest _ _ ih =>
      obtain ⟨hle, hlt⟩ : rank next ≤ rank state ∧
          (event (state, label, next) → rank next < rank state) := hstep _ List.mem_cons_self
      have hlater := ih fun t ht => hstep t (List.mem_cons_of_mem _ ht)
      by_cases hevent : event (state, label, next)
      · have := hlt hevent
        rw [List.countP_cons_of_pos (by simpa using hevent)]
        omega
      · rw [List.countP_cons_of_neg (by simpa using hevent)]
        omega

end Machine
end IntegraIntake.Library
