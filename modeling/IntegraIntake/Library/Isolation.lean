import IntegraIntake.Library.Session

/-!
# Isolation

A state is seen through two views, `own` and `foreign`.  A program is isolated
when its outcome and what it leaves of the first view depend on nothing but the
first view, and when it leaves the second view alone.  Both are asked for in the
states of an invariant, which the program has to keep.  Isolation composes: the
rules below follow the constructs of a session program.
-/

namespace IntegraIntake.Library

namespace Session

variable {σ ε α β Own Foreign : Type} {I : σ → Prop} {own : σ → Own} {foreign : σ → Foreign}

/-- In the states of `I`, the program reads and writes through `own` only. -/
structure Isolated (I : σ → Prop) (own : σ → Own) (foreign : σ → Foreign)
    (program : Session σ ε α) : Prop where
  keeps : ∀ state, I state → I (program state).2 ∧ foreign (program state).2 = foreign state
  same : ∀ state other, I state → I other → own state = own other →
    (program state).1 = (program other).1 ∧ own (program state).2 = own (program other).2

/-- An update that reads and writes through `own` only. -/
structure IsolatedUpdate (I : σ → Prop) (own : σ → Own) (foreign : σ → Foreign)
    (update : σ → σ) : Prop where
  keeps : ∀ state, I state → I (update state) ∧ foreign (update state) = foreign state
  same : ∀ state other, I state → I other → own state = own other →
    own (update state) = own (update other)

theorem IsolatedUpdate.comp {first second : σ → σ} (hfirst : IsolatedUpdate I own foreign first)
    (hsecond : IsolatedUpdate I own foreign second) :
    IsolatedUpdate I own foreign fun state => second (first state) := by
  constructor
  · intro state hstate
    obtain ⟨hkept, hforeign⟩ := hfirst.keeps state hstate
    obtain ⟨hlast, hsame⟩ := hsecond.keeps _ hkept
    exact ⟨hlast, hsame.trans hforeign⟩
  · intro state other hstate hother hown
    exact hsecond.same _ _ (hfirst.keeps state hstate).1 (hfirst.keeps other hother).1
      (hfirst.same state other hstate hother hown)

namespace Isolated

theorem pure (a : α) : Isolated I own foreign (pure a : Session σ ε α) :=
  ⟨fun _ h => ⟨h, rfl⟩, fun _ _ _ _ h => ⟨rfl, h⟩⟩

theorem raise (error : ε) : Isolated I own foreign (raise error : Session σ ε α) :=
  ⟨fun _ h => ⟨h, rfl⟩, fun _ _ _ _ h => ⟨rfl, h⟩⟩

theorem orRaise (error : ε) (value : Option α) :
    Isolated I own foreign (orRaise error value : Session σ ε α) := by
  cases value with
  | none => exact .raise error
  | some a => exact .pure a

theorem ofExcept (outcome : Except ε α) :
    Isolated I own foreign (ofExcept outcome : Session σ ε α) := by
  cases outcome with
  | error error => exact .raise error
  | ok a => exact .pure a

/-- The continuation may use what the first part returned with. -/
theorem bind_of {program : Session σ ε α} {next : α → Session σ ε β}
    (hprogram : Isolated I own foreign program)
    (hnext : ∀ state a working, I state → program state = (.ok a, working) →
      Isolated I own foreign (next a)) :
    Isolated I own foreign (program >>= next) := by
  constructor
  · intro state hstate
    obtain ⟨hkept, hforeign⟩ := hprogram.keeps state hstate
    rw [bind_run]
    split
    · rename_i a working heq
      rw [heq] at hkept hforeign
      obtain ⟨hlast, hsame⟩ := (hnext state a working hstate heq).keeps working hkept
      exact ⟨hlast, hsame.trans hforeign⟩
    · rename_i error working heq
      rw [heq] at hkept hforeign
      exact ⟨hkept, hforeign⟩
  · intro state other hstate hother hown
    obtain ⟨houtcome, hworking⟩ := hprogram.same state other hstate hother hown
    have hfirst := (hprogram.keeps state hstate).1
    have hsecond := (hprogram.keeps other hother).1
    rw [bind_run, bind_run]
    cases hrun : program state with
    | mk outcome working =>
        cases hrun' : program other with
        | mk outcome' working' =>
            rw [hrun] at houtcome hworking hfirst
            rw [hrun'] at houtcome hworking hsecond
            dsimp only at houtcome
            subst houtcome
            cases outcome with
            | error error => exact ⟨rfl, hworking⟩
            | ok a =>
                have hisolated := hnext state a working hstate hrun
                exact hisolated.same working working' hfirst hsecond hworking

theorem bind {program : Session σ ε α} {next : α → Session σ ε β}
    (hprogram : Isolated I own foreign program)
    (hnext : ∀ a, Isolated I own foreign (next a)) :
    Isolated I own foreign (program >>= next) :=
  hprogram.bind_of fun _ a _ _ _ => hnext a

/-- What a program does with the state it reads depends on the first view only. -/
theorem read_bind {next : σ → Session σ ε β}
    (hread : ∀ state other, I state → I other → own state = own other → next state = next other)
    (hnext : ∀ state, I state → Isolated I own foreign (next state)) :
    Isolated I own foreign (read >>= next) := by
  constructor
  · intro state hstate
    exact (hnext state hstate).keeps state hstate
  · intro state other hstate hother hown
    rw [read_bind_run, read_bind_run, ← hread state other hstate hother hown]
    exact (hnext state hstate).same state other hstate hother hown

theorem write {update : σ → σ} (h : IsolatedUpdate I own foreign update) :
    Isolated I own foreign (write update : Session σ ε Unit) :=
  ⟨h.keeps, fun state other hstate hother hown => ⟨rfl, h.same state other hstate hother hown⟩⟩

theorem transaction {body : Session σ ε α} (h : Isolated I own foreign body) :
    Isolated I own foreign (transaction body) := by
  constructor
  · intro state hstate
    obtain ⟨hkept, hforeign⟩ := h.keeps state hstate
    unfold Session.transaction
    cases hrun : body state with
    | mk outcome next =>
        rw [hrun] at hkept hforeign
        cases outcome with
        | error error => exact ⟨hstate, rfl⟩
        | ok a => exact ⟨hkept, hforeign⟩
  · intro state other hstate hother hown
    obtain ⟨houtcome, hworking⟩ := h.same state other hstate hother hown
    unfold Session.transaction
    cases hrun : body state with
    | mk outcome next =>
        cases hrun' : body other with
        | mk outcome' next' =>
            rw [hrun, hrun'] at houtcome hworking
            dsimp only at houtcome
            subst houtcome
            cases outcome with
            | error error => exact ⟨rfl, hown⟩
            | ok a => exact ⟨rfl, hworking⟩

theorem mapError {ε' : Type} {rename : ε → ε'} {program : Session σ ε α}
    (h : Isolated I own foreign program) :
    Isolated I own foreign (mapError rename program) := by
  constructor
  · intro state hstate
    have hkept := h.keeps state hstate
    unfold Session.mapError
    split
    · rename_i heq
      rwa [heq] at hkept
    · rename_i heq
      rwa [heq] at hkept
  · intro state other hstate hother hown
    obtain ⟨houtcome, hworking⟩ := h.same state other hstate hother hown
    unfold Session.mapError
    cases hrun : program state with
    | mk outcome next =>
        cases hrun' : program other with
        | mk outcome' next' =>
            rw [hrun, hrun'] at houtcome hworking
            dsimp only at houtcome
            subst houtcome
            cases outcome <;> exact ⟨rfl, hworking⟩

theorem savepoint {body : Session σ ε α} {recover : ε → Session σ ε α}
    (hbody : Isolated I own foreign body)
    (hrecover : ∀ error, Isolated I own foreign (recover error)) :
    Isolated I own foreign (savepoint body recover) := by
  constructor
  · intro state hstate
    have hkept := hbody.keeps state hstate
    unfold Session.savepoint
    split
    · rename_i heq
      rwa [heq] at hkept
    · rename_i error working heq
      exact (hrecover error).keeps state hstate
  · intro state other hstate hother hown
    obtain ⟨houtcome, hworking⟩ := hbody.same state other hstate hother hown
    unfold Session.savepoint
    cases hrun : body state with
    | mk outcome next =>
        cases hrun' : body other with
        | mk outcome' next' =>
            rw [hrun, hrun'] at houtcome hworking
            dsimp only at houtcome
            subst houtcome
            cases outcome with
            | error error => exact (hrecover error).same state other hstate hother hown
            | ok a => exact ⟨rfl, hworking⟩

end Isolated
end Session
end IntegraIntake.Library
