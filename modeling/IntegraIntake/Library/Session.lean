import Mathlib.Data.List.Basic

/-!
# Database sessions

A session program reads and writes a working state and may raise.  Writes made
before a raise stay visible inside the session: they are undone only by an
enclosing `transaction`, which gives back the state it began with when its body
raises.  `Establishes` is the partial-correctness triple of a program: what
holds of the result and the state when it returns normally.
-/

namespace IntegraIntake.Library

/-- A program over a working state `σ` that raises errors `ε`. -/
def Session (σ ε α : Type) := σ → Except ε α × σ

namespace Session

variable {σ ε α β : Type}

instance : Monad (Session σ ε) where
  pure a := fun state => (.ok a, state)
  bind program continue_ := fun state =>
    match program state with
    | (.ok a, next) => continue_ a next
    | (.error error, next) => (.error error, next)

/-- Raise; the working state keeps what was written so far. -/
def raise (error : ε) : Session σ ε α := fun state => (.error error, state)

/-- The working state. -/
def read : Session σ ε σ := fun state => (.ok state, state)

/-- Change the working state. -/
def write (update : σ → σ) : Session σ ε Unit := fun state => (.ok (), update state)

/-- Turn an optional value into the value or a raise. -/
def orRaise (error : ε) : Option α → Session σ ε α
  | some a => pure a
  | none => raise error

/-- Return the value of a check or raise its error. -/
def ofExcept : Except ε α → Session σ ε α
  | .ok a => pure a
  | .error error => raise error

/-- Rename what a program raises. -/
def mapError {ε' : Type} (rename : ε → ε') (program : Session σ ε α) :
    Session σ ε' α := fun state =>
  match program state with
  | (.ok a, next) => (.ok a, next)
  | (.error error, next) => (.error (rename error), next)

/-- Run `body` and keep its writes only if it returns. -/
def transaction (body : Session σ ε α) : Session σ ε α := fun state =>
  match body state with
  | (.ok a, next) => (.ok a, next)
  | (.error error, _) => (.error error, state)

/-- Run `body` in a savepoint: when it raises, its writes are undone and `recover`
goes on from the state before it. -/
def savepoint (body : Session σ ε α) (recover : ε → Session σ ε α) : Session σ ε α := fun state =>
  match body state with
  | (.ok a, next) => (.ok a, next)
  | (.error error, _) => recover error state

/-- Run `body`; when it raises, `handler` goes on from the state the body left. -/
def tryCatch {ε' : Type} (body : Session σ ε α) (handler : ε → Session σ ε' α) : Session σ ε' α :=
  fun state =>
    match body state with
    | (.ok a, next) => (.ok a, next)
    | (.error error, next) => handler error next

@[simp] theorem pure_run (a : α) (state : σ) :
    (pure a : Session σ ε α) state = (.ok a, state) := rfl

theorem bind_run (program : Session σ ε α) (next : α → Session σ ε β) (state : σ) :
    (program >>= next) state =
      match program state with
      | (.ok a, working) => next a working
      | (.error error, working) => (.error error, working) := rfl

theorem bind_assoc {γ : Type} (program : Session σ ε α) (next : α → Session σ ε β)
    (last : β → Session σ ε γ) :
    (program >>= next) >>= last = program >>= fun a => next a >>= last := by
  funext state
  rw [bind_run, bind_run, bind_run]
  cases program state with
  | mk outcome working => cases outcome <;> rfl

@[simp] theorem raise_run (error : ε) (state : σ) :
    (raise error : Session σ ε α) state = (.error error, state) := rfl

@[simp] theorem raise_bind (error : ε) (next : α → Session σ ε β) :
    (raise error >>= next) = (raise error : Session σ ε β) := rfl

@[simp] theorem pure_bind (a : α) (next : α → Session σ ε β) : (pure a >>= next) = next a := rfl

@[simp] theorem read_bind_run (next : σ → Session σ ε β) (state : σ) :
    (read >>= next) state = next state state := rfl

@[simp] theorem write_bind_run (update : σ → σ) (next : Unit → Session σ ε β) (state : σ) :
    (write update >>= next) state = next () (update state) := rfl

@[simp] theorem write_run (update : σ → σ) (state : σ) :
    (write update : Session σ ε Unit) state = (.ok (), update state) := rfl

@[simp] theorem orRaise_some (error : ε) (a : α) :
    (orRaise error (some a) : Session σ ε α) = pure a := rfl

@[simp] theorem orRaise_none (error : ε) :
    (orRaise error none : Session σ ε α) = raise error := rfl

theorem mapError_ok {ε' : Type} {rename : ε → ε'} {program : Session σ ε α}
    {state next : σ} {a : α} :
    mapError rename program state = (.ok a, next) ↔ program state = (.ok a, next) := by
  unfold mapError
  split
  · rename_i heq
    rw [heq]
    simp
  · rename_i heq
    rw [heq]
    simp

theorem mapError_error {ε' : Type} {rename : ε → ε'} {program : Session σ ε α}
    {state next : σ} {error : ε'} (h : mapError rename program state = (.error error, next)) :
    ∃ raised, program state = (.error raised, next) ∧ rename raised = error := by
  unfold mapError at h
  split at h
  · cases h
  · rename_i heq
    cases h
    exact ⟨_, heq, rfl⟩

theorem orRaise_eq_ok {error : ε} {value : Option α} {state final : σ} {a : α}
    (h : orRaise error value state = (.ok a, final)) : value = some a ∧ final = state := by
  cases value with
  | none => cases h
  | some b =>
      cases h
      exact ⟨rfl, rfl⟩

theorem orRaise_eq_error {error raised : ε} {value : Option α} {state final : σ}
    (h : orRaise error value state = (.error raised, final)) : raised = error := by
  cases value with
  | none =>
      cases h
      rfl
  | some b => cases h

/-! ## Transactions -/

/-- A transaction that raises leaves the state as it found it. -/
theorem transaction_error {body : Session σ ε α} {state next : σ} {error : ε}
    (h : transaction body state = (.error error, next)) : next = state := by
  unfold transaction at h
  split at h
  · cases h
  · cases h
    rfl

theorem transaction_ok {body : Session σ ε α} {state next : σ} {a : α}
    (h : transaction body state = (.ok a, next)) : body state = (.ok a, next) := by
  unfold transaction at h
  split at h
  · rename_i heq
    cases h
    exact heq
  · cases h

/-! ## Partial correctness -/

/-- Started in a state satisfying `P`, the program can only return normally
with a result and a state satisfying `Q`. -/
def Establishes (P : σ → Prop) (program : Session σ ε α) (Q : α → σ → Prop) : Prop :=
  ∀ state a next, P state → program state = (.ok a, next) → Q a next

/-! ## Frames -/

/-- However the program ends, it leaves `view` of the state alone. -/
def Keeps {β : Type} (view : σ → β) (program : Session σ ε α) : Prop :=
  ∀ state, view (program state).2 = view state

section Keeps

variable {γ : Type} {view : σ → γ}

theorem Keeps.pure (a : α) : Keeps view (pure a : Session σ ε α) := fun _ => rfl

theorem Keeps.raise (error : ε) : Keeps view (raise error : Session σ ε α) := fun _ => rfl

theorem Keeps.read : Keeps view (read : Session σ ε σ) := fun _ => rfl

theorem Keeps.orRaise (error : ε) (value : Option α) :
    Keeps view (orRaise error value : Session σ ε α) := by
  cases value with
  | none => exact .raise error
  | some a => exact .pure a

theorem Keeps.write {update : σ → σ} (h : ∀ state, view (update state) = view state) :
    Keeps view (write update : Session σ ε Unit) := h

theorem Keeps.bind {program : Session σ ε α} {next : α → Session σ ε β}
    (hprogram : Keeps view program) (hnext : ∀ a, Keeps view (next a)) :
    Keeps view (program >>= next) := by
  intro state
  have hfirst := hprogram state
  rw [bind_run]
  split
  · rename_i a working heq
    rw [heq] at hfirst
    exact (hnext a working).trans hfirst
  · rename_i error working heq
    rw [heq] at hfirst
    exact hfirst

end Keeps

/-! ## Which errors a program raises -/

/-- Every error the program raises satisfies `P`. -/
def RaisesOnly (P : ε → Prop) (program : Session σ ε α) : Prop :=
  ∀ state error next, program state = (.error error, next) → P error

section RaisesOnly

variable {P : ε → Prop}

theorem RaisesOnly.pure (a : α) : RaisesOnly P (pure a : Session σ ε α) := by
  intro _ _ _ h
  cases h

theorem RaisesOnly.raise {error : ε} (h : P error) :
    RaisesOnly P (raise error : Session σ ε α) := by
  intro _ _ _ heq
  cases heq
  exact h

theorem RaisesOnly.read : RaisesOnly P (read : Session σ ε σ) := by
  intro _ _ _ h
  cases h

theorem RaisesOnly.write (update : σ → σ) : RaisesOnly P (write update : Session σ ε Unit) := by
  intro _ _ _ h
  cases h

theorem RaisesOnly.orRaise {error : ε} (h : P error) (value : Option α) :
    RaisesOnly P (orRaise error value : Session σ ε α) := by
  cases value with
  | none => exact .raise h
  | some a => exact .pure a

/-- The continuation may use what the first part returned with. -/
theorem RaisesOnly.bind_of {program : Session σ ε α} {next : α → Session σ ε β}
    (hprogram : RaisesOnly P program)
    (hnext : ∀ state a working, program state = (.ok a, working) → RaisesOnly P (next a)) :
    RaisesOnly P (program >>= next) := by
  intro state error final h
  rw [bind_run] at h
  split at h
  · rename_i a working heq
    exact hnext state a working heq working error final h
  · rename_i raised working heq
    cases h
    exact hprogram _ _ _ heq

theorem RaisesOnly.bind {program : Session σ ε α} {next : α → Session σ ε β}
    (hprogram : RaisesOnly P program) (hnext : ∀ a, RaisesOnly P (next a)) :
    RaisesOnly P (program >>= next) :=
  hprogram.bind_of fun _ a _ _ => hnext a

end RaisesOnly

/-! ## How a program ends -/

/-- Started in a state satisfying `P`, the program returns with `Q` or raises
with `E`. -/
def Ends (P : σ → Prop) (program : Session σ ε α) (Q : α → σ → Prop) (E : ε → σ → Prop) : Prop :=
  ∀ state, P state →
    match program state with
    | (.ok a, next) => Q a next
    | (.error error, next) => E error next

section Ends

variable {E : ε → σ → Prop}

theorem Ends.pure {a : α} (h : ∀ state, P state → Q a state) :
    Ends P (pure a : Session σ ε α) Q E := h

theorem Ends.raise {error : ε} (h : ∀ state, P state → E error state) :
    Ends P (raise error : Session σ ε α) Q E := h

theorem Ends.write {update : σ → σ} {Q : Unit → σ → Prop}
    (h : ∀ state, P state → Q () (update state)) :
    Ends P (write update : Session σ ε Unit) Q E := h

theorem Ends.bind {program : Session σ ε α} {next : α → Session σ ε β}
    (hprogram : Ends P program Q E) (hnext : ∀ a, Ends (Q a) (next a) R E) :
    Ends P (program >>= next) R E := by
  intro state hstate
  have hfirst := hprogram state hstate
  rw [bind_run]
  split at hfirst
  · rename_i a working _
    exact hnext a working hfirst
  · exact hfirst

theorem Ends.tryCatch {ε' : Type} {body : Session σ ε α} {handler : ε → Session σ ε' α}
    {E' : ε' → σ → Prop} (hbody : Ends P body Q E)
    (hhandler : ∀ error, Ends (E error) (handler error) Q E') :
    Ends P (body.tryCatch handler) Q E' := by
  intro state hstate
  have hfirst := hbody state hstate
  unfold Session.tryCatch
  split at hfirst
  · exact hfirst
  · rename_i error working _
    exact hhandler error working hfirst

end Ends

/-! ## Taking a run apart -/

/-- A program that returns has returned from its first part. -/
theorem bind_eq_ok {program : Session σ ε α} {next : α → Session σ ε β} {state final : σ} {b : β}
    (h : (program >>= next) state = (.ok b, final)) :
    ∃ a working, program state = (.ok a, working) ∧ next a working = (.ok b, final) := by
  rw [bind_run] at h
  split at h
  · rename_i a working heq
    exact ⟨a, working, heq, h⟩
  · cases h

end Session
end IntegraIntake.Library
