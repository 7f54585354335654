import IntegraIntake.Library.Session

/-!
# Two sessions side by side

`Follows` relates a program over one state to a program over another: begun in
related states, they return related results or raise the same error, and leave
related states.  The relation may be lost on the way.  From then on nothing is asked
of the pair, but the first program has to know: `lost` is a property of its state that
none of its steps takes back.
-/

namespace IntegraIntake.Library

namespace Session

variable {σ τ ε ε' α β γ δ : Type}

/-- Related results, or one error. -/
def Alike (Q : α → β → Prop) : Except ε α → Except ε β → Prop
  | .ok a, .ok b => Q a b
  | .error error, .error other => error = other
  | _, _ => False

/-- The state of a program may be lost, and then it stays so. -/
def Stays (lost : σ → Prop) (program : Session σ ε α) : Prop :=
  ∀ state, lost state → lost (program state).2

/-- From related states the second program ends as the first, unless the first is lost. -/
structure Follows (R : σ → τ → Prop) (lost : σ → Prop) (Q : α → β → Prop) (left : Session σ ε α)
    (right : Session τ ε β) : Prop where
  stays : Stays lost left
  ends : ∀ state other, R state other →
    lost (left state).2 ∨ Alike Q (left state).1 (right other).1 ∧ R (left state).2 (right other).2

section Rules

variable {R : σ → τ → Prop} {lost : σ → Prop} {Q : α → β → Prop} {S : γ → δ → Prop}

theorem Stays.pure (a : α) : Stays lost (pure a : Session σ ε α) := fun _ h => h

theorem Stays.bind {program : Session σ ε α} {next : α → Session σ ε γ}
    (hprogram : Stays lost program) (hnext : ∀ a, Stays lost (next a)) :
    Stays lost (program >>= next) := by
  intro state hlost
  have hfirst := hprogram state hlost
  rw [bind_run]
  split
  · rename_i a working heq
    rw [heq] at hfirst
    exact hnext a working hfirst
  · rename_i error working heq
    rw [heq] at hfirst
    exact hfirst

theorem Stays.mapError {program : Session σ ε α} (rename : ε → ε') (hprogram : Stays lost program) :
    Stays lost (mapError rename program) := by
  intro state hlost
  have hfirst := hprogram state hlost
  unfold Session.mapError
  split
  · rename_i heq
    rwa [heq] at hfirst
  · rename_i heq
    rwa [heq] at hfirst

namespace Follows

theorem pure {a : α} {b : β} (h : Q a b) :
    Follows R lost Q (pure a : Session σ ε α) (pure b : Session τ ε β) where
  stays := .pure a
  ends _ _ hrelated := .inr ⟨h, hrelated⟩

theorem raise (error : ε) :
    Follows R lost Q (raise error : Session σ ε α) (raise error : Session τ ε β) where
  stays _ h := h
  ends _ _ hrelated := .inr ⟨rfl, hrelated⟩

theorem write {update : σ → σ} {update' : τ → τ} {Q : Unit → Unit → Prop} (hdone : Q () ())
    (hstays : ∀ state, lost state → lost (update state))
    (hkeeps : ∀ state other, R state other →
      lost (update state) ∨ R (update state) (update' other)) :
    Follows R lost Q (write update : Session σ ε Unit) (write update' : Session τ ε Unit) where
  stays := hstays
  ends state other hrelated := (hkeeps state other hrelated).imp_right fun h => ⟨hdone, h⟩

/-- Programs follow each other if their parts do, on every pair of related results. -/
theorem bind {left : Session σ ε α} {right : Session τ ε β} {next : α → Session σ ε γ}
    {next' : β → Session τ ε δ} (hfirst : Follows R lost Q left right)
    (hstays : ∀ a, Stays lost (next a))
    (hnext : ∀ a b, Q a b → Follows R lost S (next a) (next' b)) :
    Follows R lost S (left >>= next) (right >>= next') where
  stays := hfirst.stays.bind hstays
  ends state other hrelated := by
    have hboth := hfirst.ends state other hrelated
    have hkept : ∀ a working, left state = (.ok a, working) → lost working →
        lost (next a working).2 := fun a working _ hlost => hstays a working hlost
    rw [bind_run, bind_run]
    cases hleft : left state with
    | mk outcome working =>
        cases hright : right other with
        | mk outcome' working' =>
            rw [hleft, hright] at hboth
            cases outcome with
            | ok a =>
                rcases hboth with hlost | ⟨halike, hstate⟩
                · exact .inl (hkept a working hleft hlost)
                · cases outcome' with
                  | ok b => exact (hnext a b halike).ends working working' hstate
                  | error error => exact absurd halike id
            | error error =>
                rcases hboth with hlost | ⟨halike, hstate⟩
                · exact .inl hlost
                · cases outcome' with
                  | ok b => exact absurd halike id
                  | error error' => exact .inr ⟨halike, hstate⟩

/-- The rule for programs with the same results. -/
theorem bind_eq {left : Session σ ε α} {right : Session τ ε α} {next : α → Session σ ε γ}
    {next' : α → Session τ ε δ} (hfirst : Follows R lost Eq left right)
    (hnext : ∀ a, Follows R lost S (next a) (next' a)) :
    Follows R lost S (left >>= next) (right >>= next') :=
  hfirst.bind (fun a => (hnext a).stays) fun a _ hsame => hsame ▸ hnext a

theorem mapError {left : Session σ ε α} {right : Session τ ε β} (rename : ε → ε')
    (h : Follows R lost Q left right) :
    Follows R lost Q (mapError rename left) (mapError rename right) where
  stays := h.stays.mapError rename
  ends state other hrelated := by
    have hboth := h.ends state other hrelated
    unfold Session.mapError
    cases hleft : left state with
    | mk outcome working =>
        cases hright : right other with
        | mk outcome' working' =>
            rw [hleft, hright] at hboth
            cases outcome <;> cases outcome' <;> refine hboth.imp_right fun hend => ⟨?_, hend.2⟩
            · exact congrArg rename hend.1
            · exact hend.1
            · exact hend.1
            · exact hend.1

end Follows

/-- Outcomes that are alike with equal results are equal. -/
theorem eq_of_alike {first second : Except ε α} (h : Alike Eq first second) : first = second := by
  cases first <;> cases second
  · exact congrArg Except.error h
  · exact absurd h id
  · exact absurd h id
  · exact congrArg Except.ok h

/-- Whatever is made of an outcome is made of both. -/
theorem Follows.outcome {left : Session σ ε α} {right : Session τ ε α}
    (h : Follows R lost Eq left right) (settle : Except ε α → Except ε' γ) :
    Follows R lost Eq (fun state => (settle (left state).1, (left state).2))
      (fun state => (settle (right state).1, (right state).2)) where
  stays := h.stays
  ends state other hrelated := by
    refine (h.ends state other hrelated).imp_right fun ⟨halike, hstate⟩ => ⟨?_, hstate⟩
    rw [eq_of_alike halike]
    cases settle (right other).1 <;> rfl

end Rules
end Session
end IntegraIntake.Library
