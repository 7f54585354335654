import Mathlib.Data.List.Perm.Basic
import IntegraIntake.Library.Json

/-!
# Values that go through a JSONB column

A JSONB column keeps a JSON value but not the order of the members of its
objects.  What comes back is the value with the members of every object in some
order, its numbers taken to come back as they were written, and a reader that only
looks members up does not see the difference.
-/

namespace IntegraIntake.Library

/-! ## Looking members up -/

section Lookup

variable {α : Type} {members other : List (String × α)} {key : String} {value : α}

theorem mem_of_lookup_eq_some (h : members.lookup key = some value) : (key, value) ∈ members := by
  obtain ⟨before, after, rfl, -⟩ := List.lookup_eq_some_iff.1 h
  simp

theorem lookup_eq_some_of_mem (hnodup : (members.map Prod.fst).Nodup) (h : (key, value) ∈ members) :
    members.lookup key = some value := by
  induction members with
  | nil => cases h
  | cons member rest ih =>
      obtain ⟨first, content⟩ := member
      rw [List.map_cons, List.nodup_cons] at hnodup
      rcases List.mem_cons.1 h with heq | hrest
      · cases heq
        rw [List.lookup_cons, beq_self_eq_true]
      · have hne : key ≠ first := by
          rintro rfl
          exact hnodup.1 (List.mem_map.2 ⟨(key, value), hrest, rfl⟩)
        rw [List.lookup_cons, beq_false_of_ne hne]
        exact ih hnodup.2 hrest

theorem lookup_map_snd {β : Type} (f : α → β) (members : List (String × α)) (key : String) :
    (members.map fun member => (member.1, f member.2)).lookup key = (members.lookup key).map f := by
  induction members with
  | nil => rfl
  | cons member rest ih =>
      rw [List.map_cons, List.lookup_cons, List.lookup_cons]
      cases key == member.1 with
      | true => rfl
      | false => exact ih

theorem lookup_of_perm (hperm : other.Perm members) (hnodup : (members.map Prod.fst).Nodup) :
    other.lookup key = members.lookup key := by
  have hother : (other.map Prod.fst).Nodup := (hperm.map Prod.fst).nodup_iff.2 hnodup
  cases hfound : members.lookup key with
  | some value =>
      exact lookup_eq_some_of_mem hother (hperm.mem_iff.2 (mem_of_lookup_eq_some hfound))
  | none =>
      cases hother' : other.lookup key with
      | none => rfl
      | some value =>
          have hmem := hperm.mem_iff.1 (mem_of_lookup_eq_some hother')
          rw [lookup_eq_some_of_mem hnodup hmem] at hfound
          cases hfound

end Lookup

/-- A permutation of an image is the image of a permutation. -/
theorem exists_perm_of_perm_map {α β : Type} {f : α → β} {items : List α} {images : List β}
    (h : images.Perm (items.map f)) :
    ∃ reordered : List α, reordered.Perm items ∧ reordered.map f = images := by
  generalize himages : items.map f = target at h
  induction h generalizing items with
  | nil =>
      obtain rfl := List.map_eq_nil_iff.1 himages
      exact ⟨[], .nil, rfl⟩
  | cons image _ ih =>
      obtain ⟨item, rest, rfl, rfl, hrest⟩ := List.map_eq_cons_iff.1 himages
      obtain ⟨reordered, hperm, rfl⟩ := ih hrest
      exact ⟨item :: reordered, hperm.cons item, rfl⟩
  | swap first second rest =>
      obtain ⟨left, others, rfl, rfl, hothers⟩ := List.map_eq_cons_iff.1 himages
      obtain ⟨right, remaining, rfl, rfl, rfl⟩ := List.map_eq_cons_iff.1 hothers
      exact ⟨right :: left :: remaining, .swap left right remaining, rfl⟩
  | trans _ _ ihleft ihright =>
      obtain ⟨middle, hmiddle, hmap⟩ := ihright himages
      obtain ⟨reordered, hperm, rfl⟩ := ihleft hmap
      exact ⟨reordered, hperm.trans hmiddle, rfl⟩

/-! ## Storing -/

/-- The order in which the members of objects come back. -/
structure MemberOrder where
  arrange : List (String × Json) → List (String × Json)
  perm : ∀ members, (arrange members).Perm members

/-- The order in which they were written. -/
def MemberOrder.written : MemberOrder := ⟨id, fun _ => .refl _⟩

namespace Json

mutual

/-- The value that a JSONB column gives back. -/
def stored (order : MemberOrder) : Json → Json
  | arr items => arr (storedList order items)
  | obj members => obj (order.arrange (storedMembers order members))
  | value => value

/-- The items of an array, each as it is stored. -/
def storedList (order : MemberOrder) : List Json → List Json
  | [] => []
  | item :: rest => stored order item :: storedList order rest

/-- The members of an object, each as it is stored. -/
def storedMembers (order : MemberOrder) : List (String × Json) → List (String × Json)
  | [] => []
  | (key, value) :: rest => (key, stored order value) :: storedMembers order rest

end

mutual

/-- Members that keep their order come back as they were written. -/
theorem stored_written (value : Json) : stored .written value = value := by
  match value with
  | .arr items => rw [stored, storedList_written items]
  | .obj members =>
      rw [stored, storedMembers_written members]
      rfl
  | .null | .bool _ | .int _ | .float _ | .str _ => rfl

theorem storedList_written (items : List Json) : storedList .written items = items := by
  match items with
  | [] => rfl
  | item :: rest => rw [storedList, stored_written item, storedList_written rest]

theorem storedMembers_written (members : List (String × Json)) :
    storedMembers .written members = members := by
  match members with
  | [] => rfl
  | (key, value) :: rest => rw [storedMembers, stored_written value, storedMembers_written rest]

end

variable {order : MemberOrder}

theorem storedList_eq_map (items : List Json) :
    storedList order items = items.map (stored order) := by
  induction items with
  | nil => rfl
  | cons item rest ih => rw [storedList, ih, List.map_cons]

theorem storedMembers_eq_map (members : List (String × Json)) :
    storedMembers order members = members.map fun member => (member.1, stored order member.2) := by
  induction members with
  | nil => rfl
  | cons member rest ih => rw [storedMembers, ih, List.map_cons]

theorem stored_arr (items : List Json) :
    stored order (arr items) = arr (items.map (stored order)) := by
  rw [stored, storedList_eq_map]

/-- An object comes back with its keys and the stored values. -/
theorem stored_obj (order : MemberOrder) (members : List (String × Json)) :
    ∃ back, stored order (obj members) = obj back ∧
      back.Perm (members.map fun member => (member.1, stored order member.2)) := by
  refine ⟨_, by rw [stored], ?_⟩
  rw [storedMembers_eq_map]
  exact order.perm _

end Json
end IntegraIntake.Library
