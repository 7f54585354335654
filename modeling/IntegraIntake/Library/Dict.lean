import Mathlib.Data.List.Basic

/-!
# Dictionaries

A dictionary is the list of its entries in insertion order, read with
`List.lookup`.  Setting a key overwrites its entry in place, or appends one.
-/

namespace IntegraIntake.Library.Dict

variable {Key Value Value' : Type*} [BEq Key]

/-- `dict[key] = value`. -/
def set : List (Key × Value) → Key → Value → List (Key × Value)
  | [], key, value => [(key, value)]
  | entry :: rest, key, value =>
    if entry.1 == key then (key, value) :: rest else entry :: set rest key value

theorem lookup_set [LawfulBEq Key] [DecidableEq Key] (dict : List (Key × Value)) (key other : Key)
    (value : Value) :
    (set dict key value).lookup other = if other = key then some value else dict.lookup other := by
  induction dict with
  | nil =>
      rw [set, List.lookup_cons, List.lookup_nil]
      by_cases hother : other = key
      · rw [if_pos hother, hother, beq_self_eq_true]
      · rw [if_neg hother, show (other == key) = false by simpa using hother]
  | cons entry rest ih =>
      obtain ⟨name, old⟩ := entry
      rw [set, List.lookup_cons]
      by_cases hentry : name = key
      · subst hentry
        rw [if_pos (beq_self_eq_true _), List.lookup_cons]
        by_cases hother : other = name
        · rw [if_pos hother, hother, beq_self_eq_true]
        · rw [if_neg hother, show (other == name) = false by simpa using hother]
      · rw [if_neg (by simpa using hentry), List.lookup_cons, ih]
        by_cases hother : other = name
        · rw [hother, beq_self_eq_true]
          exact (if_neg hentry).symm
        · rw [show (other == name) = false by simpa using hother]

/-- A dictionary made of rows: their keys, with a view of each. -/
theorem lookup_map_rows {Row : Type*} [LawfulBEq Key] (key : Row → Key) (view : Row → Value)
    (rows : List Row) (k : Key) :
    (rows.map fun row => (key row, view row)).lookup k =
      (rows.find? fun row => key row == k).map view := by
  induction rows with
  | nil => rfl
  | cons row rest ih =>
      rw [List.map_cons, List.lookup_cons, List.find?_cons, ih, BEq.comm]
      cases key row == k <;> rfl

end IntegraIntake.Library.Dict
