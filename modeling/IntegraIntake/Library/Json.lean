import Mathlib.Data.Rat.Defs
import IntegraIntake.Library.CanonicalJson

/-!
# JSON values as Python holds them

The value a decoded JSON document has in Python: `null`, booleans, integers,
finite floats, strings, lists and dictionaries.  A dictionary is its list of
members, in insertion order.

A float is the rational number it denotes, and which of the two zeros it is: `0.0`
and `-0.0` are equal under `==`, and are written differently.
-/

namespace IntegraIntake.Library

/-- A finite float.  `of 0` is the positive zero. -/
inductive PyFloat where
  | negZero
  | of (value : ℚ)
  deriving DecidableEq

/-- The number that a float denotes, and that it compares as. -/
def PyFloat.toRat : PyFloat → ℚ
  | negZero => 0
  | of value => value

/-- A value that Python's `json` module reads or writes. -/
inductive Json where
  | null
  | bool (value : Bool)
  | int (value : ℤ)
  | float (value : PyFloat)
  | str (value : String)
  | arr (items : List Json)
  | obj (members : List (String × Json))

namespace Json

/-- `value.get(key)` on a dictionary; `none` on every other value. -/
def get? (value : Json) (key : String) : Option Json :=
  match value with
  | obj members => members.lookup key
  | _ => none

/-- `isinstance(value, str)`, with the string. -/
def asStr? : Json → Option String
  | str value => some value
  | _ => none

/-- The number a value compares as: `True == 1 == 1.0` in Python. -/
def number? : Json → Option ℚ
  | bool value => some (if value then 1 else 0)
  | int value => some value
  | float value => some value.toRat
  | _ => none

mutual

/-- Python's `==`: numbers compare by value across `bool`, `int` and `float`,
dictionaries ignore the order of their members. -/
def pyEq : Json → Json → Bool
  | null, null => true
  | str left, str right => left == right
  | arr left, arr right => pyEqList left right
  | obj left, obj right => left.length == right.length && pyEqMembers left right
  | left, right =>
    match left.number?, right.number? with
    | some a, some b => a == b
    | _, _ => false

def pyEqList : List Json → List Json → Bool
  | [], [] => true
  | left :: lefts, right :: rights => pyEq left right && pyEqList lefts rights
  | _, _ => false

def pyEqMembers : List (String × Json) → List (String × Json) → Bool
  | [], _ => true
  | (key, value) :: rest, right =>
    (match right.lookup key with
      | some other => pyEq value other
      | none => false) && pyEqMembers rest right

end

mutual

/-- Every string in a value: keys of dictionaries and string values. -/
def strings : Json → List String
  | str value => [value]
  | arr items => stringsList items
  | obj members => stringsMembers members
  | _ => []

def stringsList : List Json → List String
  | [] => []
  | item :: rest => strings item ++ stringsList rest

def stringsMembers : List (String × Json) → List String
  | [] => []
  | (key, value) :: rest => key :: strings value ++ stringsMembers rest

end

theorem mem_strings_arr {text : String} {items : List Json} :
    text ∈ (arr items).strings ↔ ∃ item ∈ items, text ∈ item.strings := by
  rw [strings]
  induction items with
  | nil => simp [stringsList]
  | cons item rest ih => simp [stringsList, ih]

theorem mem_strings_obj {text : String} {members : List (String × Json)} :
    text ∈ (obj members).strings ↔
      ∃ member ∈ members, text = member.1 ∨ text ∈ member.2.strings := by
  rw [strings]
  induction members with
  | nil => simp [stringsMembers]
  | cons member rest ih => simp [stringsMembers, ih, or_assoc]

/-- What a dictionary holds under a key is part of it. -/
theorem strings_get? {value item : Json} {key text : String} (h : value.get? key = some item)
    (htext : text ∈ item.strings) : text ∈ value.strings := by
  unfold get? at h
  split at h
  · rename_i members
    have hmem : (key, item) ∈ members := by
      obtain ⟨before, after, rfl, -⟩ := List.lookup_eq_some_iff.1 h
      simp
    exact mem_strings_obj.2 ⟨(key, item), hmem, .inr htext⟩
  · cases h

/-- `{**members, key: value}`: overwrite in place or append. -/
def setMember (members : List (String × Json)) (key : String) (value : Json) :
    List (String × Json) :=
  if members.any (fun member => member.1 == key) then
    members.map fun member => if member.1 == key then (key, value) else member
  else members ++ [(key, value)]

/-- `dict.update`. -/
def updateMembers (members updates : List (String × Json)) : List (String × Json) :=
  updates.foldl (fun current member => setMember current member.1 member.2) members

end Json

mutual

/-- A plain value as a JSON value. -/
def Plain.toJson : Plain → Json
  | .null => .null
  | .nat value => .int value
  | .str value => .str value
  | .obj members => .obj (Plain.toJsonMembers members)

def Plain.toJsonMembers : List (String × Plain) → List (String × Json)
  | [] => []
  | (key, value) :: rest => (key, value.toJson) :: Plain.toJsonMembers rest

end

end IntegraIntake.Library
