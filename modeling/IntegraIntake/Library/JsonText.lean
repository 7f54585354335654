import Mathlib.Data.List.Sort
import IntegraIntake.Library.Jsonb
import IntegraIntake.Library.PyInt

/-!
# The text of a JSON value

`json.dumps(value, sort_keys=True, separators=(",", ":"))` for every value.  The
two choices that a caller makes, or that only Python can make, are kept apart in
a `TextFormat`: how a character of a string is written, which depends on
`ensure_ascii`, and how a float is written.

`json.dumps` writes an integer as `str` does, and so refuses one with too many digits
(`writable`, `dumps?`).

Sorting makes the text independent of the order that members have, as long as no
key stands twice, so a value and what a JSONB column gives back for it have the
same text (`dumps_stored`).
-/

namespace IntegraIntake.Library

/-- How characters and floats are written. -/
structure TextFormat where
  char : Char → List Char
  float : PyFloat → List Char

namespace Json

/-- `str` of an integer. -/
def intText : ℤ → List Char
  | .ofNat value => Nat.toDigits 10 value
  | .negSucc value => '-' :: Nat.toDigits 10 (value + 1)

/-- A string with its quotes. -/
def quoted (format : TextFormat) (text : String) : List Char :=
  '\x22' :: (text.toList.flatMap format.char ++ ['\x22'])

mutual

/-- The text of a value, members in the order they have. -/
def text (format : TextFormat) : Json → List Char
  | null => ['n', 'u', 'l', 'l']
  | bool value => if value then ['t', 'r', 'u', 'e'] else ['f', 'a', 'l', 's', 'e']
  | int value => intText value
  | float value => format.float value
  | str value => quoted format value
  | arr items => '[' :: (textList format items ++ [']'])
  | obj members => '\x7b' :: (textMembers format members ++ ['\x7d'])

def textList (format : TextFormat) : List Json → List Char
  | [] => []
  | [item] => text format item
  | item :: rest => text format item ++ ',' :: textList format rest

def textMembers (format : TextFormat) : List (String × Json) → List Char
  | [] => []
  | [(key, value)] => quoted format key ++ ':' :: text format value
  | (key, value) :: rest =>
    quoted format key ++ ':' :: (text format value ++ ',' :: textMembers format rest)

end

mutual

/-- The value with the members of every dictionary sorted by key. -/
def sortKeys : Json → Json
  | arr items => arr (sortKeysList items)
  | obj members =>
    obj ((sortKeysMembers members).insertionSort fun left right => left.1 ≤ right.1)
  | value => value

def sortKeysList : List Json → List Json
  | [] => []
  | item :: rest => sortKeys item :: sortKeysList rest

def sortKeysMembers : List (String × Json) → List (String × Json)
  | [] => []
  | (key, value) :: rest => (key, sortKeys value) :: sortKeysMembers rest

end

/-- `json.dumps` of a value without such an integer. -/
def dumps (format : TextFormat) (value : Json) : String :=
  String.ofList (text format (sortKeys value))

mutual

/-- No integer in the value has too many digits for `str`. -/
def writable : Json → Bool
  | int value => (PyInt.str value).isSome
  | arr items => writableList items
  | obj members => writableMembers members
  | _ => true

def writableList : List Json → Bool
  | [] => true
  | item :: rest => writable item && writableList rest

def writableMembers : List (String × Json) → Bool
  | [] => true
  | (_, value) :: rest => writable value && writableMembers rest

end

/-- `json.dumps`; `none` stands for the `ValueError` of an integer with too many
digits. -/
def dumps? (format : TextFormat) (value : Json) : Option String :=
  if value.writable then some (dumps format value) else none

mutual

/-- No dictionary in the value has a key twice. -/
def KeysNodup : Json → Prop
  | arr items => KeysNodupList items
  | obj members => (members.map Prod.fst).Nodup ∧ KeysNodupMembers members
  | _ => True

def KeysNodupList : List Json → Prop
  | [] => True
  | item :: rest => KeysNodup item ∧ KeysNodupList rest

def KeysNodupMembers : List (String × Json) → Prop
  | [] => True
  | (_, value) :: rest => KeysNodup value ∧ KeysNodupMembers rest

end

@[simp] theorem keysNodup_str (text : String) : KeysNodup (str text) := trivial

@[simp] theorem keysNodup_bool (value : Bool) : KeysNodup (bool value) := trivial

@[simp] theorem keysNodup_int (value : ℤ) : KeysNodup (int value) := trivial

theorem keysNodup_arr {items : List Json} :
    KeysNodup (arr items) ↔ ∀ item ∈ items, KeysNodup item := by
  rw [KeysNodup]
  induction items with
  | nil => simp [KeysNodupList]
  | cons item rest ih => rw [KeysNodupList, ih, List.forall_mem_cons]

theorem keysNodup_obj {members : List (String × Json)} :
    KeysNodup (obj members) ↔
      (members.map Prod.fst).Nodup ∧ ∀ member ∈ members, KeysNodup member.2 := by
  have hmembers : KeysNodupMembers members ↔ ∀ member ∈ members, KeysNodup member.2 := by
    induction members with
    | nil => simp [KeysNodupMembers]
    | cons member rest ih => rw [KeysNodupMembers, ih, List.forall_mem_cons]
  rw [KeysNodup, hmembers]

theorem sortKeysMembers_eq_map (members : List (String × Json)) :
    sortKeysMembers members = members.map fun member => (member.1, sortKeys member.2) := by
  induction members with
  | nil => rfl
  | cons member rest ih => rw [sortKeysMembers, ih, List.map_cons]

/-- Members that no longer differ in anything but their order are sorted alike. -/
theorem insertionSort_eq_of_perm {left right : List (String × Json)} (hperm : left.Perm right)
    (hnodup : (right.map Prod.fst).Nodup) :
    left.insertionSort (fun first second => first.1 ≤ second.1) =
      right.insertionSort fun first second => first.1 ≤ second.1 := by
  have htotal : Std.Total fun first second : String × Json => first.1 ≤ second.1 :=
    ⟨fun _ _ => Std.le_total⟩
  have htrans : IsTrans (String × Json) fun first second => first.1 ≤ second.1 :=
    ⟨fun _ _ _ => Std.le_trans⟩
  have hsorted : ∀ members : List (String × Json),
      (members.insertionSort fun first second => first.1 ≤ second.1).Pairwise
        fun first second => first.1 ≤ second.1 := List.pairwise_insertionSort _
  have hsame := ((List.perm_insertionSort (fun first second => first.1 ≤ second.1) left).trans
    hperm).trans
    (List.perm_insertionSort (fun first second => first.1 ≤ second.1) right).symm
  refine List.Perm.eq_of_pairwise ?_ (hsorted left) (hsorted right) hsame
  -- equal keys belong to one member
  intro first second hfirst hsecond hle hge
  have hfirst' := (List.perm_insertionSort _ left).mem_iff.1 hfirst
  have hsecond' := (List.perm_insertionSort _ right).mem_iff.1 hsecond
  have hkey : first.1 = second.1 := Std.le_antisymm hle hge
  exact List.inj_on_of_nodup_map hnodup (hperm.mem_iff.1 hfirst') hsecond' hkey

theorem map_fst_members (f : Json → Json) (members : List (String × Json)) :
    (members.map fun member => (member.1, f member.2)).map Prod.fst = members.map Prod.fst := by
  rw [List.map_map]
  rfl

mutual

/-- Storing changes the order of members only, which sorting forgets. -/
theorem sortKeys_stored (order : MemberOrder) (value : Json) (h : KeysNodup value) :
    sortKeys (stored order value) = sortKeys value := by
  match value, h with
  | .arr items, h => rw [stored, sortKeys, sortKeys, sortKeysList_stored order items h]
  | .obj members, h =>
      have hback := order.perm (storedMembers order members)
      rw [stored, sortKeys, sortKeys]
      refine congrArg obj ?_
      calc (sortKeysMembers (order.arrange (storedMembers order members))).insertionSort _
          = (sortKeysMembers (storedMembers order members)).insertionSort _ := by
            refine insertionSort_eq_of_perm ?_ ?_
            · rw [sortKeysMembers_eq_map, sortKeysMembers_eq_map]
              exact hback.map _
            · rw [sortKeysMembers_eq_map, map_fst_members, storedMembers_eq_map, map_fst_members]
              exact h.1
        _ = (sortKeysMembers members).insertionSort _ := by
            rw [sortKeysMembers_stored order members h.2]
  | .null, _ | .bool _, _ | .int _, _ | .float _, _ | .str _, _ => rfl

theorem sortKeysList_stored (order : MemberOrder) (items : List Json) (h : KeysNodupList items) :
    sortKeysList (storedList order items) = sortKeysList items := by
  match items, h with
  | [], _ => rfl
  | item :: rest, h =>
      rw [storedList, sortKeysList, sortKeysList, sortKeys_stored order item h.1,
        sortKeysList_stored order rest h.2]

theorem sortKeysMembers_stored (order : MemberOrder) (members : List (String × Json))
    (h : KeysNodupMembers members) :
    sortKeysMembers (storedMembers order members) = sortKeysMembers members := by
  match members, h with
  | [], _ => rfl
  | (key, value) :: rest, h =>
      rw [storedMembers, sortKeysMembers, sortKeysMembers, sortKeys_stored order value h.1,
        sortKeysMembers_stored order rest h.2]

end

/-- A column gives back a value with the text it had. -/
theorem dumps_stored (format : TextFormat) (order : MemberOrder) {value : Json}
    (h : KeysNodup value) : dumps format (stored order value) = dumps format value := by
  rw [dumps, sortKeys_stored order value h, dumps]

end Json
end IntegraIntake.Library
