import Mathlib.Data.List.Basic
import IntegraIntake.Library.PyString

/-!
# Python strings with surrogates

A Python string may hold any code point, a surrogate among them, which no `Char` is.
A `PyText` is such a string.  It is the text of a `String` exactly if there is no
surrogate in it (`toString?_eq_some_iff`), and that is when it can be encoded.
-/

namespace IntegraIntake.Library

/-- A character of a Python string, surrogates included. -/
abbrev CodePoint := Fin 0x110000

instance CodePoint.count_ne_zero : @NeZero ℕ Zero.ofOfNat0 0x110000 := ⟨by decide⟩

/-- A Python string. -/
abbrev PyText := List CodePoint

/-! ## Code points -/

namespace CodePoint

/-- The character is a surrogate, which no Unicode text has. -/
def isSurrogate (c : CodePoint) : Bool := 0xD800 ≤ c.val && c.val ≤ 0xDFFF

/-- The code point of a character. -/
def ofChar (c : Char) : CodePoint := ⟨c.toNat, by
  rcases c.valid with h | h
  · exact h.trans (by decide)
  · exact h.2⟩

/-- The character of a code point that is no surrogate. -/
def toChar (c : CodePoint) : Char := Char.ofNat c.val

/-- `str.isspace` of one code point. -/
def isSpace (c : CodePoint) : Bool := PyString.isSpaceCode c.val

theorem toChar_ofChar (c : Char) : (ofChar c).toChar = c := Char.ofNat_toNat c

theorem ofChar_injective : Function.Injective ofChar := fun left right h => by
  rw [← toChar_ofChar left, h, toChar_ofChar]

theorem isSurrogate_ofChar (c : Char) : (ofChar c).isSurrogate = false := by
  have hvalid : c.toNat < 0xD800 ∨ 0xDFFF < c.toNat ∧ c.toNat < 0x110000 := c.valid
  have hnot : ¬ (0xD800 ≤ c.toNat ∧ c.toNat ≤ 0xDFFF) := by omega
  rw [isSurrogate, ← Bool.not_eq_true, Bool.and_eq_true, decide_eq_true_eq, decide_eq_true_eq]
  exact hnot

theorem ofChar_toChar {c : CodePoint} (h : c.isSurrogate = false) : ofChar c.toChar = c := by
  have hvalid : c.val.isValidChar := by
    have hlt := c.isLt
    have hnot : ¬ (0xD800 ≤ c.val ∧ c.val ≤ 0xDFFF) := by simpa [isSurrogate] using h
    unfold Nat.isValidChar
    omega
  refine Fin.ext ?_
  show (Char.ofNat c.val).toNat = c.val
  rw [Char.ofNat, dif_pos hvalid]
  rfl

end CodePoint

namespace PyText

/-- A text without surrogates. -/
def ofString (value : String) : PyText := value.toList.map CodePoint.ofChar

/-- There is no surrogate in the text. -/
def encodable (text : PyText) : Bool := text.all fun c => !c.isSurrogate

/-- The text as a string of characters, if it is one. -/
def toString? (text : PyText) : Option String :=
  if text.encodable then some (String.ofList (text.map CodePoint.toChar)) else none

/-- `not text.strip()`. -/
def isBlank (text : PyText) : Bool := text.all CodePoint.isSpace

/-- `sep.join(parts)`. -/
def join (sep : PyText) (parts : List PyText) : PyText := sep.intercalate parts

@[simp] theorem length_ofString (value : String) :
    (ofString value).length = PyString.len value := List.length_map _

theorem isBlank_ofString (value : String) : (ofString value).isBlank = PyString.isBlank value := by
  rw [isBlank, ofString, List.all_map]
  rfl

theorem encodable_ofString (value : String) : (ofString value).encodable = true := by
  simp [encodable, ofString, CodePoint.isSurrogate_ofChar]

theorem toString?_eq_some_iff {text : PyText} {value : String} :
    text.toString? = some value ↔ text = ofString value := by
  unfold toString?
  constructor
  · intro h
    split at h
    · rename_i hencodable
      have hplain : ∀ c ∈ text, (CodePoint.ofChar ∘ CodePoint.toChar) c = id c := by
        intro c hc
        have hnot := List.all_eq_true.1 hencodable c hc
        exact CodePoint.ofChar_toChar (by simpa using hnot)
      rw [← Option.some.inj h, ofString, String.toList_ofList, List.map_map,
        List.map_congr_left hplain, List.map_id]
    · cases h
  · rintro rfl
    rw [if_pos (encodable_ofString value), ofString, List.map_map]
    have hback : CodePoint.toChar ∘ CodePoint.ofChar = id := funext CodePoint.toChar_ofChar
    rw [hback, List.map_id, String.ofList_toList]

theorem toString?_eq_none_iff {text : PyText} : text.toString? = none ↔ text.encodable = false := by
  unfold toString?
  split
  · simp [*]
  · simp [*]

/-! ## Joining -/

theorem join_singleton (sep part : PyText) : join sep [part] = part := by
  simp [join]

/-- One more part. -/
theorem join_concat (sep : PyText) {parts : List PyText} (h : parts ≠ []) (part : PyText) :
    join sep (parts ++ [part]) = join sep parts ++ (sep ++ part) := by
  induction parts with
  | nil => exact absurd rfl h
  | cons first rest ih =>
      cases rest with
      | nil => simp [join, List.intercalate]
      | cons second rest =>
          have hrest := ih (List.cons_ne_nil second rest)
          simp only [join, List.intercalate, List.cons_append, List.intersperse_cons_cons,
            List.flatten_cons, List.append_assoc] at hrest ⊢
          rw [hrest]

/-! ## Replacing -/

section Replace

variable {α : Type} [DecidableEq α]

/-- `value.replace(old, new)` for a non-empty `old`, left to right; `skip` items of the
current occurrence are still to be dropped. -/
def replaceFrom (old new : List α) : ℕ → List α → List α
  | _, [] => []
  | skip + 1, _ :: rest => replaceFrom old new skip rest
  | 0, c :: rest =>
    if old.isPrefixOf (c :: rest) then new ++ replaceFrom old new (old.length - 1) rest
    else c :: replaceFrom old new 0 rest

/-- `value.replace(old, new)`. -/
def replace (old new value : List α) : List α := replaceFrom old new 0 value

variable {old new : List α}

/-- What holds of all items of `old` and of `new` is kept and reflected. -/
theorem all_replaceFrom {p : α → Bool} (hold : old.all p = true) (hnew : new.all p = true)
    (hnonempty : old ≠ []) (value : List α) (skip : ℕ) :
    (replaceFrom old new skip value).all p = (value.drop skip).all p := by
  induction value generalizing skip with
  | nil => rw [List.drop_nil, replaceFrom]
  | cons c rest ih =>
      cases skip with
      | succ skip => exact ih skip
      | zero =>
          rw [replaceFrom, List.drop_zero]
          split
          · rename_i hoccurs
            obtain ⟨after, hafter⟩ := List.isPrefixOf_iff_prefix.1 hoccurs
            have hrest : rest.drop (old.length - 1) = after := by
              obtain ⟨first, others, rfl⟩ := List.exists_cons_of_ne_nil hnonempty
              obtain ⟨-, rfl⟩ := List.cons.inj hafter
              simp
            rw [List.all_append, hnew, ih, hrest, ← hafter, List.all_append, hold]
          · rw [List.all_cons, List.all_cons, ih, List.drop_zero]

theorem all_replace {p : α → Bool} (hold : old.all p = true) (hnew : new.all p = true)
    (hnonempty : old ≠ []) (value : List α) : (replace old new value).all p = value.all p :=
  all_replaceFrom hold hnew hnonempty value 0

theorem length_replaceFrom_le (hle : new.length ≤ old.length) (hnonempty : old ≠ [])
    (value : List α) (skip : ℕ) :
    (replaceFrom old new skip value).length ≤ value.length - skip := by
  have hpos : 0 < old.length := List.length_pos_of_ne_nil hnonempty
  induction value generalizing skip with
  | nil => exact Nat.zero_le _
  | cons c rest ih =>
      cases skip with
      | succ skip =>
          rw [List.length_cons, Nat.add_sub_add_right]
          exact ih skip
      | zero =>
          rw [replaceFrom]
          split
          · rename_i hoccurs
            have hlength := (List.isPrefixOf_iff_prefix.1 hoccurs).length_le
            have hrest := ih (old.length - 1)
            rw [List.length_append]
            rw [List.length_cons] at hlength ⊢
            omega
          · have hrest := ih 0
            rw [List.length_cons, List.length_cons]
            omega

/-- A text does not grow when the replacement is no longer than what it replaces. -/
theorem length_replace_le (hle : new.length ≤ old.length) (hnonempty : old ≠ [])
    (value : List α) : (replace old new value).length ≤ value.length :=
  length_replaceFrom_le hle hnonempty value 0

/-- A character that is replaced is gone. -/
theorem not_mem_replace_singleton {c : α} (h : c ∉ new) (value : List α) :
    c ∉ replace [c] new value := by
  unfold replace
  induction value with
  | nil => exact List.not_mem_nil
  | cons first rest ih =>
      rw [replaceFrom]
      split
      · exact fun hmem => (List.mem_append.1 hmem).elim h ih
      · rename_i hother
        intro hmem
        rcases List.mem_cons.1 hmem with rfl | hmem
        · simp at hother
        · exact ih hmem

end Replace

end PyText
end IntegraIntake.Library
