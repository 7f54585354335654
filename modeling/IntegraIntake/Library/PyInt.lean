import Mathlib.Data.Nat.Digits.Lemmas
import IntegraIntake.Library.PyText

/-!
# Integers as Python strings

`str(value)` and `int(text)`.  Both refuse more than `maxStrDigits` digits, and
`int` reads more texts than `str` writes: white space around the number, a plus
sign, leading zeros, single underscores between digits, and the decimal digits of
every script.

`str` writes different texts for different integers, none of which holds a full stop
(`str_injective`, `str_digits`), `int` reads them back (`int_str`), and whatever `int`
has read can be written (`str_of_int`).
-/

namespace IntegraIntake.Library

open PyString (decimalZeros)

namespace PyInt

/-- `sys.int_info.default_max_str_digits`. -/
def maxStrDigits : ℕ := 4300

/-! ## Writing -/

/-- The digits of a number, the most significant first. -/
def decimalDigits (value : ℕ) : List ℕ :=
  if value = 0 then [0] else (Nat.digits 10 value).reverse

/-- The character of a decimal digit. -/
def digitChar (digit : ℕ) : CodePoint := Fin.ofNat _ (0x30 + digit)

/-- The sign of a negative integer. -/
def minus : CodePoint := 0x2D

/-- `str(value)`; `none` stands for the `ValueError` of too many digits. -/
def str (value : ℤ) : Option PyText :=
  if maxStrDigits < (decimalDigits value.natAbs).length then none
  else
    let digits := (decimalDigits value.natAbs).map digitChar
    some (if value < 0 then minus :: digits else digits)

/-! ## Reading -/

/-- The white space that `int` strips. -/
def isSpace (c : CodePoint) : Bool := PyString.isIntSpaceCode c.val

/-- `unicodedata.decimal`. -/
def decimalDigit? (c : CodePoint) : Option ℕ :=
  (decimalZeros.find? fun start => start ≤ c.val && c.val < start + 10).map fun start =>
    c.val - start

/-- What may stand between two digits. -/
def underscore : CodePoint := 0x5F

/-- Digits with single underscores between them; `digit` says whether the character
before was a digit. -/
def readDigits (digit : Bool) : PyText → Option (List ℕ)
  | [] => if digit then some [] else none
  | c :: rest =>
    if c = underscore then if digit then readDigits false rest else none
    else (decimalDigit? c).bind fun d => (readDigits true rest).map (d :: ·)

/-- White space off both ends. -/
def trimmed (text : PyText) : PyText :=
  ((text.dropWhile isSpace).reverse.dropWhile isSpace).reverse

/-- The sign, and what follows it. -/
def signed : PyText → Bool × PyText
  | [] => (false, [])
  | c :: rest => if c = minus then (true, rest) else if c = 0x2B then (false, rest)
    else (false, c :: rest)

/-- `int(text)`; `none` stands for its `ValueError`. -/
def int (text : PyText) : Option ℤ :=
  let (negative, number) := signed (trimmed text)
  (readDigits false number).bind fun digits =>
    if maxStrDigits < digits.length then none
    else
      let value : ℕ := Nat.ofDigits 10 digits.reverse
      some (if negative then -(value : ℤ) else value)

/-! ## What is written -/

theorem decimalDigits_lt {value digit : ℕ} (h : digit ∈ decimalDigits value) : digit < 10 := by
  unfold decimalDigits at h
  split at h
  · rw [List.mem_singleton.1 h]
    decide
  · exact Nat.digits_lt_base (by decide) (List.mem_reverse.1 h)

theorem decimalDigits_ne_nil (value : ℕ) : decimalDigits value ≠ [] := by
  unfold decimalDigits
  split
  · simp
  · rename_i hpositive
    rw [Ne, List.reverse_eq_nil_iff]
    exact Nat.digits_ne_nil_iff_ne_zero.2 hpositive

/-- The digits are those of the number. -/
theorem ofDigits_decimalDigits (value : ℕ) :
    Nat.ofDigits 10 (decimalDigits value).reverse = value := by
  unfold decimalDigits
  split
  · simp [‹value = 0›]
  · rw [List.reverse_reverse, Nat.ofDigits_digits]

/-- A number below a power of ten is written with no more digits. -/
theorem length_decimalDigits_le {value length : ℕ} (hlength : 0 < length)
    (h : value < 10 ^ length) : (decimalDigits value).length ≤ length := by
  unfold decimalDigits
  split
  · exact hlength
  · rw [List.length_reverse]
    exact (Nat.digits_length_le_iff (by decide) value).2 h

/-- The integers that `str` refuses. -/
theorem str_eq_none_iff {value : ℤ} : str value = none ↔ 10 ^ maxStrDigits ≤ value.natAbs := by
  have hlength : maxStrDigits < (decimalDigits value.natAbs).length ↔
      10 ^ maxStrDigits ≤ value.natAbs := by
    unfold decimalDigits
    split
    · rename_i hzero
      have hpos : 0 < 10 ^ maxStrDigits := Nat.pow_pos (by decide)
      rw [hzero]
      exact iff_of_false (by decide) (Nat.not_le.2 hpos)
    · rw [List.length_reverse]
      exact Nat.lt_digits_length_iff (by decide) value.natAbs
  rw [← hlength]
  unfold str
  split
  · exact iff_of_true rfl ‹_›
  · exact iff_of_false (Option.some_ne_none _) ‹_›
theorem digitChar_val {digit : ℕ} (h : digit < 10) : (digitChar digit).val = 0x30 + digit := by
  rw [digitChar, Fin.val_ofNat, Nat.mod_eq_of_lt (by omega)]

theorem decimalDigit?_digitChar {digit : ℕ} (h : digit < 10) :
    decimalDigit? (digitChar digit) = some digit := by
  have hval := digitChar_val h
  have hfound : (decimalZeros.find? fun start =>
      start ≤ (digitChar digit).val && (digitChar digit).val < start + 10) = some 0x30 := by
    rw [decimalZeros, List.find?_cons_of_pos]
    rw [hval, Bool.and_eq_true, decide_eq_true_eq, decide_eq_true_eq]
    omega
  rw [decimalDigit?, hfound, Option.map_some, hval, Nat.add_sub_cancel_left]

/-- The characters of a number. -/
theorem str_digits {value : ℤ} {text : PyText} (h : str value = some text) :
    ∀ c ∈ text, c = minus ∨ 0x30 ≤ c.val ∧ c.val ≤ 0x39 := by
  have hdigits : ∀ c ∈ (decimalDigits value.natAbs).map digitChar, 0x30 ≤ c.val ∧ c.val ≤ 0x39 := by
    intro c hc
    obtain ⟨digit, hdigit, rfl⟩ := List.mem_map.1 hc
    have hlt := decimalDigits_lt hdigit
    rw [digitChar_val hlt]
    omega
  unfold str at h
  split at h
  · cases h
  · cases h
    intro c hc
    split at hc
    · rcases List.mem_cons.1 hc with rfl | hc
      · exact .inl rfl
      · exact .inr (hdigits c hc)
    · exact .inr (hdigits c hc)

/-! ## What is read back -/

theorem isSpace_eq_false {c : CodePoint} (h : c = minus ∨ 0x30 ≤ c.val ∧ c.val ≤ 0x39) :
    isSpace c = false := by
  have hval : c.val = 0x2D ∨ 0x30 ≤ c.val ∧ c.val ≤ 0x39 := h.imp_left (congrArg Fin.val)
  unfold isSpace PyString.isIntSpaceCode PyString.isSpaceCode
  simp
  omega

theorem dropWhile_eq_self {α : Type*} {p : α → Bool} {items : List α}
    (h : ∀ item ∈ items, p item = false) : items.dropWhile p = items := by
  cases items with
  | nil => rfl
  | cons item rest => rw [List.dropWhile_cons_of_neg (by simp [h item List.mem_cons_self])]

theorem trimmed_eq_self {text : PyText} (h : ∀ c ∈ text, isSpace c = false) :
    trimmed text = text := by
  rw [trimmed, dropWhile_eq_self h, dropWhile_eq_self, List.reverse_reverse]
  exact fun c hc => h c (List.mem_reverse.1 hc)

theorem readDigits_map {digits : List ℕ} (hlt : ∀ digit ∈ digits, digit < 10) {before : Bool}
    (hsome : digits ≠ [] ∨ before = true) :
    readDigits before (digits.map digitChar) = some digits := by
  induction digits generalizing before with
  | nil =>
      obtain rfl : before = true := hsome.resolve_left (absurd rfl)
      rfl
  | cons digit rest ih =>
      have hdigit := hlt digit List.mem_cons_self
      have hother : digitChar digit ≠ underscore := by
        intro hsame
        have hval : 0x30 + digit = 0x5F :=
          (digitChar_val hdigit).symm.trans (congrArg Fin.val hsame)
        omega
      rw [List.map_cons, readDigits, if_neg hother, decimalDigit?_digitChar hdigit,
        ih (fun other hmem => hlt other (List.mem_cons_of_mem _ hmem)) (.inr rfl)]
      rfl

theorem signed_eq_self {text : PyText} (h : ∀ c ∈ text, 0x30 ≤ c.val) :
    signed text = (false, text) := by
  cases text with
  | nil => rfl
  | cons c rest =>
      have hc := h c List.mem_cons_self
      rw [signed, if_neg, if_neg]
      · rintro rfl
        exact absurd hc (by decide)
      · rintro rfl
        exact absurd hc (by decide)

/-- What `str` writes, `int` reads back. -/
theorem int_str {value : ℤ} {text : PyText} (h : str value = some text) :
    int text = some value := by
  have htrimmed : trimmed text = text :=
    trimmed_eq_self fun c hc => isSpace_eq_false (str_digits h c hc)
  have hread : readDigits false ((decimalDigits value.natAbs).map digitChar) =
      some (decimalDigits value.natAbs) :=
    readDigits_map (fun _ => decimalDigits_lt) (.inl (decimalDigits_ne_nil _))
  have hplain : signed ((decimalDigits value.natAbs).map digitChar) =
      (false, (decimalDigits value.natAbs).map digitChar) := by
    refine signed_eq_self fun c hc => ?_
    obtain ⟨digit, hdigit, rfl⟩ := List.mem_map.1 hc
    rw [digitChar_val (decimalDigits_lt hdigit)]
    exact Nat.le_add_right _ _
  unfold str at h
  split at h
  · cases h
  · rename_i hbound
    have hsigned : signed text =
        (decide (value < 0), (decimalDigits value.natAbs).map digitChar) := by
      cases h
      by_cases hnegative : value < 0
      · rw [if_pos hnegative, decide_eq_true hnegative]
        rfl
      · rw [if_neg hnegative, decide_eq_false hnegative, hplain]
    unfold int
    rw [htrimmed, hsigned]
    simp only [hread, Option.bind_some, if_neg hbound, ofDigits_decimalDigits, decide_eq_true_eq]
    refine congrArg some ?_
    split <;> omega

/-- Different integers have different texts. -/
theorem str_injective {left right : ℤ} {text : PyText} (hleft : str left = some text)
    (hright : str right = some text) : left = right :=
  Option.some.inj ((int_str hleft).symm.trans (int_str hright))

theorem decimalDigit?_lt {c : CodePoint} {digit : ℕ} (h : decimalDigit? c = some digit) :
    digit < 10 := by
  obtain ⟨start, hstart, rfl⟩ := Option.map_eq_some_iff.1 h
  have hfound := List.find?_some hstart
  rw [Bool.and_eq_true, decide_eq_true_eq, decide_eq_true_eq] at hfound
  omega

theorem readDigits_some {before : Bool} {text : PyText} {digits : List ℕ}
    (h : readDigits before text = some digits) :
    (∀ digit ∈ digits, digit < 10) ∧ (digits ≠ [] ∨ before = true) := by
  induction text generalizing before digits with
  | nil =>
      unfold readDigits at h
      split at h
      · rename_i hbefore
        cases h
        exact ⟨by simp, .inr hbefore⟩
      · cases h
  | cons c rest ih =>
      unfold readDigits at h
      split at h
      · split at h
        · rename_i hbefore
          obtain ⟨hlt, hsome⟩ := ih h
          exact ⟨hlt, .inr hbefore⟩
        · cases h
      · obtain ⟨digit, hdigit, hrest⟩ := Option.bind_eq_some_iff.1 h
        obtain ⟨others, hothers, rfl⟩ := Option.map_eq_some_iff.1 hrest
        obtain ⟨hlt, -⟩ := ih hothers
        refine ⟨List.forall_mem_cons.2 ⟨decimalDigit?_lt hdigit, hlt⟩, .inl ?_⟩
        exact List.cons_ne_nil _ _

/-- An integer that has been read can be written. -/
theorem str_of_int {text : PyText} {value : ℤ} (h : int text = some value) :
    (str value).isSome := by
  unfold int at h
  rcases hparts : signed (trimmed text) with ⟨negative, number⟩
  rw [hparts] at h
  obtain ⟨digits, hread, hvalue⟩ := Option.bind_eq_some_iff.1 h
  obtain ⟨hlt, hsome⟩ := readDigits_some hread
  dsimp only at hvalue
  split at hvalue
  · cases hvalue
  · rename_i hbound
    have hne : digits ≠ [] := hsome.resolve_right Bool.false_ne_true
    have hnatAbs : value.natAbs = Nat.ofDigits 10 digits.reverse := by
      cases hvalue
      split
      · rw [Int.natAbs_neg, Int.natAbs_natCast]
      · exact Int.natAbs_natCast _
    have hpower : value.natAbs < 10 ^ digits.length := by
      rw [hnatAbs, ← List.length_reverse]
      refine Nat.ofDigits_lt_base_pow_length (by decide) fun digit hdigit => ?_
      exact hlt digit (List.mem_reverse.1 hdigit)
    have hlength := length_decimalDigits_le (List.length_pos_iff.2 hne) hpower
    rw [str, if_neg (by omega)]
    rfl

end PyInt

end IntegraIntake.Library
