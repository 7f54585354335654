import Mathlib.Data.List.Sort

/-!
# Canonical JSON text

`json.dumps(value, ensure_ascii=False, sort_keys=True, separators=(",", ":"))`
for values built of `null`, natural numbers, strings and dictionaries.

The text of a value can be read off the front of any longer text, as long as
what follows does not begin with a digit; so two values have the same text
exactly when they are equal up to the order of their members.
-/

namespace IntegraIntake.Library

/-- `null`, natural numbers, strings and dictionaries of these. -/
inductive Plain where
  | null
  | nat (value : ℕ)
  | str (value : String)
  | obj (members : List (String × Plain))

namespace Plain

/-! ## Strings -/

/-- One character of a string literal: the quote (`\x22`), the backslash
(`\x5c`) and the control characters are escaped, everything else stands for
itself. -/
def escapeChar (c : Char) : List Char :=
  if c = '\x22' then ['\x5c', '\x22']
  else if c = '\x5c' then ['\x5c', '\x5c']
  else if c = '\n' then ['\x5c', 'n']
  else if c = '\r' then ['\x5c', 'r']
  else if c = '\t' then ['\x5c', 't']
  else if c = '\x0c' then ['\x5c', 'f']
  else if c = '\x08' then ['\x5c', 'b']
  else if c.toNat < 32 then
    ['\x5c', 'u', '0', '0', Nat.digitChar (c.toNat / 16), Nat.digitChar (c.toNat % 16)]
  else [c]

/-- The characters of a string between its quotes. -/
def escape (text : List Char) : List Char :=
  text.flatMap escapeChar

/-- A string with its quotes. -/
def quote (text : String) : List Char :=
  '\x22' :: (escape text.toList ++ ['\x22'])

/-- The character that a backslash and `c` stand for. -/
def shortEscape (c : Char) : Char :=
  if c = 'n' then '\n'
  else if c = 'r' then '\r'
  else if c = 't' then '\t'
  else if c = 'f' then '\x0c'
  else if c = 'b' then '\x08'
  else c

/-- The value of a hexadecimal digit. -/
def hexValue (c : Char) : ℕ :=
  if c.isDigit then c.toNat - 48 else c.toNat - 87

/-- Read one character of a string literal back. -/
def readChar : List Char → Option (Char × List Char)
  | '\x5c' :: 'u' :: '0' :: '0' :: high :: low :: rest =>
    some (Char.ofNat (16 * hexValue high + hexValue low), rest)
  | '\x5c' :: c :: rest => some (shortEscape c, rest)
  | c :: rest => some (c, rest)
  | [] => none

theorem hexValue_digitChar : ∀ n < 16, hexValue (Nat.digitChar n) = n := by
  decide

theorem readChar_escapeChar (c : Char) (rest : List Char) :
    readChar (escapeChar c ++ rest) = some (c, rest) := by
  unfold escapeChar
  split_ifs with hquote hbackslash hn hr ht hf hb hcontrol
  iterate 7 subst c; rfl
  · have hhigh := hexValue_digitChar (c.toNat / 16) (by omega)
    have hlow := hexValue_digitChar (c.toNat % 16) (by omega)
    have hchar : 16 * (c.toNat / 16) + c.toNat % 16 = c.toNat := by omega
    simp only [List.cons_append, List.nil_append, readChar, hhigh, hlow, hchar, Char.ofNat_toNat]
  · simp only [List.cons_append, List.nil_append]
    rw [readChar.eq_def]
    split <;> simp_all

/-- The escape of a character does not look like the end of the literal. -/
theorem escapeChar_append_ne (c : Char) (rest after : List Char) :
    escapeChar c ++ rest ≠ '\x22' :: after := by
  unfold escapeChar
  split_ifs <;> simp_all

theorem escape_append_inj {left right : List Char} {after after' : List Char}
    (h : escape left ++ '\x22' :: after = escape right ++ '\x22' :: after') :
    left = right ∧ after = after' := by
  induction left generalizing right with
  | nil =>
      cases right with
      | nil => simpa [escape] using h
      | cons d right =>
          simp only [escape, List.flatMap_nil, List.flatMap_cons, List.nil_append,
            List.append_assoc] at h
          exact absurd h.symm (escapeChar_append_ne _ _ _)
  | cons c left ih =>
      cases right with
      | nil =>
          simp only [escape, List.flatMap_nil, List.flatMap_cons, List.nil_append,
            List.append_assoc] at h
          exact absurd h (escapeChar_append_ne _ _ _)
      | cons d right =>
          simp only [escape, List.flatMap_cons, List.append_assoc] at h
          have hread := congrArg readChar h
          rw [readChar_escapeChar, readChar_escapeChar, Option.some.injEq, Prod.mk.injEq] at hread
          obtain ⟨rfl, hafter⟩ := ih hread.2
          exact ⟨by rw [hread.1], hafter⟩

theorem quote_append_inj {left right : String} {after after' : List Char}
    (h : quote left ++ after = quote right ++ after') : left = right ∧ after = after' := by
  simp only [quote, List.cons_append, List.append_assoc, List.nil_append, List.cons.injEq,
    true_and] at h
  obtain ⟨htext, hafter⟩ := escape_append_inj h
  exact ⟨String.toList_inj.1 htext, hafter⟩

/-! ## Numbers -/

/-- What follows a number in a text. -/
def NoDigitFirst (text : List Char) : Prop :=
  ∀ c ∈ text.head?, c.isDigit = false

theorem takeWhile_toDigits_append (n : ℕ) {after : List Char} (h : NoDigitFirst after) :
    (Nat.toDigits 10 n ++ after).takeWhile Char.isDigit = Nat.toDigits 10 n := by
  rw [List.takeWhile_append_of_pos fun c hc =>
    Nat.isDigit_of_mem_toDigits (by decide) (by decide) hc]
  cases after with
  | nil => simp
  | cons c rest => simp [h c (by simp)]

theorem toDigits_append_inj {n m : ℕ} {after after' : List Char} (hafter : NoDigitFirst after)
    (hafter' : NoDigitFirst after')
    (h : Nat.toDigits 10 n ++ after = Nat.toDigits 10 m ++ after') : n = m ∧ after = after' := by
  have hdigits : Nat.toDigits 10 n = Nat.toDigits 10 m := by
    rw [← takeWhile_toDigits_append n hafter, h, takeWhile_toDigits_append m hafter']
  refine ⟨?_, List.append_cancel_left (hdigits ▸ h)⟩
  rw [← Nat.ofDigitChars_toDigits (b := 10) (n := n) (by decide) (by decide), hdigits,
    Nat.ofDigitChars_toDigits (by decide) (by decide)]

/-! ## Values -/

mutual

/-- The text of a value, members in the order they have. -/
def encode : Plain → List Char
  | null => ['n', 'u', 'l', 'l']
  | nat value => Nat.toDigits 10 value
  | str value => quote value
  | obj [] => ['\x7b', '\x7d']
  | obj ((key, value) :: rest) =>
    '\x7b' :: (quote key ++ ':' :: (encode value ++ encodeRest rest))

/-- The members after the first, and the closing brace. -/
def encodeRest : List (String × Plain) → List Char
  | [] => ['\x7d']
  | (key, value) :: rest => ',' :: (quote key ++ ':' :: (encode value ++ encodeRest rest))

end

/-- The kind of a value, which its first character shows. -/
def kind : Plain → ℕ
  | null => 0
  | nat _ => 1
  | str _ => 2
  | obj _ => 3

/-- The kind of value that a text begins. -/
def kindOfText : List Char → ℕ
  | 'n' :: _ => 0
  | '\x22' :: _ => 2
  | '\x7b' :: _ => 3
  | _ => 1

theorem kindOfText_encode (value : Plain) (after : List Char) :
    kindOfText (encode value ++ after) = kind value := by
  cases value with
  | null => rfl
  | str text => rfl
  | obj members =>
      cases members with
      | nil => rfl
      | cons member rest => rfl
  | nat n =>
      have hdigit : ∀ c ∈ Nat.toDigits 10 n, c.isDigit = true := fun c hc =>
        Nat.isDigit_of_mem_toDigits (by decide) (by decide) hc
      cases hdigits : Nat.toDigits 10 n with
      | nil => exact absurd hdigits Nat.toDigits_ne_nil
      | cons c rest =>
          have hc := hdigit c (by simp [hdigits])
          rw [encode, hdigits, List.cons_append, kindOfText.eq_def]
          split <;> simp_all [kind]

theorem encodeRest_append_noDigit (members : List (String × Plain)) (after : List Char) :
    NoDigitFirst (encodeRest members ++ after) := by
  cases members with
  | nil => simp [encodeRest, NoDigitFirst]
  | cons member rest => simp [encodeRest, NoDigitFirst]

mutual

theorem encode_append_inj (left right : Plain) {after after' : List Char}
    (hafter : NoDigitFirst after) (hafter' : NoDigitFirst after')
    (h : encode left ++ after = encode right ++ after') : left = right ∧ after = after' := by
  have hkind : kind left = kind right := by
    rw [← kindOfText_encode left after, h, kindOfText_encode]
  match left, right, hkind with
  | null, null, _ => exact ⟨rfl, List.append_cancel_left h⟩
  | nat n, nat m, _ =>
    obtain ⟨rfl, hrest⟩ := toDigits_append_inj hafter hafter' h
    exact ⟨rfl, hrest⟩
  | str text, str other, _ =>
    obtain ⟨rfl, hrest⟩ := quote_append_inj h
    exact ⟨rfl, hrest⟩
  | obj [], obj [], _ => exact ⟨rfl, List.append_cancel_left h⟩
  | obj [], obj ((key, value) :: rest), _ => simp [encode, quote] at h
  | obj ((key, value) :: rest), obj [], _ => simp [encode, quote] at h
  | obj ((key, value) :: rest), obj ((key', value') :: rest'), _ =>
    simp only [encode, List.cons_append, List.append_assoc, List.cons.injEq, true_and] at h
    obtain ⟨rfl, hvalue⟩ := quote_append_inj h
    obtain ⟨rfl, hrest⟩ := encode_append_inj value value' (encodeRest_append_noDigit rest after)
      (encodeRest_append_noDigit rest' after') (List.cons.inj hvalue).2
    obtain ⟨rfl, hend⟩ := encodeRest_append_inj rest rest' hrest
    exact ⟨rfl, hend⟩

theorem encodeRest_append_inj (left right : List (String × Plain)) {after after' : List Char}
    (h : encodeRest left ++ after = encodeRest right ++ after') :
    left = right ∧ after = after' := by
  match left, right with
  | [], [] => exact ⟨rfl, List.append_cancel_left h⟩
  | [], _ :: _ => simp [encodeRest] at h
  | _ :: _, [] => simp [encodeRest] at h
  | (key, value) :: rest, (key', value') :: rest' =>
    simp only [encodeRest, List.cons_append, List.append_assoc, List.cons.injEq, true_and] at h
    obtain ⟨rfl, hvalue⟩ := quote_append_inj h
    obtain ⟨rfl, hrest⟩ := encode_append_inj value value' (encodeRest_append_noDigit rest after)
      (encodeRest_append_noDigit rest' after') (List.cons.inj hvalue).2
    obtain ⟨rfl, hend⟩ := encodeRest_append_inj rest rest' hrest
    exact ⟨rfl, hend⟩

end

/-! ## Sorted members -/

mutual

/-- The value with the members of every dictionary sorted by key. -/
def sortKeys : Plain → Plain
  | obj members =>
    obj ((sortKeysMembers members).insertionSort fun left right => left.1 ≤ right.1)
  | value => value

/-- The members of an object, each with its keys sorted. -/
def sortKeysMembers : List (String × Plain) → List (String × Plain)
  | [] => []
  | (key, value) :: rest => (key, sortKeys value) :: sortKeysMembers rest

end

/-- `json.dumps`. -/
def dumps (value : Plain) : String :=
  String.ofList (encode (sortKeys value))

/-- Two values have the same text exactly when they differ at most in the order
of their members. -/
theorem dumps_inj {left right : Plain} :
    dumps left = dumps right ↔ sortKeys left = sortKeys right := by
  constructor
  · intro h
    have htext : encode (sortKeys left) ++ [] = encode (sortKeys right) ++ [] := by
      simpa [dumps] using congrArg String.toList h
    have hend : NoDigitFirst [] := by simp [NoDigitFirst]
    exact (encode_append_inj _ _ hend hend htext).1
  · intro h
    rw [dumps, h, dumps]

end Plain
end IntegraIntake.Library
