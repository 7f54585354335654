import Mathlib.Data.List.Infix

/-!
# Python strings

The string operations the modelled code uses, over the list of code points.
White space is that of `str.isspace`, which `str.strip` and the pattern class
`\s` share (`isSpaceCode`); `int` knows less of it (`isIntSpaceCode`).
-/

namespace IntegraIntake.Library.PyString

/-- `str.isspace` of the character with this code point. -/
def isSpaceCode (n : ℕ) : Bool :=
  (9 ≤ n && n ≤ 13) || (28 ≤ n && n ≤ 32) || n == 0x85 || n == 0xA0 || n == 0x1680 ||
    (0x2000 ≤ n && n ≤ 0x200A) || n == 0x2028 || n == 0x2029 || n == 0x202F || n == 0x205F ||
    n == 0x3000

/-- The white space that `int` strips: not the four separators that `str.isspace`
counts among the control characters. -/
def isIntSpaceCode (n : ℕ) : Bool :=
  isSpaceCode n && !(0x1C ≤ n && n ≤ 0x1F)

/-- `str.isspace` of one character. -/
def isSpace (c : Char) : Bool :=
  isSpaceCode c.toNat

/-- Whether `int` strips the character. -/
def isIntSpace (c : Char) : Bool :=
  isIntSpaceCode c.toNat

/-- `value.strip()`. -/
def strip (value : String) : String :=
  String.ofList ((value.toList.dropWhile isSpace).reverse.dropWhile isSpace).reverse

/-- `not value.strip()`. -/
def isBlank (value : String) : Bool :=
  value.toList.all isSpace

/-- `len(value)`. -/
def len (value : String) : ℕ :=
  value.toList.length

/-- `needle in haystack`. -/
def contains (haystack needle : String) : Bool :=
  decide (needle.toList <:+: haystack.toList)

/-- `re.fullmatch(r"^[a-z][a-z0-9_]{0,max}$", value)`. -/
def isIdentifier (max : ℕ) (value : String) : Bool :=
  match value.toList with
  | [] => false
  | first :: rest =>
    ('a' ≤ first && first ≤ 'z') && rest.length ≤ max &&
      rest.all fun c => ('a' ≤ c && c ≤ 'z') || c.isDigit || c == '_'

/-! ## `int(value, 16)` and `uuid.UUID(value)` -/

/-- The code points of the digit zero in each run of decimal digits
(category `Nd`, Unicode 15); the other nine digits follow it. -/
def decimalZeros : List ℕ :=
  [0x30, 0x660, 0x6F0, 0x7C0, 0x966, 0x9E6, 0xA66, 0xAE6, 0xB66, 0xBE6, 0xC66, 0xCE6, 0xD66,
    0xDE6, 0xE50, 0xED0, 0xF20, 0x1040, 0x1090, 0x17E0, 0x1810, 0x1946, 0x19D0, 0x1A80, 0x1A90,
    0x1B50, 0x1BB0, 0x1C40, 0x1C50, 0xA620, 0xA8D0, 0xA900, 0xA9D0, 0xA9F0, 0xAA50, 0xABF0,
    0xFF10, 0x104A0, 0x10D30, 0x11066, 0x110F0, 0x11136, 0x111D0, 0x112F0, 0x11450, 0x114D0,
    0x11650, 0x116C0, 0x11730, 0x118E0, 0x11950, 0x11C50, 0x11D50, 0x11DA0, 0x11F50, 0x16A60,
    0x16AC0, 0x16B50, 0x1D7CE, 0x1D7D8, 0x1D7E2, 0x1D7EC, 0x1D7F6, 0x1E140, 0x1E2F0, 0x1E4F0,
    0x1E950, 0x1FBF0]

/-- The value of a hexadecimal digit; any decimal digit of Unicode counts. -/
def hexDigit? (c : Char) : Option ℕ :=
  let n := c.toNat
  if 'a' ≤ c ∧ c ≤ 'f' then some (n - 'a'.toNat + 10)
  else if 'A' ≤ c ∧ c ≤ 'F' then some (n - 'A'.toNat + 10)
  else (decimalZeros.find? fun start => start ≤ n && n < start + 10).map fun start => n - start

/-- Hexadecimal digits with single underscores between them; `digit` says
whether the character before was a digit. -/
def hexNumber? (digit : Bool) (value : ℕ) : List Char → Option ℕ
  | [] => if digit then some value else none
  | '_' :: rest => if digit then hexNumber? false value rest else none
  | c :: rest =>
    match hexDigit? c with
    | some d => hexNumber? true (16 * value + d) rest
    | none => none

/-- `int(value, 16)` of an unsigned literal: white space around it, an optional
plus sign, an optional `0x` that one underscore may follow. -/
def hexInt? (value : List Char) : Option ℕ :=
  let trimmed := ((value.dropWhile isIntSpace).reverse.dropWhile isIntSpace).reverse
  let unsigned := match trimmed with
    | '+' :: rest => rest
    | other => other
  match unsigned with
  | '0' :: 'x' :: '_' :: rest | '0' :: 'X' :: '_' :: rest => hexNumber? false 0 rest
  | '0' :: 'x' :: rest | '0' :: 'X' :: rest => hexNumber? false 0 rest
  | other => hexNumber? false 0 other

/-- Drop every occurrence of `pattern`, left to right; `skip` characters of the
current occurrence are still to be dropped. -/
def removeAll (pattern : List Char) : ℕ → List Char → List Char
  | _, [] => []
  | skip + 1, _ :: rest => removeAll pattern skip rest
  | 0, c :: rest =>
    if pattern.isPrefixOf (c :: rest) then removeAll pattern (pattern.length - 1) rest
    else c :: removeAll pattern 0 rest

/-- `UUID(value)`; `none` stands for the `ValueError` of a badly formed string. -/
def parseUuid (value : String) : Option ℕ :=
  let bare := removeAll "uuid:".toList 0 (removeAll "urn:".toList 0 value.toList)
  let brace : Char → Bool := fun c => c == '\x7b' || c == '\x7d'
  let hex := (((bare.dropWhile brace).reverse.dropWhile brace).reverse).filter (· != '-')
  if hex.length = 32 then hexInt? hex else none

end IntegraIntake.Library.PyString
