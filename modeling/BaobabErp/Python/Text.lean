/-
# The parts of Python's `str`, `int`, `uuid` and `Decimal` the code rests on

Character classes, `str.strip`, `str.isdigit` on ASCII input, `int(text)`,
`uuid.UUID(text)` and the acceptance rules of `Decimal(text)`.  A Python text is
a Lean `String`: the code never builds one with a lone surrogate, and every
pattern below looks at single characters.

`Decimal(text)` follows the C implementation: surrounding white space and every
underscore are dropped, digits of any script count as digits, then the numeric
string syntax of the General Decimal Arithmetic applies.  Only what the callers
ask of the value is kept: whether it is finite, negative or zero.
-/

import Mathlib.Logic.Basic

namespace BaobabErp
namespace Python

def isAsciiUpper (c : Char) : Bool := 'A' ≤ c && c ≤ 'Z'

def isAsciiLower (c : Char) : Bool := 'a' ≤ c && c ≤ 'z'

def isAsciiDigit (c : Char) : Bool := '0' ≤ c && c ≤ '9'

def isAsciiAlnum (c : Char) : Bool := isAsciiUpper c || isAsciiLower c || isAsciiDigit c

/-- `[A-Za-z0-9._:-]`, the tail class of a resource id and of an idempotency key. -/
def isIdTail (c : Char) : Bool :=
  isAsciiAlnum c || c == '.' || c == '_' || c == ':' || c == '-'

/-- `str.isspace` on one character. -/
def isSpace (c : Char) : Bool :=
  let n := c.toNat
  (9 ≤ n && n ≤ 13) || (28 ≤ n && n ≤ 32) || n == 0x85 || n == 0xA0 || n == 0x1680 ||
    (0x2000 ≤ n && n ≤ 0x200A) || n == 0x2028 || n == 0x2029 || n == 0x202F || n == 0x205F ||
    n == 0x3000

/-- `list(text.strip())`. -/
def stripChars (cs : List Char) : List Char :=
  ((cs.dropWhile isSpace).reverse.dropWhile isSpace).reverse

/-- `text.strip()`. -/
def strip (s : String) : String := String.ofList (stripChars s.toList)

/-- The first code points of the decimal digit blocks (general category `Nd`). -/
def digitZeros : List Nat :=
  [0x30, 0x660, 0x6F0, 0x7C0, 0x966, 0x9E6, 0xA66, 0xAE6, 0xB66, 0xBE6, 0xC66, 0xCE6, 0xD66,
   0xDE6, 0xE50, 0xED0, 0xF20, 0x1040, 0x1090, 0x17E0, 0x1810, 0x1946, 0x19D0, 0x1A80, 0x1A90,
   0x1B50, 0x1BB0, 0x1C40, 0x1C50, 0xA620, 0xA8D0, 0xA900, 0xA9D0, 0xA9F0, 0xAA50, 0xABF0,
   0xFF10, 0x104A0, 0x10D30, 0x11066, 0x110F0, 0x11136, 0x111D0, 0x112F0, 0x11450, 0x114D0,
   0x11650, 0x116C0, 0x11730, 0x118E0, 0x11950, 0x11C50, 0x11D50, 0x11DA0, 0x11F50, 0x16A60,
   0x16AC0, 0x16B50, 0x1D7CE, 0x1D7D8, 0x1D7E2, 0x1D7EC, 0x1D7F6, 0x1E140, 0x1E2F0, 0x1E4F0,
   0x1E950, 0x1FBF0]

/-- The decimal value of a digit of any script. -/
def digitValue (c : Char) : Option Nat :=
  (digitZeros.find? fun z => z ≤ c.toNat && c.toNat < z + 10).map fun z => c.toNat - z

/-- The value of a hexadecimal digit. -/
def hexValue (c : Char) : Option Nat :=
  if isAsciiDigit c then some (c.toNat - '0'.toNat)
  else if 'a' ≤ c && c ≤ 'f' then some (c.toNat - 'a'.toNat + 10)
  else if 'A' ≤ c && c ≤ 'F' then some (c.toNat - 'A'.toNat + 10)
  else none

/-- The number a non-empty digit string with single underscores between digits
denotes in base `b`; `last` says whether a digit has just been read. -/
def digitsWith (digit : Char → Option Nat) (b : Nat) : Bool → Nat → List Char → Option Nat
  | last, acc, [] => if last then some acc else none
  | last, acc, c :: cs =>
    if c == '_' then if last then digitsWith digit b false acc cs else none
    else match digit c with
      | some d => digitsWith digit b true (acc * b + d) cs
      | none => none

/-- What `int` skips around a number: white space, but not the four separators. -/
def isIntSpace (c : Char) : Bool := isSpace c && !(28 ≤ c.toNat && c.toNat ≤ 31)

/-- The characters of a number as `int` reads them: a digit of any script is an ASCII one. -/
def intChars (cs : List Char) : List Char :=
  ((cs.dropWhile isIntSpace).reverse.dropWhile isIntSpace).reverse.map fun c =>
    match digitValue c with
    | some d => Char.ofNat ('0'.toNat + d)
    | none => c

/-- `int(text)` in base ten: white space around, a sign, digits of any script. -/
def intOfText (s : String) : Option Int :=
  match intChars s.toList with
  | '-' :: cs => (digitsWith digitValue 10 false 0 cs).map fun n => -(n : Int)
  | '+' :: cs => (digitsWith digitValue 10 false 0 cs).map fun n => (n : Int)
  | cs => (digitsWith digitValue 10 false 0 cs).map fun n => (n : Int)

/-- The digits of `int(text, 16)` after the sign: an optional `0x` with an
optional underscore, then hexadecimal digits. -/
def hexDigits : List Char → Option Nat
  | '0' :: 'x' :: '_' :: cs => digitsWith hexValue 16 false 0 cs
  | '0' :: 'X' :: '_' :: cs => digitsWith hexValue 16 false 0 cs
  | '0' :: 'x' :: cs => digitsWith hexValue 16 false 0 cs
  | '0' :: 'X' :: cs => digitsWith hexValue 16 false 0 cs
  | cs => digitsWith hexValue 16 false 0 cs

/-- Removes every occurrence of `pat` (`text.replace(pat, "")`), left to right. -/
def removeAll (pat : List Char) : Nat → List Char → List Char
  | 0, cs => cs
  | _ + 1, [] => []
  | fuel + 1, c :: cs =>
    if pat.isPrefixOf (c :: cs) then removeAll pat fuel ((c :: cs).drop pat.length)
    else c :: removeAll pat fuel cs

/-- The hexadecimal digit of a value below sixteen. -/
def hexDigit (n : Nat) : Char := "0123456789abcdef".toList.getD n '0'

/-- The low `k` hexadecimal digits of `n`, most significant first. -/
def hexText : Nat → Nat → List Char
  | 0, _ => []
  | k + 1, n => hexText k (n / 16) ++ [hexDigit (n % 16)]

/-- `str(uuid)`: the canonical lower-case form with hyphens. -/
def uuidText (n : Nat) : String :=
  let h := hexText 32 n
  String.ofList (h.take 8 ++ '-' :: ((h.drop 8).take 4 ++ '-' :: ((h.drop 12).take 4 ++
    '-' :: ((h.drop 16).take 4 ++ '-' :: h.drop 20))))

/-- `uuid.UUID(text)` as its 128-bit value: `urn:`, `uuid:`, braces and hyphens
are dropped and 32 characters must remain that `int(…, 16)` accepts. -/
def uuidValue (s : String) : Option Nat :=
  let cs := s.toList
  let cs := removeAll "urn:".toList cs.length cs
  let cs := removeAll "uuid:".toList cs.length cs
  let brace := fun c => c == '{' || c == '}'
  let cs := ((cs.dropWhile brace).reverse.dropWhile brace).reverse
  let cs := cs.filter (· != '-')
  if cs.length != 32 then none
  else match intChars cs with
    | '+' :: ds => hexDigits ds
    | ds => hexDigits ds

/-- `str(uuid.UUID(text))`, when the text is a UUID. -/
def canonicalUuid (s : String) : Option String := (uuidValue s).map uuidText

/-! ### `Decimal(text)` -/

/-- What the callers ask of a parsed decimal. -/
structure DecimalValue where
  finite : Bool
  negative : Bool
  zero : Bool
deriving DecidableEq, Repr

/-- Splits a list at its first character that satisfies `p`. -/
def splitAtChar (p : Char → Bool) : List Char → List Char × Option (List Char)
  | [] => ([], none)
  | c :: cs =>
    if p c then ([], some cs)
    else match splitAtChar p cs with
      | (a, b) => (c :: a, b)

/-- The exponent after `E`: an optional sign and at least one digit. -/
def exponentOf : List Char → Option Int
  | '-' :: cs => (digitsWith digitValue 10 false 0 cs).map fun n => -(n : Int)
  | '+' :: cs => (digitsWith digitValue 10 false 0 cs).map fun n => (n : Int)
  | cs => (digitsWith digitValue 10 false 0 cs).map fun n => (n : Int)

/-- The largest exponent the C implementation represents exactly. -/
def maxEmax : Int := 999999999999999999

/-- `digits [. digits] [E exponent]` with at least one digit, and an exponent in range. -/
def decimalNumber (negative : Bool) (cs : List Char) : Option DecimalValue :=
  let (mantissa, expo) := splitAtChar (fun c => c == 'e' || c == 'E') cs
  let (whole, frac) := splitAtChar (· == '.') mantissa
  let digits := whole ++ frac.getD []
  let values := digits.filterMap digitValue
  if digits.isEmpty || values.length != digits.length then none
  else match expo.elim (some 0) exponentOf with
    | none => none
    | some e =>
      let scale : Int := e - (frac.getD []).length
      if scale + digits.length - 1 > maxEmax || scale < -1999999999999999997 then none
      else some ⟨true, negative, values.all (· == 0)⟩

/-- `inf`, `infinity`, `nan` and `snan` with digits, in any case. -/
def decimalSpecial (negative : Bool) (cs : List Char) : Option DecimalValue :=
  let lower := cs.map fun c => if isAsciiUpper c then Char.ofNat (c.toNat + 32) else c
  let nan := fun rest => (rest : List Char).all fun c => (digitValue c).isSome
  if lower == "inf".toList || lower == "infinity".toList then some ⟨false, negative, false⟩
  else if "nan".toList.isPrefixOf lower && nan (lower.drop 3) then some ⟨false, negative, false⟩
  else if "snan".toList.isPrefixOf lower && nan (lower.drop 4) then some ⟨false, negative, false⟩
  else none

/-- `Decimal(text)`, or `none` for `InvalidOperation`. -/
def decimalOfText (s : String) : Option DecimalValue :=
  let cs := (stripChars s.toList).filter (· != '_')
  let (negative, body) : Bool × List Char := match cs with
    | '-' :: rest => (true, rest)
    | '+' :: rest => (false, rest)
    | rest => (false, rest)
  (decimalSpecial negative body).orElse fun _ => decimalNumber negative body

example : decimalOfText " 1_0.50 " = some ⟨true, false, false⟩ := by decide

example : decimalOfText "1.2.3" = none ∧ decimalOfText "-0" = some ⟨true, true, true⟩ := by decide

example : canonicalUuid "urn:uuid:{5F0CBB6E-4A0E-5A39-9D52-7A3D2D1B8C11}" =
    some "5f0cbb6e-4a0e-5a39-9d52-7a3d2d1b8c11" := by decide +kernel

end Python
end BaobabErp
