/-
# Text with lone surrogates

A Python `str` is a sequence of code points, surrogates among them: `json.loads` decodes
its bytes with `surrogatepass`, and an escape may name half of a pair.  Here are the
decoders it chooses from, and the encoder that refuses such a text.
-/

import BaobabErp.Python.Text

namespace BaobabErp
namespace Python

/-- A code point: a character, or a surrogate counted from U+D800. -/
inductive CodePoint
  | scalar (c : Char)
  | surrogate (n : Fin 2048)
deriving DecidableEq, Repr

/-- `str`. -/
abbrev PyStr := List CodePoint

namespace CodePoint

/-- `chr(n)`; `none` stands for its `ValueError`. -/
def chr (n : Nat) : Option CodePoint :=
  if h : n.isValidChar then some (scalar (Char.ofNatAux n h))
  else if h : 0xD800 ≤ n ∧ n < 0xE000 then some (surrogate ⟨n - 0xD800, by omega⟩)
  else none

/-- The character it is, unless it is a surrogate. -/
def char? : CodePoint → Option Char
  | scalar c => some c
  | surrogate _ => none

/-- The UTF-16 units of a code point. -/
def units : CodePoint → List Nat
  | scalar c =>
    if c.toNat < 0x10000 then [c.toNat]
    else [0xD800 + (c.toNat - 0x10000) / 1024, 0xDC00 + (c.toNat - 0x10000) % 1024]
  | surrogate n => [0xD800 + n]

/-- The character it is read as where no surrogate is: U+FFFD is no digit, no letter of a
name and no white space either. -/
def shown : CodePoint → Char
  | scalar c => c
  | surrogate _ => '\uFFFD'

end CodePoint

namespace PyStr

/-- A text of characters. -/
def ofString (s : String) : PyStr := s.toList.map CodePoint.scalar

/-- A text as the grammars of ASCII texts read it. -/
def shown (s : PyStr) : String := String.ofList (s.map CodePoint.shown)

/-- `s.encode()`; `none` stands for the `UnicodeEncodeError` of a surrogate. -/
def encode (s : PyStr) : Option String := (s.mapM CodePoint.char?).map String.ofList

end PyStr

/-! ### `bytes.decode(…, "surrogatepass")` -/

/-- The code point of a lead value and its continuation bytes, not below `least`. -/
def utf8Point (least lead : Nat) (tails : List UInt8) : Option CodePoint :=
  let n := tails.foldl (fun n b => n * 64 + (b.toNat - 0x80)) lead
  if tails.all (fun b => 0x80 ≤ b.toNat && b.toNat < 0xC0) && least ≤ n then CodePoint.chr n else none

def utf8 : List UInt8 → Option PyStr
  | [] => some []
  | a :: bs =>
    if a.toNat < 0x80 then return (← CodePoint.chr a.toNat) :: (← utf8 bs)
    else if a.toNat < 0xC0 then none
    else if a.toNat < 0xE0 then
      match bs with
      | b :: bs => return (← utf8Point 0x80 (a.toNat - 0xC0) [b]) :: (← utf8 bs)
      | _ => none
    else if a.toNat < 0xF0 then
      match bs with
      | b :: c :: bs => return (← utf8Point 0x800 (a.toNat - 0xE0) [b, c]) :: (← utf8 bs)
      | _ => none
    else if a.toNat < 0xF8 then
      match bs with
      | b :: c :: d :: bs => return (← utf8Point 0x10000 (a.toNat - 0xF0) [b, c, d]) :: (← utf8 bs)
      | _ => none
    else none

/-- The units of a UTF-16 text. -/
def utf16Units (bigEndian : Bool) : List UInt8 → Option (List Nat)
  | [] => some []
  | a :: b :: bs => do
    let unit := if bigEndian then a.toNat * 256 + b.toNat else b.toNat * 256 + a.toNat
    return unit :: (← utf16Units bigEndian bs)
  | [_] => none

def isHigh (unit : Nat) : Bool := 0xD800 ≤ unit && unit < 0xDC00

def isLow (unit : Nat) : Bool := 0xDC00 ≤ unit && unit < 0xE000

/-- The code point of a pair. -/
def joined (high low : Nat) : Option CodePoint :=
  CodePoint.chr (0x10000 + (high - 0xD800) * 1024 + (low - 0xDC00))

/-- A surrogate that is in no pair passes. -/
def ofUnits : List Nat → Option PyStr
  | high :: low :: us =>
    if isHigh high && isLow low then return (← joined high low) :: (← ofUnits us)
    else return (← CodePoint.chr high) :: (← ofUnits (low :: us))
  | [unit] => (CodePoint.chr unit).map ([·])
  | [] => some []

def utf32 (bigEndian : Bool) : List UInt8 → Option PyStr
  | [] => some []
  | a :: b :: c :: d :: bs => do
    let n := if bigEndian then ((a.toNat * 256 + b.toNat) * 256 + c.toNat) * 256 + d.toNat
      else ((d.toNat * 256 + c.toNat) * 256 + b.toNat) * 256 + a.toNat
    return (← CodePoint.chr n) :: (← utf32 bigEndian bs)
  | _ => none

def utf16 (bigEndian : Bool) (bs : List UInt8) : Option PyStr := (utf16Units bigEndian bs).bind ofUnits

/-- `json.detect_encoding`, without a byte order mark. -/
def decodeDetected : List UInt8 → Option PyStr
  | a :: b :: c :: d :: bs =>
    let all := a :: b :: c :: d :: bs
    if a = 0 then if b ≠ 0 then utf16 true all else utf32 true all
    else if b = 0 then if c ≠ 0 ∨ d ≠ 0 then utf16 false all else utf32 false all
    else utf8 all
  | [a, b] => if a = 0 then utf16 true [a, b] else if b = 0 then utf16 false [a, b] else utf8 [a, b]
  | bs => utf8 bs

/-- `s.decode(detect_encoding(s), "surrogatepass")`; `none` stands for its
`UnicodeDecodeError`. -/
def decodeJson : List UInt8 → Option PyStr
  | 0x00 :: 0x00 :: 0xFE :: 0xFF :: bs => utf32 true bs
  | 0xFF :: 0xFE :: 0x00 :: 0x00 :: bs => utf32 false bs
  | 0xFE :: 0xFF :: bs => utf16 true bs
  | 0xFF :: 0xFE :: bs => utf16 false bs
  | 0xEF :: 0xBB :: 0xBF :: bs => utf8 bs
  | bs => decodeDetected bs

end Python
end BaobabErp
