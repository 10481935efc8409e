/-
# `decimal.Decimal` with its digits

A finite decimal as its sign, coefficient and exponent, and the operations the
accounting outcomes use: `Decimal(text)`, `quantize` to a number of places under the
default context (28 digits, half even), and `format(value, "f")`.
-/

import BaobabErp.Python.Text
import Mathlib.Logic.Basic
import Mathlib.Algebra.Group.Nat.Defs

namespace BaobabErp
namespace Python

/-- **A finite decimal**, `(-1)^negative * coefficient * 10^exponent`. -/
structure Decimal where
  negative : Bool
  coefficient : Nat
  exponent : Int
deriving DecidableEq, Repr

namespace Decimal

/-- `digits [. digits] [E exponent]`, of which `decimalNumber` says whether it is one. -/
def number (negative : Bool) (cs : List Char) : Decimal :=
  let (mantissa, expo) := splitAtChar (fun c => c == 'e' || c == 'E') cs
  let (whole, frac) := splitAtChar (· == '.') mantissa
  let values := (whole ++ frac.getD []).filterMap digitValue
  ⟨negative, values.foldl (fun n d => n * 10 + d) 0,
    ((expo.elim (some 0) exponentOf).getD 0) - (frac.getD []).length⟩

/-- `Decimal(text)` where it is finite; `none` for the others and for
`InvalidOperation`, which `decimalOfText` tells apart. -/
def ofText (s : String) : Option Decimal :=
  match decimalOfText s with
  | none => none
  | some v =>
    if v.finite then
      let cs := (stripChars s.toList).filter (· != '_')
      match cs with
      | '-' :: rest => some (number true rest)
      | '+' :: rest => some (number false rest)
      | rest => some (number false rest)
    else none

/-- `value < 0`. -/
def isNegative (d : Decimal) : Bool := d.negative && d.coefficient != 0

/-- `n / 10^k`, rounded half to even. -/
def divideHalfEven (n k : Nat) : Nat :=
  let q := n / 10 ^ k
  let r := n % 10 ^ k
  if 2 * r > 10 ^ k || (2 * r == 10 ^ k && q % 2 == 1) then q + 1 else q

/-- `len(str(n))`. -/
def digitCount (n : Nat) : Nat := (Nat.toDigits 10 n).length

/-- The precision of the default context. -/
def precision : Nat := 28

/-- The result has more digits than the context allows: `InvalidOperation`. -/
def overflows (d : Decimal) (places : Nat) : Bool :=
  d.coefficient != 0 &&
    (if 0 ≤ d.exponent + places then
      precision < (digitCount d.coefficient : Int) + (d.exponent + places)
    else
      precision < digitCount (divideHalfEven d.coefficient (-(d.exponent + places)).toNat))

/-- The coefficient of `value.quantize(Decimal(1).scaleb(-places))`. -/
def rescaled (d : Decimal) (places : Nat) : Nat :=
  if 0 ≤ d.exponent + places then d.coefficient * 10 ^ (d.exponent + places).toNat
  else divideHalfEven d.coefficient (-(d.exponent + places)).toNat

/-- `value.quantize(Decimal(1).scaleb(-places))`, `none` for `InvalidOperation`. -/
def quantize (d : Decimal) (places : Nat) : Option Decimal :=
  if d.overflows places then none
  else if d.coefficient = 0 then some ⟨d.negative, 0, -places⟩
  else some ⟨d.negative, d.rescaled places, -places⟩

/-- `format(value, "f")` of a decimal with `places` places. -/
def fixed (d : Decimal) (places : Nat) : String :=
  let digits := Nat.toDigits 10 d.coefficient
  let digits := List.replicate (places + 1 - digits.length) '0' ++ digits
  let whole := digits.take (digits.length - places)
  let frac := digits.drop (digits.length - places)
  (if d.negative then "-" else "") ++ String.ofList whole ++
    (if places = 0 then "" else "." ++ String.ofList frac)

example : ((ofText " 1_234.565 ").bind (quantize · 2)).map (fixed · 2) = some "1234.56" := by
  decide +kernel

example : ((ofText "1E+27").bind (quantize · 2)).isNone := by decide +kernel

end Decimal

end Python
end BaobabErp
