/-
# The row a validator is about to save

`NativeRecord`: the values of an iDempiere PO as the model validator reads them,
and the numbers Java reads from them.  Of its fields the classification uses
neither the action nor the name of the transaction.
-/

import BaobabErp.NativeFinance.Documents
import BaobabErp.Python.Text
import Mathlib.Algebra.Group.Int.Defs
import Mathlib.Algebra.Group.Nat.Defs

namespace BaobabErp
namespace NativeFinance

/-- What a column of a PO holds. -/
inductive Value where
  /-- `java.lang.Integer`, as for every id -/
  | integer (n : Int)
  /-- `java.math.BigDecimal` -/
  | decimal (q : Rat)
  | text (s : String)
  | boolean (b : Bool)
  deriving DecidableEq, Repr

/-! ### Numbers in a text -/

/-- `String.trim()` -/
def trim (cs : List Char) : List Char :=
  ((cs.dropWhile (· ≤ ' ')).reverse.dropWhile (· ≤ ' ')).reverse

/-- The number a non-empty run of digits denotes. -/
def digits (cs : List Char) : Option Nat :=
  if cs = [] then none
  else cs.foldlM (fun n c => (Python.digitValue c).map (10 * n + ·)) 0

/-- Digits behind an optional sign. -/
def signed (read : List Char → Option Rat) : List Char → Option Rat
  | '-' :: cs => (read cs).map (-·)
  | '+' :: cs => read cs
  | cs => read cs

/-- An `int`, or a `NumberFormatException`. -/
def inIntRange (q : Rat) : Option Int :=
  if q.den = 1 ∧ -2 ^ 31 ≤ q.num ∧ q.num < 2 ^ 31 then some q.num else none

/-- `Integer.parseInt` -/
def parseInt (cs : List Char) : Option Int := do
  inIntRange (← signed (fun ds => (digits ds).map fun n => (n : Rat)) cs)

/-- The digits of a `BigDecimal` without its sign: `digits [. digits] [e exponent]`. -/
def unscaled (cs : List Char) : Option Rat := do
  let (mantissa, expo) := Python.splitAtChar (fun c => c == 'e' || c == 'E') cs
  let (whole, frac) := Python.splitAtChar (· == '.') mantissa
  let n ← digits (whole ++ frac.getD [])
  let e ← expo.elim (some 0) parseInt
  let scale ← inIntRange (((frac.getD []).length : Int) - e : Int)
  some ((n : Rat) * (10 : Rat) ^ (-scale))

/-- `new BigDecimal(text)` -/
def bigDecimal (cs : List Char) : Option Rat := signed unscaled cs

/-! ### The record -/

/-- `NativeRecord`; a column that is null or unreadable is `none`. -/
structure NativeRecord where
  table : NativeTable
  adClientId : Int
  adOrgId : Int
  recordId : Int
  value : String → Option Value

namespace NativeRecord

variable (r : NativeRecord)

def intValue (name : String) : Int :=
  match r.value name with
  | some (.integer n) => n
  -- `BigDecimal.intValue()`: towards zero, the low 32 bits
  | some (.decimal q) => (q.num.tdiv q.den).bmod (2 ^ 32)
  | some (.text s) => (parseInt (trim s.toList)).getD (-1)
  | _ => -1

def flag (name : String) : Option Bool :=
  match r.value name with
  | some (.boolean b) => some b
  | some (.text "Y") => some true
  | some (.text "N") => some false
  | _ => none

/-- `decimal(record.value(…))` of the resolver -/
def decimal (name : String) : Option Rat :=
  match r.value name with
  | some (.decimal q) => some q
  | some (.integer n) => some n
  | some (.text s) => bigDecimal (trim s.toList)
  | _ => none

end NativeRecord

/-! ### The row stored with the values of a record -/

/-- A Y/N column as the PO has it and as it is stored. -/
def StoresFlag (v : Option Value) (c : Option String) : Prop :=
  match v with
  | none => c = none
  | some (.boolean b) => c = some (if b then "Y" else "N")
  | some (.text s) => c = some s
  | _ => False

/-- A text column. -/
def StoresText (v : Option Value) (c : Option String) : Prop :=
  match v with
  | none => c = none
  | some (.text s) => c = some s
  | _ => False

/-- An id column: an `Integer` that is not negative. -/
def StoresId (v : Option Value) (c : Option Int) : Prop :=
  match v with
  | none => c = none
  | some (.integer n) => c = some n ∧ 0 ≤ n
  | _ => False

/-- An amount column: a `BigDecimal`. -/
def StoresAmount (v : Option Value) (c : Option Rat) : Prop :=
  match v with
  | none => c = none
  | some (.decimal q) => c = some q
  | _ => False

namespace NativeRecord

variable {r : NativeRecord} {name : String}

theorem flag_of {c : Option String} (h : StoresFlag (r.value name) c) :
    r.flag name = some true ∧ c = some "Y" ∨ r.flag name = some false ∧ c = some "N" ∨
      r.flag name = none ∧ c ≠ some "Y" ∧ c ≠ some "N" := by
  unfold StoresFlag at h
  unfold flag
  split at h
  · subst h
    simp_all
  · rename_i b hb
    subst h
    cases b <;> simp [hb]
  · rename_i s hs
    subst h
    rw [hs]
    by_cases hy : s = "Y"
    · subst hy
      simp
    · by_cases hn : s = "N"
      · subst hn
        simp
      · refine Or.inr (Or.inr ⟨?_, by simpa using hy, by simpa using hn⟩)
        split <;> simp_all
  · cases h

theorem intValue_of {c : Option Int} (h : StoresId (r.value name) c) : r.intValue name = c.getD (-1) := by
  unfold StoresId at h
  unfold intValue
  split at h
  · subst h
    simp_all
  · rename_i n hn
    rw [hn, h.1]
    rfl
  · cases h

theorem nonneg_of {c : Option Int} (h : StoresId (r.value name) c) {n : Int} (hc : c = some n) :
    0 ≤ n := by
  unfold StoresId at h
  split at h
  · rw [h] at hc
    cases hc
  · obtain ⟨h, hn⟩ := h
    rw [h] at hc
    obtain rfl := Option.some.inj hc
    exact hn
  · cases h

theorem decimal_of {c : Option Rat} (h : StoresAmount (r.value name) c) : r.decimal name = c := by
  unfold StoresAmount at h
  unfold decimal
  split at h
  · subst h
    simp_all
  · rename_i q hq
    rw [hq, h]
  · cases h

end NativeRecord
end NativeFinance
end BaobabErp
