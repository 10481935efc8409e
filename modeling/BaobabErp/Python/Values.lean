/-
# JSON documents and instants

A JSON document as `json.loads` hands it to the code: integers and floats apart
(`isinstance(v, int)` tells them apart), objects as their members in order.  An
aware `datetime` is the number of microseconds since the epoch in UTC, and
`isoformat` renders it the way the event payloads carry it.
-/

import BaobabErp.Python.Text

namespace BaobabErp
namespace Python

/-- The step of a computation that returned. -/
theorem bind_eq_ok {ε α β : Type} {x : Except ε α} {f : α → Except ε β} {b : β}
    (h : (x >>= f) = .ok b) : ∃ a, x = .ok a ∧ f a = .ok b := by
  cases x with
  | error e => cases h
  | ok a => exact ⟨a, rfl, h⟩

/-- A JSON value.  A float keeps its text: nothing computes with it. -/
inductive Json
  | null
  | bool (b : Bool)
  | int (n : Int)
  | float (text : String)
  | str (s : String)
  | arr (items : List Json)
  | obj (members : List (String × Json))

namespace Json

instance : Inhabited Json := ⟨null⟩

/-- `data.get(name)`; an absent member and `null` are both Python's `None`. -/
def get (members : List (String × Json)) (name : String) : Json :=
  (members.lookup name).getD null

/-- `isinstance(value, str)`. -/
def str? : Json → Option String
  | str s => some s
  | _ => none

/-- `isinstance(value, int) and not isinstance(value, bool)`. -/
def int? : Json → Option Int
  | int n => some n
  | _ => none

/-- `isinstance(value, dict)`. -/
def obj? : Json → Option (List (String × Json))
  | obj m => some m
  | _ => none

/-- `isinstance(value, list)`. -/
def arr? : Json → Option (List Json)
  | arr xs => some xs
  | _ => none

/-- `value is None`. -/
def isNull : Json → Bool
  | null => true
  | _ => false

end Json

/-- An aware `datetime`, in microseconds since 1970-01-01T00:00:00Z. -/
abbrev Instant := Int

/-- `timedelta(seconds=n)`. -/
def seconds (n : Int) : Int := n * 1000000

/-- `timedelta(hours=n)`. -/
def hours (n : Int) : Int := seconds (n * 3600)

/-- Year, month and day of a day number since the epoch (proleptic Gregorian). -/
def civilOfDays (days : Int) : Int × Int × Int :=
  let z := days + 719468
  let era := z.fdiv 146097
  let doe := z - era * 146097
  let yoe := (doe - doe / 1460 + doe / 36524 - doe / 146096) / 365
  let doy := doe - (365 * yoe + yoe / 4 - yoe / 100)
  let mp := (5 * doy + 2) / 153
  let d := doy - (153 * mp + 2) / 5 + 1
  let m := if mp < 10 then mp + 3 else mp - 9
  (yoe + era * 400 + (if m ≤ 2 then 1 else 0), m, d)

/-- `n` in decimal, padded with zeros to `width` digits. -/
def padded (width : Nat) (n : Int) : String :=
  let s := toString n.toNat
  String.ofList (List.replicate (width - s.length) '0') ++ s

/-- The date and time of day of an instant, to the second. -/
def dateTimeText (t : Instant) : String :=
  let secs := t.fdiv 1000000
  let days := secs.fdiv 86400
  let rest := secs - days * 86400
  let (y, m, d) := civilOfDays days
  padded 4 y ++ "-" ++ padded 2 m ++ "-" ++ padded 2 d ++ "T" ++ padded 2 (rest / 3600) ++ ":" ++
    padded 2 (rest / 60 % 60) ++ ":" ++ padded 2 (rest % 60)

/-- `t.astimezone(utc).isoformat().replace("+00:00", "Z")`. -/
def isoformat (t : Instant) : String :=
  let micros := t - t.fdiv 1000000 * 1000000
  dateTimeText t ++ (if micros = 0 then "" else "." ++ padded 6 micros) ++ "Z"

/-- `t.astimezone(utc).replace(microsecond=0).strftime("%Y-%m-%dT%H:%M:%SZ")`. -/
def stamp (t : Instant) : String := dateTimeText t ++ "Z"

example : isoformat (seconds 1709210096 + 250000) = "2024-02-29T12:34:56.250000Z" := by
  decide +kernel

end Python
end BaobabErp
