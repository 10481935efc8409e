/-
# Dates and datetimes: `str(value)` and `fromisoformat`

`datetime.date` and `datetime.datetime` as the stored provisioning requests use
them: the text `str` gives and the ISO 8601 forms `fromisoformat` reads (Python
3.12: calendar and week dates, basic and extended, any separator character,
seconds with a fraction, offsets down to microseconds).

A `datetime` keeps its wall clock and the offset of its time zone; two aware
ones are equal when they are the same instant.  Reading the text of a value
gives the value back (`Date.fromisoformat_str`, `DateTime.fromisoformat_str`).
-/

import BaobabErp.Python.Text
import Mathlib.Tactic.Ring

namespace BaobabErp
namespace Python

/-! ### Fixed-width decimals -/

/-- The decimal digit `n` as a character. -/
def decDigit (n : Nat) : Char := "0123456789".toList.getD n '0'

/-- The last `k` decimal digits of `n`, most significant first. -/
def decText : Nat → Nat → List Char
  | 0, _ => []
  | k + 1, n => decDigit (n / 10 ^ k % 10) :: decText k n

/-- `parse_digits`: reads exactly `k` ASCII digits. -/
def takeDigits : Nat → Nat → List Char → Option (Nat × List Char)
  | 0, acc, cs => some (acc, cs)
  | k + 1, acc, c :: cs =>
    if isAsciiDigit c then takeDigits k (acc * 10 + (c.toNat - '0'.toNat)) cs else none
  | _ + 1, _, [] => none

theorem isAsciiDigit_decDigit {n : Nat} (h : n < 10) : isAsciiDigit (decDigit n) = true := by
  revert h; revert n; decide

theorem toNat_decDigit {n : Nat} (h : n < 10) : (decDigit n).toNat - '0'.toNat = n := by
  revert h; revert n; decide

theorem takeDigits_decText (k n acc : Nat) (rest : List Char) :
    takeDigits k acc (decText k n ++ rest) = some (acc * 10 ^ k + n % 10 ^ k, rest) := by
  induction k generalizing acc with
  | zero => simp [takeDigits, decText, Nat.mod_one]
  | succ k ih =>
    have hd : n / 10 ^ k % 10 < 10 := Nat.mod_lt _ (by omega)
    rw [decText, List.cons_append, takeDigits, isAsciiDigit_decDigit hd, if_pos rfl,
      toNat_decDigit hd, ih, Nat.mod_pow_succ]
    congr 2
    ring

/-- Reading back a number that fits. -/
theorem takeDigits_decText_of_lt {k n : Nat} (h : n < 10 ^ k) (rest : List Char) :
    takeDigits k 0 (decText k n ++ rest) = some (n, rest) := by
  rw [takeDigits_decText, Nat.mod_eq_of_lt h, Nat.zero_mul, Nat.zero_add]

theorem length_decText (k n : Nat) : (decText k n).length = k := by
  induction k with
  | zero => rfl
  | succ k ih => rw [decText, List.length_cons, ih]

theorem isAsciiDigit_of_mem_decText {k n : Nat} {c : Char} (h : c ∈ decText k n) :
    isAsciiDigit c = true := by
  induction k with
  | zero => exact absurd h List.not_mem_nil
  | succ k ih =>
    rcases List.mem_cons.1 h with rfl | h
    · exact isAsciiDigit_decDigit (Nat.mod_lt _ (by omega))
    · exact ih h

/-! ### `datetime.date` -/

def isLeap (year : Nat) : Bool := year % 4 == 0 && (year % 100 != 0 || year % 400 == 0)

def daysInMonth (year month : Nat) : Nat :=
  if month = 2 then (if isLeap year then 29 else 28)
  else if month = 4 ∨ month = 6 ∨ month = 9 ∨ month = 11 then 30 else 31

/-- **A calendar date**, from year 1 to 9999. -/
structure Date where
  year : Nat
  month : Nat
  day : Nat
  valid : 1 ≤ year ∧ year ≤ 9999 ∧ 1 ≤ month ∧ month ≤ 12 ∧ 1 ≤ day ∧ day ≤ daysInMonth year month
deriving DecidableEq

namespace Date

/-- `datetime.date(year, month, day)`; `none` stands for its `ValueError`. -/
def make (year month day : Nat) : Option Date :=
  if h : _ then some ⟨year, month, day, h⟩ else none

theorem make_self (d : Date) : make d.year d.month d.day = some d := dif_pos d.valid

/-- The days before January 1st of `year`. -/
def daysBeforeYear (year : Nat) : Nat :=
  let y := year - 1
  y * 365 + y / 4 - y / 100 + y / 400

/-- The days of `year` before `month`. -/
def daysBeforeMonth (year : Nat) : Nat → Nat
  | 0 => 0
  | 1 => 0
  | month + 1 => daysBeforeMonth year month + daysInMonth year month

/-- `toordinal()`: January 1st of year 1 is day 1. -/
def toordinal (d : Date) : Nat := daysBeforeYear d.year + daysBeforeMonth d.year d.month + d.day

/-- The month and day of the `n`-th day (from 0) of `year`, looking from `month` on. -/
def monthDay (year : Nat) : (months month n : Nat) → Nat × Nat
  | 0, month, n => (month, n + 1)
  | months + 1, month, n =>
    if n < daysInMonth year month then (month, n + 1)
    else monthDay year months (month + 1) (n - daysInMonth year month)

/-- The date of an ordinal, looking from `year` on. -/
def ofOrdinal : (years year n : Nat) → Option Date
  | 0, _, _ => none
  | years + 1, year, n =>
    let size := if isLeap year then 366 else 365
    if n < size then
      let (month, day) := monthDay year 11 1 n
      make year month day
    else ofOrdinal years (year + 1) (n - size)

/-- `iso_to_ymd`: the date of an ISO week and day. -/
def ofIsoWeek (year week day : Nat) : Option Date :=
  -- the weekday of January 1st, Monday = 0
  let first := (daysBeforeYear year + 1 + 6) % 7
  let long := first == 3 || (first == 2 && isLeap year)
  if year < 1 || week < 1 || day < 1 || 7 < day || 53 < week || (week == 53 && !long) then none
  else
    -- days from January 1st of `year` to the Monday of week 1
    let start : Int := if first ≤ 3 then -first else 7 - first
    let offset := start + ((week - 1) * 7 + (day - 1) : Nat)
    if offset < 0 then
      let size := if isLeap (year - 1) then 366 else 365
      ofOrdinal 1 (year - 1) (size + offset).toNat
    else ofOrdinal 2 year offset.toNat

/-- `list(str(d))`. -/
def chars (d : Date) : List Char :=
  decText 4 d.year ++ '-' :: (decText 2 d.month ++ '-' :: decText 2 d.day)

/-- `str(d)`. -/
def str (d : Date) : String := String.ofList d.chars

/-- The separator before the next part, where the first one was a hyphen. -/
def separator : Bool → List Char → Option (List Char)
  | false, cs => some cs
  | true, '-' :: cs => some cs
  | true, _ => none

/-- The week and the day of a week date, Monday where there is no day. -/
def parseWeek (year : Nat) (dash : Bool) (cs : List Char) : Option Date := do
  let (week, cs) ← takeDigits 2 0 cs
  if cs.isEmpty then ofIsoWeek year week 1
  else
    let (day, cs) ← (separator dash cs).bind (takeDigits 1 0)
    if cs.isEmpty then ofIsoWeek year week day else none

/-- The month and the day of a calendar date. -/
def parseMonthDay (year : Nat) (dash : Bool) (cs : List Char) : Option Date := do
  let (month, cs) ← takeDigits 2 0 cs
  let (day, cs) ← (separator dash cs).bind (takeDigits 2 0)
  if cs.isEmpty then make year month day else none

/-- What follows the year and the first separator. -/
def parseRest (year : Nat) (dash : Bool) : List Char → Option Date
  | 'W' :: cs => parseWeek year dash cs
  | cs => parseMonthDay year dash cs

/-- `parse_isoformat_date`: the whole of `cs` is a date. -/
def parse (cs : List Char) : Option Date :=
  match takeDigits 4 0 cs with
  | some (year, '-' :: cs) => parseRest year true cs
  | some (year, cs) => parseRest year false cs
  | none => none

/-- `date.fromisoformat(text)`; `none` stands for its `ValueError`. -/
def fromisoformat (s : String) : Option Date :=
  let cs := s.toList
  if cs.length = 7 ∨ cs.length = 8 ∨ cs.length = 10 then parse cs else none

theorem length_chars (d : Date) : d.chars.length = 10 := by
  simp only [chars, List.length_append, List.length_cons, length_decText]

theorem daysInMonth_le (year month : Nat) : daysInMonth year month ≤ 31 := by
  unfold daysInMonth; split_ifs <;> omega

theorem parse_chars (d : Date) : parse d.chars = some d := by
  obtain ⟨-, hy, -, hm, -, hd⟩ := d.valid
  have hd' := daysInMonth_le d.year d.month
  have hyear : takeDigits 4 0 d.chars =
      some (d.year, '-' :: (decText 2 d.month ++ '-' :: decText 2 d.day)) :=
    takeDigits_decText_of_lt (by omega) _
  have hmonth : takeDigits 2 0 (decText 2 d.month ++ '-' :: decText 2 d.day) =
      some (d.month, '-' :: decText 2 d.day) :=
    takeDigits_decText_of_lt (by omega) _
  have hday : takeDigits 2 0 (decText 2 d.day) = some (d.day, []) := by
    have h := takeDigits_decText_of_lt (k := 2) (n := d.day) (by omega) []
    rwa [List.append_nil] at h
  -- the month's first digit is no week sign
  have hw : parseRest d.year true (decText 2 d.month ++ '-' :: decText 2 d.day) =
      parseMonthDay d.year true (decText 2 d.month ++ '-' :: decText 2 d.day) := by
    unfold parseRest
    split
    · rename_i cs h
      have hc : 'W' ∈ decText 2 d.month := by
        simp only [decText, List.cons_append, List.cons.injEq] at h
        rw [decText, h.1]
        exact List.mem_cons_self
      exact absurd (isAsciiDigit_of_mem_decText hc) (by decide)
    · rfl
  unfold parse
  rw [hyear]
  show parseRest d.year true _ = _
  rw [hw, parseMonthDay, hmonth]
  simp only [Option.bind_eq_bind, Option.bind_some, separator, hday, List.isEmpty_nil, if_true]
  exact make_self d

/-- **The text of a date reads back as the date.** -/
theorem fromisoformat_str (d : Date) : fromisoformat d.str = some d := by
  unfold fromisoformat str
  rw [String.toList_ofList, if_pos (.inr (.inr (length_chars d))), parse_chars]

theorem str_injective {d e : Date} (h : d.str = e.str) : d = e := by
  have hd := fromisoformat_str d
  rw [h, fromisoformat_str] at hd
  exact (Option.some.inj hd).symm

end Date

/-! ### `datetime.datetime` -/

/-- **A datetime**: its wall clock and, when it is aware, its offset from UTC in
microseconds. -/
structure DateTime where
  date : Date
  hour : Nat
  minute : Nat
  second : Nat
  microsecond : Nat
  offset : Option Int
  valid : hour < 24 ∧ minute < 60 ∧ second < 60 ∧ microsecond < 1000000 ∧
    (∀ o, offset = some o → -86400000000 < o ∧ o < 86400000000)

namespace DateTime

/-- Midnight of UTC is a time of day. -/
theorem midnight_valid : 0 < 24 ∧ 0 < 60 ∧ 0 < 60 ∧ 0 < 1000000 ∧
    (∀ o : Int, some 0 = some o → -86400000000 < o ∧ o < 86400000000) := by
  refine ⟨by decide, by decide, by decide, by decide, fun o h => ?_⟩
  obtain rfl := Option.some.inj h
  decide

/-- A time of day, in microseconds. -/
def micros (hour minute second microsecond : Nat) : Int :=
  (((hour * 60 + minute) * 60 + second) * 1000000 + microsecond : Nat)

/-- The wall clock, in microseconds since the day before year 1. -/
def wallClock (t : DateTime) : Int :=
  t.date.toordinal * 86400000000 + micros t.hour t.minute t.second t.microsecond

/-- `t == u`: the same wall clock of two naive ones, the same instant of two aware ones. -/
def same (t u : DateTime) : Bool :=
  match t.offset, u.offset with
  | none, none => t.wallClock == u.wallClock
  | some o, some p => t.wallClock - o == u.wallClock - p
  | _, _ => false

/-- `HH:MM:SS` with the microseconds where there are any. -/
def timeChars (hour minute second microsecond : Nat) : List Char :=
  decText 2 hour ++ ':' :: (decText 2 minute ++ ':' :: (decText 2 second ++
    if microsecond = 0 then [] else '.' :: decText 6 microsecond))

/-- The offset as `isoformat` writes it: without seconds where there are none. -/
def offsetChars (o : Int) : List Char :=
  let n := o.natAbs
  let sign := if o < 0 then '-' else '+'
  let hour := n / 3600000000
  let minute := n / 60000000 % 60
  let second := n / 1000000 % 60
  let microsecond := n % 1000000
  sign :: (if second = 0 ∧ microsecond = 0 then decText 2 hour ++ ':' :: decText 2 minute
    else timeChars hour minute second microsecond)

/-- `list(str(t))`. -/
def chars (t : DateTime) : List Char :=
  t.date.chars ++ ' ' :: (timeChars t.hour t.minute t.second t.microsecond ++
    t.offset.elim [] offsetChars)

/-- `str(t)`. -/
def str (t : DateTime) : String := String.ofList t.chars

/-- The fraction of a second: up to six digits count, further ones are dropped. -/
def parseFraction (cs : List Char) : Option Nat :=
  if cs.isEmpty || !cs.all isAsciiDigit then none
  else
    let digits := cs.take 6
    (takeDigits digits.length 0 digits).map fun p => p.1 * 10 ^ (6 - digits.length)

/-- `parse_hh_mm_ss_ff`: hours, minutes, seconds and microseconds. -/
def parseTime (cs : List Char) : Option (Nat × Nat × Nat × Nat) := do
  let (hour, cs) ← takeDigits 2 0 cs
  match cs with
  | [] => pure (hour, 0, 0, 0)
  | c :: rest =>
    let colon := c == ':'
    let (minute, cs) ← takeDigits 2 0 (if colon then rest else c :: rest)
    match cs with
    | [] => pure (hour, minute, 0, 0)
    | c :: rest =>
      let (second, cs) ← (if colon then (if c == ':' then some rest else none)
        else some (c :: rest)).bind (takeDigits 2 0)
      match cs with
      | [] => pure (hour, minute, second, 0)
      | c :: rest =>
        if c == '.' || c == ',' then
          let microsecond ← parseFraction rest
          pure (hour, minute, second, microsecond)
        else none

/-- An offset after its sign; `timezone(delta)` wants less than a day. -/
def signedOffset (negative : Bool) (cs : List Char) : Option (Option Int) := do
  let (hour, minute, second, microsecond) ← parseTime cs
  let n := micros hour minute second microsecond
  let o := if negative then -n else n
  if -86400000000 < o ∧ o < 86400000000 then some (some o) else none

/-- The time zone after the time: nothing, `Z` or a signed offset. -/
def parseOffset : List Char → Option (Option Int)
  | [] => some none
  | ['Z'] => some (some 0)
  | '-' :: cs => signedOffset true cs
  | '+' :: cs => signedOffset false cs
  | _ => none

/-- `datetime.datetime(…)`; `none` stands for its `ValueError`. -/
def make (date : Date) (hour minute second microsecond : Nat) (offset : Option Int) :
    Option DateTime :=
  if h : hour < 24 ∧ minute < 60 ∧ second < 60 ∧ microsecond < 1000000 then
    if h' : ∀ o, offset = some o → -86400000000 < o ∧ o < 86400000000 then
      some ⟨date, hour, minute, second, microsecond, offset,
        ⟨h.1, h.2.1, h.2.2.1, h.2.2.2, h'⟩⟩
    else none
  else none

def isZoneSign (c : Char) : Bool := c == '+' || c == '-' || c == 'Z'

/-- Where the date ends (`_find_isoformat_datetime_separator`). -/
def separatorAt (cs : List Char) : Option Nat :=
  let digitAt := fun i => (cs[i]?).any isAsciiDigit
  if cs.length = 7 then some 7
  else if cs[4]? = some '-' then
    if cs[5]? = some 'W' then
      if cs.length < 8 then none
      else if 8 < cs.length ∧ cs[8]? = some '-' then
        if cs.length = 9 then none
        else if 10 < cs.length ∧ digitAt 10 then some 8
        else some 10
      else some 8
    else some 10
  else if cs[4]? = some 'W' then
    let pos := 7 + ((cs.drop 7).takeWhile isAsciiDigit).length
    if pos < 9 then some pos else if pos % 2 = 0 then some 7 else some 8
  else some 8

/-- `datetime.fromisoformat(text)`; `none` stands for its `ValueError`. -/
def fromisoformat (s : String) : Option DateTime := do
  let cs := s.toList
  if cs.length < 7 then none
  else
    let sep ← separatorAt cs
    let date ← Date.parse (cs.take sep)
    let rest := cs.drop (sep + 1)
    if rest.isEmpty then make date 0 0 0 0 none
    else
      let time := rest.takeWhile fun c => !isZoneSign c
      let (hour, minute, second, microsecond) ← parseTime time
      let offset ← parseOffset (rest.drop time.length)
      make date hour minute second microsecond offset

/-! Reading the text back. -/

theorem takeDigits_two {n : Nat} (h : n < 100) (rest : List Char) :
    takeDigits 2 0 (decText 2 n ++ rest) = some (n, rest) :=
  takeDigits_decText_of_lt (by omega) rest

theorem takeDigits_two_end {n : Nat} (h : n < 100) : takeDigits 2 0 (decText 2 n) = some (n, []) := by
  have h := takeDigits_two h []
  rwa [List.append_nil] at h

theorem parseFraction_decText {n : Nat} (h : n < 1000000) :
    parseFraction (decText 6 n) = some n := by
  have hall : (decText 6 n).all isAsciiDigit = true :=
    List.all_eq_true.2 fun c hc => isAsciiDigit_of_mem_decText hc
  have htake : (decText 6 n).take 6 = decText 6 n := List.take_of_length_le (by rw [length_decText])
  have hdigits := takeDigits_decText_of_lt (k := 6) (n := n) (by omega) []
  rw [List.append_nil] at hdigits
  have hne : (decText 6 n).isEmpty = false := rfl
  unfold parseFraction
  simp only [hne, hall, Bool.not_true, Bool.or_self, Bool.false_eq_true, if_false, htake,
    length_decText, hdigits, Option.map_some, Nat.sub_self, pow_zero, Nat.mul_one]

theorem parseTime_short {hour minute : Nat} (hh : hour < 100) (hm : minute < 100) :
    parseTime (decText 2 hour ++ ':' :: decText 2 minute) = some (hour, minute, 0, 0) := by
  unfold parseTime
  rw [takeDigits_two hh]
  simp only [Option.bind_eq_bind, Option.bind_some, beq_self_eq_true, if_true,
    takeDigits_two_end hm]
  rfl

theorem parseTime_timeChars {hour minute second microsecond : Nat} (hh : hour < 100)
    (hm : minute < 100) (hs : second < 100) (hf : microsecond < 1000000) :
    parseTime (timeChars hour minute second microsecond) =
      some (hour, minute, second, microsecond) := by
  unfold parseTime timeChars
  rw [takeDigits_two hh]
  simp only [Option.bind_eq_bind, Option.bind_some, beq_self_eq_true, if_true, takeDigits_two hm]
  by_cases h0 : microsecond = 0
  · subst h0
    simp only [if_true, List.append_nil, takeDigits_two_end hs, Option.bind_some]
    rfl
  · simp only [if_neg h0, takeDigits_two hs, Option.bind_some, beq_self_eq_true, Bool.true_or,
      if_true, parseFraction_decText hf]
    rfl

theorem not_isZoneSign_of_digit {c : Char} (h : isAsciiDigit c = true) : isZoneSign c = false := by
  unfold isZoneSign
  simp only [Bool.or_eq_false_iff, beq_eq_false_iff_ne, ne_eq]
  refine ⟨⟨?_, ?_⟩, ?_⟩ <;> rintro rfl <;> revert h <;> decide

theorem not_isZoneSign_of_mem_timeChars {hour minute second microsecond : Nat} {c : Char}
    (h : c ∈ timeChars hour minute second microsecond) : isZoneSign c = false := by
  unfold timeChars at h
  simp only [List.mem_append, List.mem_cons] at h
  rcases h with h | rfl | h | rfl | h | h
  · exact not_isZoneSign_of_digit (isAsciiDigit_of_mem_decText h)
  · decide
  · exact not_isZoneSign_of_digit (isAsciiDigit_of_mem_decText h)
  · decide
  · exact not_isZoneSign_of_digit (isAsciiDigit_of_mem_decText h)
  · split_ifs at h
    · exact absurd h List.not_mem_nil
    · rcases List.mem_cons.1 h with rfl | h
      · decide
      · exact not_isZoneSign_of_digit (isAsciiDigit_of_mem_decText h)

/-- An offset is its hours, minutes, seconds and microseconds. -/
theorem micros_natAbs {o : Int} (h : o.natAbs < 86400000000) :
    micros (o.natAbs / 3600000000) (o.natAbs / 60000000 % 60) (o.natAbs / 1000000 % 60)
      (o.natAbs % 1000000) = o.natAbs := by
  unfold micros
  have : ((o.natAbs / 3600000000 * 60 + o.natAbs / 60000000 % 60) * 60 +
      o.natAbs / 1000000 % 60) * 1000000 + o.natAbs % 1000000 = o.natAbs := by omega
  exact congrArg Nat.cast this

theorem parseOffset_offsetChars {o : Int} (h : -86400000000 < o ∧ o < 86400000000) :
    parseOffset (offsetChars o) = some (some o) := by
  have hlt : o.natAbs < 86400000000 := by omega
  have hmicros := micros_natAbs hlt
  -- the digits after the sign read back as the parts of the offset
  have hbody : parseTime (offsetChars o).tail = some (o.natAbs / 3600000000,
      o.natAbs / 60000000 % 60, o.natAbs / 1000000 % 60, o.natAbs % 1000000) := by
    unfold offsetChars
    rw [List.tail_cons]
    split_ifs with h0
    · rw [parseTime_short (by omega) (by omega), h0.1, h0.2]
    · exact parseTime_timeChars (by omega) (by omega) (by omega) (by omega)
  have hsigned : ∀ negative, (if negative then -(o.natAbs : Int) else o.natAbs) = o →
      signedOffset negative (offsetChars o).tail = some (some o) := by
    intro negative hval
    unfold signedOffset
    rw [hbody]
    simp only [Option.bind_eq_bind, Option.bind_some, hmicros, hval, if_pos h]
  have hcons : offsetChars o = (if o < 0 then '-' else '+') :: (offsetChars o).tail := rfl
  rw [hcons]
  by_cases ho : o < 0
  · rw [if_pos ho]
    exact hsigned true (by rw [if_pos rfl]; omega)
  · rw [if_neg ho]
    exact hsigned false (by rw [if_neg Bool.false_ne_true]; omega)

theorem make_self (t : DateTime) :
    make t.date t.hour t.minute t.second t.microsecond t.offset = some t := by
  obtain ⟨h1, h2, h3, h4, h5⟩ := t.valid
  unfold make
  rw [dif_pos ⟨h1, h2, h3, h4⟩, dif_pos h5]

theorem separatorAt_chars (d : Date) (rest : List Char) :
    separatorAt (d.chars ++ ' ' :: rest) = some 10 := by
  have hlen : (d.chars ++ ' ' :: rest).length ≠ 7 := by
    rw [List.length_append, Date.length_chars]; omega
  have hdash : (d.chars ++ ' ' :: rest)[4]? = some '-' := rfl
  have hdigit : (d.chars ++ ' ' :: rest)[5]? ≠ some 'W' := by
    have hd : (d.chars ++ ' ' :: rest)[5]? = some (decDigit (d.month / 10 ^ 1 % 10)) := rfl
    rw [hd]
    intro h
    have := isAsciiDigit_decDigit (n := d.month / 10 ^ 1 % 10) (Nat.mod_lt _ (by omega))
    rw [Option.some.inj h] at this
    exact absurd this (by decide)
  unfold separatorAt
  simp only [if_neg hlen, if_pos hdash, if_neg hdigit]

/-- **The text of a datetime reads back as the datetime**, offset and all. -/
theorem fromisoformat_str (t : DateTime) : fromisoformat t.str = some t := by
  obtain ⟨h1, h2, h3, h4, h5⟩ := t.valid
  have hlen : ¬ t.chars.length < 7 := by
    rw [chars, List.length_append, Date.length_chars]; omega
  have hsep : separatorAt t.chars = some 10 := separatorAt_chars ..
  have hdate : t.chars.take 10 = t.date.chars := by
    rw [chars, List.take_left' (Date.length_chars _)]
  have hrest : t.chars.drop 11 = timeChars t.hour t.minute t.second t.microsecond ++
      t.offset.elim [] offsetChars := by
    rw [chars, show (11 : Nat) = 10 + 1 from rfl, ← List.drop_drop,
      List.drop_left' (Date.length_chars _), List.drop_one, List.tail_cons]
  have hall : ∀ c ∈ timeChars t.hour t.minute t.second t.microsecond,
      (!isZoneSign c) = true := fun c hc => by
    rw [not_isZoneSign_of_mem_timeChars hc, Bool.not_false]
  have htail : (t.offset.elim [] offsetChars).takeWhile (fun c => !isZoneSign c) = [] := by
    cases ho : t.offset with
    | none => rfl
    | some o =>
      show (offsetChars o).takeWhile _ = []
      unfold offsetChars
      split_ifs <;> rfl
  have htime : (timeChars t.hour t.minute t.second t.microsecond ++
      t.offset.elim [] offsetChars).takeWhile (fun c => !isZoneSign c) =
      timeChars t.hour t.minute t.second t.microsecond := by
    rw [List.takeWhile_append_of_pos hall, htail, List.append_nil]
  have hoff : parseOffset (t.offset.elim [] offsetChars) = some t.offset := by
    cases ho : t.offset with
    | none => rfl
    | some o => exact parseOffset_offsetChars (h5 o ho)
  have hne : (timeChars t.hour t.minute t.second t.microsecond ++
      t.offset.elim [] offsetChars).isEmpty = false := rfl
  unfold fromisoformat str
  rw [String.toList_ofList]
  simp only [if_neg hlen, hsep, Option.bind_eq_bind, Option.bind_some, hdate, Date.parse_chars,
    hrest, hne, Bool.false_eq_true, if_false, htime, List.drop_left,
    parseTime_timeChars (by omega : t.hour < 100) (by omega : t.minute < 100)
      (by omega : t.second < 100) h4, hoff]
  exact make_self t

theorem str_injective {t u : DateTime} (h : t.str = u.str) : t = u := by
  have ht := fromisoformat_str t
  rw [h, fromisoformat_str] at ht
  exact (Option.some.inj ht).symm

example : (fromisoformat "20240229T123456,25-0130").map str =
    some "2024-02-29 12:34:56.250000-01:30" := by decide +kernel

example : (Date.fromisoformat "2020-W53-7").map Date.str = some "2021-01-03" := by decide +kernel

end DateTime

end Python
end BaobabErp
