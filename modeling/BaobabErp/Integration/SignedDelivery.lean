/-
# Verifying a signed delivery

`DeliveryKey`, `sign` and `verify` of `modules/integration/signed_delivery.py`.  A
delivery names a key, a second and a signature; `verify` is what the receiver asks: a
registered key, a second within five minutes of its clock, the signature that key
gives to recipient, second and body.

HMAC-SHA256 and SHA-256 are functions into 256 bits.  A byte is a number below 256, a
header value any text.

**`verify` answers as it should, for every input, exactly when what gets past the two
patterns names a second that exists, the clock is aware, and a second written with
digits of another script is not otherwise accepted** (`verify_exact_iff`): February 30
and the year 0 raise `ValueError`, a naive clock `TypeError`, and Arabic digits pass.
-/

import BaobabErp.Python.Calendar
import BaobabErp.Python.Objects
import BaobabErp.Python.Uuid

namespace BaobabErp
namespace SignedDelivery

open Python

/-! ### Texts of seconds -/

/-- `\d`: a decimal digit of any script. -/
def isDecimal (c : Char) : Bool := (digitValue c).isSome

/-- The digits of a text of the shape `dddd-dd-ddTdd:dd:ddZ`. -/
structure Pieces where
  year : List Char
  month : List Char
  day : List Char
  hour : List Char
  minute : List Char
  second : List Char

/-- The text around the digits. -/
def Pieces.chars (p : Pieces) : List Char :=
  p.year ++ '-' :: (p.month ++ '-' :: (p.day ++ 'T' :: (p.hour ++ ':' :: (p.minute ++
    ':' :: (p.second ++ ['Z'])))))

/-- The digits of a text, where it has that shape. -/
def pieces (cs : List Char) : Option Pieces :=
  let p : Pieces := ⟨cs.take 4, (cs.drop 5).take 2, (cs.drop 8).take 2, (cs.drop 11).take 2,
    (cs.drop 14).take 2, (cs.drop 17).take 2⟩
  if cs = p.chars ∧ cs.length = 20 then some p else none

/-- `0[1-9]|1[0-2]`. -/
def monthText : List Char → Bool
  | [a, b] => (a == '0' && '1' ≤ b && b ≤ '9') || (a == '1' && '0' ≤ b && b ≤ '2')
  | _ => false

/-- `0[1-9]|[12]\d|3[01]`. -/
def dayText : List Char → Bool
  | [a, b] => (a == '0' && '1' ≤ b && b ≤ '9') || ((a == '1' || a == '2') && isDecimal b) ||
      (a == '3' && (b == '0' || b == '1'))
  | _ => false

/-- `[01]\d|2[0-3]`. -/
def hourText : List Char → Bool
  | [a, b] => ((a == '0' || a == '1') && isDecimal b) || (a == '2' && '0' ≤ b && b ≤ '3')
  | _ => false

/-- `[0-5]\d`. -/
def sixtyText : List Char → Bool
  | [a, b] => '0' ≤ a && a ≤ '5' && isDecimal b
  | _ => false

/-- `_TIMESTAMP.fullmatch(text)`. -/
def isTimestamp (text : String) : Bool :=
  match pieces text.toList with
  | some p => p.year.all isDecimal && monthText p.month && dayText p.day && hourText p.hour &&
      sixtyText p.minute && sixtyText p.second
  | none => false

/-- `_SIGNATURE.fullmatch(text)`. -/
def isSignature (text : String) : Bool :=
  let digits := text.toList.drop 12
  text.toList.take 12 == "hmac-sha256=".toList && digits.length == 64 &&
    digits.all fun c => isAsciiDigit c || ('a' ≤ c && c ≤ 'f')

/-- `int(digits)`. -/
def number (cs : List Char) : Option Nat := digitsWith digitValue 10 false 0 cs

/-- The datetime of those digits, in UTC. -/
def Pieces.dateTime (p : Pieces) : Option DateTime := do
  let year ← number p.year
  let month ← number p.month
  let day ← number p.day
  let hour ← number p.hour
  let minute ← number p.minute
  let second ← number p.second
  let date ← Date.make year month day
  DateTime.make date hour minute second 0 (some 0)

/-- `datetime.strptime(text, "%Y-%m-%dT%H:%M:%SZ").replace(tzinfo=timezone.utc)` of a text
`_TIMESTAMP` matches. -/
def strptime (text : String) : Raises DateTime :=
  match (pieces text.toList).bind Pieces.dateTime with
  | some t => .ok t
  | none => .error "ValueError"

/-! ### Keys and signatures -/

/-- `_KEY_ID.fullmatch(text)`. -/
def isKeyId (text : String) : Bool :=
  match text.toList with
  | [] => false
  | c :: cs => (isAsciiLower c || isAsciiDigit c) && 2 ≤ cs.length && cs.length ≤ 63 &&
      cs.all fun d => isAsciiLower d || isAsciiDigit d || d == '.' || d == '_' || d == '-'

/-- **A delivery key.**  Its `__post_init__` refuses any other id or secret. -/
structure DeliveryKey where
  keyId : String
  secret : List UInt8
  validId : isKeyId keyId = true
  validSecret : 32 ≤ secret.length

/-- The parts of the library that are left open. -/
structure Library where
  /-- `hashlib.sha256(data).digest()`. -/
  sha256 : List UInt8 → BitVec 256
  /-- `hmac.new(key, data, hashlib.sha256).digest()`. -/
  hmacSha256 : List UInt8 → List UInt8 → BitVec 256
  runtime : Runtime

/-- `hexdigest()`. -/
def hexdigest (digest : BitVec 256) : List Char := hexText 64 digest.toNat

/-- `signing_string`. -/
def signingString (L : Library) (recipient keyId timestamp : String) (body : List UInt8) :
    List UInt8 :=
  (String.intercalate "\n" ["baobab-event-delivery-v1", recipient, keyId, timestamp,
    String.ofList (hexdigest (L.sha256 body))]).toList.flatMap String.utf8EncodeChar

/-- `sign`. -/
def sign (L : Library) (key : DeliveryKey) (recipient timestamp : String) (body : List UInt8) :
    String :=
  "hmac-sha256=" ++ String.ofList
    (hexdigest (L.hmacSha256 key.secret (signingString L recipient key.keyId timestamp body)))

/-! ### Verifying -/

/-- Only characters of ASCII. -/
def isAscii (text : String) : Bool := text.toList.all fun c => c.toNat < 128

/-- `hmac.compare_digest` of two texts. -/
def compareDigest (a b : String) : Raises Bool :=
  if isAscii a && isAscii b then .ok (a == b) else .error "TypeError"

/-- `t - u` of an aware `u` in UTC, in microseconds. -/
def subtract (t u : DateTime) : Raises Int :=
  match t.offset with
  | some o => .ok (t.wallClock - o - u.wallClock)
  | none => .error "TypeError"

/-- `REPLAY_WINDOW`, in microseconds. -/
def replayWindow : Int := 300 * 1000000

/-- `headers.get(name, "")` after the names were lowered; of two headers with one name the
later one counts. -/
def header (L : Library) (headers : List (String × String)) (name : String) : String :=
  ((headers.reverse.find? fun h => L.runtime.lower h.1 == name).map Prod.snd).getD ""

section Verify

variable (L : Library) (keys : List (String × DeliveryKey)) (recipient : String)
  (headers : List (String × String)) (body : List UInt8) (now : DateTime)

/-- `verify` behind the two patterns. -/
def verifySigned (key : DeliveryKey) (timestamp supplied : String) : Raises Bool := do
  let signedAt ← strptime timestamp
  let distance ← subtract now signedAt
  if replayWindow < |distance| then
    return false
  compareDigest (sign L key recipient timestamp body) supplied

/-- **`verify`.** -/
def verify : Raises Bool :=
  let timestamp := header L headers "baobab-timestamp"
  let supplied := header L headers "baobab-signature"
  match keys.lookup (header L headers "baobab-key-id") with
  | none => .ok false
  | some key =>
    if !isTimestamp timestamp || !isSignature supplied then .ok false
    else verifySigned L recipient body now key timestamp supplied

end Verify

/-! ### What it is for -/

/-- A second of UTC as `YYYY-MM-DDTHH:MM:SSZ`, in ASCII. -/
def stamp (t : DateTime) : String :=
  String.ofList (t.date.chars ++ 'T' :: (DateTime.timeChars t.hour t.minute t.second 0 ++ ['Z']))

/-- A second of UTC. -/
def IsSecond (t : DateTime) : Prop := t.offset = some 0 ∧ t.microsecond = 0

/-- **A genuine delivery**: the key is registered, the timestamp is a real second of UTC in
ASCII within the window around the clock, and the signature is the one the key gives. -/
def Genuine (L : Library) (keys : List (String × DeliveryKey)) (recipient : String)
    (headers : List (String × String)) (body : List UInt8) (now : DateTime) : Prop :=
  ∃ key o signedAt, keys.lookup (header L headers "baobab-key-id") = some key ∧
    now.offset = some o ∧ IsSecond signedAt ∧
    header L headers "baobab-timestamp" = stamp signedAt ∧
    |now.wallClock - o - signedAt.wallClock| ≤ replayWindow ∧
    header L headers "baobab-signature" =
      sign L key recipient (header L headers "baobab-timestamp") body

/-- **`verify` answers as it should**: `True` for a genuine delivery, `False` for any other,
and never an exception. -/
def Exact (L : Library) (keys : List (String × DeliveryKey)) (recipient : String)
    (headers : List (String × String)) (body : List UInt8) (now : DateTime) : Prop :=
  (Genuine L keys recipient headers body now →
    verify L keys recipient headers body now = .ok true) ∧
  (¬ Genuine L keys recipient headers body now →
    verify L keys recipient headers body now = .ok false)

/-! ### Reading digits -/

theorem isDecimal_of_isAsciiDigit {c : Char} (h : isAsciiDigit c = true) : isDecimal c = true := by
  have hlt := lt_of_isAsciiDigit h
  have hz : '0'.toNat = 48 := rfl
  rw [isDecimal, digitValue_ascii (by omega), if_pos h]
  rfl

theorem decDigit_sub {c : Char} (h : isAsciiDigit c = true) : decDigit (c.toNat - '0'.toNat) = c := by
  have htable : ∀ n < 10, decDigit n = Char.ofNat ('0'.toNat + n) := by decide
  obtain ⟨hle, hlt⟩ := lt_of_isAsciiDigit h
  rw [htable _ (by omega), Nat.add_sub_cancel' hle, Char.ofNat_toNat]

/-- One ASCII digit is read. -/
theorem digitsWith_cons {c : Char} (h : isAsciiDigit c = true) (last : Bool) (acc : Nat)
    (cs : List Char) : digitsWith digitValue 10 last acc (c :: cs) =
      digitsWith digitValue 10 true (acc * 10 + (c.toNat - '0'.toNat)) cs := by
  obtain ⟨hle, hlt⟩ := lt_of_isAsciiDigit h
  have hz : '0'.toNat = 48 := rfl
  have hunderscore : (c == '_') = false := by
    refine beq_false_of_ne ?_
    rintro rfl
    revert h
    decide
  rw [digitsWith, hunderscore, digitValue_ascii (by omega), if_pos h]
  rfl

/-- **The digits of a number are read as that number.** -/
theorem digitsWith_decText (k n acc : Nat) (last : Bool) (hk : k ≠ 0 ∨ last = true) :
    digitsWith digitValue 10 last acc (decText k n) = some (acc * 10 ^ k + n % 10 ^ k) := by
  induction k generalizing acc last with
  | zero =>
    have hlast : last = true := hk.resolve_left fun h => h rfl
    simp [decText, digitsWith, hlast, Nat.mod_one]
  | succ k ih =>
    have hd : n / 10 ^ k % 10 < 10 := Nat.mod_lt _ (by omega)
    rw [decText, digitsWith_cons (isAsciiDigit_decDigit hd), toNat_decDigit hd, ih _ _ (.inr rfl),
      Nat.mod_pow_succ]
    congr 1
    ring

theorem number_decText {k n : Nat} (hk : k ≠ 0) (hn : n < 10 ^ k) : number (decText k n) = some n := by
  rw [number, digitsWith_decText _ _ _ _ (.inl hk), Nat.zero_mul, Nat.zero_add, Nat.mod_eq_of_lt hn]

/-- **ASCII digits are the digits of the number they are read as.** -/
theorem decText_of_digitsWith {cs : List Char} (h : ∀ c ∈ cs, isAsciiDigit c = true)
    {last : Bool} {acc n : Nat} (hn : digitsWith digitValue 10 last acc cs = some n) :
    cs = decText cs.length n ∧ acc * 10 ^ cs.length ≤ n ∧ n < (acc + 1) * 10 ^ cs.length := by
  induction cs generalizing last acc with
  | nil =>
    rw [digitsWith] at hn
    split_ifs at hn
    obtain rfl := Option.some.inj hn
    exact ⟨rfl, by simp, by simp⟩
  | cons c cs ih =>
    have hc := h c (List.mem_cons_self ..)
    obtain ⟨hle, hlt⟩ := lt_of_isAsciiDigit hc
    rw [digitsWith_cons hc] at hn
    obtain ⟨htext, hlow, hhigh⟩ := ih (fun d hd => h d (List.mem_cons_of_mem _ hd)) hn
    have hdiv : n / 10 ^ cs.length = acc * 10 + (c.toNat - '0'.toNat) :=
      Nat.div_eq_of_lt_le hlow hhigh
    refine ⟨?_, ?_, ?_⟩
    · rw [List.length_cons, decText, hdiv, ← htext,
        show (acc * 10 + (c.toNat - '0'.toNat)) % 10 = c.toNat - '0'.toNat by omega,
        decDigit_sub hc]
    · calc acc * 10 ^ (c :: cs).length
          = (acc * 10) * 10 ^ cs.length := by rw [List.length_cons, pow_succ]; ring
        _ ≤ (acc * 10 + (c.toNat - '0'.toNat)) * 10 ^ cs.length :=
          Nat.mul_le_mul_right _ (Nat.le_add_right ..)
        _ ≤ n := hlow
    · calc n < (acc * 10 + (c.toNat - '0'.toNat) + 1) * 10 ^ cs.length := hhigh
        _ ≤ ((acc + 1) * 10) * 10 ^ cs.length := Nat.mul_le_mul_right _ (by omega)
        _ = (acc + 1) * 10 ^ (c :: cs).length := by rw [List.length_cons, pow_succ]; ring

theorem decText_of_number {cs : List Char} (h : ∀ c ∈ cs, isAsciiDigit c = true) {n : Nat}
    (hn : number cs = some n) : cs = decText cs.length n := (decText_of_digitsWith h hn).1

/-! ### The shape of a timestamp -/

/-- The lengths of the parts. -/
structure Pieces.Sized (p : Pieces) : Prop where
  year : p.year.length = 4
  month : p.month.length = 2
  day : p.day.length = 2
  hour : p.hour.length = 2
  minute : p.minute.length = 2
  second : p.second.length = 2

theorem pieces_eq_some_iff {cs : List Char} {p : Pieces} :
    pieces cs = some p ↔ p.Sized ∧ cs = p.chars := by
  constructor
  · intro h
    simp only [pieces] at h
    split_ifs at h with hshape
    obtain ⟨hchars, hlength⟩ := hshape
    obtain rfl := Option.some.inj h
    exact ⟨by constructor <;> simp <;> omega, hchars⟩
  · rintro ⟨⟨hyear, hmonth, hday, hhour, hminute, hsecond⟩, rfl⟩
    obtain ⟨year, month, day, hour, minute, second⟩ := p
    obtain ⟨y₁, y₂, y₃, y₄, rfl⟩ : ∃ a b c d, year = [a, b, c, d] := by
      match year, hyear with
      | [a, b, c, d], _ => exact ⟨a, b, c, d, rfl⟩
    obtain ⟨m₁, m₂, rfl⟩ := List.length_eq_two.1 hmonth
    obtain ⟨d₁, d₂, rfl⟩ := List.length_eq_two.1 hday
    obtain ⟨h₁, h₂, rfl⟩ := List.length_eq_two.1 hhour
    obtain ⟨n₁, n₂, rfl⟩ := List.length_eq_two.1 hminute
    obtain ⟨s₁, s₂, rfl⟩ := List.length_eq_two.1 hsecond
    exact if_pos ⟨rfl, rfl⟩

/-- The parts of the text of a second. -/
def stampPieces (t : DateTime) : Pieces :=
  ⟨decText 4 t.date.year, decText 2 t.date.month, decText 2 t.date.day, decText 2 t.hour,
    decText 2 t.minute, decText 2 t.second⟩

theorem pieces_stamp (t : DateTime) : pieces (stamp t).toList = some (stampPieces t) := by
  refine pieces_eq_some_iff.2 ⟨by constructor <;> exact length_decText .., ?_⟩
  rw [stamp, String.toList_ofList]
  simp [Pieces.chars, stampPieces, Date.chars, DateTime.timeChars]

theorem isTimestamp_stamp (t : DateTime) : isTimestamp (stamp t) = true := by
  have hmonth : ∀ m < 13, 1 ≤ m → monthText (decText 2 m) = true := by decide
  have hday : ∀ d < 32, 1 ≤ d → dayText (decText 2 d) = true := by decide +kernel
  have hhour : ∀ h < 24, hourText (decText 2 h) = true := by decide +kernel
  have hsixty : ∀ n < 60, sixtyText (decText 2 n) = true := by decide +kernel
  have hyear : (decText 4 t.date.year).all isDecimal = true :=
    List.all_eq_true.2 fun c hc => isDecimal_of_isAsciiDigit (isAsciiDigit_of_mem_decText hc)
  obtain ⟨-, -, hm₁, hm₂, hd₁, hd₂⟩ := t.date.valid
  obtain ⟨hh, hn, hs, -, -⟩ := t.valid
  have hlast := Date.daysInMonth_le t.date.year t.date.month
  simp only [isTimestamp, pieces_stamp, stampPieces, hyear, hmonth _ (by omega) hm₁,
    hday _ (by omega) hd₁, hhour _ hh, hsixty _ hn, hsixty _ hs, Bool.and_self]

/-- **A second is read from its text.** -/
theorem strptime_stamp {t : DateTime} (h : IsSecond t) : strptime (stamp t) = .ok t := by
  obtain ⟨-, hy, -, hm, -, hd⟩ := t.date.valid
  obtain ⟨hh, hn, hs, -, -⟩ := t.valid
  have hlast := Date.daysInMonth_le t.date.year t.date.month
  have hread : (stampPieces t).dateTime = some t := by
    rw [Pieces.dateTime, stampPieces, number_decText (by decide) (by omega),
      number_decText (by decide) (by omega), number_decText (by decide) (by omega),
      number_decText (by decide) (by omega), number_decText (by decide) (by omega),
      number_decText (by decide) (by omega)]
    simp only [Option.bind_eq_bind, Option.bind_some, Date.make_self]
    have hself := t.make_self
    rwa [h.1, h.2] at hself
  rw [strptime, pieces_stamp, Option.bind_some, hread]

theorem isAscii_of_digits {cs : List Char} (h : ∀ c ∈ cs, isAsciiDigit c = true) :
    ∀ c ∈ cs, c.toNat < 128 := by
  intro c hc
  have hz : '0'.toNat = 48 := rfl
  have hlt := lt_of_isAsciiDigit (h c hc)
  omega

theorem isAscii_stamp (t : DateTime) : isAscii (stamp t) = true := by
  have hdigits : ∀ k n, ∀ c ∈ decText k n, c.toNat < 128 := fun k n =>
    isAscii_of_digits fun _ hc => isAsciiDigit_of_mem_decText hc
  obtain ⟨-, hchars⟩ := pieces_eq_some_iff.1 (pieces_stamp t)
  rw [isAscii, hchars, List.all_eq_true]
  intro c hc
  simp only [Pieces.chars, stampPieces, List.mem_append, List.mem_cons, List.not_mem_nil,
    or_false] at hc
  rw [decide_eq_true_eq]
  rcases hc with hc | rfl | hc | rfl | hc | rfl | hc | rfl | hc | rfl | hc | rfl <;>
    first
    | exact hdigits _ _ _ hc
    | decide

/-! ### What a timestamp in ASCII says -/

theorem isAsciiDigit_of_isDecimal {c : Char} (hascii : c.toNat < 128) (h : isDecimal c = true) :
    isAsciiDigit c = true := by
  rw [isDecimal, digitValue_ascii hascii] at h
  split_ifs at h with hdigit
  · exact hdigit
  · cases h

theorem isDecimal_of_range {c lo hi : Char} (hlo : '0' ≤ lo) (hhi : hi ≤ '9') (h₁ : lo ≤ c)
    (h₂ : c ≤ hi) : isDecimal c = true := by
  refine isDecimal_of_isAsciiDigit ?_
  simp only [isAsciiDigit, Bool.and_eq_true, decide_eq_true_eq]
  exact ⟨Char.le_trans hlo h₁, Char.le_trans h₂ hhi⟩

/-- The four patterns of two characters match decimal digits only. -/
theorem isDecimal_of_text {cs : List Char} (h : monthText cs = true ∨ dayText cs = true ∨
    hourText cs = true ∨ sixtyText cs = true) : ∀ c ∈ cs, isDecimal c = true := by
  match cs, h with
  | [a, b], h =>
    have hdigit : ∀ d ∈ ['0', '1', '2', '3'], isDecimal d = true :=
      List.all_eq_true.1 (by decide)
    simp only [monthText, dayText, hourText, sixtyText, Bool.or_eq_true, Bool.and_eq_true,
      beq_iff_eq, decide_eq_true_eq] at h
    have hboth : isDecimal a = true ∧ isDecimal b = true := by
      rcases h with (⟨⟨rfl, h₁⟩, h₂⟩ | ⟨⟨rfl, h₁⟩, h₂⟩) | ((⟨⟨rfl, h₁⟩, h₂⟩ | ⟨rfl | rfl, hb⟩) |
        ⟨rfl, rfl | rfl⟩) | (⟨rfl | rfl, hb⟩ | ⟨⟨rfl, h₁⟩, h₂⟩) | ⟨⟨h₁, h₂⟩, hb⟩
      · exact ⟨hdigit _ (by decide), isDecimal_of_range (by decide) (by decide) h₁ h₂⟩
      · exact ⟨hdigit _ (by decide), isDecimal_of_range (by decide) (by decide) h₁ h₂⟩
      · exact ⟨hdigit _ (by decide), isDecimal_of_range (by decide) (by decide) h₁ h₂⟩
      · exact ⟨hdigit _ (by decide), hb⟩
      · exact ⟨hdigit _ (by decide), hb⟩
      · exact ⟨hdigit _ (by decide), hdigit _ (by decide)⟩
      · exact ⟨hdigit _ (by decide), hdigit _ (by decide)⟩
      · exact ⟨hdigit _ (by decide), hb⟩
      · exact ⟨hdigit _ (by decide), hb⟩
      · exact ⟨hdigit _ (by decide), isDecimal_of_range (by decide) (by decide) h₁ h₂⟩
      · exact ⟨isDecimal_of_range (by decide) (by decide) h₁ h₂, hb⟩
    intro c hc
    simp only [List.mem_cons, List.not_mem_nil, or_false] at hc
    rcases hc with rfl | rfl
    · exact hboth.1
    · exact hboth.2
  | [], h => exact fun c hc => absurd hc List.not_mem_nil
  | [a], h => simp [monthText, dayText, hourText, sixtyText] at h
  | a :: b :: c :: cs, h => simp [monthText, dayText, hourText, sixtyText] at h

theorem dateTime_eq_some {p : Pieces} {t : DateTime} (h : p.dateTime = some t) :
    (number p.year = some t.date.year ∧ number p.month = some t.date.month ∧
      number p.day = some t.date.day) ∧
    (number p.hour = some t.hour ∧ number p.minute = some t.minute ∧
      number p.second = some t.second) ∧ IsSecond t := by
  simp only [Pieces.dateTime, Option.bind_eq_bind, Option.bind_eq_some_iff] at h
  obtain ⟨year, hy, month, hm, day, hd, hour, hh, minute, hn, second, hs, date, hdate, hmake⟩ := h
  rw [Date.make] at hdate
  split_ifs at hdate
  obtain rfl := Option.some.inj hdate
  rw [DateTime.make] at hmake
  split_ifs at hmake
  obtain rfl := Option.some.inj hmake
  exact ⟨⟨hy, hm, hd⟩, ⟨hh, hn, hs⟩, rfl, rfl⟩

/-- **A second that is read from a text in ASCII is written so.** -/
theorem stamp_of_strptime {text : String} {t : DateTime} (hpattern : isTimestamp text = true)
    (hascii : isAscii text = true) (h : strptime text = .ok t) : IsSecond t ∧ text = stamp t := by
  cases hp : pieces text.toList with
  | none => simp [isTimestamp, hp] at hpattern
  | some p =>
    obtain ⟨hsized, hchars⟩ := pieces_eq_some_iff.1 hp
    simp only [isTimestamp, hp, Bool.and_eq_true] at hpattern
    obtain ⟨⟨⟨⟨⟨hyear, hmonth⟩, hday⟩, hhour⟩, hminute⟩, hsecond⟩ := hpattern
    simp only [strptime, hp, Option.bind_some] at h
    split at h
    · next t' ht =>
      obtain rfl := Except.ok.inj h
      obtain ⟨⟨hy, hm, hd⟩, ⟨hh, hn, hs⟩, hutc⟩ := dateTime_eq_some ht
      have hsmall : ∀ c ∈ p.chars, c.toNat < 128 := by
        rw [isAscii, hchars] at hascii
        exact fun c hc => of_decide_eq_true (List.all_eq_true.1 hascii c hc)
      -- each part consists of ASCII digits, so it is the number it was read as
      have hpart : ∀ {cs : List Char} {n : Nat}, (∀ c ∈ cs, c ∈ p.chars) →
          (∀ c ∈ cs, isDecimal c = true) → number cs = some n → cs = decText cs.length n :=
        fun hmem hdec hnum => decText_of_number
          (fun c hc => isAsciiDigit_of_isDecimal (hsmall c (hmem c hc)) (hdec c hc)) hnum
      have hparts : p = stampPieces t' := by
        obtain ⟨year, month, day, hour, minute, second⟩ := p
        have hyear' := hpart (fun c hc => by simp [Pieces.chars, hc]) (List.all_eq_true.1 hyear) hy
        have hmonth' := hpart (fun c hc => by simp [Pieces.chars, hc])
          (isDecimal_of_text (.inl hmonth)) hm
        have hday' := hpart (fun c hc => by simp [Pieces.chars, hc])
          (isDecimal_of_text (.inr (.inl hday))) hd
        have hhour' := hpart (fun c hc => by simp [Pieces.chars, hc])
          (isDecimal_of_text (.inr (.inr (.inl hhour)))) hh
        have hminute' := hpart (fun c hc => by simp [Pieces.chars, hc])
          (isDecimal_of_text (.inr (.inr (.inr hminute)))) hn
        have hsecond' := hpart (fun c hc => by simp [Pieces.chars, hc])
          (isDecimal_of_text (.inr (.inr (.inr hsecond)))) hs
        rw [hsized.year] at hyear'
        rw [hsized.month] at hmonth'
        rw [hsized.day] at hday'
        rw [hsized.hour] at hhour'
        rw [hsized.minute] at hminute'
        rw [hsized.second] at hsecond'
        rw [Pieces.mk.injEq]
        exact ⟨hyear', hmonth', hday', hhour', hminute', hsecond'⟩
      refine ⟨hutc, String.toList_injective ?_⟩
      rw [hchars, hparts]
      exact (pieces_eq_some_iff.1 (pieces_stamp t')).2.symm
    · cases h

/-! ### What a signature is -/

theorem isSignature_sign (L : Library) (key : DeliveryKey) (recipient timestamp : String)
    (body : List UInt8) : isSignature (sign L key recipient timestamp body) = true := by
  have htext : (sign L key recipient timestamp body).toList = "hmac-sha256=".toList ++
      hexdigest (L.hmacSha256 key.secret (signingString L recipient key.keyId timestamp body)) := by
    rw [sign, String.toList_append]
    exact congrArg _ (String.toList_ofList ..)
  have htake : ∀ cs : List Char, ("hmac-sha256=".toList ++ cs).take 12 = "hmac-sha256=".toList :=
    fun cs => List.take_left' rfl
  have hdrop : ∀ cs : List Char, ("hmac-sha256=".toList ++ cs).drop 12 = cs :=
    fun cs => List.drop_left' rfl
  simp only [isSignature, htext, htake, hdrop, Bool.and_eq_true, beq_iff_eq, List.all_eq_true]
  exact ⟨⟨trivial, length_hexText ..⟩, fun c hc => isUuidDigit_of_mem_hexText hc⟩

/-- What the pattern matches is in ASCII. -/
theorem isAscii_of_isSignature {text : String} (h : isSignature text = true) :
    isAscii text = true := by
  simp only [isSignature, Bool.and_eq_true, beq_iff_eq, List.all_eq_true] at h
  obtain ⟨⟨htake, -⟩, hdigits⟩ := h
  rw [isAscii, ← List.take_append_drop 12 text.toList, htake, List.all_append, Bool.and_eq_true]
  refine ⟨by decide, List.all_eq_true.2 fun c hc => ?_⟩
  have hd := hdigits c hc
  simp only [Bool.or_eq_true, Bool.and_eq_true, decide_eq_true_eq] at hd
  rw [decide_eq_true_eq]
  have hz : '0'.toNat = 48 := rfl
  rcases hd with hd | ⟨-, hf⟩
  · have := lt_of_isAsciiDigit hd
    omega
  · have hle : c.toNat ≤ ('f' : Char).toNat := Char.le_def.1 hf
    have hn : ('f' : Char).toNat = 102 := rfl
    omega

/-! ### When `verify` answers as it should -/

section Verify

variable {L : Library} {keys : List (String × DeliveryKey)} {recipient : String}
  {headers : List (String × String)} {body : List UInt8} {now : DateTime}

/-- A genuine delivery gets past the two patterns. -/
theorem Genuine.patterns (h : Genuine L keys recipient headers body now) :
    isTimestamp (header L headers "baobab-timestamp") = true ∧
      isSignature (header L headers "baobab-signature") = true := by
  obtain ⟨key, o, signedAt, -, -, -, hstamp, -, hsign⟩ := h
  rw [hsign, hstamp]
  exact ⟨isTimestamp_stamp signedAt, isSignature_sign ..⟩

/-- Behind the patterns: an answer, unless the second does not exist or the clock is naive. -/
theorem verifySigned_eq {key : DeliveryKey} {timestamp supplied : String}
    (hs : isSignature supplied = true) :
    verifySigned L recipient body now key timestamp supplied =
      match strptime timestamp, now.offset with
      | .error e, _ => .error e
      | .ok _, none => .error "TypeError"
      | .ok t, some o =>
        .ok (decide (|now.wallClock - o - t.wallClock| ≤ replayWindow ∧
          supplied = sign L key recipient timestamp body)) := by
  have hcompare : compareDigest (sign L key recipient timestamp body) supplied =
      .ok (sign L key recipient timestamp body == supplied) := by
    rw [compareDigest, isAscii_of_isSignature (isSignature_sign ..), isAscii_of_isSignature hs]
    rfl
  cases ht : strptime timestamp with
  | error e => simp [verifySigned, ht, bind, Except.bind]
  | ok t =>
    cases ho : now.offset with
    | none => simp [verifySigned, ht, subtract, ho, bind, Except.bind]
    | some o =>
      have hsubtract : subtract now t = .ok (now.wallClock - o - t.wallClock) := by
        rw [subtract, ho]
      have hrun : verifySigned L recipient body now key timestamp supplied =
          if replayWindow < |now.wallClock - o - t.wallClock| then .ok false
          else compareDigest (sign L key recipient timestamp body) supplied := by
        simp only [verifySigned, ht, hsubtract, bind, Except.bind]
        rfl
      rw [hrun, hcompare]
      dsimp only
      generalize |now.wallClock - o - t.wallClock| = distance
      by_cases hout : replayWindow < distance
      · rw [if_pos hout, decide_eq_false fun h => absurd h.1 (not_le.2 hout)]
      · rw [if_neg hout, Bool.beq_eq_decide_eq]
        refine congrArg Except.ok (decide_eq_decide.2 ?_)
        exact ⟨fun h => ⟨not_lt.1 hout, h.symm⟩, fun h => h.2.symm⟩

/-- An exception is no answer. -/
theorem not_exact_of_raise {e : String}
    (h : verify L keys recipient headers body now = .error e) :
    ¬ Exact L keys recipient headers body now := by
  rintro ⟨htrue, hfalse⟩
  by_cases hgenuine : Genuine L keys recipient headers body now
  · have := (htrue hgenuine).symm.trans h
    cases this
  · have := (hfalse hgenuine).symm.trans h
    cases this

/-- Where the second exists and the clock is aware, a genuine delivery is one inside the
window with the right signature. -/
theorem genuine_iff {key : DeliveryKey} {o : Int} {t : DateTime}
    (hkey : keys.lookup (header L headers "baobab-key-id") = some key) (ho : now.offset = some o)
    (ht : isTimestamp (header L headers "baobab-timestamp") = true)
    (hstrptime : strptime (header L headers "baobab-timestamp") = .ok t)
    (hcond : isAscii (header L headers "baobab-timestamp") = true ∨
      replayWindow < |now.wallClock - o - t.wallClock| ∨
      header L headers "baobab-signature" ≠
        sign L key recipient (header L headers "baobab-timestamp") body) :
    Genuine L keys recipient headers body now ↔
      |now.wallClock - o - t.wallClock| ≤ replayWindow ∧ header L headers "baobab-signature" =
        sign L key recipient (header L headers "baobab-timestamp") body := by
  constructor
  · rintro ⟨key', o', signedAt, hk, ho', hutc, hstamp, hinside, hsign⟩
    obtain rfl : key = key' := Option.some.inj (hkey.symm.trans hk)
    obtain rfl : o = o' := Option.some.inj (ho.symm.trans ho')
    have hread := strptime_stamp hutc
    rw [← hstamp, hstrptime] at hread
    obtain rfl := Except.ok.inj hread
    exact ⟨hinside, hsign⟩
  · rintro ⟨hinside, hsign⟩
    have hascii := hcond.resolve_right fun h =>
      h.elim (fun hout => absurd hinside (not_le.2 hout)) fun hwrong => hwrong hsign
    obtain ⟨hutc, hstamp⟩ := stamp_of_strptime ht hascii hstrptime
    exact ⟨key, o, t, hkey, ho, hutc, hstamp, hinside, hsign⟩

/-- **The condition**: of what gets past the patterns with a registered key, the second
exists and the clock is aware, and a timestamp not in ASCII is outside the window or
wrongly signed. -/
def Regular (L : Library) (keys : List (String × DeliveryKey)) (recipient : String)
    (headers : List (String × String)) (body : List UInt8) (now : DateTime) : Prop :=
  ∀ key, keys.lookup (header L headers "baobab-key-id") = some key →
    isTimestamp (header L headers "baobab-timestamp") = true →
    isSignature (header L headers "baobab-signature") = true →
    ∃ o t, now.offset = some o ∧ strptime (header L headers "baobab-timestamp") = .ok t ∧
      (isAscii (header L headers "baobab-timestamp") = true ∨
        replayWindow < |now.wallClock - o - t.wallClock| ∨
        header L headers "baobab-signature" ≠
          sign L key recipient (header L headers "baobab-timestamp") body)

/-- **When `verify` answers as it should.** -/
theorem verify_exact_iff (L : Library) (keys : List (String × DeliveryKey)) (recipient : String)
    (headers : List (String × String)) (body : List UInt8) (now : DateTime) :
    Exact L keys recipient headers body now ↔ Regular L keys recipient headers body now := by
  unfold Exact
  cases hkey : keys.lookup (header L headers "baobab-key-id") with
  | none =>
    have hgenuine : ¬ Genuine L keys recipient headers body now := by
      rintro ⟨key, -, -, hk, -⟩
      rw [hkey] at hk
      cases hk
    have hverify : verify L keys recipient headers body now = .ok false := by rw [verify, hkey]
    refine ⟨fun _ key hk => ?_, fun _ => ⟨fun h => absurd h hgenuine, fun _ => hverify⟩⟩
    rw [hkey] at hk
    cases hk
  | some key =>
    by_cases hpatterns : isTimestamp (header L headers "baobab-timestamp") = true ∧
        isSignature (header L headers "baobab-signature") = true
    · obtain ⟨ht, hs⟩ := hpatterns
      have hverify : verify L keys recipient headers body now = verifySigned L recipient body now key
          (header L headers "baobab-timestamp") (header L headers "baobab-signature") := by
        rw [verify, hkey]
        simp only [ht, hs, Bool.not_true, Bool.or_self, Bool.false_eq_true, if_false]
      constructor
      · rintro hexact key' hk - -
        obtain rfl : key = key' := Option.some.inj (hkey.symm.trans hk)
        have hraise : ∀ e, verifySigned L recipient body now key
            (header L headers "baobab-timestamp") (header L headers "baobab-signature") ≠ .error e :=
          fun e he => not_exact_of_raise (hverify.trans he) hexact
        rw [verifySigned_eq hs] at hraise
        cases hstrptime : strptime (header L headers "baobab-timestamp") with
        | error e => exact absurd rfl (hstrptime ▸ hraise e)
        | ok t =>
          cases ho : now.offset with
          | none =>
            rw [hstrptime, ho] at hraise
            exact absurd rfl (hraise "TypeError")
          | some o =>
            refine ⟨o, t, rfl, rfl, ?_⟩
            by_contra hcond
            simp only [not_or, not_lt, ne_eq, not_not] at hcond
            obtain ⟨hascii, hinside, hsign⟩ := hcond
            have hgenuine : ¬ Genuine L keys recipient headers body now := by
              rintro ⟨-, -, signedAt, -, -, -, hstamp, -, -⟩
              exact hascii (hstamp ▸ isAscii_stamp signedAt)
            have hanswer := hexact.2 hgenuine
            rw [hverify, verifySigned_eq hs, hstrptime, ho] at hanswer
            exact of_decide_eq_false (Except.ok.inj hanswer) ⟨hinside, hsign⟩
      · intro hregular
        obtain ⟨o, t, ho, hstrptime, hcond⟩ := hregular key hkey ht hs
        have hmeans := genuine_iff hkey ho ht hstrptime hcond
        rw [hverify, verifySigned_eq hs, hstrptime, ho]
        exact ⟨fun h => congrArg Except.ok (decide_eq_true (hmeans.1 h)),
          fun h => congrArg Except.ok (decide_eq_false fun hp => h (hmeans.2 hp))⟩
    · have hgenuine : ¬ Genuine L keys recipient headers body now := fun h => hpatterns h.patterns
      have hverify : verify L keys recipient headers body now = .ok false := by
        rw [verify, hkey]
        refine if_pos ?_
        rw [Bool.or_eq_true, Bool.not_eq_true', Bool.not_eq_true']
        by_contra hboth
        simp only [not_or, Bool.not_eq_false] at hboth
        exact hpatterns hboth
      exact ⟨fun _ _ _ ht hs => absurd ⟨ht, hs⟩ hpatterns,
        fun _ => ⟨fun h => absurd h hgenuine, fun _ => hverify⟩⟩

end Verify

/-! ### A day that does not exist -/

/-- A key of 32 bytes. -/
def erpKey : DeliveryKey :=
  ⟨"erp-2026", List.replicate 32 7, by decide, by decide⟩

/-- The headers of a delivery stamped on February 30. -/
def february : List (String × String) :=
  [("baobab-key-id", "erp-2026"), ("baobab-timestamp", "2026-02-30T00:00:00Z"),
    ("baobab-signature", "hmac-sha256=" ++ String.ofList (List.replicate 64 'a'))]

/-- No digest is computed on this input. -/
def idle : Library := ⟨fun _ => 0, fun _ _ => 0, ⟨fun _ => none, fun _ _ => .eq, fun _ => false, id⟩⟩

/-- March 1, 2026, midnight UTC. -/
def firstOfMarch : DateTime :=
  ⟨⟨2026, 3, 1, by decide⟩, 0, 0, 0, 0, some 0, DateTime.midnight_valid⟩

/-- **A registered key, both patterns matched, and `ValueError`** instead of `False`. -/
theorem february_raises :
    verify idle [("erp-2026", erpKey)] "baobab-control-plane" february [] firstOfMarch =
      .error "ValueError" ∧
    ¬ Exact idle [("erp-2026", erpKey)] "baobab-control-plane" february [] firstOfMarch := by
  have h : verify idle [("erp-2026", erpKey)] "baobab-control-plane" february [] firstOfMarch =
      .error "ValueError" := by decide +kernel
  exact ⟨h, not_exact_of_raise h⟩

end SignedDelivery
end BaobabErp
