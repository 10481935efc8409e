/-
# The JSON of the application-service bundles

`MinimalJson.java` of the integration bundle: the writer of event payloads and the parser of
responses, both by hand.  **What the writer writes of a map, the parser reads as that map**
(`parseObject_writeObject`): strings of any units, longs, finite doubles, booleans, `null`
and maps of these to any depth.

The parser keeps its place as what is left of the text; the texts of its errors name the
position, which is what has been read.  Its recursion is bounded by the length of the text.
-/

import BaobabErp.Java.Numbers

namespace BaobabErp
namespace MinimalJson

open Java

/-- The values the writer is given and the parser returns; the entries of a map in their
order, the items of a list in theirs. -/
inductive Value
  | null
  | string (s : JString)
  | long (n : Int64)
  | double (d : Double)
  | bool (b : Bool)
  | map (entries : List (JString × Value))
  | list (items : List Value)

/-- A map, as its entries in their order. -/
abbrev Entries := List (JString × Value)

/-- What is thrown.  `exhausted` is the bound on the recursion, which no text reaches. -/
inductive Thrown
  | illegalArgument (message : JString)
  | numberFormat (input : JString)
  | indexOutOfBounds
  | exhausted
deriving DecidableEq

/-! ### The writer -/

/-- The four digits of `\\u%04x`. -/
def hexUnits (c : UInt16) : JString := (Python.hexText 4 c.toNat).map unit

/-- A unit inside a string literal. -/
def escaped (c : UInt16) : JString :=
  if c = unit '"' then [unit '\\', unit '"']
  else if c = unit '\\' then [unit '\\', unit '\\']
  else if c = unit '\n' then [unit '\\', unit 'n']
  else if c = unit '\t' then [unit '\\', unit 't']
  else if c = unit '\r' then [unit '\\', unit 'r']
  else if c.toNat < 0x20 then unit '\\' :: unit 'u' :: hexUnits c
  else [c]

/-- `writeString`. -/
def writeString (s : JString) : JString := unit '"' :: (s.flatMap escaped ++ [unit '"'])

mutual

/-- `writeValue`, and `writeObjectInto` of a map. -/
def writeValue : Value → Except Thrown JString
  | .null => .ok (units "null")
  | .string s => .ok (writeString s)
  | .long n => .ok (Long.text n)
  | .double d => .ok d.text
  | .bool b => .ok (units (if b then "true" else "false"))
  | .map entries => do
    let body ← writeEntries true entries
    pure (unit '{' :: (body ++ [unit '}']))
  | .list _ => .error (.illegalArgument (units
      "Unsupported value type for MinimalJson.writeObject: class java.util.ArrayList"))

/-- The loop over the entries; `first` is the flag of that name. -/
def writeEntries : Bool → List (JString × Value) → Except Thrown JString
  | _, [] => .ok []
  | first, (key, value) :: rest => do
    let text ← writeValue value
    let more ← writeEntries false rest
    pure ((if first then [] else [unit ',']) ++ (writeString key ++ unit ':' :: (text ++ more)))

end

/-- `writeObject`. -/
def writeObject (entries : Entries) : Except Thrown JString := writeValue (.map entries)

/-! ### The parser -/

section Parser

variable (text : JString)

/-- `position`, when this is left. -/
def position (rest : JString) : JString := intText (text.length - rest.length : Nat)

/-- The exception of `peek` and `next` at the end. -/
def endOfInput : Thrown := .illegalArgument (units "Unexpected end of JSON input: " ++ text)

/-- `peek`. -/
def peek : JString → Except Thrown UInt16
  | [] => .error (endOfInput text)
  | c :: _ => .ok c

/-- `expect`. -/
def expect (c : UInt16) : JString → Except Thrown JString
  | [] => .error (.illegalArgument (units "Expected '" ++ c :: (units "' at position " ++
      position text [] ++ units " in: " ++ text)))
  | d :: rest =>
    if d = c then .ok rest
    else .error (.illegalArgument (units "Expected '" ++ c :: (units "' at position " ++
      position text (d :: rest) ++ units " in: " ++ text)))

/-- `skipWhitespace`. -/
def skipWhitespace (rest : JString) : JString := rest.dropWhile isWhitespace

/-- The escapes of one unit. -/
def unescaped (c : UInt16) : Option UInt16 :=
  [(unit '"', unit '"'), (unit '\\', unit '\\'), (unit '/', unit '/'), (unit 'n', unit '\n'),
    (unit 't', unit '\t'), (unit 'r', unit '\r'), (unit 'b', 8), (unit 'f', 12)].lookup c

/-- `(char) Integer.parseInt(hex, 16)`. -/
def hexUnit (hex : JString) : Except Thrown UInt16 :=
  match integerOf 16 hex with
  | some n => .ok (UInt16.ofInt n)
  | none => .error (.numberFormat hex)

/-- The loop of `readString`, behind the opening quote. -/
def readUnits : JString → Except Thrown (JString × JString)
  | [] => .error (endOfInput text)
  | c :: rest =>
    if c = unit '"' then .ok ([], rest)
    else if c = unit '\\' then
      match rest with
      | [] => .error (endOfInput text)
      | e :: rest =>
        if e = unit 'u' then
          match rest with
          | h₁ :: h₂ :: h₃ :: h₄ :: rest => do
            let c ← hexUnit [h₁, h₂, h₃, h₄]
            let (s, rest) ← readUnits rest
            pure (c :: s, rest)
          | _ => .error .indexOutOfBounds
        else
          match unescaped e with
          | some c => do
            let (s, rest) ← readUnits rest
            pure (c :: s, rest)
          | none => .error (.illegalArgument (units "Unknown escape '\\" ++ e :: units "'"))
    else do
      let (s, rest) ← readUnits rest
      pure (c :: s, rest)

/-- `readString`. -/
def readString (rest : JString) : Except Thrown (JString × JString) := do
  let rest ← expect text (unit '"') rest
  readUnits text rest

/-- A unit `readNumber` reads on over. -/
def isNumberUnit (c : UInt16) : Bool :=
  isDigit c || c == unit '.' || c == unit 'e' || c == unit 'E' || c == unit '+' || c == unit '-'

/-- A unit that makes a number a floating-point one. -/
def isFloatUnit (c : UInt16) : Bool := c == unit '.' || c == unit 'e' || c == unit 'E'

/-- The value of a number. -/
def numberValue (number : JString) (isFloatingPoint : Bool) : Except Thrown Value :=
  if isFloatingPoint then
    match Double.parseDouble number with
    | some d => .ok (.double d)
    | none => .error (.numberFormat number)
  else
    match Long.parseLong number with
    | some n => .ok (.long n)
    | none => .error (.numberFormat number)

/-- `readNumber`; the sign in front is no part of its loop. -/
def readNumber (rest : JString) : Except Thrown (Value × JString) := do
  let c ← peek text rest
  let sign := if c = unit '-' then [c] else []
  let run := (rest.drop sign.length).takeWhile isNumberUnit
  let value ← numberValue (sign ++ run) (run.any isFloatUnit)
  pure (value, (rest.drop sign.length).dropWhile isNumberUnit)

mutual

/-- `readValue`. -/
def readValue : Nat → JString → Except Thrown (Value × JString)
  | 0, _ => .error .exhausted
  | fuel + 1, rest => do
    let c ← peek text rest
    if c = unit '{' then
      let (entries, rest) ← readObject fuel rest
      pure (.map entries, rest)
    else if c = unit '[' then
      let (items, rest) ← readArray fuel rest
      pure (.list items, rest)
    else if c = unit '"' then
      let (s, rest) ← readString text rest
      pure (.string s, rest)
    else if c = unit '-' ∨ isDigit c = true then
      readNumber text rest
    else if (units "true").isPrefixOf rest then
      pure (.bool true, rest.drop 4)
    else if (units "false").isPrefixOf rest then
      pure (.bool false, rest.drop 5)
    else if (units "null").isPrefixOf rest then
      pure (.null, rest.drop 4)
    else
      .error (.illegalArgument
        (units "Unexpected value at position " ++ position text rest ++ units " in: " ++ text))

/-- `readObject`. -/
def readObject : Nat → JString → Except Thrown (Entries × JString)
  | 0, _ => .error .exhausted
  | fuel + 1, rest => do
    let rest ← expect text (unit '{') rest
    let rest := skipWhitespace rest
    let c ← peek text rest
    if c = unit '}' then pure ([], rest.drop 1)
    else readEntries fuel [] rest

/-- The loop of `readObject`; `result` is what it has put so far. -/
def readEntries : Nat → Entries → JString → Except Thrown (Entries × JString)
  | 0, _, _ => .error .exhausted
  | fuel + 1, result, rest => do
    let (key, rest) ← readString text (skipWhitespace rest)
    let rest ← expect text (unit ':') (skipWhitespace rest)
    let (value, rest) ← readValue fuel (skipWhitespace rest)
    if (result.map Prod.fst).contains key then
      .error (.illegalArgument (units "Duplicate JSON property"))
    else
      let result := result ++ [(key, value)]
      let rest := skipWhitespace rest
      let next ← peek text rest
      if next = unit ',' then readEntries fuel result (rest.drop 1)
      else if next = unit '}' then pure (result, rest.drop 1)
      else
        .error (.illegalArgument (units "Expected ',' or '\x7d' at position " ++ position text rest ++
          units " in: " ++ text))

/-- `readArray`. -/
def readArray : Nat → JString → Except Thrown (List Value × JString)
  | 0, _ => .error .exhausted
  | fuel + 1, rest => do
    let rest ← expect text (unit '[') rest
    let rest := skipWhitespace rest
    if rest.head? = some (unit ']') then pure ([], rest.drop 1)
    else readItems fuel [] rest

/-- The loop of `readArray`. -/
def readItems : Nat → List Value → JString → Except Thrown (List Value × JString)
  | 0, _, _ => .error .exhausted
  | fuel + 1, result, rest => do
    let (value, rest) ← readValue fuel (skipWhitespace rest)
    let result := result ++ [value]
    let rest := skipWhitespace rest
    let next ← peek text rest
    if next = unit ']' then pure (result, rest.drop 1)
    else
      let rest ← expect text (unit ',') rest
      readItems fuel result rest

end

/-- `parseObject`. -/
def parseObject : Except Thrown Entries := do
  let (result, rest) ← readObject text (3 * text.length + 3) (skipWhitespace text)
  if skipWhitespace rest = [] then pure result
  else .error (.illegalArgument (units "Unexpected trailing content in JSON: " ++ text))

end Parser

/-! ### The bound on the recursion -/

section Bound

variable (text : JString)

/-- What was read is some part of the text, and the bound was not met. -/
def Advances {α : Type} (n : Nat) : Except Thrown (α × JString) → Prop
  | .ok (_, rest) => rest.length < n
  | .error e => e ≠ .exhausted

theorem Advances.mono {α : Type} {n m : Nat} {x : Except Thrown (α × JString)}
    (h : Advances n x) (hnm : n ≤ m) : Advances m x := by
  cases x with
  | error e => exact h
  | ok p => exact lt_of_lt_of_le h hnm

theorem Advances.bind {α β : Type} {n m : Nat} {x : Except Thrown (α × JString)}
    {f : α × JString → Except Thrown (β × JString)} (h : Advances n x)
    (hf : ∀ a rest, rest.length < n → Advances m (f (a, rest))) : Advances m (x >>= f) := by
  cases x with
  | error e => exact h
  | ok p => exact hf p.1 p.2 h

theorem skipWhitespace_le (rest : JString) : (skipWhitespace rest).length ≤ rest.length :=
  (List.dropWhile_sublist _).length_le

/-- What is behind an expected unit is shorter. -/
theorem advances_expect {β : Type} {m : Nat} {c : UInt16} {rest : JString}
    {f : JString → Except Thrown (β × JString)}
    (hf : ∀ tail, tail.length < rest.length → Advances m (f tail)) :
    Advances m (expect text c rest >>= f) := by
  cases rest with
  | nil =>
    rw [expect]
    exact Thrown.noConfusion
  | cons d tail =>
    rw [expect]
    split
    · exact hf tail (by simp)
    · exact Thrown.noConfusion

theorem advances_peek {β : Type} {m : Nat} {rest : JString}
    {f : UInt16 → Except Thrown (β × JString)}
    (hf : ∀ c tail, rest = c :: tail → Advances m (f c)) :
    Advances m (peek text rest >>= f) := by
  cases rest with
  | nil =>
    rw [peek]
    exact Thrown.noConfusion
  | cons c tail => exact hf c tail rfl

/-- What a unit is put in front of still advances. -/
theorem Advances.cons {n m : Nat} {x : Except Thrown (JString × JString)} (h : Advances n x)
    (hnm : n ≤ m) (c : UInt16) :
    Advances m (do
      let (s, rest) ← x
      pure (c :: s, rest)) :=
  h.bind fun _ _ hrest => lt_of_lt_of_le hrest hnm

theorem advances_readUnits (rest : JString) : Advances rest.length (readUnits text rest) := by
  fun_induction readUnits text rest with
  | case1 => exact Thrown.noConfusion
  | case2 tail => exact Nat.lt_succ_self _
  | case3 => exact Thrown.noConfusion
  | case4 h₁ h₂ h₃ h₄ rest _ ih =>
    cases hhex : hexUnit [h₁, h₂, h₃, h₄] with
    | error e =>
      have he : e ≠ .exhausted := by
        unfold hexUnit at hhex
        split at hhex
        · cases hhex
        · rw [← Except.error.inj hhex]
          exact Thrown.noConfusion
      exact he
    | ok c => exact ih.cons (by simp only [List.length_cons]; omega) c
  | case5 => exact Thrown.noConfusion
  | case6 e rest _ c _ _ ih => exact ih.cons (by simp only [List.length_cons]; omega) c
  | case7 => exact Thrown.noConfusion
  | case8 c tail _ _ ih => exact ih.cons (by simp only [List.length_cons]; omega) c

theorem advances_readString (rest : JString) : Advances rest.length (readString text rest) :=
  advances_expect text fun tail htail => (advances_readUnits text tail).mono htail.le

theorem advances_numberValue (number : JString) (isFloatingPoint : Bool) {rest : JString} {n : Nat}
    (h : rest.length < n) :
    Advances n (do
      let value ← numberValue number isFloatingPoint
      pure (value, rest)) := by
  unfold numberValue
  split
  · split
    · exact h
    · exact Thrown.noConfusion
  · split
    · exact h
    · exact Thrown.noConfusion

theorem readNumber_cons (c : UInt16) (rest : JString) :
    readNumber text (c :: rest) = (do
      let sign := if c = unit '-' then [c] else []
      let run := ((c :: rest).drop sign.length).takeWhile isNumberUnit
      let value ← numberValue (sign ++ run) (run.any isFloatUnit)
      pure (value, ((c :: rest).drop sign.length).dropWhile isNumberUnit)) := rfl

theorem advances_readNumber {c : UInt16} (tail : JString) (h : c = unit '-' ∨ isDigit c = true) :
    Advances (c :: tail).length (readNumber text (c :: tail)) := by
  have hdrop := fun rest : JString => (List.dropWhile_sublist isNumberUnit (l := rest)).length_le
  rw [readNumber_cons]
  refine advances_numberValue _ _ ?_
  by_cases hminus : c = unit '-'
  · rw [if_pos hminus, List.length_singleton, List.drop_one, List.tail_cons]
    exact Nat.lt_succ_of_le (hdrop tail)
  · have hdigit : isNumberUnit c = true := by
      simp [isNumberUnit, h.resolve_left hminus]
    rw [if_neg hminus, List.length_nil, List.drop_zero, List.dropWhile_cons_of_pos hdigit]
    exact Nat.lt_succ_of_le (hdrop tail)

/-- **The recursion does not meet its bound**: what is left of the text bounds it. -/
theorem advances_read (fuel : Nat) :
    (∀ rest, 3 * rest.length < fuel → Advances rest.length (readValue text fuel rest)) ∧
    (∀ rest, 3 * rest.length ≤ fuel → 0 < fuel →
      Advances rest.length (readObject text fuel rest)) ∧
    (∀ result rest, 3 * rest.length < fuel →
      Advances rest.length (readEntries text fuel result rest)) ∧
    (∀ rest, 3 * rest.length ≤ fuel → 0 < fuel →
      Advances rest.length (readArray text fuel rest)) ∧
    ∀ result rest, 3 * rest.length + 1 < fuel →
      Advances rest.length (readItems text fuel result rest) := by
  induction fuel with
  | zero => simp
  | succ fuel ih =>
    obtain ⟨ihValue, ihObject, ihEntries, ihArray, ihItems⟩ := ih
    refine ⟨fun rest hfuel => ?_, fun rest hfuel _ => ?_, fun result rest hfuel => ?_,
      fun rest hfuel _ => ?_, fun result rest hfuel => ?_⟩
    · rw [readValue]
      refine advances_peek text fun c tail hrest => ?_
      subst hrest
      have hliteral : ∀ k, 0 < k → ((c :: tail).drop k).length < (c :: tail).length := by
        intro k hk
        rw [List.length_drop, List.length_cons]
        omega
      have hpos : 0 < (c :: tail).length := Nat.succ_pos _
      split
      · exact (ihObject _ (by omega) (by omega)).bind fun _ _ hmore => hmore
      split
      · exact (ihArray _ (by omega) (by omega)).bind fun _ _ hmore => hmore
      split
      · exact (advances_readString text _).bind fun _ _ hmore => hmore
      split
      · rename_i hnumber
        exact advances_readNumber text tail hnumber
      split
      · exact hliteral 4 (by omega)
      split
      · exact hliteral 5 (by omega)
      split
      · exact hliteral 4 (by omega)
      · exact Thrown.noConfusion
    · rw [readObject]
      refine advances_expect text fun tail htail => ?_
      have hskip := skipWhitespace_le tail
      refine advances_peek text fun c more hmore => ?_
      split
      · exact lt_of_le_of_lt ((List.drop_sublist 1 _).length_le.trans hskip) htail
      · exact (ihEntries [] _ (by omega)).mono (by omega)
    · rw [readEntries]
      have hkey := skipWhitespace_le rest
      refine (advances_readString text _).bind fun key behindKey hbehindKey => ?_
      have hcolon := skipWhitespace_le behindKey
      refine advances_expect text fun tail htail => ?_
      have hvalue := skipWhitespace_le tail
      refine (ihValue _ (by omega)).bind fun value behind hbehind => ?_
      have hnext := skipWhitespace_le behind
      dsimp only
      split
      · exact Thrown.noConfusion
      refine advances_peek text fun next more hmore => ?_
      have hdrop := (List.drop_sublist 1 (skipWhitespace behind)).length_le
      split
      · exact (ihEntries _ _ (by omega)).mono (by omega)
      split
      · exact lt_of_le_of_lt (hdrop.trans hnext) (by omega)
      · exact Thrown.noConfusion
    · rw [readArray]
      refine advances_expect text fun tail htail => ?_
      have hskip := skipWhitespace_le tail
      dsimp only
      split
      · exact lt_of_le_of_lt ((List.drop_sublist 1 _).length_le.trans hskip) htail
      · exact (ihItems [] _ (by omega)).mono (by omega)
    · rw [readItems]
      have hskip := skipWhitespace_le rest
      refine (ihValue _ (by omega)).bind fun value behind hbehind => ?_
      have hnext := skipWhitespace_le behind
      dsimp only
      refine advances_peek text fun next more hmore => ?_
      have hdrop := (List.drop_sublist 1 (skipWhitespace behind)).length_le
      split
      · exact lt_of_le_of_lt (hdrop.trans hnext) (by omega)
      · refine advances_expect text fun tail htail => ?_
        exact (ihItems _ _ (by omega)).mono (by omega)

/-- **No text exhausts the parser.** -/
theorem parseObject_ne_exhausted : parseObject text ≠ .error .exhausted := by
  have hskip := skipWhitespace_le text
  have hread := (advances_read text (3 * text.length + 3)).2.1 (skipWhitespace text) (by omega)
    (by omega)
  intro h
  rw [parseObject] at h
  cases hobject : readObject text (3 * text.length + 3) (skipWhitespace text) with
  | error e =>
    rw [hobject] at h hread
    exact hread (Except.error.inj h)
  | ok p =>
    rw [hobject] at h
    simp only [bind, Except.bind] at h
    split at h
    · cases h
    · cases h

end Bound

/-! ### Strings -/

variable (text : JString)

theorem hexUnits_eq (c : UInt16) : ∃ h₁ h₂ h₃ h₄, hexUnits c = [h₁, h₂, h₃, h₄] :=
  ⟨_, _, _, _, rfl⟩

/-- The digits of a control character are read back. -/
theorem hexUnit_hexUnits {c : UInt16} (h : c.toNat < 0x20) : hexUnit (hexUnits c) = .ok c := by
  have htable : ∀ n < 0x20, hexUnit (hexUnits (UInt16.ofNat n)) = .ok (UInt16.ofNat n) := by
    decide +kernel
  have hc := htable c.toNat h
  rwa [UInt16.ofNat_toNat] at hc

theorem readUnits_quote (rest : JString) :
    readUnits text (unit '"' :: rest) = .ok ([], rest) := by
  rw [readUnits.eq_def]
  exact if_pos rfl

theorem readUnits_escape {e c : UInt16} {tail s rest : JString} (hu : e ≠ unit 'u')
    (he : unescaped e = some c) (h : readUnits text tail = .ok (s, rest)) :
    readUnits text (unit '\\' :: e :: tail) = .ok (c :: s, rest) := by
  have hquote : unit '\\' ≠ unit '"' := by decide
  rw [readUnits.eq_def]
  simp only [if_neg hquote, if_true, if_neg hu, he, h]
  rfl

theorem readUnits_hex {hex : JString} {c : UInt16} {tail s rest : JString}
    (hlength : ∃ h₁ h₂ h₃ h₄, hex = [h₁, h₂, h₃, h₄]) (hhex : hexUnit hex = .ok c)
    (h : readUnits text tail = .ok (s, rest)) :
    readUnits text (unit '\\' :: unit 'u' :: (hex ++ tail)) = .ok (c :: s, rest) := by
  obtain ⟨h₁, h₂, h₃, h₄, rfl⟩ := hlength
  have hquote : unit '\\' ≠ unit '"' := by decide
  rw [readUnits.eq_def]
  simp only [if_neg hquote, if_true, List.cons_append, List.nil_append, hhex, h]
  rfl

theorem readUnits_plain {c : UInt16} {tail s rest : JString} (hquote : c ≠ unit '"')
    (hslash : c ≠ unit '\\') (h : readUnits text tail = .ok (s, rest)) :
    readUnits text (c :: tail) = .ok (c :: s, rest) := by
  rw [readUnits.eq_def]
  simp only [if_neg hquote, if_neg hslash, h]
  rfl

/-- **A unit inside a string literal is read back.** -/
theorem readUnits_escaped (c : UInt16) {tail s rest : JString}
    (h : readUnits text tail = .ok (s, rest)) :
    readUnits text (escaped c ++ tail) = .ok (c :: s, rest) := by
  unfold escaped
  split_ifs with hquote hslash hline htab hreturn hcontrol
  · exact readUnits_escape text (by decide) (by rw [hquote]; decide) h
  · exact readUnits_escape text (by decide) (by rw [hslash]; decide) h
  · exact readUnits_escape text (by decide) (by rw [hline]; decide) h
  · exact readUnits_escape text (by decide) (by rw [htab]; decide) h
  · exact readUnits_escape text (by decide) (by rw [hreturn]; decide) h
  · exact readUnits_hex text (hexUnits_eq c) (hexUnit_hexUnits hcontrol) h
  · exact readUnits_plain text hquote hslash h

theorem readUnits_write (s rest : JString) :
    readUnits text (s.flatMap escaped ++ unit '"' :: rest) = .ok (s, rest) := by
  induction s with
  | nil => exact readUnits_quote text rest
  | cons c s ih =>
    rw [List.flatMap_cons, List.append_assoc]
    exact readUnits_escaped text c ih

/-- **A string is read back**, whatever units it has and whatever follows it. -/
theorem readString_write (s rest : JString) :
    readString text (writeString s ++ rest) = .ok (s, rest) := by
  rw [writeString, List.cons_append, List.append_assoc, readString, expect, if_pos rfl]
  exact readUnits_write text s rest

/-! ### Numbers -/

/-- What follows a value the writer wrote inside an object. -/
def Ends (c : UInt16) : Prop := c = unit ',' ∨ c = unit '}'

theorem isNumberUnit_of_ends {c : UInt16} (h : Ends c) : isNumberUnit c = false := by
  rcases h with rfl | rfl <;> decide

/-- **A number is read up to the unit that ends it.** -/
theorem readNumber_write (negative : Bool) {body tail : JString} {c d : UInt16} {value : Value}
    (hbody : ∀ e ∈ d :: body, isNumberUnit e = true) (hd : d ≠ unit '-') (hc : Ends c)
    (hvalue : numberValue ((if negative then [unit '-'] else []) ++ d :: body)
      ((d :: body).any isFloatUnit) = .ok value) :
    readNumber text ((if negative then [unit '-'] else []) ++ (d :: body) ++ c :: tail) =
      .ok (value, c :: tail) := by
  have hend := isNumberUnit_of_ends hc
  have htake : (d :: body ++ c :: tail).takeWhile isNumberUnit = d :: body := by
    rw [List.takeWhile_append_of_pos hbody, List.takeWhile_cons_of_neg (by simp [hend]),
      List.append_nil]
  have hdrop : (d :: body ++ c :: tail).dropWhile isNumberUnit = c :: tail := by
    rw [List.dropWhile_append_of_pos hbody, List.dropWhile_cons_of_neg (by simp [hend])]
  cases negative with
  | true =>
    simp only [if_true] at hvalue ⊢
    rw [List.append_assoc, List.singleton_append, readNumber_cons]
    simp only [if_true, List.length_singleton, List.drop_one, List.tail_cons, htake, hdrop, hvalue]
    rfl
  | false =>
    simp only [Bool.false_eq_true, if_false, List.nil_append] at hvalue ⊢
    rw [List.cons_append, readNumber_cons]
    simp only [if_neg hd, List.length_nil, List.drop_zero, List.nil_append]
    rw [← List.cons_append, htake, hdrop, hvalue]
    rfl

theorem digitUnit_number {d : Nat} (h : d < 10) :
    isNumberUnit (digitUnit d) = true ∧ isFloatUnit (digitUnit d) = false ∧
      digitUnit d ≠ unit '-' := by
  have htable : ∀ d < 10, isNumberUnit (digitUnit d) = true ∧ isFloatUnit (digitUnit d) = false ∧
      digitUnit d ≠ unit '-' := by decide +kernel
  exact htable d h

/-- The digits of an integer. -/
theorem digits_cons (n : Nat) :
    ∃ d ds, (digitsOf n).map digitUnit = digitUnit d :: ds ∧ d < 10 ∧
      ∀ e ∈ digitUnit d :: ds, isNumberUnit e = true ∧ isFloatUnit e = false := by
  have hlt : ∀ d ∈ digitsOf n, d < 10 := fun d hd => digitsOf_lt hd
  cases hdigits : digitsOf n with
  | nil => exact absurd hdigits (digitsOf_ne_nil n)
  | cons d ds =>
    rw [hdigits] at hlt
    refine ⟨d, ds.map digitUnit, rfl, hlt d List.mem_cons_self, fun e he => ?_⟩
    rw [← List.map_cons] at he
    obtain ⟨k, hk, rfl⟩ := List.mem_map.1 he
    exact ⟨(digitUnit_number (hlt k hk)).1, (digitUnit_number (hlt k hk)).2.1⟩

/-- **A long is read back.** -/
theorem readNumber_long (n : Int64) {c : UInt16} (hc : Ends c) (tail : JString) :
    readNumber text (Long.text n ++ c :: tail) = .ok (.long n, c :: tail) := by
  obtain ⟨d, ds, hdigits, hd, hunits⟩ := digits_cons n.toInt.natAbs
  have htext : Long.text n = (if decide (n.toInt < 0) then [unit '-'] else []) ++ digitUnit d :: ds := by
    rw [Long.text, intText, hdigits]
    simp
  have hfloat : (digitUnit d :: ds).any isFloatUnit = false := by
    rw [List.any_eq_false]
    intro e he
    simp [(hunits e he).2]
  have hvalue : numberValue (Long.text n) ((digitUnit d :: ds).any isFloatUnit) = .ok (.long n) := by
    rw [hfloat, numberValue, if_neg (by decide), Long.parseLong_text]
  rw [htext] at hvalue ⊢
  exact readNumber_write text _ (fun e he => (hunits e he).1) (digitUnit_number hd).2.2 hc hvalue

/-- The units of the text of an integer are those of a number. -/
theorem intText_number {n : Int} {c : UInt16} (h : c ∈ intText n) : isNumberUnit c = true := by
  rcases List.mem_append.1 h with h | h
  · split at h
    · rw [List.mem_singleton.1 h]
      decide
    · exact absurd h (by simp)
  · obtain ⟨d, hd, rfl⟩ := List.mem_map.1 h
    exact (digitUnit_number (digitsOf_lt hd)).1

/-- **A finite double is read back.** -/
theorem readNumber_double (negative : Bool) (x : Numeric.Magnitude binary64) {c : UInt16}
    (hc : Ends c) (tail : JString) :
    readNumber text (Double.text (.finite negative x) ++ c :: tail) =
      .ok (.double (.finite negative x), c :: tail) := by
  obtain ⟨whole, frac, expo, htext, hne, hlt, -⟩ := Double.text_finite negative x
  cases whole with
  | nil => exact absurd rfl hne
  | cons d ds =>
    have hd : d < 10 := hlt d List.mem_cons_self
    have hbody : Double.pointText (d :: ds) frac ++ Double.exponentText expo =
        digitUnit d :: (ds.map digitUnit ++ (unit '.' :: frac.map digitUnit ++
          Double.exponentText expo)) := by
      rw [Double.pointText, List.map_cons, List.cons_append, List.cons_append, List.append_assoc]
    have hnumber : ∀ e ∈ Double.pointText (d :: ds) frac ++ Double.exponentText expo,
        isNumberUnit e = true := by
      intro e he
      rcases List.mem_append.1 he with he | he
      · rcases Double.pointText_units hlt he with rfl | ⟨k, hk, rfl⟩
        · decide
        · exact (digitUnit_number hk).1
      · cases expo with
        | none => exact absurd he (by simp [Double.exponentText])
        | some k =>
          rcases List.mem_cons.1 he with rfl | he
          · decide
          · exact intText_number he
    have hfloat : (Double.pointText (d :: ds) frac ++ Double.exponentText expo).any isFloatUnit =
        true := by
      rw [List.any_eq_true]
      exact ⟨unit '.', by simp [Double.pointText], by decide⟩
    have hvalue : numberValue (Double.text (.finite negative x))
        ((Double.pointText (d :: ds) frac ++ Double.exponentText expo).any isFloatUnit) =
          .ok (.double (.finite negative x)) := by
      rw [hfloat, numberValue, if_pos rfl, Double.parseDouble_text]
    rw [htext] at hvalue ⊢
    rw [hbody] at hnumber hvalue ⊢
    exact readNumber_write text negative hnumber (digitUnit_number hd).2.2 hc hvalue

/-! ### Values -/

mutual

/-- **What the writer is promised for**: no list, doubles that are finite, and maps whose
keys do not repeat. -/
def Plain : Value → Prop
  | .double d => ∃ negative x, d = .finite negative x
  | .map entries => (entries.map Prod.fst).Nodup ∧ PlainEntries entries
  | .list _ => False
  | _ => True

def PlainEntries : List (JString × Value) → Prop
  | [] => True
  | (_, value) :: rest => Plain value ∧ PlainEntries rest

end

theorem skipWhitespace_cons {c : UInt16} (h : isWhitespace c = false) (rest : JString) :
    skipWhitespace (c :: rest) = c :: rest :=
  List.dropWhile_cons_of_neg (by simp [h])

/-- The first unit of a number, and how `readValue` takes it. -/
def NumberHead (w : JString) : Prop :=
  ∃ c rest, w = c :: rest ∧ isWhitespace c = false ∧ c ≠ unit '{' ∧ c ≠ unit '[' ∧
    c ≠ unit '"' ∧ (c = unit '-' ∨ isDigit c = true)

theorem numberHead_digit {d : Nat} (h : d < 10) (negative : Bool) (rest : JString) :
    NumberHead ((if negative then [unit '-'] else []) ++ digitUnit d :: rest) := by
  have htable : ∀ d < 10, isWhitespace (digitUnit d) = false ∧ digitUnit d ≠ unit '{' ∧
      digitUnit d ≠ unit '[' ∧ digitUnit d ≠ unit '"' ∧
        (digitUnit d = unit '-' ∨ isDigit (digitUnit d) = true) := by decide +kernel
  cases negative with
  | true => exact ⟨unit '-', digitUnit d :: rest, rfl, by decide⟩
  | false => exact ⟨digitUnit d, rest, rfl, htable d h⟩

theorem numberHead_long (n : Int64) : NumberHead (Long.text n) := by
  obtain ⟨d, ds, hdigits, hd, -⟩ := digits_cons n.toInt.natAbs
  have := numberHead_digit hd (decide (n.toInt < 0)) ds
  rw [Long.text, intText, hdigits]
  simpa using this

theorem numberHead_double (negative : Bool) (x : Numeric.Magnitude binary64) :
    NumberHead (Double.text (.finite negative x)) := by
  obtain ⟨whole, frac, expo, htext, hne, hlt, -⟩ := Double.text_finite negative x
  cases whole with
  | nil => exact absurd rfl hne
  | cons d ds =>
    rw [htext]
    exact numberHead_digit (hlt d List.mem_cons_self) negative _

/-- A value that starts like a number is read as one. -/
theorem readValue_number {w : JString} (h : NumberHead w) (fuel : Nat) (rest : JString) :
    readValue text (fuel + 1) (w ++ rest) = readNumber text (w ++ rest) := by
  obtain ⟨c, cs, rfl, -, hobject, harray, hquote, hnumber⟩ := h
  rw [readValue]
  simp only [List.cons_append, peek]
  exact (if_neg hobject).trans ((if_neg harray).trans ((if_neg hquote).trans (if_pos hnumber)))

theorem readValue_string (s : JString) (fuel : Nat) (rest : JString) :
    readValue text (fuel + 1) (writeString s ++ rest) = .ok (.string s, rest) := by
  have hread := readString_write text s rest
  rw [writeString, List.cons_append] at hread ⊢
  rw [readValue]
  simp only [peek, hread]
  rfl

theorem readValue_bool (b : Bool) (fuel : Nat) (rest : JString) :
    readValue text (fuel + 1) (units (if b then "true" else "false") ++ rest) = .ok (.bool b, rest) := by
  cases b <;> rfl

theorem readValue_null (fuel : Nat) (rest : JString) :
    readValue text (fuel + 1) (units "null" ++ rest) = .ok (.null, rest) := rfl

theorem readValue_object {fuel : Nat} {rest tail : JString} {entries : Entries}
    (h : readObject text fuel (unit '{' :: rest) = .ok (entries, tail)) :
    readValue text (fuel + 1) (unit '{' :: rest) = .ok (.map entries, tail) := by
  rw [readValue]
  simp only [peek, h]
  rfl

/-- A written value starts with no white space. -/
theorem writeValue_starts {v : Value} {w : JString} (hv : Plain v) (h : writeValue v = .ok w) :
    ∃ c rest, w = c :: rest ∧ isWhitespace c = false := by
  have hnumber : ∀ w, NumberHead w → ∃ c rest, w = c :: rest ∧ isWhitespace c = false := by
    rintro w ⟨c, rest, hw, hspace, -⟩
    exact ⟨c, rest, hw, hspace⟩
  cases v with
  | null =>
    rw [writeValue] at h
    rw [← Except.ok.inj h]
    exact ⟨_, _, rfl, by decide⟩
  | string s =>
    rw [writeValue] at h
    rw [← Except.ok.inj h]
    exact ⟨_, _, rfl, by decide⟩
  | long n =>
    rw [writeValue] at h
    rw [← Except.ok.inj h]
    exact hnumber _ (numberHead_long n)
  | double d =>
    obtain ⟨negative, x, rfl⟩ := hv
    rw [writeValue] at h
    rw [← Except.ok.inj h]
    exact hnumber _ (numberHead_double negative x)
  | bool b =>
    rw [writeValue] at h
    rw [← Except.ok.inj h]
    cases b
    · exact ⟨_, _, rfl, by decide⟩
    · exact ⟨_, _, rfl, by decide⟩
  | map entries =>
    rw [writeValue] at h
    cases hbody : writeEntries true entries with
    | error e =>
      rw [hbody] at h
      cases h
    | ok body =>
      rw [hbody] at h
      rw [← Except.ok.inj h]
      exact ⟨_, _, rfl, by decide⟩
  | list items => exact absurd hv (by simp [Plain])

/-! ### Objects -/

/-- What one turn of the loop reads, up to the unit behind the value. -/
theorem readEntries_turn {fuel : Nat} {result : Entries} {key w tail : JString} {value : Value}
    {c : UInt16} (hw : ∃ d rest, w = d :: rest ∧ isWhitespace d = false)
    (hread : readValue text fuel (w ++ c :: tail) = .ok (value, c :: tail))
    (hkey : key ∉ result.map Prod.fst) (hc : Ends c) :
    readEntries text (fuel + 1) result (writeString key ++ unit ':' :: (w ++ c :: tail)) =
      if c = unit ',' then readEntries text fuel (result ++ [(key, value)]) tail
      else .ok (result ++ [(key, value)], tail) := by
  obtain ⟨d, ds, rfl, hd⟩ := hw
  have hstring := readString_write text key (unit ':' :: (d :: ds ++ c :: tail))
  have hquote : skipWhitespace (writeString key ++ unit ':' :: (d :: ds ++ c :: tail)) =
      writeString key ++ unit ':' :: (d :: ds ++ c :: tail) :=
    skipWhitespace_cons (by decide) _
  have hcolon : skipWhitespace (unit ':' :: (d :: ds ++ c :: tail)) =
      unit ':' :: (d :: ds ++ c :: tail) := skipWhitespace_cons (by decide) _
  have hvalue : skipWhitespace (d :: ds ++ c :: tail) = d :: ds ++ c :: tail :=
    skipWhitespace_cons hd _
  have hnext : skipWhitespace (c :: tail) = c :: tail := by
    rcases hc with rfl | rfl
    · exact skipWhitespace_cons (by decide) _
    · exact skipWhitespace_cons (by decide) _
  have hcontains : (result.map Prod.fst).contains key = false := by
    rw [List.contains_eq_mem, decide_eq_false_iff_not]
    exact hkey
  rw [readEntries, hquote, hstring]
  simp only [bind, Except.bind, hcolon, expect, if_true, hvalue, hread, hcontains,
    Bool.false_eq_true, if_false, hnext, peek, List.drop_one, List.tail_cons]
  rcases hc with rfl | rfl
  · rfl
  · rfl

/-- An object is read by its loop, from behind its bracket. -/
theorem readObject_entries {fuel : Nat} {c : UInt16} {rest tail : JString} {entries : Entries}
    (hspace : isWhitespace c = false) (hc : c ≠ unit '}')
    (h : readEntries text fuel [] (c :: rest) = .ok (entries, tail)) :
    readObject text (fuel + 1) (unit '{' :: c :: rest) = .ok (entries, tail) := by
  rw [readObject]
  simp only [bind, Except.bind, expect, if_true, skipWhitespace_cons hspace, peek, if_neg hc]
  exact h

theorem readObject_nil (fuel : Nat) (tail : JString) :
    readObject text (fuel + 1) (unit '{' :: unit '}' :: tail) = .ok ([], tail) := by
  have hspace : isWhitespace (unit '}') = false := by decide
  rw [readObject]
  simp only [bind, Except.bind, expect, if_true, skipWhitespace_cons hspace, peek]
  rfl

/-- The parts of a written entry. -/
theorem writeEntries_cons {first : Bool} {key : JString} {value : Value} {rest : Entries}
    {body : JString} (h : writeEntries first ((key, value) :: rest) = .ok body) :
    ∃ w more, writeValue value = .ok w ∧ writeEntries false rest = .ok more ∧
      body = (if first then [] else [unit ',']) ++ (writeString key ++ unit ':' :: (w ++ more)) := by
  rw [writeEntries] at h
  cases hw : writeValue value with
  | error e =>
    rw [hw] at h
    cases h
  | ok w =>
    cases hmore : writeEntries false rest with
    | error e =>
      rw [hw, hmore] at h
      cases h
    | ok more =>
      rw [hw, hmore] at h
      exact ⟨w, more, rfl, rfl, (Except.ok.inj h).symm⟩

/-- Behind the first entry, the others stand with a comma in front. -/
theorem writeEntries_comma {e : JString × Value} {rest : Entries} {more : JString}
    (h : writeEntries false (e :: rest) = .ok more) :
    ∃ body, writeEntries true (e :: rest) = .ok body ∧ more = unit ',' :: body := by
  obtain ⟨key, value⟩ := e
  obtain ⟨w, more', hw, hmore, rfl⟩ := writeEntries_cons h
  refine ⟨writeString key ++ unit ':' :: (w ++ more'), ?_, rfl⟩
  rw [writeEntries, hw, hmore]
  rfl

/-- **An object is read back where its loop reads its entries back.** -/
theorem readObject_write {entries : Entries} {body : JString} {fuel : Nat} {tail : JString}
    (hbody : writeEntries true entries = .ok body)
    (h : entries ≠ [] →
      readEntries text fuel [] (body ++ unit '}' :: tail) = .ok (entries, tail)) :
    readObject text (fuel + 1) (unit '{' :: (body ++ unit '}' :: tail)) = .ok (entries, tail) := by
  cases entries with
  | nil =>
    rw [writeEntries] at hbody
    rw [← Except.ok.inj hbody]
    exact readObject_nil text fuel tail
  | cons e rest =>
    have hread := h (by simp)
    obtain ⟨w, more, -, -, rfl⟩ := writeEntries_cons hbody
    exact readObject_entries text (by decide) (by decide) hread

theorem length_writeString (s : JString) : 2 ≤ (writeString s).length := by
  rw [writeString, List.length_cons, List.length_append, List.length_singleton]
  omega

mutual

/-- **A value is read back**, up to the unit that ends it. -/
theorem readValue_write : ∀ {v : Value} {w : JString} {fuel : Nat} {c : UInt16} {tail : JString},
    Plain v → writeValue v = .ok w → 3 * w.length ≤ fuel → Ends c →
      readValue text fuel (w ++ c :: tail) = .ok (v, c :: tail)
  | v, w, 0, c, tail, hv, hw, hfuel, hc => by
      obtain ⟨d, rest, rfl, -⟩ := writeValue_starts hv hw
      rw [List.length_cons] at hfuel
      omega
  | .null, w, fuel + 1, c, tail, _, hw, _, _ => by
      rw [writeValue] at hw
      rw [← Except.ok.inj hw]
      exact readValue_null text fuel _
  | .string s, w, fuel + 1, c, tail, _, hw, _, _ => by
      rw [writeValue] at hw
      rw [← Except.ok.inj hw]
      exact readValue_string text s fuel _
  | .long n, w, fuel + 1, c, tail, _, hw, _, hc => by
      rw [writeValue] at hw
      rw [← Except.ok.inj hw, readValue_number text (numberHead_long n)]
      exact readNumber_long text n hc tail
  | .double d, w, fuel + 1, c, tail, hv, hw, _, hc => by
      obtain ⟨negative, x, rfl⟩ := hv
      rw [writeValue] at hw
      rw [← Except.ok.inj hw, readValue_number text (numberHead_double negative x)]
      exact readNumber_double text negative x hc tail
  | .bool b, w, fuel + 1, c, tail, _, hw, _, _ => by
      rw [writeValue] at hw
      rw [← Except.ok.inj hw]
      exact readValue_bool text b fuel _
  | .map entries, w, fuel + 1, c, tail, hv, hw, hfuel, _ => by
      rw [Plain] at hv
      rw [writeValue] at hw
      cases hbody : writeEntries true entries with
      | error e =>
        rw [hbody] at hw
        cases hw
      | ok body =>
        rw [hbody] at hw
        obtain rfl : unit '{' :: (body ++ [unit '}']) = w := Except.ok.inj hw
        rw [List.length_cons, List.length_append, List.length_singleton] at hfuel
        rw [List.cons_append, List.append_assoc, List.singleton_append]
        refine readValue_object text ?_
        obtain ⟨f, rfl⟩ : ∃ f, fuel = f + 1 := ⟨fuel - 1, by omega⟩
        exact readObject_write text hbody fun hne =>
          readEntries_write hne hv.2 hv.1 hbody (by omega)
  | .list items, w, fuel + 1, c, tail, hv, _, _, _ => absurd hv (by simp [Plain])

/-- **The entries of an object are read back**, behind what has been put already. -/
theorem readEntries_write : ∀ {entries result : Entries} {body : JString} {fuel : Nat}
    {tail : JString}, entries ≠ [] → PlainEntries entries →
      ((result ++ entries).map Prod.fst).Nodup → writeEntries true entries = .ok body →
        3 * body.length ≤ fuel →
          readEntries text fuel result (body ++ unit '}' :: tail) = .ok (result ++ entries, tail)
  | [], _, _, _, _, hne, _, _, _, _ => absurd rfl hne
  | (key, value) :: rest, result, body, fuel, tail, _, hplain, hnodup, hbody, hfuel => by
      rw [PlainEntries] at hplain
      obtain ⟨w, more, hw, hmore, rfl⟩ := writeEntries_cons hbody
      have hlength := length_writeString key
      rw [if_pos rfl, List.nil_append, List.length_append, List.length_cons, List.length_append]
        at hfuel
      obtain ⟨f, rfl⟩ : ∃ f, fuel = f + 1 := ⟨fuel - 1, by omega⟩
      have hkey : key ∉ result.map Prod.fst := by
        rw [List.map_append, List.map_cons, List.nodup_append] at hnodup
        exact fun hmem => hnodup.2.2 key hmem key List.mem_cons_self rfl
      have hstarts := writeValue_starts hplain.1 hw
      rw [if_pos rfl, List.nil_append, List.append_assoc, List.cons_append, List.append_assoc]
      cases rest with
      | nil =>
        rw [writeEntries] at hmore
        rw [← Except.ok.inj hmore, List.nil_append]
        have hread := @readValue_write value w f (unit '}') tail hplain.1 hw (by omega) (.inr rfl)
        rw [readEntries_turn text hstarts hread hkey (.inr rfl), if_neg (by decide)]
      | cons e rest =>
        obtain ⟨body, hrest, rfl⟩ := writeEntries_comma hmore
        rw [List.length_cons] at hfuel
        have hread := @readValue_write value w f (unit ',') (body ++ unit '}' :: tail) hplain.1 hw
          (by omega) (.inl rfl)
        have hnodup' : ((result ++ [(key, value)] ++ e :: rest).map Prod.fst).Nodup := by
          rwa [List.append_assoc]
        rw [List.cons_append, readEntries_turn text hstarts hread hkey (.inl rfl), if_pos rfl,
          readEntries_write (by simp) hplain.2 hnodup' hrest (by omega), List.append_assoc]
        rfl

end

mutual

/-- What the writer is promised for it writes. -/
theorem writeValue_ok : ∀ {v : Value}, Plain v → ∃ w, writeValue v = .ok w
  | .null, _ => ⟨_, rfl⟩
  | .string _, _ => ⟨_, rfl⟩
  | .long _, _ => ⟨_, rfl⟩
  | .double _, _ => ⟨_, rfl⟩
  | .bool _, _ => ⟨_, rfl⟩
  | .map entries, h => by
      rw [Plain] at h
      obtain ⟨body, hbody⟩ := @writeEntries_ok entries true h.2
      rw [writeValue, hbody]
      exact ⟨_, rfl⟩
  | .list _, h => absurd h (by simp [Plain])

theorem writeEntries_ok : ∀ {entries : Entries} {first : Bool}, PlainEntries entries →
    ∃ body, writeEntries first entries = .ok body
  | [], _, _ => ⟨_, rfl⟩
  | (key, value) :: rest, first, h => by
      rw [PlainEntries] at h
      obtain ⟨w, hw⟩ := writeValue_ok h.1
      obtain ⟨more, hmore⟩ := @writeEntries_ok rest false h.2
      rw [writeEntries, hw, hmore]
      exact ⟨_, rfl⟩

end

/-- **What is written of a map is parsed as that map**, for a map of strings, longs, finite
doubles, booleans, `null` and such maps to any depth. -/
theorem parseObject_writeObject (entries : Entries) (h : Plain (.map entries)) :
    ∃ text, writeObject entries = .ok text ∧ parseObject text = .ok entries := by
  obtain ⟨text, htext⟩ := writeValue_ok h
  refine ⟨text, htext, ?_⟩
  rw [Plain] at h
  rw [writeValue] at htext
  cases hbody : writeEntries true entries with
  | error e =>
    rw [hbody] at htext
    cases htext
  | ok body =>
    rw [hbody] at htext
    obtain rfl : unit '{' :: (body ++ [unit '}']) = text := Except.ok.inj htext
    have hskip : skipWhitespace (unit '{' :: (body ++ [unit '}'])) =
        unit '{' :: (body ++ [unit '}']) := skipWhitespace_cons (by decide) _
    have hread := @readObject_write (unit '{' :: (body ++ [unit '}'])) entries body
      (3 * (unit '{' :: (body ++ [unit '}'])).length + 2) [] hbody fun hne =>
        readEntries_write _ hne h.2 h.1 hbody (by
          rw [List.length_cons, List.length_append, List.length_singleton]
          omega)
    rw [parseObject, hskip, hread]
    rfl

/-- An event payload with a text of control characters and half a surrogate pair, the least
`long` and the least double below zero. -/
def samplePayload : Entries :=
  [(units "table", .string (units "C_Order")),
    (units "note\t", .string [unit '"', unit '\\', 0, 0x1F, 0xD83D]),
    (units "keys", .map [(units "record_id", .long Int64.minValue),
      (units "rate", .double (.finite true ⟨1, -1074, by decide, by decide, by decide, .inr rfl⟩)),
      (units "active", .bool true), (units "error", .null), (units "more", .map [])])]

theorem samplePayload_parsed :
    ∃ text, writeObject samplePayload = .ok text ∧ parseObject text = .ok samplePayload :=
  parseObject_writeObject samplePayload (by
    simp only [samplePayload, Plain, PlainEntries, and_true, true_and]
    exact ⟨by decide, by decide, ⟨true, _, rfl⟩, by decide⟩)

end MinimalJson
end BaobabErp
