/-
# The filter of a list request

`build_filter` and `Eq` of `modules/integration/idempiere_client.py`, and how the
REST plugin reads what it builds: words separated by blanks, string literals between
single quotes with a quote inside written twice, `and` between comparisons.

**The reading gives back the conditions the filter was built from**
(`readFilter_buildFilter`), whatever quotes, keywords, blanks or parentheses a value
holds; so two sequences of conditions never have one filter text, and a number, a
truth value and a string that are spelled alike are told apart.
-/

import BaobabErp.Lexing.Tokens
import BaobabErp.Python.Dumps

namespace BaobabErp
namespace RestQuery

open Python Lexing

/-! ### Building -/

/-- `int | bool | str`. -/
inductive Value
  | int (n : Int)
  | bool (b : Bool)
  | str (s : String)
deriving DecidableEq

/-- `Eq`: one `column eq value` condition. -/
structure Eq where
  column : String
  value : Value
deriving DecidableEq

/-- What `build_filter` raises, a `ValueError` each time. -/
inductive FilterError
  /-- `not a column name: `, with the column's `repr`. -/
  | column (name : String)
  /-- `control characters are not allowed in a filter value`. -/
  | controlCharacter
  /-- `str(value)` of an integer of more than 4300 digits. -/
  | integerText
deriving DecidableEq

/-- `_IDENTIFIER.fullmatch(text)`. -/
def isIdentifier (text : String) : Bool :=
  match text.toList with
  | [] => false
  | c :: cs => (isAsciiUpper c || isAsciiLower c) && cs.all fun d => isAsciiAlnum d || d == '_'

/-- `value.replace("'", "''")`. -/
def escaped (cs : List Char) : List Char :=
  cs.flatMap fun c => if c == '\'' then ['\'', '\''] else [c]

/-- `sys.get_int_max_str_digits()`. -/
def maxStrDigits : Nat := 4300

/-- `rendered`. -/
def rendered : Value → Except FilterError (List Char)
  | .bool b => .ok (if b then "true" else "false").toList
  | .int n =>
    if maxStrDigits < (Nat.toDigits 10 n.natAbs).length then .error .integerText
    else .ok (toString n).toList
  | .str s =>
    if s.toList.any fun c => c.toNat < 32 then .error .controlCharacter
    else .ok ('\'' :: (escaped s.toList ++ ['\'']))

/-- One part of the filter. -/
def part (condition : Eq) : Except FilterError (List Char) := do
  if !isIdentifier condition.column then
    throw (.column condition.column)
  let value ← rendered condition.value
  return condition.column.toList ++ (" eq ".toList ++ value)

/-- `parts`: the conditions in order, up to the first that is refused. -/
def parts : List Eq → Except FilterError (List (List Char))
  | [] => .ok []
  | condition :: conditions => do
    let first ← part condition
    let rest ← parts conditions
    return first :: rest

/-- `" and ".join(parts)`. -/
def joined : List (List Char) → List Char
  | [] => []
  | [p] => p
  | p :: ps => p ++ (" and ".toList ++ joined ps)

/-- `build_filter`. -/
def buildFilter (conditions : List Eq) : Except FilterError String := do
  return String.ofList (joined (← parts conditions))

/-! ### Reading -/

/-- The characters of OData: a blank separates, a single quote delimits, parentheses
and commas stand alone. -/
def odata : Alphabet Char where
  separator := ' '
  quote := '\''
  isMark c := c == '(' || c == ')' || c == ','
  separator_ne_quote := by decide

/-- One comparison of a filter. -/
structure Comparison where
  column : String
  operator : String
  value : Value
deriving DecidableEq

/-- Digits as a number. -/
def readNat (cs : List Char) : Option Nat :=
  if cs ≠ [] ∧ cs.all Char.isDigit then some (Nat.ofDigitChars 10 cs 0) else none

/-- An integer literal. -/
def readInt : List Char → Option Int
  | '-' :: cs => (readNat cs).map fun n => -Int.ofNat n
  | cs => (readNat cs).map Int.ofNat

/-- The value a token is. -/
def readValue : Token Char → Option Value
  | .literal cs => some (.str (String.ofList cs))
  | .word cs =>
    if cs = "true".toList then some (.bool true)
    else if cs = "false".toList then some (.bool false)
    else (readInt cs).map .int
  | .mark _ => none

/-- Comparisons with `and` between them. -/
def readComparisons : List (Token Char) → Option (List Comparison)
  | [.word column, .word operator, value] =>
    (readValue value).map fun v => [⟨String.ofList column, String.ofList operator, v⟩]
  | .word column :: .word operator :: value :: .word connective :: rest =>
    if connective = "and".toList then
      (readValue value).bind fun v =>
        (readComparisons rest).map (⟨String.ofList column, String.ofList operator, v⟩ :: ·)
    else none
  | _ => none

/-- **A filter, as it is read.** -/
def readFilter (text : String) : Option (List Comparison) :=
  (tokens odata text.toList).bind readComparisons

/-- What a condition says. -/
def Eq.comparison (condition : Eq) : Comparison := ⟨condition.column, "eq", condition.value⟩

/-! ### The tokens of a filter -/

/-- The token a value is written as. -/
def Value.token : Value → Token Char
  | .int n => .word (toString n).toList
  | .bool b => .word (if b then "true" else "false").toList
  | .str s => .literal s.toList

/-- The tokens of one condition. -/
def Eq.tokens (condition : Eq) : List (Token Char) :=
  [.word condition.column.toList, .word "eq".toList, condition.value.token]

/-- The tokens of a sequence of conditions. -/
def filterTokens : List Eq → List (Token Char)
  | [] => []
  | [c] => c.tokens
  | c :: cs => c.tokens ++ .word "and".toList :: filterTokens cs

theorem escaped_eq (cs : List Char) : escaped cs = doubled odata cs := by
  induction cs with
  | nil => rfl
  | cons c cs ih =>
    have hcons : escaped (c :: cs) = (if c == '\'' then ['\'', '\''] else [c]) ++ escaped cs := rfl
    by_cases hc : c = '\''
    · subst hc
      rw [hcons, ih]
      rfl
    · have hq : c ≠ odata.quote := hc
      rw [hcons, ih, doubled, if_neg hq, if_neg (by simpa using hc)]
      rfl

theorem rendered_ok {v : Value} {cs : List Char} (h : rendered v = .ok cs) :
    cs = written odata v.token := by
  cases v with
  | bool b => exact (Except.ok.inj h).symm
  | int n =>
    rw [rendered] at h
    split_ifs at h
    exact (Except.ok.inj h).symm
  | str s =>
    rw [rendered] at h
    split_ifs at h
    rw [← Except.ok.inj h, escaped_eq]
    rfl

/-- An accepted condition has a plain column and a value with a text. -/
theorem part_ok {c : Eq} {cs : List Char} (h : part c = .ok cs) :
    isIdentifier c.column = true ∧ cs = spaced odata c.tokens := by
  cases hid : isIdentifier c.column with
  | false => simp [part, hid, throw, throwThe, MonadExceptOf.throw, bind, Except.bind] at h
  | true =>
    cases hv : rendered c.value with
    | error e => simp [part, hid, hv, bind, Except.bind] at h
    | ok value =>
      have hcs : c.column.toList ++ (" eq ".toList ++ value) = cs := by
        simpa [part, hid, hv, bind, Except.bind, pure, Except.pure] using h
      refine ⟨rfl, ?_⟩
      rw [← hcs, rendered_ok hv]
      rfl

theorem readNat_repr (n : Nat) : readNat (Nat.repr n).toList = some n := by
  have hdigits : (Nat.repr n).toList = Nat.toDigits 10 n := by
    rw [Nat.repr_eq_ofList_toDigits, String.toList_ofList]
  have hall : (Nat.toDigits 10 n).all Char.isDigit = true :=
    List.all_eq_true.2 fun _ hc => Nat.isDigit_of_mem_toDigits (by decide) (by decide) hc
  rw [hdigits, readNat, if_pos ⟨Nat.toDigits_ne_nil, hall⟩, Nat.ofDigitChars_ten_toDigits]

/-- A number is read from its text. -/
theorem readInt_toString (n : Int) : readInt (toString n).toList = some n := by
  cases n with
  | ofNat m =>
    have htext : (toString (Int.ofNat m)).toList = (Nat.repr m).toList := rfl
    have hsign : ∀ cs, (Nat.repr m).toList ≠ '-' :: cs := by
      intro cs h
      have hmem : '-' ∈ (Nat.repr m).toList := h ▸ List.mem_cons_self ..
      rw [Nat.repr_eq_ofList_toDigits, String.toList_ofList] at hmem
      exact absurd (Nat.isDigit_of_mem_toDigits (by decide) (by decide) hmem) (by decide)
    have hread : readInt (Nat.repr m).toList = (readNat (Nat.repr m).toList).map Int.ofNat := by
      rw [readInt.eq_def]
      split
      · next cs h => exact absurd h (hsign cs)
      · rfl
    rw [htext, hread, readNat_repr, Option.map_some]
  | negSucc m =>
    have htext : (toString (Int.negSucc m)).toList = '-' :: (Nat.repr (m + 1)).toList := by
      have happ : toString (Int.negSucc m) = "-" ++ Nat.repr (m + 1) := rfl
      rw [happ, String.toList_append]
      rfl
    rw [htext, readInt, readNat_repr, Option.map_some]
    rfl

/-- A word of letters, digits, underscores or a sign. -/
theorem isPlain_of_word {c : Char}
    (h : isAsciiAlnum c = true ∨ c = '_' ∨ c = '-' ∨ c.isDigit = true) :
    odata.isPlain c = true := by
  have hchars : c ≠ ' ' ∧ c ≠ '\'' ∧ c ≠ '(' ∧ c ≠ ')' ∧ c ≠ ',' := by
    refine ⟨?_, ?_, ?_, ?_, ?_⟩ <;> rintro rfl <;> revert h <;> decide
  obtain ⟨hblank, hquote, hopen, hclose, hcomma⟩ := hchars
  exact isPlain_iff.2 ⟨hblank, hquote, by simp [odata, hopen, hclose, hcomma]⟩

theorem proper_column {text : String} (h : isIdentifier text = true) :
    Token.Proper odata (.word text.toList) := by
  cases hcs : text.toList with
  | nil => simp [isIdentifier, hcs] at h
  | cons c cs =>
    simp only [isIdentifier, hcs, Bool.and_eq_true, Bool.or_eq_true, List.all_eq_true,
      beq_iff_eq] at h
    refine ⟨List.cons_ne_nil _ _, fun d hd => isPlain_of_word ?_⟩
    rcases List.mem_cons.1 hd with rfl | hd
    · exact .inl (by simp [isAsciiAlnum, h.1])
    · exact (h.2 d hd).imp_right .inl

theorem proper_value (v : Value) : v.token.Proper odata := by
  cases v with
  | int n =>
    refine ⟨fun hnil => ?_, fun c hc => isPlain_of_word ?_⟩
    · have hread := readInt_toString n
      rw [hnil] at hread
      simp [readInt, readNat] at hread
    · exact .inr (.inr (Json.toString_int_mem hc))
  | bool b => cases b <;> exact ⟨by decide, List.all_eq_true.1 (by decide)⟩
  | str s => trivial

/-- The tokens of conditions whose columns are identifiers read as themselves. -/
theorem proper_filterTokens {cs : List Eq} (h : ∀ c ∈ cs, isIdentifier c.column = true) :
    ∀ t ∈ filterTokens cs, t.Proper odata := by
  have hone : ∀ c ∈ cs, ∀ t ∈ c.tokens, t.Proper odata := by
    intro c hc t ht
    simp only [Eq.tokens, List.mem_cons, List.not_mem_nil, or_false] at ht
    rcases ht with rfl | rfl | rfl
    · exact proper_column (h c hc)
    · exact ⟨by decide, List.all_eq_true.1 (by decide)⟩
    · exact proper_value _
  induction cs with
  | nil => intro t ht; simp [filterTokens] at ht
  | cons c cs ih =>
    cases cs with
    | nil => exact hone c (List.mem_cons_self ..)
    | cons d ds =>
      intro t ht
      rcases List.mem_append.1 ht with ht | ht
      · exact hone c (List.mem_cons_self ..) t ht
      rcases List.mem_cons.1 ht with rfl | ht
      · exact ⟨by decide, List.all_eq_true.1 (by decide)⟩
      · exact ih (fun e he => h e (List.mem_cons_of_mem _ he))
          (fun e he => hone e (List.mem_cons_of_mem _ he)) t ht

theorem filterTokens_ne_nil (c : Eq) (cs : List Eq) : filterTokens (c :: cs) ≠ [] := by
  cases cs <;> simp [filterTokens, Eq.tokens]

/-- **The text of a filter is its tokens, with blanks between them.** -/
theorem parts_ok : ∀ {cs : List Eq} {ps : List (List Char)}, parts cs = .ok ps →
    (∀ c ∈ cs, isIdentifier c.column = true) ∧ joined ps = spaced odata (filterTokens cs) ∧
      ps.length = cs.length
  | [], ps, h => by
    obtain rfl := Except.ok.inj h
    exact ⟨fun _ hc => absurd hc List.not_mem_nil, rfl, rfl⟩
  | c :: cs, ps, h => by
    cases hp : part c with
    | error e => simp [parts, hp, bind, Except.bind] at h
    | ok p =>
      cases hps : parts cs with
      | error e => simp [parts, hp, hps, bind, Except.bind] at h
      | ok qs =>
        obtain rfl : p :: qs = ps := by
          simpa [parts, hp, hps, bind, Except.bind, pure, Except.pure] using h
        obtain ⟨hid, htext⟩ := part_ok hp
        obtain ⟨hids, hjoined, hlength⟩ := parts_ok hps
        refine ⟨fun d hd => ?_, ?_, congrArg (· + 1) hlength⟩
        · rcases List.mem_cons.1 hd with rfl | hd
          · exact hid
          · exact hids d hd
        · match cs, qs, hlength with
          | [], [], _ => exact htext
          | d :: ds, q :: qs, _ =>
            have hrest : filterTokens (d :: ds) ≠ [] := filterTokens_ne_nil d ds
            have hand : joined (p :: q :: qs) = p ++ (" and ".toList ++ joined (q :: qs)) := rfl
            have htokens : filterTokens (c :: d :: ds) =
                c.tokens ++ ([.word "and".toList] ++ filterTokens (d :: ds)) := rfl
            rw [hand, htext, hjoined, htokens, spaced_append (by simp [Eq.tokens]) (by simp),
              spaced_append (by simp) hrest]
            rfl

/-! ### What is read back -/

theorem readValue_token (v : Value) : readValue v.token = some v := by
  cases v with
  | int n =>
    obtain ⟨-, htrue, hfalse⟩ := Json.toString_int_ne_keyword n
    have ht : (toString n).toList ≠ "true".toList := fun h => htrue (String.toList_injective h)
    have hf : (toString n).toList ≠ "false".toList := fun h => hfalse (String.toList_injective h)
    rw [Value.token, readValue, if_neg ht, if_neg hf, readInt_toString, Option.map_some]
  | bool b => cases b <;> rfl
  | str s => simp [Value.token, readValue]

/-- The tokens of a non-empty sequence of conditions say what the conditions say. -/
theorem readComparisons_filterTokens (c : Eq) (cs : List Eq) :
    readComparisons (filterTokens (c :: cs)) = some ((c :: cs).map Eq.comparison) := by
  induction cs generalizing c with
  | nil =>
    simp only [filterTokens, Eq.tokens, readComparisons, readValue_token, Option.map_some,
      String.ofList_toList, List.map_cons, List.map_nil, Eq.comparison]
  | cons d ds ih =>
    have htokens : filterTokens (c :: d :: ds) = .word c.column.toList :: .word "eq".toList ::
        c.value.token :: .word "and".toList :: filterTokens (d :: ds) := rfl
    rw [htokens, readComparisons, if_pos rfl, readValue_token, ih]
    simp only [Option.bind_some, Option.map_some, String.ofList_toList, List.map_cons,
      Eq.comparison]

/-- **A filter is read as the conditions it was built from.** -/
theorem readFilter_buildFilter {conditions : List Eq} {text : String} (hne : conditions ≠ [])
    (h : buildFilter conditions = .ok text) :
    readFilter text = some (conditions.map Eq.comparison) := by
  obtain ⟨c, cs, rfl⟩ := List.exists_cons_of_ne_nil hne
  cases hps : parts (c :: cs) with
  | error e => simp [buildFilter, hps, bind, Except.bind] at h
  | ok ps =>
    obtain rfl : String.ofList (joined ps) = text := by
      simpa [buildFilter, hps, bind, Except.bind, pure, Except.pure] using h
    obtain ⟨hids, hjoined, -⟩ := parts_ok hps
    rw [readFilter, String.toList_ofList, hjoined, scan_spaced (proper_filterTokens hids),
      Option.bind_some, readComparisons_filterTokens]

theorem comparison_injective : Function.Injective Eq.comparison := by
  intro c d h
  obtain ⟨hcolumn, -, hvalue⟩ := Comparison.mk.inj h
  cases c
  cases d
  simp_all

/-- **The text of a filter is read as exactly the conditions it was built from, and
no other conditions have it.** -/
theorem filter_injection_safe {conditions : List Eq} {text : String} (hne : conditions ≠ [])
    (h : buildFilter conditions = .ok text) :
    readFilter text = some (conditions.map Eq.comparison) ∧
      ∀ others : List Eq, others ≠ [] → buildFilter others = .ok text → others = conditions := by
  have hread := readFilter_buildFilter hne h
  refine ⟨hread, fun others hothers h' => ?_⟩
  have hsame := Option.some.inj ((readFilter_buildFilter hothers h').symm.trans hread)
  exact comparison_injective.list_map hsame

/-- A value that closes its quotes and goes on as a filter is still one string. -/
theorem filter_injection_safe_quotes :
    readFilter "Name eq 'x'' or 1 eq 1 or Name eq ''y' and IsSOTrx eq true" =
      some [⟨"Name", "eq", .str "x' or 1 eq 1 or Name eq 'y"⟩, ⟨"IsSOTrx", "eq", .bool true⟩] :=
  (@filter_injection_safe
    [⟨"Name", .str "x' or 1 eq 1 or Name eq 'y"⟩, ⟨"IsSOTrx", .bool true⟩] _
    (List.cons_ne_nil _ _) (by decide +kernel)).1

end RestQuery
end BaobabErp
