/-
# `json.dumps(value, ensure_ascii=False)`

The same text as `dumps`, except that only quotes, backslashes and control characters
are escaped.  Escaping the rest gives the text of `dumps` (`escape_encodeUnicode`), so
this text determines the document as well.
-/

import BaobabErp.Python.Dumps

namespace BaobabErp
namespace Python

/-- One character of a JSON text. -/
def unicodeChar (c : Char) : List Char :=
  match shortEscape c with
  | some x => ['\\', x]
  | none => if c.toNat < 32 then unitEscape c.toNat else [c]

/-- A JSON text after its opening quote. -/
def unicodeRest : List Char → List Char
  | [] => ['"']
  | c :: cs => unicodeChar c ++ unicodeRest cs

/-- A JSON text. -/
def quoteUnicode (s : String) : List Char := '"' :: unicodeRest s.toList

/-- What `ensure_ascii` makes of a character of the text. -/
def toAscii (c : Char) : List Char := if c.toNat ≤ 126 then [c] else escapeChar c

theorem flatMap_toAscii {cs : List Char} (h : ∀ c ∈ cs, c.toNat ≤ 126) : cs.flatMap toAscii = cs := by
  induction cs with
  | nil => rfl
  | cons c cs ih =>
    rw [List.flatMap_cons, toAscii, if_pos (h c List.mem_cons_self),
      ih fun d hd => h d (List.mem_cons_of_mem _ hd)]
    rfl

theorem hexText_ascii {k n : Nat} : ∀ c ∈ hexText k n, c.toNat ≤ 126 := by
  have hdigit : ∀ m < 16, (hexDigit m).toNat ≤ 126 := by decide
  induction k generalizing n with
  | zero => simp [hexText]
  | succ k ih =>
    intro c hc
    rw [hexText] at hc
    rcases List.mem_append.1 hc with hc | hc
    · exact ih c hc
    · rw [List.mem_singleton.1 hc]
      exact hdigit _ (Nat.mod_lt _ (by omega))

theorem flatMap_unicodeChar (c : Char) : (unicodeChar c).flatMap toAscii = escapeChar c := by
  unfold unicodeChar
  cases hs : shortEscape c with
  | some x =>
    have hx : x.toNat ≤ 126 := by
      unfold shortEscape at hs
      split_ifs at hs <;> obtain rfl := Option.some.inj hs <;> decide
    rw [escapeChar, hs]
    exact flatMap_toAscii (by simpa using hx)
  | none =>
    dsimp only
    split_ifs with hlow
    · have hunit : escapeChar c = unitEscape c.toNat := by
        rw [escapeChar, hs]
        dsimp only
        rw [if_neg (by omega), if_pos (by omega)]
      rw [hunit]
      refine flatMap_toAscii fun d hd => ?_
      rcases List.mem_cons.1 hd with rfl | hd
      · decide
      rcases List.mem_cons.1 hd with rfl | hd
      · decide
      · exact hexText_ascii d hd
    · rw [List.flatMap_singleton, toAscii]
      split_ifs with hascii
      · rw [escapeChar, hs]
        dsimp only
        rw [if_pos (by omega)]
      · rfl

theorem flatMap_quoteUnicode (s : String) : (quoteUnicode s).flatMap toAscii = quote s := by
  have hrest : ∀ cs : List Char, (unicodeRest cs).flatMap toAscii = escapeRest cs := by
    intro cs
    induction cs with
    | nil => rfl
    | cons c cs ih => rw [unicodeRest, escapeRest, List.flatMap_append, flatMap_unicodeChar, ih]
  rw [quoteUnicode, quote, List.flatMap_cons, hrest]
  rfl

namespace Json

mutual

/-- The compact text of a document. -/
def encodeUnicode : Json → List Char
  | null => "null".toList
  | bool b => if b then "true".toList else "false".toList
  | int n => (toString n).toList
  | float t => t.toList
  | str s => quoteUnicode s
  | arr [] => ['[', ']']
  | arr (x :: xs) => '[' :: (encodeUnicode x ++ encodeUnicodeItems xs)
  | obj [] => ['\x7b', '\x7d']
  | obj ((name, value) :: ms) =>
    '\x7b' :: (quoteUnicode name ++ ':' :: (encodeUnicode value ++ encodeUnicodeMembers ms))

def encodeUnicodeItems : List Json → List Char
  | [] => [']']
  | x :: xs => ',' :: (encodeUnicode x ++ encodeUnicodeItems xs)

def encodeUnicodeMembers : List (String × Json) → List Char
  | [] => ['\x7d']
  | (name, value) :: ms =>
    ',' :: (quoteUnicode name ++ ':' :: (encodeUnicode value ++ encodeUnicodeMembers ms))

end

/-- `json.dumps(value, sort_keys=True, separators=(",", ":"), ensure_ascii=False)`. -/
def dumpsUnicode (value : Json) : String := String.ofList (encodeUnicode (sortKeys value))

/-- The text of a float as `json.dumps` writes it, in ASCII. -/
def AsciiFloat (t : String) : Prop := FloatText t ∧ ∀ c ∈ t.toList, c.toNat ≤ 126

theorem intText_ascii (n : Int) : ∀ c ∈ (toString n).toList, c.toNat ≤ 126 := by
  intro c hc
  rcases toString_int_mem hc with rfl | hc
  · decide
  · simp only [Char.isDigit, Bool.and_eq_true, decide_eq_true_eq] at hc
    have hle : c.toNat ≤ ('9' : Char).toNat := hc.2
    exact hle.trans (by decide)

theorem toAscii_of_le {c : Char} (h : c.toNat ≤ 126) (cs : List Char) :
    (c :: cs).flatMap toAscii = c :: cs.flatMap toAscii := by
  rw [List.flatMap_cons, toAscii, if_pos h]
  rfl

mutual

/-- **Escaping what is not in ASCII gives the text of `dumps`.** -/
theorem escape_encodeUnicode : ∀ {j : Json}, Floats AsciiFloat j →
    (encodeUnicode j).flatMap toAscii = encode j
  | null, _ => by decide
  | bool true, _ => by decide
  | bool false, _ => by decide
  | int n, _ => by
    rw [encodeUnicode, encode]
    exact flatMap_toAscii (intText_ascii n)
  | float t, h => by
    rw [encodeUnicode, encode]
    exact flatMap_toAscii h.2
  | str s, _ => by rw [encodeUnicode, encode, flatMap_quoteUnicode]
  | arr [], _ => by decide
  | arr (x :: xs), h => by
    rw [encodeUnicode, encode, toAscii_of_le (by decide), List.flatMap_append,
      escape_encodeUnicode h.1, escape_encodeUnicodeItems h.2]
  | obj [], _ => by decide
  | obj ((name, value) :: ms), h => by
    rw [encodeUnicode, encode, toAscii_of_le (by decide), List.flatMap_append, flatMap_quoteUnicode,
      toAscii_of_le (by decide), List.flatMap_append, escape_encodeUnicode h.1,
      escape_encodeUnicodeMembers h.2]

theorem escape_encodeUnicodeItems : ∀ {xs : List Json}, FloatsItems AsciiFloat xs →
    (encodeUnicodeItems xs).flatMap toAscii = encodeItems xs
  | [], _ => by decide
  | x :: xs, h => by
    rw [encodeUnicodeItems, encodeItems, toAscii_of_le (by decide), List.flatMap_append,
      escape_encodeUnicode h.1, escape_encodeUnicodeItems h.2]

theorem escape_encodeUnicodeMembers : ∀ {ms : List (String × Json)},
    FloatsMembers AsciiFloat ms → (encodeUnicodeMembers ms).flatMap toAscii = encodeMembers ms
  | [], _ => by decide
  | (name, value) :: ms, h => by
    rw [encodeUnicodeMembers, encodeMembers, toAscii_of_le (by decide), List.flatMap_append,
      flatMap_quoteUnicode, toAscii_of_le (by decide), List.flatMap_append,
      escape_encodeUnicode h.1, escape_encodeUnicodeMembers h.2]

end

/-- **The text determines the document**, up to the order of members. -/
theorem dumpsUnicode_injective {j k : Json} (hj : Floats AsciiFloat j) (hk : Floats AsciiFloat k)
    (h : dumpsUnicode j = dumpsUnicode k) : sortKeys j = sortKeys k := by
  have htext : encodeUnicode (sortKeys j) = encodeUnicode (sortKeys k) := String.ofList_inj.1 h
  refine dumps_injective (floats_mono (fun _ ht => ht.1) hj) (floats_mono (fun _ ht => ht.1) hk) ?_
  rw [dumps, dumps, ← escape_encodeUnicode (floats_sortKeys hj),
    ← escape_encodeUnicode (floats_sortKeys hk), htext]

end Json

end Python
end BaobabErp
