/-
# `json.dumps(value, sort_keys=True, separators=(",", ":"))`

The canonical text of a JSON document, as the digests are taken over it, and
that it determines the document: two documents with one text are the same up to
the order of members (`dumps_injective`), when their floats are texts
`json.dumps` can write (`Loaded`).

The injectivity is that of a prefix code.  A value followed by the end of the
text or by one of `,`, `]` and `}` is told apart from every other value so
followed (`encode_append_inj`), by induction on the first value.
-/

import BaobabErp.Python.Values
import Mathlib.Data.List.Sort
import Mathlib.Data.String.Basic

namespace BaobabErp
namespace Python

/-! ### Texts -/

/-- `\uXXXX` of a UTF-16 code unit. -/
def unitEscape (n : Nat) : List Char := '\\' :: 'u' :: hexText 4 n

/-- The escapes that have a letter. -/
def shortEscape (c : Char) : Option Char :=
  if c = '"' then some '"'
  else if c = '\\' then some '\\'
  else if c = '\n' then some 'n'
  else if c = '\r' then some 'r'
  else if c = '\t' then some 't'
  else if c.toNat = 8 then some 'b'
  else if c.toNat = 12 then some 'f'
  else none

/-- One character of a JSON text (`ensure_ascii`). -/
def escapeChar (c : Char) : List Char :=
  match shortEscape c with
  | some x => ['\\', x]
  | none =>
    if 32 ≤ c.toNat ∧ c.toNat ≤ 126 then [c]
    else if c.toNat < 65536 then unitEscape c.toNat
    else unitEscape (55296 + (c.toNat - 65536) / 1024) ++
      unitEscape (56320 + (c.toNat - 65536) % 1024)

/-- A JSON text after its opening quote. -/
def escapeRest : List Char → List Char
  | [] => ['"']
  | c :: cs => escapeChar c ++ escapeRest cs

/-- A JSON text. -/
def quote (s : String) : List Char := '"' :: escapeRest s.toList

/-! A text is a prefix code: the text a document starts with is determined. -/

theorem hexDigit_inj {m n : Nat} (hm : m < 16) (hn : n < 16) (h : hexDigit m = hexDigit n) :
    m = n := by
  have h' : ∀ a b : Fin 16, hexDigit a = hexDigit b → a = b := by decide
  exact congrArg Fin.val (h' ⟨m, hm⟩ ⟨n, hn⟩ h)

theorem length_hexText (k n : Nat) : (hexText k n).length = k := by
  induction k generalizing n with
  | zero => rfl
  | succ k ih => rw [hexText, List.length_append, ih, List.length_singleton]

theorem hexText_inj {k m n : Nat} (hm : m < 16 ^ k) (hn : n < 16 ^ k)
    (h : hexText k m = hexText k n) : m = n := by
  induction k generalizing m n with
  | zero => omega
  | succ k ih =>
    rw [hexText, hexText] at h
    obtain ⟨h₁, h₂⟩ := List.append_inj h (by rw [length_hexText, length_hexText])
    have hd := hexDigit_inj (Nat.mod_lt _ (by omega)) (Nat.mod_lt _ (by omega))
      (List.singleton_inj.1 h₂)
    rw [pow_succ] at hm hn
    have hq := ih (m := m / 16) (n := n / 16) (by omega) (by omega) h₁
    omega

theorem unitEscape_append_inj {m n : Nat} (hm : m < 65536) (hn : n < 65536) {r r' : List Char}
    (h : unitEscape m ++ r = unitEscape n ++ r') : m = n ∧ r = r' := by
  simp only [unitEscape, List.cons_append, List.cons.injEq, true_and] at h
  obtain ⟨h₁, h₂⟩ := List.append_inj h (by rw [length_hexText, length_hexText])
  exact ⟨hexText_inj (k := 4) (by omega) (by omega) h₁, h₂⟩

/-- The character a letter after a backslash stands for. -/
def letterEscape (x : Char) : Char :=
  if x = 'n' then '\n'
  else if x = 'r' then '\r'
  else if x = 't' then '\t'
  else if x = 'b' then Char.ofNat 8
  else if x = 'f' then Char.ofNat 12
  else x

theorem letterEscape_of_shortEscape {c x : Char} (h : shortEscape c = some x) :
    letterEscape x = c := by
  have hofNat : ∀ {n : Nat}, c.toNat = n → Char.ofNat n = c := fun h => by
    rw [← h, Char.ofNat_toNat]
  unfold shortEscape at h
  split_ifs at h with h₁ h₂ h₃ h₄ h₅ h₆ h₇ <;> obtain rfl := Option.some.inj h
  · exact h₁.symm
  · exact h₂.symm
  · exact h₃.symm
  · exact h₄.symm
  · exact h₅.symm
  · exact hofNat h₆
  · exact hofNat h₇

theorem shortEscape_inj {c d x : Char} (hc : shortEscape c = some x) (hd : shortEscape d = some x) :
    c = d := by
  rw [← letterEscape_of_shortEscape hc, letterEscape_of_shortEscape hd]

theorem shortEscape_ne {c x : Char} (h : shortEscape c = some x) : x ≠ 'u' := by
  rintro rfl
  unfold shortEscape at h
  split_ifs at h <;> exact absurd h (by decide)

/-- **The forms of an escaped character.** -/
theorem escapeChar_cases (c : Char) :
    (∃ x, shortEscape c = some x ∧ escapeChar c = ['\\', x]) ∨
    (c ≠ '"' ∧ c ≠ '\\' ∧ escapeChar c = [c]) ∨
    (c.toNat < 65536 ∧ (c.toNat < 55296 ∨ 57343 < c.toNat) ∧
      escapeChar c = unitEscape c.toNat) ∨
    (65536 ≤ c.toNat ∧ c.toNat < 1114112 ∧
      escapeChar c = unitEscape (55296 + (c.toNat - 65536) / 1024) ++
        unitEscape (56320 + (c.toNat - 65536) % 1024)) := by
  have hvalid : c.toNat < 55296 ∨ 57343 < c.toNat ∧ c.toNat < 1114112 := c.valid
  unfold escapeChar
  cases hs : shortEscape c with
  | some x => exact .inl ⟨x, rfl, rfl⟩
  | none =>
    dsimp only
    split_ifs with h₁ h₂
    · refine .inr (.inl ⟨?_, ?_, rfl⟩) <;> rintro rfl <;> exact absurd hs (by decide)
    · exact .inr (.inr (.inl ⟨h₂, by omega, rfl⟩))
    · exact .inr (.inr (.inr ⟨by omega, by omega, rfl⟩))

theorem escapeChar_append_inj {c d : Char} {r r' : List Char}
    (h : escapeChar c ++ r = escapeChar d ++ r') : c = d ∧ r = r' := by
  have hofNat : ∀ {m n : Char}, m.toNat = n.toNat → m = n := fun {m n} h => by
    rw [← Char.ofNat_toNat m, h, Char.ofNat_toNat]
  rcases escapeChar_cases c with ⟨x, hx, hc⟩ | ⟨hq, hb, hc⟩ | ⟨h1, h2, hc⟩ | ⟨h1, h2, hc⟩ <;>
    rcases escapeChar_cases d with ⟨y, hy, hd⟩ | ⟨hq', hb', hd⟩ | ⟨h1', h2', hd⟩ | ⟨h1', h2', hd⟩ <;>
    rw [hc, hd] at h
  · simp only [List.cons_append, List.nil_append, List.cons.injEq, true_and] at h
    obtain ⟨rfl, h⟩ := h
    exact ⟨shortEscape_inj hx hy, h⟩
  · simp only [List.cons_append, List.cons.injEq] at h
    exact absurd h.1.symm hb'
  · simp only [unitEscape, List.cons_append, List.cons.injEq, true_and] at h
    exact absurd h.1 (shortEscape_ne hx)
  · simp only [unitEscape, List.cons_append, List.cons.injEq, true_and] at h
    exact absurd h.1 (shortEscape_ne hx)
  · simp only [List.cons_append, List.cons.injEq] at h
    exact absurd h.1 hb
  · simp only [List.cons_append, List.nil_append, List.cons.injEq] at h
    exact h
  · simp only [unitEscape, List.cons_append, List.cons.injEq] at h
    exact absurd h.1 hb
  · simp only [unitEscape, List.cons_append, List.cons.injEq] at h
    exact absurd h.1 hb
  · simp only [unitEscape, List.cons_append, List.cons.injEq, true_and] at h
    exact absurd h.1.symm (shortEscape_ne hy)
  · simp only [unitEscape, List.cons_append, List.cons.injEq] at h
    exact absurd h.1.symm hb'
  · obtain ⟨hn, hr⟩ := unitEscape_append_inj h1 h1' h
    exact ⟨hofNat hn, hr⟩
  · rw [List.append_assoc] at h
    have := (unitEscape_append_inj h1 (by omega) h).1
    omega
  · simp only [unitEscape, List.cons_append, List.cons.injEq, true_and] at h
    exact absurd h.1.symm (shortEscape_ne hy)
  · simp only [unitEscape, List.cons_append, List.cons.injEq] at h
    exact absurd h.1.symm hb'
  · rw [List.append_assoc] at h
    have := (unitEscape_append_inj (by omega) h1' h).1
    omega
  · rw [List.append_assoc, List.append_assoc] at h
    obtain ⟨hhigh, h⟩ := unitEscape_append_inj (by omega) (by omega) h
    obtain ⟨hlow, hr⟩ := unitEscape_append_inj (by omega) (by omega) h
    exact ⟨hofNat (by omega), hr⟩

theorem escapeChar_ne_quote (c : Char) (r r' : List Char) : '"' :: r ≠ escapeChar c ++ r' := by
  intro h
  rcases escapeChar_cases c with ⟨x, -, hc⟩ | ⟨hq, -, hc⟩ | ⟨-, -, hc⟩ | ⟨-, -, hc⟩ <;>
    simp only [hc, unitEscape, List.cons_append, List.cons.injEq] at h
  · exact absurd h.1 (by decide)
  · exact hq h.1.symm
  · exact absurd h.1 (by decide)
  · exact absurd h.1 (by decide)

theorem escapeRest_append_inj : ∀ {cs ds r r' : List Char},
    escapeRest cs ++ r = escapeRest ds ++ r' → cs = ds ∧ r = r'
  | [], [], _, _, h => ⟨rfl, by simpa [escapeRest] using h⟩
  | [], d :: ds, r, r', h => by
      rw [escapeRest, escapeRest, List.append_assoc] at h
      exact absurd h (escapeChar_ne_quote d r _)
  | c :: cs, [], r, r', h => by
      rw [escapeRest, escapeRest, List.append_assoc] at h
      exact absurd h.symm (escapeChar_ne_quote c r' _)
  | c :: cs, d :: ds, _, _, h => by
      rw [escapeRest, escapeRest, List.append_assoc, List.append_assoc] at h
      obtain ⟨hc, htail⟩ := escapeChar_append_inj h
      obtain ⟨hcs, hr⟩ := escapeRest_append_inj htail
      exact ⟨by rw [hc, hcs], hr⟩

theorem quote_append_inj {s t : String} {r r' : List Char} (h : quote s ++ r = quote t ++ r') :
    s = t ∧ r = r' := by
  rw [quote, quote, List.cons_append, List.cons_append] at h
  obtain ⟨hs, h⟩ := escapeRest_append_inj (List.cons.inj h).2
  exact ⟨String.toList_inj.1 hs, h⟩

/-! ### Documents -/

namespace Json

mutual

/-- The compact text of a document. -/
def encode : Json → List Char
  | null => "null".toList
  | bool b => if b then "true".toList else "false".toList
  | int n => (toString n).toList
  | float t => t.toList
  | str s => quote s
  | arr [] => ['[', ']']
  | arr (x :: xs) => '[' :: (encode x ++ encodeItems xs)
  | obj [] => ['\x7b', '\x7d']
  | obj ((name, value) :: ms) =>
    '\x7b' :: (quote name ++ ':' :: (encode value ++ encodeMembers ms))

/-- The items after the first, and the closing bracket. -/
def encodeItems : List Json → List Char
  | [] => [']']
  | x :: xs => ',' :: (encode x ++ encodeItems xs)

/-- The members after the first, and the closing brace. -/
def encodeMembers : List (String × Json) → List Char
  | [] => ['\x7d']
  | (name, value) :: ms => ',' :: (quote name ++ ':' :: (encode value ++ encodeMembers ms))

end

mutual

/-- The document with the members of every object in the order of their names. -/
def sortKeys : Json → Json
  | arr xs => arr (sortItems xs)
  | obj ms => obj ((sortMembers ms).insertionSort fun m n => m.1 ≤ n.1)
  | value => value

def sortItems : List Json → List Json
  | [] => []
  | x :: xs => sortKeys x :: sortItems xs

def sortMembers : List (String × Json) → List (String × Json)
  | [] => []
  | (name, value) :: ms => (name, sortKeys value) :: sortMembers ms

end

/-- `json.dumps(value, sort_keys=True, separators=(",", ":"))`. -/
def dumps (value : Json) : String := String.ofList (encode (sortKeys value))

/-! ### The text of a document determines it -/

/-- A character no number or keyword has, and that may follow a value. -/
def isPunctuation (c : Char) : Bool :=
  c == ',' || c == ']' || c == '\x7d' || c == '"' || c == '[' || c == '\x7b'

/-- What can follow a value: the end, a comma or a closing bracket. -/
def Ends (r : List Char) : Prop := ∀ c cs, r = c :: cs → c = ',' ∨ c = ']' ∨ c = '\x7d'

/-- The texts `json.dumps` writes for a float: none of another document's. -/
def FloatText (t : String) : Prop :=
  t ≠ "" ∧ (∀ c ∈ t.toList, isPunctuation c = false) ∧
    t ≠ "null" ∧ t ≠ "true" ∧ t ≠ "false" ∧ ∀ n : Int, t ≠ toString n

mutual

/-- Every float of the document has a text that satisfies `p`. -/
def Floats (p : String → Prop) : Json → Prop
  | float t => p t
  | arr xs => FloatsItems p xs
  | obj ms => FloatsMembers p ms
  | _ => True

def FloatsItems (p : String → Prop) : List Json → Prop
  | [] => True
  | x :: xs => Floats p x ∧ FloatsItems p xs

def FloatsMembers (p : String → Prop) : List (String × Json) → Prop
  | [] => True
  | (_, value) :: ms => Floats p value ∧ FloatsMembers p ms

end

/-- A document with no float in it. -/
abbrev Plain : Json → Prop := Floats fun _ => False

/-- A document as `json.loads` returns it, as far as its floats go. -/
abbrev Loaded : Json → Prop := Floats FloatText

theorem toString_int_mem {n : Int} {c : Char} (h : c ∈ (toString n).toList) :
    c = '-' ∨ c.isDigit = true := by
  have hnat : ∀ {m : Nat}, c ∈ (Nat.repr m).toList → c.isDigit = true := fun h => by
    rw [Nat.repr_eq_ofList_toDigits, String.toList_ofList] at h
    exact Nat.isDigit_of_mem_toDigits (by decide) (by decide) h
  cases n with
  | ofNat m => exact .inr (hnat h)
  | negSucc m =>
    have h' : c ∈ ("-" ++ Nat.repr (m + 1)).toList := h
    rw [String.toList_append] at h'
    rcases List.mem_append.1 h' with h' | h'
    · exact .inl (List.mem_singleton.1 h')
    · exact .inr (hnat h')

theorem natRepr_injective {m n : Nat} (h : Nat.repr m = Nat.repr n) : m = n := by
  rw [Nat.repr_eq_ofList_toDigits, Nat.repr_eq_ofList_toDigits, String.ofList_inj] at h
  rw [← Nat.ofDigitChars_ten_toDigits (n := m), h, Nat.ofDigitChars_ten_toDigits]

theorem toString_int_injective {m n : Int} (h : toString m = toString n) : m = n := by
  have hminus : ∀ a b : Nat, Nat.repr a ≠ "-" ++ Nat.repr b := by
    intro a b h
    have hmem : '-' ∈ (Nat.repr a).toList := by
      rw [h, String.toList_append]
      exact List.mem_append_left _ (List.mem_singleton.2 rfl)
    rw [Nat.repr_eq_ofList_toDigits, String.toList_ofList] at hmem
    exact absurd (Nat.isDigit_of_mem_toDigits (by decide) (by decide) hmem) (by decide)
  cases m with
  | ofNat a =>
    cases n with
    | ofNat b => exact congrArg Int.ofNat (natRepr_injective h)
    | negSucc b => exact absurd h (hminus a (b + 1))
  | negSucc a =>
    cases n with
    | ofNat b => exact absurd h.symm (hminus b (a + 1))
    | negSucc b =>
      have h' : "-" ++ Nat.repr (a + 1) = "-" ++ Nat.repr (b + 1) := h
      have := natRepr_injective (String.append_right_inj _ |>.1 h')
      rw [show a = b by omega]

/-- The text of a number, a truth value or `null`. -/
def scalarText : Json → Option String
  | null => some "null"
  | bool b => some (if b then "true" else "false")
  | int n => some (toString n)
  | float t => some t
  | _ => none

theorem encode_of_scalarText {j : Json} {t : String} (h : scalarText j = some t) :
    encode j = t.toList := by
  cases j with
  | bool b =>
    obtain rfl := Option.some.inj h
    cases b <;> rfl
  | null => obtain rfl := Option.some.inj h; rfl
  | int n => obtain rfl := Option.some.inj h; rfl
  | float t => obtain rfl := Option.some.inj h; rfl
  | str _ => simp [scalarText] at h
  | arr _ => simp [scalarText] at h
  | obj _ => simp [scalarText] at h

theorem bare_of_all {t : String} (h : (t.toList.all fun c => !isPunctuation c) = true) :
    ∀ c ∈ t.toList, isPunctuation c = false := by
  intro c hc
  have := List.all_eq_true.1 h c hc
  rwa [Bool.not_eq_true'] at this

/-- A scalar's text is not empty and has no punctuation. -/
theorem scalarText_bare {j : Json} {t : String} (hj : Loaded j) (h : scalarText j = some t) :
    t ≠ "" ∧ ∀ c ∈ t.toList, isPunctuation c = false := by
  cases j with
  | bool b =>
    obtain rfl := Option.some.inj h
    cases b
    · exact ⟨by decide, bare_of_all (by decide)⟩
    · exact ⟨by decide, bare_of_all (by decide)⟩
  | null =>
    obtain rfl := Option.some.inj h
    exact ⟨by decide, bare_of_all (by decide)⟩
  | int n =>
    obtain rfl := Option.some.inj h
    refine ⟨?_, fun c hc => ?_⟩
    · intro hnil
      have hlen : 0 < (toString n).length := by
        cases n with
        | ofNat m => exact Nat.length_repr_pos
        | negSucc m =>
          show 0 < ("-" ++ Nat.repr (m + 1)).length
          rw [String.length_append]
          exact Nat.lt_of_lt_of_le (by decide) (Nat.le_add_right _ _)
      rw [hnil] at hlen
      exact absurd hlen (by decide)
    · unfold isPunctuation
      simp only [Bool.or_eq_false_iff, beq_eq_false_iff_ne, ne_eq]
      rcases toString_int_mem hc with rfl | hc
      · decide
      · refine ⟨⟨⟨⟨⟨?_, ?_⟩, ?_⟩, ?_⟩, ?_⟩, ?_⟩ <;> rintro rfl <;> exact absurd hc (by decide)
  | float t =>
    obtain rfl := Option.some.inj h
    exact ⟨hj.1, hj.2.1⟩
  | str _ => simp [scalarText] at h
  | arr _ => simp [scalarText] at h
  | obj _ => simp [scalarText] at h

theorem toString_int_ne_keyword (n : Int) :
    toString n ≠ "null" ∧ toString n ≠ "true" ∧ toString n ≠ "false" := by
  have hhead : ∀ c : Char, c ≠ '-' → c.isDigit = false → c ∉ (toString n).toList := by
    intro c h₁ h₂ hc
    rcases toString_int_mem hc with rfl | hc
    · exact h₁ rfl
    · rw [hc] at h₂
      exact absurd h₂ (by decide)
  refine ⟨?_, ?_, ?_⟩ <;> intro h
  · exact hhead 'n' (by decide) (by decide) (by rw [h]; decide)
  · exact hhead 't' (by decide) (by decide) (by rw [h]; decide)
  · exact hhead 'f' (by decide) (by decide) (by rw [h]; decide)

/-- Two scalars with one text are the same. -/
theorem scalarText_inj {j k : Json} {t : String} (hj : Loaded j) (hk : Loaded k)
    (h : scalarText j = some t) (h' : scalarText k = some t) : j = k := by
  have hkey := toString_int_ne_keyword
  cases j with
  | float u =>
    obtain rfl := Option.some.inj h
    cases k with
    | null => exact absurd (Option.some.inj h').symm hj.2.2.1
    | bool b =>
      cases b
      · exact absurd (Option.some.inj h').symm hj.2.2.2.2.1
      · exact absurd (Option.some.inj h').symm hj.2.2.2.1
    | int n => exact absurd (Option.some.inj h').symm (hj.2.2.2.2.2 n)
    | float v => rw [Option.some.inj h']
    | _ => simp [scalarText] at h'
  | str _ => simp [scalarText] at h
  | arr _ => simp [scalarText] at h
  | obj _ => simp [scalarText] at h
  | null =>
    obtain rfl := Option.some.inj h
    cases k with
    | null => rfl
    | bool b => cases b <;> exact absurd (Option.some.inj h') (by decide)
    | int n => exact absurd (Option.some.inj h') (hkey n).1
    | float u => exact absurd (Option.some.inj h') hk.2.2.1
    | _ => simp [scalarText] at h'
  | bool b =>
    obtain rfl := Option.some.inj h
    cases k with
    | null => cases b <;> exact absurd (Option.some.inj h') (by decide)
    | bool c =>
      cases b <;> cases c <;> first | rfl | exact absurd (Option.some.inj h') (by decide)
    | int n =>
      cases b
      · exact absurd (Option.some.inj h') (hkey n).2.2
      · exact absurd (Option.some.inj h') (hkey n).2.1
    | float u =>
      cases b
      · exact absurd (Option.some.inj h') hk.2.2.2.2.1
      · exact absurd (Option.some.inj h') hk.2.2.2.1
    | _ => simp [scalarText] at h'
  | int m =>
    obtain rfl := Option.some.inj h
    cases k with
    | null => exact absurd (Option.some.inj h').symm (hkey m).1
    | bool c =>
      cases c
      · exact absurd (Option.some.inj h').symm (hkey m).2.2
      · exact absurd (Option.some.inj h').symm (hkey m).2.1
    | int n => rw [toString_int_injective (Option.some.inj h')]
    | float u => exact absurd (Option.some.inj h') (hk.2.2.2.2.2 m)
    | _ => simp [scalarText] at h'

theorem bare_append_inj : ∀ {t u r r' : List Char}, (∀ c ∈ t, isPunctuation c = false) →
    (∀ c ∈ u, isPunctuation c = false) → Ends r → Ends r' → t ++ r = u ++ r' → t = u ∧ r = r'
  | [], [], _, _, _, _, _, _, h => ⟨rfl, h⟩
  | [], c :: u, r, r', _, hu, hr, _, h => by
      have hc := hu c List.mem_cons_self
      rcases hr c (u ++ r') h with rfl | rfl | rfl <;> exact absurd hc (by decide)
  | c :: t, [], r, r', ht, _, _, hr', h => by
      have hc := ht c List.mem_cons_self
      rcases hr' c (t ++ r) h.symm with rfl | rfl | rfl <;> exact absurd hc (by decide)
  | c :: t, d :: u, _, _, ht, hu, hr, hr', h => by
      obtain ⟨hc, htail⟩ := List.cons.inj h
      obtain ⟨htu, hrr⟩ := bare_append_inj (fun e he => ht e (List.mem_cons_of_mem _ he))
        (fun e he => hu e (List.mem_cons_of_mem _ he)) hr hr' htail
      exact ⟨by rw [hc, htu], hrr⟩

/-- The first character of a value: a scalar's is no punctuation, a text's, an
array's and an object's is their own. -/
theorem encode_head {j : Json} (hj : Loaded j) :
    (∃ t c cs, scalarText j = some t ∧ encode j = c :: cs ∧ isPunctuation c = false) ∨
    (∃ s, j = str s ∧ encode j = '"' :: escapeRest s.toList) ∨
    (∃ xs cs, j = arr xs ∧ encode j = '[' :: cs) ∨
    (∃ ms cs, j = obj ms ∧ encode j = '\x7b' :: cs) := by
  have hscalar : ∀ t, scalarText j = some t →
      ∃ t c cs, scalarText j = some t ∧ encode j = c :: cs ∧ isPunctuation c = false := by
    intro t ht
    obtain ⟨hne, hbare⟩ := scalarText_bare hj ht
    rw [encode_of_scalarText ht]
    cases htl : t.toList with
    | nil => exact absurd (String.toList_eq_nil_iff.1 htl) hne
    | cons c cs => exact ⟨t, c, cs, ht, rfl, hbare c (by rw [htl]; exact List.mem_cons_self)⟩
  cases j with
  | null => exact .inl (hscalar _ rfl)
  | bool b => exact .inl (hscalar _ rfl)
  | int n => exact .inl (hscalar _ rfl)
  | float t => exact .inl (hscalar _ rfl)
  | str s => exact .inr (.inl ⟨s, rfl, by rw [encode, quote]⟩)
  | arr xs =>
    cases xs with
    | nil => exact .inr (.inr (.inl ⟨[], [']'], rfl, by rw [encode]⟩))
    | cons x xs => exact .inr (.inr (.inl ⟨x :: xs, _, rfl, by rw [encode]⟩))
  | obj ms =>
    cases ms with
    | nil => exact .inr (.inr (.inr ⟨[], ['\x7d'], rfl, by rw [encode]⟩))
    | cons m ms =>
      obtain ⟨name, value⟩ := m
      exact .inr (.inr (.inr ⟨(name, value) :: ms, _, rfl, by rw [encode]⟩))

theorem encode_ne_closing {j : Json} (hj : Loaded j) (r r' : List Char) :
    encode j ++ r ≠ ']' :: r' := by
  intro h
  rcases encode_head hj with ⟨t, c, cs, -, he, hc⟩ | ⟨s, -, he⟩ | ⟨-, cs, -, he⟩ | ⟨-, cs, -, he⟩ <;>
    rw [he, List.cons_append] at h <;> have hc' := (List.cons.inj h).1
  · rw [hc'] at hc
    exact absurd hc (by decide)
  all_goals exact absurd hc' (by decide)

theorem floats_mono {p q : String → Prop} (h : ∀ t, p t → q t) :
    ∀ {j : Json}, Floats p j → Floats q j
  | float t, hj => h t hj
  | arr _, hj => items hj
  | obj _, hj => members hj
  | null, _ => trivial
  | bool _, _ => trivial
  | int _, _ => trivial
  | str _, _ => trivial
where
  items : ∀ {xs : List Json}, FloatsItems p xs → FloatsItems q xs
    | [], _ => trivial
    | _ :: _, hx => ⟨floats_mono h hx.1, items hx.2⟩
  members : ∀ {ms : List (String × Json)}, FloatsMembers p ms → FloatsMembers q ms
    | [], _ => trivial
    | (_, _) :: _, hm => ⟨floats_mono h hm.1, members hm.2⟩

/-- A plain document is one `json.loads` can return. -/
theorem Plain.loaded {j : Json} (h : Plain j) : Loaded j := floats_mono (fun _ h => h.elim) h

theorem scalar_append_inj {j k : Json} {t : String} {r r' : List Char} (hj : Loaded j)
    (hk : Loaded k) (ht : scalarText j = some t) (hr : Ends r) (hr' : Ends r')
    (h : encode j ++ r = encode k ++ r') : j = k ∧ r = r' := by
  -- the first character of a scalar opens no text, array or object
  have hopen : ∀ {c : Char} {cs : List Char}, isPunctuation c = true → encode k = c :: cs →
      False := by
    intro c cs hc he
    rcases encode_head hj with ⟨t', d, ds, -, hd, hpd⟩ | ⟨s, rfl, -⟩ | ⟨xs, _, rfl, -⟩ |
      ⟨ms, _, rfl, -⟩
    · rw [hd, he] at h
      rw [(List.cons.inj h).1, hc] at hpd
      exact absurd hpd (by decide)
    all_goals simp [scalarText] at ht
  rcases encode_head hk with ⟨t', -, -, ht', -, -⟩ | ⟨s, -, he⟩ | ⟨-, cs, -, he⟩ | ⟨-, cs, -, he⟩
  · rw [encode_of_scalarText ht, encode_of_scalarText ht'] at h
    obtain ⟨htt, hrr⟩ := bare_append_inj (scalarText_bare hj ht).2
      (scalarText_bare hk ht').2 hr hr' h
    rw [String.toList_inj.1 htt] at ht
    exact ⟨scalarText_inj hj hk ht ht', hrr⟩
  all_goals exact (hopen (by decide) he).elim

theorem str_append_inj {s : String} {k : Json} {r r' : List Char} (hk : Loaded k)
    (h : encode (str s) ++ r = encode k ++ r') : str s = k ∧ r = r' := by
  rw [encode] at h
  rcases encode_head hk with ⟨-, c, cs, -, he, hc⟩ | ⟨s', rfl, -⟩ | ⟨-, cs, -, he⟩ | ⟨-, cs, -, he⟩
  · rw [he, quote, List.cons_append, List.cons_append] at h
    rw [← (List.cons.inj h).1] at hc
    exact absurd hc (by decide)
  · rw [encode] at h
    obtain ⟨hs, hr⟩ := quote_append_inj h
    exact ⟨by rw [hs], hr⟩
  all_goals
    rw [he, quote, List.cons_append, List.cons_append] at h
    exact absurd (List.cons.inj h).1 (by decide)

/-- A text that starts with `[` is an array's. -/
theorem eq_arr_of_encode {k : Json} {c : List Char} {r r' : List Char} (hk : Loaded k)
    (h : '[' :: c ++ r = encode k ++ r') : ∃ ys, k = arr ys := by
  rcases encode_head hk with ⟨-, c, cs, -, he, hc⟩ | ⟨s', -, he⟩ | ⟨ys, -, rfl, -⟩ | ⟨-, cs, -, he⟩
  · rw [he] at h
    rw [← (List.cons.inj h).1] at hc
    exact absurd hc (by decide)
  · rw [he] at h
    exact absurd (List.cons.inj h).1 (by decide)
  · exact ⟨ys, rfl⟩
  · rw [he] at h
    exact absurd (List.cons.inj h).1 (by decide)

/-- A text that starts with an opening brace is an object's. -/
theorem eq_obj_of_encode {k : Json} {c : List Char} {r r' : List Char} (hk : Loaded k)
    (h : '\x7b' :: c ++ r = encode k ++ r') : ∃ ms, k = obj ms := by
  rcases encode_head hk with ⟨-, c, cs, -, he, hc⟩ | ⟨s', -, he⟩ | ⟨-, cs, -, he⟩ | ⟨ms, -, rfl, -⟩
  · rw [he] at h
    rw [← (List.cons.inj h).1] at hc
    exact absurd hc (by decide)
  · rw [he] at h
    exact absurd (List.cons.inj h).1 (by decide)
  · rw [he] at h
    exact absurd (List.cons.inj h).1 (by decide)
  · exact ⟨ms, rfl⟩

theorem ends_encodeItems (xs : List Json) (r : List Char) : Ends (encodeItems xs ++ r) := by
  intro c cs h
  cases xs with
  | nil => exact .inr (.inl (List.cons.inj h).1.symm)
  | cons x xs =>
    rw [encodeItems] at h
    exact .inl (List.cons.inj h).1.symm

theorem ends_encodeMembers (ms : List (String × Json)) (r : List Char) :
    Ends (encodeMembers ms ++ r) := by
  intro c cs h
  cases ms with
  | nil => exact .inr (.inr (List.cons.inj h).1.symm)
  | cons m ms =>
    obtain ⟨name, value⟩ := m
    rw [encodeMembers] at h
    exact .inl (List.cons.inj h).1.symm

mutual

/-- **A value is determined by its text**, whatever follows it. -/
theorem encode_append_inj : ∀ {j k : Json} {r r' : List Char}, Loaded j → Loaded k → Ends r →
    Ends r' → encode j ++ r = encode k ++ r' → j = k ∧ r = r'
  | null, _, _, _, hj, hk, hr, hr', h => scalar_append_inj hj hk rfl hr hr' h
  | bool _, _, _, _, hj, hk, hr, hr', h => scalar_append_inj hj hk rfl hr hr' h
  | int _, _, _, _, hj, hk, hr, hr', h => scalar_append_inj hj hk rfl hr hr' h
  | float _, _, _, _, hj, hk, hr, hr', h => scalar_append_inj hj hk rfl hr hr' h
  | str _, _, _, _, _, hk, _, _, h => str_append_inj hk h
  | arr [], k, r, r', _, hk, _, _, h => by
      rw [encode] at h
      obtain ⟨ys, rfl⟩ := eq_arr_of_encode (c := [']']) hk h
      cases ys with
      | nil =>
        rw [encode] at h
        exact ⟨rfl, List.append_cancel_left h⟩
      | cons y ys =>
        rw [encode] at h
        have htail := (List.cons.inj h).2
        simp only [List.append_eq, List.append_assoc] at htail
        exact absurd htail.symm (encode_ne_closing hk.1 _ _)
  | arr (x :: xs), k, r, r', hj, hk, _, _, h => by
      rw [encode] at h
      obtain ⟨ys, rfl⟩ := eq_arr_of_encode hk h
      cases ys with
      | nil =>
        rw [encode] at h
        have htail := (List.cons.inj h).2
        simp only [List.append_eq, List.append_assoc] at htail
        exact absurd htail (encode_ne_closing hj.1 _ _)
      | cons y ys =>
        rw [encode] at h
        have htail := (List.cons.inj h).2
        simp only [List.append_eq, List.append_assoc] at htail
        obtain ⟨hxy, hrest⟩ := encode_append_inj hj.1 hk.1 (ends_encodeItems xs r)
          (ends_encodeItems ys r') htail
        obtain ⟨hxs, hr⟩ := encodeItems_append_inj hj.2 hk.2 hrest
        exact ⟨by rw [hxy, hxs], hr⟩
  | obj [], k, r, r', _, hk, _, _, h => by
      rw [encode] at h
      obtain ⟨ms, rfl⟩ := eq_obj_of_encode (c := ['\x7d']) hk h
      cases ms with
      | nil =>
        rw [encode] at h
        exact ⟨rfl, List.append_cancel_left h⟩
      | cons m ms =>
        obtain ⟨name, value⟩ := m
        rw [encode] at h
        have htail := (List.cons.inj h).2
        simp only [quote, List.append_eq, List.append_assoc, List.cons_append] at htail
        exact absurd (List.cons.inj htail).1 (by decide)
  | obj ((name, value) :: ms), k, r, r', hj, hk, _, _, h => by
      rw [encode] at h
      obtain ⟨ns, rfl⟩ := eq_obj_of_encode hk h
      cases ns with
      | nil =>
        rw [encode] at h
        have htail := (List.cons.inj h).2
        simp only [quote, List.append_eq, List.append_assoc, List.cons_append] at htail
        exact absurd (List.cons.inj htail).1 (by decide)
      | cons n ns =>
        obtain ⟨name', value'⟩ := n
        rw [encode] at h
        have htail := (List.cons.inj h).2
        simp only [List.append_eq, List.append_assoc] at htail
        obtain ⟨hname, hrest⟩ := quote_append_inj htail
        have hvalue := (List.cons.inj hrest).2
        simp only [List.append_eq, List.append_assoc] at hvalue
        obtain ⟨hv, hmembers⟩ := encode_append_inj hj.1 hk.1 (ends_encodeMembers ms r)
          (ends_encodeMembers ns r') hvalue
        obtain ⟨hms, hr⟩ := encodeMembers_append_inj hj.2 hk.2 hmembers
        exact ⟨by rw [hname, hv, hms], hr⟩

theorem encodeItems_append_inj : ∀ {xs ys : List Json} {r r' : List Char},
    FloatsItems FloatText xs → FloatsItems FloatText ys →
    encodeItems xs ++ r = encodeItems ys ++ r' → xs = ys ∧ r = r'
  | [], [], _, _, _, _, h => ⟨rfl, List.append_cancel_left h⟩
  | [], y :: ys, _, _, _, _, h => by
      rw [encodeItems, encodeItems] at h
      exact absurd (List.cons.inj h).1 (by decide)
  | x :: xs, [], _, _, _, _, h => by
      rw [encodeItems, encodeItems] at h
      exact absurd (List.cons.inj h).1 (by decide)
  | x :: xs, y :: ys, r, r', hx, hy, h => by
      rw [encodeItems, encodeItems] at h
      have htail := (List.cons.inj h).2
      simp only [List.append_eq, List.append_assoc] at htail
      obtain ⟨hxy, hrest⟩ := encode_append_inj hx.1 hy.1 (ends_encodeItems xs r)
        (ends_encodeItems ys r') htail
      obtain ⟨hxs, hr⟩ := encodeItems_append_inj hx.2 hy.2 hrest
      exact ⟨by rw [hxy, hxs], hr⟩

theorem encodeMembers_append_inj : ∀ {ms ns : List (String × Json)} {r r' : List Char},
    FloatsMembers FloatText ms → FloatsMembers FloatText ns →
    encodeMembers ms ++ r = encodeMembers ns ++ r' → ms = ns ∧ r = r'
  | [], [], _, _, _, _, h => ⟨rfl, List.append_cancel_left h⟩
  | [], (_, _) :: _, _, _, _, _, h => by
      rw [encodeMembers, encodeMembers] at h
      exact absurd (List.cons.inj h).1 (by decide)
  | (_, _) :: _, [], _, _, _, _, h => by
      rw [encodeMembers, encodeMembers] at h
      exact absurd (List.cons.inj h).1 (by decide)
  | (name, value) :: ms, (name', value') :: ns, r, r', hm, hn, h => by
      rw [encodeMembers, encodeMembers] at h
      have htail := (List.cons.inj h).2
      simp only [List.append_eq, List.append_assoc] at htail
      obtain ⟨hname, hrest⟩ := quote_append_inj htail
      have hvalue := (List.cons.inj hrest).2
      simp only [List.append_eq, List.append_assoc] at hvalue
      obtain ⟨hv, hmembers⟩ := encode_append_inj hm.1 hn.1 (ends_encodeMembers ms r)
        (ends_encodeMembers ns r') hvalue
      obtain ⟨hms, hr⟩ := encodeMembers_append_inj hm.2 hn.2 hmembers
      exact ⟨by rw [hname, hv, hms], hr⟩

end

theorem floatsMembers_iff {p : String → Prop} {ms : List (String × Json)} :
    FloatsMembers p ms ↔ ∀ m ∈ ms, Floats p m.2 := by
  induction ms with
  | nil => exact ⟨fun _ _ h => absurd h List.not_mem_nil, fun _ => trivial⟩
  | cons m ms ih =>
    obtain ⟨name, value⟩ := m
    rw [FloatsMembers, ih]
    constructor
    · rintro ⟨hv, hms⟩ m hm
      rcases List.mem_cons.1 hm with rfl | hm
      · exact hv
      · exact hms m hm
    · intro h
      exact ⟨h _ List.mem_cons_self, fun m hm => h m (List.mem_cons_of_mem _ hm)⟩

mutual

theorem floats_sortKeys {p : String → Prop} : ∀ {j : Json}, Floats p j → Floats p (sortKeys j)
  | null, h => h
  | bool _, h => h
  | int _, h => h
  | float _, h => h
  | str _, h => h
  | arr _, h => floats_sortItems h
  | obj _, h => floatsMembers_iff.2 fun m hm =>
      floatsMembers_iff.1 (floats_sortMembers h) m ((List.mem_insertionSort _).1 hm)

theorem floats_sortItems {p : String → Prop} : ∀ {xs : List Json}, FloatsItems p xs →
    FloatsItems p (sortItems xs)
  | [], h => h
  | _ :: _, h => ⟨floats_sortKeys h.1, floats_sortItems h.2⟩

theorem floats_sortMembers {p : String → Prop} : ∀ {ms : List (String × Json)},
    FloatsMembers p ms → FloatsMembers p (sortMembers ms)
  | [], h => h
  | (_, _) :: _, h => ⟨floats_sortKeys h.1, floats_sortMembers h.2⟩

end

/-- **The canonical text determines the document**, up to the order of members. -/
theorem dumps_injective {j k : Json} (hj : Loaded j) (hk : Loaded k) (h : dumps j = dumps k) :
    sortKeys j = sortKeys k := by
  have hend : Ends [] := fun _ _ h => by cases h
  have henc : encode (sortKeys j) ++ [] = encode (sortKeys k) ++ [] := by
    rw [List.append_nil, List.append_nil]
    exact String.ofList_inj.1 h
  exact (encode_append_inj (floats_sortKeys hj) (floats_sortKeys hk) hend hend henc).1

example : dumps (.obj [("b", .arr [.int 1, .null]), ("a", .str "x\n\u00e9")]) =
    "\x7b\"a\":\"x\\n\\u00e9\",\"b\":[1,null]\x7d" := by decide +kernel

end Json

end Python
end BaobabErp
