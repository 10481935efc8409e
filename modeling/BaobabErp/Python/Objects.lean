/-
# JSON values as Python objects

What the code does with a value it read from JSON without looking at its type
first: `==`, truth, iteration, `frozenset`, `sorted`, `dict` and subscription.
An operation that raises gives the name of the exception.

The parts of the runtime that nothing proved here depends on (floating-point
order, the upper and lower case of all of Unicode) are the functions of a
`Runtime`.
-/

import BaobabErp.Python.Values
import Mathlib.Data.List.Sort
import Mathlib.Data.String.Basic

namespace BaobabErp
namespace Python

/-- A number of a JSON document; a float is its text. -/
inductive Number
  | int (n : Int)
  | float (text : String)
deriving DecidableEq, Repr

/-- The parts of the Python runtime that are left open. -/
structure Runtime where
  /-- `int(x)` of a float, `none` for an infinity. -/
  truncate : String → Option Int
  /-- The order of two numbers one of which is a float. -/
  compare : Number → Number → Ordering
  /-- `str.isupper`. -/
  isUpper : String → Bool
  /-- `str.lower`. -/
  lower : String → String

/-- The name of the exception an operation raises. -/
abbrev Raises := Except String

namespace Json

/-- The number a value is; `True` is 1 and `False` is 0. -/
def number? : Json → Option Number
  | bool b => some (.int (if b then 1 else 0))
  | int n => some (.int n)
  | float t => some (.float t)
  | _ => none

/-- The order of two numbers. -/
def compareNumbers (R : Runtime) : Number → Number → Ordering
  | .int m, .int n => compare m n
  | m, n => R.compare m n

mutual

/-- `a == b`: numbers of any type by value, dictionaries whatever their order. -/
def equal (R : Runtime) : Json → Json → Bool
  | null, null => true
  | str s, str t => s == t
  | arr xs, arr ys => equalItems R xs ys
  | obj ms, obj ns => ms.length == ns.length && equalMembers R ms ns
  | a, b => match number? a, number? b with
    | some m, some n => compareNumbers R m n == .eq
    | _, _ => false

def equalItems (R : Runtime) : List Json → List Json → Bool
  | [], [] => true
  | x :: xs, y :: ys => equal R x y && equalItems R xs ys
  | _, _ => false

def equalMembers (R : Runtime) : List (String × Json) → List (String × Json) → Bool
  | [], _ => true
  | (name, value) :: ms, ns => (match ns.lookup name with
    | some other => equal R value other
    | none => false) && equalMembers R ms ns

end

mutual

/-- The same document, up to the order of members. -/
def identical : Json → Json → Bool
  | null, null => true
  | bool a, bool b => a == b
  | int m, int n => m == n
  | float s, float t => s == t
  | str s, str t => s == t
  | arr xs, arr ys => identicalItems xs ys
  | obj ms, obj ns => ms.length == ns.length && identicalMembers ms ns
  | _, _ => false

def identicalItems : List Json → List Json → Bool
  | [], [] => true
  | x :: xs, y :: ys => identical x y && identicalItems xs ys
  | _, _ => false

def identicalMembers : List (String × Json) → List (String × Json) → Bool
  | [], _ => true
  | (name, value) :: ms, ns => (match ns.lookup name with
    | some other => identical value other
    | none => false) && identicalMembers ms ns

end

mutual

/-- Wherever both documents have a number, they have it in one form: `1`, `1.0`
and `true` are three. -/
def spelledAlike : Json → Json → Bool
  | bool a, bool b => a == b
  | int m, int n => m == n
  | float s, float t => s == t
  | arr xs, arr ys => spelledAlikeItems xs ys
  | obj ms, obj ns => spelledAlikeMembers ms ns
  | a, b => (number? a).isNone || (number? b).isNone

def spelledAlikeItems : List Json → List Json → Bool
  | x :: xs, y :: ys => spelledAlike x y && spelledAlikeItems xs ys
  | _, _ => true

def spelledAlikeMembers : List (String × Json) → List (String × Json) → Bool
  | [], _ => true
  | (name, value) :: ms, ns => (match ns.lookup name with
    | some other => spelledAlike value other
    | none => true) && spelledAlikeMembers ms ns

end

/-- `bool(value)`. -/
def truthy (R : Runtime) : Json → Bool
  | null => false
  | bool b => b
  | int n => n != 0
  | float t => compareNumbers R (.float t) (.int 0) != .eq
  | str s => s != ""
  | arr xs => !xs.isEmpty
  | obj ms => !ms.isEmpty

/-- `hash(value)` does not raise. -/
def hashable : Json → Bool
  | arr _ => false
  | obj _ => false
  | _ => true

/-- `iter(value)`, as the list of what it yields. -/
def iterate : Json → Raises (List Json)
  | arr xs => .ok xs
  | str s => .ok (s.toList.map fun c => str (String.ofList [c]))
  | obj ms => .ok (ms.map fun m => str m.1)
  | _ => .error "TypeError"

/-- `value[name]`. -/
def subscript (value : Json) (name : String) : Raises Json :=
  match value with
  | obj ms => match ms.lookup name with
    | some v => .ok v
    | none => .error "KeyError"
  | _ => .error "TypeError"

/-- `value.get(name)`; `none` when the dictionary has no such member. -/
def getMember (value : Json) (name : String) : Raises (Option Json) :=
  match value with
  | obj ms => .ok (ms.lookup name)
  | _ => .error "AttributeError"

/-- `isinstance(value, str)` for every item. -/
def allText (xs : List Json) : Bool := xs.all fun x => x.str?.isSome

/-- The items without those equal to an earlier one. -/
def distinct (R : Runtime) : List Json → List Json
  | [] => []
  | x :: xs => x :: (distinct R xs).filter fun y => !equal R x y

/-- The texts in order, each once. -/
def sortedTexts (texts : List String) : List String := (texts.insertionSort (· ≤ ·)).dedup

/-- `frozenset(xs)`.  A set of texts is its sorted list, any other set the list
of its items in the order they came. -/
def frozenset (R : Runtime) (xs : List Json) : Raises (List Json) :=
  if allText xs then .ok ((sortedTexts (xs.filterMap str?)).map str)
  else if xs.all hashable then .ok (distinct R xs)
  else .error "TypeError"

/-- Of two numbers, the first is not the greater one. -/
def notAfter (R : Runtime) (x y : Json) : Bool :=
  match number? x, number? y with
  | some m, some n => compareNumbers R m n != .gt
  | _, _ => false

/-- `sorted(xs, key=key)`: at most one item, or keys of one comparable type. -/
def sortedBy {α : Type} (R : Runtime) (key : α → Json) (xs : List α) : Raises (List α) :=
  if xs.length ≤ 1 then .ok xs
  else if xs.all fun x => (key x).str?.isSome then
    .ok (xs.insertionSort fun x y => (key x).str?.getD "" ≤ (key y).str?.getD "")
  else if xs.all fun x => (number? (key x)).isSome then
    .ok (xs.insertionSort fun x y => notAfter R (key x) (key y) = true)
  else .error "TypeError"

/-- `int(value)`; an infinity raises `OverflowError`. -/
def toInt (R : Runtime) : Json → Raises Int
  | bool b => .ok (if b then 1 else 0)
  | int n => .ok n
  | float t => match R.truncate t with
    | some n => .ok n
    | none => .error "OverflowError"
  | str s => match intOfText s with
    | some n => .ok n
    | none => .error "ValueError"
  | _ => .error "TypeError"

/-- One element of the sequence `dict` is built from. -/
def pair (x : Json) : Raises (Json × Json) :=
  match iterate x with
  | .error e => .error e
  | .ok [k, v] => if k.hashable then .ok (k, v) else .error "TypeError"
  | .ok _ => .error "ValueError"

/-- A dictionary after `d[name] = value`. -/
def insertMember (ms : List (String × Json)) (name : String) (value : Json) : List (String × Json) :=
  if (ms.lookup name).isSome then ms.map fun m => if m.1 = name then (name, value) else m
  else ms ++ [(name, value)]

/-- The member that was put in. -/
theorem lookup_insertMember (ms : List (String × Json)) (name : String) (value : Json) :
    (insertMember ms name value).lookup name = some value := by
  unfold insertMember
  induction ms with
  | nil => simp
  | cons m ms ih =>
    obtain ⟨n, v⟩ := m
    by_cases hn : n = name
    · subst hn
      simp
    · have hbeq : (name == n) = false := beq_false_of_ne fun h => hn h.symm
      rw [List.lookup_cons, hbeq]
      split_ifs at ih ⊢ with hsome
      · rw [List.map_cons, if_neg hn, List.lookup_cons, hbeq]
        exact ih
      · rw [List.cons_append, List.lookup_cons, hbeq]
        exact ih

/-- `dict(value)`; the inner `none` is a dictionary that has a key which is no text. -/
def dict (value : Json) : Raises (Option (List (String × Json))) :=
  match value with
  | obj ms => .ok (some ms)
  | _ => do
    let pairs ← (← iterate value).mapM pair
    pure (pairs.foldl (fun d p => match d, p.1 with
      | some ms, str name => some (insertMember ms name p.2)
      | _, _ => none) (some []))

/-! ### Equal, and the same document -/

mutual

/-- **Equal values that spell their numbers alike are one document.** -/
theorem identical_of_equal {R : Runtime} : ∀ {a b : Json}, equal R a b = true →
    spelledAlike a b = true → identical a b = true
  | null, b, h, _ => by cases b <;> simp [equal, identical, number?] at h ⊢
  | bool _, b, h, hs => by
      cases b <;> simp [equal, identical, spelledAlike, number?] at h hs ⊢
      exact hs
  | int _, b, h, hs => by
      cases b <;> simp [equal, identical, spelledAlike, number?] at h hs ⊢
      exact hs
  | float _, b, h, hs => by
      cases b <;> simp [equal, identical, spelledAlike, number?] at h hs ⊢
      exact hs
  | str _, b, h, _ => by
      cases b <;> simp [equal, identical, number?] at h ⊢
      exact h
  | arr xs, b, h, hs => by
      cases b with
      | arr ys =>
        rw [equal] at h
        rw [spelledAlike] at hs
        rw [identical]
        exact identicalItems_of_equal h hs
      | _ => simp [equal, number?] at h
  | obj ms, b, h, hs => by
      cases b with
      | obj ns =>
        rw [equal, Bool.and_eq_true] at h
        rw [spelledAlike] at hs
        rw [identical, Bool.and_eq_true]
        exact ⟨h.1, identicalMembers_of_equal h.2 hs⟩
      | _ => simp [equal, number?] at h

theorem identicalItems_of_equal {R : Runtime} : ∀ {xs ys : List Json},
    equalItems R xs ys = true → spelledAlikeItems xs ys = true → identicalItems xs ys = true
  | [], [], _, _ => by rw [identicalItems]
  | [], _ :: _, h, _ => by simp [equalItems] at h
  | _ :: _, [], h, _ => by simp [equalItems] at h
  | x :: xs, y :: ys, h, hs => by
      rw [equalItems, Bool.and_eq_true] at h
      rw [spelledAlikeItems, Bool.and_eq_true] at hs
      rw [identicalItems, Bool.and_eq_true]
      exact ⟨identical_of_equal h.1 hs.1, identicalItems_of_equal h.2 hs.2⟩

theorem identicalMembers_of_equal {R : Runtime} : ∀ {ms ns : List (String × Json)},
    equalMembers R ms ns = true → spelledAlikeMembers ms ns = true →
      identicalMembers ms ns = true
  | [], _, _, _ => by rw [identicalMembers]
  | (name, value) :: ms, ns, h, hs => by
      rw [equalMembers, Bool.and_eq_true] at h
      rw [spelledAlikeMembers, Bool.and_eq_true] at hs
      rw [identicalMembers, Bool.and_eq_true]
      refine ⟨?_, identicalMembers_of_equal h.2 hs.2⟩
      cases hl : ns.lookup name with
      | none => simp [hl] at h
      | some other =>
        simp only [hl] at h hs ⊢
        exact identical_of_equal h.1 hs.1

end

mutual

/-- One document spells its numbers alike. -/
theorem spelledAlike_of_identical : ∀ {a b : Json}, identical a b = true →
    spelledAlike a b = true
  | null, b, h => by cases b <;> simp [identical, spelledAlike, number?] at h ⊢
  | bool _, b, h => by
      cases b <;> simp [identical, spelledAlike] at h ⊢
      exact h
  | int _, b, h => by
      cases b <;> simp [identical, spelledAlike] at h ⊢
      exact h
  | float _, b, h => by
      cases b <;> simp [identical, spelledAlike] at h ⊢
      exact h
  | str _, b, h => by cases b <;> simp [identical, spelledAlike, number?] at h ⊢
  | arr xs, b, h => by
      cases b with
      | arr ys =>
        rw [identical] at h
        rw [spelledAlike]
        exact spelledAlikeItems_of_identical h
      | _ => simp [identical] at h
  | obj ms, b, h => by
      cases b with
      | obj ns =>
        rw [identical, Bool.and_eq_true] at h
        rw [spelledAlike]
        exact spelledAlikeMembers_of_identical h.2
      | _ => simp [identical] at h

theorem spelledAlikeItems_of_identical : ∀ {xs ys : List Json}, identicalItems xs ys = true →
    spelledAlikeItems xs ys = true
  | [], _, _ => by simp [spelledAlikeItems]
  | _ :: _, [], h => by simp [identicalItems] at h
  | x :: xs, y :: ys, h => by
      rw [identicalItems, Bool.and_eq_true] at h
      rw [spelledAlikeItems, Bool.and_eq_true]
      exact ⟨spelledAlike_of_identical h.1, spelledAlikeItems_of_identical h.2⟩

theorem spelledAlikeMembers_of_identical : ∀ {ms ns : List (String × Json)},
    identicalMembers ms ns = true → spelledAlikeMembers ms ns = true
  | [], _, _ => by rw [spelledAlikeMembers]
  | (name, value) :: ms, ns, h => by
      rw [identicalMembers, Bool.and_eq_true] at h
      rw [spelledAlikeMembers, Bool.and_eq_true]
      refine ⟨?_, spelledAlikeMembers_of_identical h.2⟩
      cases hl : ns.lookup name with
      | none => rfl
      | some other =>
        simp only [hl] at h ⊢
        exact spelledAlike_of_identical h.1

end

end Json

end Python
end BaobabErp
