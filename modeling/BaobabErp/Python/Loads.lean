/-
# Reading JSON

`json.loads` of a `bytes` object: the text is read one character at a time into tokens, and
the tokens into a value, a container at a time.  A nesting deeper than the interpreter
recurses raises `RecursionError`, which is no `ValueError`.
-/

import BaobabErp.Python.Unicode
import Mathlib.Algebra.Group.Nat.Defs

namespace BaobabErp
namespace Python

/-- A float by the literal it was read from, exactly. -/
inductive FloatLiteral
  | decimal (negative : Bool) (digits : Nat) (exponent : Int)
  | nan
  | infinity (negative : Bool)
deriving DecidableEq, Repr

/-- **A value as `json.loads` returns it**, any text in it. -/
inductive PyJson
  | null
  | bool (b : Bool)
  | int (n : Int)
  | float (x : FloatLiteral)
  | str (s : PyStr)
  | arr (items : List PyJson)
  | obj (members : List (PyStr × PyJson))

/-- The float that is nearest is no infinity: it is below 2¹⁰²⁴ by half of its last place. -/
def FloatLiteral.isFinite : FloatLiteral → Bool
  | .decimal _ digits exponent =>
    let size := (toString digits).length + exponent
    if digits = 0 ∨ size < 300 then true
    else if 320 < size then false
    else if 0 ≤ exponent then digits * 10 ^ exponent.toNat < 2 ^ 1024 - 2 ^ 970
    else digits < (2 ^ 1024 - 2 ^ 970) * 10 ^ (-exponent).toNat
  | .nan => false
  | .infinity _ => false

/-- `members[name] = value`. -/
def insertText (members : List (PyStr × PyJson)) (name : PyStr) (value : PyJson) :
    List (PyStr × PyJson) :=
  if members.any fun m => m.1 == name then members.map fun m => if m.1 = name then (name, value) else m
  else members ++ [(name, value)]

/-- What `json.loads` raises: `JSONDecodeError`, another `ValueError` or `RecursionError`. -/
inductive LoadsError
  | decode
  | value
  | recursion
deriving DecidableEq, Repr

/-! ### Tokens -/

inductive JsonToken
  | mark (c : Char)
  | text (s : PyStr)
  | scalar (v : PyJson)
  /-- An integer of more digits than `int` converts. -/
  | long
  | bad

/-- `-?(0|[1-9][0-9]*)(\.[0-9]+)?([eE][-+]?[0-9]+)?`, the whole of `cs`. -/
def numberToken (cs : List Char) : JsonToken :=
  let negative := cs.head? = some '-'
  let cs := if negative then cs.tail else cs
  let whole := cs.takeWhile isAsciiDigit
  let rest := cs.drop whole.length
  let fraction := if rest.head? = some '.' then rest.tail.takeWhile isAsciiDigit else []
  let tail := if rest.head? = some '.' then rest.tail.drop fraction.length else rest
  let digits := fun ds : List Char => ds.foldl (fun n c => n * 10 + (c.toNat - '0'.toNat)) 0
  let float := fun exponent : Int =>
    JsonToken.scalar (.float (.decimal negative (digits (whole ++ fraction)) (exponent - fraction.length)))
  if whole = [] ∨ (1 < whole.length ∧ whole.head? = some '0') ∨
      (rest.head? = some '.' ∧ fraction = []) then .bad
  else match tail with
    | [] =>
      if rest.head? = some '.' then float 0
      else if 4300 < whole.length then .long
      else .scalar (.int (if negative then -(digits whole : Int) else digits whole))
    | e :: cs =>
      let minus := cs.head? = some '-'
      let power := if minus ∨ cs.head? = some '+' then cs.tail else cs
      if (e = 'e' ∨ e = 'E') ∧ power ≠ [] ∧ power.all isAsciiDigit then
        float (if minus then -(digits power : Int) else digits power)
      else .bad

/-- A run of letters, digits and signs: a constant or a number. -/
def wordToken (cs : List Char) : JsonToken :=
  if cs = "null".toList then .scalar .null
  else if cs = "true".toList then .scalar (.bool true)
  else if cs = "false".toList then .scalar (.bool false)
  else if cs = "NaN".toList then .scalar (.float .nan)
  else if cs = "Infinity".toList then .scalar (.float (.infinity false))
  else if cs = "-Infinity".toList then .scalar (.float (.infinity true))
  else numberToken cs

def isWordChar (c : Char) : Bool := isAsciiAlnum c || c == '+' || c == '-' || c == '.'

/-- What the scanner is inside of, and what it has read of it, the last character first.  In
a text, `paired` says that an escape has just named the first half of a pair. -/
inductive JsonPlace
  | between
  | word (read : List Char)
  | text (read : PyStr) (paired : Bool)
  | escape (read : PyStr) (paired : Bool)
  | unit (read : PyStr) (paired : Bool) (digits value : Nat)
  | stopped

/-- The character after a backslash. -/
def shortEscaped (c : Char) : Option Char :=
  match c with
  | '"' => some '"'
  | '\\' => some '\\'
  | '/' => some '/'
  | 'b' => some '\x08'
  | 'f' => some '\x0c'
  | 'n' => some '\n'
  | 'r' => some '\r'
  | 't' => some '\t'
  | _ => none

/-- A unit that was escaped: the second half of a pair completes it. -/
def pushUnit (read : PyStr) (paired : Bool) (unit : Nat) : PyStr :=
  match paired && isLow unit, read with
  | true, .surrogate high :: read => (joined (0xD800 + high) unit).toList ++ read
  | _, read => (CodePoint.chr unit).toList ++ read

/-- A character between tokens. -/
def JsonPlace.start (c : Char) : List JsonToken × JsonPlace :=
  if c = ' ' ∨ c = '\t' ∨ c = '\n' ∨ c = '\r' then ([], between)
  else if c = '"' then ([], text [] false)
  else if c = '[' ∨ c = ']' ∨ c = '\x7b' ∨ c = '\x7d' ∨ c = ',' ∨ c = ':' then ([.mark c], between)
  else if isWordChar c then ([], word [c])
  else ([.bad], stopped)

def JsonPlace.step : JsonPlace → CodePoint → List JsonToken × JsonPlace
  | between, .scalar c => start c
  | word read, .scalar c =>
    if isWordChar c then ([], word (c :: read))
    else
      let (tokens, place) := start c
      (wordToken read.reverse :: tokens, place)
  | text read _, .surrogate n => ([], text (.surrogate n :: read) false)
  | text read paired, .scalar c =>
    if c = '"' then ([.text read.reverse], between)
    else if c = '\\' then ([], escape read paired)
    else if c < ' ' then ([.bad], stopped)
    else ([], text (.scalar c :: read) false)
  | escape read paired, .scalar c =>
    if c = 'u' then ([], unit read paired 0 0)
    else match shortEscaped c with
      | some d => ([], text (.scalar d :: read) false)
      | none => ([.bad], stopped)
  | unit read paired digits value, .scalar c =>
    match hexValue c with
    | none => ([.bad], stopped)
    | some d =>
      if digits < 3 then ([], unit read paired (digits + 1) (value * 16 + d))
      else ([], text (pushUnit read paired (value * 16 + d)) (isHigh (value * 16 + d)))
  | stopped, _ => ([], stopped)
  | word read, .surrogate _ => ([wordToken read.reverse, .bad], stopped)
  | _, .surrogate _ => ([.bad], stopped)

/-- The tokens of a text from a place on. -/
def tokens : JsonPlace → PyStr → List JsonToken
  | .between, [] => []
  | .word read, [] => [wordToken read.reverse]
  | .stopped, [] => []
  | _, [] => [.bad]
  | place, c :: cs => (place.step c).1 ++ tokens (place.step c).2 cs

/-! ### Values -/

/-- A container that is open, and what is complete of it. -/
inductive JsonFrame
  | array (items : List PyJson)
  | object (members : List (PyStr × PyJson)) (name : PyStr)

/-- What may follow: a value, or the end of an array just opened; a name, or the end of an
object just opened; a colon; what follows a value. -/
inductive JsonMode
  | value (first : Bool)
  | name (first : Bool)
  | colon
  | after (v : PyJson)

structure JsonReader where
  stack : List JsonFrame
  mode : JsonMode

/-- An opening mark. -/
def JsonReader.push (limit : Nat) (r : JsonReader) (frame : JsonFrame) (mode : JsonMode) :
    Except LoadsError JsonReader :=
  if limit ≤ r.stack.length then .error .recursion else .ok ⟨frame :: r.stack, mode⟩

def JsonReader.step (limit : Nat) (r : JsonReader) (token : JsonToken) : Except LoadsError JsonReader :=
  match r.mode, token, r.stack with
  | .value _, .text s, stack => .ok ⟨stack, .after (.str s)⟩
  | .value _, .scalar v, stack => .ok ⟨stack, .after v⟩
  | .value _, .long, _ => .error .value
  | .value _, .mark '[', _ => r.push limit (.array []) (.value true)
  | .value _, .mark '\x7b', _ => r.push limit (.object [] []) (.name true)
  | .value true, .mark ']', .array _ :: stack => .ok ⟨stack, .after (.arr [])⟩
  | .name true, .mark '\x7d', .object _ _ :: stack => .ok ⟨stack, .after (.obj [])⟩
  | .name _, .text s, .object members _ :: stack => .ok ⟨.object members s :: stack, .colon⟩
  | .colon, .mark ':', stack => .ok ⟨stack, .value false⟩
  | .after v, .mark ',', .array items :: stack => .ok ⟨.array (v :: items) :: stack, .value false⟩
  | .after v, .mark ']', .array items :: stack => .ok ⟨stack, .after (.arr (v :: items).reverse)⟩
  | .after v, .mark ',', .object members s :: stack =>
    .ok ⟨.object (insertText members s v) s :: stack, .name false⟩
  | .after v, .mark '\x7d', .object members s :: stack =>
    .ok ⟨stack, .after (.obj (insertText members s v))⟩
  | _, _, _ => .error .decode

/-- The value the tokens are, and nothing after it. -/
def JsonReader.run (limit : Nat) (r : JsonReader) : List JsonToken → Except LoadsError PyJson
  | [] => match r.mode, r.stack with
    | .after v, [] => .ok v
    | _, _ => .error .decode
  | token :: tokens => do (← r.step limit token).run limit tokens

/-- **`json.loads(body)`**, where the interpreter recurses `limit` deep. -/
def loads (limit : Nat) (body : List UInt8) : Except LoadsError PyJson :=
  match decodeJson body with
  | none => .error .value
  | some text => JsonReader.run limit ⟨[], .value false⟩ (tokens .between text)

end Python
end BaobabErp
