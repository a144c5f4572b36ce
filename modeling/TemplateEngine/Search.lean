import TemplateEngine.Attributes
import TemplateEngine.SequenceView
/-!
Where an element stands in a sequence, how often it does, and the elements from the last to the
first, as each kind of sequence answers. A text or a byte string is searched for its parts.
-/
namespace TemplateEngine.Search

/-- The first place where a list stands in another. -/
def placeOfPart? {α : Type} [BEq α] (pat : List α) : List α → Option Nat
  | [] => if pat.isEmpty then some 0 else none
  | a :: rest =>
    if pat.isPrefixOf (a :: rest) then some 0 else (placeOfPart? pat rest).map (· + 1)

/-- How often a list stands in another after the next `skip` elements, without overlap. -/
def countParts {α : Type} [BEq α] (pat : List α) : (skip : Nat) → List α → Nat
  | _, [] => if pat.isEmpty then 1 else 0
  | skip + 1, _ :: rest => countParts pat skip rest
  | 0, a :: rest =>
    if pat.isPrefixOf (a :: rest) then countParts pat (pat.length - 1) rest + 1
    else countParts pat 0 rest

/-- How a kind of sequence tells that an element is not in it. -/
def style (w : World) (v : Value) : SearchStyle :=
  match v, w.baseCell? v with
  | .range .., _ => .listed "range"
  | _, some (.list _) => .listed "list"
  | _, some (.deque _) => .listed "deque"
  | _, some (.array ..) => .positioned "array"
  | _, _ => .positioned "tuple"

/-- The octets that are looked for in a byte string. -/
def soughtOctets (x : Value) : M (List UInt8) := do
  let w ← get
  match w.octets? x, w.integer? x with
  | some part, _ => return part
  | none, some n =>
    if 0 ≤ n ∧ n < 256 then return [UInt8.ofNat n.toNat] else fail .byteOutOfRange
  | none, none => fail (.soughtNotBytes (w.typeInMessages x))

def soughtText (x : Value) : M (List Char) := do
  let w ← get
  match w.text? x with
  | some t => return t.toList
  | none => fail (.soughtNotText (w.typeInMessages x))

/-- What a method of a value that is no sequence gives. -/
def ask (v : Value) (method : String) (x : Value) : M Value := do
  call (← Dispatch.full.readFrom v method) [x]

/-- A whole number that is looked for in a range, whose place is computed. -/
def wholeNumber? : Value → Option Int
  | .int n => some n
  | .bool b => some (if b then 1 else 0)
  | _ => none

/-- The first position of an element. -/
def index (v x : Value) : M Value := do
  let w ← get
  let found (place : Option Nat) (style : SearchStyle) : M Value := do
    match place with
    | some i => return .int i
    | none => fail (.notFound style (← displayed x))
  match v, w.text? v, w.bytes? v with
  | .view .., _, _ => return .int (← SequenceView.index v x)
  | _, some s, _ => found (placeOfPart? (← soughtText x) s.toList) .text
  | _, none, some bytes => found (placeOfPart? (← soughtOctets x) bytes) .bytes
  | v, none, none =>
    match v, wholeNumber? x with
    | .range start stop step, some n =>
      if rangeContains start stop step n then return .int ((n - start) / step)
      else found none (style w v)
    | .range .., none => found (← positionOf? v x) (.positioned "sequence")
    | v, _ =>
      if (w.sequence? v).isSome then found (← positionOf? v x) (style w v)
      else ask v "index" x

/-- How often an element stands in a sequence. -/
def count (v x : Value) : M Value := do
  let w ← get
  match v, w.text? v, w.bytes? v with
  | .view .., _, _ => return .int (← SequenceView.count v x)
  | _, some s, _ => return .int (countParts (← soughtText x) 0 s.toList)
  | _, none, some bytes => return .int (countParts (← soughtOctets x) 0 bytes)
  | v, none, none =>
    match v, wholeNumber? x with
    | .range start stop step, some n =>
      return .int (if rangeContains start stop step n then 1 else 0)
    | v, _ =>
      if (w.sequence? v).isSome then return .int (← SequenceView.count v x)
      else ask v "count" x

/-- The elements from the last to the first. -/
def reversed (v : Value) : M Value := do
  let w ← get
  let refused : M Value := fail (.notReversible (w.typeInMessages v))
  let turned : M Value := do newList (← iterate v).reverse
  match v, w.sequence? v, w.mapping? v with
  | .view .., _, _ => SequenceView.reversed v
  | _, some _, _ => turned
  | v, none, some _ =>
    match w.baseCell? v with
    | some (.bindings _) => refused
    | _ => turned
  | .part .., none, none => if (w.shownScope? v).isSome then refused else turned
  | .type _, none, none => if w.isIterable v then turned else refused
  | _, none, none => refused

end TemplateEngine.Search
