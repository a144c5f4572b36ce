import TemplateEngine.Class.Hierarchy
/-!
What values hold: the elements of sequences and sets, the entries of mappings, and what is left of
an iterator. Only an iterator changes by being read.
-/
namespace TemplateEngine

/-- The elements of a sequence; those of a range are not written out. -/
inductive Elements
  | list (items : List Value)
  | range (start stop step : Int)

namespace Elements

/-- The number of steps from `start` to `stop`, the end not counted. -/
def rangeLength (start stop step : Int) : Nat :=
  if 0 < step then ((stop - start + step - 1) / step).toNat
  else if step < 0 then ((start - stop - step - 1) / (-step)).toNat
  else 0

def length : Elements → Nat
  | list items => items.length
  | range start stop step => rangeLength start stop step

def get? : Elements → Nat → Option Value
  | list items, i => items[i]?
  | range start stop step, i =>
    if i < rangeLength start stop step then some (.int (start + step * i)) else none

def toList : Elements → List Value
  | list items => items
  | range start stop step =>
    (List.range (rangeLength start stop step)).map fun i => .int (start + step * (i : Nat))

theorem length_toList (e : Elements) : e.toList.length = e.length := by
  cases e <;> simp [toList, length]

theorem getElem?_toList (e : Elements) (i : Nat) : e.toList[i]? = e.get? i := by
  cases e with
  | list => rfl
  | range start stop step =>
    by_cases h : i < rangeLength start stop step <;> simp [toList, get?, h]

end Elements

def BrokenTime.fields (t : BrokenTime) : List Int :=
  [t.year, t.month, t.day, t.hour, t.minute, t.second, t.weekday, t.yearday, t.daylight]

def textItems (s : String) : List Value := s.toList.map fun c => .text (String.ofList [c])

def byteItems (b : List UInt8) : List Value := b.map fun x => .int x.toNat

namespace World

/-- The elements, if the value is a sequence. -/
def sequence? (w : World) : Value → Option Elements
  | .view _ target => w.sequence? target
  | .range start stop step => some (.range start stop step)
  | .brokenTime t => some (.list (t.fields.map .int))
  | .bytes b => some (.list (byteItems b))
  | v =>
    match w.base v with
    | .text s => some (.list (textItems s))
    | .ref i =>
      match w.cell? i with
      | some (.list items) | some (.tuple items) | some (.deque items) | some (.array _ items) =>
        some (.list items)
      | some (.bytearray b) => some (.list (byteItems b))
      | _ => none
    | _ => none

/-- The entries, if the value is a mapping. A scope lists its folded names. -/
def mapping? (w : World) : Value → Option (List (Value × Value))
  | .readOnly _ target => w.mapping? target
  | .subUnits owner => some ((w.forest.subs owner).map fun (name, u) => (.text name, .unit u))
  | v =>
    match w.baseCell? v with
    | some (.dict _ entries) => some entries
    | some (.bindings scope) => some (scope.entries.map fun (name, x) => (.text name, x))
    | _ => none

/-- Whether a number has exactly one bit. -/
def isSingleBit (n : Nat) : Bool := n != 0 && n &&& (n - 1) == 0

/-- The number of bits that are set in a number. -/
def bitCount (n : Nat) : Nat := (Text.digitsOf 2 n).foldl (· + ·) 0

/-- The members of an enumeration class in order of definition, aliases and composite flags left
out. -/
def enumMembers (w : World) (c : ClassId) : List Value :=
  match c with
  | .standard _ => []
  | .declared i =>
    match w.class? i with
    | none => []
    | some info =>
      info.names.zipIdx.filterMap fun (name, k) =>
        if name.index != k then none
        else if info.kind = .flagEnumeration then
          match name.value with
          | .int n => if isSingleBit n.toNat then some (.flags i n.toNat) else none
          | _ => none
        else some (.member i k)

/-- The member of an enumeration class with a name. -/
def memberNamed? (w : World) (c : ClassId) (name : String) : Option Value :=
  match c with
  | .standard _ => none
  | .declared i => do
    let info ← w.class? i
    let n ← info.names.find? (·.name == name)
    return match info.kind, n.value with
      | .flagEnumeration, .int bits => .flags i bits.toNat
      | _, _ => .member i n.index

/-- The single-bit members that a flag value is made of. -/
def flagParts (w : World) (cls bits : Nat) : List Value :=
  (w.enumMembers (.declared cls)).filter fun
    | .flags _ b => bits &&& b == b
    | _ => false

/-- The elements of values that can be iterated again and again and are not mappings or
sequences. -/
def repeatable? (w : World) : Value → Option (List Value)
  | .part _ which target =>
    -- Items are pairs, which are made when the view is read.
    match which with
    | .keys => (w.mapping? target).map (·.map Prod.fst)
    | .values => (w.mapping? target).map (·.map Prod.snd)
    | .items => none
  | .type c => if Classes.isEnumeration w.classes c then some (w.enumMembers c) else none
  | .flags cls bits => some (w.flagParts cls bits)
  | v =>
    match w.baseCell? v with
    | some (.set _ items) | some (.bag items) | some (.sized items) => some items
    | _ => none

end World

/-- Lengths from here on are not told. -/
def maxLength : Nat := 0x8000000000000000

/-- Turns entries into pairs. -/
def newPairs : List (Value × Value) → M (List Value)
  | [] => return []
  | (k, v) :: rest => return (← newTuple [k, v]) :: (← newPairs rest)

/-- What the iterator says is left, if it says so. -/
def lengthHint (kind : Stream) (rest : List Value) : M (Option Nat) :=
  match kind with
  | .list => return some rest.length
  | .generator => return none
  | .hinted none => return none
  | .hinted (some n) =>
    if n < -(maxLength : Int) ∨ (maxLength : Int) ≤ n then fail .lengthTooLarge
    else if n < 0 then fail .negativeHint
    else return some n.toNat

/-- Something that is read turn by turn. Each turn gives what is there by then. -/
inductive Source
  | fixed (elements : Elements)
  /-- A list that may change between two turns. -/
  | live (cell : Nat)
  /-- An iterator, which loses what it gives. -/
  | stream (cell : Nat)

namespace Source

/-- The elements of an iterable value. -/
def ofValue : Value → M Source
  | .view _ target => ofValue target
  | v => do
    let w ← get
    match w.base v, w.baseCell? v with
    | .ref i, some (.list _) => return .live i
    | .ref i, some (.stream ..) => return .stream i
    | _, _ =>
    match w.sequence? v, w.mapping? v, w.repeatable? v with
    | some elements, _, _ => return .fixed elements
    | none, some entries, _ => return .fixed (.list (entries.map Prod.fst))
    | none, none, some items => return .fixed (.list items)
    | none, none, none =>
      match v with
      | .part _ .items target => return .fixed (.list (← newPairs ((w.mapping? target).getD [])))
      | _ => fail (.notIterable (w.typeInMessages v))

/-- How many elements there are by now. -/
def count (w : World) : Source → Nat
  | fixed elements => elements.length
  | live i | stream i =>
    match w.cell? i with
    | some (.list items) | some (.stream _ items) => items.length
    | _ => 0

/-- The element of a turn, if there is one. -/
def at? (s : Source) (turn : Nat) : M (Option Value) := do
  match s with
  | fixed elements =>
    match elements.get? turn with
    | some x => some <$> asObject x
    | none => return none
  | live i =>
    match (← get).cell? i with
    | some (.list items) => return items[turn]?
    | _ => return none
  | stream i =>
    match (← get).cell? i with
    | some (.stream kind (x :: rest)) => setCell i (.stream kind rest); return some x
    | _ => return none

/-- Runs something on one element after the other, as many as `left` tells, and on its number;
`lift` says how the elements are read. -/
def visit {m : Type → Type} [Monad m] {α : Type} (lift : M (Option Value) → m (Option Value))
    (body : Nat → Value → m α) (s : Source) : (left turn : Nat) → m (List α)
  | 0, _ => return []
  | left + 1, turn => do
    match ← lift (s.at? turn) with
    | some x =>
      let a ← body turn x
      return a :: (← visit lift body s left (turn + 1))
    | none => return []

end Source

/-- Runs something on each element of an iterable value and its number, in order. -/
def forEachNumbered {α : Type} (v : Value) (body : Nat → Value → M α) : M (List α) := do
  let s ← Source.ofValue v
  s.visit id body (s.count (← get)) 0

/-- Runs something on each element of an iterable value, in order. -/
def forEach {α : Type} (v : Value) (body : Value → M α) : M (List α) :=
  forEachNumbered v fun _ x => body x

/-- All elements that are left, in order. -/
def Source.drain (s : Source) : M (List Value) := do
  match s with
  | fixed elements => asObjects elements.toList
  | live i =>
    match (← get).cell? i with
    | some (.list items) => return items
    | _ => return []
  | stream i =>
    match (← get).cell? i with
    | some (.stream kind rest) => setCell i (.stream kind []); return rest
    | _ => return []

/-- Asks an iterator how much is left, and refuses what has too many elements to be counted. -/
def checkLength (v : Value) (s : Source) : M Unit := do
  match v, s with
  | .ref _, .stream i =>
    match (← get).cell? i with
    | some (.stream kind rest) => let _ ← lengthHint kind rest
    | _ => pure ()
  | _, .fixed elements => if maxLength ≤ elements.length then fail .lengthTooLarge
  | _, _ => pure ()

/-- All elements of an iterable value, in order. An iterator is asked how much is left, and
emptied. -/
def iterate (v : Value) : M (List Value) := do
  let s ← Source.ofValue v
  checkLength v s
  s.drain

end TemplateEngine
