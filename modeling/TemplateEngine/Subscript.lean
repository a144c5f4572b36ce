import TemplateEngine.Bindings
/-!
Elements under an index or a key, slices, and membership, as each kind of value allows them. A view
leaves all of it to what is behind it.
-/
namespace TemplateEngine

/-- How a sequence speaks of its indices: when one is no integer, and when one is out of range. -/
def World.indexWords (w : World) (v : Value) : IndexStyle × String :=
  match w.base v, w.baseCell? v with
  | .text _, _ => (.text, "string index")
  | .bytes _, _ => (.sliceable "byte", "index")
  | .range .., _ => (.sliceable "range", "range object index")
  | _, some (.list _) => (.sliceable "list", "list index")
  | _, some (.deque _) => (.deque, "deque index")
  | _, some (.array ..) => (.array, "array index")
  | _, some (.bytearray _) => (.sliceable "bytearray", "bytearray index")
  | _, _ => (.sliceable "tuple", "tuple index")

/-- Whether an index is too large to be looked at. Those of a range never are. -/
def Elements.refuses (e : Elements) (index : Int) : Bool :=
  match e with
  | range .. => false
  | list _ => index < -(maxLength : Int) || (maxLength : Int) ≤ index

/-- The element at an index; a negative one counts from the end. -/
def elementOf (v : Value) (elements : Elements) (index : Value) : M Value := do
  let w ← get
  let (style, name) := w.indexWords v
  match w.integer? index with
  | none => fail (.wrongIndex style (w.typeInMessages index))
  | some n =>
    if elements.refuses n then fail (.indexTooLarge (w.typeInMessages index))
    else
      let i := if n < 0 then n + elements.length else n
      match (if i < 0 then none else elements.get? i.toNat) with
      | some x => asObject x
      | none => fail (.indexOutOfRange name)

/-- The value of a key in a mapping. -/
def entryOf (v key : Value) (entries : List (Value × Value)) : M Value := do
  match (← get).baseCell? v with
  | some (.bindings _) => Bindings.read v key
  | _ =>
    match ← lookUpEntry entries key with
    | some x => return x
    | none => Bindings.missing key

/-- A value that has no elements under indices or keys is asked for one. -/
def refuseElement {α : Type} (v : Value) : M α := do
  let w ← get
  match v with
  | .type c => fail (.classNotSubscriptable (Classes.simpleName w.classes c))
  | v => fail (.notSubscriptable (w.typeInMessages v))

/-- The element of a sequence at an index, the value of a mapping under a key, or the member of an
enumeration class with a name. -/
def itemOf (v key : Value) : M Value := do
  let w ← get
  let v := World.behindViews v
  match w.sequence? v, w.mapping? v, w.enumClass? v with
  | some elements, _, _ => elementOf v elements key
  | none, some entries, _ => entryOf v key entries
  | none, none, some c =>
    match (w.text? key).bind (w.memberNamed? c) with
    | some x => return x
    | none => do
      liftResult (w.hash key)
      Bindings.missing key
  | none, none, none => refuseElement v

namespace Slice

/-- An end of a slice, moved into the range of a sequence. -/
def clamp (n low high : Int) (bound : Option Int) (default_ : Int) : Int :=
  match bound with
  | none => default_
  | some b =>
    let b := if b < 0 then b + n else b
    max low (min b high)

/-- The first position of a slice, and the one where it ends. -/
def ends (n : Nat) (start stop : Option Int) (step : Int) : Int × Int :=
  if 0 < step then (clamp n 0 n start 0, clamp n 0 n stop n)
  else (clamp n (-1) (n - 1) start (n - 1), clamp n (-1) (n - 1) stop (-1))

/-- The positions of a slice, one `step` after the other. -/
def positions (n : Nat) (start stop : Option Int) (step : Int) : List Nat :=
  let (first, last) := ends n start stop step
  (List.range (Elements.rangeLength first last step)).map fun i => (first + step * (i : Nat)).toNat

/-- An end or step of a slice; nothing stands for the usual one. -/
def bound (v : Value) : M (Option Int) := do
  match v, (← get).integer? v with
  | .null, _ => return none
  | _, some n => return some n
  | _, none => fail .wrongSlice

end Slice

/-- The elements at some positions, as a sequence of the same kind. -/
def selection (v : Value) (elements : Elements) (positions : List Nat) : M Value := do
  let w ← get
  match w.text? v, w.bytes? v, w.baseCell? v with
  | some s, _, _ => return .text (String.ofList (positions.filterMap fun i => s.toList[i]?))
  | none, some bytes, cell =>
    let bytes := positions.filterMap fun i => bytes[i]?
    match cell with
    | some (.bytearray _) => alloc (.bytearray bytes)
    | _ => return .bytes bytes
  | none, none, some (.list items) => newList (positions.filterMap fun i => items[i]?)
  | none, none, some (.array code items) =>
    alloc (.array code (positions.filterMap fun i => items[i]?))
  | none, none, _ => newTuple (← asObjects (positions.filterMap elements.get?))

/-- The elements at the positions of a slice. A view gives them as a tuple. -/
def sliceOf (v start stop step : Value) : M Value := do
  let w ← get
  let isView := match v with
    | .view .. => true
    | _ => false
  let v := World.behindViews v
  match w.sequence? v, w.baseCell? v with
  | _, some (.deque _) => fail .notSliceable
  | _, some (.bindings _) => fail (.nameNotText "slice")
  | some elements, _ =>
    let step := (← Slice.bound step).getD 1
    if step = 0 then fail .zeroStep
    let start ← Slice.bound start
    let stop ← Slice.bound stop
    let positions := Slice.positions elements.length start stop step
    match isView, elements with
    | true, _ => newTuple (← asObjects (positions.filterMap elements.get?))
    | false, .range first _ stride =>
      let (i, j) := Slice.ends elements.length start stop step
      return .range (first + i * stride) (first + j * stride) (stride * step)
    | false, _ => selection v elements positions
  | none, _ =>
    if w.isMapping v || w.isEnumType v then fail (.unhashable "slice") else refuseElement v

/-- Whether a list stands somewhere in another. -/
def standsIn {α : Type} [BEq α] (pat : List α) : List α → Bool
  | [] => pat.isEmpty
  | a :: rest => pat.isPrefixOf (a :: rest) || standsIn pat rest

/-- Whether a value is a byte among the given ones, or holds octets that stand somewhere in them. -/
def bytesContain (w : World) (bytes : List UInt8) (x : Value) : Except Fault Bool :=
  match w.integer? x, w.octets? x with
  | some n, _ =>
    if 0 ≤ n ∧ n < 256 then .ok (bytes.contains (UInt8.ofNat n.toNat)) else .error .byteOutOfRange
  | none, some part => .ok (standsIn part bytes)
  | none, none => .error (.notInBytes (w.typeInMessages x))

/-- Whether a range has an integer among its elements. -/
def rangeContains (start stop step n : Int) : Bool :=
  (if 0 < step then start ≤ n ∧ n < stop else stop < n ∧ n ≤ start) && (n - start) % step == 0

/-- Looks for the first element that satisfies a test; what an iterator gave before is gone. -/
def findElement (test : Value → M Bool) (s : Source) : (left turn : Nat) → M (Option Nat)
  | 0, _ => return none
  | left + 1, turn => do
    match ← s.at? turn with
    | none => return none
    | some x => if ← test x then return some turn else findElement test s left (turn + 1)

/-- The position of the first element that is the value or equal to it. -/
def positionOf? (v x : Value) : M (Option Nat) := do
  let w ← get
  let s ← Source.ofValue v
  let bulk := w.bulk
  findElement (fun y => liftResult (w.agreeFrom bulk y x)) s (s.count w) 0

/-- Whether a set is looked for in a set: it is then taken as one that cannot change. -/
def World.isSearchedAsFrozen (w : World) (v x : Value) : Bool :=
  match w.baseCell? v, w.baseCell? x with
  | some (.set ..), some (.set ..) => true
  | _, _ => false

/-- Whether a value is a member of an enumeration class under a name of its own. Values that are no
members of any class are refused. -/
def isMemberOf (c : ClassId) (x : Value) : M Bool := do
  let w ← get
  match x with
  | .member e _ => return .declared e = c
  | .flags e bits =>
    return .declared e = c && ((w.flagName? e bits).bind (w.memberNamed? c)).isSome
  | x =>
    fail (.notMemberOf (w.qualifiedName (w.classOf x)) (w.qualifiedName (w.classOf (.type c))))

/-- Whether a flag value has all bits of another one of its class. -/
def hasFlags (e bits : Nat) (x : Value) : M Bool := do
  let w ← get
  let refused : M Bool :=
    fail (.notMemberOf (w.qualifiedName (w.classOf x)) (w.qualifiedName (.declared e)))
  match x with
  | .flags e' bits' => if e' = e then return bits' &&& bits == bits' else refused
  | _ => refused

/-- Whether a value is among the elements of another. A text is asked for a part of it, bytes for a
byte or a part, and mappings and sets for a key. -/
def isIn (v x : Value) : M Bool := do
  let w ← get
  let v := World.behindViews v
  match w.text? v, w.bytes? v, w.mapping? v with
  | some s, _, _ =>
    match w.text? x with
    | some t => return standsIn t.toList s.toList
    | none => fail (.notInText (w.typeInMessages x))
  | none, some bytes, _ => liftResult (bytesContain w bytes x)
  | none, none, some entries =>
    match w.baseCell? v with
    | some (.bindings _) => return (← Bindings.lookUp? v x).isSome
    | _ => return (← lookUpEntry entries x).isSome
  | none, none, none =>
    match v, w.shownScope? v, w.enumClass? v with
    | .part _ .keys b, some _, _ => return (← Bindings.lookUp? b x).isSome
    | .part _ .items b, some _, _ => Bindings.hasPair b x
    | _, _, some c => isMemberOf c x
    | .flags e bits, _, _ => hasFlags e bits x
    | _, _, _ =>
    match v, x, w.setElements? v with
    | .range start stop step, .int n, _ => return rangeContains start stop step n
    | .range start stop step, .bool b, _ =>
      return rangeContains start stop step (if b then 1 else 0)
    | .part _ .items target, x, _ =>
      match w.asTwo? x with
      | some (k, y) =>
        match ← lookUpEntry ((w.mapping? target).getD []) k with
        | some z => liftResult (w.agree z y)
        | none => return false
      | none => return false
    | _, _, some elements => do
      unless w.isSearchedAsFrozen v x do liftResult (w.hash x)
      liftResult (w.isAmong w.agree elements (.value x))
    | _, _, none =>
      if w.isIterable v then return (← positionOf? v x).isSome
      else fail (.notContainer (w.typeInMessages v))

end TemplateEngine
