import TemplateEngine.Contents
/-!
The kinds of values: primitives, numbers, texts, arrays, dates, mappings, and what can be iterated.
-/
namespace TemplateEngine

/-- The exact types that count as primitive. -/
def Value.isPrimitive : Value → Bool
  | .null | .bool _ | .int _ | .float _ | .complex .. => true
  | _ => false

def Value.isDate : Value → Bool
  | .date _ | .moment _ | .instant _ | .brokenTime _ => true
  | _ => false

namespace World

/-- Numbers of any type, truth values left out. -/
def isNumeric (w : World) (v : Value) : Bool :=
  match w.base v with
  | .int _ | .float _ | .complex .. | .decimal _ | .fraction _ => true
  | _ => false

/-- The text, if the value is one; members of text enumerations and texts of own classes count. -/
def text? (w : World) (v : Value) : Option String :=
  match w.base v with
  | .text s => some s
  | _ => none

/-- The bytes, if the value is a byte string. -/
def bytes? (w : World) (v : Value) : Option (List UInt8) :=
  match w.base v with
  | .bytes b => some b
  | .ref i =>
    match w.cell? i with
    | some (.bytearray b) => some b
    | _ => none
  | _ => none

def isText (w : World) (v : Value) : Bool := (w.text? v).isSome || (w.bytes? v).isSome

def isTuple (w : World) (v : Value) : Bool :=
  match w.baseCell? v with
  | some (.tuple _) => true
  | _ => false

def isArray (w : World) (v : Value) : Bool :=
  match w.baseCell? v with
  | some (.tuple _) | some (.array ..) => true
  | _ => false

def isMapping (w : World) (v : Value) : Bool := (w.mapping? v).isSome

def isSequence (w : World) (v : Value) : Bool :=
  match v with
  | .view .. => true
  | v => (w.sequence? v).isSome

def isSet (w : World) (v : Value) : Bool :=
  match v with
  | .part _ .keys _ | .part _ .items _ => true
  | v =>
    match w.baseCell? v with
    | some (.set ..) => true
    | _ => false

def isEnumType (w : World) (v : Value) : Bool := (w.enumClass? v).isSome

def stream? (w : World) (v : Value) : Option (Stream × List Value) :=
  match v with
  | .ref i =>
    match w.cell? i with
    | some (.stream kind rest) => some (kind, rest)
    | _ => none
  | _ => none

def isIterator (w : World) (v : Value) : Bool := (w.stream? v).isSome

def isIterable (w : World) (v : Value) : Bool :=
  w.isSequence v || w.isMapping v || (w.repeatable? v).isSome || w.isSet v || w.isIterator v

/-- The number of elements of a value that knows it: a sequence, a mapping, a set, an enumeration
class, a view, or a collection of its own kind. A flag value has as many as it has bits. -/
def size? (w : World) : Value → Option Nat
  | .view _ target => w.size? target
  | .flags _ bits => some (bitCount bits)
  | v =>
    match w.sequence? v with
    | some elements => some elements.length
    | none =>
      match w.mapping? v with
      | some entries => some entries.length
      | none =>
        match v with
        | .part _ .items target => (w.mapping? target).map List.length
        | v =>
          match w.baseCell? v with
          | some (.bag _) => none
          | _ => (w.repeatable? v).map List.length

/-- Arrays, iterables and iterators; neither texts nor mappings nor broken-down times. -/
def isCollection (w : World) (v : Value) : Bool :=
  if w.isText v || w.isMapping v then false
  else match v with
    | .brokenTime _ => false
    | v => w.isArray v || w.isIterable v

/-- The sequence, or whatever stands in its place, behind all views around it. -/
def behindViews : Value → Value
  | .view _ target => behindViews target
  | v => v

end World

/-- The length of a value. -/
def lengthOf (v : Value) : M Nat := do
  let w ← get
  match w.size? v with
  | some n => if n < maxLength then return n else fail .lengthTooLarge
  | none => fail (.noLength (w.typeInMessages (World.behindViews v)))

/-- The plain truth of a value: numbers differ from zero, texts and collections hold something. -/
def isTruthy (v : Value) : M Bool := do
  let w ← get
  match w.base v with
  | .null => return false
  | .bool b => return b
  | .int n => return n != 0
  | .float x => return !x.isZero
  | .complex re im => return !(re.isZero && im.isZero)
  | .decimal d => return !d.isZero
  | .fraction q => return !q.isZero
  | .text s => return !s.isEmpty
  | .range i j k => return 0 < Elements.rangeLength i j k
  | .type _ => return true
  | .view .. => return (← lengthOf v) != 0
  | _ => match w.size? v with
    | some n => return n != 0
    | none => return true

/-- The integer that a value is, or stands for as an index. -/
def World.integer? (w : World) (v : Value) : Option Int :=
  match w.base v with
  | .int n => some n
  | .bool b => some (if b then 1 else 0)
  | _ => none

/-- The text of a name; only texts are names. -/
def World.nameText (w : World) (key : Value) : Except Fault String :=
  match w.text? key with
  | some s => .ok s
  | none => .error (.nameNotText (w.typeName key))

def nameOf (key : Value) : M String := do liftResult ((← get).nameText key)

/-- The folded form of a name. -/
def foldName (key : Value) : M String := return Text.foldCase (← nameOf key)

end TemplateEngine
