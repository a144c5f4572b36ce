import TemplateEngine.Bindings.Update
import TemplateEngine.Class.Native
import TemplateEngine.Number.Loose
/-!
Values made by calling a class: numbers and texts out of other values, containers out of elements,
members out of their values, and instances of declared classes, which carry what the built-in class
that they extend makes of the argument.
-/
namespace TemplateEngine

namespace Construction

/-- The characters of a byte string; none of the others is part of a number. -/
def asciiChars (b : List UInt8) : List Char :=
  b.map fun x => if x < 128 then Char.ofNat x.toNat else '?'

/-- The length to which a text that spells no integer is shown. -/
def shownLength : Nat := 200

def integerSpelled (shown : String) (s : List Char) : M Int :=
  match Loose.integer? s with
  | none => fail (.misspeltInteger (String.ofList (shown.toList.take shownLength)))
  | some (negative, digits) =>
    match readInteger negative digits with
    | .ok n => return n
    | .error e => fail (.numeral e)

/-- The integer that a value spells, or its part before the point. -/
def integerOf (v : Value) : M Int := do
  let w ← get
  match w.text? v, w.octets? v with
  | some s, _ => integerSpelled (← displayed v) s.toList
  | none, some b => integerSpelled (Text.quotedBytes false b) (asciiChars b)
  | none, none =>
    match w.base v with
    | .int n => return n
    | .bool b => return if b then 1 else 0
    | .float x =>
      match x.exact with
      | .ratio q => return q.truncate
      | .infinite _ => fail (.unconvertible .floatInfinity)
      | .undefined => fail (.unconvertible .floatNaN)
    | .decimal d =>
      match d.truncate? with
      | some n => return n
      | none => fail (.unconvertible (if d.isNaN then .decimalNaN else .decimalInfinity))
    | .fraction q => return q.truncate
    | _ => fail (.notInteger (w.typeInMessages v))

/-- The nearest double to a real number; `none` if the value is no real number. -/
def nearest? (v : Value) : M (Option Binary64) := do
  match (← get).base v with
  | .float x => return some x
  | .bool b => return some (Binary64.ofRatio (.ofInt (if b then 1 else 0)))
  | .int n =>
    let x := Binary64.ofRatio (.ofInt n)
    if x.isFinite then return some x else fail .intTooLarge
  | .fraction q =>
    let x := Binary64.ofRatio q
    if x.isFinite then return some x else fail .ratioTooLarge
  | .decimal d =>
    if d.isSignaling then fail (.unconvertible .signalingNaN) else return some d.toBinary64
  | _ => return none

/-- The nearest double to the number that a value is or spells. -/
def realOf (v : Value) : M Binary64 := do
  let w ← get
  let spelled (s : List Char) : M Binary64 := do
    match Loose.real? s with
    | some x => return x
    | none => fail (.misspeltReal (← displayed v))
  match w.text? v, w.octets? v with
  | some s, _ => spelled s.toList
  | none, some b => spelled (asciiChars b)
  | none, none =>
    match ← nearest? v with
    | some x => return x
    | none => fail (.notReal (w.typeInMessages v))

/-- The elements of something that must be a pair, to be entry number `i` of a new mapping. -/
def entryFrom (i : Nat) (v : Value) : M (Value × Value) := do
  match ← attempt (iterate v) with
  | .ok [key, x] => return (key, x)
  | .ok items => fail (.entryOfLength i items.length)
  | .error f => if f.kindName = "TypeError" then fail (.entryNotPair i) else fail f

/-- A new mapping with the entries of another one, of an object that tells its keys, or of pairs. -/
def newMapping (d : Dispatch) (v : Value) : M Value := do
  let w ← get
  match w.mapping? v with
  | some entries => alloc (.dict false entries)
  | none =>
    let cell := w.cells.size
    let made ← alloc (.dict false [])
    if ← d.has v "keys" then
      let keys ← d.ask v "keys"
      match ← attempt (iterate keys) with
      | .ok keys => keys.forM fun key => do writeEntry cell key (← itemOf v key)
      | .error (.notIterable t) =>
        fail (.returnedNonIterable (w.typeInMessages v) "keys" t)
      | .error f => fail f
    else
      let _ ← forEachNumbered v fun i pair => do
        let (key, x) ← entryFrom i pair
        writeEntry cell key x
    return made

/-- What an instance carries: a text loses its class, and a NaN is no object of its own. -/
def plainBase (v : Value) : M Value := do
  match (← get).text? v with
  | some s => return .text s
  | none => return v.marked 0

/-- Calls a built-in class. -/
def ofStandard (d : Dispatch) (c : Standard) (arguments : List Value) : M Value := do
  let w ← get
  let tooMany : M Value := fail (.takesOne c.qualifiedName arguments.length)
  match c, arguments with
  | .int, [] => return .int 0
  | .int, [v] => return .int (← integerOf v)
  | .int, _ :: base :: _ => fail (.unpackable (.notInteger (w.typeInMessages base)))
  | .float, [] => return .float (Binary64.zero false)
  | .float, [v] => asObject (.float (← realOf v))
  | .text, [] => return .text ""
  | .text, [v] => d.text v
  | .text, _ => fail .notDecoded
  | .bool, [] => return .bool false
  | .bool, [v] => return .bool (← isTruthy v)
  | .list, [] => newList []
  | .list, [v] => newList (← iterate v)
  | .tuple, [] => return emptyTuple
  | .tuple, [v] => do
    match v, w.baseCell? v with
    | .ref i, some (.tuple _) => if let some (.tuple _) := w.cell? i then return v
    | _, _ => pure ()
    newTuple (← iterate v)
  | .dict, [] => alloc (.dict false [])
  | .dict, [v] => newMapping d v
  | .optional, [] => newOptional .null
  | .optional, [v] => newOptional v
  | .optional, more => fail (.tooManyArguments "OptionalValue.__init__" 1 2 (more.length + 1))
  | .float, _ | .bool, _ | .list, _ | .tuple, _ | .dict, _ => tooMany
  | .renderUnit, _ => fail (.abstractUnit c.qualifiedName)
  | c, [] => alloc (.blank c)
  | c, _ => fail (.takesNothing c.qualifiedName)

/-- The built-in class that instances of a class carry a value of, if any. -/
def carried? (cs : Classes) (c : ClassId) : Option Standard :=
  (cs.order c).findSome? fun
    | .standard s =>
      if [Standard.list, .tuple, .dict, .int, .text, .float, .optional].contains s then some s
      else none
    | .declared _ => none

/-- Whether a class is one of units, but does not say how to render. -/
def isAbstract (cs : Classes) (c : ClassId) : Bool :=
  match Classes.findMember? cs c "render_body" with
  | some (.standard .renderUnit, _) => true
  | _ => false

/-- The first name with a value. -/
def nameWith? (agree : Value → Value → Except Fault Bool) (v : Value) :
    List EnumName → Except Fault (Option EnumName)
  | [] => .ok none
  | n :: rest => do if ← agree n.value v then return some n else nameWith? agree v rest

/-- The member of an enumeration with a value; a member stands for itself. -/
def memberWith (cls : Nat) (v : Value) : M Value := do
  let w ← get
  let c := ClassId.declared cls
  if w.classOf v = c then return v
  let names := ((w.class? cls).map (·.names)).getD []
  match (← liftResult (nameWith? w.agree v names)).bind fun n => w.memberNamed? c n.name with
  | some m => return m
  | none => fail (.noMember (← displayed v) (w.qualifiedName c))

/-- Calls a class. -/
def construct (d : Dispatch) (c : ClassId) (arguments : List Value) : M Value := do
  let cs := (← get).classes
  match c with
  | .standard s => ofStandard d s arguments
  | .declared i =>
    if Classes.isEnumeration cs c then
      match arguments with
      | v :: _ => memberWith i v
      | [] => fail (.missingArguments "EnumType.__call__" ["value"])
    else match carried? cs c with
      | some s => do
        let base ← ofStandard d s arguments
        alloc (.object i [] (some (← plainBase base)))
      | none =>
        let name := Classes.simpleName cs c
        if isAbstract cs c then fail (.abstractUnit name)
        else if arguments.isEmpty then alloc (.object i [] none)
        else fail (.takesNothing name)

/-- An instance of a class with attributes of its own. The argument counts only for a class that
extends a built-in one. -/
def newObject (d : Dispatch) (c : ClassId) (attributes : Table String Value)
    (argument : Option Value) : M Value := do
  let cs := (← get).classes
  let carries := match c with
    | .standard _ => true
    | .declared _ => (carried? cs c).isSome
  let v ← construct d c (if carries then argument.toList else [])
  match v with
  | .ref i =>
    match (← get).cell? i with
    | some (.object cls _ base) => setCell i (.object cls (Table.ofEntries attributes) base)
    | _ => pure ()
  | _ => pure ()
  return v

end Construction

end TemplateEngine
