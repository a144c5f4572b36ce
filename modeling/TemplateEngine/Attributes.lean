import TemplateEngine.Build
/-!
Attributes of values and calls. A computed attribute wins over the value's own attributes, and these
win over what its classes define. Routines are read as values of their own, bound to what they were
read from.
-/
namespace TemplateEngine

/-- The attributes kept by the value itself. -/
def World.ownAttributes (w : World) : Value → Table String Value
  | .ref i =>
    match w.cell? i with
    | some (.object _ attributes _) => attributes
    | _ => []
  | _ => []

/-- Whether instances of a class take attributes that no class declares. -/
def Classes.isOpen (cs : Classes) (c : ClassId) : Bool :=
  (cs.order c).any fun
    | .declared i => cs[i]?.any (!·.closed)
    | .standard s => s == .objectModel || s == .renderUnit

/-- Writes an attribute of a class. -/
def setMember (c : ClassId) (name : String) (x : Value) : M Unit :=
  match c with
  | .standard _ => return ()
  | .declared i => modify fun w =>
    { w with classes := w.classes.modify i fun info =>
        { info with members := info.members.insert name (.constant x) } }

/-- Writes an attribute of a value. -/
def setAttribute (v : Value) (name : String) (x : Value) : M Unit := do
  let w ← get
  let c := w.classOf v
  let refused : M Unit := fail (.noAttribute (w.typeInMessages v) name)
  match v with
  | .type c => setMember c name x
  | .ref i =>
    match w.cell? i, Classes.findMember? w.classes c name with
    | some (.object cls attributes base), found =>
      let store := setCell i (.object cls (attributes.insert name x) base)
      match found with
      | some (_, .computed _) => fail (.noSetter (w.qualifiedName c) name)
      | some (_, .native .optional .field) =>
        if name = "value" then fail (.frozenField name) else fail .lostClass
      | some (_, .slot) => store
      | _ =>
        if (w.content? v).isSome then fail .lostClass
        else if Classes.isOpen w.classes c then store else refused
    | _, _ => refused
  | _ => refused

/-- A routine as a value that it is read from gives it. -/
def newBound (owner : ClassId) (name : String) (receiver : Value) : M Value :=
  return .bound (← freshTag) owner name receiver

/-- The routines of built-in classes that are bound to the class. -/
def Standard.isOnClass (c : Standard) (name : String) : Bool :=
  c == .optional && (name == "of" || name == "empty")

/-- A member as the class itself gives it. -/
def memberOfClass (c owner : ClassId) (name : String) : Member → M (Option Value)
  | .constant v => return some v
  | .routine r =>
    if r.binding = .onClass then some <$> newBound owner name (.type c)
    else return some (.unbound owner name)
  | .native .enumeration .field => return none
  | .native s _ => do
    match s, name with
    | .optional, "EMPTY" => return some .emptyOptional
    | .brokenTime, "n_fields" => return some (.int 11)
    | .brokenTime, "n_sequence_fields" => return some (.int 9)
    | s, name =>
      if s.isOnClass name then some <$> newBound owner name (.type c)
      else return some (.unbound owner name)
  | _ => return some (.unbound owner name)

/-- A member that a value's own attributes may hide, as the value gives it. -/
def memberOfValue (v : Value) (c owner : ClassId) (name : String) : Member → M (Option Value)
  | .constant x => return some x
  | .routine r =>
    match r.binding with
    | .receiver => some <$> newBound owner name v
    | .static => return some (.unbound owner name)
    | .onClass => some <$> newBound owner name (.type c)
  | .native s _ => some <$> newBound owner name (if s.isOnClass name then .type c else v)
  | _ => return none

/-- The positional parameters, and whether any number of further arguments fits. -/
def Routine.positional (r : Routine) : List Param :=
  r.params.filter fun p => p.kind = .positional ∨ p.kind = .positionalOnly

def Routine.takesRest (r : Routine) : Bool := r.params.any (·.kind = .rest)

/-- Why a number of positional arguments does not fit the parameters, if it does not. -/
def Routine.misfit? (r : Routine) (given : Nat) : Option Fault :=
  let positional := r.positional
  let required := positional.filter (!·.hasDefault)
  let missing := (positional.drop given).filter (!·.hasDefault)
  let keywords := r.params.filter fun p => p.kind = .keywordOnly ∧ !p.hasDefault
  if positional.length < given && !r.takesRest then
    some (.tooManyArguments r.label required.length positional.length given)
  else if !missing.isEmpty then some (.missingArguments r.label (missing.map (·.name)))
  else if !keywords.isEmpty then some (.missingKeywords r.label (keywords.map (·.name)))
  else none

/-- The parameters of the built-in routines that may be called with arguments. -/
def nativeRoutine? (c : Standard) (name : String) : Option Routine :=
  let routine (params : List String) : Routine := {
    label := c.qualifiedName ++ "." ++ name
    binding := .receiver
    params := params.map (⟨·, .positional, false⟩)
    action := .give (.known .null) }
  match c, name with
  | .renderUnit, "get_property" => some (routine ["self", "name"])
  | .renderUnit, "get_property_names" => some (routine ["self"])
  | .renderUnit, "obj" => some (routine ["self"])
  | _, _ => none

/-- Calls a member of a built-in class; the first argument is the receiver. -/
def callNative (c : Standard) (name : String) (given : List Value) : M Value := do
  match nativeRoutine? c name with
  | some r =>
    match r.misfit? given.length, given with
    | some f, _ => fail f
    | none, [.unit u, key] => do
      let folded ← foldName key
      return (((← get).forest.subs u).get? folded |>.map Value.unit).getD .null
    | none, v :: rest => callAccessor c name v rest
    | none, [] => return .null
  | none =>
    match given with
    | [] => fail (.unboundCall (c.qualifiedName ++ "." ++ name))
    | v :: rest => callAccessor c name v rest

/-- A number increased by one. -/
def addOne (v : Value) : M Value := do
  let w ← get
  let more (x : Binary64) : Binary64 :=
    match x.exact with
    | .ratio r => Binary64.ofRatio ⟨r.num + r.den, r.den⟩
    | _ => x.marked 0
  match w.base v, w.baseCell? v with
  | .int n, _ => return .int (n + 1)
  | .bool b, _ => return .int (if b then 2 else 1)
  | .float x, _ => asObject (.float (more x))
  | .complex re im, _ =>
    asObject (.complex (more re) (if im.isZero then .zero false else im.marked 0))
  | .decimal d, _ =>
    asObject (← liftResult ((d.addOne .standard).mapError .decimal |>.map .decimal))
  | .fraction q, _ => return .fraction (Ratio.reduce (q.num + q.den) q.den)
  | .text _, _ => fail (.notSummable .concatenates "str")
  | .bytes _, _ => fail (.notSummable .bytes "bytes")
  | .brokenTime _, _ | _, some (.tuple _) => fail (.notSummable .concatenates "tuple")
  | _, some (.list _) => fail (.notSummable .concatenates "list")
  | _, some (.deque _) => fail (.notSummable .concatenates "deque")
  | _, some (.bytearray _) => fail (.notSummable .bytes "bytearray")
  | _, some (.array ..) => fail (.notSummable .appends "array")
  | _, _ => fail (.notAddable (w.typeInMessages v))

/-- Runs an action with its arguments. -/
def perform (d : Dispatch) (action : Action) (binding : Binding) (given : List Value) :
    M Value := do
  let self := given.headD .null
  match action with
  | .give r => build d r
  | .fail kind text => fail (.raised kind text)
  | .read name => d.readFrom self name
  | .increment name => do
    let v ← addOne (← d.readFrom self name)
    setAttribute self name v
    return v
  | .lookUp keys values => do
    let entries ← insertEntries [] ((← buildAll d keys).zip (← buildAll d values))
    let key := (if binding = .static then given else given.tail).headD .null
    return (← lookUpEntry entries key).getD .null

/-- Reads an attribute; `none` if there is none. -/
def readAttribute (d : Dispatch) (v : Value) (name : String) : M (Option Value) := do
  let w ← get
  let c := w.classOf v
  let found := Classes.findMember? w.classes c name
  match v with
  | .type cls =>
    match Classes.findMember? w.classes cls name, found with
    | some (owner, m), _ => memberOfClass cls owner name m
    | none, some (owner, .native _ .accessor) => some <$> newBound owner name v
    | none, _ => return none
  | v =>
    let own := (w.ownAttributes v).get? name
    match found with
    | some (_, .computed action) => some <$> perform d action .receiver [v]
    | some (_, .slot) => return own
    | some (_, .position i) =>
      match w.baseCell? v with
      | some (.tuple items) => return items[i]?
      | _ => return none
    | some (_, .native s .field) => readField s name v
    | some (owner, m) => if own.isSome then return own else memberOfValue v c owner name m
    | none => return own

def callRoutine (d : Dispatch) (r : Routine) (given : List Value) : M Value :=
  match r.misfit? given.length with
  | some f => fail f
  | none => perform d r.action r.binding given

/-- Calls a member of a class with all its arguments. -/
def callMember (d : Dispatch) (owner : ClassId) (name : String) (given : List Value) :
    M Value := do
  let cs := (← get).classes
  match Classes.ownMember? cs owner name with
  | some (.routine r) => callRoutine d r given
  | some (.native s use) =>
    if use = .field then fail (.notCallable (Classes.accessClass cs owner name).nameInMessages)
    else callNative s name given
  | _ => fail (.notCallable (Classes.accessClass cs owner name).nameInMessages)

/-- The arguments of a routine that is read from a value. -/
def Routine.given (r : Routine) (v : Value) (c : ClassId) (arguments : List Value) : List Value :=
  match r.binding with
  | .receiver => v :: arguments
  | .static => arguments
  | .onClass => .type c :: arguments

/-- Calls a value: a routine, a class, or an object whose class says what a call does. -/
def callValue (d : Dispatch) (v : Value) (arguments : List Value) : M Value := do
  let w ← get
  match v with
  | .bound _ owner name receiver => callMember d owner name (receiver :: arguments)
  | .unbound owner name =>
    match owner, arguments with
    | .standard s, x :: _ =>
      if s.isScripted || Classes.isSubclass w.classes (w.classOf x) owner then
        callMember d owner name arguments
      else fail (.wrongReceiver name s.qualifiedName (w.typeInMessages x))
    | _, _ => callMember d owner name arguments
  | .type c => Construction.construct d c arguments
  | v =>
    let c := w.classOf v
    match Classes.findMember? w.classes c "__call__" with
    | some (_, .routine r) => callRoutine d r (r.given v c arguments)
    | _ => fail (.notCallable (w.typeInMessages v))

/-- The text of a value: what its class's own text method gives, or else its plain text. -/
def textFrom (d : Dispatch) (v : Value) : M Value := do
  let w ← get
  let c := w.classOf v
  let plain : M Value := do return .text (← liftResult (w.plainText v))
  let checked (result : Value) : M Value := do
    if ((← get).text? result).isSome then return result
    else fail (.textNotText ((← get).typeInMessages result))
  match v with
  | .type _ => plain
  | v =>
    match Classes.findMember? w.classes c "__str__" with
    | some (_, .routine r) => do checked (← callRoutine d r (r.given v c []))
    | some (_, .constant x) => do checked (← d.call x [])
    | some (_, .computed action) => do checked (← d.call (← perform d action .receiver [v]) [])
    | _ => plain

namespace Dispatch

/-- Reading, calling and writing values as text, up to a depth of nesting. -/
def within : (fuel : Nat) → Dispatch
  | 0 => ⟨fun _ => fail .nestedTooDeep, fun _ _ => fail .nestedTooDeep,
      fun _ _ => fail .nestedTooDeep⟩
  | fuel + 1 =>
    { text := fun v => textFrom (within fuel) v
      read := fun v name => readAttribute (within fuel) v name
      call := fun v arguments => callValue (within fuel) v arguments }

/-- Attributes that need each other deeper than this cannot be read. -/
def maxDepth : Nat := 500

def full : Dispatch := within maxDepth

end Dispatch

def getAttribute (v : Value) (name : String) : M (Option Value) := Dispatch.full.read v name

def call (v : Value) (arguments : List Value) : M Value := Dispatch.full.call v arguments

/-- Makes a value. -/
def make (r : Recipe) : M Value := build Dispatch.full r

def makeAll (rs : List Recipe) : M (List Value) := buildAll Dispatch.full rs

/-- The text of a value as a value: a text of an own class is kept. -/
def textValueOf (v : Value) : M Value := Dispatch.full.text v

def textOf (v : Value) : M String := do
  let t ← textValueOf v
  return ((← get).text? t).getD ""

end TemplateEngine
