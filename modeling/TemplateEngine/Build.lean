import TemplateEngine.Packing
/-!
Making values and classes from their descriptions.
-/
namespace TemplateEngine

namespace World

/-- The class of a name; among declared classes the last one of the name. -/
def classNamed? (w : World) (name : String) : Option ClassId :=
  match (List.range w.classes.size).reverse.find? fun i => (w.class? i).any (·.name == name) with
  | some i => some (.declared i)
  | none => (Standard.named.lookup name).map .standard

end World

def classNamed (name : String) : M ClassId := do
  match (← get).classNamed? name with
  | some c => return c
  | none => fail (.missingKey (Text.quoted name))

def addClass (info : Nat → ClassInfo) : M Nat :=
  modifyGet fun w => (w.classes.size, { w with classes := w.classes.push (info w.classes.size) })

/-- The class of named tuples with the given fields. -/
def newTupleClass (label : String) (fields : List String) : M Nat :=
  addClass fun i => {
    name := label
    kind := .plain
    bases := [.standard .tuple]
    order := [.declared i, .standard .tuple, .standard .object]
    members := fields.zipIdx.map fun (f, k) => (f, .position k)
    annotations := []
    names := []
    fields := some fields
    closed := true }

def newCollection (kind : CollectionKind) (items : List Value) : M Value :=
  match kind with
  | .list => newList items
  | .tuple => newTuple items
  | .deque => alloc (.deque items)
  | .set => do alloc (.set false (← insertElements [] items))
  | .frozenSet => do alloc (.set true (← insertElements [] items))
  | .bag => alloc (.bag items)
  | .sized => alloc (.sized items)
  | .array code => do
    if !Packing.codes.contains code then fail (.unpackable .badCode)
    alloc (.array code (← items.mapM (Packing.element code)))
  | .stream kind => alloc (.stream kind items)

def newTable (kind : TableKind) (entries : List (Value × Value)) : M Value :=
  match kind with
  | .bindings => do Bindings.ofEntries (← insertEntries [] entries)
  | .dict => do alloc (.dict false (← insertEntries [] entries))
  | .fluent => do alloc (.dict true (← insertEntries [] entries))
  | .readOnly => do
    let target ← alloc (.dict false (← insertEntries [] entries))
    return .readOnly (← freshTag) target
  | .part which => do
    let target ← alloc (.dict false (← insertEntries [] entries))
    return .part (← freshTag) which target

/-- The member of an enumeration with a name. -/
def memberNamed (c : ClassId) (name : String) : M Value := do
  match (← get).memberNamed? c name with
  | some v => return v
  | none => fail (.missingKey (Text.quoted name))

/-- The flag value of a number: a member of its own, or else what the single-bit members in it make
together. -/
def flagsOf (c : ClassId) (bits : Nat) : M Value := do
  let w ← get
  match c with
  | .standard _ => fail (.missingKey (Text.quoted (w.qualifiedName c)))
  | .declared i =>
    let names := ((w.class? i).map (·.names)).getD []
    if names.any fun n => n.value == .int bits then return .flags i bits
    else return .flags i ((w.flagParts i bits).foldl (fun sum part => match part with
      | .flags _ bit => sum ||| bit
      | _ => sum) 0)

mutual

/-- Makes a value. -/
def build (d : Dispatch) : Recipe → M Value
  | .known v => return v
  | .number v => return v.marked (← freshTag)
  | .bytearray b => alloc (.bytearray b)
  | .collection kind items => do newCollection kind (← buildAll d items)
  | .table kind keys values => do
    let keys ← buildAll d keys
    let values ← buildAll d values
    newTable kind (keys.zip values)
  | .view target => do
    let target ← build d target
    return .view (← freshTag) target
  | .optional content => do
    let content ← build d content
    newOptional content
  | .named label fields values => do
    let items ← buildAll d values
    let cls ← newTupleClass label fields
    let base ← alloc (.tuple items)
    alloc (.object cls [] (some base))
  | .type name => return .type (← classNamed name)
  | .member enumeration name => do memberNamed (← classNamed enumeration) name
  | .flags enumeration bits => do flagsOf (← classNamed enumeration) bits
  | .object cls names values base => do
    let base ← buildAll d base
    let values ← buildAll d values
    Construction.newObject d (← classNamed cls) (names.zip values) base.head?
  | .accessor name owner => return .accessor name (← classNamed owner)
  | .unit name => do
    match (← get).unitNames.get? name with
    | some u => return .unit u
    | none => fail (.missingKey (Text.quoted name))
  | .variable name => do
    match (← get).named.get? name with
    | some v => return v
    | none => fail (.missingKey (Text.quoted name))

def buildAll (d : Dispatch) : List Recipe → M (List Value)
  | [] => return []
  | r :: rest => do
    let v ← build d r
    return v :: (← buildAll d rest)

end

def buildEach (d : Dispatch) : List (String × Recipe) → M (Table String Value)
  | [] => return []
  | (name, r) :: rest => do
    let v ← build d r
    return (name, v) :: (← buildEach d rest)

/-- Numbers the names of an enumeration; a name whose value came before stands for the earlier
one. -/
def enumNames (agree : Value → Value → Except Fault Bool) (done : List EnumName) :
    List (String × Value) → Except Fault (List EnumName)
  | [] => .ok done
  | (name, v) :: rest => do
    let index := ((← Construction.nameWith? agree v done).map (·.index)).getD done.length
    enumNames agree (done ++ [⟨name, v, index⟩]) rest

def ClassKind.standard : ClassKind → Standard
  | .plain => .object
  | .enumeration => .enumeration
  | .intEnumeration => .intEnumeration
  | .textEnumeration => .textEnumeration
  | .flagEnumeration => .flagEnumeration

/-- A value as the members of an enumeration hold it: an integer enumeration has no truth values. -/
def ClassKind.valueOf (kind : ClassKind) (v : Value) : Value :=
  match kind, v with
  | .intEnumeration, .bool b => .int (if b then 1 else 0)
  | _, v => v

def EnumName.member (kind : ClassKind) (cls : Nat) (n : EnumName) : Value :=
  match kind, n.value with
  | .flagEnumeration, .int bits => .flags cls bits.toNat
  | _, _ => .member cls n.index

/-- Declares a class. Its bases must have a common resolution order. -/
def declare (d : Dispatch) (r : ClassRecipe) : M Nat := do
  let given ← r.bases.mapM classNamed
  let bases :=
    if r.kind = .plain && !given.isEmpty then given else given ++ [.standard r.kind.standard]
  let attributes ← buildEach d r.attributes
  let values := (← buildEach d r.members).map fun (n, v) => (n, r.kind.valueOf v)
  let w ← get
  let names ← liftResult (enumNames w.agree [] values)
  match Classes.linearize w.classes bases with
  | none => fail .noCommonOrder
  | some rest =>
    addClass fun i =>
      let ownText := if r.kind = .textEnumeration
        then [("__str__", Member.native .textEnumeration .accessor)] else []
      { name := r.name
        kind := r.kind
        bases := bases
        order := .declared i :: rest
        members := Table.ofEntries
          (ownText ++
           attributes.map (fun (n, v) => (n, .constant v)) ++
           (r.slots.getD []).map (·, .slot) ++
           r.properties.map (fun (n, a) => (n, .computed a)) ++
           r.routines.map (fun (n, f) => (n, .routine f)) ++
           names.map (fun n => (n.name, .constant (n.member r.kind i))))
        annotations := r.annotations
        names := names
        fields := none
        closed := r.slots.isSome }

/-- Declares a unit of a class; it has no owner and no sub-units yet. -/
def addUnit (name : String) (cls : Nat) : M UnitId :=
  modifyGet fun w =>
    let u := w.forest.length
    (u, { w with
      forest := w.forest ++ [⟨none, []⟩]
      unitClasses := w.unitClasses.push cls
      unitNames := w.unitNames.insert name u })

def setVariable (name : String) (v : Value) : M Unit :=
  modify fun w => { w with named := w.named.insert name v }

end TemplateEngine
