import TemplateEngine.Coercion
/-!
Resolution of properties: by index, in a mapping, among the members of an enumeration class, as a
public field, and at last through an accessor.
-/
namespace TemplateEngine

/-- Whether a number is too great to be compared with the finite floating-point numbers. -/
def overflowsFloat (num : Int) (den : Nat) : Bool :=
  !(Binary64.roundTo .double false num.natAbs den).isFinite

/-- The index that a number designates, cut toward zero; truth values, complex and infinite numbers
designate none. -/
def asIndex (p : Value) : M (Option Int) := do
  match (← get).base p with
  | .int n => if overflowsFloat n 1 then fail .intTooLarge else return some n
  | .decimal d => return d.truncate?
  | .float x =>
    match x.exact with
    | .ratio r => return some r.truncate
    | _ => return none
  | .fraction q =>
    if overflowsFloat q.num q.den then fail .ratioTooLarge else return some q.truncate
  | _ => return none

/-- The element at an index, if the index is in range. -/
def elementAt (elements : Elements) (index : Int) : Value :=
  if index < 0 then .null else (elements.get? index.toNat).getD .null

/-- The element of a collection at an index, if the index is in range. -/
def elementWithin (collection : Value) (index : Int) : M Value := do
  if index < 0 then return .null
  else if index < (← lengthOf collection) then itemOf collection (.int index)
  else return .null

/-- The element at an index of the sequence that a value stands for. The sequence itself is not
made. -/
def elementOfContent (v : Value) (index : Int) : M Value := do
  match (← get).enumClass? v with
  | some c => return elementAt (.list ((← get).enumMembers c)) index
  | none =>
    match ← collect v with
    | .itself | .copied | .viewed => elementWithin v index
    | .items items => asObject (elementAt (.list items) index)
    | .pairs entries =>
      match if index < 0 then none else entries[index.toNat]? with
      | some (key, x) => newTuple [key, x]
      | none => return .null

/-- The element of an ordered target with a content, which differs from the target if that is an
optional. Mappings and sets have no order. -/
def elementOfTarget (target content : Value) (index : Int) : M Value := do
  let w ← get
  if w.isMapping target || w.isSet target then return .null
  else elementOfContent content index

/-- The element of an ordered target; an optional stands for what it holds. -/
def getIndex (target : Value) (index : Int) : M Value := do
  elementOfTarget target ((← get).unwrap target) index

/-- The member of an enumeration class with a name. -/
def getEnumValue (target : Value) (name : String) : M Value := do
  match (← get).enumClass? target with
  | none => return .null
  | some c =>
    if name.isEmpty then return .null
    else match ← attempt (memberNamed c name) with
      | .ok v => return v
      | .error _ => return .null

/-- Whether a class member is called rather than read. -/
def Member.isRoutine : Member → Bool
  | .routine _ => true
  | .native _ use => use != .field
  | _ => false

/-- Whether a call without arguments through the instance fits: a positional first parameter is
bound unless the routine is static, and all others may be left out. -/
def Routine.needsNothing (r : Routine) : Bool :=
  let rest :=
    if r.binding = .static then r.params
    else match r.params with
      | p :: rest => if p.kind = .positional ∨ p.kind = .positionalOnly then rest else p :: rest
      | [] => []
  rest.all fun p => p.hasDefault || p.kind = .rest || p.kind = .keywords

def Member.needsNothing : Member → Bool
  | .routine r => r.needsNothing
  | .native _ use => use == .accessor
  | _ => false

/-- The spellings under which an accessor is looked for. -/
def accessorSpellings (name : String) : List String :=
  let capitalized := Text.upperFirst name
  [name, "get" ++ capitalized, "is" ++ capitalized, "get_" ++ name, "is_" ++ name]

def isPrivate (name : String) : Bool := Classes.isPrivateName name.toList

/-- What only the root class defines is no accessor, its text method apart. -/
def isAccessorAllowed (name : String) (owner : ClassId) : Bool :=
  owner != .standard .object || name == "__str__"

/-- The class member that one spelling names, if it is an accessor. -/
def accessorAt? (cs : Classes) (c : ClassId) (spelling : String) : Option (String × ClassId) :=
  if isPrivate spelling && spelling != "__str__" then none
  else match Classes.findMember? cs c spelling with
    | some (owner, m) =>
      if m.isRoutine && m.needsNothing then some (spelling, owner) else none
    | none => none

/-- The first spelling that names an accessor decides. -/
def findAccessor? (cs : Classes) (c : ClassId) (name : String) : Option (String × ClassId) :=
  if name.isEmpty then none
  else ((accessorSpellings name).findSome? (accessorAt? cs c)).filter fun (n, owner) =>
    isAccessorAllowed n owner

/-- Reads an attribute for a template: a missing one is nothing, and another failure is logged. -/
def readForTemplate (target : Value) (name : String) : M (Option Value) := do
  match ← attempt (getAttribute target name) with
  | .ok a => return a
  | .error f =>
    if f.isAttributeError then return none
    else
      report .warning
        ("Cannot read attribute '" ++ name ++ "' on object " ++ (← displayed target))
        (some f.kindName)
      return none

/-- Whether a name is an attribute of the value itself, or of its classes and no routine there. -/
def World.hasField (w : World) (target : Value) (name : String) : Bool :=
  Table.contains (w.ownAttributes target) name ||
    match Classes.findMember? w.classes (w.ownerClass target) name with
    | some (_, m) => !m.isRoutine
    | none => false

/-- Reads a public field: an attribute of the value or its classes that is no routine. The length of
an array counts as a field. -/
def getField (target : Value) (name : String) : M Value := do
  let w ← get
  if target = .null || name.isEmpty then return .null
  else if w.isArray target && name == "length" then
    return .int ((w.sequence? target).map Elements.length |>.getD 0)
  else if isPrivate name then return .null
  else
    if !w.hasField target name then return .null
    else if (Classes.publicOwner? w.classes (w.ownerClass target) name).isNone then return .null
    else return (← readForTemplate target name).getD .null

/-- Reads a method for a template and calls it. A failing call is logged and gives nothing. -/
def callNamed (target : Value) (spelling : String) : M Value := do
  match ← readForTemplate target spelling with
  | none | some .null => return .null
  | some method =>
    match ← attempt (call method []) with
    | .ok v => return v
    | .error f =>
      report .warning
        ("Cannot access method '" ++ spelling ++ "' on object " ++ (← displayed target))
        (some f.kindName)
      return .null

/-- Calls the accessor of a property. -/
def invokeAccessor (target : Value) (name : String) : M Value := do
  let w ← get
  if target = .null || name.isEmpty then return .null
  else
    let c := w.ownerClass target
    match findAccessor? w.classes c name with
    | none => return .null
    | some (spelling, _) =>
      if (Classes.publicOwner? w.classes c spelling).isNone then
        report .debug
          ("Method '" ++ spelling ++ "' is not exposed by a public type of " ++ w.qualifiedName c)
          none
        return .null
      else callNamed target spelling

/-- The entry of a mapping; a key that the mapping refuses has none. -/
def getEntry (target key : Value) : M Value := do
  let w ← get
  match w.baseCell? target with
  | some (.bindings scope) =>
    match w.text? key with
    | some s => return (scope.get? s).getD .null
    | none => return .null
  | _ =>
    match ← attempt (lookUpEntry ((w.mapping? target).getD []) key) with
    | .ok v => return v.getD .null
    | .error f => if f.kindName = "TypeError" then return .null else fail f

/-- Runs `next` when nothing was found so far. -/
def orElse (found : Value) (next : M Value) : M Value :=
  if found = .null then next else return found

/-- Resolves a name on a target that is no optional. -/
def resolveName (target prop : Value) (name : String) : M Value := do
  let inMapping ← if (← get).isMapping target then getEntry target prop else pure .null
  orElse inMapping do
    orElse (← getEnumValue target name) do
      orElse (← getField target name) do
        invokeAccessor target name

/-- The element that a number designates in a target with a content, or nothing. -/
def indexTarget (target content prop : Value) : M Value := do
  match ← asIndex prop with
  | some index => elementOfTarget target content index
  | none => return .null

/-- The element that a number designates, or nothing. -/
def resolveIndex (target prop : Value) : M Value := do
  indexTarget target ((← get).unwrap target) prop

/-- Goes on with the name of a property, if it has one. -/
def withName (prop : Value) (next : String → M Value) : M Value := do
  match ← templateText? prop with
  | none => return .null
  | some name => if name.isEmpty then return .null else next name

/-- Resolves a property through the layers of a target, from the outermost optional to the content
that the last one holds: the element at an index first, then what the name of the property stands
for, which only the content is asked. -/
def resolveThrough (prop content : Value) : List Value → M Value
  | [] => return .null
  | target :: inner => do
    if target = .null || prop = .null then return .null
    else
      let found ← indexTarget target content prop
      orElse found (withName prop fun name =>
        if inner.isEmpty then resolveName target prop name
        else resolveThrough prop content inner)

/-- Resolves a property. -/
def resolveProperty (target prop : Value) : M Value := do
  let w ← get
  resolveThrough prop (w.unwrap target) (w.layers target)

end TemplateEngine
