import TemplateEngine.World
/-!
The class hierarchy: names, resolution orders, and the search for the class through which a member
may be reached.
-/
namespace TemplateEngine

/-- The declared classes; a class comes after its bases. -/
abbrev Classes := Array ClassInfo

namespace Classes

def qualifiedName (cs : Classes) : ClassId → String
  | .standard c => c.qualifiedName
  | .declared i => (cs[i]?.map (·.name)).getD ""

def moduleName : ClassId → String
  | .standard c => c.names.1
  | .declared _ => "app"

def fullName (cs : Classes) (c : ClassId) : String := moduleName c ++ "." ++ cs.qualifiedName c

/-- The parts of a qualified name. -/
def nameParts (name : String) : List (List Char) := Text.splitAtEach '.' name.toList

/-- The last part of the qualified name. -/
def simpleName (cs : Classes) (c : ClassId) : String :=
  String.ofList ((nameParts (cs.qualifiedName c)).getLastD [])

def bases (cs : Classes) : ClassId → List ClassId
  | .standard c => (c.ancestors.map .standard).take 1
  | .declared i => (cs[i]?.map (·.bases)).getD []

/-- The classes in which members are looked up, the class itself first. -/
def order (cs : Classes) : ClassId → List ClassId
  | .standard c => .standard c :: c.ancestors.map .standard
  | .declared i => (cs[i]?.map (·.order)).getD [.declared i]

def isSubclass (cs : Classes) (c ancestor : ClassId) : Bool := (cs.order c).contains ancestor

/-- Whether the class is an enumeration. -/
def isEnumeration (cs : Classes) (c : ClassId) : Bool := cs.isSubclass c (.standard .enumeration)

/-- The member that the class itself defines under a name. -/
def ownMember? (cs : Classes) (c : ClassId) (name : String) : Option Member :=
  match c with
  | .standard s => (s.members.lookup name).map (.native s)
  | .declared i => cs[i]?.bind (·.members.get? name)

/-- The first class in resolution order that defines a name, with what it means there. -/
def findMember? (cs : Classes) (c : ClassId) (name : String) : Option (ClassId × Member) :=
  (cs.order c).findSome? fun owner => (cs.ownMember? owner name).map (owner, ·)

/-- Whether the class defines or annotates a name. -/
def declares (cs : Classes) (c : ClassId) (name : String) : Bool :=
  (cs.ownMember? c name).isSome ||
    match c with
    | .standard _ => false
    | .declared i => (cs[i]?.map (·.annotations.contains name)).getD false

def isPrivateName (name : List Char) : Bool := name.head? == some '_'

/-- A class is public when no part of its qualified name begins with an underscore. -/
def isPublic (cs : Classes) (c : ClassId) : Bool :=
  !(nameParts (cs.qualifiedName c)).any isPrivateName

/-- A public class through which a member of `c` may be reached. A private class follows each base
up to the first class that declares the name; `fuel` bounds the climb. -/
def climb (cs : Classes) (name : String) : (fuel : Nat) → ClassId → Option ClassId
  | 0, _ => none
  | fuel + 1, c =>
    if cs.isPublic c then some c
    else (cs.bases c).findSome? fun base =>
      match (cs.order base).find? (cs.declares · name) with
      | some declaring => climb cs name fuel declaring
      | none => none

/-- Each step of the climb goes to an earlier class, and a private built-in class has only public
ancestors, so one step for each declared class and two for the built-in ones are enough. -/
def publicOwner? (cs : Classes) (c : ClassId) (name : String) : Option ClassId :=
  climb cs name (cs.size + 2) c

/-- The first head of the lists that stands in no tail. -/
def goodHead? (lists : List (List ClassId)) : Option ClassId :=
  (lists.filterMap List.head?).find? fun c => lists.all fun l => !l.tail.contains c

/-- Merges resolution orders: each class comes before its ancestors, and the order of each list is
kept. `fuel` bounds the length. -/
def merge : (fuel : Nat) → List (List ClassId) → Option (List ClassId)
  | 0, _ => none
  | fuel + 1, lists =>
    let lists := lists.filter (!·.isEmpty)
    if lists.isEmpty then some []
    else
      (goodHead? lists).bind fun c =>
        (merge fuel (lists.map (·.filter (· != c)))).map (c :: ·)

/-- The resolution order of a class with the given bases, without the class itself. -/
def linearize (cs : Classes) (bases : List ClassId) : Option (List ClassId) :=
  let lists := bases.map cs.order ++ [bases]
  merge (lists.flatten.length + 1) lists

/-- The class of a member that is read without a value. -/
def accessClass (cs : Classes) (owner : ClassId) (name : String) : Standard :=
  match cs.ownMember? owner name with
  | some (.computed _) => .property
  | some .slot => .slotAccess
  | some (.position _) => .positionAccess
  | some (.native s .field) =>
    if s.isSlot name then .slotAccess else if s.isScripted then .property else .fieldAccess
  | some (.native s _) =>
    if s.isScripted then .function
    else if name = "__str__" then .textMethodAccess else .methodAccess
  | _ => .function

/-- The class of a routine that is bound to a value. -/
def boundClass (owner : ClassId) (name : String) : Standard :=
  match owner with
  | .standard s =>
    if s.isScripted then .method else if name = "__str__" then .nativeTextMethod else .nativeMethod
  | .declared _ => .method

end Classes

namespace World

/-- The class of a value. -/
def classOf (w : World) : Value → ClassId
  | .null => .standard .none
  | .bool _ => .standard .bool
  | .int _ => .standard .int
  | .float _ => .standard .float
  | .complex .. => .standard .complex
  | .decimal _ => .standard .decimal
  | .fraction _ => .standard .fraction
  | .text _ => .standard .text
  | .bytes _ => .standard .bytes
  | .range .. => .standard .range
  | .date _ => .standard .date
  | .time _ => .standard .time
  | .moment _ => .standard .dateTime
  | .instant _ => .standard .instant
  | .brokenTime _ => .standard .brokenTime
  | .type c =>
    if Classes.isEnumeration w.classes c then .standard .enumType
    else if Classes.isSubclass w.classes c (.standard .abstractBase) then .standard .abstractType
    else .standard .type
  | .member e _ => .declared e
  | .flags e _ => .declared e
  | .optional .. => .standard .optional
  | .view .. => .standard .sequenceView
  | .readOnly .. | .subUnits _ => .standard .readOnlyMapping
  | .part _ which target =>
    let live := match target with
      | .ref i => match w.cell? i with
        | some (.bindings _) => true
        | _ => false
      | _ => false
    .standard (match which, live with
      | .keys, false => .dictKeys
      | .values, false => .dictValues
      | .items, false => .dictItems
      | .keys, true => .keysView
      | .values, true => .valuesView
      | .items, true => .itemsView)
  | .accessor .. => .standard .accessor
  | .unit u => .declared (w.unitClasses[u]?.getD 0)
  | .bound _ owner name _ => .standard (Classes.boundClass owner name)
  | .unbound owner name => .standard (Classes.accessClass w.classes owner name)
  | .ref i =>
    match w.cell? i with
    | none => .standard .object
    | some cell => match cell with
      | .list _ => .standard .list
      | .tuple _ => .standard .tuple
      | .deque _ => .standard .deque
      | .array .. => .standard .array
      | .set frozen _ => .standard (if frozen then .frozenSet else .set)
      | .bytearray _ => .standard .bytearray
      | .dict fluent _ => .standard (if fluent then .fluentMap else .dict)
      | .bindings _ => .standard .bindings
      | .stream .list _ => .standard .listIterator
      | .stream .generator _ => .standard .generator
      | .stream (.hinted _) _ => .standard .hinted
      | .bag _ => .standard .bag
      | .sized _ => .standard .sized
      | .blank c => .standard c
      | .object cls _ _ => .declared cls

def qualifiedName (w : World) (c : ClassId) : String := Classes.qualifiedName w.classes c

def typeName (w : World) (v : Value) : String := Classes.simpleName w.classes (w.classOf v)

/-- The name of the type in messages about what a value cannot do. -/
def typeInMessages (w : World) (v : Value) : String :=
  match w.classOf v with
  | .standard c => c.nameInMessages
  | c => Classes.simpleName w.classes c

/-- The value that a class extending a built-in one is built on; any other value is its own base. -/
def base (w : World) : Value → Value
  | .ref i =>
    match w.cell? i with
    | some (.object _ _ (some b)) => b
    | _ => .ref i
  | .member e i =>
    match w.class? e with
    | some info =>
      match info.kind with
      | .intEnumeration | .textEnumeration =>
        ((info.names.find? (·.index == i)).map (·.value)).getD .null
      | _ => .member e i
    | none => .member e i
  | v => v

/-- What an optional holds, if the value is one. -/
def content? (w : World) (v : Value) : Option Value :=
  match w.base v with
  | .optional _ content => some content
  | _ => none

/-- The cell that a value is built on, if any. -/
def baseCell? (w : World) (v : Value) : Option Cell :=
  match w.base v with
  | .ref i => w.cell? i
  | _ => none

/-- The class, if the value is an enumeration class. -/
def enumClass? (w : World) : Value → Option ClassId
  | .type c => if Classes.isEnumeration w.classes c then some c else none
  | _ => none

/-- The class whose members a value has: an enumeration class has its own. -/
def ownerClass (w : World) (v : Value) : ClassId := (w.enumClass? v).getD (w.classOf v)

end World

end TemplateEngine
