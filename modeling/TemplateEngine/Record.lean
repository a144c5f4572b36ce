import TemplateEngine.Attributes
/-!
Records: values that name their properties themselves, through `get_property` and
`get_property_names`.
-/
namespace TemplateEngine

namespace Record

def getter : String := "get_property"
def namer : String := "get_property_names"

/-- Whether the classes of a value define a name, and the first of them not as nothing. -/
def definedOnClass (w : World) (c : ClassId) (name : String) : Bool :=
  match Classes.findMember? w.classes c name with
  | some (_, .constant .null) => false
  | some _ => true
  | none => false

/-- Whether reading a name gives something: it is read once to see that it can be read, and once more
for what it gives. -/
def readable (v : Value) (name : String) : M Bool := do
  if ← Dispatch.full.has v name then
    match ← Dispatch.full.readFrom v name with
    | .null => return false
    | _ => return true
  else return false

end Record

open Record in
/-- A value is a record when its classes define both names, or else when both can be read. -/
def isRecord (v : Value) : M Bool := do
  let w ← get
  let c := w.classOf v
  if definedOnClass w c getter && definedOnClass w c namer then return true
  else if ← readable v getter then readable v namer
  else return false

/-- Calls a method that a value was found to have. -/
def callMethod (v : Value) (name : String) (arguments : List Value) : M Value := do
  call (← Dispatch.full.readFrom v name) arguments

def recordProperty (v name : Value) : M Value := callMethod v Record.getter [name]

/-- A new mapping of a record's properties by name, read one after the other. -/
def recordMap (v : Value) : M Value := do
  let names ← callMethod v Record.namer []
  let cell := (← get).cells.size
  let made ← alloc (.dict false [])
  let _ ← forEach names fun name => do writeEntry cell name (← recordProperty v name)
  return made

end TemplateEngine
