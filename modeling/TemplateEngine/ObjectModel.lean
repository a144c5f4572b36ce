import TemplateEngine.Resolution
/-!
The object model that rendering uses. Records come before anything else: a record is asked for a
property first, and stands for its own properties.
-/
namespace TemplateEngine

/-- The ways an object model may differ from the standard one: texts that it resolves are put into
upper case, or texts count as primitive. -/
inductive ObjectModel
  | standard
  | upper
  | strict
deriving DecidableEq, Repr

namespace ObjectModel

def className : ObjectModel → String
  | .standard => "RuntimeObjectModel"
  | .upper => "UpperModel"
  | .strict => "StrictModel"

def isPrimitive (m : ObjectModel) (v : Value) : M Bool := do
  if v.isPrimitive then return true
  else if m = .strict then return ((← get).text? v).isSome
  else return false

/-- Asks a record for a property by its text form, and resolves the property if that gives
nothing. -/
def inheritedProperty (target prop : Value) : M Value := do
  if target = .null || prop = .null then return .null
  else
    let name ← toTemplateText prop
    let found ← if ← isRecord target then recordProperty target name else pure .null
    orElse found (TemplateEngine.resolveProperty target prop)

def getProperty (m : ObjectModel) (target prop : Value) : M Value := do
  let found ← inheritedProperty target prop
  match m, (← get).text? found with
  | .upper, some s => return .text (Text.upper s)
  | _, _ => return found

def resolveProperty (m : ObjectModel) (target prop : Value) : M Value := do
  if target = .null || prop = .null then return .null
  else orElse (← resolveIndex target prop) (m.getProperty target prop)

/-- The names of a record's properties, or the sequence of another value. -/
def toCollection (v : Value) : M Value := do
  if ← isRecord v then drain (← callMethod v Record.namer [])
  else TemplateEngine.toCollection v

end ObjectModel

end TemplateEngine
