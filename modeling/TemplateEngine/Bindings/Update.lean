import TemplateEngine.Subscript
/-!
Writing many variables at once: the entries of a mapping, of an object that tells its keys, or of
pairs.
-/
namespace TemplateEngine

/-- Reads an attribute that must be there. -/
def Dispatch.readFrom (d : Dispatch) (v : Value) (name : String) : M Value := do
  match ← d.read v name with
  | some x => return x
  | none =>
    let w ← get
    match v with
    | .type c =>
      if Classes.isEnumeration w.classes c then fail (.enumLacks name)
      else fail (.classLacks (Classes.simpleName w.classes c) name)
    | v => fail (.noAttribute (w.typeInMessages v) name)

/-- Whether an attribute can be read. -/
def Dispatch.has (d : Dispatch) (v : Value) (name : String) : M Bool := do
  match ← attempt (d.read v name) with
  | .ok x => return x.isSome
  | .error f => if f.isAttributeError then return false else fail f

/-- Calls a method without arguments. -/
def Dispatch.ask (d : Dispatch) (v : Value) (name : String) : M Value := do
  d.call (← d.readFrom v name) []

namespace Bindings

/-- Writes the variables of a source one after the other. -/
def update (d : Dispatch) (b source : Value) : M Unit := do
  match (← get).mapping? source with
  | some entries => writeAll b entries
  | none =>
    if ← d.has source "keys" then
      let _ ← forEach (← d.ask source "keys") fun key => do write b key (← itemOf source key)
    else
      let _ ← forEach source fun pair => do
        let (key, v) ← asPair pair
        write b key v

/-- Writes the variables of a source into a new scope. Those of another scope are written in order
of storage. -/
def fill (d : Dispatch) (b source : Value) : M Unit := do
  match (← get).baseCell? source with
  | some (.bindings s) => setScope b s.copy
  | _ => if ← isTruthy source then update d b source

/-- A new scope with the variables of a source. -/
def make (d : Dispatch) (source : Value) : M Value := do
  let b ← alloc (.bindings .empty)
  fill d b source
  return b

/-- A new scope with the given entries. -/
def ofEntries (entries : List (Value × Value)) : M Value := do
  let b ← alloc (.bindings .empty)
  writeAll b entries
  return b

end Bindings

end TemplateEngine
