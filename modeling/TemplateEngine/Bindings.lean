import TemplateEngine.Display
/-!
Scopes as values: reading and writing variables under names that are values themselves. Only texts
are names.
-/
namespace TemplateEngine

namespace Bindings

/-- The variables of a scope value. -/
def scopeOf (b : Value) : M (Scope Value Value) := do
  match (← get).baseCell? b with
  | some (.bindings s) => return s
  | _ => return .empty

def setScope (b : Value) (s : Scope Value Value) : M Unit := do
  match (← get).base b with
  | .ref i => setCell i (.bindings s)
  | _ => return ()

def lookUp? (b key : Value) : M (Option Value) := do
  return (← scopeOf b).get? (← nameOf key)

def missing {α : Type} (key : Value) : M α := do fail (.missingKey (← displayed key))

def read (b key : Value) : M Value := do
  match ← lookUp? b key with
  | some v => return v
  | none => missing key

def write (b key v : Value) : M Unit := do
  let name : Name Value := ⟨← nameOf key, key⟩
  setScope b ((← scopeOf b).insert name v)

def erase (b key : Value) : M Unit := do
  match ← lookUp? b key with
  | some _ => setScope b ((← scopeOf b).erase (← nameOf key))
  | none => missing key

/-- Removes a variable and gives its value; a missing one gives the fallback, if there is one. -/
def take (b key : Value) (fallback : Option Value) : M Value := do
  match ← lookUp? b key, fallback with
  | some v, _ => do erase b key; return v
  | none, some v => return v
  | none, none => missing key

/-- Removes the first variable in order of iteration. -/
def popFirst (b : Value) : M Value := do
  match (← scopeOf b).popFirst? with
  | some ((name, v), rest) => setScope b rest; newTuple [.text name, v]
  | none => fail .emptyTable

def readOrWrite (b key v : Value) : M Value := do
  match ← lookUp? b key with
  | some old => return old
  | none => write b key v; return v

/-- The name under which a variable was last written. -/
def spelling (b key : Value) : M (Option Value) := do
  return ((← scopeOf b).spelling? (← nameOf key)).map (·.given)

/-- The two elements of an iterable of two. No more than three are read. -/
def asPair (v : Value) : M (Value × Value) := do
  let items ← match ← attempt (Source.ofValue v), v with
    | .ok s, _ => s.visit id (fun _ x => pure x) 3 0
    | .error (.notIterable t), .view .. => fail (.notIterable t)
    | .error (.notIterable t), _ => fail (.notUnpackable t)
    | .error f, _ => fail f
  match items with
  | [a, b] => return (a, b)
  | items =>
    if items.length < 2 then fail (.tooFewValues 2 items.length) else fail (.tooManyValues 2)

/-- Whether a value is a pair of a name and the value of its variable. -/
def hasPair (b pair : Value) : M Bool := do
  let (key, x) ← asPair pair
  match ← lookUp? b key with
  | some y => do liftResult ((← get).agree y x)
  | none => return false

def writeAll (b : Value) : List (Value × Value) → M Unit
  | [] => return ()
  | (k, v) :: rest => do write b k v; writeAll b rest

end Bindings

end TemplateEngine
