import TemplateEngine.Recipe
import TemplateEngine.Fault
import TemplateEngine.Log.Severity
/-!
The world of values: the cells that references refer to, the declared classes, the units, and what
was logged. A computation reads and changes a world, and may fail; what it changed before failing
stays.
-/
namespace TemplateEngine

/-- What a name means on a class. -/
inductive Member
  | constant (v : Value)
  | slot
  | computed (action : Action)
  | routine (r : Routine)
  /-- The element of a named tuple at an index. -/
  | position (index : Nat)
  | native (c : Standard) (use : NativeUse)

/-- A name of an enumeration; an alias has the index of the name it stands for. -/
structure EnumName where
  name : String
  value : Value
  index : Nat
deriving DecidableEq, Repr

structure ClassInfo where
  name : String
  kind : ClassKind
  bases : List ClassId
  /-- The resolution order, the class itself first. -/
  order : List ClassId
  members : Table String Member
  annotations : List String
  names : List EnumName
  /-- The fields of a named tuple, if it is one. -/
  fields : Option (List String)
  /-- Whether instances have only the attributes that a class declares. -/
  closed : Bool

/-- A line of the resolution log; the kind of the failure that it reports, if any. -/
structure LogEntry where
  level : Severity
  text : String
  cause : Option String
deriving DecidableEq, Repr

structure World where
  cells : Array Cell := #[.tuple []]
  classes : Array ClassInfo := #[]
  forest : Forest := []
  /-- The class of each unit. -/
  unitClasses : Array Nat := #[]
  unitNames : Table String UnitId := []
  named : Table String Value := []
  log : List LogEntry := []
  /-- The next tag; the first two are those of the shared empty optional and the shared NaN. -/
  nextTag : Nat := 2

abbrev M := ExceptT Fault (StateM World)

namespace World

def cell? (w : World) (i : Nat) : Option Cell := w.cells[i]?

def class? (w : World) (i : Nat) : Option ClassInfo := w.classes[i]?

end World

def fail {α : Type} (f : Fault) : M α := throw f

def freshTag : M Nat := modifyGet fun w => (w.nextTag, { w with nextTag := w.nextTag + 1 })

def alloc (c : Cell) : M Value :=
  modifyGet fun w => (.ref w.cells.size, { w with cells := w.cells.push c })

def setCell (i : Nat) (c : Cell) : M Unit :=
  modify fun w => { w with cells := w.cells.setIfInBounds i c }

def report (level : Severity) (text : String) (cause : Option String) : M Unit :=
  modify fun w => { w with log := w.log ++ [⟨level, text, cause⟩] }

def newOptional (content : Value) : M Value := return .optional (← freshTag) content

/-- The one empty tuple: the first cell of every world. -/
def emptyTuple : Value := .ref 0

def newTuple (items : List Value) : M Value :=
  if items.isEmpty then return emptyTuple else alloc (.tuple items)

def newList (items : List Value) : M Value := alloc (.list items)

def liftResult {α : Type} (r : Except Fault α) : M α := ExceptT.mk (return r)

/-- A number that was just computed, as an object of its own. -/
def asObject (v : Value) : M Value :=
  if v.isBare then return v.marked (← freshTag) else return v

def asObjects (items : List Value) : M (List Value) := items.mapM asObject

/-- Runs a computation; a failure is turned into a value, and what was changed stays. -/
def attempt {α : Type} (x : M α) : M (Except Fault α) :=
  ExceptT.mk do return .ok (← x.run)

/-- What work on one value may ask of others: a text, an attribute, or a call. -/
structure Dispatch where
  text : Value → M Value
  read : Value → String → M (Option Value)
  call : Value → List Value → M Value

end TemplateEngine
