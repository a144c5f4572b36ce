import TemplateEngine.Number.Decimal
import TemplateEngine.Calendar
import TemplateEngine.Class.Standard
import TemplateEngine.Scope
import TemplateEngine.Forest
/-!
Template values. A value is a scalar, a wrapper around one value, or a reference to a cell of the
store; equal values are the same object.
-/
namespace TemplateEngine

/-- A class: a built-in one, or the number of a declared one. -/
inductive ClassId
  | standard (c : Standard)
  | declared (index : Nat)
deriving DecidableEq, Repr

/-- The part of a mapping that a live view shows. -/
inductive MappingPart
  | keys
  | values
  | items
deriving DecidableEq, Repr

/-- A template value. Tags tell apart wrappers around one value. -/
inductive Value
  | null
  | bool (b : Bool)
  | int (n : Int)
  | float (x : Binary64)
  | complex (re im : Binary64)
  | decimal (d : Decimal)
  | fraction (q : Ratio)
  | text (s : String)
  | bytes (b : List UInt8)
  | range (start stop step : Int)
  | date (d : Date)
  | time (t : TimeOfDay)
  | moment (m : Moment)
  | instant (m : Moment)
  | brokenTime (t : BrokenTime)
  | type (c : ClassId)
  | member (enumeration index : Nat)
  | flags (enumeration bits : Nat)
  | optional (tag : Nat) (content : Value)
  | view (tag : Nat) (target : Value)
  | readOnly (tag : Nat) (target : Value)
  | part (tag : Nat) (which : MappingPart) (target : Value)
  | accessor (name : String) (owner : ClassId)
  | unit (u : UnitId)
  | subUnits (owner : UnitId)
  /-- A routine bound to the value that it was read from. -/
  | bound (tag : Nat) (owner : ClassId) (name : String) (receiver : Value)
  /-- A member as its class holds it, bound to no value. -/
  | unbound (owner : ClassId) (name : String)
  | ref (cell : Nat)
deriving DecidableEq, Repr

/-- How an iterator tells how much is left. -/
inductive Stream
  | list
  | generator
  | hinted (count : Option Int)
deriving DecidableEq, Repr

/-- What a reference refers to. An instance of a class that extends a built-in one carries the
built-in value as its `base`; a blank object has no content. -/
inductive Cell
  | list (items : List Value)
  | tuple (items : List Value)
  | deque (items : List Value)
  | array (code : Char) (items : List Value)
  | set (frozen : Bool) (items : List Value)
  | bytearray (bytes : List UInt8)
  | dict (fluent : Bool) (entries : List (Value × Value))
  | bindings (scope : Scope Value Value)
  | stream (kind : Stream) (rest : List Value)
  | bag (items : List Value)
  | sized (items : List Value)
  | blank (cls : Standard)
  | object (cls : Nat) (attributes : Table String Value) (base : Option Value)
deriving Repr

/-- The tag of the empty optional that everyone shares. -/
def Value.emptyOptional : Value := .optional 0 .null

/-- Whether a number is a NaN that is not known as an object. A NaN equals itself only as the same
object. -/
def Value.isBare : Value → Bool
  | .float (.nan mark) => mark == 0
  | .complex (.nan mark) _ | .complex _ (.nan mark) => mark == 0
  | .decimal (.nan _ _ _ mark) => mark == 0
  | _ => false

/-- Whether two values are the same object. -/
def Value.identical (a b : Value) : Bool := a == b && !a.isBare

def Binary64.marked (mark : Nat) : Binary64 → Binary64
  | .nan _ => .nan mark
  | x => x

def Decimal.marked (mark : Nat) : Decimal → Decimal
  | .nan signaling negative payload _ => .nan signaling negative payload mark
  | d => d

/-- The number with a mark on its NaNs. -/
def Value.marked (mark : Nat) : Value → Value
  | .float x => .float (x.marked mark)
  | .complex re im => .complex (re.marked mark) (im.marked mark)
  | .decimal d => .decimal (d.marked mark)
  | v => v

end TemplateEngine
