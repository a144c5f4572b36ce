import TemplateEngine.Display
import TemplateEngine.Sorting
/-!
The members of the built-in classes: what a field reads, and what an accessor does.
-/
namespace TemplateEngine

namespace World

/-- The text form of a value, when its class gives no text of its own. -/
def plainText (w : World) (v : Value) : Except Fault String :=
  match v with
  | .decimal d => .ok d.toText
  | .fraction q =>
    if q.den = 1 then showInt q.num
    else return (← showInt q.num) ++ "/" ++ (← showInt q.den)
  | .date d => .ok d.toText
  | .time t => .ok t.toText
  | .moment m | .instant m => .ok m.toText
  | .flags e bits =>
    let cls := Classes.simpleName w.classes (.declared e)
    match w.flagName? e bits with
    | some name => .ok (cls ++ "." ++ name)
    | none => .ok (cls ++ "(" ++ Text.writeBase 10 bits ++ ")")
  | .readOnly _ target => w.display target
  | v =>
    match w.base v with
    | .text s => .ok s
    | .int n => showInt n
    | .member e i =>
      match w.memberName? e i with
      | some n => .ok (Classes.simpleName w.classes (.declared e) ++ "." ++ n.name)
      | none => .ok ""
    | _ => w.display v

end World

/-- The name of an enumeration member; the value of no flag has none. -/
def memberNameValue (w : World) : Value → Value
  | .member e i => ((w.memberName? e i).map fun n => Value.text n.name).getD .null
  | .flags e bits => ((w.flagName? e bits).map Value.text).getD .null
  | _ => .null

/-- Reads a field of a built-in class; `none` if the value has no such field. -/
def readField (c : Standard) (name : String) (v : Value) : M (Option Value) := do
  let w ← get
  match c, name, v with
  | .optional, "EMPTY", _ => return some .emptyOptional
  | .optional, "value", v => return w.content? v
  | .optional, _, v => return (w.content? v).map fun x => .bool (x != .null)
  | .enumeration, "name", v => return some (memberNameValue w v)
  | .enumeration, "value", .member e i => return (w.memberName? e i).map (·.value)
  | .enumeration, "value", .flags _ bits => return some (.int bits)
  | .renderUnit, "sub_templates", .unit u => return some (.subUnits u)
  | .renderUnit, "siblings", .unit u =>
    return some (((w.forest.owner? u).map Value.subUnits).getD .null)
  | .dictKeys, "mapping", .part _ _ target => return some (.readOnly (← freshTag) target)
  | .brokenTime, _, .brokenTime t =>
    let field := match name with
      | "tm_year" => some t.year
      | "tm_mon" => some t.month
      | "tm_mday" => some t.day
      | "tm_hour" => some t.hour
      | "tm_min" => some t.minute
      | "tm_sec" => some t.second
      | "tm_wday" => some t.weekday
      | "tm_yday" => some t.yearday
      | "tm_isdst" => some t.daylight
      | "n_fields" => some 11
      | "n_sequence_fields" => some 9
      | _ => none
    return field.map .int
  | _, _, v =>
    match w.base v, name with
    | .int n, "real" | .int n, "numerator" => return some (.int n)
    | .int _, "imag" => return some (.int 0)
    | .int _, "denominator" => return some (.int 1)
    | .bool b, "real" | .bool b, "numerator" => return some (.int (if b then 1 else 0))
    | .bool _, "imag" => return some (.int 0)
    | .bool _, "denominator" => return some (.int 1)
    | .float x, "real" => some <$> asObject (.float x)
    | .float _, "imag" => return some (.float (Binary64.zero false))
    | .complex re _, "real" => some <$> asObject (.float (re.marked 0))
    | .complex _ im, "imag" => some <$> asObject (.float (im.marked 0))
    | .decimal d, "real" => return some (.decimal d)
    | .decimal _, "imag" => return some (.decimal .zero)
    | .fraction q, "real" => return some (.fraction q)
    | .fraction _, "imag" => return some (.int 0)
    | .fraction q, "numerator" => return some (.int q.num)
    | .fraction q, "denominator" => return some (.int q.den)
    | .range i _ _, "start" => return some (.int i)
    | .range _ j _, "stop" => return some (.int j)
    | .range _ _ k, "step" => return some (.int k)
    | .date d, "year" => return some (.int d.year)
    | .date d, "month" => return some (.int d.month)
    | .date d, "day" => return some (.int d.day)
    | .moment m, _ | .instant m, _ =>
      let field := match name with
        | "year" => some m.date.year
        | "month" => some m.date.month
        | "day" => some m.date.day
        | "hour" => some m.time.hour
        | "minute" => some m.time.minute
        | "second" => some m.time.second
        | "microsecond" => some m.time.micro
        | _ => none
      return field.map .int
    | .ref i, "typecode" =>
      match w.cell? i with
      | some (.array code _) => return some (.text (String.ofList [code]))
      | _ => return none
    | .ref i, "maxlen" =>
      match w.cell? i with
      | some (.deque _) => return some .null
      | _ => return none
    | _, _ => return none

def bitLength (n : Nat) : Nat := if n = 0 then 0 else Nat.log2 n + 1

def newRatio (num den : Int) : M Value := newTuple [.int num, .int den]

/-- The words of bytes between ASCII blanks. -/
def isAsciiBlank (b : UInt8) : Bool := b == 32 || (9 ≤ b && b ≤ 13)

def callIntAccessor (name : String) (n : Int) : M Value :=
  match name with
  | "bit_length" => return .int (bitLength n.natAbs)
  | "bit_count" => return .int (World.bitCount n.natAbs)
  | _ => newRatio n 1

def callTextAccessor (name : String) (s : String) : M Value :=
  match name with
  | "capitalize" => return .text (Text.capitalize s)
  | "isalpha" => return .bool (Text.isAlphabetic s)
  | "isupper" => return .bool (Text.isUpperCase s)
  | "lower" => return .text (Text.lower s)
  | "split" => newList ((Text.words s).map .text)
  | "strip" => return .text (Text.trim s)
  | "swapcase" => return .text (Text.swapCase s)
  | "title" => return .text (Text.title s)
  | _ => return .text (Text.upper s)

def callBytesAccessor (name : String) (b : List UInt8) : M Value :=
  match name with
  | "decode" =>
    match Text.Utf8.decode b with
    | .ok s => return .text s
    | .error place => fail (.undecodable place)
  | "split" => newList ((Text.runsWithout isAsciiBlank [] b).map .bytes)
  | _ => return .bytes (Text.trimBy isAsciiBlank b)

def callFloatAccessor (name : String) (x : Binary64) : M Value :=
  match name with
  | "is_integer" => return .bool x.isIntegral
  | "hex" => return .text x.toHexText
  | _ =>
    match x.exact with
    | .ratio r =>
      let q := Ratio.reduce r.num r.den
      newRatio q.num q.den
    | .infinite _ => fail .infiniteRatio
    | .undefined => fail .undefinedRatio

def callDecimalAccessor (name : String) (d : Decimal) : M Value :=
  match name with
  | "is_nan" => return .bool d.isNaN
  | "is_zero" => return .bool d.isZero
  | "is_signed" => return .bool d.isSigned
  | "is_finite" => return .bool d.isFinite
  | _ =>
    match d.normalize .standard with
    | .ok d => asObject (.decimal (d.marked 0))
    | .error s => fail (.decimal s)

/-- The last of some elements, the others being kept. -/
def splitLast {α : Type} (whole : String) (items : List α) (keep : List α → M Unit) : M α := do
  match items.getLast? with
  | some x => keep items.dropLast; return x
  | none => fail (.popFromEmpty whole)

def callListAccessor (name : String) (cell : Nat) (items : List Value) : M Value := do
  match name with
  | "clear" => setCell cell (.list []); return .null
  | "copy" => newList items
  | "reverse" => setCell cell (.list items.reverse); return .null
  | "pop" => splitLast "empty list" items fun kept => setCell cell (.list kept)
  | _ =>
    let w ← get
    let sorted := Sorting.sortList (w.lessFrom w.bulk) items
    setCell cell (.list sorted.items)
    match sorted.failure with
    | some f => fail f
    | none => return .null

def callBindingsAccessor (name : String) (v : Value) (cell : Nat) (scope : Scope Value Value) :
    M Value := do
  match name with
  | "clear" => setCell cell (.bindings .empty); return .null
  | "items" => return .part (← freshTag) .items v
  | "keys" => return .part (← freshTag) .keys v
  | "values" => return .part (← freshTag) .values v
  | "popitem" =>
    match scope.popFirst? with
    | some ((name, x), rest) => setCell cell (.bindings rest); newTuple [.text name, x]
    | none => fail .emptyTable
  | _ => return .null

def callDictRoutine (name : String) (v : Value) (cell : Nat) (fluent : Bool)
    (entries : List (Value × Value)) (arguments : List Value) : M Value := do
  match name, arguments with
  | "items", _ => return .part (← freshTag) .items v
  | "keys", _ => return .part (← freshTag) .keys v
  | "values", _ => return .part (← freshTag) .values v
  | "copy", _ => alloc (.dict false entries)
  | "clear", _ => setCell cell (.dict fluent []); return .null
  | "get", key :: rest => return (← lookUpEntry entries key).getD (rest.headD .null)
  | _, _ =>
    match entries.getLast? with
    | some (k, x) => setCell cell (.dict fluent entries.dropLast); newTuple [k, x]
    | none => fail .popFirstFromEmpty

/-- Calls an accessor of a built-in class on a value, or a routine that is given what it needs. -/
def callAccessor (c : Standard) (name : String) (v : Value) (arguments : List Value) :
    M Value := do
  let w ← get
  if name = "__str__" then return .text (← liftResult (w.plainText v))
  else match c, name, v with
  | .type, _, .type cls => newList ((Classes.order w.classes cls).map .type)
  | .renderUnit, "get_property_names", .unit u =>
    alloc (.set true ((w.forest.subs u).map fun (name, _) => .text name))
  | .renderUnit, _, .unit _ => alloc (.dict true [])
  | .optional, "of", _ => newOptional (arguments.headD .null)
  | .optional, _, _ => return .emptyOptional
  | _, _, v =>
    match w.base v with
    | .int n => callIntAccessor name n
    | .bool b => callIntAccessor name (if b then 1 else 0)
    | .text s => callTextAccessor name s
    | .bytes b => callBytesAccessor name b
    | .float x => callFloatAccessor name x
    | .complex re im => asObject (.complex (re.marked 0) (im.negate.marked 0))
    | .decimal d => callDecimalAccessor name d
    | .fraction q => newRatio q.num q.den
    | .ref i =>
      match w.cell? i with
      | some (.list items) => callListAccessor name i items
      | some (.dict fluent entries) => callDictRoutine name v i fluent entries arguments
      | some (.array code items) =>
        asObject (← splitLast "empty array" items fun kept => setCell i (.array code kept))
      | some (.bindings scope) => callBindingsAccessor name (.ref i) i scope
      | _ => fail (.notCallable (w.typeInMessages v))
    | v => fail (.notCallable (w.typeInMessages v))

end TemplateEngine
