import TemplateEngine.Attributes
import TemplateEngine.Log.Event
/-!
Lines of a log: an event with its fields, its level and its time, as JSON or as text.
-/
namespace TemplateEngine.LogLine

/-- What stands for the time of an event. -/
def timeMark : String := "TS"

def hexEscape (n : Nat) : String := "\\u" ++ Text.padLeft '0' 4 (Text.writeBase 16 n)

/-- A character of a JSON text; all but the visible ASCII characters are escaped. -/
def jsonChar (c : Char) : String :=
  let n := c.toNat
  if c = '"' then "\\\""
  else if c = '\\' then "\\\\"
  else if c = '\n' then "\\n"
  else if c = '\r' then "\\r"
  else if c = '\t' then "\\t"
  else if n = 8 then "\\b"
  else if n = 12 then "\\f"
  else if 32 ≤ n && n ≤ 126 then String.ofList [c]
  else if n < 0x10000 then hexEscape n
  else hexEscape (0xd800 + (n - 0x10000) / 0x400) ++ hexEscape (0xdc00 + (n - 0x10000) % 0x400)

def jsonText (s : String) : String := "\"" ++ String.join (s.toList.map jsonChar) ++ "\""

def jsonFloat (x : Binary64) : String :=
  match x with
  | .nan _ => "NaN"
  | .infinite negative => if negative then "-Infinity" else "Infinity"
  | x => x.toText

/-- The text of a key: numbers and constants are written as texts. -/
def jsonKey (w : World) (k : Value) : Except Fault String :=
  match w.base k with
  | .text s => .ok s
  | .null => .ok "null"
  | .bool b => .ok (if b then "true" else "false")
  | .int n => showInt n
  | .float x => .ok (jsonFloat x)
  | _ => .error (.keyNotWritable (w.typeInMessages k))

/-- A value in JSON, up to a depth of nesting; `path` holds the values that are being written. What
JSON has no form for is written as its display form. -/
def jsonWithin (w : World) : (fuel : Nat) → (path : List Value) → Value → Except Fault String
  | 0, _, _ => .error .nestedTooDeep
  | fuel + 1, path, v =>
    let inner (x : Value) : Except Fault String :=
      if path.contains v then .error .circular else jsonWithin w fuel (v :: path) x
    match w.base v with
    | .null => .ok "null"
    | .bool b => .ok (if b then "true" else "false")
    | .int n => showInt n
    | .float x => .ok (jsonFloat x)
    | .text s => .ok (jsonText s)
    | .brokenTime t => .ok ("[" ++ Text.join ", " (t.fields.map Text.writeInt) ++ "]")
    | _ =>
      match w.baseCell? v with
      | some (.list items) | some (.tuple items) => do
        return "[" ++ Text.join ", " (← items.mapM inner) ++ "]"
      | some (.dict _ entries) => do
        let parts ← entries.mapM fun (k, x) =>
          return jsonText (← jsonKey w k) ++ ": " ++ (← inner x)
        return "\x7b" ++ Text.join ", " parts ++ "\x7d"
      | _ => return jsonText (← w.display v)

def json (w : World) (v : Value) : Except Fault String := jsonWithin w (w.nesting v) [] v

/-- The fields of an event, then its name, its level and its time; fields of these names are
replaced. What is said about an exception at work is left out, since none is. -/
def allFields (e : Event) : Table String Value :=
  Table.insertAll (e.fields.filter fun (k, _) => k != "exc_info")
    ((if e.name = .null then [] else [("event", e.name)]) ++
      [("level", .text e.severity.name), ("timestamp", .text timeMark)])

def asJson (e : Event) : M String := do
  let w ← get
  let parts ← liftResult ((allFields e).mapM fun (k, v) =>
    return jsonText k ++ ": " ++ (← json w v))
  return "\x7b" ++ Text.join ", " parts ++ "\x7d"

/-- Whether a text must be quoted to be read as one. -/
def needsQuotes (s : String) : Bool :=
  s.toList.any fun c => [' ', '\t', '=', '\r', '\n', '"', '\''].contains c

def textValue (w : World) (v : Value) : Except Fault String :=
  match w.text? v with
  | some s => if needsQuotes s then w.display v else .ok s
  | none => w.display v

/-- The widths to which the level and the name of an event are filled. -/
def levelWidth : Nat := 9
def nameWidth : Nat := 30

/-- The line between a stack and an exception. -/
def ruler : String := String.ofList (List.replicate 79 '=')

/-- The text of a field that is written below the line. -/
def appendix (e : Event) (name : String) : M (Option String) := do
  match Table.get? e.fields name with
  | none | some .null => return none
  | some v =>
    match (← get).text? v with
    | some s => return some s
    | none => fail (.notJoined ((← get).typeInMessages v))

/-- A field with a column of its own, shown by a function. -/
def column (e : Event) (name : String) (shown : String → String) : M (List String) := do
  match Table.get? e.fields name with
  | some v => return [shown (← textOf v)]
  | none => return []

/-- The fields that are not among the others: some have a place of their own. -/
def placedFields : List String :=
  ["event", "level", "timestamp", "logger", "logger_name", "stack", "exception", "exc_info"]

def bracketed (s : String) : String := "[" ++ s ++ "]"

/-- The time, the level, the name, and the fields in order of their names; a stack and the text of
an exception come below. -/
def asText (e : Event) : M String := do
  let name ← if e.name = .null then pure [] else
    pure [Text.padRight nameWidth (← textOf e.name)]
  let origin := (← column e "logger" bracketed) ++ (← column e "logger_name" bracketed)
  let fields := (e.fields.filter fun (k, _) => !placedFields.contains k).mergeSort
    fun a b => a.1 ≤ b.1
  let w ← get
  let shown ← liftResult (fields.mapM fun (k, v) => return k ++ "=" ++ (← textValue w v))
  let parts := [timeMark, bracketed (Text.padRight levelWidth e.severity.name)] ++ name ++
    origin ++ shown
  let line := (Text.join " " parts).toList.reverse.dropWhile (· = ' ')
  let stack ← appendix e "stack"
  let hasCause ← isTruthy ((Table.get? e.fields "exc_info").getD .null)
  let hasException := (Table.get? e.fields "exception").any (· != .null)
  let below := match stack with
    | some s => "\n" ++ s ++ (if hasCause || hasException then "\n\n" ++ ruler ++ "\n" else "")
    | none => ""
  let exception ← appendix e "exception"
  return String.ofList line.reverse ++ below ++ (exception.elim "" ("\n" ++ ·))

end TemplateEngine.LogLine
