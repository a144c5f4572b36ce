import TemplateEngine.World
/-!
Events that a log is told about.
-/
namespace TemplateEngine

/-- An event without a name has nothing in its place. -/
structure Event where
  severity : Severity
  name : Value
  fields : Table String Value
deriving DecidableEq, Repr

/-- A call of a logger's method with an event and named fields. -/
structure LogCall where
  method : String
  name : Value
  fields : Table String Value

namespace LogCall

/-- How serious the events of a method are. -/
def severity (c : LogCall) : Severity :=
  match c.method with
  | "debug" => .debug
  | "info" => .info
  | "warning" | "warn" => .warning
  | "critical" | "fatal" => .critical
  | _ => .error

/-- The label of the routine that a method is, with a threshold. -/
def label (c : LogCall) (threshold : Nat) : String :=
  if c.method = "exception" then "exception"
  else if c.severity.rank < threshold then "_nop"
  else "_make_filtering_bound_logger.<locals>.make_method.<locals>.meth"

/-- The event of a call, unless it ranks below a threshold. Fields must not have the names of the
method's own parameters. -/
def event? (c : LogCall) (threshold : Nat) : Except Fault (Option Event) :=
  let names := Table.keys c.fields
  match names.find? ["self", "event"].contains with
  | some name => .error (.multipleValues (c.label threshold) name)
  | none =>
    if c.severity.rank < threshold then .ok none
    else if names.contains "method_name" then
      .error (.multipleValues "BoundLoggerBase._proxy_to_logger" "method_name")
    else
      let cause := if c.method = "exception" && !names.contains "exc_info"
        then [("exc_info", Value.bool true)] else []
      .ok (some ⟨c.severity, c.name, c.fields ++ cause⟩)

end LogCall

end TemplateEngine
