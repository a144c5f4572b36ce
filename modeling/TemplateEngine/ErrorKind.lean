import TemplateEngine.Equality
/-!
The kinds of errors that belong to the engine: their place among all kinds, and what they carry.
-/
namespace TemplateEngine

inductive ErrorKind
  | base | render
  | templateCall (kind : Option CallFailureKind)
  | alreadyAttached | extensionMissing
  | config | configLoad
deriving DecidableEq, Repr

namespace ErrorKind

def name : ErrorKind → String
  | base => "SightlyError"
  | render => "RenderError"
  | templateCall none => "TemplateCallError"
  | templateCall (some kind) => kind.errorName
  | alreadyAttached => "UnitAlreadyAttachedError"
  | extensionMissing => "ExtensionNotFoundError"
  | config => "ConfigError"
  | configLoad => "ConfigLoadError"

def all : List ErrorKind :=
  [base, render, templateCall none, templateCall (some .null), templateCall (some .primitive),
   templateCall (some .string), templateCall (some .wrongType), alreadyAttached, extensionMissing,
   config, configLoad]

def ofName? (name : String) : Option ErrorKind := all.find? (·.name == name)

/-- The more general kinds, the nearest first. -/
def ancestors : ErrorKind → List ErrorKind
  | base => []
  | render | config => [base]
  | templateCall (some _) => [templateCall none, render, base]
  | templateCall none | alreadyAttached | extensionMissing => [render, base]
  | configLoad => [config, base]

/-- The kind from outside that an error also belongs to. -/
def outside : ErrorKind → List String
  | templateCall _ => ["TypeError"]
  | extensionMissing => ["LookupError"]
  | _ => []

/-- The kind itself and all more general ones; those from outside come last. -/
def lineage (kind : ErrorKind) : List String :=
  (kind :: kind.ancestors).map name ++ kind.outside

/-- What an error carries beside its message, in order of name, and whether it must be given. -/
def fields : ErrorKind → List (String × Bool)
  | templateCall _ => [("template", false)]
  | alreadyAttached | extensionMissing => [("name", true)]
  | configLoad => [("column", false), ("line", false), ("path", false)]
  | _ => []

/-- Under which name misfits are reported when an error is made. -/
def maker : ErrorKind → String
  | templateCall _ => "TemplateCallError.__init__"
  | kind => if kind.fields.isEmpty then kind.name else kind.name ++ ".__init__"

/-- Why a call has failed, for the kinds that tell. -/
def reason : ErrorKind → Option CallFailureKind
  | templateCall kind => some (kind.getD .wrongType)
  | _ => none

/-- The fields of a new error. Only known ones may be given. -/
def make (kind : ErrorKind) (given : Table String Value) : Except Fault (Table String Value) :=
  match (Table.keys given).find? fun name => !(kind.fields.map Prod.fst).contains name with
  | some unknown =>
    .error (if kind.fields.isEmpty then .noKeywords kind.name
      else if ["self", "message"].contains unknown then .multipleValues kind.maker unknown
      else .unexpectedKeyword kind.maker unknown)
  | none =>
    match kind.fields.find? fun (name, required) => required && !Table.contains given name with
    | some (missing, _) => .error (.missingKeywordOnly kind.maker missing)
    | none => .ok (kind.fields.map fun (name, _) => (name, (Table.get? given name).getD .null))

end ErrorKind

end TemplateEngine
