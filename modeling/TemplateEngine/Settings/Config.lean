import TemplateEngine.Attributes
import TemplateEngine.Settings.Value
import TemplateEngine.Settings.Environment
import TemplateEngine.Settings.File
/-!
The configuration: what the merged settings say about logging and rendering. A setting that is
missing or makes no sense has its default.
-/
namespace TemplateEngine

inductive LogLevel
  | debug | info | warning | error
deriving DecidableEq, Repr

def LogLevel.name : LogLevel → String
  | .debug => "debug"
  | .info => "info"
  | .warning => "warning"
  | .error => "error"

def LogLevel.all : List LogLevel := [.debug, .info, .warning, .error]

def LogLevel.ofName? (name : String) : Option LogLevel := all.find? (·.name == name)

inductive LogFormat
  | json | text
deriving DecidableEq, Repr

def LogFormat.name : LogFormat → String
  | .json => "json"
  | .text => "text"

def LogFormat.all : List LogFormat := [.json, .text]

def LogFormat.ofName? (name : String) : Option LogFormat := all.find? (·.name == name)

structure LoggingConfig where
  level : LogLevel
  format : LogFormat
  /-- Where the log goes; nothing stands for the error stream. -/
  file : String
deriving DecidableEq, Repr

structure Config where
  logging : LoggingConfig
  /-- Whether calling an unknown extension fails. -/
  strictExtensions : Bool
  path : Option String
deriving DecidableEq, Repr

def LoggingConfig.fields (c : LoggingConfig) : Table String Value :=
  [("level", .text c.level.name), ("format", .text c.format.name), ("file", .text c.file)]

namespace Config

/-- All settings of a configuration in one mapping. -/
def toValue (c : Config) : M Value :=
  newNamedTable (c.logging.fields ++
    [("strict_extensions", .bool c.strictExtensions),
     ("path", (c.path.map Value.text).getD .null)])

def defaultLogging : LoggingConfig := ⟨.info, .json, ""⟩

/-- The settings that all others are laid over. -/
def defaultSettings : Table Key Settings :=
  [(.text "logging", .table
      [(.text "level", .leaf (.text "info")),
       (.text "format", .leaf (.text "json")),
       (.text "file", .leaf (.text ""))]),
   (.text "render", .table [(.text "strict_extensions", .leaf (.bool true))])]

/-- Where the settings of a section are looked up: in a table, or by asking a value. -/
inductive Section
  | table (entries : Table Key Settings)
  | asked (v : Value)

/-- A section of the settings; a missing one is empty. -/
def sectionOf (settings : Table Key Settings) (name : String) : M Section := do
  match Table.get? settings (.text name) with
  | none => return .table []
  | some (.table entries) => return .table entries
  | some t => return .asked (← Settings.toValue t)

/-- A setting of a section, or what stands in its place. -/
def Section.get (s : Section) (name : String) (fallback : Value) : M Value := do
  match s with
  | .table entries =>
    match Table.get? entries (.text name) with
    | some t => Settings.toValue t
    | none => return fallback
  | .asked v =>
    let w ← getThe World
    match w.baseCell? v, w.mapping? v with
    | some (.bindings _), _ => return (← Bindings.lookUp? v (.text name)).getD fallback
    | _, some entries => return (← lookUpEntry entries (.text name)).getD fallback
    | _, none => TemplateEngine.call (← Dispatch.full.readFrom v "get") [.text name, fallback]

/-- What a setting names, in any case. A name that means nothing, or a value that has no text, gives
the default. -/
def Section.named {α : Type} (s : Section) (name fallback : String) (ofName? : String → Option α)
    (default_ : α) : M α := do
  let v ← s.get name (.text fallback)
  match ← attempt (textOf v) with
  | .ok text => return (ofName? (Text.lower text)).getD default_
  | .error f => if f.isValueError then return default_ else fail f

def loggingOf (s : Section) : M LoggingConfig := do
  return {
    level := ← s.named "level" "info" LogLevel.ofName? .info
    format := ← s.named "format" "json" LogFormat.ofName? .json
    file := ← textOf (← s.get "file" (.text "")) }

def strictOf (s : Section) : M Bool := do
  match ← s.get "strict_extensions" (.bool true) with
  | .bool b => return b
  | _ => return true

/-- The configuration that settings describe, laid over the defaults. -/
def ofSettings (settings : Table Key Settings) (path : Option String) : M Config := do
  let merged := Tree.mergeEntries defaultSettings settings
  let logging ← loggingOf (← sectionOf merged "logging")
  let render ← sectionOf merged "render"
  return ⟨logging, ← strictOf render, path⟩

def ofValue (v : Value) : M Config := do
  let (entries, _) ← (Settings.entriesOfValue v).run []
  ofSettings entries none

def ofFile (f : Folder) (path : String) : M Config := do
  let entries ← liftResult (readSettingsFile f path)
  ofSettings (Settings.generalKeys entries) (some (normalPath path))

def liftLimit {α : Type} : Except Json.Limit α → M α
  | .ok a => return a
  | .error (.number e) => fail (.numeral e)
  | .error (.depth isList) => fail (.textTooDeep isList)

/-- The configuration of a file, if one is given, with the settings of an environment laid over it,
if one is given. -/
def load (f : Folder) (path : Option String) (env : Option Environment.Variables) : M Config := do
  let base ← match path with
    | some path => liftResult (readSettingsFile f path)
    | none => pure []
  let later ← match env with
    | some vars => liftLimit (Environment.settings Environment.mark vars)
    | none => pure []
  ofSettings (Settings.generalKeys (Tree.mergeEntries base later)) (path.map normalPath)

end Config

end TemplateEngine
