import TemplateEngine.Settings.Config
import TemplateEngine.Log.Line
/-!
Loggers: where lines go, in which format, and from which rank on.
-/
namespace TemplateEngine

structure Logger where
  /-- A file that lines are added to; nothing stands for the error stream. -/
  file : String
  threshold : Nat
  format : LogFormat
deriving DecidableEq, Repr

/-- What was written: the error stream, and the files of the working directory. -/
structure Printed where
  errors : String
  files : Folder

namespace Logger

/-- Whether the environment asks for all events. -/
def isDebugging (vars : Environment.Variables) : Bool :=
  (Table.get? vars (Environment.mark ++ "DEBUG")).any (!·.isEmpty)

/-- The rank that a name of a level stands for, in any case. -/
def rankOfName (name : String) : Nat :=
  (Severity.thresholds.lookup (Text.upper name)).getD Severity.info.rank

/-- The threshold that a level sets. -/
def thresholdOfLevel (vars : Environment.Variables) (level : String) : Nat :=
  if isDebugging vars then Severity.debug.rank else rankOfName level

/-- The threshold that the environment sets. -/
def thresholdOf (vars : Environment.Variables) : Nat :=
  thresholdOfLevel vars ((Table.get? vars (Environment.mark ++ "LOG_LEVEL")).getD "info")

/-- A logger with a level of its own, or that of the environment. -/
def make (vars : Environment.Variables) (file : String) (level : Option String)
    (format : LogFormat) : Logger where
  file := file
  threshold := match level with
    | some level => thresholdOfLevel vars level
    | none => thresholdOf vars
  format := format

def ofConfig (vars : Environment.Variables) (c : LoggingConfig) : Logger :=
  make vars c.file (some c.level.name) c.format

def line (l : Logger) (e : Event) : M String :=
  match l.format with
  | .json => LogLine.asJson e
  | .text => LogLine.asText e

/-- The lines of the events that reach the threshold. -/
def lines (l : Logger) : List Event → M (List String)
  | [] => return []
  | e :: rest => do
    if e.severity.rank < l.threshold then lines l rest
    else do
      let line ← l.line e
      return line :: (← lines l rest)

/-- Writes events to where a logger writes. The file is made when the logger is. -/
def print (l : Logger) (files : Folder) (events : List Event) : M Printed := do
  if l.file.toList.contains '\x00' then fail .nullInPath
  if !l.file.isEmpty && files.isDirectory l.file then fail (.isDirectory (normalPath l.file))
  let text := String.join ((← l.lines events).map (· ++ "\n"))
  if l.file.isEmpty then return ⟨text, files.inside⟩
  else
    let before := (Table.get? files (placeOf l.file)).getD []
    return ⟨"", (files.write l.file (before ++ text.toUTF8.toList)).inside⟩

/-- Writes the events of calls, as far as they reach the threshold. -/
def printCalls (l : Logger) (files : Folder) (calls : List LogCall) : M Printed := do
  let events ← liftResult (calls.mapM fun c => c.event? l.threshold)
  l.print files (events.filterMap id)

end Logger

end TemplateEngine
