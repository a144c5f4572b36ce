import TemplateEngine.ObjectModel
import TemplateEngine.Log.Event
import TemplateEngine.Render.Template
/-!
The stage of a rendering: the world, the text written so far, the variables that were noted, and the
events that were logged. What was done before a failure stays.
-/
namespace TemplateEngine

/-- A variable under its folded name, with the spelling of its last writing. -/
structure Noted where
  name : String
  spelling : String
  value : Value
deriving DecidableEq, Repr

/-- The variables of a body at one moment. -/
structure Snapshot where
  label : Value
  scope : List Noted
  arguments : List Noted
deriving DecidableEq, Repr

structure Stage where
  world : World
  output : String
  trace : List Snapshot
  events : List Event

/-- What an extension does. -/
inductive Extension
  /-- Joins the elements of a collection with a separator. -/
  | join
  /-- Counts its arguments. -/
  | count
  /-- Gives its first argument back. -/
  | echo
  /-- Calls another extension. -/
  | chain
  | failing
deriving DecidableEq, Repr

/-- What all units of a rendering share. -/
structure Context where
  globals : Value
  model : ObjectModel
  extensions : Table String Extension
  /-- Whether calling an unknown extension fails. -/
  strict : Bool
  /-- The rank below which events are dropped. -/
  threshold : Nat

abbrev Render := ExceptT Fault (StateM Stage)

namespace Render

/-- Runs a computation on the world of the stage. -/
def onWorld {α : Type} (x : M α) : Render α :=
  ExceptT.mk fun s =>
    let (result, w) := x.run.run s.world
    (result, { s with world := w })

def write (text : String) : Render Unit :=
  modify fun s => { s with output := s.output ++ text }

def note (snapshot : Snapshot) : Render Unit :=
  modify fun s => { s with trace := s.trace ++ [snapshot] }

def log (c : Context) (severity : Severity) (name : String) (fields : Table String Value) :
    Render Unit :=
  if severity.rank < c.threshold then return ()
  else modify fun s => { s with events := s.events ++ [⟨severity, .text name, fields⟩] }

end Render

end TemplateEngine
