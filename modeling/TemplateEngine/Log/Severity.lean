/-!
How serious a log line is.
-/
namespace TemplateEngine

inductive Severity
  | debug | info | warning | error | critical
deriving DecidableEq, Repr

namespace Severity

def name : Severity → String
  | debug => "debug"
  | info => "info"
  | warning => "warning"
  | error => "error"
  | critical => "critical"

/-- Greater numbers are more serious. A log with a threshold drops what ranks below it. -/
def rank : Severity → Nat
  | debug => 10
  | info => 20
  | warning => 30
  | error => 40
  | critical => 50

/-- The names under which a threshold may be set, in upper case. -/
def thresholds : List (String × Nat) :=
  [("CRITICAL", 50), ("FATAL", 50), ("ERROR", 40), ("WARN", 30), ("WARNING", 30), ("INFO", 20),
   ("DEBUG", 10), ("NOTSET", 0)]

end Severity

end TemplateEngine
