import TemplateEngine.Number.Loose
import TemplateEngine.Settings.Json
/-!
Settings from environment variables. A double underscore in the name of a variable separates the
keys of a path; its text is read as a truth value, a number, or JSON in brackets, if it is one.
-/
namespace TemplateEngine.Environment

/-- The variables of an environment, each name once. -/
abbrev Variables := Table String String

/-- The prefix of all variables that matter here. -/
def mark : String := "SIGHTLY_"

/-- An integer, if it is not too long. -/
def integer? (s : String) : Option Int :=
  (Loose.integer? s.toList).bind fun (negative, digits) => (readInteger negative digits).toOption

/-- A number with a point. -/
def pointNumber? (s : String) : Option Binary64 :=
  if s.toList.contains '.' then Loose.real? s.toList else none

def isBracketed (s : List Char) : Bool :=
  (s.head? == some '[' && s.getLast? == some ']') || (s.head? == some '{' && s.getLast? == some '}')

/-- What the text of a variable stands for. JSON that breaks a limit is refused; any other flaw
makes the text stand for itself. -/
def readText (s : String) : Except Json.Limit (Tree String Value) :=
  let lower := Text.lower s
  if ["true", "false", "1", "0"].contains lower then
    .ok (.leaf (.bool (["true", "1"].contains lower)))
  else match integer? s with
  | some n => .ok (.leaf (.int n))
  | none =>
    match pointNumber? s with
    | some x => .ok (.leaf (.float x))
    | none =>
      if isBracketed s.toList then
        match Json.read s.toList with
        | .ok t => .ok t
        | .error .malformed => .ok (.leaf (.text s))
        | .error (.limit l) => .error l
      else .ok (.leaf (.text s))

/-- The parts of a name between double underscores, read from the left. -/
def splitDoubled : List Char → List (List Char)
  | '_' :: '_' :: rest => [] :: splitDoubled rest
  | c :: rest =>
    match splitDoubled rest with
    | [] => [[c]]
    | part :: parts => (c :: part) :: parts
  | [] => [[]]

/-- The path of keys that a name without its prefix stands for; a name without a double underscore
has none. A point separates keys, too. -/
def path? (name : List Char) : Option (String × List String) :=
  let parts := splitDoubled name
  if parts.length < 2 then none
  else
    let lower := Text.lower (Text.join "." (parts.map String.ofList))
    match (Text.splitAtEach '.' lower.toList).map String.ofList with
    | [] => none
    | key :: path => some (key, path)

/-- The path of a variable, if its name begins with a prefix and has one. -/
def variablePath? (pre name : String) : Option (String × List String) :=
  (Text.dropPrefix? pre.toList name.toList).bind path?

/-- Writes the settings of variables one after the other. -/
def readVariables (pre : String) (settings : Table String (Tree String Value)) :
    List (String × String) → Except Json.Limit (Table String (Tree String Value))
  | [] => .ok settings
  | (name, text) :: rest =>
    match variablePath? pre name with
    | none => readVariables pre settings rest
    | some (key, path) => do
      let t ← readText text
      readVariables pre (Tree.setAt settings key path t) rest

/-- The settings of an environment. -/
def settings (pre : String) (vars : Variables) :
    Except Json.Limit (Table String (Tree String Value)) :=
  readVariables pre [] vars

end TemplateEngine.Environment
