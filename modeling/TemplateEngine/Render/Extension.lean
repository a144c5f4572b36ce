import TemplateEngine.Render.Stage
/-!
Extensions: functions that templates call by name.
-/
namespace TemplateEngine

/-- The names under which extensions are usually found. -/
inductive ExtensionName
  | format | i18n | join | uriManipulation | xss | includeScript | includeResource | use
deriving DecidableEq, Repr

namespace ExtensionName

/-- Each name with its constant and its text, in order. -/
def all : List (ExtensionName × String × String) :=
  [(format, "FORMAT", "format"), (i18n, "I18N", "i18n"), (join, "JOIN", "join"),
   (uriManipulation, "URI_MANIPULATION", "uriManipulation"), (xss, "XSS", "xss"),
   (includeScript, "INCLUDE", "include"), (includeResource, "RESOURCE", "includeResource"),
   (use, "USE", "use")]

/-- The text of the name with a constant. -/
def ofConstant? (constant : String) : Option String :=
  (all.find? (·.2.1 == constant)).map (·.2.2)

end ExtensionName

namespace Extension

/-- Joins the texts of the elements of a collection. -/
def joinElements (arguments : List Value) : M Value := do
  match arguments with
  | [collection, separator] => do
    let sep ← toTemplateText separator
    match (← get).text? sep with
    | some sep =>
      return .text (← joinEach sep toTemplateText (← ObjectModel.toCollection collection))
    | none => fail (.noAttribute ((← get).typeInMessages sep) "join")
  | arguments =>
    let n := arguments.length
    if n < 2 then fail (.tooFewValues 2 n) else fail (.tooManyValues 2)

/-- Runs an extension; `call` calls another one by name. -/
def run (call : Value → List Value → Render Value) (arguments : List Value) :
    Extension → Render Value
  | join => Render.onWorld (joinElements arguments)
  | count => return .int arguments.length
  | echo => return arguments.headD .null
  | chain =>
    match arguments with
    | name :: rest => call name rest
    | [] => throw (.missingArguments "RenderContext.call" ["name"])
  | failing => throw .extensionFailed

end Extension

/-- The extension of a name; only what may be a key is looked up. -/
def findExtension (c : Context) (name : Value) : M (Option Extension) := do
  let w ← get
  liftResult (w.hash name)
  return (w.text? name).bind c.extensions.get?

/-- Calls an extension by name. Each call of another extension uses up an argument, so the number of
arguments bounds the nesting. -/
def callExtensionWithin (c : Context) : (fuel : Nat) → Value → List Value → Render Value
  | 0, _, _ => throw .nestedTooDeep
  | fuel + 1, name, arguments => do
    let found ← Render.onWorld (findExtension c name)
    let shown ← Render.onWorld (textOf name)
    match found with
    | some e => do
      Render.log c .debug "call_extension"
        [("extension", .text shown), ("arguments", .int arguments.length)]
      e.run (callExtensionWithin c fuel) arguments
    | none =>
      if c.strict then throw (.extensionMissing shown)
      else do
        Render.log c .warning "extension_not_found" [("extension", .text shown)]
        return .null

def callExtension (c : Context) (name : Value) (arguments : List Value) : Render Value :=
  callExtensionWithin c (arguments.length + 1) name arguments

end TemplateEngine
