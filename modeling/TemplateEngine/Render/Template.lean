import TemplateEngine.Recipe
/-!
Templates: what the body of a unit does, and the expressions in it.
-/
namespace TemplateEngine

/-- The variables that a body can reach: its scope, or the arguments of the call. -/
inductive Variables
  | scope
  | arguments
deriving DecidableEq, Repr

/-- Literal values are made anew each time. -/
inductive Expr
  | literal (r : Recipe)
  /-- The variable of a name, which must be there. -/
  | variable (source : Variables) (name : Recipe)
  /-- A property of all variables together. -/
  | member (source : Variables) (prop : Recipe)
  | property (target prop : Expr)
  | extension (name : String) (arguments : List Expr)
  /-- A map built entry by entry. -/
  | map (names : List Recipe) (values : List Expr)
  | whole (source : Variables)
  | self
  | item

inductive Instruction
  | text (s : String)
  | write (e : Expr)
  | call (template : Expr) (arguments : Option Expr)
  | set (target : Variables) (name : Recipe) (value : Expr)
  | erase (target : Variables) (name : Recipe)
  | ite (condition : Expr) (yes no : List Instruction)
  | each (collection : Expr) (body : List Instruction)
  /-- Runs a body; a failure of rendering is written as its kind. -/
  | guarded (body : List Instruction)
  /-- Notes all variables under a label. -/
  | trace (label : Recipe)

abbrev Body := List Instruction

end TemplateEngine
