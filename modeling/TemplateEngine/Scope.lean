import TemplateEngine.Table
import TemplateEngine.Text.Case
/-!
Scopes: variables whose names are compared without regard to case. A scope remembers the name under
which each variable was last written, and lists the folded names in order of first writing.
-/
namespace TemplateEngine

/-- A name: its text, and what was given as the name. -/
structure Name (κ : Type) where
  text : String
  given : κ
deriving Repr

def Name.folded {κ : Type} (n : Name κ) : String := Text.foldCase n.text

/-- The name last written for each folded text, and the value of each text with the first name that
had the text. The first table gives the order of iteration, the second one the order of storage. -/
structure Scope (κ α : Type) where
  spellings : Table String (Name κ)
  values : Table String (κ × α)
deriving Repr

namespace Scope

variable {κ α : Type}

def empty : Scope κ α := ⟨[], []⟩

def spelling? (s : Scope κ α) (text : String) : Option (Name κ) :=
  s.spellings.get? (Text.foldCase text)

def get? (s : Scope κ α) (text : String) : Option α :=
  ((s.spelling? text).bind fun name => s.values.get? name.text).map Prod.snd

def contains (s : Scope κ α) (text : String) : Bool := (s.spelling? text).isSome

/-- Writes a variable. A value stored under another text is dropped first. -/
def insert (s : Scope κ α) (name : Name κ) (value : α) : Scope κ α :=
  let values := match s.spellings.get? name.folded with
    | some old => if old.text = name.text then s.values else s.values.erase old.text
    | none => s.values
  let first := ((values.get? name.text).map Prod.fst).getD name.given
  ⟨s.spellings.insert name.folded name, values.insert name.text (first, value)⟩

def erase (s : Scope κ α) (text : String) : Scope κ α :=
  match s.spelling? text with
  | some old => ⟨s.spellings.erase (Text.foldCase text), s.values.erase old.text⟩
  | none => s

def size (s : Scope κ α) : Nat := s.values.length

/-- Folded names with their values, in order of iteration. -/
def entries (s : Scope κ α) : List (String × α) :=
  s.spellings.filterMap fun (folded, _) => (s.get? folded).map (folded, ·)

/-- Names with their values, in order of storage. -/
def stored (s : Scope κ α) : List (Name κ × α) :=
  s.values.map fun (text, given, value) => (⟨text, given⟩, value)

def insertAll (s : Scope κ α) (entries : List (Name κ × α)) : Scope κ α :=
  entries.foldl (fun s (name, value) => s.insert name value) s

/-- A scope with the given entries, written in order. -/
def ofEntries (entries : List (Name κ × α)) : Scope κ α := empty.insertAll entries

/-- A new scope with the same variables, written in order of storage. -/
def copy (s : Scope κ α) : Scope κ α := ofEntries s.stored

/-- The first variable in order of iteration, and the scope without it. -/
def popFirst? (s : Scope κ α) : Option ((String × α) × Scope κ α) :=
  match s.entries with
  | [] => none
  | (text, value) :: _ => some ((text, value), s.erase text)

end Scope

end TemplateEngine
