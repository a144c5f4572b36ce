import TemplateEngine.Number.Literal
import TemplateEngine.Text.Quoted
import TemplateEngine.Text.Split
/-!
What may be wrong with a TOML document, and where. A place in a document is given by what is left of
it.
-/
namespace TemplateEngine.Toml

inductive Flaw
  | malformed (text : String) (rest : List Char)
  | number (e : NumeralError)
  /-- Arrays and tables on a line stand inside too many others. -/
  | depth
deriving DecidableEq, Repr

/-- Something read off the front of a text, and what is left. -/
abbrev Reading (α : Type) := α × List Char

def flawed {α : Type} (text : String) (rest : List Char) : Except Flaw α :=
  .error (.malformed text rest)

/-- The line and column of the end of a text, both counted from one. -/
def position (before : List Char) : Nat × Nat :=
  let pass (place : Nat × Nat) (c : Char) :=
    if c = '\n' then (place.1 + 1, 1) else (place.1, place.2 + 1)
  before.foldl pass (1, 1)

/-- The place at which only `rest` is left of a document. -/
def showPlace (document rest : List Char) : String :=
  if rest.isEmpty then "end of document"
  else
    let (line, column) := position (document.take (document.length - rest.length))
    "line " ++ Text.writeBase 10 line ++ ", column " ++ Text.writeBase 10 column

/-- The text of a flaw of grammar, with its place. -/
def showFlaw (document : List Char) (text : String) (rest : List Char) : String :=
  text ++ " (at " ++ showPlace document rest ++ ")"

def isBlank (c : Char) : Bool := c = ' ' || c = '\t'
def isBlankOrNewline (c : Char) : Bool := isBlank c || c = '\n'

/-- Control characters; a tab is none. -/
def isControl (c : Char) : Bool := (c.toNat < 32 && c ≠ '\t') || c.toNat = 127

/-- Control characters other than a line end. -/
def isControlInLines (c : Char) : Bool := isControl c && c ≠ '\n'

/-- The text before the first place where a pattern stands, and the text from there on. -/
def splitBefore? (pat : List Char) : List Char → Option (List Char × List Char)
  | [] => if pat.isEmpty then some ([], []) else none
  | c :: rest =>
    if pat.isPrefixOf (c :: rest) then some ([], c :: rest)
    else (splitBefore? pat rest).map fun (before, rest) => (c :: before, rest)

/-- Refuses a part of a text that holds a character of a kind. -/
def refuse (illegal : Char → Bool) (part s : List Char) : Except Flaw Unit :=
  if part.any illegal then
    let rest := s.dropWhile (!illegal ·)
    flawed ("Found invalid character " ++ Text.quoted (String.ofList (rest.take 1))) rest
  else .ok ()

/-- Passes over a comment, if one stands at the front. -/
def skipComment (s : List Char) : Except Flaw (List Char) :=
  match s with
  | '#' :: rest => do
    let (comment, after) := (rest.takeWhile (· ≠ '\n'), rest.dropWhile (· ≠ '\n'))
    refuse isControl comment rest
    return after
  | s => .ok s

/-- Passes over blanks, line ends and comments; each round takes a comment, so `fuel` of the text's
length is enough. -/
def skipLines : (fuel : Nat) → List Char → Except Flaw (List Char)
  | 0, s => .ok s
  | fuel + 1, s => do
    let s := s.dropWhile isBlankOrNewline
    match s with
    | '#' :: _ => skipLines fuel (← skipComment s)
    | s => return s

end TemplateEngine.Toml
