import TemplateEngine.Settings.Tree
import TemplateEngine.Toml.Scalar
/-!
TOML documents: a table of settings, written line by line. A table may be opened once only, and what
was written as one value cannot be added to.
-/
namespace TemplateEngine.Toml

abbrev Path := List String

abbrev Entries := Table String (Tree String Value)

/-- A path between brackets, as it is shown in messages. -/
def showPath : Path → String
  | [name] => "(" ++ Text.quoted name ++ ",)"
  | path => "(" ++ Text.join ", " (path.map Text.quoted) ++ ")"

def overwritten : String := "Cannot overwrite a value"

/-- Why a table could not be changed at a path: a value stands in the way, or the change itself
failed. -/
inductive Obstacle
  | value
  | change (text : String)
deriving DecidableEq, Repr

mutual

/-- Changes the table at a path; tables are made on the way. With `inLists` the last element of a
list is entered. -/
def changeAt (inLists : Bool) (change : Entries → Except Obstacle Entries) :
    Path → Entries → Except Obstacle Entries
  | [], entries => change entries
  | key :: path, entries =>
    match Table.get? entries key with
    | none => return Table.insert entries key (.table (← changeAt inLists change path []))
    | some t => return Table.insert entries key (← enter inLists change path t)

/-- Changes the table at a path below what stands under a key. -/
def enter (inLists : Bool) (change : Entries → Except Obstacle Entries) (path : Path) :
    Tree String Value → Except Obstacle (Tree String Value)
  | .table entries => return .table (← changeAt inLists change path entries)
  | .list items =>
    match inLists, items.getLast? with
    | true, some (.table entries) =>
      return .list (items.dropLast ++ [.table (← changeAt inLists change path entries)])
    | _, _ => .error .value
  | .leaf _ => .error .value

end

/-- Adds an entry under a new key. -/
def addEntry (key : String) (t : Tree String Value) (duplicate : Obstacle) (entries : Entries) :
    Except Obstacle Entries :=
  if Table.contains entries key then .error duplicate else .ok (Table.insert entries key t)

/-- Adds a table to the list under a key. -/
def addToList (key : String) (entries : Entries) : Except Obstacle Entries :=
  match Table.get? entries key with
  | none => .ok (Table.insert entries key (.list [.table []]))
  | some (.list items) => .ok (Table.insert entries key (.list (items ++ [.table []])))
  | some _ => .error .value

def isBareKey (c : Char) : Bool :=
  ('a' ≤ c && c ≤ 'z') || ('A' ≤ c && c ≤ 'Z') || isAsciiDigit c || c = '-' || c = '_'

def startsKey (c : Char) : Bool := isBareKey c || c = '"' || c = '\''

def readKeyPart (s : List Char) : Except Flaw (Reading String) :=
  match s with
  | [] => flawed "Invalid initial character for a key part" []
  | c :: rest =>
    if isBareKey c then .ok (String.ofList (s.takeWhile isBareKey), s.dropWhile isBareKey)
    else if c = '"' || c = '\'' then readLineText (c :: rest)
    else flawed "Invalid initial character for a key part" s

/-- Reads keys with points between them; `fuel` of the text's length is enough. -/
def readPath : (fuel : Nat) → List Char → Except Flaw (Reading Path)
  | 0, s => flawed "Invalid initial character for a key part" s
  | fuel + 1, s => do
    let (key, rest) ← readKeyPart s
    match rest.dropWhile isBlank with
    | '.' :: rest => do
      let (path, rest) ← readPath fuel (rest.dropWhile isBlank)
      return (key :: path, rest)
    | rest => return ([key], rest)

/-- The parent of a path, and its last key. -/
def parentOf (path : Path) : Path := path.dropLast
def lastOf (path : Path) : String := path.getLastD ""

/-- Reads a path and the sign before its value. -/
def readPathAndSign (s : List Char) : Except Flaw (Reading Path) := do
  let (path, rest) ← readPath (s.length + 1) s
  match rest with
  | '=' :: rest => return (path, rest.dropWhile isBlank)
  | rest => flawed "Expected '=' after a key in a key/value pair" rest

/-- Whether a path leads into what was written as one value. -/
def isFrozen (frozen : List Path) (path : Path) : Bool := frozen.any (·.isPrefixOf path)

/-- Whether something was written as one value that cannot be added to. -/
def isClosed : Tree String Value → Bool
  | .leaf _ => false
  | _ => true

def liftObstacle {α : Type} (rest : List Char) : Except Obstacle α → Except Flaw α
  | .ok a => .ok a
  | .error .value => flawed overwritten rest
  | .error (.change text) => flawed text rest

/-- How much room there is for values inside each other: an array takes two places, and a table on a
line three. -/
def maxRoom : Nat := 980

def arrayRoom : Nat := 2
def inlineRoom : Nat := 3

mutual

/-- Reads a value. Each step takes a character, so `fuel` of twice the text's length is enough. -/
def readTree (room : Nat) : (fuel : Nat) → List Char → Except Flaw (Reading (Tree String Value))
  | 0, s => flawed "Invalid value" s
  | fuel + 1, s =>
    match s with
    | '[' :: rest =>
      if room < arrayRoom then .error .depth
      else do
        match ← skipLines rest.length rest with
        | ']' :: rest => return (.list [], rest)
        | rest => readItems (room - arrayRoom) fuel [] rest
    | '{' :: rest =>
      if room < inlineRoom then .error .depth
      else match rest.dropWhile isBlank with
        | '}' :: rest => .ok (.table [], rest)
        | rest => readInline (room - inlineRoom) fuel [] [] rest
    | s => do
      let (v, rest) ← readScalar s
      return (.leaf v, rest)

/-- Reads the rest of an array; `read` holds the items read so far, the last one first. -/
def readItems (room : Nat) : (fuel : Nat) → (read : List (Tree String Value)) → List Char →
    Except Flaw (Reading (Tree String Value))
  | 0, _, s => flawed "Unclosed array" s
  | fuel + 1, read, s => do
    let (t, rest) ← readTree room fuel s
    match ← skipLines rest.length rest with
    | ']' :: rest => return (.list (t :: read).reverse, rest)
    | ',' :: rest =>
      match ← skipLines rest.length rest with
      | ']' :: rest => return (.list (t :: read).reverse, rest)
      | rest => readItems room fuel (t :: read) rest
    | rest => flawed "Unclosed array" rest

/-- Reads the rest of a table on one line. -/
def readInline (room : Nat) : (fuel : Nat) → (frozen : List Path) → (entries : Entries) →
    List Char → Except Flaw (Reading (Tree String Value))
  | 0, _, _, s => flawed "Unclosed inline table" s
  | fuel + 1, frozen, entries, s => do
    let (path, rest) ← readPathAndSign s
    let (t, rest) ← readTree room fuel rest
    let key := lastOf path
    if isFrozen frozen path then
      flawed ("Cannot mutate immutable namespace " ++ showPath path) rest
    let duplicate := Obstacle.change ("Duplicate inline table key " ++ Text.quoted key)
    let entries ← liftObstacle rest
      (changeAt false (addEntry key t duplicate) (parentOf path) entries)
    match rest.dropWhile isBlank with
    | '}' :: rest => return (.table entries, rest)
    | ',' :: rest =>
      let frozen := if isClosed t then path :: frozen else frozen
      readInline room fuel frozen entries (rest.dropWhile isBlank)
    | rest => flawed "Unclosed inline table" rest

end

/-- A document as far as it was read: its settings, the table that is open, the tables that may not
be opened again, those that join them when the next table is opened, and what was written as one
value. -/
structure Draft where
  entries : Entries
  header : Path
  opened : List Path
  pending : List Path
  frozen : List Path

namespace Draft

def empty : Draft := ⟨[], [], [], [], []⟩

/-- Opens a table; `s` follows the bracket. -/
def openTable (d : Draft) (s : List Char) : Except Flaw (Reading Draft) := do
  let (path, rest) ← readPath (s.length + 1) (s.dropWhile isBlank)
  if d.opened.contains path || isFrozen d.frozen path then
    flawed ("Cannot declare " ++ showPath path ++ " twice") rest
  let entries ← liftObstacle rest (changeAt true .ok path d.entries)
  match rest with
  | ']' :: rest =>
    return ({ d with entries := entries, header := path, opened := path :: d.opened }, rest)
  | rest => flawed "Expected ']' at the end of a table declaration" rest

/-- Opens a new table at the end of a list; `s` follows the brackets. -/
def openElement (d : Draft) (s : List Char) : Except Flaw (Reading Draft) := do
  let (path, rest) ← readPath (s.length + 1) (s.dropWhile isBlank)
  if isFrozen d.frozen path then
    flawed ("Cannot mutate immutable namespace " ++ showPath path) rest
  let entries ← liftObstacle rest
    (changeAt true (addToList (lastOf path)) (parentOf path) d.entries)
  match rest with
  | ']' :: ']' :: rest =>
    return ({ d with
      entries := entries
      header := path
      opened := path :: d.opened.filter (!path.isPrefixOf ·)
      frozen := d.frozen.filter (!path.isPrefixOf ·) }, rest)
  | rest => flawed "Expected ']]' at the end of an array declaration" rest

/-- The paths from the open table to the parent of a key, the open table left out. -/
def waypoints (header path : Path) : List Path :=
  (List.range (path.length - 1)).map fun i => header ++ path.take (i + 1)

/-- Reads a key and its value into the open table. -/
def readEntry (d : Draft) (s : List Char) : Except Flaw (Reading Draft) := do
  let (path, rest) ← readPathAndSign s
  let (t, rest) ← readTree maxRoom (2 * rest.length + 2) rest
  let way := waypoints d.header path
  match way.find? d.opened.contains with
  | some redefined => flawed ("Cannot redefine namespace " ++ showPath redefined) rest
  | none => pure ()
  let parent := d.header ++ parentOf path
  if isFrozen d.frozen parent then
    flawed ("Cannot mutate immutable namespace " ++ showPath parent) rest
  let entries ← liftObstacle rest
    (changeAt true (addEntry (lastOf path) t .value) parent d.entries)
  return ({ d with
    entries := entries
    pending := way ++ d.pending
    frozen := if isClosed t then (d.header ++ path) :: d.frozen else d.frozen }, rest)

/-- Closes the open table. -/
def finish (d : Draft) : Draft := { d with opened := d.pending ++ d.opened, pending := [] }

/-- Reads what a line begins with. -/
def readStatement (d : Draft) (s : List Char) : Except Flaw (Reading Draft) :=
  match s with
  | '[' :: '[' :: rest => d.finish.openElement rest
  | '[' :: rest => d.finish.openTable rest
  | '#' :: rest => .ok (d, '#' :: rest)
  | c :: rest => if startsKey c then d.readEntry (c :: rest) else flawed "Invalid statement" s
  | [] => .ok (d, [])

/-- Reads line by line; each line takes a character, so `fuel` of the text's length is enough. -/
def readLines : (fuel : Nat) → Draft → List Char → Except Flaw Draft
  | 0, d, _ => .ok d
  | fuel + 1, d, s => do
    match s.dropWhile isBlank with
    | [] => return d
    | '\n' :: rest => readLines fuel d rest
    | s => do
      let (d, rest) ← d.readStatement s
      match ← skipComment (rest.dropWhile isBlank) with
      | [] => return d
      | '\n' :: rest => readLines fuel d rest
      | rest => flawed "Expected newline or end of document after a statement" rest

end Draft

/-- Writes every line end as a single character. -/
def unifyLineEnds : List Char → List Char
  | '\r' :: '\n' :: rest => '\n' :: unifyLineEnds rest
  | c :: rest => c :: unifyLineEnds rest
  | [] => []

/-- What is wrong with a document: the text of a flaw with its place, a number that is too long, or
values too deep inside each other. -/
inductive Failure
  | malformed (text : String)
  | number (e : NumeralError)
  | depth
deriving DecidableEq, Repr

/-- Reads a document. -/
def read (text : String) : Except Failure Entries :=
  let document := unifyLineEnds text.toList
  match Draft.empty.readLines (document.length + 1) document with
  | .ok d => .ok d.entries
  | .error (.malformed text rest) => .error (.malformed (showFlaw document text rest))
  | .error (.number e) => .error (.number e)
  | .error .depth => .error .depth

end TemplateEngine.Toml
