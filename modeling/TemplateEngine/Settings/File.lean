import TemplateEngine.World
import TemplateEngine.Toml.Document
/-!
Settings from files. A flaw is reported with the file's path and with the place that its message
names.
-/
namespace TemplateEngine

/-- A path without its empty and idle parts. -/
def normalPath (path : String) : String :=
  let parts := (Text.splitAtEach '/' path.toList).filter fun part => !part.isEmpty && part != ['.']
  let joined := Text.join "/" (parts.map String.ofList)
  if Text.hasPrefix "/" path then "/" ++ joined
  else if joined.isEmpty then "." else joined

/-- The parts of a path without steps back; none if the path leads out of where it starts. The parts
so far come first, the last one in front. -/
def withoutSteps? (before : List String) : List String → Option (List String)
  | [] => some before.reverse
  | part :: rest =>
    if part = "." then withoutSteps? before rest
    else if part = ".." then
      match before with
      | [] => none
      | _ :: before => withoutSteps? before rest
    else withoutSteps? (part :: before) rest

/-- The place of a path inside the working directory, if it lies there. -/
def placeInside? (path : String) : Option String :=
  if Text.hasPrefix "/" path then none
  else
    let parts := (Text.splitAtEach '/' (normalPath path).toList).map String.ofList
    (withoutSteps? [] parts).map fun parts => if parts.isEmpty then "." else Text.join "/" parts

/-- The place of a path. -/
def placeOf (path : String) : String := (placeInside? path).getD (normalPath path)

/-- The files of a working directory, by place. -/
abbrev Folder := Table String (List UInt8)

namespace Folder

def write (f : Folder) (path : String) (bytes : List UInt8) : Folder :=
  Table.insert f (placeOf path) bytes

/-- The files that lie inside the directory. -/
def inside (f : Folder) : Folder := f.filter fun (place, _) => (placeInside? place).isSome

def isDirectory (f : Folder) (path : String) : Bool :=
  let place := placeOf path
  [".", "..", "/"].contains place ||
    (Table.keys f).any fun other => Text.hasPrefix (place ++ "/") other

def read (f : Folder) (path : String) : Except Fault (List UInt8) :=
  let shown := normalPath path
  if path.toList.contains '\x00' then .error .nullInPath
  else match Table.get? f (placeOf path) with
    | some bytes => .ok bytes
    | none => .error (if f.isDirectory path then .isDirectory shown else .fileMissing shown)

end Folder

/-- Decimal digits at the front, and the rest. -/
def leadingDigits? (s : List Char) : Option (List Char × List Char) :=
  let digits := s.takeWhile Text.isDigit
  if digits.isEmpty then none else some (digits, s.dropWhile Text.isDigit)

/-- The digits of a place in brackets, at the front: those of the line and those of the column. -/
def placeAtFront? (s : List Char) : Option (List Char × List Char) := do
  let s ← Text.dropPrefix? "(at line ".toList s
  let (line, s) ← leadingDigits? s
  let s ← Text.dropPrefix? ", column ".toList s
  let (column, s) ← leadingDigits? s
  let _ ← Text.dropPrefix? [')'] s
  return (line, column)

/-- The digits of the first place in brackets that a message names. -/
def placeIn? : List Char → Option (List Char × List Char)
  | [] => none
  | c :: rest => (placeAtFront? (c :: rest)).orElse fun _ => placeIn? rest

/-- The number of some decimal digits, if there are not too many. -/
def readNatural (digits : List Char) : Except NumeralError Nat :=
  (readInteger false digits).map Int.toNat

/-- The first place that a message names, as it is reported. -/
def reportedPlace (message : String) : Except NumeralError (Option (Nat × Nat)) :=
  match placeIn? message.toList with
  | none => .ok none
  | some (line, column) => do return some (← readNatural line, ← readNatural column)

/-- What is reported of a flaw of grammar. A place in its message with a number that is too long
cannot be reported. -/
def flawFault (path message : String) : Fault :=
  match reportedPlace message with
  | .ok place => .configLoad ("Failed to parse TOML file: " ++ message) (normalPath path) place
  | .error e => .numeral e

/-- Reads the settings of a file. -/
def readSettingsFile (f : Folder) (path : String) : Except Fault Toml.Entries := do
  let bytes ← f.read path
  match Text.Utf8.decode bytes with
  | .error place => .error (.undecodable place)
  | .ok text =>
    match Toml.read text with
    | .ok entries => .ok entries
    | .error (.number e) => .error (.numeral e)
    | .error .depth => .error .nestedTooDeep
    | .error (.malformed message) => .error (flawFault path message)

end TemplateEngine
