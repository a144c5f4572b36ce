import TemplateEngine.Value
import TemplateEngine.Number.Literal
import TemplateEngine.Settings.Tree
/-!
Settings in JSON. The three numbers that are not finite have names of their own.
-/
namespace TemplateEngine.Json

/-- A limit that a well-formed text may break. -/
inductive Limit
  | number (e : NumeralError)
  /-- A list or table stands inside too many others. -/
  | depth (isList : Bool)
deriving DecidableEq, Repr

/-- Why a text is not read. -/
inductive Flaw
  | malformed
  | limit (l : Limit)
deriving DecidableEq, Repr

def skipBlanks (s : List Char) : List Char :=
  s.dropWhile fun c => c = ' ' || c = '\t' || c = '\n' || c = '\r'

def isAsciiDigit (c : Char) : Bool := '0' ≤ c && c ≤ '9'

/-- Four hexadecimal digits. -/
def hexQuad? : List Char → Option (Nat × List Char)
  | a :: b :: c :: d :: rest =>
    if [a, b, c, d].all Text.isHexDigit then some (Text.readBase 16 [a, b, c, d], rest) else none
  | _ => none

def isHighHalf (n : Nat) : Bool := 0xd800 ≤ n && n ≤ 0xdbff
def isLowHalf (n : Nat) : Bool := 0xdc00 ≤ n && n ≤ 0xdfff

/-- The character of an escape by number; two halves make one character. -/
def unicodeEscape (s : List Char) : Except Flaw (Char × List Char) :=
  match hexQuad? s with
  | none => .error .malformed
  | some (high, rest) =>
    let isHalf := isHighHalf high || isLowHalf high
    let single := .ok (Char.ofNat (if isHalf then 0xfffd else high), rest)
    if isHighHalf high then
      match rest with
      | '\\' :: 'u' :: more =>
        match hexQuad? more with
        | none => .error .malformed
        | some (low, rest) =>
          if isLowHalf low then
            .ok (Char.ofNat (0x10000 + (high - 0xd800) * 0x400 + (low - 0xdc00)), rest)
          else single
      | _ => single
    else single

def simpleEscapes : List (Char × Char) :=
  [('"', '"'), ('\\', '\\'), ('/', '/'), ('b', Char.ofNat 8), ('f', Char.ofNat 12), ('n', '\n'),
   ('r', '\r'), ('t', '\t')]

/-- The rest of a text in quotes; `read` holds what was read, the last character first. Each step
takes a character, so `fuel` of the text's length is enough. -/
def readString : (fuel : Nat) → (read : List Char) → List Char → Except Flaw (String × List Char)
  | 0, _, _ => .error .malformed
  | fuel + 1, read, s =>
    match s with
    | [] => .error .malformed
    | '"' :: rest => .ok (String.ofList read.reverse, rest)
    | '\\' :: 'u' :: rest => do
      let (c, rest) ← unicodeEscape rest
      readString fuel (c :: read) rest
    | '\\' :: mark :: rest =>
      match simpleEscapes.lookup mark with
      | some c => readString fuel (c :: read) rest
      | none => .error .malformed
    | c :: rest => if c.toNat < 0x20 then .error .malformed else readString fuel (c :: read) rest

/-- A point and digits, if both are there. -/
def fraction (s : List Char) : List Char × List Char :=
  match s with
  | '.' :: rest =>
    let digits := rest.takeWhile isAsciiDigit
    if digits.isEmpty then ([], s) else ('.' :: digits, rest.dropWhile isAsciiDigit)
  | _ => ([], s)

/-- A mark, an optional sign and digits, if all are there. -/
def power (s : List Char) : List Char × List Char :=
  match s with
  | mark :: rest =>
    if mark = 'e' || mark = 'E' then
      let (sign, rest) := match rest with
        | '-' :: rest => (['-'], rest)
        | '+' :: rest => (['+'], rest)
        | rest => ([], rest)
      let digits := rest.takeWhile isAsciiDigit
      if digits.isEmpty then ([], s) else (mark :: sign ++ digits, rest.dropWhile isAsciiDigit)
    else ([], s)
  | [] => ([], [])

def floatOf (negative : Bool) (text : List Char) : Value :=
  match Decimal.ofFiniteText? negative text with
  | some d => .float d.toBinary64
  | none => .null

/-- A zero, or digits that do not begin with one. -/
def wholePart? (s : List Char) : Option (List Char × List Char) :=
  match s with
  | '0' :: rest => some (['0'], rest)
  | c :: _ =>
    if isAsciiDigit c then some (s.takeWhile isAsciiDigit, s.dropWhile isAsciiDigit) else none
  | [] => none

/-- A number without its sign: an integer has neither a fraction nor an exponent. -/
def readNumber (negative : Bool) (s : List Char) : Except Flaw (Value × List Char) :=
  match wholePart? s with
  | none => .error .malformed
  | some (whole, rest) =>
    let (point, rest) := fraction rest
    let (exp, rest) := power rest
    if point.isEmpty && exp.isEmpty then
      match readInteger negative whole with
      | .ok n => .ok (.int n, rest)
      | .error e => .error (.limit (.number e))
    else .ok (floatOf negative (whole ++ point ++ exp), rest)

/-- The mark of the one NaN that all texts share. -/
def sharedMark : Nat := 1

def words : List (String × Value) :=
  [("null", .null), ("true", .bool true), ("false", .bool false),
   ("NaN", .float (.nan sharedMark)), ("Infinity", .float (.infinite false)),
   ("-Infinity", .float (.infinite true))]

def readWord? (s : List Char) : Option (Value × List Char) :=
  words.findSome? fun (word, v) => (Text.dropPrefix? word.toList s).map (v, ·)

def readScalar (s : List Char) : Except Flaw (Value × List Char) :=
  match readWord? s with
  | some found => .ok found
  | none =>
    match s with
    | '-' :: rest => readNumber true rest
    | s => readNumber false s

/-- Lists and tables nested deeper than this are not read. -/
def maxDepth : Nat := 985

mutual

/-- Reads a value; each step takes a character, so `fuel` of the text's length is enough. There is
`room` for so many lists and tables inside each other. -/
def readTree (room : Nat) : (fuel : Nat) → List Char → Except Flaw (Tree String Value × List Char)
  | 0, _ => .error .malformed
  | fuel + 1, s =>
    match s with
    | '"' :: rest => do
      let (text, rest) ← readString (rest.length + 1) [] rest
      return (.leaf (.text text), rest)
    | '[' :: rest =>
      if room = 0 then .error (.limit (.depth true))
      else match skipBlanks rest with
        | ']' :: rest => .ok (.list [], rest)
        | rest => do
          let (items, rest) ← readItems (room - 1) fuel [] rest
          return (.list items, rest)
    | '{' :: rest =>
      if room = 0 then .error (.limit (.depth false))
      else match skipBlanks rest with
        | '}' :: rest => .ok (.table [], rest)
        | rest => do
          let (entries, rest) ← readEntries (room - 1) fuel [] rest
          return (.table entries, rest)
    | s => do
      let (v, rest) ← readScalar s
      return (.leaf v, rest)

def readItems (room : Nat) : (fuel : Nat) → (read : List (Tree String Value)) → List Char →
    Except Flaw (List (Tree String Value) × List Char)
  | 0, _, _ => .error .malformed
  | fuel + 1, read, s => do
    let (t, rest) ← readTree room fuel s
    match skipBlanks rest with
    | ']' :: rest => return ((t :: read).reverse, rest)
    | ',' :: rest => readItems room fuel (t :: read) (skipBlanks rest)
    | _ => throw .malformed

def readEntries (room : Nat) : (fuel : Nat) → (read : Table String (Tree String Value)) →
    List Char → Except Flaw (Table String (Tree String Value) × List Char)
  | 0, _, _ => .error .malformed
  | fuel + 1, read, s =>
    match s with
    | '"' :: rest => do
      let (key, rest) ← readString (rest.length + 1) [] rest
      match skipBlanks rest with
      | ':' :: rest =>
        let (t, rest) ← readTree room fuel (skipBlanks rest)
        let read := Table.insert read key t
        match skipBlanks rest with
        | '}' :: rest => return (read, rest)
        | ',' :: rest => readEntries room fuel read (skipBlanks rest)
        | _ => throw .malformed
      | _ => throw .malformed
    | _ => .error .malformed

end

/-- Reads a whole text as one value. -/
def read (s : List Char) : Except Flaw (Tree String Value) := do
  let (t, rest) ← readTree maxDepth (2 * s.length + 2) (skipBlanks s)
  if (skipBlanks rest).isEmpty then return t else throw .malformed

end TemplateEngine.Json
