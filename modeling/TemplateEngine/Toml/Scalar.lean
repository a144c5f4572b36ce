import TemplateEngine.Value
import TemplateEngine.Toml.Text
/-!
Single values in TOML: texts, truth values, dates and times, and numbers.
-/
namespace TemplateEngine.Toml

def isAsciiDigit (c : Char) : Bool := '0' ≤ c && c ≤ '9'

/-- So many digits, read as a number that lies within bounds. -/
def fixedNumber? (width low high : Nat) (s : List Char) : Option (Int × List Char) :=
  let digits := s.take width
  let n := Text.readBase 10 digits
  if digits.length = width && digits.all isAsciiDigit && low ≤ n && n ≤ high then
    some (n, s.drop width)
  else none

def expect? (c : Char) : List Char → Option (List Char)
  | d :: rest => if c = d then some rest else none
  | [] => none

/-- A point and digits, in millionths; digits after the sixth are dropped. -/
def millionths (s : List Char) : Int × List Char :=
  match s with
  | '.' :: rest =>
    let digits := rest.takeWhile isAsciiDigit
    if digits.isEmpty then (0, s)
    else
      let six := (digits ++ List.replicate 6 '0').take 6
      (Text.readBase 10 six, rest.dropWhile isAsciiDigit)
  | s => (0, s)

def time? (s : List Char) : Option (TimeOfDay × List Char) := do
  let (hour, s) ← fixedNumber? 2 0 23 s
  let (minute, s) ← fixedNumber? 2 0 59 (← expect? ':' s)
  let (second, s) ← fixedNumber? 2 0 59 (← expect? ':' s)
  let (micro, s) := millionths s
  return (⟨hour, minute, second, micro⟩, s)

def date? (s : List Char) : Option (Date × List Char) := do
  let (year, s) ← fixedNumber? 4 0 9999 s
  let (month, s) ← fixedNumber? 2 1 12 (← expect? '-' s)
  let (day, s) ← fixedNumber? 2 1 31 (← expect? '-' s)
  return (⟨year, month, day⟩, s)

/-- The seconds by which a clock is ahead, if that is told. -/
def offset? (s : List Char) : Option (Int × List Char) :=
  match s with
  | 'Z' :: rest | 'z' :: rest => some (0, rest)
  | sign :: rest => do
    if sign ≠ '+' && sign ≠ '-' then none
    else
      let (hours, rest) ← fixedNumber? 2 0 23 rest
      let (minutes, rest) ← fixedNumber? 2 0 59 (← expect? ':' rest)
      let seconds := (hours * 60 + minutes) * 60
      return (if sign = '-' then -seconds else seconds, rest)
  | [] => none

/-- Whether a date is in the calendar: it is the date of its own day number. -/
def isValidDate (d : Date) : Bool :=
  1 ≤ d.year && Calendar.ofDayNumber (Calendar.dayNumber d) == d

/-- A date, with a time of day and an offset if they follow it. -/
def dateOrMoment? (s : List Char) : Option (Except Unit Value × List Char) := do
  let (date, rest) ← date? s
  let checked (v : Value) : Except Unit Value := if isValidDate date then .ok v else .error ()
  let timed := match rest with
    | mark :: rest => if mark = 'T' || mark = 't' || mark = ' ' then time? rest else none
    | [] => none
  match timed with
  | none => return (checked (.date date), rest)
  | some (time, rest) =>
    match offset? rest with
    | some (offset, rest) => return (checked (.moment ⟨date, time, some offset⟩), rest)
    | none => return (checked (.moment ⟨date, time, none⟩), rest)

/-- Digits with single underscores between them, at the front; and the rest. -/
def digitRun (isDigit : Char → Bool) : List Char → List Char × List Char
  | c :: '_' :: d :: rest =>
    if isDigit c then
      if isDigit d then
        let (run, rest) := digitRun isDigit (d :: rest)
        (c :: run, rest)
      else ([c], '_' :: d :: rest)
    else ([], c :: '_' :: d :: rest)
  | c :: rest =>
    if isDigit c then
      let (run, rest) := digitRun isDigit rest
      (c :: run, rest)
    else ([], c :: rest)
  | [] => ([], [])

/-- An integer in another base: a zero, the letter of the base, and digits. -/
def basedInteger? (s : List Char) : Option (Int × List Char) :=
  match s with
  | '0' :: letter :: rest => do
    let base ← [('x', 16), ('b', 2), ('o', 8)].lookup letter
    let (digits, rest) := digitRun (fun c => (Text.asciiDigit? c).any (· < base)) rest
    if digits.isEmpty then none else return (Text.readBase base digits, rest)
  | _ => none

/-- A mark, an optional sign and digits, if all are there. -/
def power (s : List Char) : List Char × List Char :=
  match s with
  | mark :: rest =>
    if mark = 'e' || mark = 'E' then
      let (sign, rest) := match rest with
        | '-' :: rest => (['-'], rest)
        | '+' :: rest => (['+'], rest)
        | rest => ([], rest)
      let (digits, rest) := digitRun isAsciiDigit rest
      if digits.isEmpty then ([], s) else (mark :: sign ++ digits, rest)
    else ([], s)
  | [] => ([], [])

/-- A point and digits, if both are there. -/
def fraction (s : List Char) : List Char × List Char :=
  match s with
  | '.' :: rest =>
    let (digits, rest) := digitRun isAsciiDigit rest
    if digits.isEmpty then ([], s) else ('.' :: digits, rest)
  | _ => ([], s)

/-- The digits before the point: a single zero, or digits that begin with another one. -/
def wholeDigits (s : List Char) : List Char × List Char :=
  match s with
  | '0' :: rest => (['0'], rest)
  | s => digitRun isAsciiDigit s

def decimalNumber? (s : List Char) : Option (Except Flaw Value × List Char) :=
  let (negative, body) := Literal.sign s
  let (whole, rest) := wholeDigits body
  if whole.isEmpty then none
  else
    let (point, rest) := fraction rest
    let (exp, rest) := power rest
    if point.isEmpty && exp.isEmpty then
      match readInteger negative whole with
      | .ok n => some (.ok (.int n), rest)
      | .error e => some (.error (.number e), rest)
    else (Decimal.ofFiniteText? negative (whole ++ point ++ exp)).map fun d =>
      (.ok (.float d.toBinary64), rest)

/-- The words that are values. -/
def words : List (String × Value) :=
  [("true", .bool true), ("false", .bool false)]

/-- The words that are numbers. -/
def numberWords : List (String × Value) :=
  [("inf", .float (.infinite false)), ("nan", .float (.nan 0)),
   ("-inf", .float (.infinite true)), ("+inf", .float (.infinite false)),
   ("-nan", .float (.nan 0)), ("+nan", .float (.nan 0))]

def word? (table : List (String × Value)) (s : List Char) : Option (Value × List Char) :=
  table.findSome? fun (word, v) => (Text.dropPrefix? word.toList s).map (v, ·)

/-- Reads a value that is no array and no table. -/
def readScalar (s : List Char) : Except Flaw (Reading Value) := do
  match s with
  | '"' :: _ | '\'' :: _ => do
    let (text, rest) ← readText s
    return (.text text, rest)
  | s =>
    match word? words s with
    | some found => return found
    | none =>
      match dateOrMoment? s with
      | some (.ok v, rest) => return (v, rest)
      | some (.error (), _) => flawed "Invalid date or datetime" s
      | none =>
        match time? s with
        | some (t, rest) => return (.time t, rest)
        | none =>
          match basedInteger? s with
          | some (n, rest) => return (.int n, rest)
          | none =>
            match decimalNumber? s with
            | some (.ok v, rest) => return (v, rest)
            | some (.error f, _) => throw f
            | none =>
              match word? numberWords s with
              | some found => return found
              | none => flawed "Invalid value" s

end TemplateEngine.Toml
