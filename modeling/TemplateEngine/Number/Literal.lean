import TemplateEngine.Number.Decimal
/-!
The lenient number grammar: hexadecimal, integers (octal after a leading zero), and numbers with a
fraction or an exponent; each with at most one sign, and the last two with a type letter at the end.
-/
namespace TemplateEngine

/-- A text of the grammar, cut into its parts. -/
inductive Literal
  | hex (negative : Bool) (digits : List Char)
  | integer (negative : Bool) (digits : List Char)
  | real (negative : Bool) (number : List Char)
deriving DecidableEq, Repr

/-- A number that a text stands for. -/
inductive Numeral
  | int (n : Int)
  | float (x : Binary64)
  | decimal (d : Decimal)
deriving DecidableEq, Repr

/-- Why a text of the grammar has no number. -/
inductive NumeralError
  | tooManyDigits (count : Nat)
  | exponentOutOfRange
deriving DecidableEq, Repr

namespace Literal

/-- An optional sign: whether it is a minus, and what follows it. -/
def sign : List Char → Bool × List Char
  | '-' :: rest => (true, rest)
  | '+' :: rest => (false, rest)
  | s => (false, s)

/-- `0x`, `0X` or `#`, then hexadecimal digits. -/
def hexDigits? (s : List Char) : Option (List Char) :=
  let digits := match s with
    | '0' :: 'x' :: rest => rest
    | '0' :: 'X' :: rest => rest
    | '#' :: rest => rest
    | _ => []
  if !digits.isEmpty && digits.all Text.isHexDigit then some digits else none

/-- Digits, then an optional `l` or `L`. -/
def integerDigits? (s : List Char) : Option (List Char) :=
  let digits := s.takeWhile Text.isDigit
  let rest := s.dropWhile Text.isDigit
  if !digits.isEmpty && [[], ['l'], ['L']].contains rest then some digits else none

/-- An exponent at the front, if a whole one stands there. -/
def exponent (s : List Char) : List Char × List Char :=
  match s with
  | mark :: rest =>
    if mark = 'e' ∨ mark = 'E' then
      let (signs, digits) := match rest with
        | '-' :: r => (['-'], r)
        | '+' :: r => (['+'], r)
        | r => ([], r)
      let run := digits.takeWhile Text.isDigit
      if run.isEmpty then ([], s) else (mark :: signs ++ run, digits.dropWhile Text.isDigit)
    else ([], s)
  | [] => ([], [])

/-- Digits with an optional point among or around them, an optional exponent, then an optional `f`,
`F`, `d` or `D`. -/
def realNumber? (s : List Char) : Option (List Char) :=
  let whole := s.takeWhile Text.isDigit
  let rest := s.dropWhile Text.isDigit
  let (point, fraction, rest) := match rest with
    | '.' :: r => (['.'], r.takeWhile Text.isDigit, r.dropWhile Text.isDigit)
    | r => ([], [], r)
  if whole.isEmpty && fraction.isEmpty then none
  else
    let (power, rest) := exponent rest
    if [[], ['f'], ['F'], ['d'], ['D']].contains rest then
      some (whole ++ point ++ fraction ++ power)
    else none

def scan? (s : List Char) : Option Literal :=
  let (negative, body) := sign s
  match hexDigits? body with
  | some digits => some (.hex negative digits)
  | none =>
    match integerDigits? body with
    | some digits => some (.integer negative digits)
    | none => (realNumber? body).map (.real negative)

end Literal

/-- The longest run of decimal digits that is read as an integer. -/
def maxIntegerDigits : Nat := 4300

def signed (negative : Bool) (n : Nat) : Int := if negative then -(n : Int) else n

/-- Reads a run of decimal digits, if it is not too long. -/
def readInteger (negative : Bool) (digits : List Char) : Except NumeralError Int :=
  if maxIntegerDigits < digits.length then .error (.tooManyDigits digits.length)
  else .ok (signed negative (Text.readDecimal digits))

/-- A leading zero makes an integer octal, and then the digits 8 and 9 make it no number. A number
too great for a float stays a decimal. -/
def Literal.value : Literal → Except NumeralError (Option Numeral)
  | .hex negative digits => .ok (some (.int (signed negative (Text.readBase 16 digits))))
  | .integer negative digits =>
    if 1 < digits.length && digits.head? == some '0' then
      if digits.all Text.isOctalDigit then
        .ok (some (.int (signed negative (Text.readBase 8 digits))))
      else .ok none
    else (readInteger negative digits).map (some ∘ .int)
  | .real negative number =>
    match Decimal.ofFiniteText? negative number with
    | none => .ok none
    | some d =>
      match d.toBinary64 with
      | .infinite _ => if d.inRange then .ok (some (.decimal d)) else .error .exponentOutOfRange
      | x => .ok (some (.float x))

/-- The number a text stands for, or `none` if it is not of the grammar. -/
def createNumber (text : String) : Except NumeralError (Option Numeral) :=
  match Literal.scan? text.toList with
  | some literal => literal.value
  | none => .ok none

end TemplateEngine
