import TemplateEngine.Number.Literal
/-!
Loose spellings of numbers: blanks around them, and single underscores between digits.
-/
namespace TemplateEngine.Loose

/-- Digits with single underscores between them, at the front; and the rest. -/
def digitRun : List Char → List Char × List Char
  | c :: '_' :: d :: rest =>
    if Text.isDigit c then
      if Text.isDigit d then
        let (run, rest) := digitRun (d :: rest)
        (c :: run, rest)
      else ([c], '_' :: d :: rest)
    else ([], c :: '_' :: d :: rest)
  | c :: rest =>
    if Text.isDigit c then
      let (run, rest) := digitRun rest
      (c :: run, rest)
    else ([], c :: rest)
  | [] => ([], [])

/-- The text without the blanks around it. The separators between 28 and 31 do not count as
blanks. -/
def trim (s : List Char) : List Char :=
  Text.trimBy (fun c => Text.isBlank c && !(28 ≤ c.toNat && c.toNat ≤ 31)) s

/-- The sign and the digits of an integer. -/
def integer? (s : List Char) : Option (Bool × List Char) :=
  let (negative, body) := Literal.sign (trim s)
  match digitRun body with
  | ([], _) => none
  | (digits, []) => some (negative, digits)
  | _ => none

/-- An exponent at the end of a number. -/
def exponent? : List Char → Option (List Char)
  | [] => some []
  | mark :: rest =>
    if mark = 'e' || mark = 'E' then
      let (sign, rest) := match rest with
        | '-' :: rest => (['-'], rest)
        | '+' :: rest => (['+'], rest)
        | rest => ([], rest)
      match digitRun rest with
      | ([], _) => none
      | (digits, []) => some (mark :: sign ++ digits)
      | _ => none
    else none

/-- The nearest double to a number without its sign. -/
def magnitude? (negative : Bool) (s : List Char) : Option Binary64 :=
  let word := (Text.lower (String.ofList s)).toList
  if word = "inf".toList ∨ word = "infinity".toList then some (.infinite negative)
  else if word = "nan".toList then some (.nan 0)
  else
    let (whole, rest) := digitRun s
    let (fraction, rest) := match rest with
      | '.' :: rest => digitRun rest
      | rest => ([], rest)
    if whole.isEmpty && fraction.isEmpty then none
    else do
      let power ← exponent? rest
      let d ← Decimal.ofFiniteText? negative (whole ++ '.' :: fraction ++ power)
      return d.toBinary64

/-- The nearest double to a number. -/
def real? (s : List Char) : Option Binary64 :=
  let (negative, body) := Literal.sign (trim s)
  magnitude? negative body

end TemplateEngine.Loose
