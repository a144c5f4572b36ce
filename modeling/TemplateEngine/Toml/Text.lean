import TemplateEngine.Toml.Flaw
/-!
Texts in TOML: basic ones in double quotes with escapes, literal ones in single quotes, both on one
line or over several lines.
-/
namespace TemplateEngine.Toml

def simpleEscapes : List (Char × Char) :=
  [('b', Char.ofNat 8), ('t', '\t'), ('n', '\n'), ('f', Char.ofNat 12), ('r', '\r'), ('"', '"'),
   ('\\', '\\')]

def unescaped : String := "Unescaped '\\' in a string"

/-- The character with a number of so many hexadecimal digits. -/
def hexCharacter (width : Nat) (s : List Char) : Except Flaw (Reading (List Char)) :=
  let digits := s.take width
  if digits.length ≠ width || !digits.all Text.isHexDigit then flawed "Invalid hex value" s
  else
    let n := Text.readBase 16 digits
    let rest := s.drop width
    if n.isValidChar then .ok ([Char.ofNat n], rest)
    else flawed "Escaped character is not a Unicode scalar value" rest

/-- What an escape stands for; `s` is what follows the backslash. At a line end over several lines,
all blanks up to the next text are dropped. -/
def escape (inLines : Bool) (s : List Char) : Except Flaw (Reading (List Char)) :=
  match s with
  | [] => flawed unescaped []
  | mark :: rest =>
    if inLines && mark = '\n' then .ok ([], rest.dropWhile isBlankOrNewline)
    else if inLines && isBlank mark then
      match rest.dropWhile isBlank with
      | [] => .ok ([], [])
      | '\n' :: rest => .ok ([], rest.dropWhile isBlankOrNewline)
      | rest => flawed unescaped rest
    else if mark = 'u' then hexCharacter 4 rest
    else if mark = 'U' then hexCharacter 8 rest
    else match simpleEscapes.lookup mark with
      | some c => .ok ([c], rest)
      | none => flawed unescaped rest

/-- The rest of a basic text; `read` holds what was read, the last character first. Each step takes
a character, so `fuel` of the text's length is enough. -/
def basicText (inLines : Bool) :
    (fuel : Nat) → (read : List Char) → List Char → Except Flaw (Reading (List Char))
  | 0, _, s => flawed "Unterminated string" s
  | fuel + 1, read, s =>
    match s with
    | [] => flawed "Unterminated string" []
    | '\\' :: rest => do
      let (part, rest) ← escape inLines rest
      basicText inLines fuel (part.reverse ++ read) rest
    | c :: rest =>
      if c = '"' && !inLines then .ok (read.reverse, rest)
      else if c = '"' && ['"', '"'].isPrefixOf rest then .ok (read.reverse, rest.drop 2)
      else if (if inLines then isControlInLines c else isControl c) then
        flawed ("Illegal character " ++ Text.quoted (String.ofList [c])) (c :: rest)
      else basicText inLines fuel (c :: read) rest

/-- A text up to a closing mark, taken as it stands. -/
def literalText (close : List Char) (illegal : Char → Bool) (s : List Char) :
    Except Flaw (Reading (List Char)) :=
  match splitBefore? close s with
  | none => flawed ("Expected " ++ Text.quoted (String.ofList close)) []
  | some (body, rest) => do
    refuse illegal body s
    return (body, rest.drop close.length)

/-- Up to two quotes may stand before the three that close a text over several lines. -/
def trailingQuotes (quote : Char) (body rest : List Char) : List Char × List Char :=
  match rest with
  | a :: rest =>
    if a = quote then
      match rest with
      | b :: rest =>
        if b = quote then (body ++ [quote, quote], rest) else (body ++ [quote], b :: rest)
      | [] => (body ++ [quote], [])
    else (body, a :: rest)
  | [] => (body, [])

/-- Drops a line end right after the opening quotes. -/
def dropNewline : List Char → List Char
  | '\n' :: rest => rest
  | s => s

/-- Reads a text that begins with a quote. -/
def readText (s : List Char) : Except Flaw (Reading String) := do
  let (body, rest) ← match s with
    | '"' :: '"' :: '"' :: rest => do
      let rest := dropNewline rest
      let (body, rest) ← basicText true (rest.length + 1) [] rest
      pure (trailingQuotes '"' body rest)
    | '\'' :: '\'' :: '\'' :: rest => do
      let rest := dropNewline rest
      let (body, rest) ← literalText ['\'', '\'', '\''] isControlInLines rest
      pure (trailingQuotes '\'' body rest)
    | '\'' :: rest => literalText ['\''] isControl rest
    | s => basicText false (s.length + 1) [] (s.drop 1)
  return (String.ofList body, rest)

/-- Reads a text on one line, as keys are. -/
def readLineText (s : List Char) : Except Flaw (Reading String) := do
  let (body, rest) ← match s with
    | '\'' :: rest => literalText ['\''] isControl rest
    | s => basicText false (s.length + 1) [] (s.drop 1)
  return (String.ofList body, rest)

end TemplateEngine.Toml
