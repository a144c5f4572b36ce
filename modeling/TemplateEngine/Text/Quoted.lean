import TemplateEngine.Text.Digits
/-!
Quoted texts and byte strings. A text is put into single quotes, or into double quotes when it holds
a single quote and no double one; what cannot be shown is escaped.
-/
namespace TemplateEngine.Text

def isPrintable : Char → Bool := inRanges printableRanges

def hexEscape (mark : String) (width n : Nat) : String :=
  let digits := writeBase 16 n
  "\\" ++ mark ++ String.ofList (List.replicate (width - digits.toList.length) '0') ++ digits

/-- The quote that needs no escaping if there is one. -/
def chooseQuote (s : List Char) : Char :=
  if s.contains '\'' && !s.contains '"' then '"' else '\''

def quoteChar (quote c : Char) : String :=
  if c = quote || c = '\\' then String.ofList ['\\', c]
  else if c = '\n' then "\\n"
  else if c = '\r' then "\\r"
  else if c = '\t' then "\\t"
  else if isPrintable c then String.ofList [c]
  else if c.toNat < 0x100 then hexEscape "x" 2 c.toNat
  else if c.toNat < 0x10000 then hexEscape "u" 4 c.toNat
  else hexEscape "U" 8 c.toNat

def quoted (s : String) : String :=
  let quote := chooseQuote s.toList
  let q := String.ofList [quote]
  q ++ (s.toList.map (quoteChar quote)).foldl (· ++ ·) "" ++ q

/-- Bytes as a quoted text; all but the visible ASCII characters are escaped. In bytes that can
change a single quote is escaped even within double quotes. -/
def quotedBytes (mutable : Bool) (bytes : List UInt8) : String :=
  let chars := bytes.map fun b => Char.ofNat b.toNat
  let quote := chooseQuote chars
  let q := String.ofList [quote]
  let body := chars.map fun c =>
    if c = '\'' && mutable then "\\'"
    else if c.toNat < 0x7f then quoteChar quote c
    else hexEscape "x" 2 c.toNat
  "b" ++ q ++ body.foldl (· ++ ·) "" ++ q

end TemplateEngine.Text
