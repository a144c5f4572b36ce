import TemplateEngine.Text.Properties
/-!
Digits and numerals. A numeral in base `b` is read from the left by `value * b + digit`, and written
with the digits `0-9a-z`.
-/
namespace TemplateEngine.Text

/-- The value of a decimal digit of any script. -/
def digit? (c : Char) : Option Nat :=
  (digitZeros.find? fun first => first ≤ c.toNat && c.toNat < first + 10).map (c.toNat - ·)

def isDigit (c : Char) : Bool := (digit? c).isSome

/-- The value of an ASCII digit or letter, up to 35. -/
def asciiDigit? (c : Char) : Option Nat :=
  if '0' ≤ c && c ≤ '9' then some (c.toNat - '0'.toNat)
  else if 'a' ≤ c && c ≤ 'z' then some (c.toNat - 'a'.toNat + 10)
  else if 'A' ≤ c && c ≤ 'Z' then some (c.toNat - 'A'.toNat + 10)
  else none

def isHexDigit (c : Char) : Bool := (asciiDigit? c).any (· < 16)
def isOctalDigit (c : Char) : Bool := (asciiDigit? c).any (· < 8)

/-- The number with the given digits, the most significant first. -/
def ofDigits (base : Nat) (digits : List Nat) : Nat :=
  digits.foldl (fun n d => n * base + d) 0

/-- The number written by the decimal digits of a text; other characters count as zero. -/
def readDecimal (s : List Char) : Nat := ofDigits 10 (s.map fun c => (digit? c).getD 0)

/-- The number written by the ASCII digits of a text in a base. -/
def readBase (base : Nat) (s : List Char) : Nat :=
  ofDigits base (s.map fun c => (asciiDigit? c).getD 0)

def digitChar (d : Nat) : Char :=
  if d < 10 then Char.ofNat ('0'.toNat + d) else Char.ofNat ('a'.toNat + (d - 10))

/-- The digits of `n` in a base, the most significant first; zero has one digit. -/
def digitsOf (base n : Nat) : List Nat :=
  go (n + 1) n []
where
  /-- Puts the digits of `n` before `acc`; `fuel` bounds the number of digits. -/
  go : Nat → Nat → List Nat → List Nat
    | 0, _, acc => acc
    | fuel + 1, n, acc =>
      if n < base then n :: acc else go fuel (n / base) (n % base :: acc)

/-- The numeral of `n` in a base. -/
def writeBase (base n : Nat) : String := String.ofList ((digitsOf base n).map digitChar)

def writeInt (n : Int) : String :=
  if n < 0 then "-" ++ writeBase 10 n.natAbs else writeBase 10 n.natAbs

/-- Reads an integer: an optional minus, then decimal digits, or hexadecimal ones after `0x`. -/
def readInt (s : String) : Int :=
  let (negative, body) := match s.toList with
    | '-' :: rest => (true, rest)
    | rest => (false, rest)
  let n := match body with
    | '0' :: 'x' :: digits => readBase 16 digits
    | digits => readBase 10 digits
  if negative then -(n : Int) else n

/-- Writes an integer in base sixteen, with `0x` before the digits. -/
def writeHex (n : Int) : String :=
  (if n < 0 then "-0x" else "0x") ++ writeBase 16 n.natAbs

end TemplateEngine.Text
