import TemplateEngine.Number.Binary
import TemplateEngine.Text.Split
import TemplateEngine.Text.Digits
/-!
The shortest decimal text of a floating-point number: the fewest digits that read back, of those the
nearest to the number.
-/
namespace TemplateEngine

/-- The number `digits * 10 ^ scale`. -/
structure Decimation where
  digits : Nat
  scale : Int
deriving DecidableEq, Repr

namespace Shortest

/-- The values that round to `mant * 2 ^ exp`, in quarters of its last bit, with whether the ends
belong. -/
structure Interval where
  low : Nat
  mid : Nat
  high : Nat
  closed : Bool
  exp : Int

def interval (mant : Nat) (exp : Int) : Interval where
  low := if mant = Nat.pow 2 52 ∧ -1074 < exp then 4 * mant - 1 else 4 * mant - 2
  mid := 4 * mant
  high := 4 * mant + 2
  closed := mant % 2 = 0
  exp := exp - 2

/-- `n * 2 ^ e` against `d * 10 ^ s`, both over one denominator. -/
def compareScaled (n : Nat) (e : Int) (d : Nat) (s : Int) : Ordering :=
  let left := n * Nat.pow 2 e.toNat * Nat.pow 10 (-s).toNat
  let right := d * Nat.pow 10 s.toNat * Nat.pow 2 (-e).toNat
  compare left right

/-- Whether `d * 10 ^ s` rounds to the number. -/
def Interval.holds (i : Interval) (d : Nat) (s : Int) : Bool :=
  let low := compareScaled i.low i.exp d s
  let high := compareScaled i.high i.exp d s
  (low == .lt || (i.closed && low == .eq)) && (high == .gt || (i.closed && high == .eq))

/-- The greatest `d` with `d * 10 ^ s` not above the number. -/
def Interval.floor (i : Interval) (s : Int) : Nat :=
  let up := Nat.pow 2 i.exp.toNat * Nat.pow 10 (-s).toNat
  let down := Nat.pow 10 s.toNat * Nat.pow 2 (-i.exp).toNat
  i.mid * up / down

/-- Of the two neighbours on the grid `10 ^ s`, the one that reads back and is nearer. -/
def Interval.onGrid? (i : Interval) (s : Int) : Option Nat :=
  let d := i.floor s
  match i.holds d s, i.holds (d + 1) s with
  | true, true =>
    match compareScaled (2 * i.mid) i.exp (2 * d + 1) s with
    | .lt => some d
    | .gt => some (d + 1)
    | .eq => some (if d % 2 = 0 then d else d + 1)
  | true, false => some d
  | false, true => some (d + 1)
  | false, false => none

/-- The exponent of the first decimal digit of `mid * 2 ^ exp > 0`. -/
def Interval.leading (i : Interval) : Int :=
  let guess := ((Nat.log2 i.mid : Int) + i.exp) * 30103 / 100000
  if compareScaled i.mid i.exp 1 (guess + 1) != .lt then guess + 1
  else if compareScaled i.mid i.exp 1 guess == .lt then guess - 1
  else guess

/-- Tries the grids from the coarsest on; the last one tried always has a point in the interval. -/
def Interval.search (i : Interval) (scale : Int) : Nat → Decimation
  | 0 => ⟨i.floor scale, scale⟩
  | n + 1 =>
    match i.onGrid? scale with
    | some d => ⟨d, scale⟩
    | none => i.search (scale - 1) n

end Shortest

/-- The shortest decimal that reads back as `mant * 2 ^ exp > 0`. -/
def shortest (mant : Nat) (exp : Int) : Decimation :=
  let i := Shortest.interval mant exp
  i.search i.leading 17

/-- How a number is laid out: where positional writing ends, and whether integers keep a
fraction. -/
structure Layout where
  minPositional : Int
  maxPositional : Int
  keepPoint : Bool
  exponentWidth : Nat
deriving DecidableEq, Repr

/-- Numbers from `1e-4` up to below `1e16` are written positionally, with a fraction of at least one
digit; the others with an exponent of at least two digits. -/
def Layout.plain : Layout := ⟨-4, 16, true, 2⟩

/-- The parts of a complex number drop the fraction of an integer. -/
def Layout.part : Layout := { Layout.plain with keepPoint := false }

/-- Digits without trailing zeros, with the exponent of the first one. -/
def Decimation.normalDigits (d : Decimation) : List Nat × Int :=
  let digits := Text.digitsOf 10 d.digits
  let kept := (digits.reverse.dropWhile (· == 0)).reverse
  (kept, d.scale + (digits.length : Int) - 1)

def digitText (digits : List Nat) : String := String.ofList (digits.map Text.digitChar)

/-- The text of the digits `d₀.d₁d₂… * 10 ^ lead`. -/
def Layout.write (l : Layout) (digits : List Nat) (lead : Int) : String :=
  let n := digits.length
  if l.minPositional ≤ lead ∧ lead < l.maxPositional then
    if lead < 0 then
      "0." ++ String.ofList (List.replicate (lead.natAbs - 1) '0') ++ digitText digits
    else
      let whole := lead.toNat + 1
      if n ≤ whole then
        digitText digits ++ String.ofList (List.replicate (whole - n) '0') ++
          (if l.keepPoint then ".0" else "")
      else digitText (digits.take whole) ++ "." ++ digitText (digits.drop whole)
  else
    let mantissa := if n ≤ 1 then digitText digits
      else digitText (digits.take 1) ++ "." ++ digitText (digits.drop 1)
    mantissa ++ "e" ++ (if lead < 0 then "-" else "+") ++
      Text.padLeft '0' l.exponentWidth (Text.writeBase 10 lead.natAbs)

namespace Binary64

def write (l : Layout) : Binary64 → String
  | .nan _ => "nan"
  | .infinite s => if s then "-inf" else "inf"
  | .finite s m e =>
    let body :=
      if m = 0 then l.write [0] 0
      else
        let (digits, lead) := (shortest m e).normalDigits
        l.write digits lead
    if s then "-" ++ body else body

def toText (x : Binary64) : String := x.write .plain

/-- The text in base sixteen: one digit before the point, thirteen after it, and a power of two. -/
def toHexText : Binary64 → String
  | .finite s m e =>
    let sign := if s then "-" else ""
    if m = 0 then sign ++ "0x0.0p+0"
    else
      let whole := m / Nat.pow 2 52
      let fraction := Text.padLeft '0' 13 (Text.writeBase 16 (m % Nat.pow 2 52))
      let power := e + 52
      sign ++ "0x" ++ Text.writeBase 10 whole ++ "." ++ fraction ++ "p" ++
        (if power < 0 then "-" else "+") ++ Text.writeBase 10 power.natAbs
  | x => x.toText

end Binary64

/-- The text of a complex number: the imaginary part alone when the real part is a positive zero. -/
def complexText (re im : Binary64) : String :=
  match re with
  | .finite false 0 _ => im.write .part ++ "j"
  | _ =>
    let imText := im.write .part
    let signed := if Text.hasPrefix "-" imText then imText else "+" ++ imText
    "(" ++ re.write .part ++ signed ++ "j)"

end TemplateEngine
