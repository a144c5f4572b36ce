/-!
Exact values of numbers: a ratio of integers, an infinity, or no number at all.
-/
namespace TemplateEngine

/-- The ratio `num / den`; `den` is never zero in the ratios this library builds. -/
structure Ratio where
  num : Int
  den : Nat
deriving DecidableEq, Repr

namespace Ratio

def ofInt (n : Int) : Ratio := ⟨n, 1⟩

/-- The ratio in lowest terms with a positive denominator. -/
def reduce (num den : Int) : Ratio :=
  let g := Nat.gcd num.natAbs den.natAbs
  if g = 0 then ⟨num, den.natAbs⟩
  else
    let n := num.natAbs / g
    let d := den.natAbs / g
    ⟨if (num < 0) == (den < 0) then n else -(n : Int), d⟩

/-- `a * b ^ e` for an exponent of either sign. -/
def scaled (a : Int) (b : Nat) (e : Int) : Ratio :=
  if e < 0 then ⟨a, Nat.pow b e.natAbs⟩ else ⟨a * (Nat.pow b e.natAbs : Nat), 1⟩

/-- Equality of the values, whatever the terms. -/
def same (x y : Ratio) : Bool := x.num * y.den == y.num * x.den

/-- The integer part, cut toward zero. -/
def truncate (x : Ratio) : Int := Int.tdiv x.num x.den

def isZero (x : Ratio) : Bool := x.num == 0

end Ratio

/-- The value of a real number of any type. -/
inductive Exact
  | ratio (r : Ratio)
  | infinite (negative : Bool)
  | undefined
deriving DecidableEq, Repr

/-- Equality of values; an undefined value equals nothing. -/
def Exact.same : Exact → Exact → Bool
  | .ratio x, .ratio y => x.same y
  | .infinite x, .infinite y => x == y
  | _, _ => false

/-- The quotient rounded to the nearest integer, a half going to the even neighbour. -/
def roundHalfEven (num den : Nat) : Nat :=
  let q := num / den
  let r := 2 * (num % den)
  if r < den then q
  else if den < r then q + 1
  else if q % 2 = 0 then q else q + 1

end TemplateEngine
