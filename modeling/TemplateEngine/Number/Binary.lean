import TemplateEngine.Number.Ratio
/-!
Binary floating-point numbers, kept exactly as `± mant * 2 ^ exp`. Rounding goes to the nearest
number of the format, a half to the even neighbour.
-/
namespace TemplateEngine

/-- A format: bits of the significand, and the least and greatest exponent of its last bit. -/
structure BinaryFormat where
  bits : Nat
  minExp : Int
  maxExp : Int
deriving DecidableEq, Repr

def BinaryFormat.double : BinaryFormat := ⟨53, -1074, 971⟩
def BinaryFormat.single : BinaryFormat := ⟨24, -149, 104⟩

/-- A double-precision number. The mark of a NaN tells one NaN from another. -/
inductive Binary64
  | nan (mark : Nat)
  | infinite (negative : Bool)
  | finite (negative : Bool) (mant : Nat) (exp : Int)
deriving DecidableEq, Repr

namespace Binary64

def zero (negative : Bool) : Binary64 := .finite negative 0 (-1074)

/-- The exponent of the last bit of the number next to `num / den > 0`. -/
def lastExp (f : BinaryFormat) (num den : Nat) : Int :=
  let e : Int := (Nat.log2 num : Int) - Nat.log2 den - (f.bits - 1 : Nat)
  let full := if e < 0 then num * Nat.pow 2 e.natAbs / den else num / (den * Nat.pow 2 e.natAbs)
  max f.minExp (if full < Nat.pow 2 (f.bits - 1) then e - 1 else e)

/-- `num / den` rounded to a format. -/
def roundTo (f : BinaryFormat) (negative : Bool) (num den : Nat) : Binary64 :=
  if num = 0 then zero negative
  else
    let e := lastExp f num den
    let m := if e < 0 then roundHalfEven (num * Nat.pow 2 e.natAbs) den
      else roundHalfEven num (den * Nat.pow 2 e.natAbs)
    let (m, e) := if m = Nat.pow 2 f.bits then (m / 2, e + 1) else (m, e)
    if m = 0 then zero negative
    else if f.maxExp < e then .infinite negative
    else .finite negative m e

def ofRatio (r : Ratio) : Binary64 := roundTo .double (r.num < 0) r.num.natAbs r.den

def exact : Binary64 → Exact
  | .nan _ => .undefined
  | .infinite s => .infinite s
  | .finite s m e => .ratio (Ratio.scaled (if s then -(m : Int) else m) 2 e)

/-- The number rounded to a format; of a NaN and an infinity there is nothing to round. -/
def roundedTo (f : BinaryFormat) : Binary64 → Binary64
  | .finite s m e =>
    let r := Ratio.scaled m 2 e
    roundTo f s r.num.natAbs r.den
  | x => x

/-- The number in the narrower format, read back as a double. -/
def toSingle (x : Binary64) : Binary64 := (x.roundedTo .single).roundedTo .double

/-- A number that was rounded to a format, as the bits of the format: the sign, the place of the
last bit and the fraction. -/
def toBits (f : BinaryFormat) : Binary64 → Nat
  | .nan _ => packed false (top f) (Nat.pow 2 (f.bits - 2))
  | .infinite s => packed s (top f) 0
  | .finite s m e =>
    if m < unit f then packed s 0 m else packed s (e - f.minExp + 1).toNat (m - unit f)
where
  unit (f : BinaryFormat) : Nat := Nat.pow 2 (f.bits - 1)
  top (f : BinaryFormat) : Nat := (f.maxExp - f.minExp + 2).toNat
  packed (negative : Bool) (place fraction : Nat) : Nat :=
    (if negative then (top f + 1) * unit f else 0) + place * unit f + fraction

def isZero : Binary64 → Bool
  | .finite _ m _ => m == 0
  | _ => false

def isFinite : Binary64 → Bool
  | .finite .. => true
  | _ => false

def negate : Binary64 → Binary64
  | .nan p => .nan p
  | .infinite s => .infinite !s
  | .finite s m e => .finite (!s) m e

/-- Whether the number has no fraction; infinities and NaNs have no such form. -/
def isIntegral : Binary64 → Bool
  | .finite _ m e =>
    let r := Ratio.scaled m 2 e
    r.num.natAbs % r.den == 0
  | _ => false

end Binary64

end TemplateEngine
