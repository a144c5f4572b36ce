import TemplateEngine.Number.Binary
import TemplateEngine.Text.Split
import TemplateEngine.Text.Digits
import TemplateEngine.Text.Case
/-!
Decimal numbers of any precision. A number keeps its coefficient and exponent, so `1.50` and `1.5`
are equal and print differently.
-/
namespace TemplateEngine

/-- A decimal number. The digits of a NaN are its diagnostic payload; its mark tells one NaN from
another. -/
inductive Decimal
  | finite (negative : Bool) (coeff : Nat) (exp : Int)
  | infinite (negative : Bool)
  | nan (signaling negative : Bool) (payload : Nat) (mark : Nat)
deriving DecidableEq, Repr

namespace Decimal

def zero : Decimal := .finite false 0 0

def isSignaling : Decimal → Bool
  | .nan s .. => s
  | _ => false

def isNaN : Decimal → Bool
  | .nan .. => true
  | _ => false

def isFinite : Decimal → Bool
  | .finite .. => true
  | _ => false

def isZero : Decimal → Bool
  | .finite _ c _ => c == 0
  | _ => false

def isSigned : Decimal → Bool
  | .finite s _ _ => s
  | .infinite s => s
  | .nan _ s .. => s

def exact : Decimal → Exact
  | .finite s c e => .ratio (Ratio.scaled (if s then -(c : Int) else c) 10 e)
  | .infinite s => .infinite s
  | .nan .. => .undefined

/-- The integer part, cut toward zero. -/
def truncate? : Decimal → Option Int
  | .finite s c e =>
    let n := (Ratio.scaled c 10 e).truncate
    some (if s then -n else n)
  | _ => none

/-- The exponent of the first digit. -/
def adjusted (coeff : Nat) (exp : Int) : Int :=
  exp + ((Text.digitsOf 10 coeff).length : Int) - 1

/-- The greatest exponent of a first digit that a number may have. -/
def maxExponent : Int := 999999999999999999

/-- Whether the first digit does not stand too far to the left. -/
def inRange : Decimal → Bool
  | .finite _ c e => adjusted c e ≤ maxExponent
  | _ => true

/-- The nearest double. Numbers far outside its range are not computed. -/
def toBinary64 : Decimal → Binary64
  | .finite s c e =>
    let lead := adjusted c e
    if c = 0 ∨ lead < -400 then Binary64.zero s
    else if 400 < lead then .infinite s
    else
      let r := Ratio.scaled c 10 e
      Binary64.roundTo .double s r.num.natAbs r.den
  | .infinite s => .infinite s
  | .nan .. => .nan 0

def signText (negative : Bool) : String := if negative then "-" else ""

/-- Positional when the exponent is not positive and the first digit stands at `1e-6` or to the left
of it; otherwise one digit before the point and an exponent. -/
def toText : Decimal → String
  | .infinite s => signText s ++ "Infinity"
  | .nan signaling s payload _ =>
    signText s ++ (if signaling then "sNaN" else "NaN") ++
      (if payload = 0 then "" else Text.writeBase 10 payload)
  | .finite s c e =>
    let digits := (Text.writeBase 10 c).toList
    let n : Int := digits.length
    let left := e + n
    let point := if e ≤ 0 ∧ -6 < left then left else 1
    let body :=
      if point ≤ 0 then
        "0." ++ String.ofList (List.replicate point.natAbs '0') ++ String.ofList digits
      else if n ≤ point then
        String.ofList digits ++ String.ofList (List.replicate (point - n).toNat '0')
      else
        String.ofList (digits.take point.toNat) ++ "." ++ String.ofList (digits.drop point.toNat)
    let power := left - point
    let mark := if power = 0 then ""
      else if power < 0 then "E-" ++ Text.writeBase 10 power.natAbs
      else "E+" ++ Text.writeBase 10 power.natAbs
    signText s ++ body ++ mark

/-- Removes trailing zeros of the coefficient; `fuel` bounds their number. -/
def stripZeros : (fuel : Nat) → Nat → Int → Nat × Int
  | 0, c, e => (c, e)
  | fuel + 1, c, e => if c % 10 = 0 then stripZeros fuel (c / 10) (e + 1) else (c, e)

/-- The digits that the result of an operation may have, and the exponents of its first digit. -/
structure Context where
  precision : Nat
  maxExp : Int
  minExp : Int

def Context.standard : Context := ⟨28, 999999, -999999⟩

/-- The exponent of the last digit that a result may have. -/
def Context.leastExp (ctx : Context) : Int := ctx.minExp - ctx.precision + 1

/-- Why a decimal operation has no result. -/
inductive Signal
  | invalidOperation
  | overflow
deriving DecidableEq, Repr

/-- A coefficient and exponent rounded to the context. -/
def round (ctx : Context) (c : Nat) (e : Int) : Except Signal (Nat × Int) :=
  if c = 0 then .ok (0, min (max e ctx.leastExp) ctx.maxExp)
  else
    let digits : Int := (Text.digitsOf 10 c).length
    let floor := max (e + digits - ctx.precision) ctx.leastExp
    let (c, e) :=
      if floor ≤ e then (c, e)
      else if digits < floor - e then (0, floor)
      else (roundHalfEven c (Nat.pow 10 (floor - e).toNat), floor)
    let (c, e) := if c = Nat.pow 10 ctx.precision then (c / 10, e + 1) else (c, e)
    if c ≠ 0 ∧ ctx.maxExp < adjusted c e then .error .overflow else .ok (c, e)

/-- The result of an operation on a NaN: the last digits of its payload. -/
def quieted (ctx : Context) (negative : Bool) (payload mark : Nat) : Decimal :=
  .nan false negative (payload % Nat.pow 10 ctx.precision) mark

/-- The number rounded to the context and without trailing zeros. -/
def normalize (ctx : Context) : Decimal → Except Signal Decimal
  | .finite s c e => do
    let (c, e) ← round ctx c e
    if c = 0 then return .finite s 0 0
    else
      let (c, e) := stripZeros (Text.digitsOf 10 c).length c e
      return .finite s c e
  | .infinite s => .ok (.infinite s)
  | .nan true .. => .error .invalidOperation
  | .nan false s payload mark => .ok (quieted ctx s payload mark)

/-- The summand with the greater exponent written with a smaller one, and the other one beside it.
What lies far to the right of the last digit that counts is replaced by a unit there. -/
def align (ctx : Context) (a : Nat) (ea : Int) (b : Nat) (eb : Int) : Nat × Nat × Int :=
  let lengthA : Int := (Text.digitsOf 10 a).length
  let lengthB : Int := (Text.digitsOf 10 b).length
  let unit := ea + min (-1) (lengthA - ctx.precision - 2)
  let (b, eb) := if lengthB + eb - 1 < unit then (1, unit) else (b, eb)
  (a * Nat.pow 10 (ea - eb).toNat, b, eb)

/-- The number increased by one, rounded to the context. -/
def addOne (ctx : Context) : Decimal → Except Signal Decimal
  | .finite s c e => do
    let (a, b, low) :=
      if c = 0 then
        let low := max (min e 0) (-(ctx.precision : Int) - 1)
        (0, Nat.pow 10 low.natAbs, low)
      else if e < 0 then
        let (one, c, low) := align ctx 1 0 c e
        (c, one, low)
      else align ctx c e 1 0
    let sum : Int := (if s then -(a : Int) else a) + b
    let (c, e) ← round ctx sum.natAbs (if sum = 0 then min e 0 else low)
    return .finite (sum < 0) c e
  | .infinite s => .ok (.infinite s)
  | .nan true .. => .error .invalidOperation
  | .nan false s payload mark => .ok (quieted ctx s payload mark)

/-- Reads `digits [. digits] [e [sign] digits]`, whatever the exponent. -/
def ofFiniteText? (negative : Bool) (s : List Char) : Option Decimal :=
  let whole := s.takeWhile Text.isDigit
  let rest := s.dropWhile Text.isDigit
  let (fraction, rest) := match rest with
    | '.' :: rest => (rest.takeWhile Text.isDigit, rest.dropWhile Text.isDigit)
    | _ => ([], rest)
  if whole.isEmpty && fraction.isEmpty then none
  else
    let build (e : Int) : Decimal :=
      .finite negative (Text.readDecimal (whole ++ fraction)) (e - fraction.length)
    match rest with
    | [] => some (build 0)
    | mark :: rest =>
      if mark = 'e' ∨ mark = 'E' then
        let (minus, digits) := match rest with
          | '-' :: r => (true, r)
          | '+' :: r => (false, r)
          | r => (false, r)
        if digits.isEmpty || !digits.all Text.isDigit then none
        else
          let n : Int := Text.readDecimal digits
          some (build (if minus then -n else n))
      else none

/-- Reads a number, an infinity or a NaN in any letter case. -/
def ofText? (s : String) : Option Decimal :=
  let (negative, body) := match s.toList with
    | '-' :: r => (true, r)
    | '+' :: r => (false, r)
    | r => (false, r)
  let word := (Text.lower (String.ofList body)).toList
  let nan (signaling : Bool) (digits : List Char) : Option Decimal :=
    if digits.all Text.isDigit then some (.nan signaling negative (Text.readDecimal digits) 0)
    else none
  if word = "inf".toList ∨ word = "infinity".toList then some (.infinite negative)
  else
    match Text.dropPrefix? "snan".toList word with
    | some digits => nan true digits
    | none =>
      match Text.dropPrefix? "nan".toList word with
      | some digits => nan false digits
      | none => (ofFiniteText? negative body).filter inRange

end Decimal

/-- Reads a decimal text, an infinity or a NaN as the nearest double. -/
def Binary64.ofText? (s : String) : Option Binary64 := (Decimal.ofText? s).map Decimal.toBinary64

end TemplateEngine
