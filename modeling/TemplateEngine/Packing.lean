import TemplateEngine.Construction
/-!
Values as the elements of arrays and byte strings, which hold numbers and characters of one kind.
-/
namespace TemplateEngine

namespace Packing

/-- The type codes of integers. -/
def integerCodes : List Char := "bBhHiIlLqQ".toList

def codes : List Char := 'u' :: 'd' :: 'f' :: integerCodes

/-- The integer that a value holds as an element. -/
def integerIn (v : Value) : M Int := do
  let w ← get
  match w.integer? v with
  | some n => return n
  | none => fail (.unpackable (.notInteger (w.typeInMessages v)))

/-- The ranges that an integer is tried on, one after the other, before an array takes it. -/
def ranges (code : Char) : List (Int × Int × String) :=
  let long := (-0x8000000000000000, 0x7fffffffffffffff, "")
  if code = 'b' then
    [long, (-0x8000, 0x7fff, "signed short integer"), (-0x80, 0x7f, "signed char")]
  else if code = 'i' then [long, (-0x80000000, 0x7fffffff, "signed integer")]
  else [long]

def integer (code : Char) (v : Value) : M Int := do
  let n ← integerIn v
  match (ranges code).find? fun (low, high, _) => n < low || high < n with
  | none => return n
  | some (low, _, what) =>
    fail (.unpackable (if what.isEmpty then .tooLong
      else if n < low then .tooSmall what else .tooGreat what))

/-- A value as an element of a byte string. -/
def byte (v : Value) : M UInt8 := do
  let n ← integerIn v
  if 0 ≤ n ∧ n < 256 then return UInt8.ofNat n.toNat else fail .byteOutOfRange

/-- An element as an array of a type code holds it. A NaN in it is no object of its own. -/
def element (code : Char) (v : Value) : M Value := do
  let w ← get
  if code = 'u' then
    match w.text? v with
    | some s => if s.length = 1 then return .text s else fail (.unpackable .notCharacter)
    | none => fail (.unpackable .notCharacter)
  else if code = 'd' || code = 'f' then
    match ← Construction.nearest? v with
    | some x => return .float (if code = 'f' then x.toSingle.marked 0 else x.marked 0)
    | none => fail (.unpackable (.notReal (w.typeInMessages v)))
  else return .int (← integer code v)

end Packing

end TemplateEngine
