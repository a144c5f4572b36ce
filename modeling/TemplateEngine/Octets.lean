import TemplateEngine.Classify
/-!
The octets behind byte strings and arrays, by which they are compared and searched.
-/
namespace TemplateEngine

/-- The lowest octets of a number, the first one lowest. -/
def lowestFirst : (count : Nat) → Nat → List UInt8
  | 0, _ => []
  | count + 1, n => UInt8.ofNat n :: lowestFirst count (n / 256)

@[simp] theorem length_lowestFirst (count n : Nat) : (lowestFirst count n).length = count := by
  induction count generalizing n with
  | zero => rfl
  | succ count ih => simp [lowestFirst, ih]

/-- How an array of a type code stores an element. -/
def storedElement (code : Char) : Value → List UInt8
  | .int n =>
    let count := if code = 'b' then 1 else 4
    lowestFirst count (n % (Nat.pow 256 count : Nat)).toNat
  | .float x =>
    if code = 'f' then lowestFirst 4 ((x.roundedTo .single).toBits .single)
    else lowestFirst 8 (x.toBits .double)
  | .text s => s.toList.flatMap fun c => lowestFirst 4 c.toNat
  | _ => []

namespace World

/-- The octets of a byte string or of an array. -/
def octets? (w : World) (v : Value) : Option (List UInt8) :=
  match w.bytes? v, w.baseCell? v with
  | some b, _ => some b
  | none, some (.array code items) => some (items.flatMap (storedElement code))
  | none, _ => none

def isByteArray (w : World) (v : Value) : Bool :=
  match w.baseCell? v with
  | some (.bytearray _) => true
  | _ => false

/-- The octets by which two values are compared: byte strings with each other, and an array with a
byte string that can be changed. -/
def comparedOctets? (w : World) (a b : Value) : Option (List UInt8 × List UInt8) :=
  let comparable := (w.bytes? a).isSome && (w.bytes? b).isSome || w.isByteArray a || w.isByteArray b
  match w.octets? a, w.octets? b with
  | some s, some t => if comparable then some (s, t) else none
  | _, _ => none

end World

end TemplateEngine
