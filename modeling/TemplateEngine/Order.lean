import TemplateEngine.Equality
/-!
The order of values: numbers by value, texts by characters, sets by inclusion, and sequences by the
first elements that differ.
-/
namespace TemplateEngine

def Exact.less : Exact → Exact → Bool
  | .ratio x, .ratio y => x.num * y.den < y.num * x.den
  | .ratio _, .infinite s => !s
  | .infinite s, .ratio _ => s
  | .infinite s, .infinite t => s && !t
  | _, _ => false

namespace World

/-- Compares the first elements that differ; otherwise the shorter list is less. -/
def listLess (same less : Value → Value → Except Fault Bool) :
    List Value → List Value → Except Fault Bool
  | _, [] => .ok false
  | [], _ :: _ => .ok true
  | a :: as, b :: bs => do if ← same a b then listLess same less as bs else less a b

/-- The point in time that a value is, if it is one. -/
def moment? : Value → Option Moment
  | .moment m | .instant m => some m
  | _ => none

/-- The order of dates, of times, and of moments that both know their zone or both do not. -/
def earlier? (a b : Value) : Option Bool :=
  match a, b with
  | .date d, .date e => some (Calendar.dayNumber d < Calendar.dayNumber e)
  | .time s, .time t => some (Calendar.timeBefore s t)
  | a, b =>
    match moment? a, moment? b with
    | some m, some n =>
      if m.offset.isSome == n.offset.isSome then some (Calendar.before m n) else none
    | _, _ => none

/-- The elements of a value that is ordered by its elements, with the kind of the value. -/
def ordered? (w : World) (v : Value) : Option (Standard × List Value) :=
  match v, w.baseCell? v with
  | .brokenTime t, _ => some (.tuple, t.fields.map .int)
  | _, some (.tuple items) => some (.tuple, items)
  | _, some (.list items) => some (.list, items)
  | _, some (.deque items) => some (.deque, items)
  | _, some (.array _ items) => some (.array, items)
  | _, _ => none

def isDecimal (w : World) (v : Value) : Bool :=
  match w.base v with
  | .decimal _ => true
  | _ => false

/-- The order up to a depth of nesting. With a decimal number a NaN has no order at all. -/
def lessWithin (w : World) : (fuel : Nat) → Value → Value → Except Fault Bool
  | 0, _, _ => .error .nestedTooDeep
  | fuel + 1, a, b =>
    let refuse := Except.error (Fault.notOrdered (w.typeInMessages a) (w.typeInMessages b))
    match w.numeric? a, w.numeric? b with
    | some (.real x), some (.real y) =>
      if (w.isDecimal a || w.isDecimal b) && (x == .undefined || y == .undefined) then
        .error (.decimal .invalidOperation)
      else .ok (x.less y)
    | _, _ =>
    match w.text? a, w.text? b with
    | some s, some t => .ok (decide (s < t))
    | _, _ =>
    match w.comparedOctets? a b with
    | some (s, t) => .ok (decide (s.map UInt8.toNat < t.map UInt8.toNat))
    | none =>
    match w.ordered? a, w.ordered? b with
    | some (k, xs), some (l, ys) =>
      if k = l then listLess (w.agreeFrom fuel) (w.lessWithin fuel) xs ys else refuse
    | _, _ =>
    match w.setElements? a, w.setElements? b with
    | some xs, some ys =>
      if xs.length < ys.length then w.holdsAll (w.agreeFrom fuel) b ys xs else .ok false
    | _, _ =>
    match earlier? a b with
    | some answer => .ok answer
    | none => refuse

/-- The order when `bulk` bounds the nesting of the cells. -/
def lessFrom (w : World) (bulk : Nat) (a b : Value) : Except Fault Bool :=
  w.lessWithin (bulk + a.depth + b.depth) a b

def less (w : World) (a b : Value) : Except Fault Bool := w.lessFrom w.bulk a b

end World

end TemplateEngine
