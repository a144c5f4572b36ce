import TemplateEngine.Subscript
/-!
Read-only views of sequences: search, counting and copies, all answered by the sequence behind the
view at the time of asking.
-/
namespace TemplateEngine

namespace SequenceView

/-- The first position from `i` on whose element is the value or equal to it; the search ends where
an index is out of range. -/
def positionFrom (v x : Value) : (fuel i : Nat) → M Nat
  | 0, _ => fail (.notFound .view "")
  | fuel + 1, i => do
    match ← attempt (itemOf v (.int i)) with
    | .error (.indexOutOfRange _) => fail (.notFound .view "")
    | .error f => fail f
    | .ok y =>
      if ← liftResult ((← get).agree y x) then return i else positionFrom v x fuel (i + 1)

/-- The first position of an element. -/
def index (v x : Value) : M Nat := do
  positionFrom v x (((← get).size? v).getD 0 + 1) 0

/-- How many elements are the value or equal to it. -/
def count (v x : Value) : M Nat := do
  let hits ← forEach v fun y => do liftResult ((← get).agree y x)
  return (hits.filter id).length

def reversed (v : Value) : M Value := do
  let n ← lengthOf v
  newList (← (List.range n).reverse.mapM fun (i : Nat) => itemOf v (.int i))

def toList (v : Value) : M Value := do newList (← iterate v)

end SequenceView

end TemplateEngine
