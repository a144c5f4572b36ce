import TemplateEngine.Order
/-!
Runs: the sorted part at the front of a list, and its extension by inserting what follows.
-/
namespace TemplateEngine.Sorting

/-- An order that may fail. -/
abbrev Less := Value → Value → Except Fault Bool

/-- A list that is being sorted, and whether it could be. -/
structure Sorted where
  items : List Value
  failure : Option Fault

/-- The place of `x` in the sorted part between `low` and `high`, after its equals. -/
def insertionPoint (less : Less) (sorted : Array Value) (x : Value) :
    (fuel low high : Nat) → Except Fault Nat
  | 0, low, _ => .ok low
  | fuel + 1, low, high =>
    if low < high then do
      let middle := low + (high - low) / 2
      if ← less x (sorted[middle]?.getD .null) then insertionPoint less sorted x fuel low middle
      else insertionPoint less sorted x fuel (middle + 1) high
    else .ok low

/-- Inserts the rest into the sorted part. -/
def insertRest (less : Less) (sorted : Array Value) : List Value → Sorted
  | [] => ⟨sorted.toList, none⟩
  | x :: rest =>
    match insertionPoint less sorted x (sorted.size + 1) 0 sorted.size with
    | .error f => ⟨sorted.toList ++ x :: rest, some f⟩
    | .ok i => insertRest less (sorted.take i ++ #[x] ++ sorted.drop i) rest

/-- The length of the leading part in which each element stands to the one before as `continues`
says. -/
def leadingRun (continues : Less) (previous : Value) : List Value → Except Fault Nat
  | [] => .ok 0
  | x :: rest => do
    if ← continues previous x then return (← leadingRun continues x rest) + 1 else return 0

/-- The length of the run at the front, and whether it falls. -/
def frontRun (less : Less) : List Value → Except Fault (Nat × Bool)
  | a :: b :: rest => do
    let falls ← less b a
    let n ← leadingRun (fun x y => (less y x).map (· == falls)) b rest
    return (n + 2, falls)
  | items => .ok (items.length, false)

/-- Sorts at least the first `least` elements: the run at the front, turned if it falls, takes in
what follows. -/
def firstRun (less : Less) (least : Nat) (items : List Value) : Except Fault (Sorted × Nat) := do
  let (n, falls) ← frontRun less items
  let length := max n (min least items.length)
  let run := items.take n
  let run := (if falls then run.reverse else run).toArray
  return (insertRest less run ((items.take length).drop n), length)

end TemplateEngine.Sorting
