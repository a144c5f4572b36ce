import TemplateEngine.Sorting.Run
/-!
Merging two neighbouring runs. Elements are placed one by one; a run that wins often enough in a row
is searched for the place up to which it wins.
-/
namespace TemplateEngine.Sorting

/-- Doubles a step, from `last` and `step`, as long as `go` holds at it. -/
def stride (go : Nat → Except Fault Bool) (limit : Nat) :
    (fuel last step : Nat) → Except Fault (Nat × Nat)
  | 0, last, step => .ok (last, min step limit)
  | fuel + 1, last, step => do
    if limit ≤ step then return (last, limit)
    else if ← go step then stride go limit fuel step (2 * step + 1)
    else return (last, step)

/-- Halves the part between `low` and `high` until the end of what satisfies `p` is found. -/
def bisect (p : Nat → Except Fault Bool) : (fuel low high : Nat) → Except Fault Nat
  | 0, low, _ => .ok low
  | fuel + 1, low, high => do
    if high ≤ low then return low
    else
      let middle := low + (high - low) / 2
      if ← p middle then bisect p fuel (middle + 1) high else bisect p fuel low middle

/-- How many elements satisfy `p`, when those that do come first. The search starts at a hint. -/
def gallop (p : Value → Except Fault Bool) (run : Array Value) (hint : Nat) : Except Fault Nat := do
  let at_ (i : Nat) : Except Fault Bool := p (run[i]?.getD .null)
  let fuel := run.size + 1
  if ← at_ hint then
    let (last, step) ← stride (fun i => at_ (hint + i)) (run.size - hint) fuel 0 1
    bisect at_ fuel (hint + last + 1) (hint + step)
  else
    let (last, step) ← stride (fun i => (at_ (hint - i)).map (!·)) (hint + 1) fuel 0 1
    bisect at_ fuel (hint + 1 - step) (hint - last)

/-- Two runs on their way into one, which is filled from the front or from the back. -/
structure Merging where
  fromBack : Bool
  left : Array Value
  right : Array Value
  /-- What is in its place, the last one placed first. -/
  placed : List Value

namespace Merging

/-- The element of a run that is placed next. -/
def next (m : Merging) (run : Array Value) : Value :=
  (if m.fromBack then run.back? else run[0]?).getD .null

/-- What is left of a run without the next `n` elements. -/
def without (m : Merging) (run : Array Value) (n : Nat) : Array Value :=
  if m.fromBack then run.take (run.size - n) else run.drop n

/-- The next `n` elements of a run in front of what is placed. -/
def placing (m : Merging) (run : Array Value) (n : Nat) : List Value :=
  if m.fromBack then (run.drop (run.size - n)).toList ++ m.placed
  else (run.take n).toList.reverse ++ m.placed

def placeLeft (m : Merging) (n : Nat) : Merging :=
  { m with left := m.without m.left n, placed := m.placing m.left n }

def placeRight (m : Merging) (n : Nat) : Merging :=
  { m with right := m.without m.right n, placed := m.placing m.right n }

/-- Of the run that is shorter at the start, the last element is known to be the last to place. -/
def isDone (m : Merging) : Bool :=
  if m.fromBack then m.left.isEmpty || m.right.size ≤ 1 else m.right.isEmpty || m.left.size ≤ 1

def around (m : Merging) (rest : List Value) : List Value :=
  if m.fromBack then rest ++ m.placed else m.placed.reverse ++ rest

/-- All elements, when nothing is left to compare. -/
def result (m : Merging) : List Value :=
  let crosses := (if m.fromBack then m.right else m.left).size = 1
  m.around
    (if crosses then m.right.toList ++ m.left.toList else m.left.toList ++ m.right.toList)

/-- All elements, when a comparison failed. -/
def interrupted (m : Merging) : List Value := m.around (m.left.toList ++ m.right.toList)

/-- How many elements of the left run are placed before the next one of the right run. -/
def leftWins (less : Less) (m : Merging) : Except Fault Nat := do
  let key := m.next m.right
  let hint := if m.fromBack then m.left.size - 1 else 0
  let n ← gallop (fun x => (less key x).map (!·)) m.left hint
  return if m.fromBack then m.left.size - n else n

/-- How many elements of the right run are placed before the next one of the left run. -/
def rightWins (less : Less) (m : Merging) : Except Fault Nat := do
  let key := m.next m.left
  let hint := if m.fromBack then m.right.size - 1 else 0
  let n ← gallop (fun x => less x key) m.right hint
  return if m.fromBack then m.right.size - n else n

/-- Wins in a row from which on searching is worth while. -/
def leastGallop : Nat := 7

/-- How elements are placed: one by one, with the wins of either run counted, or by searching. -/
inductive Pace
  | single (left right : Nat)
  | galloping

/-- What a merge gives: all elements in order, and the wins that the next one needs to gallop; or
the failure of a comparison, with the elements as they stand. -/
abbrev Outcome := Except (Fault × List Value) (Array Value × Nat)

/-- Merges what is left; each step places an element, so `fuel` of their number is enough. -/
def run (less : Less) : (fuel : Nat) → Pace → (wins : Nat) → Merging → Outcome
  | 0, _, wins, m => .ok (m.result.toArray, wins)
  | fuel + 1, pace, wins, m =>
    if m.isDone then .ok (m.result.toArray, wins)
    else match pace with
      | .single l r =>
        match less (m.next m.right) (m.next m.left) with
        | .error f => .error (f, m.interrupted)
        | .ok rightIsLess =>
          if rightIsLess == m.fromBack then
            run less fuel (if wins ≤ l + 1 then .galloping else .single (l + 1) 0) wins
              (m.placeLeft 1)
          else
            run less fuel (if wins ≤ r + 1 then .galloping else .single 0 (r + 1)) wins
              (m.placeRight 1)
      | .galloping =>
        match m.leftWins less with
        | .error f => .error (f, m.interrupted)
        | .ok l =>
          let m := m.placeLeft l
          if m.isDone then .ok (m.result.toArray, wins)
          else
            let m := m.placeRight 1
            if m.isDone then .ok (m.result.toArray, wins)
            else match m.rightWins less with
              | .error f => .error (f, m.interrupted)
              | .ok r =>
                let m := m.placeRight r
                if m.isDone then .ok (m.result.toArray, wins)
                else
                  let m := m.placeLeft 1
                  if m.isDone then .ok (m.result.toArray, wins)
                  else if leastGallop ≤ l || leastGallop ≤ r then
                    run less fuel .galloping (max 1 (wins - 1)) m
                  else run less fuel (.single 0 0) (wins + 1) m

end Merging

/-- Merges two neighbouring runs. What already stands in its place at either end is left there. -/
def mergeRuns (less : Less) (wins : Nat) (left right : Array Value) : Merging.Outcome :=
  let whole := left.toList ++ right.toList
  let first := gallop (fun x => (less (right[0]?.getD .null) x).map (!·)) left 0
  match first with
  | .error f => .error (f, whole)
  | .ok k =>
    let rest := left.drop k
    if rest.isEmpty then .ok (left ++ right, wins)
    else match gallop (fun x => less x (rest.back?.getD .null)) right (right.size - 1) with
      | .error f => .error (f, whole)
      | .ok n =>
        if n = 0 then .ok (left ++ right, wins)
        else
          let fromBack := decide (n < rest.size)
          let m : Merging := ⟨fromBack, rest, right.take n, []⟩
          let m := if fromBack then m.placeLeft 1 else m.placeRight 1
          match m.run less (left.size + right.size) (.single 0 0) wins with
          | .ok (merged, wins) => .ok (left.take k ++ merged ++ right.drop n, wins)
          | .error (f, items) =>
            .error (f, (left.take k).toList ++ items ++ (right.drop n).toList)

end TemplateEngine.Sorting
