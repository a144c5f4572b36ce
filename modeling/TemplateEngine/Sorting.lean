import TemplateEngine.Sorting.Merge
/-!
Sorting of lists. Runs are found from left to right and wait to be merged; the finer the boundary
between two runs lies in the whole list, the earlier they are merged. When two elements have no
order, the list keeps the arrangement reached so far.
-/
namespace TemplateEngine.Sorting

/-- A run that waits, with the power of the boundary to the run after it. -/
structure Run where
  items : Array Value
  power : Nat

/-- All elements of waiting runs, the last run given first. -/
def itemsOf (runs : List Run) : List Value := (runs.reverse.map (·.items.toList)).flatten

/-- The least length of a run: the leading six bits of the length, rounded up. -/
def leastRun : (fuel : Nat) → (length : Nat) → (odd : Nat) → Nat
  | 0, n, odd => n + odd
  | fuel + 1, n, odd => if n < 64 then n + odd else leastRun fuel (n / 2) (max odd (n % 2))

/-- The first binary place in which `a / n` and `b / n` differ. -/
def firstDifference (n : Nat) : (fuel : Nat) → (a b : Nat) → Nat
  | 0, _, _ => 0
  | fuel + 1, a, b =>
    if n ≤ a then firstDifference n fuel (2 * (a - n)) (2 * (b - n)) + 1
    else if n ≤ b then 1
    else firstDifference n fuel (2 * a) (2 * b) + 1

/-- The power of the boundary between two runs: the first binary place in which the positions of
their middles differ. -/
def boundaryPower (total start left right : Nat) : Nat :=
  let a := 2 * start + left
  firstDifference total (total + 1) a (a + left + right)

/-- Waiting runs, and the wins that a merge needs to gallop. -/
abbrev Waiting := Except (Fault × List Value) (List Run × Nat)

/-- Merges two neighbouring runs, between runs that wait on either side. -/
def mergeTwo (less : Less) (wins : Nat) (before : List Run) (left right : Run)
    (after : List Run) : Waiting :=
  match mergeRuns less wins left.items right.items with
  | .ok (merged, wins) => .ok (after ++ ⟨merged, left.power⟩ :: before, wins)
  | .error (f, items) => .error (f, itemsOf before ++ items ++ itemsOf after)

/-- Merges the last two runs as long as the boundary between them is finer than the next one. -/
def mergeFiner (less : Less) (power : Nat) : (fuel : Nat) → (wins : Nat) → List Run → Waiting
  | fuel + 1, wins, right :: left :: before =>
    if power < left.power then do
      let (runs, wins) ← mergeTwo less wins before left right []
      mergeFiner less power fuel wins runs
    else .ok (right :: left :: before, wins)
  | _, wins, runs => .ok (runs, wins)

/-- Merges all runs, of three the two shorter neighbours first. -/
def mergeAll (less : Less) : (fuel : Nat) → (wins : Nat) → List Run → Waiting
  | fuel + 1, wins, c :: b :: a :: before => do
    let (runs, wins) ←
      if a.items.size < c.items.size then mergeTwo less wins before a b [c]
      else mergeTwo less wins (a :: before) b c []
    mergeAll less fuel wins runs
  | fuel + 1, wins, [right, left] => do
    let (runs, wins) ← mergeTwo less wins [] left right []
    mergeAll less fuel wins runs
  | _, wins, runs => .ok (runs, wins)

/-- Adds a run of a length behind the waiting ones. -/
def settle (less : Less) (total length wins : Nat) : List Run → Waiting
  | [] => .ok ([], wins)
  | top :: before => do
    let power := boundaryPower total (itemsOf before).length top.items.size length
    let (runs, wins) ← mergeFiner less power (before.length + 1) wins (top :: before)
    match runs with
    | [] => return ([], wins)
    | top :: before => return ({ top with power := power } :: before, wins)

/-- Sorts what is left behind the waiting runs; each round takes an element, so `fuel` of their
number is enough. -/
def sortRest (less : Less) (total least : Nat) :
    (fuel : Nat) → (wins : Nat) → (runs : List Run) → (rest : List Value) → Sorted
  | 0, _, runs, rest => ⟨itemsOf runs ++ rest, none⟩
  | fuel + 1, wins, runs, rest =>
    if rest.isEmpty then
      match mergeAll less (runs.length + 1) wins runs with
      | .ok (runs, _) => ⟨itemsOf runs, none⟩
      | .error (f, items) => ⟨items, some f⟩
    else match firstRun less least rest with
      | .error f => ⟨itemsOf runs ++ rest, some f⟩
      | .ok (run, length) =>
        match run.failure with
        | some f => ⟨itemsOf runs ++ run.items ++ rest.drop length, some f⟩
        | none =>
          match settle less total length wins runs with
          | .error (f, items) => ⟨items ++ run.items ++ rest.drop length, some f⟩
          | .ok (runs, wins) =>
            sortRest less total least fuel wins (⟨run.items.toArray, 0⟩ :: runs) (rest.drop length)

def sortList (less : Less) (items : List Value) : Sorted :=
  let n := items.length
  if n < 2 then ⟨items, none⟩
  else sortRest less n (leastRun (n + 1) n 0) (n + 1) Merging.leastGallop [] items

end TemplateEngine.Sorting
