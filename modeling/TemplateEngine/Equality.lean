import TemplateEngine.Octets
/-!
Equality of values, and the values that may be keys. Numbers of all types are compared by value; a
value is found in a collection when it is the same object or an equal one.
-/
namespace TemplateEngine

/-- A number of any type: a real one, or one with an imaginary part. -/
inductive Numeric
  | real (x : Exact)
  | complex (re im : Exact)

def Numeric.same : Numeric → Numeric → Bool
  | real x, real y => x.same y
  | real x, complex re im => x.same re && im.same (.ratio ⟨0, 1⟩)
  | complex re im, real y => re.same y && im.same (.ratio ⟨0, 1⟩)
  | complex a b, complex c d => a.same c && b.same d

/-- Whether the imaginary part is zero. -/
def Numeric.isReal : Numeric → Bool
  | real _ => true
  | complex _ im => im.same (.ratio ⟨0, 1⟩)

/-- How deep wrappers are nested in a value. -/
def Value.depth : Value → Nat
  | .optional _ v | .view _ v | .readOnly _ v | .part _ _ v | .bound _ _ _ v => v.depth + 1
  | _ => 1

def Cell.contents : Cell → List Value
  | .list items | .tuple items | .deque items | .array _ items | .set _ items | .stream _ items
  | .bag items | .sized items => items
  | .dict _ entries => entries.map Prod.fst ++ entries.map Prod.snd
  | .bindings scope => scope.stored.map (·.1.given) ++ scope.stored.map Prod.snd
  | .object _ attributes base => attributes.map Prod.snd ++ base.toList
  | .bytearray _ | .blank _ => []

def Cell.depth (c : Cell) : Nat := (c.contents.map Value.depth).foldl max 0 + 1

namespace World

/-- A bound on the nesting of all cells that do not hold themselves. -/
def bulk (w : World) : Nat := w.cells.foldl (fun n c => n + c.depth + 1) 2

/-- A bound on the nesting of any value that does not hold itself. -/
def nesting (w : World) (v : Value) : Nat := w.bulk + v.depth

def layersWithin (w : World) : (fuel : Nat) → Value → List Value
  | 0, v => [v]
  | fuel + 1, v =>
    match w.content? v with
    | some content => v :: w.layersWithin fuel content
    | none => [v]

/-- A value, what it holds if it is an optional, what that holds, and so on. -/
def layers (w : World) (v : Value) : List Value := w.layersWithin (w.nesting v) v

/-- The value inside all optionals around it. -/
def unwrap (w : World) (v : Value) : Value := (w.layers v).getLastD v

def numeric? (w : World) (v : Value) : Option Numeric :=
  match w.base v with
  | .bool b => some (.real (.ratio (.ofInt (if b then 1 else 0))))
  | .int n => some (.real (.ratio (.ofInt n)))
  | .float x => some (.real x.exact)
  | .decimal d => some (.real d.exact)
  | .fraction q => some (.real (.ratio q))
  | .complex re im => some (.complex re.exact im.exact)
  | _ => none

def isSignaling (w : World) (v : Value) : Bool :=
  match w.base v with
  | .decimal d => d.isSignaling
  | _ => false

/-- Equality of numbers. A signaling NaN cannot be compared with real numbers; a number that has an
imaginary part differs from it. -/
def sameNumber (w : World) (a b : Value) (x y : Numeric) : Except Fault Bool :=
  if (w.isSignaling a || w.isSignaling b) && x.isReal && y.isReal then
    .error (.decimal .invalidOperation)
  else .ok (x.same y)

/-- The same point on the time line, or the same wall clock when both zones are unknown. -/
def sameMoment (a b : Moment) : Bool :=
  a.offset.isSome == b.offset.isSome && Calendar.seconds a == Calendar.seconds b &&
    a.time.micro == b.time.micro

def sameRange (a b : Int × Int × Int) : Bool :=
  let n := Elements.rangeLength a.1 a.2.1 a.2.2
  let m := Elements.rangeLength b.1 b.2.1 b.2.2
  n == m && (n == 0 || (a.1 == b.1 && (n == 1 || a.2.2 == b.2.2)))

end World

/-- Whether two lists agree element by element. -/
def allAgree (same : Value → Value → Except Fault Bool) :
    List Value → List Value → Except Fault Bool
  | [], [] => .ok true
  | a :: as, b :: bs => do if ← same a b then allAgree same as bs else return false
  | _, _ => .ok false

def someAgrees (same : Value → Value → Except Fault Bool) (x : Value) :
    List Value → Except Fault Bool
  | [] => .ok false
  | y :: ys => do if ← same y x then return true else someAgrees same x ys

/-- The entry whose key agrees. -/
def entryFor (same : Value → Value → Except Fault Bool) (key : Value) :
    List (Value × Value) → Except Fault (Option Value)
  | [] => .ok none
  | (k, v) :: rest => do if ← same k key then return some v else entryFor same key rest

/-- Whether each entry of the first list has an equal one in the second. -/
def entriesAgree (same : Value → Value → Except Fault Bool) (others : List (Value × Value)) :
    List (Value × Value) → Except Fault Bool
  | [] => .ok true
  | (k, v) :: rest => do
    match ← entryFor same k others with
    | some x => if ← same v x then entriesAgree same others rest else return false
    | none => return false

namespace World

def allHashable (hash : Value → Except Fault Unit) : List Value → Except Fault Unit
  | [] => .ok ()
  | x :: xs => do hash x; allHashable hash xs

/-- Whether a value may be a key: nothing in it can change. -/
def hashWithin (w : World) : (fuel : Nat) → Value → Except Fault Unit
  | 0, _ => .error .nestedTooDeep
  | fuel + 1, v =>
    let refuse := Except.error (Fault.unhashable (w.typeInMessages v))
    match w.base v with
    | .optional _ x => w.hashWithin fuel x
    | .view .. | .readOnly .. | .subUnits _ | .part _ .keys _ | .part _ .items _ => refuse
    | .decimal d => if d.isSignaling then .error .unhashableNaN else .ok ()
    | _ =>
      match w.baseCell? v with
      | some (.tuple items) => allHashable (w.hashWithin fuel) items
      | some (.list _) | some (.deque _) | some (.array ..) | some (.bytearray _) | some (.dict ..)
      | some (.bindings _) | some (.set false _) => refuse
      | _ => .ok ()

def hash (w : World) (v : Value) : Except Fault Unit := w.hashWithin (w.nesting v) v

/-- An element of a set: a value, or a pair that is not made yet. -/
inductive Element
  | value (v : Value)
  | pair (first second : Value)

/-- The elements of a value that is a set. -/
def setElements? (w : World) (v : Value) : Option (List Element) :=
  match v with
  | .part _ .items target => (w.mapping? target).map (·.map fun (k, x) => .pair k x)
  | v => if w.isSet v then (w.repeatable? v).map (·.map .value) else none

/-- The two values of a pair. -/
def asTwo? (w : World) (v : Value) : Option (Value × Value) :=
  match w.baseCell? v with
  | some (.tuple [x, y]) => some (x, y)
  | _ => none

/-- Whether an element is one of the given. To look for a pair among values, it must be hashable. -/
def isAmong (w : World) (same : Value → Value → Except Fault Bool) (others : List Element) :
    Element → Except Fault Bool
  | .value v => someValue others v
  | .pair k x => do
    if others.any fun | .value _ => true | .pair .. => false then
      w.hash k
      w.hash x
    somePair others k x
where
  someValue : List Element → Value → Except Fault Bool
    | [], _ => .ok false
    | .value y :: rest, v => do if ← same y v then return true else someValue rest v
    | .pair k x :: rest, v => do
      match w.asTwo? v with
      | some (k', x') =>
        if ← (do if ← same k k' then same x x' else return false) then return true
        else someValue rest v
      | none => return false
  somePair : List Element → Value → Value → Except Fault Bool
    | [], _, _ => .ok false
    | .pair k' x' :: rest, k, x => do
      if ← same k' k then same x' x else somePair rest k x
    | .value y :: rest, k, x => do
      match w.asTwo? y with
      | some (k', x') =>
        if ← (do if ← same k' k then same x' x else return false) then return true
        else somePair rest k x
      | none => somePair rest k x

/-- The elements of a value that tells its length and can be read again and again. -/
def members? (w : World) (v : Value) : Option (List Value) :=
  match w.sequence? v, w.mapping? v with
  | some elements, _ => some elements.toList
  | none, some entries => some (entries.map Prod.fst)
  | none, none => w.repeatable? v

/-- The two values that an element is taken apart into. -/
def inTwo (w : World) : Element → Except Fault (Value × Value)
  | .pair x y => .ok (x, y)
  | .value v =>
    match (w.members? v).or ((w.stream? v).map Prod.snd) with
    | some [x, y] => .ok (x, y)
    | some items =>
      .error (if items.length < 2 then .tooFewValues 2 items.length else .tooManyValues 2)
    | none => .error (.notUnpackable (w.typeInMessages v))

/-- The scope whose names or variables a value shows. -/
def shownScope? (w : World) (v : Value) : Option (MappingPart × Scope Value Value) :=
  match v with
  | .part _ which target =>
    match w.baseCell? target with
    | some (.bindings scope) => some (which, scope)
    | _ => none
  | _ => none

/-- Whether a set holds an element. The names of a scope are compared without regard to case, and
nothing but a name is looked for among them. -/
def holds (w : World) (same : Value → Value → Except Fault Bool) (set : Value)
    (elements : List Element) (e : Element) : Except Fault Bool :=
  match w.shownScope? set, e with
  | some (.keys, scope), .value v => return scope.contains (← w.nameText v)
  | some (.keys, _), .pair .. => .error (.nameNotText (Standard.tuple.names.2))
  | some (_, scope), e => do
    let (key, x) ← w.inTwo e
    match scope.get? (← w.nameText key) with
    | some y => same y x
    | none => return false
  | none, e => w.isAmong same elements e

/-- Whether a set holds each of the given elements. -/
def holdsAll (w : World) (same : Value → Value → Except Fault Bool) (set : Value)
    (elements : List Element) : List Element → Except Fault Bool
  | [] => .ok true
  | e :: rest => do
    if ← w.holds same set elements e then w.holdsAll same set elements rest else return false

/-- Of two sets, the one of greater rank looks for its elements in the other. -/
def askingRank (w : World) (v : Value) : Nat :=
  match v, w.shownScope? v with
  | _, some _ => 2
  | .part .., none => 1
  | _, none => 0

/-- What a view of a sequence says about another value: equal when that is a sequence with equal
elements; it says nothing about texts and what is no sequence. The other value is looked at without
a view around it. -/
def viewSays (w : World) (equal : Value → Value → Except Fault Bool) (target other : Value) :
    Except Fault (Option Bool) := do
  let other := match other with
    | .view _ inner => inner
    | v => v
  if !w.isSequence other || w.isText other then return none
  else match w.size? target, w.size? other with
    | none, _ => .error (.noLength (w.typeInMessages (behindViews target)))
    | _, none => .error (.noLength (w.typeInMessages (behindViews other)))
    | some n, some m =>
      if maxLength ≤ n || maxLength ≤ m then .error .lengthTooLarge
      else if n ≠ m then return some false
      else match w.members? (behindViews target), w.members? (behindViews other) with
        | some xs, some ys => return some (← allAgree equal xs ys)
        | _, _ => return none

/-- Equality up to a depth of nesting. -/
def equalWithin (w : World) : (fuel : Nat) → Value → Value → Except Fault Bool
  | 0, _, _ => .error .nestedTooDeep
  | fuel + 1, a, b =>
    let equal := w.equalWithin fuel
    let same (x y : Value) : Except Fault Bool :=
      if x.identical y then .ok true else equal x y
    match w.numeric? a, w.numeric? b with
    | some x, some y => w.sameNumber a b x y
    | _, _ =>
    match w.text? a, w.text? b with
    | some s, some t => .ok (s == t)
    | _, _ =>
    match w.comparedOctets? a b with
    | some (s, t) => .ok (s == t)
    | none =>
    match w.setElements? a, w.setElements? b with
    | some xs, some ys =>
      if xs.length ≠ ys.length then .ok false
      else if w.askingRank a < w.askingRank b then w.holdsAll same a xs ys
      else w.holdsAll same b ys xs
    | _, _ =>
    match w.base a, w.base b with
    | .optional _ x, .optional _ y => if w.classOf a = w.classOf b then same x y else .ok (a == b)
    | .moment m, .moment n | .moment m, .instant n | .instant m, .moment n
    | .instant m, .instant n => .ok (sameMoment m n)
    | .range i j k, .range l m n => .ok (sameRange (i, j, k) (l, m, n))
    | .bound _ o m x, .bound _ p n y => .ok (o == p && m == n && x.identical y)
    | .view _ x, other => do
      match ← w.viewSays equal x other with
      | some answer => return answer
      | none =>
        match other with
        | .view _ y => return (← w.viewSays equal y a).getD (a == b)
        | _ => return false
    | other, .view _ y => return (← w.viewSays equal y other).getD false
    | .brokenTime s, .brokenTime t => .ok (s.fields == t.fields)
    | _, _ =>
      match w.mapping? a, w.mapping? b with
      | some xs, some ys => if xs.length = ys.length then entriesAgree same ys xs else .ok false
      | _, _ =>
        match w.baseCell? a, w.baseCell? b with
        | some (.list xs), some (.list ys) | some (.tuple xs), some (.tuple ys)
        | some (.deque xs), some (.deque ys) | some (.array _ xs), some (.array _ ys) =>
          if xs.length = ys.length then allAgree same xs ys else .ok false
        | some (.tuple xs), none =>
          match b with
          | .brokenTime t => allAgree same xs (t.fields.map .int)
          | _ => .ok false
        | none, some (.tuple ys) =>
          match a with
          | .brokenTime t => allAgree same (t.fields.map .int) ys
          | _ => .ok false
        | _, _ => .ok (a == b)

/-- Equality when `bulk` bounds the nesting of the cells. -/
def equalFrom (w : World) (bulk : Nat) (a b : Value) : Except Fault Bool :=
  w.equalWithin (bulk + a.depth + b.depth) a b

def equal (w : World) (a b : Value) : Except Fault Bool := w.equalFrom w.bulk a b

/-- The same object, or an equal one. -/
def agreeFrom (w : World) (bulk : Nat) (a b : Value) : Except Fault Bool :=
  if a.identical b then .ok true else w.equalFrom bulk a b

def agree (w : World) (a b : Value) : Except Fault Bool := w.agreeFrom w.bulk a b

end World

/-- The value of a key in a list of entries. -/
def lookUpEntry (entries : List (Value × Value)) (key : Value) : M (Option Value) := do
  let w ← get
  ExceptT.mk (return do
    w.hash key
    entryFor (w.agreeFrom w.bulk) key entries)

/-- The entries with one rewritten in its place, keeping the first key, or added at the end. -/
def putEntry (same : Value → Value → Except Fault Bool) (key value : Value) :
    List (Value × Value) → Except Fault (List (Value × Value))
  | [] => .ok [(key, value)]
  | (k, v) :: rest => do
    if ← same k key then return (k, value) :: rest
    else return (k, v) :: (← putEntry same key value rest)

/-- The entries without the one of a key. -/
def dropEntry (same : Value → Value → Except Fault Bool) (key : Value) :
    List (Value × Value) → Except Fault (List (Value × Value))
  | [] => .ok []
  | (k, v) :: rest => do
    if ← same k key then return rest else return (k, v) :: (← dropEntry same key rest)

/-- Writes an entry. -/
def insertEntry (entries : List (Value × Value)) (key value : Value) :
    M (List (Value × Value)) := do
  let w ← get
  liftResult (w.hash key)
  liftResult (putEntry (w.agreeFrom w.bulk) key value entries)

/-- Writes an entry of the mapping in a cell. -/
def writeEntry (cell : Nat) (key value : Value) : M Unit := do
  match (← get).cell? cell with
  | some (.dict fluent entries) => setCell cell (.dict fluent (← insertEntry entries key value))
  | _ => return ()

/-- Writes entries one after the other. -/
def insertEntries (entries : List (Value × Value)) :
    List (Value × Value) → M (List (Value × Value))
  | [] => return entries
  | (k, v) :: rest => do insertEntries (← insertEntry entries k v) rest

/-- The elements without repetitions, the first of equal ones kept. -/
def insertElements (items : List Value) : List Value → M (List Value)
  | [] => return items
  | x :: rest => do
    let w ← get
    liftResult (w.hash x)
    if ← liftResult (someAgrees (w.agreeFrom w.bulk) x items) then insertElements items rest
    else insertElements (items ++ [x]) rest

end TemplateEngine
