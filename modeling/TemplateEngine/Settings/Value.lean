import TemplateEngine.Attributes
import TemplateEngine.Mutation
import TemplateEngine.Settings.Tree
/-!
Settings made of template values, and their keys. Equal keys are the same key, whichever way they
are written.
-/
namespace TemplateEngine

/-- A key as it was written, and the form in which it is compared: its text, or the first key seen
that is equal to it. -/
structure Key where
  given : Value
  form : Value
deriving Repr

instance : BEq Key := ⟨fun a b => a.form == b.form⟩

/-- A computation that remembers the keys it has seen, the texts left out. -/
abbrev Keyed (m : Type → Type) := StateT (List Value) m

namespace Key

def text (s : String) : Key := ⟨.text s, .text s⟩

/-- The first of the keys that is equal to a value. -/
def firstEqual? (same : Value → Value → Except Fault Bool) (v : Value) :
    List Value → Except Fault (Option Value)
  | [] => .ok none
  | k :: rest => do if ← same k v then return some k else firstEqual? same v rest

def ofValue (w : World) (v : Value) : Keyed (Except Fault) Key := do
  match w.text? v with
  | some s => return ⟨v, .text s⟩
  | none =>
    match ← firstEqual? (w.agreeFrom w.bulk) v (← get) with
    | some known => return ⟨v, known⟩
    | none => do
      modify (· ++ [v])
      return ⟨v, v⟩

end Key

/-- Settings of template values. -/
abbrev Settings := Tree Key Value

/-- A new mapping with texts as keys. -/
def newNamedTable (entries : Table String Value) : M Value :=
  alloc (.dict false (entries.map fun (k, v) => (.text k, v)))

namespace Settings

/-- The settings that a value stands for. Mappings and lists of any class count as tables and lists;
`fuel` bounds the nesting. -/
def ofValueWithin (w : World) : (fuel : Nat) → Value → Keyed (Except Fault) Settings
  | 0, _ => throw .nestedTooDeep
  | fuel + 1, v =>
    match w.baseCell? v with
    | some (.dict _ entries) => do
      return .table (← entries.mapM fun (k, x) => do
        return (← Key.ofValue w k, ← ofValueWithin w fuel x))
    | some (.list items) => do return .list (← items.mapM (ofValueWithin w fuel))
    | _ => return .leaf v

/-- Runs a pure computation on the keys seen so far. -/
def liftKeyed {α : Type} (x : Keyed (Except Fault) α) : Keyed M α := fun seen => liftResult (x seen)

def ofValue (v : Value) : Keyed M Settings := do
  let w ← getThe World
  liftKeyed (ofValueWithin w (w.nesting v) v)

mutual

/-- A new value for settings: every table and list in it is new. -/
def toValue : Settings → M Value
  | .leaf v => asObject v
  | .list items => do newList (← toValues items)
  | .table entries => do alloc (.dict false (← toEntries entries))

def toValues : List (Tree Key Value) → M (List Value)
  | [] => return []
  | t :: rest => do
    let v ← toValue t
    return v :: (← toValues rest)

def toEntries : Table Key (Tree Key Value) → M (List (Value × Value))
  | [] => return []
  | (k, t) :: rest => do
    let v ← toValue t
    return (k.given, v) :: (← toEntries rest)

end

/-- Settings by text under general keys. -/
def generalKeys (entries : Table String (Tree String Value)) : Table Key Settings :=
  Tree.mapKeysEntries Key.text entries

/-- A new value for settings by text. -/
def ofTexts (entries : Table String (Tree String Value)) : M Value :=
  toValue (.table (generalKeys entries))

/-- The entries of a mapping, or the pairs that an object tells as its items. -/
def itemsOf (v : Value) : M (List (Value × Value)) := do
  match (← get).mapping? v with
  | some entries => return entries
  | none =>
    forEach (← Dispatch.full.ask v "items") fun pair => do
      let (key, x) ← Bindings.asPair pair
      liftResult ((← get).hash key)
      return (key, x)

/-- The entries that a value stands for. -/
def entriesOfValue (v : Value) : Keyed M (List (Key × Settings)) := do
  let items ← itemsOf v
  let w ← getThe World
  items.mapM fun (k, x) => do return (← liftKeyed (Key.ofValue w k), ← ofValue x)

/-- A copy of a value with new tables and lists. -/
def copyValue (v : Value) : M Value := do
  let (settings, _) ← (ofValue v).run []
  toValue settings

/-- Lays the entries of a value over the table of another one, as a new value. -/
def mergeValues (base later : Value) : M Value := do
  let (base, seen) ← (entriesOfValue base).run []
  let (later, _) ← (entriesOfValue later).run seen
  toValue (.table (Tree.mergeEntries (Table.ofEntries base) later))

/-- Writes a value at a path in place. Tables are made on the way, also in place of what is no
table. -/
def setInPlace (target : Value) (key : String) (path : List String) (v : Value) : M Unit := do
  match path with
  | [] => put target (.text key) v
  | next :: path =>
    let inner ← entryTable target (.text key)
    setInPlace inner next path v
where
  /-- The table under a key; a new one is put there if there is none. -/
  entryTable (target key : Value) : M Value := do
    let w ← get
    match w.mapping? target with
    | some entries =>
      let new : M Value := do
        let inner ← alloc (.dict false [])
        put target key inner
        return inner
      let found ← match w.baseCell? target with
        | some (.bindings _) => Bindings.lookUp? target key
        | _ => lookUpEntry entries key
      match found with
      | some inner =>
        match w.baseCell? inner with
        | some (.dict ..) => return inner
        | _ => new
      | none => new
    | none => fail (.noAttribute (w.typeInMessages target) "get")

end Settings

end TemplateEngine
