import TemplateEngine.Packing
/-!
Changing containers in place, and reading the next element of an iterator.
-/
namespace TemplateEngine

/-- Adds an element at the end. -/
def append (target v : Value) : M Unit := do
  let w ← get
  match w.base target, w.baseCell? target with
  | .ref i, some (.list items) => setCell i (.list (items ++ [v]))
  | .ref i, some (.deque items) => setCell i (.deque (items ++ [v]))
  | .ref i, some (.array code items) =>
    setCell i (.array code (items ++ [← Packing.element code v]))
  | .ref i, some (.bytearray bytes) => setCell i (.bytearray (bytes ++ [← Packing.byte v]))
  | _, _ => fail (.noAttribute (w.typeInMessages target) "append")

/-- Removes the last element. -/
def takeLast (target : Value) : M Value := do
  let w ← get
  match w.base target, w.baseCell? target with
  | .ref i, some (.list items) => splitLast "empty list" items fun kept => setCell i (.list kept)
  | .ref i, some (.deque items) =>
    splitLast "an empty deque" items fun kept => setCell i (.deque kept)
  | .ref i, some (.array code items) =>
    asObject (← splitLast "empty array" items fun kept => setCell i (.array code kept))
  | .ref i, some (.bytearray bytes) =>
    return .int (← splitLast "empty bytearray" bytes fun kept => setCell i (.bytearray kept)).toNat
  | _, _ => fail (.noAttribute (w.typeInMessages target) "pop")

/-- How a sequence speaks of an index that is written to. -/
def World.writtenIndex (w : World) (v : Value) : String :=
  match w.baseCell? v with
  | some (.list _) => "list assignment index"
  | some (.array ..) => "array assignment index"
  | _ => (w.indexWords v).2

/-- Writes the element at an index; a negative one counts from the end. -/
def writeElement {α : Type} (target index : Value) (items : List α) (element : M α)
    (keep : List α → M Unit) : M Unit := do
  let w ← get
  match w.integer? index with
  | none => fail (.wrongIndex (w.indexWords target).1 (w.typeInMessages index))
  | some n =>
    if Elements.refuses (.list []) n then fail (.indexTooLarge (w.typeInMessages index))
    else
      let i := if n < 0 then n + items.length else n
      if 0 ≤ i ∧ i < items.length then keep (items.set i.toNat (← element))
      else fail (.indexOutOfRange (w.writtenIndex target))

/-- Writes an entry of a mapping, or an element of a sequence. -/
def put (target key v : Value) : M Unit := do
  let w ← get
  match w.base target, w.baseCell? target with
  | .ref i, some (.dict ..) => writeEntry i key v
  | _, some (.bindings _) => Bindings.write target key v
  | .ref i, some (.list items) =>
    writeElement target key items (pure v) fun items => setCell i (.list items)
  | .ref i, some (.deque items) =>
    writeElement target key items (pure v) fun items => setCell i (.deque items)
  | .ref i, some (.array code items) =>
    writeElement target key items (Packing.element code v)
      fun items => setCell i (.array code items)
  | .ref i, some (.bytearray bytes) =>
    if (w.integer? key).isSome then discard (Packing.byte v)
    writeElement target key bytes (Packing.byte v) fun bytes => setCell i (.bytearray bytes)
  | _, _ => fail (.notWritable (w.typeInMessages target))

/-- The next element of an iterator. -/
def advance (target : Value) : M Value := do
  let w ← get
  match target, w.baseCell? target with
  | .ref i, some (.stream kind (x :: rest)) => setCell i (.stream kind rest); return x
  | _, some (.stream _ []) => fail .exhausted
  | _, _ => fail (.notIterator (w.typeInMessages target))

end TemplateEngine
