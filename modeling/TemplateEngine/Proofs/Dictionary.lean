import TemplateEngine.Proofs.ScopeCells
import TemplateEngine.Attributes
/-!
The operations on a scope value, and a dictionary in insertion order under folded names that replies
to each of them.
-/
namespace TemplateEngine

namespace World

/-- The pair that a value is. -/
def pair? (w : World) : Value → Option (Value × Value)
  | .ref i =>
    match w.cell? i with
    | some (.tuple [key, v]) => if key.isBare || v.isBare then none else some (key, v)
    | _ => none
  | _ => none

def pairs? (w : World) : List Value → Option (List (Value × Value))
  | [] => some []
  | v :: rest => do return (← w.pair? v) :: (← pairs? w rest)

/-- The entries that an update writes: those of a mapping, or the pairs of a list. -/
def updates? (w : World) (source : Value) : Option (List (Value × Value)) :=
  match w.mapping? source with
  | some entries => some entries
  | none =>
    match source with
    | .ref i =>
      match w.cell? i with
      | some (.list items) => w.pairs? items
      | _ => none
    | _ => none

end World

namespace Bindings

/-- What may be asked of a scope value, and what may be done to it. -/
inductive Operation
  | read (key : Value)
  | contains (key : Value)
  | size
  | items
  | spelling (key : Value)
  | write (key v : Value)
  | erase (key : Value)
  | take (key : Value) (fallback : Option Value)
  | popFirst
  | readOrWrite (key v : Value)
  | update (source : Value)
  | clear

/-- What an operation tells. -/
inductive Answer
  | done
  | value (v : Value)
  | truth (b : Bool)
  | count (n : Nat)
  | listed (entries : List (Value × Value))
  | spelled (key : Option Value)

def Operation.perform (b : Value) : Operation → M Answer
  | .read key => .value <$> Bindings.read b key
  | .contains key => do return .truth (← lookUp? b key).isSome
  | .size => do return .count (← scopeOf b).size
  | .items => do return .listed (((← get).mapping? b).getD [])
  | .spelling key => .spelled <$> Bindings.spelling b key
  | .write key v => do Bindings.write b key v; return .done
  | .erase key => do Bindings.erase b key; return .done
  | .take key fallback => .value <$> Bindings.take b key fallback
  | .popFirst => .value <$> Bindings.popFirst b
  | .readOrWrite key v => .value <$> Bindings.readOrWrite b key v
  | .update source => do Bindings.update Dispatch.full b source; return .done
  | .clear => do setScope b .empty; return .done

end Bindings

/-- What a dictionary replies: an answer, the entry that was first, or why there is none. -/
inductive Reply
  | answer (a : Bindings.Answer)
  | entry (key : String) (v : Value)
  | missing (key : Value)
  | empty
  | refused (key : Value)

namespace Dictionary

open Bindings (Operation)

variable (w : World) (d : Dictionary Value Value)

/-- Goes on with the folded text of a name. What is no text is refused. -/
def withName (key : Value) (next : String → Reply × Dictionary Value Value) :
    Reply × Dictionary Value Value :=
  match w.text? key with
  | some text => next (Text.foldCase text)
  | none => (.refused key, d)

/-- Writes entries one after the other, up to the first one whose key is no text. -/
def writeAll : Dictionary Value Value → List (Value × Value) → Reply × Dictionary Value Value
  | d, [] => (.answer .done, d)
  | d, (key, v) :: rest =>
    withName w d key fun name => writeAll (Table.insert d name (key, v)) rest

/-- A dictionary in insertion order, under folded names: a rewritten entry keeps its place, a new
one goes last. -/
def perform : Operation → Reply × Dictionary Value Value
  | .read key => withName w d key fun name =>
    match Table.get? d name with
    | some (_, v) => (.answer (.value v), d)
    | none => (.missing key, d)
  | .contains key => withName w d key fun name => (.answer (.truth (Table.contains d name)), d)
  | .size => (.answer (.count d.length), d)
  | .items => (.answer (.listed (d.map fun e => (.text e.1, e.2.2))), d)
  | .spelling key => withName w d key fun name =>
    (.answer (.spelled ((Table.get? d name).map Prod.fst)), d)
  | .write key v => withName w d key fun name =>
    (.answer .done, Table.insert d name (key, v))
  | .erase key => withName w d key fun name =>
    match Table.get? d name with
    | some _ => (.answer .done, Table.erase d name)
    | none => (.missing key, d)
  | .take key fallback => withName w d key fun name =>
    match Table.get? d name, fallback with
    | some (_, v), _ => (.answer (.value v), Table.erase d name)
    | none, some v => (.answer (.value v), d)
    | none, none => (.missing key, d)
  | .popFirst =>
    match d with
    | [] => (.empty, [])
    | (name, _, v) :: rest => (.entry name v, rest)
  | .readOrWrite key v => withName w d key fun name =>
    match Table.get? d name with
    | some (_, old) => (.answer (.value old), d)
    | none => (.answer (.value v), Table.insert d name (key, v))
  | .update source => writeAll w d ((w.updates? source).getD [])
  | .clear => (.answer .done, [])

end Dictionary

/-- Whether a result, in the world that it leaves, is what a dictionary replied. -/
def Reply.Matches (w : World) : Reply → Except Fault Bindings.Answer → Prop
  | .answer a, result => result = .ok a
  | .entry key v, result =>
    ∃ i, result = .ok (.value (.ref i)) ∧ w.cell? i = some (.tuple [.text key, v])
  | .missing key, result => ∃ shown, w.display key = .ok shown ∧ result = .error (.missingKey shown)
  | .empty, result => result = .error .emptyTable
  | .refused key, result => result = .error (.nameNotText (w.typeName key))

namespace Bindings

/-- An update reads a mapping or a list of pairs. -/
def Operation.Reads (w : World) : Operation → Prop
  | .update source => (w.updates? source).isSome
  | _ => True

end Bindings

end TemplateEngine
