import TemplateEngine.Proofs.BindingsRun
import TemplateEngine.Proofs.Storage
/-!
A copy of a scope value: what it holds after any run of operations on the scope that was copied, and
that neither changes when the other does.
-/
namespace TemplateEngine

/-- The entries before the first one whose key is no text, as named ones. -/
def World.namedPrefix (w : World) : List (Value × Value) → List (Name Value × Value)
  | [] => []
  | (key, v) :: rest =>
    match w.text? key with
    | some text => (⟨text, key⟩, v) :: namedPrefix w rest
    | none => []

theorem World.namedPrefix_withScope {w : World} {b : Nat} {s : Scope Value Value}
    (h : w.cell? b = some (.bindings s)) (s' : Scope Value Value)
    (entries : List (Value × Value)) :
    (w.withScope b s').namedPrefix entries = w.namedPrefix entries := by
  induction entries with
  | nil => rfl
  | cons entry rest ih => simp only [namedPrefix, text?_withScope h, ih]

namespace Bindings

open Scope (Change)

/-- What an operation changes in a scope. -/
def Operation.changes (w : World) (s : Scope Value Value) : Operation → List (Change Value Value)
  | .write key v =>
    match w.text? key with
    | some text => [.insert ⟨text, key⟩ v]
    | none => []
  | .erase key | .take key _ =>
    match w.text? key with
    | some text => if (s.get? text).isSome then [.erase text] else []
    | none => []
  | .popFirst =>
    match s.entries with
    | (text, _) :: _ => [.erase text]
    | [] => []
  | .readOrWrite key v =>
    match w.text? key with
    | some text => if (s.get? text).isSome then [] else [.insert ⟨text, key⟩ v]
    | none => []
  | .update source =>
    (w.namedPrefix ((w.updates? source).getD [])).map fun e => .insert e.1 e.2
  | .clear => [.clear]
  | .read _ | .contains _ | .size | .items | .spelling _ => []

/-- A world in which a cell holds a scope, and every other cell that was there is as it was. -/
structure Changes (w : World) (b : Nat) (s : Scope Value Value) (w' : World) : Prop where
  scope : w'.cell? b = some (.bindings s)
  others : ∀ i, i ≠ b → i < w.cells.size → w'.cell? i = w.cell? i

variable {w : World} {b : Nat} {s : Scope Value Value}

theorem changes_self (h : w.cell? b = some (.bindings s)) : Changes w b s w where
  scope := h
  others _ _ _ := rfl

theorem changes_withScope (h : w.cell? b = some (.bindings s)) (s' : Scope Value Value) :
    Changes w b s' (w.withScope b s') where
  scope := World.cell?_withScope_self h s'
  others _ hi _ := World.cell?_withScope_of_ne hi s'

theorem Changes.withCell {w' : World} (h : Changes w b s w') (hsize : w.cells.size ≤ w'.cells.size)
    (c : Cell) : Changes w b s (w'.withCell c) where
  scope := World.cell?_withCell_of_cell? h.scope c
  others i hi hlt := by
    rw [World.cell?_withCell_of_lt (Nat.lt_of_lt_of_le hlt hsize), h.others i hi hlt]

section Operations

variable (h : w.cell? b = some (.bindings s))
include h

/-- The changes of an operation are read off the world that it leaves. -/
theorem changes_of_outcome {op : Operation} (changes : List (Change Value Value))
    {r : Except Fault Answer} (made : op.changes w s = changes)
    (left : outcome (op.perform (.ref b)) w = (r, w.withScope b (s.changeAll changes))) :
    Changes w b (s.changeAll (op.changes w s)) (outcome (op.perform (.ref b)) w).2 := by
  rw [made, left]
  exact changes_withScope h _

theorem changes_of_same {op : Operation} {r : Except Fault Answer} (made : op.changes w s = [])
    (left : outcome (op.perform (.ref b)) w = (r, w)) :
    Changes w b (s.changeAll (op.changes w s)) (outcome (op.perform (.ref b)) w).2 := by
  rw [made, left]
  exact changes_self h

theorem changes_read (key : Value) :
    Changes w b (s.changeAll ((Operation.read key).changes w s))
      (outcome ((Operation.read key).perform (.ref b)) w).2 := by
  cases ht : w.text? key with
  | none =>
    refine changes_of_same h rfl (r := .error (.nameNotText (w.typeName key))) ?_
    simp [Operation.perform, read, outcome_bind, outcome_lookUp?_refused h ht]
  | some text =>
    cases hv : s.get? text with
    | some v =>
      refine changes_of_same h rfl (r := .ok (.value v)) ?_
      simp [Operation.perform, read, outcome_bind, outcome_lookUp? h ht, hv]
    | none =>
      obtain ⟨shown, hshown⟩ := World.display_of_text ht
      refine changes_of_same h rfl (r := .error (.missingKey shown)) ?_
      simp [Operation.perform, read, outcome_bind, outcome_lookUp? h ht, hv,
        outcome_missing hshown]

theorem changes_write (key v : Value) :
    Changes w b (s.changeAll ((Operation.write key v).changes w s))
      (outcome ((Operation.write key v).perform (.ref b)) w).2 := by
  cases ht : w.text? key with
  | none =>
    refine changes_of_same h (by simp [Operation.changes, ht])
      (r := .error (.nameNotText (w.typeName key))) ?_
    simp [Operation.perform, outcome_write_refused ht]
  | some text =>
    refine changes_of_outcome h [.insert ⟨text, key⟩ v]
      (by simp [Operation.changes, ht]) (r := .ok .done) ?_
    simp [Operation.perform, outcome_write h ht, Scope.change]

theorem changes_erase (key : Value) :
    Changes w b (s.changeAll ((Operation.erase key).changes w s))
      (outcome ((Operation.erase key).perform (.ref b)) w).2 := by
  cases ht : w.text? key with
  | none =>
    refine changes_of_same h (by simp [Operation.changes, ht])
      (r := .error (.nameNotText (w.typeName key))) ?_
    simp [Operation.perform, erase, outcome_bind, outcome_lookUp?_refused h ht]
  | some text =>
    cases hv : s.get? text with
    | some v =>
      refine changes_of_outcome h [.erase text]
        (by simp [Operation.changes, ht, hv]) (r := .ok .done) ?_
      simp [Operation.perform, outcome_erase h ht hv, Scope.change]
    | none =>
      obtain ⟨shown, hshown⟩ := World.display_of_text ht
      refine changes_of_same h (by simp [Operation.changes, ht, hv])
        (r := .error (.missingKey shown)) ?_
      simp [Operation.perform, erase, outcome_bind, outcome_lookUp? h ht, hv,
        outcome_missing hshown]

theorem changes_take (key : Value) (fallback : Option Value) :
    Changes w b (s.changeAll ((Operation.take key fallback).changes w s))
      (outcome ((Operation.take key fallback).perform (.ref b)) w).2 := by
  cases ht : w.text? key with
  | none =>
    refine changes_of_same h (by simp [Operation.changes, ht])
      (r := .error (.nameNotText (w.typeName key))) ?_
    simp [Operation.perform, take, outcome_bind, outcome_lookUp?_refused h ht]
  | some text =>
    cases hv : s.get? text with
    | some v =>
      refine changes_of_outcome h [.erase text]
        (by simp [Operation.changes, ht, hv]) (r := .ok (.value v)) ?_
      simp [Operation.perform, take, outcome_bind, outcome_lookUp? h ht, hv,
        outcome_erase h ht hv, Scope.change]
    | none =>
      cases fallback with
      | some v =>
        refine changes_of_same h (by simp [Operation.changes, ht, hv]) (r := .ok (.value v)) ?_
        simp [Operation.perform, take, outcome_bind, outcome_lookUp? h ht, hv]
      | none =>
        obtain ⟨shown, hshown⟩ := World.display_of_text ht
        refine changes_of_same h (by simp [Operation.changes, ht, hv])
          (r := .error (.missingKey shown)) ?_
        simp [Operation.perform, take, outcome_bind, outcome_lookUp? h ht, hv,
          outcome_missing hshown]

theorem changes_readOrWrite (key v : Value) :
    Changes w b (s.changeAll ((Operation.readOrWrite key v).changes w s))
      (outcome ((Operation.readOrWrite key v).perform (.ref b)) w).2 := by
  cases ht : w.text? key with
  | none =>
    refine changes_of_same h (by simp [Operation.changes, ht])
      (r := .error (.nameNotText (w.typeName key))) ?_
    simp [Operation.perform, readOrWrite, outcome_bind, outcome_lookUp?_refused h ht]
  | some text =>
    cases hv : s.get? text with
    | some old =>
      refine changes_of_same h (by simp [Operation.changes, ht, hv]) (r := .ok (.value old)) ?_
      simp [Operation.perform, readOrWrite, outcome_bind, outcome_lookUp? h ht, hv]
    | none =>
      refine changes_of_outcome h [.insert ⟨text, key⟩ v]
        (by simp [Operation.changes, ht, hv]) (r := .ok (.value v)) ?_
      simp [Operation.perform, readOrWrite, outcome_bind, outcome_lookUp? h ht, hv,
        outcome_write h ht, Scope.change]

/-- The pair that is given takes a new cell. -/
theorem changes_popFirst :
    Changes w b (s.changeAll (Operation.popFirst.changes w s))
      (outcome (Operation.popFirst.perform (.ref b)) w).2 := by
  cases hentries : s.entries with
  | nil =>
    refine changes_of_same h (by simp [Operation.changes, hentries]) (r := .error .emptyTable) ?_
    simp [Operation.perform, popFirst, outcome_bind, outcome_scopeOf h, Scope.popFirst?, hentries]
  | cons entry rest =>
    obtain ⟨text, v⟩ := entry
    have hpopped : (outcome (Operation.popFirst.perform (.ref b)) w).2 =
        (w.withScope b (s.erase text)).withCell (.tuple [.text text, v]) := by
      simp [Operation.perform, popFirst, outcome_bind, outcome_scopeOf h, Scope.popFirst?,
        hentries, outcome_setScope h, newTuple, World.withCell]
    have hmade : Operation.popFirst.changes w s = [.erase text] := by
      simp [Operation.changes, hentries]
    rw [hpopped, hmade]
    refine (changes_withScope h _).withCell ?_ _
    simp [World.withScope, World.rewriteCell]

theorem outcome_writeAll_prefix (entries : List (Value × Value)) :
    ∃ r, outcome (do writeAll (.ref b) entries; return Answer.done) w =
      (r, w.withScope b (s.changeAll ((w.namedPrefix entries).map fun e => .insert e.1 e.2))) := by
  induction entries generalizing w s with
  | nil => exact ⟨.ok .done, by simp [writeAll, World.namedPrefix, World.withScope_self h]⟩
  | cons entry rest ih =>
    obtain ⟨key, v⟩ := entry
    cases ht : w.text? key with
    | none =>
      refine ⟨.error (.nameNotText (w.typeName key)), ?_⟩
      simp [writeAll, outcome_bind, outcome_write_refused ht, World.namedPrefix, ht,
        World.withScope_self h]
    | some text =>
      obtain ⟨r, hr⟩ := ih (World.cell?_withScope_self h (s.insert ⟨text, key⟩ v))
      refine ⟨r, ?_⟩
      rw [World.namedPrefix_withScope h, World.withScope_withScope] at hr
      simp only [writeAll, World.namedPrefix, ht, List.map_cons]
      simpa [outcome_bind, outcome_write h ht, Scope.change] using hr

/-- Every operation does its changes to the scope, and leaves every other cell as it is. -/
theorem changes_perform (op : Operation) (reads : op.Reads w) :
    Changes w b (s.changeAll (op.changes w s)) (outcome (op.perform (.ref b)) w).2 := by
  cases op with
  | read key => exact changes_read h key
  | contains key =>
    cases ht : w.text? key with
    | none =>
      refine changes_of_same h rfl (r := .error (.nameNotText (w.typeName key))) ?_
      simp [Operation.perform, outcome_lookUp?_refused h ht]
    | some text =>
      refine changes_of_same h rfl (r := .ok (.truth (s.get? text).isSome)) ?_
      simp [Operation.perform, outcome_lookUp? h ht]
  | size =>
    refine changes_of_same h rfl (r := .ok (.count s.size)) ?_
    simp [Operation.perform, outcome_scopeOf h]
  | items => exact changes_of_same h rfl (r := .ok (.listed ((w.mapping? (.ref b)).getD []))) rfl
  | spelling key =>
    cases ht : w.text? key with
    | none =>
      refine changes_of_same h rfl (r := .error (.nameNotText (w.typeName key))) ?_
      simp [Operation.perform, spelling, outcome_bind, outcome_scopeOf h, outcome_nameOf_refused ht]
    | some text =>
      refine changes_of_same h rfl (r := .ok (.spelled ((s.spelling? text).map (·.given)))) ?_
      simp [Operation.perform, spelling, outcome_bind, outcome_scopeOf h, outcome_nameOf ht]
  | write key v => exact changes_write h key v
  | erase key => exact changes_erase h key
  | take key fallback => exact changes_take h key fallback
  | popFirst => exact changes_popFirst h
  | readOrWrite key v => exact changes_readOrWrite h key v
  | update source =>
    obtain ⟨entries, hentries⟩ := Option.isSome_iff_exists.mp reads
    obtain ⟨r, hr⟩ := outcome_writeAll_prefix h entries
    exact changes_of_outcome h _ (by simp [Operation.changes, hentries])
      ((outcome_update h hentries).trans hr)
  | clear =>
    refine changes_of_outcome h [.clear] rfl (r := .ok .done) ?_
    simp [Operation.perform, outcome_setScope h, Scope.change]

end Operations

/-- A scope value after its construction and a run of operations, with what was changed in it. What
else happens between two operations leaves its cell as it is. -/
inductive Reached (b : Nat) : World → List (Change Value Value) → Prop
  | made {w : World} {source : Value} {entries : List (Name Value × Value)}
      (given : w.starts? source = some entries) (new : w.cells.size = b) :
      Reached b (outcome (make Dispatch.full source) w).2 (entries.map fun e => .insert e.1 e.2)
  | performed {w w' : World} {history : List (Change Value Value)} (op : Operation)
      (before : Reached b w history) (kept : w'.cell? b = w.cell? b) (reads : op.Reads w') :
      Reached b (outcome (op.perform (.ref b)) w').2
        (history ++ op.changes w' (Scope.after history))

/-- The cell of a scope holds what was changed in it. -/
theorem Reached.cell?_eq {history : List (Change Value Value)} (reached : Reached b w history) :
    w.cell? b = some (.bindings (Scope.after history)) := by
  induction reached with
  | made given new =>
    rw [outcome_make given, Scope.after_inserts, ← new]
    exact World.cell?_withCell_self _ _
  | performed op before kept reads ih =>
    rw [Scope.after_append]
    exact (changes_perform (kept.trans ih) op reads).scope

/-- Two scopes on which operations are performed in turn, whatever else happens between two of them
as long as the cells stay what they are: each operation does its changes to one of the scopes, and
leaves the other as it is. -/
def Apart (b c : Nat) :
    Scope Value Value → Scope Value Value → List (Operation ⊕ Operation) → Prop
  | _, _, [] => True
  | s, t, .inl op :: rest => ∀ w : World, w.cell? b = some (.bindings s) →
      w.cell? c = some (.bindings t) → op.Reads w →
      (outcome (op.perform (.ref b)) w).2.cell? b =
          some (.bindings (s.changeAll (op.changes w s))) ∧
        (outcome (op.perform (.ref b)) w).2.cell? c = some (.bindings t) ∧
        Apart b c (s.changeAll (op.changes w s)) t rest
  | s, t, .inr op :: rest => ∀ w : World, w.cell? b = some (.bindings s) →
      w.cell? c = some (.bindings t) → op.Reads w →
      (outcome (op.perform (.ref c)) w).2.cell? c =
          some (.bindings (t.changeAll (op.changes w t))) ∧
        (outcome (op.perform (.ref c)) w).2.cell? b = some (.bindings s) ∧
        Apart b c s (t.changeAll (op.changes w t)) rest

theorem apart_of_ne {b c : Nat} (ne : b ≠ c) (ops : List (Operation ⊕ Operation)) :
    ∀ s t : Scope Value Value, Apart b c s t ops := by
  induction ops with
  | nil => exact fun _ _ => trivial
  | cons op rest ih =>
    intro s t
    cases op with
    | inl op =>
      intro w hs ht reads
      have changed := changes_perform hs op reads
      refine ⟨changed.scope, ?_, ih _ _⟩
      rw [changed.others c ne.symm (World.lt_size_of_cell? ht), ht]
    | inr op =>
      intro w hs ht reads
      have changed := changes_perform ht op reads
      refine ⟨changed.scope, ?_, ih _ _⟩
      rw [changed.others b ne (World.lt_size_of_cell? hs), hs]

/-- A copy of a scope, after any run of operations on it, is a new scope with the same variables
under the same names and spellings, and whatever is done to one of the two later leaves the other as
it is. It lists the variables in the order in which the scope stores them, which is not always the
order in which the scope lists them: a variable that was written under another spelling is stored
last. -/
theorem copy_of_reached {history : List (Change Value Value)} (reached : Reached b w history)
    (later : List (Operation ⊕ Operation)) :
    w.cell? b = some (.bindings (Scope.after history)) ∧
      outcome (make Dispatch.full (.ref b)) w =
        (.ok (.ref w.cells.size), w.withCell (.bindings (Scope.after history).copy)) ∧
      (Scope.after history).copy.Duplicates (Scope.after history) ∧
      (Scope.after history).copy.entries.map Prod.fst =
        (Table.keys (Scope.storage history)).map Text.foldCase ∧
      ((Scope.after history).copy.entries = (Scope.after history).entries ↔
        (Table.keys (Scope.storage history)).map Text.foldCase =
          (Scope.after history).entries.map Prod.fst) ∧
      Apart b w.cells.size (Scope.after history) (Scope.after history).copy later := by
  have cell := reached.cell?_eq
  have coherent := Scope.coherent_after history
  have starts : w.starts? (.ref b) = some (Scope.after history).stored := by
    simp [World.starts?, World.baseCell?_ref_of_bindings cell]
  have ordered := Scope.entries_copy_iff coherent
  rw [← coherent.keys_entries, Scope.values_after] at ordered
  have listed := Scope.keys_entries_copy coherent
  rw [Scope.values_after] at listed
  exact ⟨cell, outcome_make starts, Scope.duplicates_copy coherent, listed, ordered,
    apart_of_ne (Nat.ne_of_lt (World.lt_size_of_cell? cell)) later _ _⟩

/-- A mapping with two names. -/
def lowercased : World := { cells := #[.dict false [(.text "a", .int 1), (.text "b", .int 2)]] }

/-- Two variables, of which the first is rewritten with a capital. -/
def recasing : List (Change Value Value) :=
  [.insert ⟨"a", .text "a"⟩ (.int 1), .insert ⟨"b", .text "b"⟩ (.int 2),
    .insert ⟨"A", .text "A"⟩ (.int 3)]

/-- The world in which that was done to a scope that is made of the mapping. -/
def capitalized : World :=
  (outcome ((Operation.write (.text "A") (.int 3)).perform (.ref 1))
    (outcome (make Dispatch.full (.ref 0)) lowercased).2).2

theorem reached_capitalized : Reached 1 capitalized recasing := by
  have starts : lowercased.starts? (.ref 0) =
      some [(⟨"a", .text "a"⟩, .int 1), (⟨"b", .text "b"⟩, .int 2)] := rfl
  have made : Reached 1 _ _ := .made starts rfl
  exact .performed (.write (.text "A") (.int 3)) made rfl trivial

theorem copy_of_reached_capitalized :
    Reached 1 capitalized recasing ∧
      capitalized.cell? 1 = some (.bindings (Scope.after recasing)) ∧
      outcome (make Dispatch.full (.ref 1)) capitalized =
        (.ok (.ref 2), capitalized.withCell (.bindings (Scope.after recasing).copy)) ∧
      (Scope.after recasing).entries = [("a", .int 3), ("b", .int 2)] ∧
      (Scope.after recasing).copy.entries = [("b", .int 2), ("a", .int 3)] :=
  have copied := copy_of_reached reached_capitalized []
  ⟨reached_capitalized, copied.1, copied.2.1, rfl, rfl⟩

end Bindings

end TemplateEngine
