import TemplateEngine.Proofs.Cells
import TemplateEngine.Proofs.Scopes
import TemplateEngine.Bindings.Update
/-!
Cells that hold scopes. Rewriting one changes neither what a name is nor what it is called, and the
operations on scope values are those on the scopes in their cells.
-/
namespace TemplateEngine

namespace World

variable {w : World} {b : Nat} {s : Scope Value Value}

/-- The world with another scope in a cell. -/
def withScope (w : World) (b : Nat) (s : Scope Value Value) : World := w.rewriteCell b (.bindings s)

theorem cell?_withScope_self (h : w.cell? b = some (.bindings s)) (s' : Scope Value Value) :
    (w.withScope b s').cell? b = some (.bindings s') :=
  cell?_rewriteCell_self h _

theorem cell?_withScope_of_ne {i : Nat} (h : i ≠ b) (s' : Scope Value Value) :
    (w.withScope b s').cell? i = w.cell? i :=
  cell?_rewriteCell_of_ne h _

theorem base_ref_of_bindings (h : w.cell? b = some (.bindings s)) : w.base (.ref b) = .ref b := by
  simp [base, h]

theorem baseCell?_ref_of_bindings (h : w.cell? b = some (.bindings s)) :
    w.baseCell? (.ref b) = some (.bindings s) := by
  simp [baseCell?, base_ref_of_bindings h, h]

theorem base_withScope (h : w.cell? b = some (.bindings s)) (s' : Scope Value Value) (v : Value) :
    (w.withScope b s').base v = w.base v :=
  base_rewriteCell (d := .bindings s') h rfl v

theorem text?_withScope (h : w.cell? b = some (.bindings s)) (s' : Scope Value Value) (v : Value) :
    (w.withScope b s').text? v = w.text? v := by
  simp only [text?, base_withScope h]

theorem nameText_of_text {key : Value} {text : String} (h : w.text? key = some text) :
    w.nameText key = .ok text := by
  simp [nameText, h]

theorem nameText_of_not_text {key : Value} (h : w.text? key = none) :
    w.nameText key = .error (.nameNotText (w.typeName key)) := by
  simp [nameText, h]

theorem le_foldl_depth (cells : List Cell) (n : Nat) :
    n ≤ cells.foldl (fun n c => n + c.depth + 1) n := by
  induction cells generalizing n with
  | nil => exact Nat.le_refl n
  | cons c rest ih => exact Nat.le_trans (by omega) (ih (n + c.depth + 1))

theorem two_le_bulk (w : World) : 2 ≤ w.bulk := by
  rw [bulk, ← Array.foldl_toList]
  exact le_foldl_depth w.cells.toList 2

/-- A text can be displayed, also one of an own class and a member of a text enumeration. -/
theorem display_of_text {key : Value} {text : String} (h : w.text? key = some text) :
    ∃ shown, w.display key = .ok shown := by
  obtain ⟨n, hn⟩ : ∃ n, w.nesting key = n + 2 := ⟨w.nesting key - 2, by
    have := w.two_le_bulk
    unfold nesting
    omega⟩
  rw [display, hn]
  have hbase : w.base key = .text text := by
    unfold text? at h
    split at h
    · simp_all
    · simp at h
  cases key with
  | text s => exact ⟨_, rfl⟩
  | ref i =>
    cases hc : w.cell? i with
    | none => simp [base, hc] at hbase
    | some c =>
      cases c with
      | object cls attributes content =>
        cases content with
        | none => simp [base, hc] at hbase
        | some content =>
          simp only [base, hc] at hbase
          subst hbase
          cases hcls : w.class? cls with
          | none => exact ⟨_, by simp only [showWithin, hc, hcls]; rfl⟩
          | some info =>
            refine ⟨Text.quoted text, ?_⟩
            simp [showWithin, hc, hcls, baseCell?, base]
      | _ => simp [base, hc] at hbase
  | member e i =>
    cases hname : w.memberName? e i with
    | none => exact ⟨_, by simp only [showWithin, hname]; rfl⟩
    | some name =>
      have hvalue : name.value = .text text := by
        unfold memberName? at hname
        cases hcls : w.class? e with
        | none => simp [hcls] at hname
        | some info =>
          simp only [hcls, Option.bind_some] at hname
          simp only [base, hcls, hname] at hbase
          split at hbase <;> simp_all
      exact ⟨_, by simp only [showWithin, hname, hvalue]; rfl⟩
  | _ => simp [base] at hbase

end World

namespace Bindings

variable {w : World} {b : Nat} {s : Scope Value Value}

theorem outcome_scopeOf (h : w.cell? b = some (.bindings s)) :
    outcome (scopeOf (.ref b)) w = (.ok s, w) := by
  simp only [scopeOf, outcome_get_bind, World.baseCell?_ref_of_bindings h, outcome_pure]

theorem outcome_setScope (h : w.cell? b = some (.bindings s)) (s' : Scope Value Value) :
    outcome (setScope (.ref b) s') w = (.ok (), w.withScope b s') := by
  simp only [setScope, outcome_get_bind, World.base_ref_of_bindings h, outcome_setCell]
  rfl

theorem outcome_nameOf {key : Value} {text : String} (h : w.text? key = some text) :
    outcome (nameOf key) w = (.ok text, w) := by
  simp only [nameOf, outcome_get_bind, World.nameText_of_text h, outcome_liftResult]

theorem outcome_nameOf_refused {key : Value} (h : w.text? key = none) :
    outcome (nameOf key) w = (.error (.nameNotText (w.typeName key)), w) := by
  simp only [nameOf, outcome_get_bind, World.nameText_of_not_text h, outcome_liftResult]

theorem outcome_lookUp? (h : w.cell? b = some (.bindings s)) {key : Value} {text : String}
    (ht : w.text? key = some text) : outcome (lookUp? (.ref b) key) w = (.ok (s.get? text), w) := by
  simp only [lookUp?, outcome_bind, outcome_scopeOf h, outcome_nameOf ht, outcome_pure]

theorem outcome_lookUp?_refused (h : w.cell? b = some (.bindings s)) {key : Value}
    (ht : w.text? key = none) :
    outcome (lookUp? (.ref b) key) w = (.error (.nameNotText (w.typeName key)), w) := by
  simp only [lookUp?, outcome_bind, outcome_scopeOf h, outcome_nameOf_refused ht]

/-- A missing name is reported as it is displayed. -/
theorem outcome_missing {α : Type} {key : Value} {shown : String}
    (h : w.display key = .ok shown) :
    outcome (missing key : M α) w = (.error (.missingKey shown), w) := by
  simp only [missing, displayed, outcome_bind, outcome_get, outcome_liftResult, h, outcome_fail]

theorem outcome_write (h : w.cell? b = some (.bindings s)) {key : Value} {text : String}
    (ht : w.text? key = some text) (v : Value) :
    outcome (write (.ref b) key v) w = (.ok (), w.withScope b (s.insert ⟨text, key⟩ v)) := by
  simp only [write, outcome_bind, outcome_nameOf ht, outcome_scopeOf h, outcome_setScope h]

theorem outcome_write_refused {key : Value} (ht : w.text? key = none) (v : Value) :
    outcome (write (.ref b) key v) w = (.error (.nameNotText (w.typeName key)), w) := by
  simp only [write, outcome_bind, outcome_nameOf_refused ht]

theorem outcome_erase (h : w.cell? b = some (.bindings s)) {key v : Value} {text : String}
    (ht : w.text? key = some text) (hv : s.get? text = some v) :
    outcome (erase (.ref b) key) w = (.ok (), w.withScope b (s.erase text)) := by
  simp only [erase, outcome_bind, outcome_lookUp? h ht, hv, outcome_scopeOf h, outcome_nameOf ht,
    outcome_setScope h]

end Bindings

end TemplateEngine
