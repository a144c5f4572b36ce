import TemplateEngine.Proofs.Outcome
import TemplateEngine.Class.Hierarchy
/-!
Rewriting a cell of a world and adding one. What a value is built on depends on the cells of
instances only.
-/
namespace TemplateEngine

/-- What an instance in a cell is built on, if it extends a built-in class. -/
def Cell.base? : Cell → Option Value
  | .object _ _ base => base
  | _ => none

namespace World

variable {w : World} {i : Nat} {c : Cell}

/-- The world with another content in a cell. -/
def rewriteCell (w : World) (i : Nat) (c : Cell) : World :=
  { w with cells := w.cells.setIfInBounds i c }

/-- The world with one more cell. -/
def withCell (w : World) (c : Cell) : World := { w with cells := w.cells.push c }

/-- The world when some tags have been given to new objects. -/
def mark (w : World) (tags : Nat) : World := { w with nextTag := w.nextTag + tags }

theorem mark_mark (w : World) (m n : Nat) : (w.mark m).mark n = w.mark (m + n) := by
  simp [mark, Nat.add_assoc]

theorem lt_size_of_cell? (h : w.cell? i = some c) : i < w.cells.size :=
  (Array.getElem?_eq_some_iff.mp h).1

theorem cell?_rewriteCell_self (h : w.cell? i = some c) (c' : Cell) :
    (w.rewriteCell i c').cell? i = some c' := by
  simp [cell?, rewriteCell, lt_size_of_cell? h]

theorem cell?_rewriteCell_of_ne {j : Nat} (h : j ≠ i) (c : Cell) :
    (w.rewriteCell i c).cell? j = w.cell? j := by
  simp [cell?, rewriteCell, Ne.symm h]

/-- Writing a cell's own content changes nothing. -/
theorem rewriteCell_self (h : w.cell? i = some c) : w.rewriteCell i c = w := by
  have kept : w.cells.setIfInBounds i c = w.cells := by
    apply Array.ext_getElem?
    intro j
    by_cases same : i = j
    · subst same
      simp [lt_size_of_cell? h, ← h, cell?]
    · simp [same]
  rw [rewriteCell, kept]

theorem cell?_withCell_self (w : World) (c : Cell) :
    (w.withCell c).cell? w.cells.size = some c := by
  simp [cell?, withCell]

theorem cell?_withCell (w : World) (c : Cell) (j : Nat) :
    (w.withCell c).cell? j = w.cell? j ∨ w.cell? j = none ∧ (w.withCell c).cell? j = some c := by
  by_cases hj : j = w.cells.size
  · subst hj
    exact Or.inr ⟨by simp [cell?], cell?_withCell_self w c⟩
  · exact Or.inl (by simp [cell?, withCell, Array.getElem?_push, hj])

theorem cell?_withCell_of_cell? (h : w.cell? i = some c) (c' : Cell) :
    (w.withCell c').cell? i = some c := by
  have hlt := lt_size_of_cell? h
  have hne : i ≠ w.cells.size := Nat.ne_of_lt hlt
  simpa [cell?, withCell, Array.getElem?_push, hne] using h

theorem cell?_withCell_of_lt (h : i < w.cells.size) (c : Cell) :
    (w.withCell c).cell? i = w.cell? i :=
  (cell?_withCell_of_cell? (Array.getElem?_eq_getElem h) c).trans (Array.getElem?_eq_getElem h).symm

theorem base_ref (w : World) (i : Nat) :
    w.base (.ref i) = ((w.cell? i).bind Cell.base?).getD (.ref i) := by
  cases h : w.cell? i with
  | none => simp [base, h]
  | some c =>
    cases c with
    | object cls attributes b => cases b <;> simp [base, h, Cell.base?]
    | _ => simp [base, h, Cell.base?]

theorem base_rewriteCell (h : w.cell? i = some c) {d : Cell} (hd : d.base? = c.base?)
    (v : Value) : (w.rewriteCell i d).base v = w.base v := by
  cases v with
  | ref j =>
    rw [base_ref, base_ref]
    by_cases hj : j = i
    · subst hj
      rw [cell?_rewriteCell_self h, h, Option.bind_some, Option.bind_some, hd]
    · rw [cell?_rewriteCell_of_ne hj]
  | _ => rfl

theorem base_withCell (w : World) {c : Cell} (hc : c.base? = none) (v : Value) :
    (w.withCell c).base v = w.base v := by
  cases v with
  | ref j =>
    rw [base_ref, base_ref]
    rcases cell?_withCell w c j with hj | ⟨hj, hnew⟩
    · rw [hj]
    · rw [hj, hnew, Option.bind_some, hc, Option.bind_none]
  | _ => rfl

theorem base_of_baseCell? {v : Value} (h : w.baseCell? v = some c) :
    ∃ i, w.base v = .ref i ∧ w.cell? i = some c := by
  unfold baseCell? at h
  split at h
  · rename_i i hbase
    exact ⟨i, hbase, h⟩
  · simp at h

/-- A value that is built on a cell is a reference, or a member of an enumeration. -/
theorem ref_or_member_of_base {v : Value} (h : w.base v = .ref i) :
    (∃ j, v = .ref j) ∨ ∃ e k, v = .member e k := by
  cases v with
  | ref j => exact Or.inl ⟨j, rfl⟩
  | member e k => exact Or.inr ⟨e, k, rfl⟩
  | _ => simp [base] at h

end World

end TemplateEngine
