import TemplateEngine.Proofs.ScopeCells
/-!
What is a mapping: a cell with entries, or a value that shows another mapping. A new cell leaves the
mappings of a world as they are.
-/
namespace TemplateEngine

namespace World

variable {w : World}

/-- The cell with the entries of a mapping. -/
def store? (w : World) : Value → Option Nat
  | .readOnly _ target => w.store? target
  | v =>
    match w.base v with
    | .ref i => some i
    | _ => none

theorem store?_of_base {v : Value} {i : Nat} (h : w.base v = .ref i) : w.store? v = some i := by
  rcases ref_or_member_of_base h with ⟨j, rfl⟩ | ⟨e, k, rfl⟩ <;> simp [store?, h]

/-- A mapping shows other mappings, or is built on a cell that is one. -/
theorem shape_of_mapping {v : Value} {entries : List (Value × Value)}
    (h : w.mapping? v = some entries) :
    (∃ tag target, v = .readOnly tag target) ∨ (∃ owner, v = .subUnits owner) ∨
      ∃ i, w.base v = .ref i ∧ ((∃ fluent found, w.cell? i = some (.dict fluent found)) ∨
        ∃ scope, w.cell? i = some (.bindings scope)) := by
  fun_cases World.mapping? w v with
  | case1 tag target => exact Or.inl ⟨tag, target, rfl⟩
  | case2 owner => exact Or.inr (Or.inl ⟨owner, rfl⟩)
  | case3 v hreadOnly hsub fluent found hcell =>
    obtain ⟨i, hbase, hi⟩ := base_of_baseCell? hcell
    exact Or.inr (Or.inr ⟨i, hbase, Or.inl ⟨fluent, found, hi⟩⟩)
  | case4 v hreadOnly hsub scope hcell =>
    obtain ⟨i, hbase, hi⟩ := base_of_baseCell? hcell
    exact Or.inr (Or.inr ⟨i, hbase, Or.inr ⟨scope, hi⟩⟩)
  | case5 v hreadOnly hsub hdict hbindings =>
    rw [mapping?.eq_3 _ _ hreadOnly hsub] at h
    split at h <;> simp_all

theorem lt_size_of_baseCell? {v : Value} {c : Cell} {i : Nat} (h : w.baseCell? v = some c)
    (hi : w.store? v = some i) : i < w.cells.size := by
  obtain ⟨j, hbase, hj⟩ := base_of_baseCell? h
  obtain rfl : j = i := Option.some.inj ((store?_of_base hbase).symm.trans hi)
  exact lt_size_of_cell? hj

theorem lt_size_of_mapping? {v : Value} {entries : List (Value × Value)} {i : Nat}
    (h : w.mapping? v = some entries) (hi : w.store? v = some i) : i < w.cells.size := by
  fun_induction World.mapping? w v with
  | case1 tag target ih => exact ih h hi
  | case2 => simp [store?, base] at hi
  | case3 v hreadOnly hsub fluent found hcell => exact lt_size_of_baseCell? hcell hi
  | case4 v hreadOnly hsub scope hcell => exact lt_size_of_baseCell? hcell hi
  | case5 => simp at h

theorem size?_of_mapping {v : Value} {entries : List (Value × Value)}
    (h : w.mapping? v = some entries) : w.size? v = some entries.length := by
  rcases shape_of_mapping h with ⟨tag, target, rfl⟩ | ⟨owner, rfl⟩ | ⟨i, hbase, hcell⟩
  · simp [size?, sequence?, base, h]
  · simp [size?, sequence?, base, h]
  · have hsequence : w.sequence? v = none := by
      rcases ref_or_member_of_base hbase with ⟨j, rfl⟩ | ⟨e, k, rfl⟩ <;>
        rcases hcell with ⟨fluent, found, hi⟩ | ⟨scope, hi⟩ <;> simp [sequence?, hbase, hi]
    rcases ref_or_member_of_base hbase with ⟨j, rfl⟩ | ⟨e, k, rfl⟩ <;>
      simp [size?, hsequence, h]

theorem outcome_isTruthy_of_mapping {v : Value} {entries : List (Value × Value)}
    (h : w.mapping? v = some entries) :
    outcome (isTruthy v) w = (.ok (entries.length != 0), w) := by
  have hsize := size?_of_mapping h
  rcases shape_of_mapping h with ⟨tag, target, rfl⟩ | ⟨owner, rfl⟩ | ⟨i, hbase, -⟩
  · simp [isTruthy, base, hsize]
  · simp [isTruthy, base, hsize]
  · simp [isTruthy, hbase, hsize]

theorem text?_withCell (w : World) (s : Scope Value Value) (v : Value) :
    (w.withCell (.bindings s)).text? v = w.text? v := by
  simp only [text?, base_withCell w (c := .bindings s) rfl]

theorem baseCell?_withCell (s : Scope Value Value) {v : Value} {c : Cell}
    (h : w.baseCell? v = some c) : (w.withCell (.bindings s)).baseCell? v = some c := by
  unfold baseCell? at h ⊢
  rw [base_withCell w (c := .bindings s) rfl]
  split at h
  · exact cell?_withCell_of_cell? h _
  · simp at h

theorem mapping?_withCell (s : Scope Value Value) (v : Value) {entries : List (Value × Value)}
    (h : w.mapping? v = some entries) : (w.withCell (.bindings s)).mapping? v = some entries := by
  fun_induction World.mapping? w v with
  | case1 tag target ih => simpa only [mapping?] using ih h
  | case2 owner => exact h
  | case3 v hreadOnly hsub fluent found hcell =>
    obtain rfl := Option.some.inj h
    rw [mapping?.eq_3 _ _ hreadOnly hsub, baseCell?_withCell s hcell]
  | case4 v hreadOnly hsub scope hcell =>
    obtain rfl := Option.some.inj h
    rw [mapping?.eq_3 _ _ hreadOnly hsub, baseCell?_withCell s hcell]
  | case5 => simp at h

/-- A mapping that is no scope does not become one. -/
theorem baseCell?_withCell_ne_bindings {v : Value} {entries : List (Value × Value)}
    (h : w.mapping? v = some entries)
    (hv : ∀ s : Scope Value Value, w.baseCell? v = some (.bindings s) → False)
    (s s' : Scope Value Value) : (w.withCell (.bindings s)).baseCell? v ≠ some (.bindings s') := by
  rcases shape_of_mapping h with ⟨tag, target, rfl⟩ | ⟨owner, rfl⟩ | ⟨i, hbase, hcell⟩
  · simp [baseCell?, base]
  · simp [baseCell?, base]
  · rcases hcell with ⟨fluent, found, hi⟩ | ⟨scope, hi⟩
    · have hdict : w.baseCell? v = some (.dict fluent found) := by simp [baseCell?, hbase, hi]
      rw [baseCell?_withCell s hdict]
      simp
    · exact absurd (by simp [baseCell?, hbase, hi]) (hv scope)

end World

end TemplateEngine
