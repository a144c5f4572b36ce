import TemplateEngine.Proofs.Settled
import TemplateEngine.Proofs.Spares.Attributes
/-!
Hiding more cells, and bringing them to light again: a new cell is referred to by nothing, and what
was hidden may be shown once it is no longer needed.
-/
namespace TemplateEngine

namespace Veil

/-- The veil that hides more cells. -/
def hide (V : Veil) (B : Set Nat) : Veil :=
  ⟨B ∪ V.hidden, V.frozen, V.buried, fun _ h => Or.inr (V.frozen_subset h), V.buried_subset⟩

/-- The veil under which all hidden cells stay as they are. -/
def freeze (V : Veil) : Veil :=
  ⟨V.hidden, V.hidden, V.buried, fun _ h => h, fun _ h => V.frozen_subset (V.buried_subset h)⟩

/-- The veil over all cells of a world outside of a set; only some of them are looked at. -/
def outside (w : World) (A opened : Set Nat) : Veil :=
  ⟨{i | i < w.cells.size ∧ i ∉ A}, {i | i < w.cells.size ∧ i ∉ A},
    {i | (i < w.cells.size ∧ i ∉ A) ∧ i ∉ opened}, fun _ h => h, fun _ h => h.1⟩

/-- One veil hides and freezes at least as much as another, and buries no more. -/
structure Covers (V' V : Veil) : Prop where
  hidden : V.hidden ⊆ V'.hidden
  frozen : V.frozen ⊆ V'.frozen
  buried : V'.buried ⊆ V.buried

variable {V V' : Veil}

theorem covers_hide (V : Veil) (B : Set Nat) : (V.hide B).Covers V :=
  ⟨fun _ h => Or.inr h, fun _ h => h, fun _ h => h⟩

theorem covers_freeze (V : Veil) : V.freeze.Covers V :=
  ⟨fun _ h => h, V.frozen_subset, fun _ h => h⟩

theorem Covers.trans {V'' : Veil} (h : V''.Covers V') (h' : V'.Covers V) : V''.Covers V :=
  ⟨fun _ hi => h.hidden (h'.hidden hi), fun _ hi => h.frozen (h'.frozen hi),
    fun _ hi => h'.buried (h.buried hi)⟩

theorem Covers.region_subset (h : V'.Covers V) (w : World) : V'.region w ⊆ V.region w :=
  fun _ hi => ⟨hi.1, fun hhidden => hi.2 (h.hidden hhidden)⟩

end Veil

namespace World

/-- A set of cells that holds all that its cells refer to, and all that classes and named values
do. -/
structure Closed (w : World) (A : Set Nat) : Prop where
  cells : ∀ i ∈ A, ∀ c, w.cell? i = some c → Within A c
  classes : ∀ i info, w.class? i = some info → Within A info
  named : ∀ e ∈ w.named, Within A e.2
  inBounds : ∀ i ∈ A, i < w.cells.size
  emptyTuple : 0 ∈ A

/-- The entries of a mapping refer to cells of a set only. -/
def Yields (w : World) (A : Set Nat) (v : Value) : Prop :=
  ∀ i c, w.store? v = some i → w.cell? i = some c → Within A c

variable {V V' : Veil} {w w' : World} {i : Nat} {A B : Set Nat}

theorem Closed.inter (hA : w.Closed A) (hB : w.Closed B) : w.Closed (A ∩ B) where
  cells i hi c hc :=
    Referring.meet (fun _ h => h) (hA.cells i hi.1 c hc) (hB.cells i hi.2 c hc)
  classes i info h := Referring.meet (fun _ h => h) (hA.classes i info h) (hB.classes i info h)
  named e he := Referring.meet (fun _ h => h) (hA.named e he) (hB.named e he)
  inBounds i hi := hA.inBounds i hi.1
  emptyTuple := ⟨hA.emptyTuple, hB.emptyTuple⟩

theorem Yields.inter {v : Value} (hA : w.Yields A v) (hB : w.Yields B v) :
    w.Yields (A ∩ B) v :=
  fun i c hi hc => Referring.meet (fun _ h => h) (hA i c hi hc) (hB i c hi hc)

theorem Sealed.closed (hw : w.Sealed V) : w.Closed (V.region w) where
  cells _ hi _ hc := hw.visible hi hc
  classes := hw.classes
  named := hw.named
  inBounds _ hi := hi.1
  emptyTuple := hw.emptyTuple

theorem Sealed.yields (hw : w.Sealed V) {v : Value} (hv : w.Open V v) :
    w.Yields (V.region w) v :=
  fun i c hi hc => hw.cells i c hc (hv i hi)

theorem Closed.subset_region (hA : w.Closed A) (opened : Set Nat) :
    A ⊆ (Veil.outside w A opened).region w :=
  fun i hi => ⟨hA.inBounds i hi, fun h => h.2 hi⟩

/-- All cells outside of a closed set may be hidden. -/
theorem Closed.sealed_ (hA : w.Closed A) (opened : Set Nat)
    (hopened : ∀ i ∈ opened, ∀ c, w.cell? i = some c → Within A c) :
    w.Sealed (.outside w A opened) := by
  have hsub := hA.subset_region opened
  refine ⟨fun i c hc hburied => ?_, fun i info h => ?_, fun e he => ?_, fun i hi => hi.1, ?_⟩
  · refine Referring.mono hsub ?_
    by_cases hi : i ∈ A
    · exact hA.cells i hi c hc
    · refine hopened i (Classical.not_not.mp fun h => hburied ⟨⟨?_, hi⟩, h⟩) c hc
      exact lt_size_of_cell? hc
  · exact Referring.mono hsub (hA.classes i info h)
  · exact Referring.mono hsub (hA.named e he)
  · exact hsub hA.emptyTuple

theorem region_subset_hide (V : Veil) (w : World) (c : Cell) :
    V.region w ⊆ (V.hide {w.cells.size}).region (w.withCell c) := by
  intro j hj
  refine ⟨by simpa [withCell] using Nat.lt_succ_of_lt hj.1, ?_⟩
  rintro (rfl | h)
  · exact Nat.lt_irrefl _ hj.1
  · exact hj.2 h

/-- Nothing refers to a new cell. -/
theorem Sealed.hide {c : Cell} (hw : w.Sealed V) (hc : Within (V.region w) c) :
    (w.withCell c).Sealed (V.hide {w.cells.size}) := by
  have hsub := region_subset_hide V w c
  refine ⟨fun j d hd hburied => ?_, fun j info h => Referring.mono hsub (hw.classes j info h),
    fun e he => Referring.mono hsub (hw.named e he), ?_, hsub hw.emptyTuple⟩
  · rcases cell?_withCell w c j with h | ⟨-, h⟩
    · exact Referring.mono hsub (hw.cells j d (h.symm.trans hd) hburied)
    · obtain rfl : c = d := Option.some.inj (h.symm.trans hd)
      exact Referring.mono hsub hc
  · rintro j (rfl | hj)
    · simp [withCell]
    · exact Nat.lt_of_lt_of_le (hw.inBounds j hj) (by simp [withCell])

/-- Hidden cells may be shown again, unless they are buried. -/
theorem Sealed.reveal (hw : w.Sealed V') (h : V'.Covers V) : w.Sealed V := by
  have hsub := h.region_subset w
  refine ⟨fun j c hc hj => Referring.mono hsub (hw.cells j c hc fun hb => hj (h.buried hb)),
    fun j info hinfo => Referring.mono hsub (hw.classes j info hinfo),
    fun e he => Referring.mono hsub (hw.named e he), fun j hj => hw.inBounds j (h.hidden hj),
    hsub hw.emptyTuple⟩

theorem Sealed.freeze (hw : w.Sealed V) : w.Sealed V.freeze :=
  ⟨hw.cells, hw.classes, hw.named, hw.inBounds, hw.emptyTuple⟩

theorem Kept.reveal (h : Kept V' w w') (hV : V'.Covers V) : Kept V w w' :=
  { h with
    frozen := fun i hi => h.frozen i (hV.frozen hi)
    sealed_ := h.sealed_.reveal hV }

theorem within_named? {A : Set Nat} {given : List (Value × Value)} :
    ∀ {entries : List (Name Value × Value)}, Within A given → w.named? given = some entries →
      ∀ e ∈ entries, Within A e.1.given ∧ Within A e.2 := by
  induction given with
  | nil =>
    intro entries _ h
    obtain rfl : entries = [] := by simpa [named?, eq_comm] using h
    simp
  | cons e rest ih =>
    obtain ⟨key, x⟩ := e
    intro entries hgiven h
    rw [within_cons] at hgiven
    cases ht : w.text? key with
    | none => simp [named?, ht] at h
    | some text =>
      cases hrest : w.named? rest with
      | none => simp [named?, ht, hrest] at h
      | some tail =>
        obtain rfl : (⟨text, key⟩, x) :: tail = entries := by simpa [named?, ht, hrest] using h
        rw [List.forall_mem_cons]
        exact ⟨hgiven.1, ih hgiven.2 hrest⟩

/-- What new scopes are made of refers to no hidden cell, also if it is in a hidden one itself. -/
theorem Sealed.starts? (hw : w.Sealed V) {v : Value} {entries : List (Name Value × Value)}
    (hv : w.Open V v) (h : w.starts? v = some entries) :
    ∀ e ∈ entries, Within (V.region w) e.1.given ∧ Within (V.region w) e.2 := by
  fun_cases World.starts? w v with
  | case1 =>
    obtain rfl : entries = [] := by simpa [World.starts?, eq_comm] using h
    simp
  | case2 v hnull scope hscope =>
    obtain rfl : scope.stored = entries := by simpa [World.starts?, hscope] using h
    exact Scope.within_stored (within_bindings.mp (hw.baseCell? hv hscope))
  | case3 v hnull hnotScope =>
    obtain ⟨mapped, hmapped, hnamed⟩ := starts?_of_mapping hnull hnotScope h
    exact within_named? (hw.mapping? hv mapped hmapped) hnamed

end World

theorem Scope.within_ofEntries {A : Set Nat} {entries : List (Name Value × Value)}
    (h : ∀ e ∈ entries, Within A e.1.given ∧ Within A e.2) : Within A (ofEntries entries) :=
  within_insertAll within_empty h

/-- A value from which a new scope can be made, now and later: its cell is frozen, and not buried. -/
structure Lasting (V : Veil) (w : World) (v : Value) (entries : List (Name Value × Value)) :
    Prop where
  starts : w.starts? v = some entries
  frozen : ∀ i, w.store? v = some i → i ∈ V.frozen
  isOpen : w.Open V v

theorem Lasting.kept {V V₁ V' : Veil} {w w' : World} {v : Value}
    {entries : List (Name Value × Value)} (hv : Lasting V w v entries) (h : World.Kept V₁ w w')
    (hstays : V.frozen ⊆ V₁.frozen) (hfrozen : V.frozen ⊆ V'.frozen)
    (hburied : V'.buried ⊆ V.buried) : Lasting V' w' v entries := by
  have hstore := h.store? hv.starts
  refine ⟨h.starts? hv.starts fun i hi => hstays (hv.frozen i hi), fun i hi => ?_, fun i hi => ?_⟩
  · exact hfrozen (hv.frozen i (hstore.symm.trans hi))
  · exact fun h => hv.isOpen i (hstore.symm.trans hi) (hburied h)

/-- What may become the variables of a new scope: entries that stay, or a value that refers to no
hidden cell. -/
def Supplied (V : Veil) (w : World) (v : Value) : Prop :=
  (∃ entries, Lasting V w v entries) ∨ Within (V.region w) v

theorem Supplied.kept {V V₁ V' : Veil} {w w' : World} {v : Value} (hv : Supplied V w v)
    (h : World.Kept V₁ w w') (hstays : V.frozen ⊆ V₁.frozen) (hfrozen : V.frozen ⊆ V'.frozen)
    (hburied : V'.buried ⊆ V.buried) (hregion : V.region w ⊆ V'.region w') : Supplied V' w' v := by
  cases hv with
  | inl hv =>
    obtain ⟨entries, hv⟩ := hv
    exact Or.inl ⟨entries, hv.kept h hstays hfrozen hburied⟩
  | inr hv => exact Or.inr (Referring.mono hregion hv)

/-- A new scope is referred to by nothing. -/
theorem Bindings.make_apart {V : Veil} {w : World} {v : Value} (hw : w.Sealed V)
    (hv : Supplied V w v) :
    World.Kept V w (outcome (make Dispatch.full v) w).2 ∧
      ∀ b, (outcome (make Dispatch.full v) w).1 = .ok b → b = .ref w.cells.size ∧
        (outcome (make Dispatch.full v) w).2.HoldsScope w.cells.size ∧
        (outcome (make Dispatch.full v) w).2.Sealed (V.hide {w.cells.size}) := by
  rcases hv with ⟨entries, hv⟩ | hv
  · have hentries :=
      World.within_bindings.mpr (Scope.within_ofEntries (hw.starts? hv.isOpen hv.starts))
    rw [outcome_make hv.starts]
    refine ⟨.withCell hw hentries, fun b hb => ⟨(Except.ok.inj hb).symm, ?_, hw.hide hentries⟩⟩
    exact ⟨_, World.cell?_withCell_self w _⟩
  · have hempty : Within (V.region w) (Cell.bindings .empty) :=
      World.within_bindings.mpr Scope.within_empty
    have hnew : (w.withCell (.bindings .empty)).HoldsScope w.cells.size :=
      ⟨.empty, World.cell?_withCell_self w _⟩
    have hfree : w.cells.size ∉ (V.hide {w.cells.size}).frozen := fun h =>
      Nat.lt_irrefl _ (hw.inBounds _ (V.frozen_subset h))
    have halloc : outcome (alloc (.bindings .empty)) w =
        (.ok (.ref w.cells.size), w.withCell (.bindings .empty)) := rfl
    obtain ⟨hkept, -⟩ := spares_fill (Dispatch.sparing_full _) hnew hfree
      (Referring.mono (World.region_subset_hide V w _) hv) (hw.hide hempty)
    rw [make, outcome_bind_ok halloc, outcome_bind]
    have hkept' : World.Kept V w _ := (World.Kept.withCell hw hempty).trans (hkept.reveal (V.covers_hide _))
    rcases hfill : outcome (fill Dispatch.full (.ref w.cells.size) v)
        (w.withCell (.bindings .empty)) with ⟨e | _, w'⟩
    · rw [hfill] at hkept'
      exact ⟨hkept', fun b hb => by simp at hb⟩
    · rw [hfill] at hkept hkept'
      refine ⟨hkept', fun b hb => ⟨(Except.ok.inj hb).symm, hkept.holdsScope hnew, hkept.sealed_⟩⟩

end TemplateEngine
