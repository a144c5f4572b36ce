import TemplateEngine.Proofs.Veils
/-!
Computations that leave hidden cells alone. A computation on values that refer to no hidden cell
gives such values again, and changes no frozen cell; nor does it change units, the kind of a cell,
or what a class is besides its members.
-/
namespace TemplateEngine

/-- What stays of a cell whose content may change: its kind, and of an instance its class and what
it is built on. -/
def Cell.shape : Cell → Cell
  | .list _ => .list []
  | .deque _ => .deque []
  | .array code _ => .array code []
  | .dict fluent _ => .dict fluent []
  | .bindings _ => .bindings .empty
  | .stream kind _ => .stream kind []
  | .object cls _ base => .object cls [] base
  | c => c

namespace World

/-- What a computation leaves of a world. -/
structure Kept (V : Veil) (w w' : World) : Prop where
  size : w.cells.size ≤ w'.cells.size
  frozen : ∀ i ∈ V.frozen, w'.cell? i = w.cell? i
  shape : ∀ i c, w.cell? i = some c → ∃ c', w'.cell? i = some c' ∧ c'.shape = c.shape
  classes : ∀ i info, w.class? i = some info →
    ∃ members, w'.class? i = some { info with members := members }
  forest : w'.forest = w.forest
  unitClasses : w'.unitClasses = w.unitClasses
  unitNames : w'.unitNames = w.unitNames
  named : w'.named = w.named
  sealed_ : w'.Sealed V

namespace Kept

variable {V : Veil} {w w' w'' : World}

theorem refl (hw : w.Sealed V) : Kept V w w where
  size := Nat.le_refl _
  frozen _ _ := rfl
  shape _ c h := ⟨c, h, rfl⟩
  classes _ info h := ⟨info.members, h⟩
  forest := rfl
  unitClasses := rfl
  unitNames := rfl
  named := rfl
  sealed_ := hw

theorem trans (h : Kept V w w') (h' : Kept V w' w'') : Kept V w w'' where
  size := Nat.le_trans h.size h'.size
  frozen i hi := (h'.frozen i hi).trans (h.frozen i hi)
  shape i c hc := by
    obtain ⟨c', hc', hs⟩ := h.shape i c hc
    obtain ⟨c'', hc'', hs'⟩ := h'.shape i c' hc'
    exact ⟨c'', hc'', hs'.trans hs⟩
  classes i info hinfo := by
    obtain ⟨members, hm⟩ := h.classes i info hinfo
    obtain ⟨members', hm'⟩ := h'.classes i _ hm
    exact ⟨members', hm'⟩
  forest := h'.forest.trans h.forest
  unitClasses := h'.unitClasses.trans h.unitClasses
  unitNames := h'.unitNames.trans h.unitNames
  named := h'.named.trans h.named
  sealed_ := h'.sealed_

theorem region_subset (h : Kept V w w') : V.region w ⊆ V.region w' :=
  fun _ hi => ⟨Nat.lt_of_lt_of_le hi.1 h.size, hi.2⟩

/-- What refers to no hidden cell still refers to none. -/
theorem within {α : Type} [Referring α] {a : α} (h : Kept V w w')
    (ha : Within (V.region w) a) : Within (V.region w') a :=
  Referring.mono h.region_subset ha

/-- Tags and the log play no part. -/
theorem of_same (hw : w.Sealed V) (cells : w'.cells = w.cells) (classes : w'.classes = w.classes)
    (forest : w'.forest = w.forest) (unitClasses : w'.unitClasses = w.unitClasses)
    (unitNames : w'.unitNames = w.unitNames) (named : w'.named = w.named) : Kept V w w' := by
  have hcell : ∀ i, w'.cell? i = w.cell? i := fun i => by simp only [cell?, cells]
  have hclass : ∀ i, w'.class? i = w.class? i := fun i => by simp only [class?, classes]
  have hregion : V.region w' = V.region w := by simp only [Veil.region, cells]
  refine ⟨cells ▸ Nat.le_refl _, fun i _ => hcell i, fun i c h => ⟨c, (hcell i).trans h, rfl⟩,
    fun i info h => ⟨info.members, (hclass i).trans h⟩, forest, unitClasses, unitNames, named, ?_⟩
  constructor
  · intro i c h hc
    rw [hregion]
    exact hw.cells i c ((hcell i).symm.trans h) hc
  · intro i info h
    rw [hregion]
    exact hw.classes i info ((hclass i).symm.trans h)
  · rw [hregion, named]
    exact hw.named
  · rw [cells]
    exact hw.inBounds
  · rw [hregion]
    exact hw.emptyTuple

theorem region_withCell (c : Cell) : V.region w ⊆ V.region (w.withCell c) :=
  fun _ hi => ⟨by simpa [withCell] using Nat.lt_succ_of_lt hi.1, hi.2⟩

/-- A new cell is no hidden one. -/
theorem size_mem_region (hw : w.Sealed V) (c : Cell) : w.cells.size ∈ V.region (w.withCell c) :=
  ⟨by simp [withCell], fun h => Nat.lt_irrefl _ (hw.inBounds _ h)⟩

theorem withCell {c : Cell} (hw : w.Sealed V) (hc : Within (V.region w) c) :
    Kept V w (w.withCell c) where
  size := by simp [World.withCell]
  frozen i hi := by
    obtain ⟨d, hd⟩ : ∃ d, w.cell? i = some d :=
      ⟨_, Array.getElem?_eq_getElem (hw.inBounds i (V.frozen_subset hi))⟩
    rw [cell?_withCell_of_cell? hd, hd]
  shape i d hd := ⟨d, cell?_withCell_of_cell? hd c, rfl⟩
  classes i info h := ⟨info.members, h⟩
  forest := rfl
  unitClasses := rfl
  unitNames := rfl
  named := rfl
  sealed_ := by
    have hsub := region_withCell (V := V) (w := w) c
    refine ⟨fun i d hd hbase => ?_, fun i info h => Referring.mono hsub (hw.classes i info h),
      fun e he => Referring.mono hsub (hw.named e he), fun i hi => ?_, hsub hw.emptyTuple⟩
    · rcases cell?_withCell w c i with h | ⟨-, h⟩
      · exact Referring.mono hsub (hw.cells i d (h.symm.trans hd) hbase)
      · obtain rfl : c = d := Option.some.inj (h.symm.trans hd)
        exact Referring.mono hsub hc
    · exact Nat.lt_of_lt_of_le (hw.inBounds i hi) (by simp [World.withCell])

theorem rewriteCell {i : Nat} {c d : Cell} (hw : w.Sealed V) (hc : w.cell? i = some c)
    (hi : i ∉ V.frozen) (hshape : d.shape = c.shape) (hd : Within (V.region w) d) :
    Kept V w (w.rewriteCell i d) where
  size := by simp [World.rewriteCell]
  frozen j hj := cell?_rewriteCell_of_ne (by rintro rfl; exact hi hj) d
  shape j c' hc' := by
    by_cases h : j = i
    · subst h
      obtain rfl : c = c' := Option.some.inj (hc.symm.trans hc')
      exact ⟨d, cell?_rewriteCell_self hc d, hshape⟩
    · exact ⟨c', (cell?_rewriteCell_of_ne h d).trans hc', rfl⟩
  classes j info h := ⟨info.members, h⟩
  forest := rfl
  unitClasses := rfl
  unitNames := rfl
  named := rfl
  sealed_ := by
    have hregion : V.region (w.rewriteCell i d) = V.region w := by
      simp [Veil.region, World.rewriteCell]
    refine ⟨fun j c' hc' hbase => ?_, ?_, ?_, ?_, ?_⟩
    · rw [hregion]
      by_cases h : j = i
      · subst h
        obtain rfl : d = c' := Option.some.inj ((cell?_rewriteCell_self hc d).symm.trans hc')
        exact hd
      · exact hw.cells j c' ((cell?_rewriteCell_of_ne h d).symm.trans hc') hbase
    · rw [hregion]
      exact hw.classes
    · rw [hregion]
      exact hw.named
    · simpa [World.rewriteCell] using hw.inBounds
    · rw [hregion]
      exact hw.emptyTuple

theorem addClass {info : ClassInfo} (hw : w.Sealed V) (h : Within (V.region w) info) :
    Kept V w { w with classes := w.classes.push info } where
  size := Nat.le_refl _
  frozen _ _ := rfl
  shape _ c hc := ⟨c, hc, rfl⟩
  classes i old hold := by
    refine ⟨old.members, ?_⟩
    have hlt : i < w.classes.size := (Array.getElem?_eq_some_iff.mp hold).1
    simpa [class?, Array.getElem?_push, Nat.ne_of_lt hlt] using hold
  forest := rfl
  unitClasses := rfl
  unitNames := rfl
  named := rfl
  sealed_ := by
    refine ⟨hw.cells, fun i old hold => ?_, hw.named, hw.inBounds, hw.emptyTuple⟩
    simp only [class?, Array.getElem?_push] at hold
    split at hold
    · obtain rfl := Option.some.inj hold
      exact h
    · exact hw.classes i old hold

theorem setMember {k : Nat} {name : String} {x : Value} (hw : w.Sealed V)
    (hx : Within (V.region w) x) :
    Kept V w { w with classes := w.classes.modify k fun info =>
      { info with members := info.members.insert name (.constant x) } } where
  size := Nat.le_refl _
  frozen _ _ := rfl
  shape _ c hc := ⟨c, hc, rfl⟩
  classes i info hinfo := by
    have hget : w.classes[i]? = some info := hinfo
    by_cases h : k = i
    · exact ⟨_, by simp [class?, Array.getElem?_modify, h, hget]; rfl⟩
    · exact ⟨info.members, by simp [class?, Array.getElem?_modify, h, hget]⟩
  forest := rfl
  unitClasses := rfl
  unitNames := rfl
  named := rfl
  sealed_ := by
    refine ⟨hw.cells, fun i info hinfo => ?_, hw.named, hw.inBounds, hw.emptyTuple⟩
    simp only [class?, Array.getElem?_modify] at hinfo
    split at hinfo
    · obtain ⟨old, hold, rfl⟩ := Option.map_eq_some_iff.mp hinfo
      have hwithin := hw.classes i old hold
      refine ⟨fun e he => ?_, hwithin.2⟩
      rcases Table.mem_of_mem_insert he with rfl | he
      · exact hx
      · exact hwithin.1 e he
    · exact hw.classes i info hinfo

end Kept

end World

/-- A computation leaves hidden cells alone. -/
def Spares {α : Type} [Referring α] (V : Veil) (w : World) (x : M α) : Prop :=
  w.Sealed V → World.Kept V w (outcome x w).2 ∧
    Within (V.region (outcome x w).2) (outcome x w).1

section

variable {V : Veil} {w : World} {α β : Type} [Referring α] [Referring β]

theorem Spares.of_sealed {x : M α} (h : w.Sealed V → Spares V w x) : Spares V w x :=
  fun hw => h hw hw

theorem spares_pure {a : α} (ha : Within (V.region w) a) : Spares V w (pure a) :=
  fun hw => ⟨.refl hw, (within_ok a).mpr ha⟩

theorem spares_fail (f : Fault) : Spares V w (fail f : M α) :=
  fun hw => ⟨.refl hw, within_error f⟩

theorem Spares.bind {x : M α} {f : α → M β} (hx : Spares V w x)
    (hf : ∀ w' a, World.Kept V w w' → Within (V.region w') a → Spares V w' (f a)) :
    Spares V w (x >>= f) := by
  intro hw
  obtain ⟨hkept, hresult⟩ := hx hw
  rw [outcome_bind]
  rcases houtcome : outcome x w with ⟨e | a, w'⟩
  · rw [houtcome] at hkept
    exact ⟨hkept, within_error e⟩
  · rw [houtcome] at hkept hresult
    obtain ⟨hkept', hresult'⟩ := hf w' a hkept ((within_ok a).mp hresult) hkept.sealed_
    exact ⟨hkept.trans hkept', hresult'⟩

theorem spares_get {f : World → M β} (h : Spares V w (f w)) : Spares V w (get >>= f) := by
  intro hw
  rw [outcome_get_bind]
  exact h hw

theorem Spares.map {x : M α} {g : α → β} (hx : Spares V w x)
    (hg : ∀ A a, Within A a → Within A (g a)) : Spares V w (g <$> x) :=
  hx.bind fun _ a _ ha => spares_pure (hg _ a ha)

theorem spares_some {x : M α} (hx : Spares V w x) : Spares V w (some <$> x) :=
  hx.map fun _ a ha => (within_some a).mpr ha

theorem spares_liftResult {r : Except Fault α} (hr : Within (V.region w) r) :
    Spares V w (liftResult r) :=
  fun hw => ⟨.refl hw, hr⟩

theorem Spares.attempt {x : M α} (hx : Spares V w x) : Spares V w (attempt x) := by
  intro hw
  obtain ⟨hkept, hresult⟩ := hx hw
  rw [outcome_attempt]
  exact ⟨hkept, (within_ok _).mpr hresult⟩

theorem spares_freshTag : Spares V w freshTag :=
  fun hw => ⟨.of_same hw rfl rfl rfl rfl rfl rfl, (within_ok _).mpr trivial⟩

theorem spares_report (level : Severity) (text : String) (cause : Option String) :
    Spares V w (report level text cause) :=
  fun hw => ⟨.of_same hw rfl rfl rfl rfl rfl rfl, (within_ok _).mpr trivial⟩

theorem spares_alloc {c : Cell} (hc : Within (V.region w) c) : Spares V w (alloc c) :=
  fun hw => ⟨.withCell hw hc, (within_ok _).mpr (World.Kept.size_mem_region hw c)⟩

theorem spares_setCell {i : Nat} {c d : Cell} (hc : w.cell? i = some c) (hi : i ∉ V.frozen)
    (hshape : d.shape = c.shape) (hd : Within (V.region w) d) : Spares V w (setCell i d) :=
  fun hw => ⟨.rewriteCell hw hc hi hshape hd, (within_ok _).mpr trivial⟩

end

end TemplateEngine
