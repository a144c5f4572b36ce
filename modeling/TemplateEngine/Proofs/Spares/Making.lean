import TemplateEngine.Proofs.Spares.Construction
/-!
New scopes and the values of descriptions leave hidden cells alone.
-/
namespace TemplateEngine

variable {V : Veil} {w : World} {v : Value} {d : Dispatch}

theorem spares_alloc_bind {α : Type} [Referring α] {c : Cell} {f : Value → M α}
    (hc : Within (V.region w) c)
    (h : World.Kept V w (w.withCell c) → Spares V (w.withCell c) (f (.ref w.cells.size))) :
    Spares V w (alloc c >>= f) := by
  intro hw
  have hkept := World.Kept.withCell hw hc
  have halloc : outcome (alloc c) w = (.ok (.ref w.cells.size), w.withCell c) := rfl
  rw [outcome_bind_ok halloc]
  obtain ⟨hkept', hresult⟩ := h hkept hkept.sealed_
  exact ⟨hkept.trans hkept', hresult⟩

namespace Bindings

theorem spares_update (hd : d.Sparing V) {b : Nat} (hb : w.HoldsScope b) (hfree : b ∉ V.frozen)
    (hv : Within (V.region w) v) : Spares V w (update d (.ref b) v) := by
  refine .of_sealed fun hw => spares_get ?_
  split
  · exact spares_writeAll hb hfree (hw.mapping? (hw.open_of_within hv) _ ‹_›)
  · refine (spares_has hd hv "keys").bind fun w₁ has hw₁ _ => ?_
    split
    · refine (spares_ask hd (hw₁.within hv) "keys").bind fun w₂ keys hw₂ hkeys => ?_
      refine (spares_forEach hkeys fun w₃ key hw₃ hkey => ?_).bind fun _ _ _ _ => spares_pure trivial
      have hkept := (hw₁.trans hw₂).trans hw₃
      exact (spares_itemOf (hkept.within hv) key).bind fun w₄ x hw₄ hx =>
        spares_write ((hkept.trans hw₄).holdsScope hb) hfree (hw₄.within hkey) hx
    · refine (spares_forEach (hw₁.within hv) fun w₂ pair hw₂ hpair => ?_).bind
        fun _ _ _ _ => spares_pure trivial
      exact (spares_asPair hpair).bind fun w₃ e hw₃ he =>
        spares_write (((hw₁.trans hw₂).trans hw₃).holdsScope hb) hfree he.1 he.2

theorem spares_fill (hd : d.Sparing V) {b : Nat} (hb : w.HoldsScope b) (hfree : b ∉ V.frozen)
    (hv : Within (V.region w) v) : Spares V w (fill d (.ref b) v) := by
  refine .of_sealed fun hw => spares_get ?_
  split
  · have hs := World.within_bindings.mp (hw.baseCell? (hw.open_of_within hv) ‹_›)
    exact spares_setScope hb hfree (Scope.within_copy hs)
  · refine (spares_isTruthy v).bind fun w' truth hw' _ => ?_
    split
    · exact spares_update hd (hw'.holdsScope hb) hfree (hw'.within hv)
    · exact spares_pure trivial

theorem spares_ofEntries {entries : List (Value × Value)} (h : Within (V.region w) entries) :
    Spares V w (ofEntries entries) := by
  refine .of_sealed fun hw => spares_alloc_bind (World.within_bindings.mpr Scope.within_empty)
    fun hkept => ?_
  have hnew := World.Kept.size_mem_region hw (.bindings Scope.empty)
  have hb : (w.withCell (.bindings Scope.empty)).HoldsScope w.cells.size :=
    ⟨.empty, World.cell?_withCell_self w _⟩
  exact (spares_writeAll hb (V.not_frozen hnew) (hkept.within h)).bind fun _ _ hw' _ =>
    spares_pure (hw'.within (a := Value.ref w.cells.size) hnew)

end Bindings

theorem spares_classNamed (name : String) : Spares V w (classNamed name) := by
  refine spares_get ?_
  split
  · exact spares_pure trivial
  · exact spares_fail _

theorem spares_addClass {info : Nat → ClassInfo}
    (h : Within (V.region w) (info w.classes.size)) : Spares V w (addClass info) :=
  fun hw => ⟨.addClass hw h, (within_ok _).mpr trivial⟩

theorem spares_newTupleClass (label : String) (fields : List String) :
    Spares V w (newTupleClass label fields) := by
  refine spares_addClass ⟨fun e he => ?_, fun n hn => absurd hn List.not_mem_nil⟩
  obtain ⟨x, -, rfl⟩ := List.mem_map.mp he
  trivial

theorem spares_newCollection (kind : CollectionKind) {items : List Value}
    (h : Within (V.region w) items) : Spares V w (newCollection kind items) := by
  have hset : ∀ frozen, Spares V w (do alloc (.set frozen (← insertElements [] items))) :=
    fun _ => (spares_insertElements (by simp) h).bind fun _ items _ hitems =>
      spares_alloc (within_cell.mpr hitems)
  unfold newCollection
  split
  · exact spares_newList h
  · exact spares_newTuple h
  · exact spares_alloc (within_cell.mpr h)
  · exact hset false
  · exact hset true
  · exact spares_alloc (within_cell.mpr h)
  · exact spares_alloc (within_cell.mpr h)
  · rename_i code
    have hitems : ∀ {w : World}, Spares V w (do
        alloc (.array code (← items.mapM (Packing.element code)))) :=
      (spares_mapM fun _ x _ _ => Packing.spares_element code x).bind fun _ items _ hitems =>
        spares_alloc (within_cell.mpr hitems)
    dsimp only
    split
    · exact (@spares_fail V w Unit _ _).bind fun _ _ _ _ => hitems
    · exact hitems
  · exact spares_alloc (within_cell.mpr h)

theorem spares_newTable (kind : TableKind) {entries : List (Value × Value)}
    (h : Within (V.region w) entries) : Spares V w (newTable kind entries) := by
  have hdict : ∀ fluent, Spares V w (do alloc (.dict fluent (← insertEntries [] entries))) :=
    fun _ => (spares_insertEntries (by simp) h).bind fun _ _ _ hwritten =>
      spares_alloc (World.within_entries.mpr hwritten)
  have htagged : ∀ {w : World} {v : Value} (wrap : Nat → Value → Value),
      (∀ A tag v, Within A v → Within A (wrap tag v)) → Within (V.region w) v →
      Spares V w (do return wrap (← freshTag) v) := fun wrap hwrap hv =>
    spares_freshTag.bind fun _ tag hw' _ => spares_pure (hwrap _ tag _ (hw'.within hv))
  unfold newTable
  split
  · exact (spares_insertEntries (by simp) h).bind fun _ _ _ hwritten =>
      Bindings.spares_ofEntries hwritten
  · exact hdict false
  · exact hdict true
  · exact (spares_insertEntries (by simp) h).bind fun _ _ _ hwritten =>
      (spares_alloc (World.within_entries.mpr hwritten)).bind fun _ _ _ hv =>
        htagged .readOnly (fun _ _ _ h => h) hv
  · rename_i which
    exact (spares_insertEntries (by simp) h).bind fun _ _ _ hwritten =>
      (spares_alloc (World.within_entries.mpr hwritten)).bind fun _ _ _ hv =>
        htagged (fun tag v => .part tag which v) (fun _ _ _ h => h) hv

theorem spares_memberNamed (c : ClassId) (name : String) : Spares V w (memberNamed c name) := by
  refine spares_get ?_
  split
  · exact spares_pure (World.within_memberNamed? c name _ ‹_›)
  · exact spares_fail _

theorem spares_flagsOf (c : ClassId) (bits : Nat) : Spares V w (flagsOf c bits) := by
  refine spares_get ?_
  dsimp only
  split
  · exact spares_fail _
  · split <;> exact spares_pure trivial

mutual

/-- Making a value leaves hidden cells alone. -/
theorem spares_build (hd : d.Sparing V) {w : World} :
    ∀ r : Recipe, r.Within (V.region w) → Spares V w (build d r)
  | .known v, h => spares_pure (a := v) h
  | .number v, h => spares_freshTag.bind fun _ _ hw' _ =>
      spares_pure ((within_marked _ v).mpr (hw'.within (a := v) h))
  | .bytearray b, _ => spares_alloc (by simp [within_cell, Cell.contents])
  | .collection kind items, h =>
    (spares_buildAll hd items h).bind fun _ _ _ hitems => spares_newCollection kind hitems
  | .table kind keys values, h =>
    (spares_buildAll hd keys h.1).bind fun _ _ hw' hkeys =>
      (spares_buildAll hd values (Recipe.AllWithin.mono hw'.region_subset values h.2)).bind
        fun _ _ hw'' hvalues =>
          spares_newTable kind (within_zip (hw''.within hkeys) hvalues)
  | .view target, h =>
    (spares_build hd target h).bind fun _ v _ hv => spares_freshTag.bind fun _ _ hw'' _ =>
      spares_pure (hw''.within (a := v) hv)
  | .optional content, h =>
    (spares_build hd content h).bind fun _ _ _ hv => spares_newOptional hv
  | .named label fields values, h =>
    (spares_buildAll hd values h).bind fun _ items _ hitems =>
      (spares_newTupleClass label fields).bind fun _ cls hw'' _ =>
        (spares_alloc (c := .tuple items) (within_cell.mpr (hw''.within hitems))).bind
          fun _ base _ hbase => spares_alloc (by simpa [within_cell, Cell.contents] using hbase)
  | .type name, _ => (spares_classNamed name).bind fun _ _ _ _ => spares_pure trivial
  | .member enumeration name, _ =>
    (spares_classNamed enumeration).bind fun _ c _ _ => spares_memberNamed c name
  | .flags enumeration bits, _ =>
    (spares_classNamed enumeration).bind fun _ c _ _ => spares_flagsOf c bits
  | .object cls names values base, h =>
    (spares_buildAll hd base h.2).bind fun _ base hw₁ hbase =>
      (spares_buildAll hd values (Recipe.AllWithin.mono hw₁.region_subset values h.1)).bind
        fun _ values hw₂ hvalues => (spares_classNamed cls).bind fun _ c hw₃ _ =>
          Construction.spares_newObject hd c
            (fun e he => hw₃.within (hvalues e.2 (List.of_mem_zip he).2))
            (fun x hx => (hw₂.trans hw₃).within (hbase x (List.mem_of_head? hx)))
  | .accessor name owner, _ => (spares_classNamed owner).bind fun _ _ _ _ => spares_pure trivial
  | .unit name, _ => by
    refine spares_get ?_
    split
    · exact spares_pure trivial
    · exact spares_fail _
  | .variable name, _ => by
    refine .of_sealed fun hw => spares_get ?_
    split
    · rename_i v hv
      exact spares_pure (hw.named (name, v) (Table.mem_of_get? hv))
    · exact spares_fail _

theorem spares_buildAll (hd : d.Sparing V) {w : World} :
    ∀ rs : List Recipe, Recipe.AllWithin (V.region w) rs → Spares V w (buildAll d rs)
  | [], _ => spares_pure (by simp)
  | r :: rest, h =>
    (spares_build hd r h.1).bind fun _ v hw' hv =>
      (spares_buildAll hd rest (Recipe.AllWithin.mono hw'.region_subset rest h.2)).bind
        fun _ vs hw'' hvs => spares_pure (by
          rw [within_cons]
          exact ⟨hw''.within hv, hvs⟩)

end

end TemplateEngine
