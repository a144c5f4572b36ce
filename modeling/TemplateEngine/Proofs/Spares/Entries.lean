import TemplateEngine.Proofs.Spares.Elements
import TemplateEngine.Subscript
/-!
Reading and writing entries and variables leaves hidden cells alone, apart from the scope that is
written to.
-/
namespace TemplateEngine

section

variable {A : Set Nat} {same : Value → Value → Except Fault Bool} {key x : Value}
  {entries : List (Value × Value)}

theorem within_exceptBind {α β : Type} [Referring β] {r : Except Fault α}
    {f : α → Except Fault β} (h : ∀ a, r = .ok a → Within A (f a)) : Within A (r >>= f) := by
  cases r with
  | error e => exact within_error e
  | ok a => exact h a rfl

theorem within_entryFor (h : Within A entries) : Within A (entryFor same key entries) := by
  induction entries with
  | nil => exact (within_ok none).mpr within_none
  | cons e rest ih =>
    rw [within_cons] at h
    refine within_exceptBind fun found _ => ?_
    cases found with
    | false => exact ih h.2
    | true => exact (within_ok _).mpr ((within_some _).mpr h.1.2)

theorem within_putEntry (h : Within A entries) (hkey : Within A key) (hx : Within A x) :
    Within A (putEntry same key x entries) := by
  induction entries with
  | nil => exact (within_ok _).mpr (by simpa using And.intro hkey hx)
  | cons e rest ih =>
    rw [within_cons] at h
    refine within_exceptBind fun found _ => ?_
    cases found with
    | false =>
      refine within_exceptBind fun others hothers => (within_ok _).mpr ?_
      rw [within_cons]
      exact ⟨h.1, ih h.2 others hothers⟩
    | true =>
      refine (within_ok _).mpr ?_
      rw [within_cons]
      exact ⟨⟨h.1.1, hx⟩, h.2⟩

end

namespace Scope

variable {A : Set Nat} {s : Scope Value Value}

theorem within_insert (h : Within A s) {name : Name Value} (hname : Within A name.given) {x : Value}
    (hx : Within A x) : Within A (s.insert name x) := by
  rw [insert_eq]
  have hkept : ∀ e ∈ s.kept name, e ∈ s.values := by
    intro e he
    unfold kept at he
    split at he
    · split at he
      · exact he
      · exact Table.mem_of_mem_erase he
    · exact he
  intro e he
  rcases Table.mem_of_mem_insert he with rfl | he
  · refine ⟨?_, hx⟩
    unfold firstGiven
    cases hget : (s.kept name).get? name.text with
    | none => exact hname
    | some old => exact (h _ (hkept _ (Table.mem_of_get? hget))).1
  · exact h e (hkept e he)

theorem within_erase (h : Within A s) (text : String) : Within A (s.erase text) := by
  unfold erase
  split
  · exact fun e he => h e (Table.mem_of_mem_erase he)
  · exact h

theorem within_insertAll {entries : List (Name Value × Value)} (h : Within A s)
    (hentries : ∀ e ∈ entries, Within A e.1.given ∧ Within A e.2) :
    Within A (s.insertAll entries) := by
  induction entries generalizing s with
  | nil => exact h
  | cons e rest ih =>
    rw [List.forall_mem_cons] at hentries
    exact ih (within_insert h hentries.1.1 hentries.1.2) hentries.2

theorem within_empty : Within A (empty : Scope Value Value) := fun _ he => absurd he List.not_mem_nil

theorem within_copy (h : Within A s) : Within A s.copy :=
  within_insertAll within_empty (within_stored h)

end Scope

namespace World

/-- A cell that is a scope. -/
def HoldsScope (w : World) (b : Nat) : Prop := ∃ s, w.cell? b = some (.bindings s)

theorem HoldsScope.isOpen {V : Veil} {w : World} {b : Nat} (hb : w.HoldsScope b)
    (hfree : b ∉ V.frozen) : w.Open V (.ref b) := by
  obtain ⟨s, hs⟩ := hb
  intro i hi hburied
  obtain rfl : b = i :=
    Option.some.inj ((store?_of_base (base_ref_of_bindings hs)).symm.trans hi)
  exact hfree (V.buried_subset hburied)

theorem Kept.holdsScope {V : Veil} {w w' : World} {b : Nat} (h : Kept V w w')
    (hb : w.HoldsScope b) : w'.HoldsScope b := by
  obtain ⟨s, hs⟩ := hb
  obtain ⟨c, hc, hshape⟩ := h.shape b _ hs
  cases c with
  | bindings s' => exact ⟨s', hc⟩
  | _ => simp [Cell.shape] at hshape

end World

variable {V : Veil} {w : World} {v : Value}

/-- Cells that values refer to are not frozen. -/
theorem spares_lookUpEntry {entries : List (Value × Value)} (h : Within (V.region w) entries)
    (key : Value) : Spares V w (lookUpEntry entries key) :=
  spares_get (spares_liftResult (within_exceptBind fun _ _ => within_entryFor h))

theorem spares_insertEntry {entries : List (Value × Value)} {key x : Value}
    (h : Within (V.region w) entries) (hkey : Within (V.region w) key)
    (hx : Within (V.region w) x) : Spares V w (insertEntry entries key x) :=
  spares_get ((spares_liftPlain _).bind fun _ _ hw' _ =>
    spares_liftResult (within_putEntry (hw'.within h) (hw'.within hkey) (hw'.within hx)))

theorem spares_writeEntry {cell : Nat} {key x : Value} (hcell : cell ∉ V.frozen)
    (hkey : Within (V.region w) key) (hx : Within (V.region w) x) :
    Spares V w (writeEntry cell key x) := by
  refine .of_sealed fun hw => spares_get ?_
  split
  · rename_i fluent entries hc
    have hentries := World.within_entries.mp (hw.cells cell _ hc fun h => hcell (V.buried_subset h))
    refine (spares_insertEntry hentries hkey hx).bind fun w' written hw' hwritten => ?_
    obtain ⟨c, hc', hshape⟩ := hw'.shape cell _ hc
    exact spares_setCell hc' hcell hshape.symm (World.within_entries.mpr hwritten)
  · exact spares_pure trivial

theorem spares_insertEntries {entries more : List (Value × Value)}
    (h : Within (V.region w) entries) (hmore : Within (V.region w) more) :
    Spares V w (insertEntries entries more) := by
  induction more generalizing w entries with
  | nil => exact spares_pure h
  | cons e rest ih =>
    rw [within_cons] at hmore
    exact (spares_insertEntry h hmore.1.1 hmore.1.2).bind fun w' written hw' hwritten =>
      ih hwritten (hw'.within (a := rest) hmore.2)

theorem spares_insertElements {items more : List Value} (h : Within (V.region w) items)
    (hmore : Within (V.region w) more) : Spares V w (insertElements items more) := by
  induction more generalizing w items with
  | nil => exact spares_pure h
  | cons x rest ih =>
    rw [within_cons] at hmore
    refine spares_get ((spares_liftPlain _).bind fun w' _ hw' _ => ?_)
    refine (spares_liftPlain _).bind fun w'' found hw'' _ => ?_
    have hkept := hw'.trans hw''
    split
    · exact ih (hkept.within h) (hkept.within (a := rest) hmore.2)
    · refine ih (fun y hy => ?_) (hkept.within (a := rest) hmore.2)
      rcases List.mem_append.mp hy with hy | hy
      · exact hkept.within (h y hy)
      · exact List.mem_singleton.mp hy ▸ hkept.within hmore.1

namespace Bindings

theorem spares_scopeOf {b : Value} (hb : w.Open V b) : Spares V w (scopeOf b) := by
  refine .of_sealed fun hw => spares_get ?_
  split
  · exact spares_pure (World.within_bindings.mp (hw.baseCell? hb ‹_›))
  · exact spares_pure Scope.within_empty

theorem spares_setScope {b : Nat} {s : Scope Value Value} (hb : w.HoldsScope b)
    (hfree : b ∉ V.frozen) (hs : Within (V.region w) s) : Spares V w (setScope (.ref b) s) := by
  obtain ⟨old, hold⟩ := hb
  refine spares_get ?_
  rw [World.base_ref_of_bindings hold]
  exact spares_setCell hold hfree rfl (World.within_bindings.mpr hs)

theorem spares_lookUp? {b : Value} (hb : w.Open V b) (key : Value) :
    Spares V w (lookUp? b key) :=
  (spares_scopeOf hb).bind fun _ _ _ hs => (spares_nameOf key).bind fun _ _ hw'' _ =>
    spares_pure (Scope.within_get? (hw''.within hs) _)

theorem spares_missing {α : Type} [Referring α] (key : Value) :
    Spares V w (missing key : M α) :=
  (spares_displayed key).bind fun _ _ _ _ => spares_fail _

theorem spares_read {b : Value} (hb : w.Open V b) (key : Value) : Spares V w (read b key) := by
  refine (spares_lookUp? hb key).bind fun w' found _ hfound => ?_
  cases found with
  | none => exact spares_missing key
  | some x => exact spares_pure ((within_some x).mp hfound)

theorem spares_write {b : Nat} {key x : Value} (hb : w.HoldsScope b) (hfree : b ∉ V.frozen)
    (hkey : Within (V.region w) key) (hx : Within (V.region w) x) :
    Spares V w (write (.ref b) key x) := by
  refine (spares_nameOf key).bind fun w' text hw' _ => ?_
  refine (spares_scopeOf ((hw'.holdsScope hb).isOpen hfree)).bind fun w'' s hw'' hs => ?_
  have hkept := hw'.trans hw''
  exact spares_setScope (hkept.holdsScope hb) hfree
    (Scope.within_insert hs (hkept.within hkey) (hkept.within hx))

theorem spares_erase {b : Nat} {key : Value} (hb : w.HoldsScope b) (hfree : b ∉ V.frozen) :
    Spares V w (erase (.ref b) key) := by
  refine (spares_lookUp? (hb.isOpen hfree) key).bind fun w' found hw' _ => ?_
  cases found with
  | none => exact spares_missing key
  | some x =>
    refine (spares_scopeOf ((hw'.holdsScope hb).isOpen hfree)).bind fun w'' s hw'' hs => ?_
    refine (spares_nameOf key).bind fun _ text hlast _ => ?_
    exact spares_setScope (((hw'.trans hw'').trans hlast).holdsScope hb) hfree
      (Scope.within_erase (hlast.within hs) text)

theorem spares_writeAll {b : Nat} {entries : List (Value × Value)} (hb : w.HoldsScope b)
    (hfree : b ∉ V.frozen) (h : Within (V.region w) entries) :
    Spares V w (writeAll (.ref b) entries) := by
  induction entries generalizing w with
  | nil => exact spares_pure trivial
  | cons e rest ih =>
    rw [within_cons] at h
    exact (spares_write hb hfree h.1.1 h.1.2).bind fun w' _ hw' _ =>
      ih (hw'.holdsScope hb) (hw'.within (a := rest) h.2)

theorem spares_asPair (hv : Within (V.region w) v) : Spares V w (asPair v) := by
  refine (spares_ofValue hv).attempt.bind fun w' r hw' hr => ?_
  split
  · refine (spares_visit ((within_ok _).mp hr) (fun _ _ _ _ hx => spares_pure hx) 3 0).bind
      fun w'' items _ hitems => ?_
    dsimp only
    split
    · exact spares_pure (by simpa using hitems)
    · split <;> exact spares_fail _
  all_goals exact spares_fail _

end Bindings

theorem spares_elementOf {elements : Elements} (h : Within (V.region w) elements)
    (v index : Value) : Spares V w (elementOf v elements index) := by
  refine spares_get ?_
  dsimp only
  split
  · exact spares_fail _
  · split
    · exact spares_fail _
    · split
      · rename_i x hx
        exact spares_asObject (within_ite within_none (within_get? h _) x hx)
      · exact spares_fail _

theorem spares_entryOf {entries : List (Value × Value)} (h : Within (V.region w) entries)
    (hv : w.Open V v) (key : Value) : Spares V w (entryOf v key entries) := by
  refine spares_get ?_
  split
  · exact Bindings.spares_read hv key
  · refine (spares_lookUpEntry h key).bind fun w' found _ hfound => ?_
    cases found with
    | none => exact Bindings.spares_missing key
    | some x => exact spares_pure ((within_some x).mp hfound)

theorem spares_refuseElement {α : Type} [Referring α] (v : Value) :
    Spares V w (refuseElement v : M α) := by
  refine spares_get ?_
  split <;> exact spares_fail _

theorem within_behindViews {A : Set Nat} (hv : Within A v) : Within A (World.behindViews v) := by
  fun_induction World.behindViews v with
  | case1 tag target ih => exact ih hv
  | case2 => exact hv

theorem spares_itemOf (hv : Within (V.region w) v) (key : Value) : Spares V w (itemOf v key) := by
  refine .of_sealed fun hw => spares_get ?_
  have hv' := within_behindViews hv
  dsimp only
  split
  · exact spares_elementOf (hw.sequence? hv' _ ‹_›) _ key
  · exact spares_entryOf (hw.mapping? (hw.open_of_within hv') _ ‹_›) (hw.open_of_within hv') key
  · split
    · rename_i x hx
      obtain ⟨s, -, hs⟩ := Option.bind_eq_some_iff.mp hx
      exact spares_pure (World.within_memberNamed? _ s x hs)
    · exact (spares_liftPlain _).bind fun _ _ _ _ => Bindings.spares_missing key
  · exact spares_refuseElement _

end TemplateEngine
