import TemplateEngine.Proofs.Within
import TemplateEngine.Proofs.Mappings
/-!
Hidden cells: no value that is in use refers to them. What is read from values that refer to other
cells refers to other cells as well.
-/
namespace TemplateEngine

namespace Scope

variable {A : Set Nat} {s : Scope Value Value}

theorem within_get? (h : Within A s) (text : String) : Within A (s.get? text) := by
  intro v hv
  unfold get? at hv
  obtain ⟨e, he, rfl⟩ := Option.map_eq_some_iff.mp hv
  obtain ⟨name, -, hget⟩ := Option.bind_eq_some_iff.mp he
  exact (h (name.text, e) (Table.mem_of_get? hget)).2

theorem within_entries (h : Within A s) : Within A (s.entries.map Prod.snd) := by
  intro v hv
  obtain ⟨e, he, rfl⟩ := List.mem_map.mp hv
  obtain ⟨⟨folded, name⟩, -, hname⟩ := List.mem_filterMap.mp he
  obtain ⟨x, hx, rfl⟩ := Option.map_eq_some_iff.mp hname
  exact within_get? h folded x hx

theorem within_stored (h : Within A s) :
    ∀ e ∈ s.stored, Within A e.1.given ∧ Within A e.2 := by
  intro e he
  obtain ⟨x, hx, rfl⟩ := List.mem_map.mp he
  exact h x hx

end Scope

/-- Cells that no value in use refers to. Those that are frozen stay as they are, and what is in
those that are buried is not looked at. -/
structure Veil where
  hidden : Set Nat
  frozen : Set Nat
  buried : Set Nat
  frozen_subset : frozen ⊆ hidden
  buried_subset : buried ⊆ frozen

/-- The cells of a world that values may refer to. -/
def Veil.region (V : Veil) (w : World) : Set Nat := {i | i < w.cells.size ∧ i ∉ V.hidden}

theorem Veil.not_frozen {V : Veil} {w : World} {i : Nat} (h : i ∈ V.region w) : i ∉ V.frozen :=
  fun hi => h.2 (V.frozen_subset hi)

namespace World

/-- A world whose values refer to no hidden cell and to no missing one, those in buried cells
apart. -/
structure Sealed (V : Veil) (w : World) : Prop where
  cells : ∀ i c, w.cell? i = some c → i ∉ V.buried → Within (V.region w) c
  classes : ∀ i info, w.class? i = some info → Within (V.region w) info
  named : ∀ e ∈ w.named, Within (V.region w) e.2
  inBounds : ∀ i ∈ V.hidden, i < w.cells.size
  emptyTuple : 0 ∈ V.region w

section

variable {V : Veil} {w : World} {v : Value} {i : Nat} {c : Cell}

theorem Sealed.visible (hw : w.Sealed V) (hi : i ∈ V.region w) (hc : w.cell? i = some c) :
    Within (V.region w) c :=
  hw.cells i c hc fun h => V.not_frozen hi (V.buried_subset h)

theorem Sealed.member (hw : w.Sealed V) {k : Nat} {info : ClassInfo} (h : w.class? k = some info)
    {name : String} {m : Member} (hm : info.members.get? name = some m) :
    Within (V.region w) m :=
  (hw.classes k info h).1 (name, m) (Table.mem_of_get? hm)

theorem Sealed.enumValue (hw : w.Sealed V) {k : Nat} {info : ClassInfo}
    (h : w.class? k = some info) {n : EnumName} (hn : n ∈ info.names) :
    Within (V.region w) n.value :=
  (hw.classes k info h).2 n hn

theorem Sealed.base (hw : w.Sealed V) (hv : Within (V.region w) v) :
    Within (V.region w) (w.base v) := by
  cases v with
  | ref i =>
    rw [base_ref]
    cases hc : w.cell? i with
    | none => simpa [hc] using hv
    | some c =>
      cases hb : c.base? with
      | none => simpa [hc, hb] using hv
      | some b =>
        have hmem : b ∈ c.contents := by
          cases c <;> simp_all [Cell.base?, Cell.contents]
        simpa [hc, hb] using hw.visible hv hc b hmem
  | member e k =>
    simp only [World.base]
    split
    · rename_i info hinfo
      split
      · cases hn : info.names.find? (·.index == k) with
        | none => trivial
        | some n => exact hw.enumValue hinfo (List.mem_of_find?_eq_some hn)
      · cases hn : info.names.find? (·.index == k) with
        | none => trivial
        | some n => exact hw.enumValue hinfo (List.mem_of_find?_eq_some hn)
      · trivial
    · trivial
  | _ => exact hv

theorem Sealed.ref_of_base (hw : w.Sealed V) (hv : Within (V.region w) v) (h : w.base v = .ref i) :
    i ∈ V.region w := by
  have := hw.base hv
  rwa [h] at this

theorem Sealed.content? (hw : w.Sealed V) (hv : Within (V.region w) v) :
    Within (V.region w) (w.content? v) := by
  have hbase := hw.base hv
  unfold World.content?
  split
  · rename_i content h
    rw [h] at hbase
    exact (within_some content).mpr hbase
  · exact within_none

/-- The cell of a mapping may be hidden, but not buried. -/
def Open (V : Veil) (w : World) (v : Value) : Prop := ∀ i, w.store? v = some i → i ∉ V.buried

theorem Sealed.store_mem (hw : w.Sealed V) (hv : Within (V.region w) v)
    (h : w.store? v = some i) : i ∈ V.region w := by
  fun_induction World.store? w v with
  | case1 tag target ih => exact ih hv h
  | case2 v hreadOnly j hbase =>
    obtain rfl := Option.some.inj h
    exact hw.ref_of_base hv hbase
  | case3 => simp at h

theorem Sealed.open_of_within (hw : w.Sealed V) (hv : Within (V.region w) v) : w.Open V v :=
  fun _ hi hburied => V.not_frozen (hw.store_mem hv hi) (V.buried_subset hburied)

theorem Sealed.baseCell? (hw : w.Sealed V) (hv : w.Open V v) (h : w.baseCell? v = some c) :
    Within (V.region w) c := by
  obtain ⟨i, hbase, hi⟩ := base_of_baseCell? h
  exact hw.cells i c hi (hv i (store?_of_base hbase))

theorem within_entries {A : Set Nat} {fluent : Bool} {entries : List (Value × Value)} :
    Within A (Cell.dict fluent entries) ↔ Within A entries := by
  simp only [within_cell, Cell.contents, List.mem_append, List.mem_map, within_list]
  constructor
  · exact fun h e he => ⟨h e.1 (Or.inl ⟨e, he, rfl⟩), h e.2 (Or.inr ⟨e, he, rfl⟩)⟩
  · rintro h v (⟨e, he, rfl⟩ | ⟨e, he, rfl⟩)
    · exact (h e he).1
    · exact (h e he).2

theorem within_bindings {A : Set Nat} {s : Scope Value Value} :
    Within A (Cell.bindings s) ↔ Within A s := by
  simp only [within_cell, Cell.contents, Scope.stored, List.map_map, List.mem_append, List.mem_map]
  constructor
  · exact fun h e he => ⟨h e.2.1 (Or.inl ⟨e, he, rfl⟩), h e.2.2 (Or.inr ⟨e, he, rfl⟩)⟩
  · rintro h v (⟨e, he, rfl⟩ | ⟨e, he, rfl⟩)
    · exact (h e he).1
    · exact (h e he).2

theorem Sealed.mapping? (hw : w.Sealed V) (hv : w.Open V v) :
    Within (V.region w) (w.mapping? v) := by
  fun_induction World.mapping? w v with
  | case1 tag target ih => exact ih hv
  | case2 owner => exact (within_some _).mpr (within_map fun _ _ => ⟨trivial, trivial⟩)
  | case3 v hreadOnly hsub fluent entries hcell =>
    exact (within_some entries).mpr (within_entries.mp (hw.baseCell? hv hcell))
  | case4 v hreadOnly hsub s hcell =>
    have hs := Scope.within_entries (within_bindings.mp (hw.baseCell? hv hcell))
    exact (within_some _).mpr (within_map fun x hx => ⟨trivial, hs x.2 (List.mem_map_of_mem hx)⟩)
  | case5 => exact within_none

theorem Sealed.entries (hw : w.Sealed V) (hv : w.Open V v) :
    Within (V.region w) ((w.mapping? v).getD []) := by
  cases h : w.mapping? v with
  | none => exact fun e he => absurd he List.not_mem_nil
  | some entries => exact hw.mapping? hv entries h

theorem within_texts {A : Set Nat} (s : String) : Within A (textItems s) :=
  within_map fun _ _ => trivial

theorem within_bytes {A : Set Nat} (b : List UInt8) : Within A (byteItems b) :=
  within_map fun _ _ => trivial

theorem Sealed.sequence? (hw : w.Sealed V) (hv : Within (V.region w) v) :
    Within (V.region w) (w.sequence? v) := by
  fun_induction World.sequence? w v with
  | case1 tag target ih => exact ih hv
  | case2 => exact (within_some _).mpr trivial
  | case3 t => exact (within_some _).mpr (within_map (l := t.fields) fun _ _ => trivial)
  | case4 b => exact (within_some _).mpr (within_bytes b)
  | case5 _ _ _ _ _ s => exact (within_some _).mpr (within_texts s)
  | case6 v _ _ _ _ i hbase items hi =>
    exact (within_some _).mpr (hw.visible (hw.ref_of_base hv hbase) hi)
  | case7 v _ _ _ _ i hbase items hi =>
    exact (within_some _).mpr (hw.visible (hw.ref_of_base hv hbase) hi)
  | case8 v _ _ _ _ i hbase items hi =>
    exact (within_some _).mpr (hw.visible (hw.ref_of_base hv hbase) hi)
  | case9 v _ _ _ _ i hbase code items hi =>
    exact (within_some _).mpr (hw.visible (hw.ref_of_base hv hbase) hi)
  | case10 _ _ _ _ _ i _ b hi => exact (within_some _).mpr (within_bytes b)
  | case11 => exact within_none
  | case12 => exact within_none

theorem within_enumMembers {A : Set Nat} (c : ClassId) : Within A (w.enumMembers c) := by
  intro v hv
  cases c with
  | standard s => simp [enumMembers] at hv
  | declared k =>
    cases hinfo : w.class? k with
    | none => simp [enumMembers, hinfo] at hv
    | some info =>
      simp only [enumMembers, hinfo, List.mem_filterMap] at hv
      obtain ⟨⟨name, j⟩, -, hname⟩ := hv
      split at hname
      · simp at hname
      · split at hname
        · split at hname
          · split at hname
            · obtain rfl := Option.some.inj hname
              trivial
            · simp at hname
          · simp at hname
        · obtain rfl := Option.some.inj hname
          trivial

theorem within_flagParts {A : Set Nat} (cls bits : Nat) : Within A (w.flagParts cls bits) :=
  fun v hv => within_enumMembers _ v (List.mem_filter.mp hv).1

theorem Sealed.repeatable? (hw : w.Sealed V) (hv : Within (V.region w) v) :
    Within (V.region w) (w.repeatable? v) := by
  fun_cases World.repeatable? w v with
  | case1 tag target =>
    exact within_optionMap fun entries h => within_map fun e he =>
      (hw.mapping? (v := target) (hw.open_of_within hv) entries h e he).1
  | case2 tag target =>
    exact within_optionMap fun entries h => within_map fun e he =>
      (hw.mapping? (v := target) (hw.open_of_within hv) entries h e he).2
  | case3 => exact within_none
  | case4 c => exact (within_some _).mpr (within_enumMembers c)
  | case5 => exact within_none
  | case6 cls bits => exact (within_some _).mpr (within_flagParts cls bits)
  | case7 _ _ _ _ frozen items hcell =>
    exact (within_some items).mpr (hw.baseCell? (c := .set frozen items) (hw.open_of_within hv) hcell)
  | case8 _ _ _ _ items hcell =>
    exact (within_some items).mpr (hw.baseCell? (c := .bag items) (hw.open_of_within hv) hcell)
  | case9 _ _ _ _ items hcell =>
    exact (within_some items).mpr (hw.baseCell? (c := .sized items) (hw.open_of_within hv) hcell)
  | case10 => exact within_none

theorem within_memberNamed? {A : Set Nat} (c : ClassId) (name : String) :
    Within A (w.memberNamed? c name) := by
  intro v hv
  cases c with
  | standard s => simp [memberNamed?] at hv
  | declared k =>
    simp only [memberNamed?, Option.bind_eq_bind, Option.bind_eq_some_iff] at hv
    obtain ⟨info, -, n, -, hn⟩ := hv
    obtain rfl := Option.some.inj hn
    split <;> trivial

theorem Sealed.memberName? (hw : w.Sealed V) {e k : Nat} {n : EnumName}
    (h : w.memberName? e k = some n) : Within (V.region w) n.value := by
  obtain ⟨info, hinfo, hn⟩ := Option.bind_eq_some_iff.mp h
  exact hw.enumValue hinfo (List.mem_of_find?_eq_some hn)

theorem Sealed.ownMember? (hw : w.Sealed V) {owner : ClassId} {name : String} {m : Member}
    (h : Classes.ownMember? w.classes owner name = some m) : Within (V.region w) m := by
  cases owner with
  | standard s =>
    obtain ⟨use, -, rfl⟩ := Option.map_eq_some_iff.mp h
    trivial
  | declared k =>
    obtain ⟨info, hinfo, hm⟩ := Option.bind_eq_some_iff.mp h
    exact hw.member hinfo hm

theorem Sealed.findMember? (hw : w.Sealed V) {c owner : ClassId} {name : String} {m : Member}
    (h : Classes.findMember? w.classes c name = some (owner, m)) : Within (V.region w) m := by
  obtain ⟨k, -, hk⟩ := List.exists_of_findSome?_eq_some h
  obtain ⟨m', hm', heq⟩ := Option.map_eq_some_iff.mp hk
  obtain ⟨rfl, rfl⟩ := Prod.mk.inj heq
  exact hw.ownMember? hm'

theorem Sealed.ownAttributes (hw : w.Sealed V) (hv : Within (V.region w) v) (name : String) :
    Within (V.region w) ((w.ownAttributes v).get? name) := by
  intro x hx
  unfold World.ownAttributes at hx
  split at hx
  · rename_i i
    split at hx
    · rename_i cls attributes b hi
      have hmem := List.mem_map_of_mem (f := Prod.snd) (Table.mem_of_get? hx)
      exact hw.visible hv hi x (List.mem_append_left _ hmem)
    · simp [Table.get?] at hx
  · simp [Table.get?] at hx

end

end World

end TemplateEngine
