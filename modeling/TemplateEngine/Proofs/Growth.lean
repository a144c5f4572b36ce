import TemplateEngine.Proofs.Spares.Entries
import TemplateEngine.Proofs.ScopeCells
/-!
Worlds that grow: cells are added, tags are used up and lines are logged, and nothing that was there
changes. What is read from values of the smaller world stays the same.
-/
namespace TemplateEngine

/-- The veil that hides nothing. -/
def Veil.clear : Veil := ⟨∅, ∅, ∅, fun _ h => h, fun _ h => h⟩

namespace World

/-- No value in the world refers to a missing cell. -/
abbrev Whole (w : World) : Prop := w.Sealed .clear

/-- Data refer to no missing cell. -/
abbrev Holds {α : Type} [Referring α] (w : World) (a : α) : Prop := Within (Veil.clear.region w) a

/-- A world has all that another has, as it is there: only cells, lines and tags may be new. -/
structure Grows (w w' : World) : Prop where
  cells : ∀ i c, w.cell? i = some c → w'.cell? i = some c
  classes : w'.classes = w.classes
  forest : w'.forest = w.forest
  unitClasses : w'.unitClasses = w.unitClasses
  unitNames : w'.unitNames = w.unitNames
  named : w'.named = w.named
  log : w.log <+: w'.log
  tags : w.nextTag ≤ w'.nextTag

instance : Referring Element where
  Within A
    | .value v => Within A v
    | .pair k x => Within A k ∧ Within A x
  meet {_ _ _ e} hC h h' := by
    cases e with
    | value v => exact Referring.meet (a := v) hC h h'
    | pair k x => exact Referring.meet (a := (k, x)) hC h h'

section

variable {V : Veil} {w : World} {v : Value}

theorem Sealed.optional_of_base (hw : w.Sealed V) (hv : Within (V.region w) v) {x : Value}
    {tag : Nat} (h : w.base v = .optional tag x) : Within (V.region w) x := by
  have := hw.base hv
  rwa [h] at this

theorem Sealed.view_of_base (hw : w.Sealed V) (hv : Within (V.region w) v) {x : Value}
    {tag : Nat} (h : w.base v = .view tag x) : Within (V.region w) x := by
  have := hw.base hv
  rwa [h] at this

theorem Sealed.contents (hw : w.Sealed V) (hv : Within (V.region w) v) {c : Cell}
    (h : w.baseCell? v = some c) : Within (V.region w) c.contents :=
  hw.baseCell? (hw.open_of_within hv) h

theorem Sealed.members? (hw : w.Sealed V) (hv : Within (V.region w) v) :
    Within (V.region w) (w.members? v) := by
  unfold World.members?
  split
  · rename_i elements helements
    exact (within_some _).mpr (within_toList (hw.sequence? hv elements helements))
  · rename_i entries _ hentries
    exact (within_some _).mpr (within_map fun e he =>
      (hw.mapping? (hw.open_of_within hv) entries hentries e he).1)
  · exact hw.repeatable? hv

theorem Sealed.stream? (hw : w.Sealed V) (hv : Within (V.region w) v) :
    Within (V.region w) ((w.stream? v).map Prod.snd) := by
  refine within_optionMap fun stream h => ?_
  unfold World.stream? at h
  split at h
  · split at h
    · rename_i kind rest hcell
      obtain rfl := Option.some.inj h
      exact hw.visible hv hcell
    · simp at h
  · simp at h

theorem Sealed.setElements? (hw : w.Sealed V) (hv : Within (V.region w) v) :
    Within (V.region w) (w.setElements? v) := by
  unfold World.setElements?
  split
  · rename_i tag target
    have hentries := hw.mapping? (v := target) (hw.open_of_within hv)
    exact within_optionMap fun entries h => within_map fun e he => hentries entries h e he
  · split
    · exact within_optionMap fun items h => within_map fun x hx => hw.repeatable? hv items h x hx
    · exact within_none

theorem Sealed.asTwo? (hw : w.Sealed V) (hv : Within (V.region w) v) :
    Within (V.region w) (w.asTwo? v) := by
  unfold World.asTwo?
  split
  · rename_i x y hcell
    have hcontents := hw.contents hv hcell
    exact (within_some _).mpr ⟨hcontents x (by simp [Cell.contents]),
      hcontents y (by simp [Cell.contents])⟩
  · exact within_none

theorem Sealed.inTwo (hw : w.Sealed V) {e : Element} (he : Within (V.region w) e) :
    Within (V.region w) (w.inTwo e) := by
  cases e with
  | pair => exact (within_ok _).mpr he
  | value v =>
    have hboth : Within (V.region w) ((w.members? v).or ((w.stream? v).map Prod.snd)) := by
      intro items h
      rcases Option.or_eq_some_iff.mp h with h | ⟨-, h⟩
      · exact hw.members? he items h
      · exact hw.stream? he items h
    unfold World.inTwo
    dsimp only
    split
    · rename_i x y h
      have hitems := hboth _ h
      exact (within_ok _).mpr ⟨hitems x (by simp), hitems y (by simp)⟩
    · exact within_error _
    · exact within_error _

theorem Sealed.shownScope? (hw : w.Sealed V) (hv : Within (V.region w) v) {which : MappingPart}
    {scope : Scope Value Value} (h : w.shownScope? v = some (which, scope)) :
    Within (V.region w) scope := by
  unfold World.shownScope? at h
  split at h
  · rename_i tag part target
    split at h
    · rename_i s hcell
      obtain ⟨-, rfl⟩ : part = which ∧ s = scope := by simpa using h
      exact within_bindings.mp (hw.baseCell? (v := target) (hw.open_of_within hv) hcell)
    · simp at h
  · simp at h

end

namespace Grows

variable {w w' w'' : World} {v : Value}

theorem refl (w : World) : w.Grows w :=
  ⟨fun _ _ h => h, rfl, rfl, rfl, rfl, rfl, List.prefix_rfl, Nat.le_refl _⟩

theorem trans (h : w.Grows w') (h' : w'.Grows w'') : w.Grows w'' where
  cells i c hc := h'.cells i c (h.cells i c hc)
  classes := h'.classes.trans h.classes
  forest := h'.forest.trans h.forest
  unitClasses := h'.unitClasses.trans h.unitClasses
  unitNames := h'.unitNames.trans h.unitNames
  named := h'.named.trans h.named
  log := h.log.trans h'.log
  tags := Nat.le_trans h.tags h'.tags

theorem withTag (w : World) : w.Grows { w with nextTag := w.nextTag + 1 } :=
  ⟨fun _ _ h => h, rfl, rfl, rfl, rfl, rfl, List.prefix_rfl, Nat.le_succ _⟩

theorem mark (w : World) (n : Nat) : w.Grows (w.mark n) :=
  ⟨fun _ _ h => h, rfl, rfl, rfl, rfl, rfl, List.prefix_rfl, Nat.le_add_right _ _⟩

theorem withCell (w : World) (c : Cell) : w.Grows (w.withCell c) :=
  ⟨fun _ _ h => cell?_withCell_of_cell? h c, rfl, rfl, rfl, rfl, rfl, List.prefix_rfl, Nat.le_refl _⟩

theorem cell?_eq (h : w.Grows w') {i : Nat} (hi : i ∈ Veil.clear.region w) :
    w'.cell? i = w.cell? i := by
  obtain ⟨c, hc⟩ : ∃ c, w.cell? i = some c := ⟨_, Array.getElem?_eq_getElem hi.1⟩
  rw [h.cells i c hc, hc]

theorem class?_eq (h : w.Grows w') (i : Nat) : w'.class? i = w.class? i := by
  simp only [class?, h.classes]

theorem bulk_le (h : w.Grows w') : w.bulk ≤ w'.bulk := by
  have hprefix : w.cells.toList <+: w'.cells.toList := by
    refine List.prefix_iff_getElem?.mpr fun i hi => ?_
    have hcell := h.cells i w.cells.toList[i] (by simp [cell?])
    simpa [cell?] using hcell
  obtain ⟨rest, hrest⟩ := hprefix
  rw [World.bulk, World.bulk, ← Array.foldl_toList, ← Array.foldl_toList, ← hrest, List.foldl_append]
  exact le_foldl_depth rest _

theorem base (h : w.Grows w') (hv : w.Holds v) : w'.base v = w.base v := by
  cases v with
  | ref i => rw [base_ref, base_ref, h.cell?_eq hv]
  | member e k => simp only [World.base, h.class?_eq]
  | _ => rfl

theorem baseCell? (h : w.Grows w') (hw : w.Whole) (hv : w.Holds v) :
    w'.baseCell? v = w.baseCell? v := by
  unfold World.baseCell?
  rw [h.base hv]
  split
  · rename_i i hbase
    exact h.cell?_eq (hw.ref_of_base hv hbase)
  · rfl

theorem text? (h : w.Grows w') (hv : w.Holds v) : w'.text? v = w.text? v := by
  simp only [World.text?, h.base hv]

/-- A text stays one. -/
theorem text (h : w.Grows w') {s : String} (hs : w.text? v = some s) : w'.text? v = some s := by
  cases v with
  | ref i =>
    cases hcell : w.cell? i with
    | none => simp [World.text?, World.base, hcell] at hs
    | some c => simpa [World.text?, World.base, hcell, h.cells i c hcell] using hs
  | member e k => simpa [World.text?, World.base, h.class?_eq] using hs
  | _ => exact hs

theorem numeric? (h : w.Grows w') (hv : w.Holds v) : w'.numeric? v = w.numeric? v := by
  simp only [World.numeric?, h.base hv]

theorem isSignaling (h : w.Grows w') (hv : w.Holds v) : w'.isSignaling v = w.isSignaling v := by
  simp only [World.isSignaling, h.base hv]

theorem bytes? (h : w.Grows w') (hw : w.Whole) (hv : w.Holds v) : w'.bytes? v = w.bytes? v := by
  unfold World.bytes?
  rw [h.base hv]
  split
  · rfl
  · rename_i i hbase
    rw [h.cell?_eq (hw.ref_of_base hv hbase)]
  · rfl

theorem isText (h : w.Grows w') (hw : w.Whole) (hv : w.Holds v) : w'.isText v = w.isText v := by
  simp only [World.isText, h.text? hv, h.bytes? hw hv]

theorem octets? (h : w.Grows w') (hw : w.Whole) (hv : w.Holds v) :
    w'.octets? v = w.octets? v := by
  simp only [World.octets?, h.bytes? hw hv, h.baseCell? hw hv]

theorem isByteArray (h : w.Grows w') (hw : w.Whole) (hv : w.Holds v) :
    w'.isByteArray v = w.isByteArray v := by
  simp only [World.isByteArray, h.baseCell? hw hv]

theorem comparedOctets? (h : w.Grows w') (hw : w.Whole) {u : Value} (hv : w.Holds v)
    (hu : w.Holds u) : w'.comparedOctets? v u = w.comparedOctets? v u := by
  unfold World.comparedOctets?
  rw [h.octets? hw hv, h.octets? hw hu, h.bytes? hw hv, h.bytes? hw hu, h.isByteArray hw hv,
    h.isByteArray hw hu]

theorem mapping? (h : w.Grows w') (hw : w.Whole) (hv : w.Holds v) :
    w'.mapping? v = w.mapping? v := by
  induction v with
  | readOnly tag target ih => simpa only [World.mapping?] using ih hv
  | subUnits owner => simp only [World.mapping?, h.forest]
  | _ => simp only [World.mapping?, h.baseCell? hw hv]

theorem sequence? (h : w.Grows w') (hw : w.Whole) (hv : w.Holds v) :
    w'.sequence? v = w.sequence? v := by
  induction v with
  | view tag target ih => simpa only [World.sequence?] using ih hv
  | ref i =>
    simp only [World.sequence?, h.base hv]
    split
    · rfl
    · rename_i j hbase
      rw [h.cell?_eq (hw.ref_of_base hv hbase)]
    · rfl
  | member e k =>
    simp only [World.sequence?, h.base hv]
    split
    · rfl
    · rename_i j hbase
      rw [h.cell?_eq (hw.ref_of_base hv hbase)]
    · rfl
  | _ => rfl

theorem enumMembers (h : w.Grows w') (c : ClassId) : w'.enumMembers c = w.enumMembers c := by
  cases c with
  | standard => rfl
  | declared => simp only [World.enumMembers, h.class?_eq]

theorem flagName? (h : w.Grows w') (e bits : Nat) : w'.flagName? e bits = w.flagName? e bits := by
  simp only [World.flagName?, flagParts, h.enumMembers, h.class?_eq]

theorem memberName? (h : w.Grows w') (e k : Nat) : w'.memberName? e k = w.memberName? e k := by
  simp only [World.memberName?, h.class?_eq]

theorem repeatable? (h : w.Grows w') (hw : w.Whole) (hv : w.Holds v) :
    w'.repeatable? v = w.repeatable? v := by
  cases v with
  | part tag which target =>
    have htarget : w.Holds target := hv
    simp only [World.repeatable?, h.mapping? hw htarget]
  | type c => simp only [World.repeatable?, h.classes, h.enumMembers]
  | flags e bits => simp only [World.repeatable?, flagParts, h.enumMembers]
  | _ => simp only [World.repeatable?, h.baseCell? hw hv]

theorem isSet (h : w.Grows w') (hw : w.Whole) (hv : w.Holds v) : w'.isSet v = w.isSet v := by
  cases v with
  | part tag which target => cases which <;> simp only [World.isSet, h.baseCell? hw hv]
  | _ => simp only [World.isSet, h.baseCell? hw hv]

theorem isSequence (h : w.Grows w') (hw : w.Whole) (hv : w.Holds v) :
    w'.isSequence v = w.isSequence v := by
  cases v with
  | view => rfl
  | _ => simp only [World.isSequence, h.sequence? hw hv]

theorem setElements? (h : w.Grows w') (hw : w.Whole) (hv : w.Holds v) :
    w'.setElements? v = w.setElements? v := by
  cases v with
  | part tag which target =>
    have htarget : w.Holds target := hv
    cases which <;>
      simp only [World.setElements?, h.mapping? hw htarget, h.isSet hw hv, h.repeatable? hw hv]
  | _ => simp only [World.setElements?, h.isSet hw hv, h.repeatable? hw hv]

theorem shownScope? (h : w.Grows w') (hw : w.Whole) (hv : w.Holds v) :
    w'.shownScope? v = w.shownScope? v := by
  cases v with
  | part tag which target =>
    have htarget : w.Holds target := hv
    simp only [World.shownScope?, h.baseCell? hw htarget]
  | _ => rfl

theorem classOf (h : w.Grows w') (hv : w.Holds v) : w'.classOf v = w.classOf v := by
  cases v with
  | ref i => simp only [World.classOf, h.cell?_eq hv]
  | part tag which target =>
    cases target with
    | ref i =>
      have hi : i ∈ Veil.clear.region w := hv
      simp only [World.classOf, h.cell?_eq hi]
    | _ => rfl
  | type c => simp only [World.classOf, h.classes]
  | unbound owner name => simp only [World.classOf, h.classes]
  | unit u => simp only [World.classOf, h.unitClasses]
  | _ => rfl

theorem typeInMessages (h : w.Grows w') (hv : w.Holds v) :
    w'.typeInMessages v = w.typeInMessages v := by
  simp only [World.typeInMessages, h.classOf hv, h.classes]

theorem stream? (h : w.Grows w') (hv : w.Holds v) : w'.stream? v = w.stream? v := by
  cases v with
  | ref i => simp only [World.stream?, h.cell?_eq hv]
  | _ => rfl

theorem isCollection (h : w.Grows w') (hw : w.Whole) (hv : w.Holds v) :
    w'.isCollection v = w.isCollection v := by
  have harray : w'.isArray v = w.isArray v := by
    simp only [World.isArray, h.baseCell? hw hv]
  have hmapping : w'.isMapping v = w.isMapping v := by
    simp only [World.isMapping, h.mapping? hw hv]
  have hiterable : w'.isIterable v = w.isIterable v := by
    simp only [World.isIterable, World.isIterator, hmapping, h.isSequence hw hv,
      h.repeatable? hw hv, h.isSet hw hv, h.stream? hv]
  unfold World.isCollection
  rw [h.isText hw hv, hmapping]
  cases v <;> simp only [harray, hiterable]

theorem members? (h : w.Grows w') (hw : w.Whole) (hv : w.Holds v) :
    w'.members? v = w.members? v := by
  simp only [World.members?, h.sequence? hw hv, h.mapping? hw hv, h.repeatable? hw hv]

theorem size? (h : w.Grows w') (hw : w.Whole) (hv : w.Holds v) : w'.size? v = w.size? v := by
  induction v with
  | view tag target ih => simpa only [World.size?] using ih hv
  | part tag which target =>
    have htarget : w.Holds target := hv
    cases which <;>
      simp only [World.size?, h.sequence? hw hv, h.mapping? hw hv, h.mapping? hw htarget,
        h.baseCell? hw hv, h.repeatable? hw hv]
  | flags => rfl
  | _ =>
    simp only [World.size?, h.sequence? hw hv, h.mapping? hw hv, h.baseCell? hw hv,
      h.repeatable? hw hv]

theorem asTwo? (h : w.Grows w') (hw : w.Whole) (hv : w.Holds v) : w'.asTwo? v = w.asTwo? v := by
  simp only [World.asTwo?, h.baseCell? hw hv]

theorem inTwo (h : w.Grows w') (hw : w.Whole) {e : Element} (he : w.Holds e) :
    w'.inTwo e = w.inTwo e := by
  cases e with
  | value v =>
    have hv : w.Holds v := he
    simp only [World.inTwo, h.members? hw hv, h.stream? hv, h.typeInMessages hv]
  | pair => rfl

theorem nameText (h : w.Grows w') (hv : w.Holds v) : w'.nameText v = w.nameText v := by
  simp only [World.nameText, typeName, h.text? hv, h.classOf hv, h.classes]

theorem askingRank (h : w.Grows w') (hw : w.Whole) (hv : w.Holds v) :
    w'.askingRank v = w.askingRank v := by
  simp only [World.askingRank, h.shownScope? hw hv]

theorem nesting_le (h : w.Grows w') (v : Value) : w.nesting v ≤ w'.nesting v :=
  Nat.add_le_add_right h.bulk_le _

end Grows

end World

end TemplateEngine
