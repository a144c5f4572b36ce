import TemplateEngine.Proofs.Containers
import TemplateEngine.Proofs.Depth
/-!
Resolving a property of a container is a read, unless it falls through to an accessor that changes the
container: then the container is changed, and otherwise it stays, and whatever was resolved before
makes no difference.
-/
namespace TemplateEngine

/-- What a read gives, but for which number, view or copy of its own it is. -/
inductive Reading
  | value (v : Value)
  | failure (f : Fault)
  | number (v : Value)
  | part (which : MappingPart)
  | copy (items : List Value)

/-- A read of a target gave a reading: numbers, views and copies that are new since some world. -/
inductive Reading.Given (w w' : World) (target : Value) : Reading → Except Fault Value → Prop
  | value (v : Value) : Given w w' target (.value v) (.ok v)
  | failure (f : Fault) : Given w w' target (.failure f) (.error f)
  | number {v : Value} {mark : Nat} (bare : v.isBare = true) (new : w.nextTag ≤ mark) :
    Given w w' target (.number v) (.ok (v.marked mark))
  | part (which : MappingPart) {tag : Nat} (new : w.nextTag ≤ tag) :
    Given w w' target (.part which) (.ok (.part tag which target))
  | copy {items : List Value} {j : Nat} (new : w.cell? j = none)
    (made : w'.cell? j = some (.list items)) :
    Given w w' target (.copy items) (.ok (.ref j))

/-- A computation gives the same in every world that one grows into, and changes nothing there. -/
def World.Steady {α : Type} (w : World) (x : M α) : Prop :=
  ∃ r, ∀ w₁, w.Grows w₁ → (outcome x w₁).1 = r ∧ w₁.Grows (outcome x w₁).2

/-- A computation reads a target: it gives the same reading in every world that one grows into, and
changes nothing there. -/
def World.Reads (w : World) (target : Value) (x : M Value) : Prop :=
  ∃ reading : Reading, ∀ w₁, w.Grows w₁ →
    w₁.Grows (outcome x w₁).2 ∧ reading.Given w (outcome x w₁).2 target (outcome x w₁).1

variable {w w' w'' : World} {target : Value}

theorem Reading.Given.later {reading : Reading} {r : Except Fault Value}
    (h : reading.Given w w' target r) (hg : w'.Grows w'') : reading.Given w w'' target r := by
  cases h with
  | value v => exact .value v
  | failure f => exact .failure f
  | number bare new => exact .number bare new
  | part which new => exact .part which new
  | copy new made => exact .copy new (hg.cells _ _ made)

/-- Whether a read found nothing is told by its reading. -/
theorem Reading.Given.eq_null {reading : Reading} {r : Except Fault Value}
    (h : reading.Given w w' target r) : r = .ok .null ↔ reading = .value .null := by
  cases h with
  | value v => simp
  | failure f => simp
  | @number v mark bare new =>
    have hne : v.marked mark ≠ .null := by cases v <;> simp_all [Value.isBare, Value.marked]
    simp [hne]
  | part which new => simp
  | copy new made => simp

namespace World.Reads

theorem value {x : M Value} (v : Value) (h : ∀ w₁, w.Grows w₁ → outcome x w₁ = (.ok v, w₁)) :
    w.Reads target x :=
  ⟨.value v, fun w₁ hg => by rw [h w₁ hg]; exact ⟨.refl _, .value v⟩⟩

theorem failure {x : M Value} (f : Fault) (h : ∀ w₁, w.Grows w₁ → outcome x w₁ = (.error f, w₁)) :
    w.Reads target x :=
  ⟨.failure f, fun w₁ hg => by rw [h w₁ hg]; exact ⟨.refl _, .failure f⟩⟩

theorem congr {x y : M Value} (hy : w.Reads target y)
    (h : ∀ w₁, w.Grows w₁ → outcome x w₁ = outcome y w₁) : w.Reads target x := by
  obtain ⟨reading, hreading⟩ := hy
  exact ⟨reading, fun w₁ hg => h w₁ hg ▸ hreading w₁ hg⟩

/-- What comes next matters only if nothing was found so far. -/
theorem orElse {x next : M Value} (hx : w.Reads target x)
    (hnext : (outcome x w).1 = .ok .null → w.Reads target next) :
    w.Reads target (do TemplateEngine.orElse (← x) next) := by
  obtain ⟨reading, hreading⟩ := hx
  by_cases hnull : reading = .value .null
  · have hfound : ∀ w₁, w.Grows w₁ → ∃ w₂, outcome x w₁ = (.ok .null, w₂) ∧ w₁.Grows w₂ :=
      fun w₁ hg => ⟨_, Prod.ext ((hreading w₁ hg).2.eq_null.mpr hnull) rfl, (hreading w₁ hg).1⟩
    obtain ⟨w₀, h₀, -⟩ := hfound w (.refl w)
    obtain ⟨reading', hreading'⟩ := hnext (by rw [h₀])
    refine ⟨reading', fun w₁ hg => ?_⟩
    obtain ⟨w₂, h₂, hg₂⟩ := hfound w₁ hg
    obtain ⟨hg₃, hgiven⟩ := hreading' w₂ (hg.trans hg₂)
    rw [outcome_orElse, h₂]
    exact ⟨hg₂.trans hg₃, hgiven⟩
  · refine ⟨reading, fun w₁ hg => ?_⟩
    obtain ⟨hgrows, hgiven⟩ := hreading w₁ hg
    have hsame : outcome (do TemplateEngine.orElse (← x) next) w₁ = outcome x w₁ := by
      rw [outcome_orElse]
      split
      · rename_i w₂ h₂
        rw [h₂] at hgiven
        exact absurd (hgiven.eq_null.mp rfl) hnull
      · rfl
    rw [hsame]
    exact ⟨hgrows, hgiven⟩

theorem bind {α : Type} {x : M α} {f : α → M Value} (hx : w.Steady x)
    (hf : ∀ a, (outcome x w).1 = .ok a → w.Reads target (f a)) : w.Reads target (x >>= f) := by
  obtain ⟨r, hr⟩ := hx
  have hstep : ∀ w₁, w.Grows w₁ → ∃ w₂, outcome x w₁ = (r, w₂) ∧ w₁.Grows w₂ :=
    fun w₁ hg => ⟨_, Prod.ext (hr w₁ hg).1 rfl, (hr w₁ hg).2⟩
  cases r with
  | error f =>
    refine ⟨.failure f, fun w₁ hg => ?_⟩
    obtain ⟨w₂, h₂, hg₂⟩ := hstep w₁ hg
    rw [outcome_bind_error h₂]
    exact ⟨hg₂, .failure f⟩
  | ok a =>
    obtain ⟨reading, hreading⟩ := hf a (hr w (.refl w)).1
    refine ⟨reading, fun w₁ hg => ?_⟩
    obtain ⟨w₂, h₂, hg₂⟩ := hstep w₁ hg
    obtain ⟨hg₃, hgiven⟩ := hreading w₂ (hg.trans hg₂)
    rw [outcome_bind_ok h₂]
    exact ⟨hg₂.trans hg₃, hgiven⟩

theorem null : w.Reads target (pure .null) := value .null fun _ _ => rfl

theorem withName {p : Value} {next : String → M Value} (hp : w.Steady (templateText? p))
    (hnext : ∀ name, (outcome (templateText? p) w).1 = .ok (some name) →
      w.Reads target (next name)) : w.Reads target (TemplateEngine.withName p next) := by
  refine bind hp fun found hfound => ?_
  cases found with
  | none => exact null
  | some name =>
    dsimp only
    split
    · exact null
    · exact hnext name hfound

/-- Reads one after the other give what each would have given alone. -/
theorem run {α : Type} {xs : List α} {x : α → M Value}
    (h : ∀ a ∈ xs, w.Reads target (x a)) {w₁ : World} (hg : w.Grows w₁) :
    ∃ answers w', outcome (xs.mapM fun a => attempt (x a)) w₁ = (.ok answers, w') ∧ w₁.Grows w' ∧
      List.Forall₂ (fun a answer => ∃ reading : Reading, reading.Given w w' target answer ∧
        reading.Given w (outcome (x a) w).2 target (outcome (x a) w).1) xs answers := by
  induction xs generalizing w₁ with
  | nil => exact ⟨[], w₁, rfl, .refl w₁, .nil⟩
  | cons a rest ih =>
    obtain ⟨reading, hreading⟩ := h a (List.mem_cons_self ..)
    obtain ⟨hstep, hgiven⟩ := hreading w₁ hg
    obtain ⟨answers, w', hrun, hgrows, hanswers⟩ :=
      ih (fun b hb => h b (List.mem_cons_of_mem a hb)) (hg.trans hstep)
    refine ⟨(outcome (x a) w₁).1 :: answers, w', ?_, hstep.trans hgrows, .cons ?_ hanswers⟩
    · rw [List.mapM_cons, outcome_bind, outcome_attempt]
      dsimp only
      rw [outcome_bind_ok hrun]
      rfl
    · exact ⟨reading, hgiven.later hgrows, (hreading w (.refl w)).2⟩

end World.Reads

section

variable {i : Nat} {c : Cell} {s : Standard} {p : Value}

theorem steady_asIndex (hp : w.Holds p) : w.Steady (asIndex p) := by
  refine ⟨(outcome (asIndex p) w).1, fun w₁ hg => ?_⟩
  simp only [asIndex, outcome_get_bind, hg.base hp]
  split
  · split <;> exact ⟨rfl, .refl _⟩
  · exact ⟨rfl, .refl _⟩
  · split <;> exact ⟨rfl, .refl _⟩
  · split <;> exact ⟨rfl, .refl _⟩
  · exact ⟨rfl, .refl _⟩

/-- An element is given as it is, or as a number of its own. -/
theorem reads_asObject (v : Value) : w.Reads target (asObject v) := by
  by_cases hv : v.isBare = true
  · refine ⟨.number v, fun w₁ hg => ?_⟩
    have hrun : outcome (asObject v) w₁ =
        (.ok (v.marked w₁.nextTag), { w₁ with nextTag := w₁.nextTag + 1 }) := by
      simp [asObject, hv]
    rw [hrun]
    exact ⟨.withTag w₁, .number hv hg.tags⟩
  · exact .value v fun w₁ _ => by simp [asObject, hv]

theorem holds_ref (hc : w.cell? i = some c) : w.Holds (Value.ref i) :=
  ⟨World.lt_size_of_cell? hc, id⟩

section

variable (hw : w.Whole) (hc : w.cell? i = some c) (hs : IsContainer c s)

include hc hs

theorem reads_indexTarget (hp : w.Holds p) :
    w.Reads (.ref i) (indexTarget (.ref i) (.ref i) p) := by
  refine .bind (steady_asIndex hp) fun index _ => ?_
  cases index with
  | none => exact .null
  | some index =>
    have hrun := fun w₁ (hg : w.Grows w₁) =>
      outcome_elementOfTarget_container (hg.cells i c hc) hs index
    cases hitems : c.elements? with
    | none => exact .value .null fun w₁ hg => by simp [hrun w₁ hg, hitems]
    | some items =>
      simp only [hitems] at hrun
      by_cases hneg : index < 0
      · exact .value .null fun w₁ hg => by simp [hrun w₁ hg, hneg]
      by_cases hlong : maxLength ≤ items.length
      · exact .failure .lengthTooLarge fun w₁ hg => by simp [hrun w₁ hg, hneg, hlong]
      · exact (reads_asObject (items[index.toNat]?.getD .null)).congr
          fun w₁ hg => by simp [hrun w₁ hg, hneg, hlong]

include hw in
/-- The text method gives the plain text, or fails as the line that is logged about it does. -/
theorem reads_plainText {t : Standard} (ht : t ∈ s :: s.ancestors)
    (hfound : Classes.findMember? w.classes (.standard s) "__str__" =
      some (.standard t, .native t .accessor))
    (hshown : w.display (.ref i) ≠ .error .nestedTooDeep) :
    w.Reads (.ref i) (callNamed (.ref i) "__str__") := by
  have hi : w.Holds (Value.ref i) := holds_ref hc
  have hrun : ∀ w₁, w.Grows w₁ → outcome (callNamed (.ref i) "__str__") w₁ =
      ((w.display (.ref i)).map .text, { w₁ with nextTag := w₁.nextTag + 1 }) := by
    intro w₁ hg
    have hg₂ := hg.trans (.withTag w₁)
    have hdisplay := World.deeper_display hg₂ hw hi hshown
    have hplain : ({ w₁ with nextTag := w₁.nextTag + 1 } : World).plainText (.ref i) =
        w.display (.ref i) := by
      rw [← hdisplay]
      simp [World.plainText, (ref_of_container (hg₂.cells i c hc) hs).1]
    rw [outcome_callNamed_container (hg.cells i c hc) hs ht (hg.classes ▸ hfound)]
    cases htext : w.display (.ref i) with
    | ok text => simp [callAccessor, hplain, htext, outcome_bind, Except.map]
    | error f => simp [callAccessor, hplain, htext, outcome_bind, displayed, hdisplay, Except.map]
  cases htext : w.display (.ref i) with
  | ok text =>
    refine ⟨.value (.text text), fun w₁ hg => ?_⟩
    rw [hrun w₁ hg, htext]
    exact ⟨.withTag w₁, .value _⟩
  | error f =>
    refine ⟨.failure f, fun w₁ hg => ?_⟩
    rw [hrun w₁ hg, htext]
    exact ⟨.withTag w₁, .failure f⟩

include hw in
theorem reads_callNamed {n : String} (hn : n ∈ s.accessors)
    (hshown : n = "__str__" → w.display (.ref i) ≠ .error .nestedTooDeep) (hmutator : n ∉ s.mutators)
    {t : Standard} (ht : t ∈ s :: s.ancestors)
    (hfound : Classes.findMember? w.classes (.standard s) n =
      some (.standard t, .native t .accessor)) :
    w.Reads (.ref i) (callNamed (.ref i) n) := by
  by_cases htext : n = "__str__"
  · subst htext
    exact reads_plainText hw hc hs ht hfound (hshown rfl)
  have hrun := fun w₁ (hg : w.Grows w₁) =>
    (outcome_callNamed_container (hg.cells i c hc) hs ht (hg.classes ▸ hfound)).trans <| by
      rw [outcome_callAccessor_container
        ((World.Grows.withTag w₁).cells i c (hg.cells i c hc)) hs ht htext]
  rcases Standard.accessors_of_container (containers_of_class hs) hn
    with hm | htext' | ⟨rfl, rfl⟩ | ⟨rfl, hview⟩
  · exact absurd hm hmutator
  · exact absurd htext' htext
  · cases hs with
    | list items =>
      refine ⟨.copy items, fun w₁ hg => ?_⟩
      have hnew : w.cell? w₁.cells.size = none := by
        by_contra hne
        obtain ⟨c, hc⟩ := Option.ne_none_iff_exists'.mp hne
        exact Nat.lt_irrefl _ (World.lt_size_of_cell? (hg.cells _ c hc))
      rw [hrun w₁ hg]
      exact ⟨(World.Grows.withTag w₁).trans (.withCell _ (.list items)),
        .copy hnew (by simp [callListAccessor, newList, World.cell?])⟩
  · cases hs with
    | bindings scope =>
      have hpart : ∀ (which : MappingPart), (∀ w₁, w.Grows w₁ → outcome (callNamed (.ref i) n) w₁ =
          (.ok (.part (w₁.nextTag + 1) which (.ref i)), { w₁ with nextTag := w₁.nextTag + 2 })) →
            w.Reads (.ref i) (callNamed (.ref i) n) := fun which h =>
        ⟨.part which, fun w₁ hg => by
          rw [h w₁ hg]
          exact ⟨(World.Grows.withTag w₁).trans (.withTag _), .part which (Nat.le_succ_of_le hg.tags)⟩⟩
      simp only [List.mem_cons, List.not_mem_nil, or_false] at hview
      rcases hview with rfl | rfl | rfl | rfl
      · exact hpart .items fun w₁ hg => by simp [hrun w₁ hg, callBindingsAccessor]
      · exact hpart .keys fun w₁ hg => by simp [hrun w₁ hg, callBindingsAccessor]
      · exact hpart .values fun w₁ hg => by simp [hrun w₁ hg, callBindingsAccessor]
      · refine ⟨.value .null, fun w₁ hg => ?_⟩
        rw [hrun w₁ hg]
        exact ⟨.withTag w₁, .value _⟩

omit hs in
include hw in
/-- What is found under a key stays found, unless nesting was too deep for finding it. -/
theorem entry_of_grows (hg : w.Grows w') (hp : w.Holds p)
    (hdeep : w.entry c p ≠ .error .nestedTooDeep) : w'.entry c p = w.entry c p := by
  have hcell := hw.visible (holds_ref hc) hc
  cases c with
  | dict fluent entries =>
    have hlook := World.deeper_lookUp hg hw (World.within_entries.mp hcell) hp
    have hsame : (do w'.hash p; entryFor (w'.agreeFrom w'.bulk) p entries) =
        (do w.hash p; entryFor (w.agreeFrom w.bulk) p entries) :=
      hlook fun h => hdeep (by simp [World.entry, h, Fault.kindName])
    simp only [World.entry, hsame]
  | bindings scope => simp only [World.entry, hg.text? hp]
  | _ => rfl

include hw in
theorem reads_resolveName {name : String} (hp : w.Holds p)
    (hdeep : w.entry c p ≠ .error .nestedTooDeep)
    (hsafe : w.entry c p = .ok .null → c.field name = .null → ∀ n owner,
      findAccessor? w.classes (.standard s) name = some (n, owner) →
        n ∉ s.mutators ∧ (n = "__str__" → w.display (.ref i) ≠ .error .nestedTooDeep)) :
    w.Reads (.ref i) (resolveName (.ref i) p name) := by
  have hrun := fun w₁ (hg : w.Grows w₁) => outcome_resolveName_container (hg.cells i c hc) hs p name
  have hsame := fun w₁ (hg : w.Grows w₁) => entry_of_grows hw hc hg hp hdeep
  cases hentry : w.entry c p with
  | error f => exact .failure f fun w₁ hg => by rw [hrun w₁ hg, hsame w₁ hg, hentry]
  | ok x =>
    by_cases hx : x = .null
    · subst hx
      by_cases hfield : c.field name = .null
      · cases haccessor : findAccessor? w.classes (.standard s) name with
        | none =>
          refine .value .null fun w₁ hg => ?_
          rw [hrun w₁ hg, hsame w₁ hg, hentry, hfield]
          simp [outcome_invokeAccessor_container (hg.cells i c hc) hs, hg.classes, haccessor]
        | some found =>
          obtain ⟨n, owner⟩ := found
          obtain ⟨hn, t, ht, hmember⟩ := accessor_of_standard haccessor
          obtain ⟨hmutator, hshown⟩ := hsafe hentry hfield n owner haccessor
          refine (reads_callNamed hw hc hs hn hshown hmutator ht hmember).congr fun w₁ hg => ?_
          rw [hrun w₁ hg, hsame w₁ hg, hentry, hfield]
          simp [outcome_invokeAccessor_container (hg.cells i c hc) hs, hg.classes, haccessor]
      · refine .value (c.field name) fun w₁ hg => ?_
        rw [hrun w₁ hg, hsame w₁ hg, hentry]
        dsimp only
        split <;> simp_all
    · refine .value x fun w₁ hg => ?_
      rw [hrun w₁ hg, hsame w₁ hg, hentry]
      split <;> simp_all

end

end

end TemplateEngine
