import TemplateEngine.Proofs.Spares
import TemplateEngine.Proofs.BindingsRun
/-!
What a computation that leaves hidden cells alone cannot change: texts, and mappings whose cell is
frozen.
-/
namespace TemplateEngine

theorem Cell.base?_of_shape {c d : Cell} (h : d.shape = c.shape) : d.base? = c.base? := by
  have hshape : ∀ c : Cell, c.shape.base? = c.base? := fun c => by cases c <;> rfl
  rw [← hshape d, ← hshape c, h]

namespace World

namespace Kept

variable {V : Veil} {w w' : World} {v : Value}

theorem base (h : Kept V w w') (href : ∀ i, v = .ref i → ∃ c, w.cell? i = some c)
    (hmember : ∀ e k, v = .member e k → ∃ info, w.class? e = some info) :
    w'.base v = w.base v := by
  cases v with
  | ref i =>
    obtain ⟨c, hc⟩ := href i rfl
    obtain ⟨c', hc', hshape⟩ := h.shape i c hc
    rw [base_ref, base_ref, hc, hc', Option.bind_some, Option.bind_some,
      Cell.base?_of_shape hshape]
  | member e k =>
    obtain ⟨info, hinfo⟩ := hmember e k rfl
    obtain ⟨members, hinfo'⟩ := h.classes e info hinfo
    simp only [World.base, hinfo, hinfo']
  | _ => rfl

/-- What a value is built on stays, if that is another value. -/
theorem base_of_ne (h : Kept V w w') {b : Value} (hb : w.base v = b) (hne : b ≠ v) :
    w'.base v = b := by
  rw [h.base ?_ ?_, hb]
  · rintro i rfl
    cases hc : w.cell? i with
    | none => exact absurd (by simpa [World.base, hc] using hb.symm) hne
    | some c => exact ⟨c, rfl⟩
  · rintro e k rfl
    cases hinfo : w.class? e with
    | none => exact absurd (by simpa [World.base, hinfo] using hb.symm) hne
    | some info => exact ⟨info, rfl⟩

theorem text? (h : Kept V w w') {s : String} (hs : w.text? v = some s) : w'.text? v = some s := by
  have hbase : w.base v = .text s := by
    unfold World.text? at hs
    split at hs <;> simp_all
  have hbase' : w'.base v = .text s := by
    by_cases hv : v = .text s
    · rw [hv]
      rfl
    · exact h.base_of_ne hbase (Ne.symm hv)
  simp [World.text?, hbase']

theorem named? (h : Kept V w w') {given : List (Value × Value)} :
    ∀ {entries : List (Name Value × Value)}, w.named? given = some entries →
      w'.named? given = some entries := by
  induction given with
  | nil => exact fun hn => hn
  | cons e rest ih =>
    obtain ⟨key, x⟩ := e
    intro entries hn
    cases ht : w.text? key with
    | none => simp [World.named?, ht] at hn
    | some text =>
      cases hrest : w.named? rest with
      | none => simp [World.named?, ht, hrest] at hn
      | some tail => simpa [World.named?, ht, hrest, h.text? ht, ih hrest] using hn

theorem base_of_baseCell? (h : Kept V w w') {c : Cell} (hc : w.baseCell? v = some c) :
    w'.base v = w.base v := by
  obtain ⟨i, hbase, hi⟩ := World.base_of_baseCell? hc
  by_cases hv : v = .ref i
  · refine h.base (fun j hj => ?_) (fun e k hk => by simp [hv] at hk)
    obtain rfl : i = j := Value.ref.inj (hv.symm.trans hj)
    exact ⟨c, hi⟩
  · exact (h.base_of_ne hbase (Ne.symm hv)).trans hbase.symm

/-- A value that is built on a frozen cell stays so. -/
theorem baseCell? (h : Kept V w w') {c : Cell} (hc : w.baseCell? v = some c)
    (hstore : ∀ i, w.store? v = some i → i ∈ V.frozen) : w'.baseCell? v = some c := by
  obtain ⟨i, hbase, hi⟩ := World.base_of_baseCell? hc
  simp only [World.baseCell?, (h.base_of_baseCell? hc).trans hbase,
    h.frozen i (hstore i (store?_of_base hbase)), hi]

theorem store?_of_baseCell? (h : Kept V w w') {c : Cell} (hc : w.baseCell? v = some c) :
    w'.store? v = w.store? v := by
  obtain ⟨i, hbase, -⟩ := World.base_of_baseCell? hc
  rw [store?_of_base hbase, store?_of_base ((h.base_of_baseCell? hc).trans hbase)]

theorem store?_of_mapping? (h : Kept V w w') {entries : List (Value × Value)}
    (hm : w.mapping? v = some entries) : w'.store? v = w.store? v := by
  fun_induction World.mapping? w v with
  | case1 tag target ih => simpa only [World.store?] using ih hm
  | case2 owner => rfl
  | case3 v hreadOnly hsub fluent found hcell => exact h.store?_of_baseCell? hcell
  | case4 v hreadOnly hsub scope hcell => exact h.store?_of_baseCell? hcell
  | case5 => simp at hm

theorem mapping? (h : Kept V w w') {entries : List (Value × Value)}
    (hm : w.mapping? v = some entries) (hstore : ∀ i, w.store? v = some i → i ∈ V.frozen) :
    w'.mapping? v = some entries := by
  fun_induction World.mapping? w v with
  | case1 tag target ih => simpa only [World.mapping?] using ih hm hstore
  | case2 owner => simpa only [World.mapping?, h.forest] using hm
  | case3 v hreadOnly hsub fluent found hcell =>
    rw [World.mapping?.eq_3 _ _ hreadOnly hsub, h.baseCell? hcell hstore]
    exact hm
  | case4 v hreadOnly hsub scope hcell =>
    rw [World.mapping?.eq_3 _ _ hreadOnly hsub, h.baseCell? hcell hstore]
    exact hm
  | case5 => simp at hm

/-- A mapping that is no scope does not become one. -/
theorem baseCell?_ne_bindings (h : Kept V w w') {entries : List (Value × Value)}
    (hm : w.mapping? v = some entries) (hstore : ∀ i, w.store? v = some i → i ∈ V.frozen)
    (hv : ∀ s : Scope Value Value, w.baseCell? v = some (.bindings s) → False)
    (s : Scope Value Value) : w'.baseCell? v ≠ some (.bindings s) := by
  rcases shape_of_mapping hm with ⟨tag, target, rfl⟩ | ⟨owner, rfl⟩ | ⟨i, hbase, hcell⟩
  · simp [World.baseCell?, World.base]
  · simp [World.baseCell?, World.base]
  · rcases hcell with ⟨fluent, found, hi⟩ | ⟨scope, hi⟩
    · have hdict : w.baseCell? v = some (.dict fluent found) := by
        simp [World.baseCell?, hbase, hi]
      rw [h.baseCell? hdict hstore]
      simp
    · exact absurd (by simp [World.baseCell?, hbase, hi]) (hv scope)

/-- What new scopes are made of stays, if it is in a frozen cell. -/
theorem starts? (h : Kept V w w') {entries : List (Name Value × Value)}
    (hs : w.starts? v = some entries) (hstore : ∀ i, w.store? v = some i → i ∈ V.frozen) :
    w'.starts? v = some entries := by
  fun_cases World.starts? w v with
  | case1 => exact hs
  | case2 v hnull scope hscope =>
    rw [World.starts?.eq_2 _ _ hnull, hscope] at hs
    rw [World.starts?.eq_2 _ _ hnull, h.baseCell? hscope hstore]
    exact hs
  | case3 v hnull hnotScope =>
    obtain ⟨mapped, hmapped, hnamed⟩ := starts?_of_mapping hnull hnotScope hs
    have hnotScope' := h.baseCell?_ne_bindings hmapped hstore hnotScope
    rw [World.starts?.eq_2 _ _ hnull]
    split
    · rename_i s hs'
      exact absurd hs' (hnotScope' s)
    · rw [h.mapping? hmapped hstore, Option.bind_some, h.named? hnamed]

theorem store? (h : Kept V w w') {entries : List (Name Value × Value)}
    (hs : w.starts? v = some entries) : w'.store? v = w.store? v := by
  fun_cases World.starts? w v with
  | case1 => rfl
  | case2 v hnull scope hscope => exact h.store?_of_baseCell? hscope
  | case3 v hnull hnotScope =>
    obtain ⟨mapped, hmapped, -⟩ := starts?_of_mapping hnull hnotScope hs
    exact h.store?_of_mapping? hmapped

end Kept

end World

end TemplateEngine
