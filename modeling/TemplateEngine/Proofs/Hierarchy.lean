import TemplateEngine.Class.Hierarchy
import Mathlib.Data.List.Basic
/-!
Class hierarchies grow by one class after the other, whose bases are there. The search for a public
class goes to earlier classes only, so it ends, and what it finds stands in the resolution order of
the class where it began.
-/
namespace TemplateEngine

namespace Classes

/-- A class that is built in or declared. -/
def Knows (cs : Classes) : ClassId → Prop
  | .standard _ => True
  | .declared i => i < cs.size

/-- The hierarchies that declarations make: a new class has known bases with a common order; what a
class is called and what it defines may change later, its bases and its order do not. -/
inductive Grown : Classes → Prop
  | empty : Grown #[]
  | declared {cs : Classes} {info : ClassInfo} {rest : List ClassId} (h : Grown cs)
      (bases : ∀ b ∈ info.bases, cs.Knows b) (merged : linearize cs info.bases = some rest)
      (order : info.order = .declared cs.size :: rest) : Grown (cs.push info)
  | revised {cs : Classes} {i : Nat} {f : ClassInfo → ClassInfo} (h : Grown cs)
      (bases : ∀ info, (f info).bases = info.bases) (order : ∀ info, (f info).order = info.order) :
      Grown (cs.modify i f)

/-- How late a class comes: public built-in classes come first, then private ones. -/
def rank : ClassId → Nat
  | .standard s => if (nameParts s.qualifiedName).any isPrivateName then 1 else 0
  | .declared i => i + 2

/-- What a merge gives is what stands in its lists. -/
theorem mem_merge {fuel : Nat} {lists : List (List ClassId)} {merged : List ClassId} {c : ClassId}
    (h : merge fuel lists = some merged) : c ∈ merged ↔ ∃ l ∈ lists, c ∈ l := by
  induction fuel generalizing lists merged with
  | zero => simp [merge] at h
  | succ fuel ih =>
    have hfilter : (∃ l ∈ lists.filter (!·.isEmpty), c ∈ l) ↔ ∃ l ∈ lists, c ∈ l := by
      constructor
      · rintro ⟨l, hl, hc⟩
        exact ⟨l, List.mem_of_mem_filter hl, hc⟩
      · rintro ⟨l, hl, hc⟩
        refine ⟨l, List.mem_filter.mpr ⟨hl, ?_⟩, hc⟩
        cases l with
        | nil => simp at hc
        | cons => rfl
    rw [← hfilter]
    simp only [merge] at h
    generalize lists.filter (!·.isEmpty) = lists at h
    split at h
    · rename_i hempty
      obtain rfl := Option.some.inj h
      have hnil : lists = [] := List.isEmpty_iff.mp hempty
      simp [hnil]
    · obtain ⟨head, hhead, h⟩ := Option.bind_eq_some_iff.mp h
      obtain ⟨tail, htail, rfl⟩ := Option.map_eq_some_iff.mp h
      have hmem : ∃ l ∈ lists, head ∈ l := by
        have hfound := List.mem_of_find?_eq_some hhead
        obtain ⟨l, hl, hlhead⟩ := List.mem_filterMap.mp hfound
        exact ⟨l, hl, List.mem_of_head? hlhead⟩
      by_cases hc : c = head
      · subst hc
        simpa using hmem
      · simp [hc, ih htail]

theorem mem_linearize {cs : Classes} {bases rest : List ClassId} {c : ClassId}
    (h : linearize cs bases = some rest) : c ∈ rest ↔ (∃ b ∈ bases, c ∈ cs.order b) ∨ c ∈ bases := by
  rw [mem_merge h]
  simp only [List.mem_append, List.mem_map, List.mem_singleton]
  constructor
  · rintro ⟨l, ⟨b, hb, rfl⟩ | rfl, hc⟩
    · exact Or.inl ⟨b, hb, hc⟩
    · exact Or.inr hc
  · rintro (⟨b, hb, hc⟩ | hc)
    · exact ⟨_, Or.inl ⟨b, hb, rfl⟩, hc⟩
    · exact ⟨_, Or.inr rfl, hc⟩

/-- What the resolution orders and bases of a hierarchy have in common. -/
structure Sound (cs : Classes) : Prop where
  self : ∀ c, c ∈ cs.order c
  notLater : ∀ c, ∀ k ∈ cs.order c, rank k ≤ rank c
  closed : ∀ c, ∀ k ∈ cs.order c, cs.order k ⊆ cs.order c
  basesEarlier : ∀ i, ∀ b ∈ cs.bases (.declared i), rank b < rank (.declared i)
  baseInOrder : ∀ c, ∀ b ∈ cs.bases c, b ∈ cs.order c

theorem ancestors_closed (s : Standard) : ∀ k ∈ s.ancestors, k.ancestors ⊆ s.ancestors := by
  cases s <;> decide

theorem rank_ancestor (s : Standard) : ∀ k ∈ s.ancestors, rank (.standard k) = 0 := by
  cases s <;> decide

theorem rank_standard_le (s : Standard) : rank (.standard s) ≤ 1 := by
  change (if _ then 1 else 0) ≤ 1
  split <;> simp

/-- What the definitions of a hierarchy tell of a built-in class. -/
theorem order_standard_closed (cs : Classes) (s : Standard) :
    ∀ k ∈ cs.order (.standard s), cs.order k ⊆ cs.order (.standard s) := by
  intro k hk
  simp only [order, List.mem_cons, List.mem_map] at hk
  rcases hk with rfl | ⟨a, ha, rfl⟩
  · exact List.Subset.refl _
  · have hsub := ancestors_closed s a ha
    intro x hx
    simp only [order, List.mem_cons, List.mem_map] at hx ⊢
    rcases hx with rfl | ⟨y, hy, rfl⟩
    · exact Or.inr ⟨a, ha, rfl⟩
    · exact Or.inr ⟨y, hsub hy, rfl⟩

theorem sound_empty : Sound #[] where
  self c := by cases c <;> simp [order]
  notLater c k hk := by
    cases c with
    | standard s =>
      simp only [order, List.mem_cons, List.mem_map] at hk
      rcases hk with rfl | ⟨a, ha, rfl⟩
      · exact Nat.le_refl _
      · rw [rank_ancestor s a ha]
        exact Nat.zero_le _
    | declared i =>
      obtain rfl : k = .declared i := by simpa [order] using hk
      exact Nat.le_refl _
  closed c k hk := by
    cases c with
    | standard s => exact order_standard_closed _ s k hk
    | declared i =>
      obtain rfl : k = .declared i := by simpa [order] using hk
      exact List.Subset.refl _
  basesEarlier i b hb := by simp [bases] at hb
  baseInOrder c b hb := by
    cases c with
    | standard s => exact List.mem_cons_of_mem _ (List.mem_of_mem_take hb)
    | declared i => simp [bases] at hb

section Push

variable {cs : Classes} {info : ClassInfo} {c : ClassId}

theorem order_push_of_ne (hc : c ≠ .declared cs.size) : order (cs.push info) c = order cs c := by
  cases c with
  | standard s => rfl
  | declared i =>
    have hi : i ≠ cs.size := fun h => hc (h ▸ rfl)
    simp [order, Array.getElem?_push, hi]

theorem bases_push_of_ne (hc : c ≠ .declared cs.size) : bases (cs.push info) c = bases cs c := by
  cases c with
  | standard s => rfl
  | declared i =>
    have hi : i ≠ cs.size := fun h => hc (h ▸ rfl)
    simp [bases, Array.getElem?_push, hi]

theorem order_push_self : order (cs.push info) (.declared cs.size) = info.order := by
  simp [order]

theorem bases_push_self : bases (cs.push info) (.declared cs.size) = info.bases := by
  simp [bases]

theorem Knows.rank_le (hc : cs.Knows c) : rank c ≤ cs.size + 1 := by
  cases c with
  | standard s => exact Nat.le_trans (rank_standard_le s) (Nat.le_add_left 1 _)
  | declared i => exact Nat.succ_le_succ hc

theorem ne_of_rank_le (hc : rank c ≤ cs.size + 1) : c ≠ .declared cs.size := by
  rintro rfl
  exact absurd hc (Nat.not_succ_le_self _)

/-- The next class stands in no resolution order yet. -/
theorem Sound.ne_of_mem_order (h : Sound cs) (hc : c ≠ .declared cs.size) :
    ∀ k ∈ cs.order c, k ≠ .declared cs.size := by
  intro k hk
  by_cases hknown : rank c ≤ cs.size + 1
  · exact ne_of_rank_le (Nat.le_trans (h.notLater c k hk) hknown)
  · cases c with
    | standard s => exact absurd (Nat.le_trans (rank_standard_le s) (Nat.le_add_left 1 _)) hknown
    | declared i =>
      have hnone : cs[i]? = none := by simp only [rank] at hknown; simp; omega
      obtain rfl : k = .declared i := by simpa [order, hnone] using hk
      exact hc

theorem Sound.push {rest : List ClassId} (h : Sound cs) (hbases : ∀ b ∈ info.bases, cs.Knows b)
    (hmerged : linearize cs info.bases = some rest)
    (horder : info.order = .declared cs.size :: rest) : Sound (cs.push info) := by
  have hnew : order (cs.push info) (.declared cs.size) = .declared cs.size :: rest :=
    order_push_self.trans horder
  have hrest : ∀ c, c ∈ rest ↔ ∃ b ∈ info.bases, c ∈ cs.order b := by
    intro c
    rw [mem_linearize hmerged]
    exact ⟨fun hc => hc.elim id fun hb => ⟨c, hb, h.self c⟩, Or.inl⟩
  have hbase : ∀ b ∈ info.bases, b ≠ .declared cs.size := fun b hb =>
    ne_of_rank_le (hbases b hb).rank_le
  refine ⟨fun c => ?_, fun c k hk => ?_, fun c k hk => ?_, fun i b hb => ?_, fun c b hb => ?_⟩
  · by_cases hc : c = .declared cs.size
    · rw [hc, hnew]
      exact List.mem_cons_self
    · rw [order_push_of_ne hc]
      exact h.self c
  · by_cases hc : c = .declared cs.size
    · rw [hc, hnew] at hk
      rcases List.mem_cons.mp hk with rfl | hk
      · exact hc ▸ Nat.le_refl _
      · obtain ⟨b, hb, hkb⟩ := (hrest k).mp hk
        have hle := Nat.le_trans (h.notLater b k hkb) (hbases b hb).rank_le
        rw [hc]
        exact Nat.le_succ_of_le hle
    · rw [order_push_of_ne hc] at hk
      exact h.notLater c k hk
  · by_cases hc : c = .declared cs.size
    · subst hc
      rw [hnew] at hk
      rcases List.mem_cons.mp hk with rfl | hk
      · exact List.Subset.refl _
      · obtain ⟨b, hb, hkb⟩ := (hrest k).mp hk
        rw [hnew, order_push_of_ne (h.ne_of_mem_order (hbase b hb) k hkb)]
        intro x hx
        exact List.mem_cons_of_mem _ ((hrest x).mpr ⟨b, hb, h.closed b k hkb hx⟩)
    · rw [order_push_of_ne hc] at hk ⊢
      rw [order_push_of_ne (h.ne_of_mem_order hc k hk)]
      exact h.closed c k hk
  · by_cases hi : i = cs.size
    · subst hi
      rw [bases_push_self] at hb
      exact Nat.lt_succ_of_le (hbases b hb).rank_le
    · have hc : ClassId.declared i ≠ .declared cs.size := fun he => hi (ClassId.declared.inj he)
      rw [bases_push_of_ne hc] at hb
      exact h.basesEarlier i b hb
  · by_cases hc : c = .declared cs.size
    · subst hc
      rw [bases_push_self] at hb
      rw [hnew]
      exact List.mem_cons_of_mem _ ((hrest b).mpr ⟨b, hb, h.self b⟩)
    · rw [bases_push_of_ne hc] at hb
      rw [order_push_of_ne hc]
      exact h.baseInOrder c b hb

end Push

theorem order_modify {cs : Classes} {i : Nat} {f : ClassInfo → ClassInfo}
    (horder : ∀ info, (f info).order = info.order) (c : ClassId) :
    order (cs.modify i f) c = order cs c := by
  cases c with
  | standard s => rfl
  | declared j =>
    simp only [order, Array.getElem?_modify]
    split <;> simp [Option.map_map, Function.comp_def, horder]

theorem bases_modify {cs : Classes} {i : Nat} {f : ClassInfo → ClassInfo}
    (hbases : ∀ info, (f info).bases = info.bases) (c : ClassId) :
    bases (cs.modify i f) c = bases cs c := by
  cases c with
  | standard s => rfl
  | declared j =>
    simp only [bases, Array.getElem?_modify]
    split <;> simp [Option.map_map, Function.comp_def, hbases]

theorem Grown.sound {cs : Classes} (h : Grown cs) : Sound cs := by
  induction h with
  | empty => exact sound_empty
  | declared _ bases merged order ih => exact ih.push bases merged order
  | revised _ bases order ih =>
    constructor
    all_goals simp only [order_modify order, bases_modify bases]
    exacts [ih.self, ih.notLater, ih.closed, ih.basesEarlier, ih.baseInOrder]

section Search

variable {cs : Classes} {name : String}

/-- The class that a private class goes on with through one of its bases comes earlier. -/
theorem Sound.rank_declaring_lt (h : Sound cs) {c base declaring : ClassId}
    (hc : cs.isPublic c = false) (hbase : base ∈ cs.bases c) (hd : declaring ∈ cs.order base) :
    rank declaring < rank c := by
  have hle := h.notLater base _ hd
  refine Nat.lt_of_le_of_lt hle ?_
  cases c with
  | standard s =>
    obtain ⟨a, ha, rfl⟩ := List.mem_map.mp (List.mem_of_mem_take hbase)
    have hprivate : (nameParts s.qualifiedName).any isPrivateName = true := by
      simpa [isPublic, qualifiedName] using hc
    rw [rank_ancestor s a ha, rank, if_pos hprivate]
    exact Nat.one_pos
  | declared i => exact h.basesEarlier i base hbase

/-- The search never runs out of fuel. -/
theorem Sound.climb_eq (h : Sound cs) {fuel fuel' : Nat} {c : ClassId} (hfuel : rank c < fuel)
    (hfuel' : rank c < fuel') : climb cs name fuel c = climb cs name fuel' c := by
  induction fuel generalizing fuel' c with
  | zero => omega
  | succ fuel ih =>
    obtain ⟨fuel', rfl⟩ : ∃ n, fuel' = n + 1 := ⟨fuel' - 1, by omega⟩
    cases hc : cs.isPublic c with
    | true => simp [climb, hc]
    | false =>
      simp only [climb, hc, Bool.false_eq_true, if_false]
      rw [← List.head?_filterMap, ← List.head?_filterMap]
      refine congrArg List.head? (List.filterMap_congr fun base hbase => ?_)
      cases hd : (cs.order base).find? (cs.declares · name) with
      | none => rfl
      | some declaring =>
        have hlt := h.rank_declaring_lt hc hbase (List.mem_of_find?_eq_some hd)
        exact ih (by omega) (by omega)

theorem Sound.climb_eq_publicOwner? (h : Sound cs) {fuel : Nat} (hfuel : cs.size + 2 ≤ fuel)
    (c : ClassId) : climb cs name fuel c = publicOwner? cs c name := by
  obtain ⟨fuel, rfl⟩ : ∃ n, fuel = n + 1 := ⟨fuel - 1, by omega⟩
  by_cases hc : cs.isPublic c = true
  · simp [publicOwner?, climb, hc]
  · have hknown : cs.Knows c := by
      cases c with
      | standard s => trivial
      | declared i =>
        by_contra hi
        have hnone : cs[i]? = none := by simpa [Knows] using hi
        have hname : cs.qualifiedName (.declared i) = "" := by simp [qualifiedName, hnone]
        rw [isPublic, hname] at hc
        exact hc (by decide)
    have hrank := hknown.rank_le
    exact h.climb_eq (by omega) (by omega)

/-- A public class is its own owner. Another class has an owner that declares the name. -/
theorem Sound.climb_spec (h : Sound cs) {fuel : Nat} {c owner : ClassId}
    (hclimb : climb cs name fuel c = some owner) :
    cs.isPublic owner = true ∧ owner ∈ cs.order c ∧
      (owner = c ∨ cs.declares owner name = true) := by
  induction fuel generalizing c with
  | zero => simp [climb] at hclimb
  | succ fuel ih =>
    cases hc : cs.isPublic c with
    | true =>
      obtain rfl : c = owner := by simpa [climb, hc] using hclimb
      exact ⟨hc, h.self c, Or.inl rfl⟩
    | false =>
      simp only [climb, hc, Bool.false_eq_true, if_false] at hclimb
      obtain ⟨base, hbase, hfound⟩ := List.exists_of_findSome?_eq_some hclimb
      cases hd : (cs.order base).find? (cs.declares · name) with
      | none => simp [hd] at hfound
      | some declaring =>
        rw [hd] at hfound
        obtain ⟨hpublic, hmem, howner⟩ := ih hfound
        have hdeclares : cs.declares declaring name = true := by simpa using List.find?_some hd
        have hbelow := h.closed base declaring (List.mem_of_find?_eq_some hd)
        have hbaseBelow := h.closed c base (h.baseInOrder c base hbase)
        refine ⟨hpublic, hbaseBelow (hbelow hmem), Or.inr ?_⟩
        exact howner.elim (fun he => he ▸ hdeclares) id

end Search

end Classes

end TemplateEngine
