import TemplateEngine.Proofs.Exposure
import Mathlib.Logic.Relation
/-!
Which members of a private class may be reached. The search for a public class goes on from the first
class that declares the name in the order of a base, and nowhere else: it finds an owner exactly if
such steps lead to a public class, and it loses a name that a public class has only behind a private
class that declares the name as well.
-/
namespace TemplateEngine

namespace Classes

variable {cs : Classes} {name : String} {c : ClassId}

/-- A step of the search: from a private class to the first class that declares the name in the
resolution order of one of its bases. -/
inductive Step (cs : Classes) (name : String) (c declaring : ClassId) : Prop
  | up {base : ClassId} (hidden : cs.isPublic c = false) (mem : base ∈ cs.bases c)
      (first : (cs.order base).find? (cs.declares · name) = some declaring)

theorem Sound.publicOwner?_eq (h : Sound cs) (c : ClassId) :
    publicOwner? cs c name =
      if cs.isPublic c then some c
      else (cs.bases c).findSome? fun base =>
        ((cs.order base).find? (cs.declares · name)).bind (publicOwner? cs · name) := by
  rw [← h.climb_eq_publicOwner? (Nat.le_succ _), climb]
  refine congrArg (ite _ _) (congrArg (List.findSome? · _) (funext fun base => ?_))
  cases (cs.order base).find? (cs.declares · name) <;> rfl

theorem Sound.owner_of_step (h : Sound cs) {declaring : ClassId} (hstep : Step cs name c declaring)
    (howner : publicOwner? cs declaring name ≠ none) : publicOwner? cs c name ≠ none := by
  obtain ⟨hidden, mem, first⟩ := hstep
  intro hnone
  simp only [h.publicOwner?_eq c, hidden, Bool.false_eq_true, if_false,
    List.findSome?_eq_none_iff] at hnone
  have hlost := hnone _ mem
  rw [first] at hlost
  exact howner hlost

theorem Sound.step_of_owner (h : Sound cs) (hc : cs.isPublic c = false)
    (howner : publicOwner? cs c name ≠ none) :
    ∃ declaring, Step cs name c declaring ∧ publicOwner? cs declaring name ≠ none := by
  obtain ⟨owner, howner⟩ := Option.ne_none_iff_exists'.mp howner
  simp only [h.publicOwner?_eq c, hc, Bool.false_eq_true, if_false] at howner
  obtain ⟨base, hbase, hfound⟩ := List.exists_of_findSome?_eq_some howner
  obtain ⟨declaring, hfirst, hfound⟩ := Option.bind_eq_some_iff.mp hfound
  exact ⟨declaring, .up hc hbase hfirst, by simp [hfound]⟩

theorem Sound.rank_step_lt (h : Sound cs) {declaring : ClassId} (hstep : Step cs name c declaring) :
    rank declaring < rank c := by
  obtain ⟨hidden, mem, first⟩ := hstep
  exact h.rank_declaring_lt hidden mem (List.mem_of_find?_eq_some first)

/-- The search finds an owner exactly if its steps lead to a public class. -/
theorem Sound.publicOwner?_ne_none_iff (h : Sound cs) :
    publicOwner? cs c name ≠ none ↔
      ∃ owner, Relation.ReflTransGen (Step cs name) c owner ∧ cs.isPublic owner = true := by
  constructor
  · intro howner
    induction hrank : rank c using Nat.strongRecOn generalizing c with
    | ind n ih =>
      cases hc : cs.isPublic c with
      | true => exact ⟨c, .refl, hc⟩
      | false =>
        obtain ⟨declaring, hstep, hfound⟩ := h.step_of_owner hc howner
        obtain ⟨owner, hsteps, hpublic⟩ := ih _ (hrank ▸ h.rank_step_lt hstep) hfound rfl
        exact ⟨owner, .head hstep hsteps, hpublic⟩
  · rintro ⟨owner, hsteps, hpublic⟩
    induction hsteps using Relation.ReflTransGen.head_induction_on with
    | refl => simp [publicOwner?_of_public hpublic]
    | head hstep _ ih => exact h.owner_of_step hstep ih

theorem ancestors_of_first (s : Standard)
    (hs : (nameParts s.qualifiedName).any isPrivateName = true) :
    ∀ k ∈ s.ancestors, ∃ b ∈ s.ancestors.take 1, k = b ∨ k ∈ b.ancestors := by
  revert hs
  cases s <;> decide

/-- What stands in the order of a declared class is the class itself or comes from a base. -/
theorem Grown.inherited_declared (h : Grown cs) (i : Nat) :
    ∀ k ∈ cs.order (.declared i),
      k = .declared i ∨ ∃ b ∈ cs.bases (.declared i), k ∈ cs.order b := by
  intro k hk
  induction h with
  | empty => exact Or.inl (by simpa [order] using hk)
  | @declared cs info rest hgrown hbases merged horder ih =>
    by_cases hi : i = cs.size
    · subst hi
      rw [order_push_self, horder, List.mem_cons] at hk
      rw [bases_push_self]
      have hbase : ∀ b ∈ info.bases, order (cs.push info) b = cs.order b := fun b hb =>
        order_push_of_ne (ne_of_rank_le (hbases b hb).rank_le)
      refine hk.imp id fun hk => ?_
      rcases (mem_linearize merged).mp hk with ⟨b, hb, hkb⟩ | hb
      · exact ⟨b, hb, (hbase b hb).symm ▸ hkb⟩
      · exact ⟨k, hb, (hbase k hb).symm ▸ hgrown.sound.self k⟩
    · have hne : ClassId.declared i ≠ .declared cs.size := fun he => hi (ClassId.declared.inj he)
      rw [order_push_of_ne hne] at hk
      rw [bases_push_of_ne hne]
      refine (ih hk).imp id ?_
      rintro ⟨b, hb, hkb⟩
      refine ⟨b, hb, ?_⟩
      have hb' := hgrown.sound.ne_of_mem_order hne b (hgrown.sound.baseInOrder _ b hb)
      rwa [order_push_of_ne hb']
  | revised _ hbases horder ih =>
    simp only [order_modify horder, bases_modify hbases] at hk ⊢
    exact ih hk

/-- What stands in the order of a private class is the class itself or comes from a base. -/
theorem Grown.inherited (h : Grown cs) (hc : cs.isPublic c = false) :
    ∀ k ∈ cs.order c, k = c ∨ ∃ b ∈ cs.bases c, k ∈ cs.order b := by
  intro k hk
  cases c with
  | standard s =>
    have hs : (nameParts s.qualifiedName).any isPrivateName = true := by
      simpa [isPublic, qualifiedName] using hc
    simp only [order, List.mem_cons, List.mem_map] at hk
    refine hk.imp id ?_
    rintro ⟨a, ha, hak⟩
    obtain ⟨b, hb, hab⟩ := ancestors_of_first s hs a ha
    have hbase : ClassId.standard b ∈ cs.bases (.standard s) := by
      rw [bases, ← List.map_take]
      exact List.mem_map_of_mem hb
    refine ⟨.standard b, hbase, ?_⟩
    rw [← hak]
    simpa [order] using hab
  | declared i => exact h.inherited_declared i k hk

/-- The search steps on from a private class below a public one that has the name. -/
theorem Grown.exists_step (h : Grown cs) {p k : ClassId} (hc : cs.isPublic c = false)
    (hp : p ∈ cs.order c) (hpublic : cs.isPublic p = true) (hk : k ∈ cs.order p)
    (hname : cs.declares k name = true) : ∃ declaring, Step cs name c declaring := by
  rcases h.inherited hc p hp with rfl | ⟨base, hbase, hpb⟩
  · simp [hc] at hpublic
  · have hkb := h.sound.closed base p hpb hk
    have hfound : ((cs.order base).find? (cs.declares · name)).isSome :=
      List.find?_isSome.mpr ⟨k, hkb, hname⟩
    obtain ⟨declaring, hfirst⟩ := Option.isSome_iff_exists.mp hfound
    exact ⟨declaring, .up hc hbase hfirst⟩

/-- A name that a public class has, or inherits, is reached on a class below it exactly if the steps
of the search lead from there to a public class. Otherwise a step leads to another private class in
the resolution order that declares the name and from which it is not reached either. -/
theorem owner_below_public (h : Grown cs) {p k : ClassId} (hp : p ∈ cs.order c)
    (hpublic : cs.isPublic p = true) (hk : k ∈ cs.order p) (hname : cs.declares k name = true) :
    (publicOwner? cs c name ≠ none ↔
        ∃ owner, Relation.ReflTransGen (Step cs name) c owner ∧ cs.isPublic owner = true) ∧
      (publicOwner? cs c name = none →
        cs.isPublic c = false ∧ ∃ declaring ∈ cs.order c, declaring ≠ c ∧
          Step cs name c declaring ∧ cs.isPublic declaring = false ∧
          cs.declares declaring name = true ∧ publicOwner? cs declaring name = none) := by
  have hsound := h.sound
  refine ⟨hsound.publicOwner?_ne_none_iff, fun hnone => ?_⟩
  have hc : cs.isPublic c = false := by
    cases hc : cs.isPublic c with
    | true => simp [publicOwner?_of_public hc] at hnone
    | false => rfl
  obtain ⟨declaring, hstep⟩ := h.exists_step hc hp hpublic hk hname
  have hlost : publicOwner? cs declaring name = none := by
    by_contra howner
    exact hsound.owner_of_step hstep howner hnone
  have hhidden : cs.isPublic declaring = false := by
    cases hd : cs.isPublic declaring with
    | true => simp [publicOwner?_of_public hd] at hlost
    | false => rfl
  have hrank := hsound.rank_step_lt hstep
  obtain ⟨-, mem, first⟩ := id hstep
  refine ⟨hc, declaring, ?_, fun he => Nat.lt_irrefl _ (he ▸ hrank), hstep, hhidden, ?_, hlost⟩
  · exact hsound.closed c _ (hsound.baseInOrder c _ mem) (List.mem_of_find?_eq_some first)
  · simpa using List.find?_some first

/-- A private class that stands before a public one of the same name in the order of a third. -/
def blended : Classes :=
  #[plainClass "_Hidden" [.standard .object] [.declared 0, .standard .object] ["name"],
    plainClass "Shown" [.standard .object] [.declared 1, .standard .object] ["name"],
    plainClass "_Both" [.declared 0, .declared 1]
      [.declared 2, .declared 0, .declared 1, .standard .object] [],
    plainClass "_Heir" [.declared 2]
      [.declared 3, .declared 2, .declared 0, .declared 1, .standard .object] []]

theorem grown_blended : Grown blended :=
  .declared (.declared (.declared (.declared .empty (by simp [plainClass, Knows]) rfl rfl)
    (by simp [plainClass, Knows]) rfl rfl) (by simp [plainClass, Knows]) rfl rfl)
    (by simp [plainClass, Knows]) rfl rfl

/-- The class below both reaches the public one; an empty class below it loses the name. -/
theorem owner_below_public_blended :
    publicOwner? blended (.declared 2) "name" = some (.declared 1) ∧
      publicOwner? blended (.declared 3) "name" = none ∧
      ∃ declaring ∈ blended.order (.declared 3), declaring ≠ .declared 3 ∧
        blended.isPublic declaring = false ∧ blended.declares declaring "name" = true := by
  have hlost : publicOwner? blended (.declared 3) "name" = none := by decide
  have hp : ClassId.declared 1 ∈ blended.order (.declared 3) := by decide
  obtain ⟨-, hobscured⟩ :=
    owner_below_public grown_blended hp (by decide) (grown_blended.sound.self _)
      (by decide : declares blended (.declared 1) "name" = true)
  obtain ⟨-, declaring, hmem, hne, -, hhidden, hdeclares, -⟩ := hobscured hlost
  exact ⟨by decide, hlost, declaring, hmem, hne, hhidden, hdeclares⟩

end Classes

end TemplateEngine
