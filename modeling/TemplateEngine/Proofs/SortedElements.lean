import TemplateEngine.Sorting
/-!
Sorting makes nothing up: whatever the order says, and also when it fails, all elements that it
leaves were elements of the list before.
-/
namespace TemplateEngine.Sorting

variable {P : Value → Prop} {less : Less}

theorem of_mem_take {run : Array Value} {n : Nat} {v : Value} (h : v ∈ run.take n) : v ∈ run := by
  obtain ⟨k, hk, rfl⟩ := Array.mem_extract_iff_getElem.mp h
  exact Array.getElem_mem _

theorem of_mem_drop {run : Array Value} {n : Nat} {v : Value} (h : v ∈ run.drop n) : v ∈ run := by
  obtain ⟨k, hk, rfl⟩ := Array.mem_extract_iff_getElem.mp h
  exact Array.getElem_mem _

/-- What has been sorted so far, when every element satisfies a condition. -/
def Waiting.All (P : Value → Prop) : Waiting → Prop
  | .ok (runs, _) => ∀ run ∈ runs, ∀ v ∈ run.items, P v
  | .error (_, items) => ∀ v ∈ items, P v

namespace Merging

def Outcome.All (P : Value → Prop) : Outcome → Prop
  | .ok (merged, _) => ∀ v ∈ merged, P v
  | .error (_, items) => ∀ v ∈ items, P v

/-- All elements of a merge satisfy a condition. -/
structure All (P : Value → Prop) (m : Merging) : Prop where
  left : ∀ v ∈ m.left, P v
  right : ∀ v ∈ m.right, P v
  placed : ∀ v ∈ m.placed, P v

variable {m : Merging}

theorem of_mem_without {run : Array Value} {n : Nat} {v : Value}
    (h : v ∈ m.without run n) : v ∈ run := by
  unfold without at h
  split at h
  · exact of_mem_take h
  · exact of_mem_drop h

theorem of_mem_placing {run : Array Value} {n : Nat} {v : Value}
    (h : v ∈ m.placing run n) : v ∈ run ∨ v ∈ m.placed := by
  unfold placing at h
  split at h
  · exact (List.mem_append.mp h).imp (fun h => of_mem_drop (Array.mem_toList_iff.mp h)) id
  · refine (List.mem_append.mp h).imp (fun h => ?_) id
    exact of_mem_take (Array.mem_toList_iff.mp (List.mem_reverse.mp h))

theorem All.placeLeft (h : m.All P) (n : Nat) : (m.placeLeft n).All P where
  left v hv := h.left v (of_mem_without hv)
  right := h.right
  placed v hv := (of_mem_placing hv).elim (h.left v) (h.placed v)

theorem All.placeRight (h : m.All P) (n : Nat) : (m.placeRight n).All P where
  left := h.left
  right v hv := h.right v (of_mem_without hv)
  placed v hv := (of_mem_placing hv).elim (h.right v) (h.placed v)

theorem All.ite {p : Prop} [Decidable p] {m' : Merging} (h : m.All P) (h' : m'.All P) :
    (if p then m else m').All P := by
  split
  · exact h
  · exact h'

theorem All.around (h : m.All P) {rest : List Value} (hrest : ∀ v ∈ rest, P v) :
    ∀ v ∈ m.around rest, P v := by
  intro v hv
  unfold Merging.around at hv
  split at hv
  · exact (List.mem_append.mp hv).elim (hrest v) (h.placed v)
  · exact (List.mem_append.mp hv).elim (fun hv => h.placed v (List.mem_reverse.mp hv)) (hrest v)

theorem All.interrupted (h : m.All P) : ∀ v ∈ m.interrupted, P v :=
  h.around fun v hv => (List.mem_append.mp hv).elim
    (fun hv => h.left v (Array.mem_toList_iff.mp hv))
    (fun hv => h.right v (Array.mem_toList_iff.mp hv))

theorem All.result (h : m.All P) : ∀ v ∈ m.result.toArray, P v := by
  intro v hv
  refine h.around (fun v hv => ?_) v (List.mem_toArray.mp hv)
  have hmem : v ∈ m.left ∨ v ∈ m.right := by
    split at hv <;> split at hv <;> simp_all [or_comm]
  exact hmem.elim (h.left v) (h.right v)

theorem All.run (h : m.All P) (fuel : Nat) (pace : Pace) (wins : Nat) :
    Outcome.All P (m.run less fuel pace wins) := by
  induction fuel generalizing m pace wins with
  | zero => exact h.result
  | succ fuel ih =>
    unfold Merging.run
    split
    · exact h.result
    · cases pace with
      | single l r =>
        dsimp only
        split
        · exact h.interrupted
        · split
          · exact ih (h.placeLeft 1) _ _
          · exact ih (h.placeRight 1) _ _
      | galloping =>
        dsimp only
        split
        · exact h.interrupted
        · rename_i l _
          have hl := h.placeLeft l
          split
          · exact hl.result
          · have hr := hl.placeRight 1
            split
            · exact hr.result
            · split
              · exact hr.interrupted
              · rename_i r _
                have hr' := hr.placeRight r
                split
                · exact hr'.result
                · have hl' := hr'.placeLeft 1
                  split
                  · exact hl'.result
                  · split
                    · exact ih hl' _ _
                    · exact ih hl' _ _

end Merging

theorem all_mergeRuns (less : Less) {left right : Array Value} (wins : Nat) (hleft : ∀ v ∈ left, P v)
    (hright : ∀ v ∈ right, P v) : Merging.Outcome.All P (mergeRuns less wins left right) := by
  have hwhole : ∀ v ∈ left.toList ++ right.toList, P v := by
    intro v hv
    exact (List.mem_append.mp hv).elim (fun hv => hleft v (Array.mem_toList_iff.mp hv))
      (fun hv => hright v (Array.mem_toList_iff.mp hv))
  have hboth : ∀ v ∈ left ++ right, P v := by
    intro v hv
    exact (Array.mem_append.mp hv).elim (hleft v) (hright v)
  unfold mergeRuns
  dsimp only
  split
  · exact hwhole
  · rename_i k _
    split
    · exact hboth
    · split
      · exact hwhole
      · rename_i n _
        split
        · exact hboth
        · have hstart : ∀ fromBack, (Merging.mk fromBack (left.drop k) (right.take n) []).All P :=
            fun _ => ⟨fun v hv => hleft v (of_mem_drop hv), fun v hv => hright v (of_mem_take hv),
              fun v hv => absurd hv List.not_mem_nil⟩
          split
          · rename_i merged wins' heq
            have hmerged : Merging.Outcome.All P (.ok (merged, wins')) :=
              heq ▸ Merging.All.run (.ite ((hstart _).placeLeft 1) ((hstart _).placeRight 1)) _ _ _
            intro v hv
            rcases Array.mem_append.mp hv with hv | hv
            · exact (Array.mem_append.mp hv).elim (fun hv => hleft v (of_mem_take hv)) (hmerged v)
            · exact hright v (of_mem_drop hv)
          · rename_i f items heq
            have hitems : Merging.Outcome.All P (.error (f, items)) :=
              heq ▸ Merging.All.run (.ite ((hstart _).placeLeft 1) ((hstart _).placeRight 1)) _ _ _
            intro v hv
            rcases List.mem_append.mp hv with hv | hv
            · exact (List.mem_append.mp hv).elim
                (fun hv => hleft v (of_mem_take (Array.mem_toList_iff.mp hv))) (hitems v)
            · exact hright v (of_mem_drop (Array.mem_toList_iff.mp hv))

theorem all_insertRest {sorted : Array Value} {rest : List Value} (hsorted : ∀ v ∈ sorted, P v)
    (hrest : ∀ v ∈ rest, P v) : ∀ v ∈ (insertRest less sorted rest).items, P v := by
  induction rest generalizing sorted with
  | nil => exact fun v hv => hsorted v (Array.mem_toList_iff.mp hv)
  | cons x rest ih =>
    rw [List.forall_mem_cons] at hrest
    unfold insertRest
    split
    · intro v hv
      rcases List.mem_append.mp hv with hv | hv
      · exact hsorted v (Array.mem_toList_iff.mp hv)
      · exact (List.mem_cons.mp hv).elim (fun h => h ▸ hrest.1) (hrest.2 v)
    · refine ih (fun v hv => ?_) hrest.2
      rcases Array.mem_append.mp hv with hv | hv
      · rcases Array.mem_append.mp hv with hv | hv
        · exact hsorted v (of_mem_take hv)
        · exact Array.mem_singleton.mp hv ▸ hrest.1
      · exact hsorted v (of_mem_drop hv)

theorem all_firstRun {least : Nat} {items : List Value} {run : Sorted} {length : Nat}
    (h : firstRun less least items = .ok (run, length)) (hitems : ∀ v ∈ items, P v) :
    ∀ v ∈ run.items, P v := by
  unfold firstRun at h
  cases hfront : frontRun less items with
  | error f => simp [hfront, bind, Except.bind] at h
  | ok front =>
    obtain ⟨n, falls⟩ := front
    simp only [hfront, bind, Except.bind, pure, Except.pure, Except.ok.injEq, Prod.mk.injEq] at h
    obtain ⟨rfl, -⟩ := h
    refine all_insertRest (fun v hv => ?_) fun v hv => ?_
    · have hv := List.mem_toArray.mp hv
      have hmem : v ∈ items.take n := by
        split at hv
        · exact List.mem_reverse.mp hv
        · exact hv
      exact hitems v (List.mem_of_mem_take hmem)
    · exact hitems v (List.mem_of_mem_take (List.mem_of_mem_drop hv))

theorem all_itemsOf {runs : List Run} (h : ∀ run ∈ runs, ∀ v ∈ run.items, P v) :
    ∀ v ∈ itemsOf runs, P v := by
  intro v hv
  obtain ⟨l, hl, hv⟩ := List.mem_flatten.mp hv
  obtain ⟨run, hrun, rfl⟩ := List.mem_map.mp hl
  exact h run (List.mem_reverse.mp hrun) v (Array.mem_toList_iff.mp hv)

theorem Waiting.All.bind {x : Waiting} {f : List Run × Nat → Waiting} (hx : x.All P)
    (hf : ∀ runs wins, (∀ run ∈ runs, ∀ v ∈ run.items, P v) → (f (runs, wins)).All P) :
    Waiting.All P (x >>= f) := by
  cases x with
  | error e => exact hx
  | ok r => exact hf r.1 r.2 hx

theorem all_mergeTwo {wins : Nat} {before after : List Run} {left right : Run}
    (hbefore : ∀ run ∈ before, ∀ v ∈ run.items, P v) (hafter : ∀ run ∈ after, ∀ v ∈ run.items, P v)
    (hleft : ∀ v ∈ left.items, P v) (hright : ∀ v ∈ right.items, P v) :
    (mergeTwo less wins before left right after).All P := by
  have hmerge := all_mergeRuns less wins hleft hright
  unfold mergeTwo
  split
  · rename_i merged wins' heq
    rw [heq] at hmerge
    intro run hrun
    rcases List.mem_append.mp hrun with hrun | hrun
    · exact hafter run hrun
    · rcases List.mem_cons.mp hrun with rfl | hrun
      · exact hmerge
      · exact hbefore run hrun
  · rename_i f items heq
    rw [heq] at hmerge
    intro v hv
    rcases List.mem_append.mp hv with hv | hv
    · exact (List.mem_append.mp hv).elim (all_itemsOf hbefore v) (hmerge v)
    · exact all_itemsOf hafter v hv

theorem all_mergeFiner {power : Nat} (fuel wins : Nat) {runs : List Run}
    (h : ∀ run ∈ runs, ∀ v ∈ run.items, P v) : (mergeFiner less power fuel wins runs).All P := by
  fun_induction mergeFiner less power fuel wins runs with
  | case1 fuel wins right left before hpower ih =>
    simp only [List.forall_mem_cons] at h
    refine (all_mergeTwo h.2.2 (by simp) h.2.1 h.1).bind fun runs wins hruns => ih runs wins hruns
  | case2 => exact h
  | case3 => exact h

theorem all_mergeAll (less : Less) (fuel wins : Nat) {runs : List Run}
    (h : ∀ run ∈ runs, ∀ v ∈ run.items, P v) : (mergeAll less fuel wins runs).All P := by
  fun_induction mergeAll less fuel wins runs with
  | case1 fuel wins c b a before next hless ih =>
    simp only [List.forall_mem_cons] at h
    exact (all_mergeTwo h.2.2.2 (by simpa using h.1) h.2.2.1 h.2.1).bind
      fun runs wins hruns => ih runs wins hruns
  | case2 fuel wins c b a before next hless ih =>
    simp only [List.forall_mem_cons] at h
    refine (all_mergeTwo ?_ (by simp) h.2.1 h.1).bind fun runs wins hruns => ih runs wins hruns
    simpa only [List.forall_mem_cons] using h.2.2
  | case3 fuel wins right left ih =>
    simp only [List.forall_mem_cons] at h
    exact (all_mergeTwo (by simp) (by simp) h.2.1 h.1).bind fun runs wins hruns => ih runs wins hruns
  | case4 => exact h

theorem all_settle (less : Less) (total length wins : Nat) {runs : List Run}
    (h : ∀ run ∈ runs, ∀ v ∈ run.items, P v) : (settle less total length wins runs).All P := by
  cases runs with
  | nil => exact h
  | cons top before =>
    refine (all_mergeFiner _ _ h).bind fun runs wins hruns => ?_
    cases runs with
    | nil => exact hruns
    | cons top before =>
      simp only [List.forall_mem_cons] at hruns
      intro run hrun
      rcases List.mem_cons.mp hrun with rfl | hrun
      · exact hruns.1
      · exact hruns.2 run hrun

theorem all_sortRest {total least : Nat} (fuel wins : Nat) {runs : List Run} {rest : List Value}
    (hruns : ∀ run ∈ runs, ∀ v ∈ run.items, P v) (hrest : ∀ v ∈ rest, P v) :
    ∀ v ∈ (sortRest less total least fuel wins runs rest).items, P v := by
  induction fuel generalizing wins runs rest with
  | zero => exact fun v hv => (List.mem_append.mp hv).elim (all_itemsOf hruns v) (hrest v)
  | succ fuel ih =>
    unfold sortRest
    split
    · have hmerged := all_mergeAll less (runs.length + 1) wins hruns
      split
      · rename_i heq
        rw [heq] at hmerged
        exact all_itemsOf hmerged
      · rename_i heq
        rw [heq] at hmerged
        exact hmerged
    · split
      · exact fun v hv => (List.mem_append.mp hv).elim (all_itemsOf hruns v) (hrest v)
      · rename_i run length heq
        have hrun := all_firstRun heq hrest
        have hdrop : ∀ v ∈ rest.drop length, P v := fun v hv => hrest v (List.mem_of_mem_drop hv)
        split
        · intro v hv
          rcases List.mem_append.mp hv with hv | hv
          · exact (List.mem_append.mp hv).elim (all_itemsOf hruns v) (hrun v)
          · exact hdrop v hv
        · have hsettled := all_settle less total length wins hruns
          split
          · rename_i heq
            rw [heq] at hsettled
            intro v hv
            rcases List.mem_append.mp hv with hv | hv
            · exact (List.mem_append.mp hv).elim (hsettled v) (hrun v)
            · exact hdrop v hv
          · rename_i heq
            rw [heq] at hsettled
            refine ih _ (fun r hr => ?_) hdrop
            rcases List.mem_cons.mp hr with rfl | hr
            · exact fun v hv => hrun v (List.mem_toArray.mp hv)
            · exact hsettled r hr

/-- Whatever all elements of a list satisfy, they satisfy after sorting. -/
theorem all_sortList {items : List Value} (h : ∀ v ∈ items, P v) :
    ∀ v ∈ (sortList less items).items, P v := by
  unfold sortList
  dsimp only
  split
  · exact h
  · exact all_sortRest _ _ (by simp) h

end TemplateEngine.Sorting
