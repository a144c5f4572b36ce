import TemplateEngine.Text.Case
import TemplateEngine.Proofs.Tables
/-!
Folding twice is folding once. The letters that folding moves and the letters that it reaches lie
in stretches, and no two stretches of the two kinds meet.
-/
namespace TemplateEngine.Text

/-- The letters that the letters of a run are moved to, as a run that stays in its place. -/
def CaseRun.image (r : CaseRun) : CaseRun :=
  ⟨(r.first + r.shift).toNat, (r.last + r.shift).toNat, r.step, 0⟩

/-- One letter alone, which counts as a run of either step. -/
def CaseRun.single (n : Nat) : CaseRun := ⟨n, n, 2, 0⟩

/-- One run ends before the other begins, or both go on in twos from places of different
parity. -/
def CaseRun.apart (r q : CaseRun) : Bool :=
  Nat.blt q.last r.first || Nat.blt r.last q.first ||
    (Nat.beq (q.step % 2) 0 && Nat.beq ((r.first + q.first) % 2) 1 &&
      (Nat.beq (r.step % 2) 0 || Nat.beq r.first r.last))

/-- Whether a run keeps to one side of the numbers that stand for no letter. -/
def CaseRun.inLetters (r : CaseRun) : Bool :=
  Nat.blt r.last 0xd800 || (Nat.blt 0xdfff r.first && Nat.blt r.last 0x110000)

theorem CaseRun.toNat_of_inLetters (r : CaseRun) (h : r.inLetters = true) (n : Nat)
    (hn : r.covers n = true) : (Char.ofNat n).toNat = n := by
  have hvalid : n.isValidChar := by
    simp only [covers, Bool.and_eq_true, decide_eq_true_eq] at hn
    simp only [inLetters, Bool.or_eq_true, Bool.and_eq_true, Nat.blt_eq] at h
    unfold Nat.isValidChar
    omega
  rw [Char.ofNat, dif_pos hvalid]
  rfl

theorem CaseRun.covers_eq (r : CaseRun) (n : Nat) :
    r.covers n = true ↔ r.first ≤ n ∧ n ≤ r.last ∧ r.step ∣ n - r.first := by
  simp [covers, Nat.dvd_iff_mod_eq_zero, and_assoc]

theorem CaseRun.not_covers_of_apart (r q : CaseRun) (h : r.apart q = true) (n : Nat)
    (hr : r.covers n = true) : q.covers n = false := by
  rw [covers_eq] at hr
  obtain ⟨hfirst, hlast, hstep⟩ := hr
  refine Bool.eq_false_iff.mpr fun hq => ?_
  rw [covers_eq] at hq
  obtain ⟨qfirst, qlast, qstep⟩ := hq
  simp only [apart, Bool.or_eq_true, Bool.and_eq_true, Nat.blt_eq, Nat.beq_eq] at h
  rcases h with (hbefore | hafter) | ⟨⟨heven, hparity⟩, hsame⟩
  · omega
  · omega
  · have hq2 : 2 ∣ n - q.first := Nat.dvd_trans (Nat.dvd_of_mod_eq_zero heven) qstep
    rcases hsame with hodd | hone
    · have hr2 : 2 ∣ n - r.first := Nat.dvd_trans (Nat.dvd_of_mod_eq_zero hodd) hstep
      omega
    · omega

theorem CaseRun.covers_single (n : Nat) : (single n).covers n = true := by
  simp [single, covers]

theorem CaseRun.covers_image (r : CaseRun) (n : Nat) (hlow : 0 ≤ r.first + r.shift)
    (h : r.covers n = true) : r.image.covers (n + r.shift).toNat = true := by
  rw [covers_eq] at h ⊢
  obtain ⟨hfirst, hlast, hstep⟩ := h
  have hsame : (n + r.shift).toNat - (r.first + r.shift).toNat = n - r.first := by omega
  refine ⟨?_, ?_, ?_⟩
  · simp only [image]; omega
  · simp only [image]; omega
  · simpa only [image, hsame] using hstep

namespace CaseMap

variable (m : CaseMap)

/-- The stretches of letters that have another image. -/
def moved : List CaseRun := m.runs ++ m.several.map fun e => .single e.1

/-- The stretches of letters that images are made of. -/
def reached : List CaseRun :=
  m.runs.map CaseRun.image ++ m.several.flatMap fun e => e.2.map .single

/-- Nothing that is reached is moved again, and all of it are letters. -/
def settled : Bool :=
  (m.reached.all fun r => r.inLetters && m.moved.all r.apart) &&
    m.runs.all fun r => decide (0 ≤ (r.first : Int) + r.shift)

/-- A letter in no stretch that is moved is its own image. -/
theorem images_of_not_moved (c : Char) (h : ∀ q ∈ m.moved, q.covers c.toNat = false) :
    m.images c = [c] := by
  have hseveral : m.several.lookup c.toNat = none := by
    refine Option.eq_none_iff_forall_not_mem.mpr fun codes hcodes => ?_
    have hmem : CaseRun.single c.toNat ∈ m.moved :=
      List.mem_append_right _ (List.mem_map.mpr ⟨_, Table.mem_of_lookup hcodes, rfl⟩)
    simpa [CaseRun.covers_single] using h _ hmem
  have hruns : (m.runs.find? fun r => r.covers c.toNat) = none := by
    refine List.find?_eq_none.mpr fun r hr => ?_
    simp [h r (List.mem_append_left _ hr)]
  simp [images, hseveral, hruns]

/-- A letter stays, or its images lie in stretches that are reached. -/
theorem images_reached (hm : m.settled = true) (c : Char) :
    m.images c = [c] ∨
      ∀ d ∈ m.images c, ∃ r ∈ m.reached, ∃ n, r.covers n = true ∧ d = Char.ofNat n := by
  unfold images
  split
  · rename_i codes hcodes
    refine Or.inr fun d hd => ?_
    obtain ⟨n, hn, rfl⟩ := List.mem_map.mp hd
    refine ⟨.single n, List.mem_append_right _ ?_, n, CaseRun.covers_single n, rfl⟩
    exact List.mem_flatMap.mpr ⟨_, Table.mem_of_lookup hcodes, List.mem_map.mpr ⟨n, hn, rfl⟩⟩
  · split
    · rename_i r hr
      refine Or.inr fun d hd => ?_
      have hmem := List.mem_of_find?_eq_some hr
      have hlow : 0 ≤ (r.first : Int) + r.shift := by
        simp only [settled, Bool.and_eq_true, List.all_eq_true, decide_eq_true_eq] at hm
        exact hm.2 r hmem
      have hcovers : r.covers c.toNat = true := by simpa using List.find?_some hr
      exact ⟨r.image, List.mem_append_left _ (List.mem_map.mpr ⟨r, hmem, rfl⟩), _,
        r.covers_image _ hlow hcovers, List.mem_singleton.mp hd⟩
    · exact Or.inl rfl

theorem images_of_mem_images (hm : m.settled = true) (c d : Char) (hc : m.images c ≠ [c])
    (hd : d ∈ m.images c) : m.images d = [d] := by
  obtain ⟨r, hr, n, hn, rfl⟩ := (m.images_reached hm c).resolve_left hc d hd
  simp only [settled, Bool.and_eq_true, List.all_eq_true] at hm
  refine m.images_of_not_moved _ fun q hq => ?_
  rw [r.toNat_of_inLetters (hm.1 r hr).1 n hn]
  exact r.not_covers_of_apart q ((hm.1 r hr).2 q hq) n hn

theorem flatMap_images_images (hm : m.settled = true) (c : Char) :
    (m.images c).flatMap m.images = m.images c := by
  by_cases hc : m.images c = [c]
  · simp [hc]
  · have hfix : ∀ d ∈ m.images c, m.images d = [d] := fun d hd => m.images_of_mem_images hm c d hc hd
    calc (m.images c).flatMap m.images = (m.images c).flatMap fun d => [d] := by
          simp only [List.flatMap_def, List.map_congr_left hfix]
      _ = m.images c := by simp

end CaseMap

theorem folding_settled : folding.settled = true := by decide +kernel

/-- Folding is idempotent. -/
theorem foldCase_foldCase (s : String) : foldCase (foldCase s) = foldCase s := by
  have himages : (fun c => (folding.images c).flatMap folding.images) = folding.images :=
    funext fun c => folding.flatMap_images_images folding_settled c
  simp only [foldCase, String.toList_ofList, List.flatMap_assoc, himages]

end TemplateEngine.Text
