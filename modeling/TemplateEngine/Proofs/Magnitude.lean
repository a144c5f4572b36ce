import Mathlib.Algebra.Order.Ring.Nat
import Mathlib.Tactic.Ring
import Mathlib.Tactic.Linarith
import TemplateEngine.Resolution
/-!
How great numbers may get before they round to no finite floating-point number.
-/
namespace TemplateEngine

/-- Just below an even number, halves are rounded up. -/
theorem roundHalfEven_eq_iff {num den t : Nat} (ht : t % 2 = 0) (hlt : num < t * den) :
    roundHalfEven num den = t ↔ (2 * t - 1) * den ≤ 2 * num := by
  have hden : 0 < den := Nat.pos_of_ne_zero fun h => by simp [h] at hlt
  obtain ⟨q, hq⟩ : ∃ q, q = num / den := ⟨_, rfl⟩
  obtain ⟨r, hr⟩ : ∃ r, r = num % den := ⟨_, rfl⟩
  have hqt : q < t := hq ▸ (Nat.div_lt_iff_lt_mul hden).mpr hlt
  have hrden : r < den := hr ▸ Nat.mod_lt _ hden
  have hsplit : 2 * num = 2 * q * den + 2 * r := by
    have := Nat.div_add_mod num den
    rw [← hq, ← hr] at this
    rw [← this]
    ring
  unfold roundHalfEven
  simp only [← hq, ← hr, hsplit]
  by_cases hnext : q + 1 = t
  · have hbound : (2 * t - 1) * den = 2 * q * den + den := by
      rw [← hnext, show 2 * (q + 1) - 1 = 2 * q + 1 by omega]
      ring
    rw [hbound]
    split_ifs <;> omega
  · have hbound : 2 * q * den + 3 * den ≤ (2 * t - 1) * den := by
      rw [← Nat.add_mul]
      exact Nat.mul_le_mul_right _ (by omega)
    split_ifs <;> omega

namespace Binary64

variable {num den : Nat}

theorem log2_bounds {n : Nat} (hn : 0 < n) : 2 ^ n.log2 ≤ n ∧ n < 2 ^ (n.log2 + 1) :=
  ⟨Nat.log2_self_le hn.ne', Nat.lt_log2_self⟩

/-- The difference of the logarithms bounds a quotient on both sides. -/
theorem log2_sub_bounds (hnum : 0 < num) (hden : 0 < den) {k : Nat} :
    (num < 2 ^ k * den → num.log2 ≤ den.log2 + k) ∧ (2 ^ k * den ≤ num → den.log2 + k ≤ num.log2) := by
  obtain ⟨hn, hn'⟩ := log2_bounds hnum
  obtain ⟨hd, hd'⟩ := log2_bounds hden
  constructor
  · intro h
    have hlt : 2 ^ num.log2 < 2 ^ (den.log2 + k + 1) := by
      calc 2 ^ num.log2 ≤ num := hn
        _ < 2 ^ k * den := h
        _ < 2 ^ k * 2 ^ (den.log2 + 1) := Nat.mul_lt_mul_of_pos_left hd' (Nat.two_pow_pos k)
        _ = 2 ^ (den.log2 + k + 1) := by ring
    have := (Nat.pow_lt_pow_iff_right (by omega)).mp hlt
    omega
  · intro h
    have hlt : 2 ^ (den.log2 + k) < 2 ^ (num.log2 + 1) := by
      calc 2 ^ (den.log2 + k) = 2 ^ k * 2 ^ den.log2 := by ring
        _ ≤ 2 ^ k * den := Nat.mul_le_mul_left _ hd
        _ ≤ num := h
        _ < 2 ^ (num.log2 + 1) := hn'
    have := (Nat.pow_lt_pow_iff_right (by omega)).mp hlt
    omega

/-- The last bit is 52 places below the first one, or 53 if the quotient is less than the difference
of the logarithms tells. -/
theorem lastExp_bounds {j : Nat} :
    (num.log2 ≤ den.log2 + 52 + j → lastExp .double num den ≤ j) ∧
      (den.log2 + 52 + j ≤ num.log2 → (j : Int) - 1 ≤ lastExp .double num den) ∧
      (num.log2 = den.log2 + 52 + j → lastExp .double num den =
        if num / (den * 2 ^ j) < 2 ^ 52 then (j : Int) - 1 else j) := by
  obtain ⟨e, he⟩ : ∃ e : Int, e = (num.log2 : Int) - den.log2 - ((53 - 1 : Nat) : Int) := ⟨_, rfl⟩
  have hexp : lastExp .double num den = max (-1074)
      (if (if e < 0 then num * 2 ^ e.natAbs / den else num / (den * 2 ^ e.natAbs)) < 2 ^ 52
        then e - 1 else e) := by
    rw [he]
    rfl
  rw [hexp]
  refine ⟨fun h => ?_, fun h => ?_, fun h => ?_⟩
  · split_ifs <;> omega
  · split_ifs <;> omega
  · obtain rfl : e = j := by omega
    simp only [Int.natAbs_natCast, if_neg (show ¬ (j : Int) < 0 by omega)]
    split_ifs <;> omega

/-- A number under a power of two has its last bit so far below. -/
theorem lastExp_le (hnum : 0 < num) (hden : 0 < den) {j k : Nat} (h : num < 2 ^ k * den)
    (hk : k = 53 + j) : lastExp .double num den ≤ j := by
  subst hk
  have hlog := (log2_sub_bounds hnum hden).1 h
  obtain ⟨-, -, htop⟩ := @lastExp_bounds num den (j + 1)
  by_cases heq : num.log2 = den.log2 + 52 + (j + 1)
  · have hfull : num / (den * 2 ^ (j + 1)) < 2 ^ 52 := by
      refine (Nat.div_lt_iff_lt_mul (Nat.mul_pos hden (Nat.two_pow_pos _))).mpr ?_
      calc num < 2 ^ (53 + j) * den := h
        _ = 2 ^ 52 * (den * 2 ^ (j + 1)) := by ring
    rw [htop heq, if_pos hfull]
    omega
  · exact lastExp_bounds.1 (by omega)

theorem le_lastExp (hnum : 0 < num) (hden : 0 < den) {j k : Nat} (h : 2 ^ k * den ≤ num)
    (hk : k = 52 + j) : (j : Int) ≤ lastExp .double num den := by
  subst hk
  have hlog := (log2_sub_bounds hnum hden).2 h
  obtain ⟨-, -, htop⟩ := @lastExp_bounds num den j
  by_cases heq : num.log2 = den.log2 + 52 + j
  · have hfull : 2 ^ 52 ≤ num / (den * 2 ^ j) := by
      refine (Nat.le_div_iff_mul_le (Nat.mul_pos hden (Nat.two_pow_pos _))).mpr ?_
      calc 2 ^ 52 * (den * 2 ^ j) = 2 ^ (52 + j) * den := by ring
        _ ≤ num := h
    rw [htop heq, if_neg (by omega)]
  · have := (@lastExp_bounds num den (j + 1)).2.1 (by omega)
    omega

/-- A number is too great if its last bit is, which rounding up moves by one. -/
theorem isFinite_roundTo (negative : Bool) (num den : Nat) :
    ∃ m, (0 ≤ lastExp .double num den →
        m = roundHalfEven num (den * 2 ^ (lastExp .double num den).natAbs)) ∧
      ((roundTo .double negative num den).isFinite = false ↔
        num ≠ 0 ∧ m ≠ 0 ∧
          971 < if m = 2 ^ 53 then lastExp .double num den + 1 else lastExp .double num den) := by
  obtain ⟨e, he⟩ : ∃ e, e = lastExp .double num den := ⟨_, rfl⟩
  obtain ⟨m, hm⟩ : ∃ m, m = if e < 0 then roundHalfEven (num * 2 ^ e.natAbs) den
    else roundHalfEven num (den * 2 ^ e.natAbs) := ⟨_, rfl⟩
  have hrun : roundTo .double negative num den =
      if num = 0 then zero negative
      else if (if m = 2 ^ 53 then (m / 2, e + 1) else (m, e)).1 = 0 then zero negative
      else if 971 < (if m = 2 ^ 53 then (m / 2, e + 1) else (m, e)).2 then .infinite negative
      else .finite negative (if m = 2 ^ 53 then (m / 2, e + 1) else (m, e)).1
        (if m = 2 ^ 53 then (m / 2, e + 1) else (m, e)).2 := by
    rw [hm, he]
    rfl
  refine ⟨m, fun h => ?_, ?_⟩
  · rw [hm, ← he, if_neg (by omega)]
  · rw [hrun, ← he]
    clear hrun he hm
    by_cases hnum : num = 0
    · simp [hnum, zero, isFinite]
    by_cases htop : m = 2 ^ 53
    · have hhalf : 2 ^ 53 / 2 ≠ 0 := by decide
      subst htop
      simp only [hnum, if_true, if_false, hhalf]
      split_ifs <;> simp_all [isFinite]
    · simp only [hnum, htop, if_false]
      split_ifs <;> simp_all [isFinite, zero]

/-- Where the last bit is at 0 or above, something is left of a number. -/
theorem roundHalfEven_pos (hnum : 0 < num) (hden : 0 < den) {j : Nat}
    (h : lastExp .double num den = (j + 1 : Nat)) : 0 < roundHalfEven num (den * 2 ^ (j + 1)) := by
  have hlarge : 2 ^ (53 + j) * den ≤ num := by
    by_contra hlt
    have := lastExp_le hnum hden (Nat.lt_of_not_le hlt) rfl
    omega
  have hquotient : 0 < num / (den * 2 ^ (j + 1)) := by
    refine Nat.div_pos ?_ (Nat.mul_pos hden (Nat.two_pow_pos _))
    calc den * 2 ^ (j + 1) ≤ 2 ^ 52 * (den * 2 ^ (j + 1)) := Nat.le_mul_of_pos_left _ (by decide)
      _ = 2 ^ (53 + j) * den := by ring
      _ ≤ num := hlarge
  unfold roundHalfEven
  dsimp only
  split_ifs <;> omega

theorem isFinite_below (hnum : 0 < num) (hden : 0 < den) (h : num < 2 ^ 1023 * den) :
    (roundTo .double false num den).isFinite = true := by
  obtain ⟨m, -, hfinite⟩ := isFinite_roundTo false num den
  have hexp : lastExp .double num den ≤ 970 := lastExp_le (j := 970) hnum hden h rfl
  rw [← Bool.not_eq_false, hfinite]
  rintro ⟨-, -, hlast⟩
  split at hlast <;> omega

theorem isFinite_above (hnum : 0 < num) (hden : 0 < den) (h : 2 ^ 1024 * den ≤ num) :
    (roundTo .double false num den).isFinite = false := by
  obtain ⟨m, hm, hfinite⟩ := isFinite_roundTo false num den
  have hexp : 972 ≤ lastExp .double num den := le_lastExp (j := 972) hnum hden h rfl
  obtain ⟨j, hj⟩ : ∃ j : Nat, lastExp .double num den = (j + 1 : Nat) :=
    ⟨(lastExp .double num den).natAbs - 1, by omega⟩
  have hleft : 0 < m := by
    rw [hm (by omega), hj]
    exact roundHalfEven_pos hnum hden hj
  refine hfinite.mpr ⟨hnum.ne', hleft.ne', ?_⟩
  split <;> omega

/-- In between, a number is finite unless it is rounded up to the power of two. -/
theorem isFinite_between (hnum : 0 < num) (hden : 0 < den) (hlow : 2 ^ 1023 * den ≤ num)
    (hhigh : num < 2 ^ 1024 * den) :
    (roundTo .double false num den).isFinite = false ↔
      roundHalfEven num (den * 2 ^ 971) = 2 ^ 53 := by
  obtain ⟨m, hm, hfinite⟩ := isFinite_roundTo false num den
  have hexp : lastExp .double num den = 971 := by
    have hle : lastExp .double num den ≤ 971 := lastExp_le (j := 971) hnum hden hhigh rfl
    have hge : 971 ≤ lastExp .double num den := le_lastExp (j := 971) hnum hden hlow rfl
    omega
  have hplace : (lastExp .double num den).natAbs = 971 := by omega
  rw [hfinite, ← hplace, ← hm (by omega), hexp]
  by_cases htop : m = 2 ^ 53
  · exact iff_of_true ⟨hnum.ne', by omega, by simp [htop]⟩ htop
  · exact iff_of_false (fun ⟨_, _, hlast⟩ => by rw [if_neg htop] at hlast; omega) htop

end Binary64

open Binary64 in
/-- The numbers that round to no finite one are those from the middle between the greatest finite one
and the next power of two on. -/
theorem overflowsFloat_iff {num : Int} {den : Nat} (hden : 0 < den) :
    overflowsFloat num den = true ↔ (2 ^ 1024 - 2 ^ 970) * den ≤ num.natAbs := by
  obtain ⟨n, hn⟩ : ∃ n, n = num.natAbs := ⟨_, rfl⟩
  obtain ⟨half, hhalf⟩ : ∃ half, half = 2 ^ 970 * den := ⟨_, rfl⟩
  have hpos : 0 < half := by
    rw [hhalf]
    positivity
  have hlow : 2 ^ 1023 * den = 2 ^ 53 * half := by rw [hhalf, ← Nat.mul_assoc, ← Nat.pow_add]
  have hhigh : 2 ^ 1024 * den = 2 ^ 54 * half := by rw [hhalf, ← Nat.mul_assoc, ← Nat.pow_add]
  have hlimit : (2 ^ 1024 - 2 ^ 970) * den = 2 ^ 54 * half - half := by
    rw [Nat.sub_mul, hhigh, hhalf]
  rw [overflowsFloat, ← hn, Bool.not_eq_true', hlimit]
  rcases Nat.eq_zero_or_pos n with hzero | hnum
  · have hfinite : (roundTo .double false n den).isFinite = true := by rw [hzero]; rfl
    exact iff_of_false (by simp [hfinite]) (by omega)
  by_cases hsmall : n < 2 ^ 1023 * den
  · exact iff_of_false (by simp [isFinite_below hnum hden hsmall]) (by omega)
  by_cases hlarge : 2 ^ 1024 * den ≤ n
  · exact iff_of_true (isFinite_above hnum hden hlarge) (by omega)
  have hunit : den * 2 ^ 971 = 2 * half := by
    rw [hhalf, ← Nat.mul_assoc, ← Nat.pow_succ', Nat.mul_comm]
  rw [isFinite_between hnum hden (Nat.le_of_not_lt hsmall) (Nat.lt_of_not_le hlarge),
    roundHalfEven_eq_iff (by decide) (by rw [hunit]; omega), hunit]
  omega

theorem overflowsFloat_int_iff {n : Int} :
    overflowsFloat n 1 = true ↔ 2 ^ 1024 - 2 ^ 970 ≤ n.natAbs := by
  rw [overflowsFloat_iff Nat.one_pos, Nat.mul_one]

end TemplateEngine
