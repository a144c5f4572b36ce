import TemplateEngine.Proofs.IntegerSpellings
import TemplateEngine.Proofs.NumberValues
import Mathlib.Algebra.Order.Field.Power
import Mathlib.Data.Rat.Cast.Order
/-!
Texts of the number grammar that have no number: an integer with more digits than are read in base ten,
and a decimal that is too great. No other text fails, however long it is.
-/
namespace TemplateEngine

theorem Text.length_digitsOf {base : Nat} (two : 1 < base) (few : base ≤ 16) (n : Nat) :
    (Text.digitsOf base n).length = (Nat.toDigits base n).length := by
  rw [← Text.map_digitsOf two few, List.length_map]

namespace Decimal

/-- A number with `k` digits lies between two powers of ten. -/
theorem coeff_bounds {coeff k : Nat} (filled : coeff ≠ 0)
    (length : (Text.digitsOf 10 coeff).length = k) :
    0 < k ∧ 10 ^ (k - 1) ≤ coeff ∧ coeff < 10 ^ k := by
  rw [Text.length_digitsOf (by decide) (by decide)] at length
  have some : 0 < k := length ▸ Nat.length_toDigits_pos
  have above := (Nat.length_toDigits_le_iff (b := 10) (by decide) some).mp (Nat.le_of_eq length)
  refine ⟨some, ?_, above⟩
  obtain one | more : k = 1 ∨ 0 < k - 1 := by omega
  · rw [one]
    exact Nat.one_le_iff_ne_zero.mpr filled
  · have fewer := Nat.length_toDigits_le_iff (b := 10) (n := coeff) (by decide) more
    rw [length] at fewer
    have := mt fewer.mpr
    omega

/-- The first digit stands beyond a place exactly if the number reaches the next power of ten. -/
theorem lt_adjusted_iff {coeff : Nat} {exp limit : Int} (filled : coeff ≠ 0) :
    limit < adjusted coeff exp ↔ (10 : ℚ) ^ (limit + 1) ≤ coeff * (10 : ℚ) ^ exp := by
  obtain ⟨k, length⟩ : ∃ k, (Text.digitsOf 10 coeff).length = k := ⟨_, rfl⟩
  obtain ⟨some, low, high⟩ := coeff_bounds filled length
  have ten : (1 : ℚ) < 10 := by norm_num
  have positive : (0 : ℚ) < 10 ^ exp := zpow_pos (by norm_num) exp
  rw [adjusted, length]
  constructor
  · intro beyond
    have low : (10 : ℚ) ^ (k - 1) ≤ coeff := by exact_mod_cast low
    calc (10 : ℚ) ^ (limit + 1) ≤ 10 ^ ((k - 1 : ℕ) + exp) := zpow_le_zpow_right₀ ten.le (by omega)
      _ = 10 ^ (k - 1) * 10 ^ exp := by rw [zpow_add₀ (by norm_num), zpow_natCast]
      _ ≤ coeff * 10 ^ exp := by gcongr
  · intro reached
    by_contra short
    have high : (coeff : ℚ) < 10 ^ k := by exact_mod_cast high
    have under : (coeff : ℚ) * 10 ^ exp < 10 ^ (limit + 1) := by
      calc (coeff : ℚ) * 10 ^ exp < 10 ^ k * 10 ^ exp := by gcongr
        _ = 10 ^ ((k : ℕ) + exp) := by rw [zpow_add₀ (by norm_num), zpow_natCast]
        _ ≤ 10 ^ (limit + 1) := zpow_le_zpow_right₀ ten.le (by omega)
    exact absurd reached (not_le.mpr under)

/-- Whether a number is so great that it is out of the range of decimals. -/
def Vast (coeff : Nat) (exp : Int) : Prop :=
  (10 : ℚ) ^ (maxExponent + 1) ≤ coeff * (10 : ℚ) ^ exp

theorem vast_iff {coeff : Nat} {exp : Int} (negative : Bool) : Vast coeff exp ↔
    (∃ sign, (finite negative coeff exp).toBinary64 = .infinite sign) ∧
      (finite negative coeff exp).inRange = false := by
  have beyond : (finite negative coeff exp).inRange = false ↔ maxExponent < adjusted coeff exp := by
    rw [inRange, decide_eq_false_iff_not, Int.not_le]
  have limit : maxExponent = 999999999999999999 := rfl
  rw [beyond]
  by_cases empty : coeff = 0
  · subst empty
    have positive : (0 : ℚ) < 10 ^ (maxExponent + 1) := zpow_pos (by norm_num) _
    simp [Vast, toBinary64, Binary64.zero, not_le.mpr positive]
  · rw [Vast, ← lt_adjusted_iff empty]
    refine ⟨fun vast => ⟨⟨negative, ?_⟩, vast⟩, And.right⟩
    rw [toBinary64, if_neg (by omega), if_pos (by omega)]

end Decimal

namespace Literal

/-- A text of the grammar that has no number: a run of decimal digits that is too long, or a number so
great that its first digit stands too far to the left. -/
inductive Unreadable (s : List Char) : NumeralError → Prop
  | tooManyDigits {count : Nat}
      (held : s ∈ integral {digits | digits ∈ run Text.isDigit ∧ digits.head? ≠ some '0' ∧
        digits.length = count})
      (long : maxIntegerDigits < count) : Unreadable s (.tooManyDigits count)
  | exponentOutOfRange {number : List Char} {negative : Bool} {coeff : Nat} {exp : Int}
      (held : s ∈ realForm) (cut : scan? s = some (.real negative number))
      (read : Decimal.ofFiniteText? negative number = some (.finite negative coeff exp))
      (vast : Decimal.Vast coeff exp) :
      Unreadable s .exponentOutOfRange

section Values
variable {negative : Bool} {digits number : List Char} {e : NumeralError}

theorem value_integer_error_iff : (integer negative digits).value = .error e ↔
    digits.head? ≠ some '0' ∧ maxIntegerDigits < digits.length ∧ e = .tooManyDigits digits.length := by
  have max : maxIntegerDigits = 4300 := rfl
  simp only [value, Bool.and_eq_true, decide_eq_true_eq, beq_iff_eq]
  split_ifs with leading octal
  · simp [leading.2]
  · simp [leading.2]
  · unfold readInteger
    split_ifs with long
    · have nonzero : digits.head? ≠ some '0' := fun zero => leading ⟨by omega, zero⟩
      simp [Except.map, nonzero, long, eq_comm]
    · simp [Except.map, long]

theorem ofFiniteText?_finite {d : Decimal} (read : Decimal.ofFiniteText? negative number = some d) :
    ∃ coeff exp, d = .finite negative coeff exp := by
  obtain ⟨⟨whole, point, fraction, rest⟩, cut⟩ : ∃ parts, cutMantissa number = parts := ⟨_, rfl⟩
  rw [ofFiniteText?_eq cut] at read
  split_ifs at read
  dsimp only at read
  split at read
  · exact ⟨_, _, (Option.some.inj read).symm⟩
  · split_ifs at read <;> exact ⟨_, _, (Option.some.inj read).symm⟩

theorem value_real_error_iff : (real negative number).value = .error e ↔ e = .exponentOutOfRange ∧
    ∃ coeff exp, Decimal.ofFiniteText? negative number = some (.finite negative coeff exp) ∧
      Decimal.Vast coeff exp := by
  rw [value]
  cases read : Decimal.ofFiniteText? negative number with
  | none => simp
  | some d =>
    obtain ⟨coeff, exp, rfl⟩ := ofFiniteText?_finite read
    have vast := @Decimal.vast_iff coeff exp negative
    generalize found : Decimal.finite negative coeff exp = d at vast
    have only : (∃ other power, some d = some (.finite negative other power) ∧
        Decimal.Vast other power) ↔ Decimal.Vast coeff exp := by
      constructor
      · rintro ⟨other, power, same, beyond⟩
        obtain ⟨-, rfl, rfl⟩ := Decimal.finite.inj (found.trans (Option.some.inj same))
        exact beyond
      · exact fun beyond => ⟨coeff, exp, congrArg some found.symm, beyond⟩
    rw [only, vast]
    cases size : d.toBinary64 with
    | infinite sign => cases ranged : d.inRange <;> simp [size, ranged, eq_comm]
    | finite _ _ _ => simp [size]
    | nan => simp [size]

end Values

/-- A scan that found an integer or a number with a fraction or an exponent came to it in order. -/
theorem scan?_cases {s : List Char} {literal : Literal} (cut : scan? s = some literal) :
    match literal with
    | hex _ _ => True
    | integer _ digits => integerDigits? (sign s).2 = some digits
    | real _ _ => s ∈ realForm := by
  obtain ⟨negative, body, signed⟩ : ∃ negative body, sign s = (negative, body) := ⟨_, _, rfl⟩
  simp only [scan?, signed] at cut
  cases hex : hexDigits? body with
  | some digits =>
    obtain rfl := by simpa [hex] using cut
    trivial
  | none =>
    rw [hex] at cut
    cases run : integerDigits? body with
    | some digits =>
      obtain rfl := by simpa [run] using cut
      simp only [signed, run]
    | none =>
      obtain ⟨number, read, rfl⟩ := Option.map_eq_some_iff.mp (by simpa [run] using cut)
      simp only [mem_realForm, signed, read, run, Option.some.injEq, exists_eq', and_self]

theorem createNumber_error_iff {text : String} {e : NumeralError} :
    createNumber text = .error e ↔ Unreadable text.toList e := by
  constructor
  · intro failed
    rw [createNumber] at failed
    cases scanned : scan? text.toList with
    | none => simp [scanned] at failed
    | some literal =>
      rw [scanned] at failed
      cases literal with
      | hex negative digits => simp [value] at failed
      | integer negative digits =>
        obtain ⟨nonzero, long, rfl⟩ := value_integer_error_iff.mp failed
        have read : integerDigits? (sign text.toList).2 = some digits := scan?_cases scanned
        have held : digits ∈ run Text.isDigit := (integerDigits?_eq_some.mp read).1
        refine .tooManyDigits ((mem_integral fun _ inside => inside.1).mpr ?_) long
        exact ⟨digits, ⟨held, nonzero, rfl⟩, read⟩
      | real negative number =>
        obtain ⟨rfl, coeff, exp, read, vast⟩ := value_real_error_iff.mp failed
        exact .exponentOutOfRange (scan?_cases scanned) scanned read vast
  · intro unreadable
    cases unreadable with
    | tooManyDigits held long =>
      obtain ⟨digits, ⟨-, nonzero, rfl⟩, read⟩ := (mem_integral fun _ inside => inside.1).mp held
      rw [createNumber_integer rfl read]
      exact value_integer_error_iff.mpr ⟨nonzero, long, rfl⟩
    | exponentOutOfRange held cut read vast =>
      rw [createNumber, cut]
      exact value_real_error_iff.mpr ⟨rfl, _, _, read, vast⟩

end Literal

/-! ## Texts as values -/

open Literal

/-- What the readers make of the characters of a text, in a world that they leave as it is: its number
and whether it has one, or a failure of both if it is a text without one. -/
inductive Answers (form : String) (w : World) :
    Except Fault (Option Value) × World → Except Fault Bool × World → Prop
  | numeric {n : Numeral} (readable : ∀ e, ¬ Unreadable form.toList e)
      (read : createNumber form = .ok (some n)) :
      Answers form w (.ok (some n.toValue), w) (.ok true, w)
  | other (readable : ∀ e, ¬ Unreadable form.toList e) (read : createNumber form = .ok none) :
      Answers form w (.ok none, w) (.ok false, w)
  | unreadable {e : NumeralError} (held : Unreadable form.toList e)
      (read : createNumber form = .error e) :
      Answers form w (.error (.numeral e), w) (.error (.numeral e), w)

theorem answers_numberOfText (form : String) (w : World) :
    Answers form w (outcome (numberOfText form) w) (outcome (isCreatable form) w) := by
  have failing (e : NumeralError) := @createNumber_error_iff form e
  simp only [isCreatable, bind_pure_comp, outcome_map]
  cases read : createNumber form with
  | error e =>
    have number : outcome (numberOfText form) w = (.error (.numeral e), w) := by
      simp [numberOfText, read]
    rw [number]
    exact .unreadable ((failing e).mp read) read
  | ok result =>
    have readable : ∀ e, ¬ Unreadable form.toList e := fun e unreadable => by
      simp [read] at failing
      exact failing e unreadable
    have number : outcome (numberOfText form) w = (.ok (result.map Numeral.toValue), w) := by
      simp [numberOfText, read]
    rw [number]
    cases result with
    | none => exact .other readable read
    | some n => exact .numeric readable read

section Forms
variable {w w' : World} {v : Value} {s form : String}

/-- A text that is no member of an enumeration is its own text form. -/
theorem outcome_templateText?_own (texted : w.text? v = some s) (plain : ∀ e i, v ≠ .member e i) :
    outcome (templateText? v) w = (.ok (some s), w) := by
  obtain ⟨filled, single, -⟩ := w.plain_of_text texted
  obtain ⟨n, room⟩ := w.nesting_eq_succ v
  have own : outcome (toStringWithin (n + 1) v) w = (.ok v, w) := by
    cases v with
    | null => exact absurd rfl filled
    | member e i => exact absurd rfl (plain e i)
    | bool => simp [World.text?, World.base] at texted
    | flags => simp [World.text?, World.base] at texted
    | _ => simp [toStringWithin, single, texted]
  rw [templateText?, outcome_bind_ok (by rw [toTemplateText, outcome_get_bind, room, own])]
  simp [texted]

/-- A text value has the number of its text form. -/
theorem answers_of_form (texted : w.text? v = some s)
    (shown : outcome (templateText? v) w = (.ok (some form), w')) :
    Answers form w' (outcome (toNumber v) w) (outcome (isNumber v) w) := by
  obtain ⟨filled, single, other⟩ := w.plain_of_text texted
  have number : outcome (numberOfForm v) w = outcome (numberOfText form) w' := by
    rw [numberOfForm, outcome_bind_ok shown]
  have coercion : outcome (toNumber v) w = outcome (numberOfText form) w' := by
    rw [toNumber, outcome_get_bind, w.unwrap_of_content v single]
    split
    · exact absurd rfl filled
    · rw [other, if_neg Bool.false_ne_true, number]
  have predicate : outcome (isNumber v) w = outcome (isCreatable form) w' := by
    simp only [isNumber, if_neg filled, outcome_get_bind, other, if_neg Bool.false_ne_true,
      isCreatable, bind_pure_comp, outcome_map, number]
  rw [coercion, predicate]
  exact answers_numberOfText form w'

end Forms

/-- The readers of numbers answer for each text, whatever its length, but for the unreadable ones. Of a
text value it is the text form that is read: its own characters, unless it is a member of an
enumeration. -/
theorem answers_of_text (w : World) {v : Value} {s : String} (texted : w.text? v = some s) :
    Answers s w (outcome (numberOfText s) w) (outcome (isCreatable s) w) ∧
    ((∀ e i, v ≠ .member e i) → Answers s w (outcome (toNumber v) w) (outcome (isNumber v) w)) ∧
    ∀ form w', outcome (templateText? v) w = (.ok (some form), w') →
      Answers form w' (outcome (toNumber v) w) (outcome (isNumber v) w) := by
  refine ⟨answers_numberOfText s w, fun plain => ?_, fun form w' shown => ?_⟩
  · exact answers_of_form texted (outcome_templateText?_own texted plain)
  · exact answers_of_form texted shown

/-- The number with the least exponent that is out of range. -/
theorem answers_of_text_vast :
    World.text? {} (.text "1e1000000000000000000") = some "1e1000000000000000000" ∧
    Unreadable "1e1000000000000000000".toList .exponentOutOfRange ∧
    (outcome (isNumber (.text "1e1000000000000000000")) {}).1 =
      .error (.numeral .exponentOutOfRange) := by
  have cut : scan? "1e1000000000000000000".toList =
      some (.real false "1e1000000000000000000".toList) := by decide
  have read : Decimal.ofFiniteText? false "1e1000000000000000000".toList =
      some (.finite false 1 1000000000000000000) := by decide
  have vast : Decimal.Vast 1 1000000000000000000 := by
    have limit : Decimal.maxExponent + 1 = 1000000000000000000 := rfl
    rw [Decimal.Vast, limit, Nat.cast_one, one_mul]
  have unreadable := Unreadable.exponentOutOfRange (scan?_cases cut) cut read vast
  have texted : World.text? {} (.text "1e1000000000000000000") = some "1e1000000000000000000" := rfl
  refine ⟨texted, unreadable, ?_⟩
  have answers := (answers_of_text {} texted).2.1 nofun
  generalize outcome (toNumber (.text "1e1000000000000000000")) {} = number at answers
  generalize outcome (isNumber (.text "1e1000000000000000000")) {} = truth at answers ⊢
  cases answers with
  | numeric readable read => exact absurd unreadable (readable _)
  | other readable read => exact absurd unreadable (readable _)
  | unreadable held failed =>
    have same := createNumber_error_iff.mpr unreadable
    rw [failed] at same
    rw [Except.error.inj same]

end TemplateEngine
