import TemplateEngine.Proofs.NumberForms
import Mathlib.Data.List.Chain
import Mathlib.Order.CompletePartialOrder
/-!
A text has a number exactly if it is of one of the forms of the lenient grammar. Signs, blanks and
letters stand in such a text only where the grammar has them.
-/
namespace TemplateEngine

namespace Literal

open Computability

/-- Nothing blank stands in the text, a sign stands at the front or starts the digits of an exponent,
and a letter that names a type ends the text, unless it is a hexadecimal digit. -/
structure Tidy (s : List Char) : Prop where
  unblank : ∀ c ∈ s, Text.isBlank c = false
  signed : s.IsChain fun a b => b = '+' ∨ b = '-' → a = 'e' ∨ a = 'E'
  ended : s ∉ hexForm → ∀ c ∈ s.dropLast, c ∉ ['l', 'L', 'f', 'F', 'd', 'D']

/-- Whether the character may stand in a number. -/
def isPlain (c : Char) : Bool :=
  Text.isDigit c || isAsciiHex c || ['+', '-', '.', '#', 'x', 'X', 'l', 'L'].contains c

theorem digit_unblank {c : Char} (digit : Text.isDigit c) : Text.isBlank c = false := by
  have apart : ∀ first ∈ Text.digitZeros, ∀ range ∈ Text.blankRanges,
      first + 10 ≤ range.1 ∨ range.2 < first := by decide
  rw [Text.isDigit, Text.digit?, Option.isSome_map, List.find?_isSome] at digit
  obtain ⟨first, found, within⟩ := digit
  rw [Text.isBlank, Text.inRanges, List.any_eq_false]
  intro range listed
  have := apart first found range listed
  simp only [Bool.and_eq_true, decide_eq_true_eq] at within ⊢
  omega

theorem plain_unblank {c : Char} (plain : isPlain c) : Text.isBlank c = false := by
  simp only [isPlain, Bool.or_eq_true, or_assoc] at plain
  obtain digit | hex | mark := plain
  · exact digit_unblank digit
  · simp only [isAsciiHex, Bool.or_eq_true, Bool.and_eq_true, decide_eq_true_eq, le_iff_toNat,
      Char.reduceToNat] at hex
    simp only [Text.isBlank, Text.inRanges, Text.blankRanges, List.any_cons, List.any_nil,
      Bool.or_false, Bool.or_eq_false_iff, Bool.and_eq_false_iff, decide_eq_false_iff_not]
    omega
  · have unblank : ∀ c ∈ ['+', '-', '.', '#', 'x', 'X', 'l', 'L'], Text.isBlank c = false :=
      List.forall_iff_forall_mem.mp (by decide)
    exact unblank c (List.contains_iff_mem.mp mark)

section Each
variable {p : Char → Prop} {l m : Language Char}

theorem each_mul (left : ∀ s ∈ l, ∀ c ∈ s, p c) (right : ∀ s ∈ m, ∀ c ∈ s, p c) :
    ∀ s ∈ l * m, ∀ c ∈ s, p c := by
  rintro _ ⟨a, first, b, second, rfl⟩ c found
  obtain found | found := List.mem_append.mp found
  · exact left a first c found
  · exact right b second c found

theorem each_maybe (held : ∀ s ∈ l, ∀ c ∈ s, p c) : ∀ s ∈ maybe l, ∀ c ∈ s, p c := by
  intro s inside c found
  obtain rfl | inside := mem_maybe.mp inside
  · cases found
  · exact held s inside c found

theorem each_oneOf {cs : List Char} (held : ∀ c ∈ cs, p c) : ∀ s ∈ oneOf cs, ∀ c ∈ s, p c := by
  intro s inside c found
  obtain ⟨d, listed, rfl⟩ := mem_oneOf.mp inside
  obtain rfl := List.mem_singleton.mp found
  exact held c listed

theorem each_run {kind : Char → Bool} (held : ∀ c, kind c → p c) :
    ∀ s ∈ run kind, ∀ c ∈ s, p c := by
  intro s inside c found
  exact held c ((mem_run.mp inside).2 c found)

theorem each_mantissa (digit : ∀ c, Text.isDigit c → p c) (point : p '.') :
    ∀ s ∈ mantissa, ∀ c ∈ s, p c := by
  intro s inside c found
  obtain digits | ⟨whole, fraction, rfl, -, before, after⟩ := mem_mantissa.mp inside
  · exact each_run digit s digits c found
  · obtain found | rfl | found := by simpa only [List.mem_append, List.mem_cons] using found
    · exact digit c (before c found)
    · exact point
    · exact digit c (after c found)

theorem each_power (digit : ∀ c, Text.isDigit c → p c) (mark : ∀ c ∈ ['e', 'E', '+', '-'], p c) :
    ∀ s ∈ power, ∀ c ∈ s, p c := by
  have letter : ∀ c ∈ ['e', 'E'], p c := fun c found => mark c (List.mem_append_left ['+', '-'] found)
  have sign : ∀ c ∈ ['+', '-'], p c := fun c found => mark c (List.mem_append_right ['e', 'E'] found)
  have signs := each_maybe (each_oneOf sign)
  exact each_maybe (each_mul (each_oneOf letter) (each_mul signs (each_run digit)))

end Each

theorem plain_digit (c : Char) (digit : Text.isDigit c) : isPlain c := by
  simp [isPlain, digit]

theorem plain_mark : ∀ c ∈ ['+', '-', '.', '#', 'x', 'X', 'e', 'E', 'l', 'L', 'f', 'F', 'd', 'D', '0'],
    isPlain c :=
  List.forall_iff_forall_mem.mp (by decide)

theorem plain_of_form {s : List Char}
    (held : s ∈ hexForm ∨ s ∈ integral (run Text.isDigit) ∨
      s ∈ signMark * (mantissa * (power * maybe (oneOf ['f', 'F', 'd', 'D'])))) :
    ∀ c ∈ s, isPlain c := by
  have marks {cs : List Char} (listed : cs ⊆ _) : ∀ c ∈ cs, isPlain c :=
    fun c found => plain_mark c (listed found)
  have sign : ∀ s ∈ signMark, ∀ c ∈ s, isPlain c := each_maybe (each_oneOf (marks (by decide)))
  obtain hex | integer | real := held
  · have mark : ∀ s ∈ hexMark, ∀ c ∈ s, isPlain c := by
      intro s inside c found
      obtain rfl | rfl | rfl := mem_hexMark.mp inside <;> exact marks (by decide) c found
    have digit : ∀ c, isAsciiHex c → isPlain c := by
      intro c hex
      simp [isPlain, hex]
    exact each_mul sign (each_mul mark (each_run digit)) s hex
  · have letter : ∀ s ∈ maybe (oneOf ['l', 'L']), ∀ c ∈ s, isPlain c :=
      each_maybe (each_oneOf (marks (by decide)))
    exact each_mul sign (each_mul (each_run plain_digit) letter) s integer
  · have letter : ∀ s ∈ maybe (oneOf ['f', 'F', 'd', 'D']), ∀ c ∈ s, isPlain c :=
      each_maybe (each_oneOf (marks (by decide)))
    have mantissa := each_mantissa plain_digit (plain_mark '.' (by decide))
    have power := each_power plain_digit (marks (by decide))
    exact each_mul sign (each_mul mantissa (each_mul power letter)) s real

/-- Where a sign may stand: at the front, or after the letter of an exponent. -/
def SignAfter (a b : Char) : Prop := b = '+' ∨ b = '-' → a = 'e' ∨ a = 'E'

theorem isChain_of_bare {s : List Char} (bare : ∀ c ∈ s.tail, c ≠ '+' ∧ c ≠ '-') :
    s.IsChain SignAfter := by
  cases s with
  | nil => exact .nil
  | cons a rest =>
    rw [List.tail_cons] at bare
    induction rest generalizing a with
    | nil => exact .singleton a
    | cons b rest ih =>
      obtain ⟨here, later⟩ := List.forall_mem_cons.mp bare
      refine .cons_cons ?_ (ih b later)
      rintro (plus | minus)
      · exact absurd plus here.1
      · exact absurd minus here.2

theorem tail_bare {mark body : List Char} (marked : mark ∈ signMark)
    (bare : ∀ c ∈ body, c ≠ '+' ∧ c ≠ '-') : ∀ c ∈ (mark ++ body).tail, c ≠ '+' ∧ c ≠ '-' := by
  intro c found
  obtain rfl | rfl | rfl := mem_signMark.mp marked
  · exact bare c (List.mem_of_mem_tail found)
  · exact bare c found
  · exact bare c found

/-- Before a last letter stands only what comes before it in the text. -/
theorem mem_dropLast {cs front letter : List Char} (ends : letter ∈ maybe (oneOf cs)) :
    ∀ c ∈ (front ++ letter).dropLast, c ∈ front := by
  intro c found
  obtain rfl | ends := mem_maybe.mp ends
  · rw [List.append_nil] at found
    exact List.mem_of_mem_dropLast found
  · obtain ⟨d, -, rfl⟩ := mem_oneOf.mp ends
    simpa using found

theorem digit_bare (c : Char) (digit : Text.isDigit c) : c ≠ '+' ∧ c ≠ '-' := by
  obtain ⟨plus, minus, -⟩ := digit_ne digit
  exact ⟨plus, minus⟩

theorem digit_unlettered (c : Char) (digit : Text.isDigit c) :
    c ∉ ['l', 'L', 'f', 'F', 'd', 'D'] := by
  intro listed
  have apart := isDigit_mark c (List.mem_append_right ['+', '-', '.', '#', 'x', 'X', 'e', 'E'] listed)
  simp [digit] at apart

theorem tidy_hex {s : List Char} (held : s ∈ hexForm) : Tidy s where
  unblank c found := plain_unblank (plain_of_form (.inl held) c found)
  signed := by
    obtain ⟨mark, marked, body, inside, rfl⟩ := held
    have digit : ∀ c, isAsciiHex c → c ≠ '+' ∧ c ≠ '-' := by
      rintro c hex
      constructor <;> (rintro rfl; revert hex; decide)
    have front : ∀ s ∈ hexMark, ∀ c ∈ s, c ≠ '+' ∧ c ≠ '-' := by
      intro s inside
      obtain rfl | rfl | rfl := mem_hexMark.mp inside <;>
        exact List.forall_iff_forall_mem.mp (by decide)
    exact isChain_of_bare (tail_bare marked (each_mul front (each_run digit) body inside))
  ended apart := absurd held apart

theorem tidy_integral {s : List Char} (held : s ∈ integral (run Text.isDigit)) : Tidy s where
  unblank c found := plain_unblank (plain_of_form (.inr (.inl held)) c found)
  signed := by
    obtain ⟨mark, marked, body, inside, rfl⟩ := held
    have letter : ∀ s ∈ maybe (oneOf ['l', 'L']), ∀ c ∈ s, c ≠ '+' ∧ c ≠ '-' :=
      each_maybe (each_oneOf (List.forall_iff_forall_mem.mp (by decide)))
    exact isChain_of_bare (tail_bare marked (each_mul (each_run digit_bare) letter body inside))
  ended _ := by
    rw [integral, ← mul_assoc] at held
    obtain ⟨front, inside, letter, ends, rfl⟩ := held
    have sign : ∀ s ∈ signMark, ∀ c ∈ s, c ∉ ['l', 'L', 'f', 'F', 'd', 'D'] :=
      each_maybe (each_oneOf (List.forall_iff_forall_mem.mp (by decide)))
    intro c found
    exact each_mul sign (each_run digit_unlettered) front inside c (mem_dropLast ends c found)

theorem tidy_real {s : List Char}
    (held : s ∈ signMark * (mantissa * (power * maybe (oneOf ['f', 'F', 'd', 'D'])))) : Tidy s where
  unblank c found := plain_unblank (plain_of_form (.inr (.inr held)) c found)
  signed := by
    obtain ⟨mark, marked, _, ⟨m, wide, _, ⟨p, powered, letter, ends, rfl⟩, rfl⟩, rfl⟩ := held
    have front : ∀ c ∈ m, c ≠ '+' ∧ c ≠ '-' := each_mantissa digit_bare (by decide) m wide
    have last : ∀ c ∈ letter, c ≠ '+' ∧ c ≠ '-' :=
      each_maybe (each_oneOf (List.forall_iff_forall_mem.mp (by decide))) letter ends
    obtain rfl | ⟨e, signs, digits, rfl, exponent, signed, run⟩ := mem_power.mp powered
    · refine isChain_of_bare (tail_bare marked fun c found => ?_)
      obtain found | found := List.mem_append.mp found
      · exact front c found
      · exact last c found
    · have unsigned : ∀ c ∈ m ++ [e], c ≠ '+' ∧ c ≠ '-' := by
        intro c found
        obtain found | found := List.mem_append.mp found
        · exact front c found
        · obtain rfl := List.mem_singleton.mp found
          obtain rfl | rfl := exponent <;> decide
      have after : ∀ c ∈ digits ++ letter, c ≠ '+' ∧ c ≠ '-' := by
        intro c found
        obtain found | found := List.mem_append.mp found
        · exact digit_bare c ((mem_run.mp run).2 c found)
        · exact last c found
      have joined : mark ++ (m ++ (e :: signs ++ digits ++ letter)) =
          mark ++ (m ++ [e]) ++ (signs ++ (digits ++ letter)) := by simp
      change List.IsChain SignAfter (mark ++ (m ++ (e :: signs ++ digits ++ letter)))
      rw [joined, List.isChain_append]
      refine ⟨isChain_of_bare (tail_bare marked unsigned), isChain_of_bare (tail_bare signed after), ?_⟩
      intro a ends b _ _
      rw [← List.append_assoc, List.getLast?_concat, Option.mem_some] at ends
      exact ends ▸ exponent
  ended _ := by
    rw [← mul_assoc, ← mul_assoc] at held
    obtain ⟨front, inside, letter, ends, rfl⟩ := held
    have sign : ∀ s ∈ signMark, ∀ c ∈ s, c ∉ ['l', 'L', 'f', 'F', 'd', 'D'] :=
      each_maybe (each_oneOf (List.forall_iff_forall_mem.mp (by decide)))
    have number := each_mul (each_mul sign (each_mantissa digit_unlettered (by decide)))
      (each_power digit_unlettered (List.forall_iff_forall_mem.mp (by decide)))
    intro c found
    exact number front inside c (mem_dropLast ends c found)

/-! ## The grammar -/

theorem hexForm_apart {s : List Char} (held : s ∈ hexForm) :
    integerDigits? (sign s).2 = none ∧ realNumber? (sign s).2 = none := by
  obtain ⟨digits, read⟩ := mem_hexForm.mp held
  exact hex_alone read

theorem disjoint_hex_integer : Disjoint hexForm integerForm := by
  refine Set.disjoint_left.mpr fun s hex integer => ?_
  obtain ⟨digits, -, read⟩ := mem_integerForm.mp integer
  simp [(hexForm_apart hex).1] at read

theorem disjoint_hex_real : Disjoint hexForm realForm := by
  refine Set.disjoint_left.mpr fun s hex real => ?_
  obtain ⟨⟨number, read⟩, -⟩ := mem_realForm.mp real
  simp [(hexForm_apart hex).2] at read

theorem disjoint_integer_real : Disjoint integerForm realForm := by
  refine Set.disjoint_left.mpr fun s integer real => ?_
  obtain ⟨digits, -, read⟩ := mem_integerForm.mp integer
  simp [(mem_realForm.mp real).2] at read

/-- A text of a form is tidy. -/
theorem tidy_of_form {s : List Char} (held : s ∈ hexForm ∨ s ∈ integerForm ∨ s ∈ realForm) :
    Tidy s := by
  obtain hex | integer | real := held
  · exact tidy_hex hex
  · obtain ⟨digits, run, read⟩ := mem_integerForm.mp integer
    exact tidy_integral ((mem_integral fun _ held => held).mpr ⟨digits, run.1, read⟩)
  · exact tidy_real real.1

/-- What the reader makes of a text, by the form of the text. -/
inductive Yields (s : List Char) : Except NumeralError (Option Numeral) → Prop
  | hex (held : s ∈ hexForm) (n : Int) : Yields s (.ok (some (.int n)))
  | integer (held : s ∈ integerForm) (n : Int) : Yields s (.ok (some (.int n)))
  | tooLong {digits : List Char} (inside : digits ∈ integerRun)
      (run : integerDigits? (sign s).2 = some digits) (long : maxIntegerDigits < digits.length) :
      Yields s (.error (.tooManyDigits digits.length))
  | float (held : s ∈ realForm) (x : Binary64) : Yields s (.ok (some (.float x)))
  | decimal (held : s ∈ realForm) (d : Decimal) : Yields s (.ok (some (.decimal d)))
  | outOfRange (held : s ∈ realForm) {negative : Bool} {number : List Char} {d : Decimal}
      (scanned : scan? s = some (.real negative number))
      (read : Decimal.ofFiniteText? negative number = some d) (beyond : ¬ d.inRange) :
      Yields s (.error .exponentOutOfRange)
  | other (unhexed : s ∉ hexForm) (uninteger : s ∉ integerForm) (unreal : s ∉ realForm) :
      Yields s (.ok none)

theorem yields_integer {s digits : List Char} (unhexed : s ∉ hexForm)
    (run : integerDigits? (sign s).2 = some digits) (negative : Bool) :
    Yields s (integer negative digits).value := by
  obtain ⟨outside, none⟩ | ⟨inside, ⟨n, found⟩ | ⟨long, failed⟩⟩ :=
    value_integer negative (integerDigits?_eq_some.mp run).1
  · rw [none]
    have unreal : s ∉ realForm := by simp [mem_realForm, run]
    refine .other unhexed (fun held => ?_) unreal
    obtain ⟨others, inside, same⟩ := mem_integerForm.mp held
    obtain rfl : digits = others := Option.some.inj (run.symm.trans same)
    exact outside inside
  · rw [found]
    exact .integer (mem_integerForm.mpr ⟨digits, inside, run⟩) n
  · rw [failed]
    exact .tooLong inside run long

theorem yields_real {s number : List Char} {negative : Bool}
    (unrun : integerDigits? (sign s).2 = none) (read : realNumber? (sign s).2 = some number)
    (scanned : scan? s = some (.real negative number)) : Yields s (real negative number).value := by
  have held : s ∈ realForm := mem_realForm.mpr ⟨⟨number, read⟩, unrun⟩
  obtain ⟨x, found⟩ | ⟨d, found⟩ | ⟨d, finite, beyond, failed⟩ :=
    value_real negative (realNumber?_eq_some.mp read).1
  · rw [found]
    exact .float held x
  · rw [found]
    exact .decimal held d
  · rw [failed]
    exact .outOfRange held scanned finite beyond

/-- The scanners are tried in the order of the forms. -/
theorem createNumber_yields (text : String) : Yields text.toList (createNumber text) := by
  obtain ⟨s, chars⟩ : ∃ s, text.toList = s := ⟨_, rfl⟩
  obtain ⟨negative, body, signed⟩ : ∃ negative body, sign s = (negative, body) := ⟨_, _, rfl⟩
  have after : (sign s).2 = body := by rw [signed]
  rw [createNumber, chars]
  cases hex : hexDigits? body with
  | some digits =>
    have scanned : scan? s = some (.hex negative digits) := by simp only [scan?, signed, hex]
    rw [scanned]
    exact .hex (mem_hexForm.mpr ⟨digits, after ▸ hex⟩) _
  | none =>
    have unhexed : s ∉ hexForm := by simp [mem_hexForm, after, hex]
    cases run : integerDigits? body with
    | some digits =>
      have scanned : scan? s = some (.integer negative digits) := by
        simp only [scan?, signed, hex, run]
      rw [scanned]
      exact yields_integer unhexed (after ▸ run) negative
    | none =>
      have uninteger : s ∉ integerForm := by simp [mem_integerForm, after, run]
      cases read : realNumber? body with
      | some number =>
        have scanned : scan? s = some (.real negative number) := by
          simp only [scan?, signed, hex, run, read, Option.map_some]
        rw [scanned]
        exact yields_real (after ▸ run) (after ▸ read) scanned
      | none =>
        have scanned : scan? s = none := by
          simp only [scan?, signed, hex, run, read, Option.map_none]
        rw [scanned]
        exact .other unhexed uninteger (by simp [mem_realForm, after, read])

/-- A text with a character that stands in no number has no number. -/
theorem createNumber_strange {text : String} {c : Char} (found : c ∈ text.toList)
    (strange : isPlain c = false) : createNumber text = .ok none := by
  have plain (held : text.toList ∈ hexForm ∨ text.toList ∈ integral (run Text.isDigit) ∨
      text.toList ∈ signMark * (mantissa * (power * maybe (oneOf ['f', 'F', 'd', 'D'])))) : False :=
    absurd (plain_of_form held c found) (by simp [strange])
  have integer {digits : List Char} (inside : digits ∈ integerRun)
      (read : integerDigits? (sign text.toList).2 = some digits) :
      text.toList ∈ integral (run Text.isDigit) :=
    (mem_integral fun _ held => held).mpr ⟨digits, inside.1, read⟩
  have read := createNumber_yields text
  generalize createNumber text = outcome at read
  cases read with
  | hex held n => exact (plain (.inl held)).elim
  | integer held n =>
    obtain ⟨digits, inside, read⟩ := mem_integerForm.mp held
    exact (plain (.inr (.inl (integer inside read)))).elim
  | tooLong inside run long => exact (plain (.inr (.inl (integer inside run)))).elim
  | float held x => exact (plain (.inr (.inr held.1))).elim
  | decimal held d => exact (plain (.inr (.inr held.1))).elim
  | outOfRange held scanned finite beyond => exact (plain (.inr (.inr held.1))).elim
  | other unhexed uninteger unreal => rfl

end Literal

open Literal in
/-- The texts that have a number are those of three forms, no two of which share a text. A
hexadecimal text and an integer have an integer, and any other has a float or a decimal. A text of a
form has no number only where an integer has too many digits to be read in base ten, or the first
digit of a decimal stands too far to the left. -/
theorem createNumber_grammar :
    (Disjoint hexForm integerForm ∧ Disjoint hexForm realForm ∧ Disjoint integerForm realForm) ∧
    ∀ text : String,
      match createNumber text with
      | .ok result =>
        (result ≠ none ↔
          text.toList ∈ hexForm ∨ text.toList ∈ integerForm ∨ text.toList ∈ realForm) ∧
        (text.toList ∈ hexForm ∨ text.toList ∈ integerForm → ∃ n, result = some (.int n)) ∧
        (text.toList ∈ realForm →
          (∃ x, result = some (.float x)) ∨ ∃ d, result = some (.decimal d)) ∧
        (result ≠ none → Tidy text.toList)
      | .error (.tooManyDigits count) =>
        text.toList ∈ integral {digits | digits ∈ integerRun ∧ digits.length = count} ∧
          maxIntegerDigits < count
      | .error .exponentOutOfRange =>
        text.toList ∈ realForm ∧ ∃ negative number d,
          scan? text.toList = some (.real negative number) ∧
          Decimal.ofFiniteText? negative number = some d ∧ ¬ d.inRange := by
  refine ⟨⟨disjoint_hex_integer, disjoint_hex_real, disjoint_integer_real⟩, fun text => ?_⟩
  have read := createNumber_yields text
  generalize createNumber text = outcome at read
  cases read with
  | hex held n =>
    have unreal := Set.disjoint_left.mp disjoint_hex_real held
    refine ⟨by simp [held], fun _ => ⟨n, rfl⟩, fun real => absurd real unreal, fun _ => ?_⟩
    exact tidy_of_form (.inl held)
  | integer held n =>
    have unreal := Set.disjoint_left.mp disjoint_integer_real held
    refine ⟨by simp [held], fun _ => ⟨n, rfl⟩, fun real => absurd real unreal, fun _ => ?_⟩
    exact tidy_of_form (.inr (.inl held))
  | tooLong inside run long =>
    refine ⟨(mem_integral fun _ held => held.1.1).mpr ⟨_, ⟨inside, rfl⟩, run⟩, long⟩
  | float held x =>
    have unhexed := Set.disjoint_right.mp disjoint_hex_real held
    have uninteger := Set.disjoint_right.mp disjoint_integer_real held
    refine ⟨by simp [held], fun int => (int.elim unhexed uninteger).elim, fun _ => ?_, fun _ => ?_⟩
    · exact .inl ⟨x, rfl⟩
    · exact tidy_of_form (.inr (.inr held))
  | decimal held d =>
    have unhexed := Set.disjoint_right.mp disjoint_hex_real held
    have uninteger := Set.disjoint_right.mp disjoint_integer_real held
    refine ⟨by simp [held], fun int => (int.elim unhexed uninteger).elim, fun _ => ?_, fun _ => ?_⟩
    · exact .inr ⟨d, rfl⟩
    · exact tidy_of_form (.inr (.inr held))
  | outOfRange held scanned finite beyond =>
    exact ⟨held, _, _, _, scanned, finite, beyond⟩
  | other unhexed uninteger unreal =>
    refine ⟨by simp [unhexed, uninteger, unreal], fun int => ?_, fun real => ?_, by simp⟩
    · exact (int.elim unhexed uninteger).elim
    · exact absurd real unreal

end TemplateEngine
