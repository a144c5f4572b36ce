import TemplateEngine.Proofs.NumberForms
/-!
Integers as text. The digits of a number in a base, read from the left, give the number again, whatever
the case of the letters and however many zeros stand before them. So each spelling of an integer that
the lenient grammar has is read as this integer.
-/
namespace TemplateEngine

namespace Text

variable {base n : Nat}

theorem ofDigits_append (digits more : List Nat) :
    ofDigits base (digits ++ more) = more.foldl (fun n d => n * base + d) (ofDigits base digits) :=
  List.foldl_append

theorem ofDigits_zeros (zeros : Nat) (digits : List Nat) :
    ofDigits base (List.replicate zeros 0 ++ digits) = ofDigits base digits := by
  induction zeros with
  | zero => rfl
  | succ zeros ih =>
    rw [List.replicate_succ, List.cons_append, ofDigits, List.foldl_cons, Nat.zero_mul]
    exact ih

/-- The digits of a number have it as their value, if each digit has its own. -/
theorem ofDigits_toDigits (two : 1 < base) {value : Char → Nat}
    (each : ∀ d < base, value d.digitChar = d) (n : Nat) :
    ofDigits base ((Nat.toDigits base n).map value) = n := by
  induction n using Nat.strong_induction_on with
  | _ n ih =>
    by_cases small : n < base
    · rw [Nat.toDigits_of_lt_base small]
      simp [ofDigits, each n small]
    · have large : base ≤ n := Nat.le_of_not_lt small
      have less : n / base < n := Nat.div_lt_self (by omega) two
      have last : value (n % base).digitChar = n % base := each _ (Nat.mod_lt _ (by omega))
      rw [Nat.toDigits_of_base_le two large, List.map_append, ofDigits_append, ih _ less]
      simp only [List.map_cons, List.map_nil, List.foldl_cons, List.foldl_nil, last]
      rw [Nat.mul_comm]
      exact Nat.div_add_mod n base

theorem mem_toDigits (two : 1 < base) {c : Char} (found : c ∈ Nat.toDigits base n) :
    ∃ d < base, c = d.digitChar := by
  induction n using Nat.strong_induction_on with
  | _ n ih =>
    by_cases small : n < base
    · rw [Nat.toDigits_of_lt_base small] at found
      exact ⟨n, small, List.mem_singleton.mp found⟩
    · rw [Nat.toDigits_of_base_le two (Nat.le_of_not_lt small), List.mem_append] at found
      obtain found | found := found
      · exact ih _ (Nat.div_lt_self (by omega) two) found
      · exact ⟨n % base, Nat.mod_lt _ (by omega), List.mem_singleton.mp found⟩

/-- What holds of each digit holds of each character of a numeral with zeros in front. -/
theorem forall_mem_padded (two : 1 < base) {p : Char → Bool} (each : ∀ d < base, p d.digitChar)
    (zeros : Nat) : ∀ c ∈ List.replicate zeros '0' ++ Nat.toDigits base n, p c := by
  intro c found
  obtain found | found := List.mem_append.mp found
  · obtain rfl := List.eq_of_mem_replicate found
    exact each 0 (by omega)
  · obtain ⟨d, small, rfl⟩ := mem_toDigits two found
    exact each d small

/-- The first digit is a zero only in the numeral of zero. -/
theorem head?_toDigits (two : 1 < base) (few : base ≤ 16) (positive : 0 < n) :
    (Nat.toDigits base n).head? ≠ some '0' := by
  have nonzero : ∀ d < 16, 0 < d → d.digitChar ≠ '0' := by decide
  induction n using Nat.strong_induction_on with
  | _ n ih =>
    by_cases small : n < base
    · rw [Nat.toDigits_of_lt_base small, List.head?_cons, ne_eq, Option.some.injEq]
      exact nonzero n (by omega) positive
    · have large : base ≤ n := Nat.le_of_not_lt small
      rw [Nat.toDigits_of_base_le two large, List.head?_append_of_ne_nil _ Nat.toDigits_ne_nil]
      exact ih _ (Nat.div_lt_self positive two) (Nat.div_pos large (by omega))

/-- The writer puts the digits of a number before those that it has. -/
theorem map_go (two : 1 < base) (few : base ≤ 16) (fuel : Nat) (enough : n < fuel) (after : List Nat) :
    (digitsOf.go base fuel n after).map digitChar =
      Nat.toDigits base n ++ after.map digitChar := by
  have same : ∀ d < 16, digitChar d = d.digitChar := by decide
  induction fuel generalizing n after with
  | zero => exact absurd enough (Nat.not_lt_zero n)
  | succ fuel ih =>
    rw [digitsOf.go]
    split
    · rename_i small
      rw [List.map_cons, same n (by omega), Nat.toDigits_of_lt_base small]
      rfl
    · rename_i large
      have large : base ≤ n := Nat.le_of_not_lt large
      have less : n / base < n := Nat.div_lt_self (by omega) two
      have small : n % base < base := Nat.mod_lt _ (by omega)
      rw [ih (by omega), List.map_cons, same _ (by omega), Nat.toDigits_of_base_le two large,
        List.append_assoc, List.singleton_append]

theorem map_digitsOf (two : 1 < base) (few : base ≤ 16) (n : Nat) :
    (digitsOf base n).map digitChar = Nat.toDigits base n := by
  rw [digitsOf, map_go two few (n + 1) (Nat.lt_succ_self n), List.map_nil, List.append_nil]

theorem toList_writeBase (two : 1 < base) (few : base ≤ 16) (n : Nat) :
    (writeBase base n).toList = Nat.toDigits base n := by
  rw [writeBase, String.toList_ofList, map_digitsOf two few]

/-! ## The digits of the grammar -/

theorem asciiDigit?_digitChar : ∀ d < 16, asciiDigit? d.digitChar = some d := by decide

theorem digit?_digitChar : ∀ d < 10, digit? d.digitChar = some d := by decide

/-- A letter is the same digit in both cases. -/
theorem asciiDigit?_toLower (c : Char) : asciiDigit? c.toLower = asciiDigit? c := by
  by_cases upper : 65 ≤ c.toNat ∧ c.toNat ≤ 90
  · have each : ∀ k < 26, asciiDigit? (Char.ofNat (65 + k)).toLower =
        asciiDigit? (Char.ofNat (65 + k)) := by decide
    have same := each (c.toNat - 65) (by omega)
    rwa [Nat.add_sub_cancel' upper.1, Char.ofNat_toNat] at same
  · have kept : c.toLower = c := by
      refine dif_neg ?_
      rintro ⟨low, high⟩
      exact upper ⟨UInt32.le_iff_toNat_le.mp low, UInt32.le_iff_toNat_le.mp high⟩
    rw [kept]

theorem readBase_toDigits (two : 1 < base) (few : base ≤ 16) (n : Nat) :
    readBase base (Nat.toDigits base n) = n := by
  refine ofDigits_toDigits two (fun d small => ?_) n
  rw [asciiDigit?_digitChar d (by omega), Option.getD_some]

theorem readDecimal_toDigits (n : Nat) : readDecimal (Nat.toDigits 10 n) = n := by
  refine ofDigits_toDigits (by decide) (fun d small => ?_) n
  rw [digit?_digitChar d small, Option.getD_some]

theorem readBase_zeros (zeros : Nat) (digits : List Char) :
    readBase base (List.replicate zeros '0' ++ digits) = readBase base digits := by
  have zero : (asciiDigit? '0').getD 0 = 0 := rfl
  rw [readBase, List.map_append, List.map_replicate, zero, ofDigits_zeros]
  rfl

theorem readBase_toLower (digits : List Char) :
    readBase base (digits.map Char.toLower) = readBase base digits := by
  simp only [readBase, List.map_map, Function.comp_def, asciiDigit?_toLower]

end Text

namespace Literal

open Computability

/-- A sign that a number may have in front: a minus if it is not positive, a plus or none if it is not
negative. -/
inductive SignOf (n : Int) : List Char → Prop
  | minus (below : n ≤ 0) : SignOf n ['-']
  | plus (above : 0 ≤ n) : SignOf n ['+']
  | none (above : 0 ≤ n) : SignOf n []

/-- The spellings of an integer: its decimal digits, if they are not too many, with an `l` or `L` at the
end or without; its hexadecimal digits in any case after a mark and any zeros; its octal digits after
one zero or more, with such a letter or without. -/
inductive SpellsInteger (n : Int) : List Char → Prop
  | decimal {signs letter : List Char} (fits : SignOf n signs)
      (short : (Nat.toDigits 10 n.natAbs).length ≤ maxIntegerDigits)
      (ends : letter ∈ maybe (oneOf ['l', 'L'])) :
      SpellsInteger n (signs ++ (Nat.toDigits 10 n.natAbs ++ letter))
  | hex {signs mark digits : List Char} {zeros : Nat} (fits : SignOf n signs)
      (marked : mark ∈ hexMark)
      (same : digits.map Char.toLower = List.replicate zeros '0' ++ Nat.toDigits 16 n.natAbs) :
      SpellsInteger n (signs ++ (mark ++ digits))
  | octal {signs letter : List Char} {zeros : Nat} (fits : SignOf n signs)
      (ends : letter ∈ maybe (oneOf ['l', 'L'])) :
      SpellsInteger n
        (signs ++ (List.replicate (zeros + 1) '0' ++ Nat.toDigits 8 n.natAbs ++ letter))

/-- The text of an integer spells it. -/
theorem spells_writeInt {n : Int} (short : (Nat.toDigits 10 n.natAbs).length ≤ maxIntegerDigits) :
    SpellsInteger n (Text.writeInt n).toList := by
  have digits := Text.toList_writeBase (by decide : 1 < 10) (by decide) n.natAbs
  have bare : ([] : List Char) ∈ maybe (oneOf ['l', 'L']) := mem_maybe.mpr (.inl rfl)
  have spelled {signs : List Char} (fits : SignOf n signs) := SpellsInteger.decimal fits short bare
  simp only [List.append_nil] at spelled
  rw [Text.writeInt]
  split
  · rw [String.toList_append, digits]
    exact spelled (.minus (by omega))
  · rw [digits]
    exact spelled (.none (by omega))

section Reading
variable {n : Int} {signs body digits letter : List Char} {negative : Bool} {text : String}

/-- The sign is cut off, and it is the right one for the number. -/
theorem SignOf.read (fits : SignOf n signs) (bare : ∀ c ∈ body.head?, c ≠ '+' ∧ c ≠ '-') :
    ∃ negative, sign (signs ++ body) = (negative, body) ∧ signed negative n.natAbs = n := by
  cases fits with
  | minus below =>
    refine ⟨true, rfl, ?_⟩
    rw [signed, if_pos rfl]
    omega
  | plus above =>
    refine ⟨false, rfl, ?_⟩
    rw [signed, if_neg Bool.false_ne_true]
    omega
  | none above =>
    refine ⟨false, ?_, ?_⟩
    · rw [List.nil_append]
      unfold sign
      split
      · exact absurd rfl (bare '-' (by simp)).2
      · exact absurd rfl (bare '+' (by simp)).1
      · rfl
    · rw [signed, if_neg Bool.false_ne_true]
      omega

theorem createNumber_hex (cut : sign text.toList = (negative, body))
    (read : hexDigits? body = some digits) :
    createNumber text = .ok (some (.int (signed negative (Text.readBase 16 digits)))) := by
  simp only [createNumber, scan?, cut, read]
  rfl

theorem createNumber_integer (cut : sign text.toList = (negative, body))
    (read : integerDigits? body = some digits) :
    createNumber text = (integer negative digits).value := by
  have unhexed : hexDigits? body = none := by
    cases hex : hexDigits? body with
    | none => rfl
    | some others => simp [(hex_alone hex).1] at read
  simp only [createNumber, scan?, cut, unhexed, read]

/-- A run of digits is read from the front, with the sign before it. -/
theorem createNumber_run (fits : SignOf n signs) (held : digits ∈ run Text.isDigit)
    (ends : letter ∈ maybe (oneOf ['l', 'L'])) (spelled : text.toList = signs ++ (digits ++ letter)) :
    ∃ negative, createNumber text = (integer negative digits).value ∧
      signed negative n.natAbs = n := by
  have bare : ∀ c ∈ (digits ++ letter).head?, c ≠ '+' ∧ c ≠ '-' := by
    intro c found
    obtain ⟨plus, minus, -⟩ := digit_ne (head_run held letter c found)
    exact ⟨plus, minus⟩
  obtain ⟨negative, cut, same⟩ := fits.read bare
  rw [← spelled] at cut
  have read := integerDigits?_eq_some.mpr ⟨held, letter, ends, rfl⟩
  exact ⟨negative, createNumber_integer cut read, same⟩

theorem value_decimal (negative : Bool) {n : Nat}
    (short : (Nat.toDigits 10 n).length ≤ maxIntegerDigits) :
    (integer negative (Nat.toDigits 10 n)).value = .ok (some (.int (signed negative n))) := by
  have leading : ¬ (1 < (Nat.toDigits 10 n).length ∧ (Nat.toDigits 10 n).head? = some '0') := by
    rintro ⟨long, zero⟩
    obtain rfl | positive := Nat.eq_zero_or_pos n
    · exact absurd long (by decide)
    · exact Text.head?_toDigits (by decide) (by decide) positive zero
  simp only [value, Bool.and_eq_true, decide_eq_true_eq, beq_iff_eq, if_neg leading, readInteger,
    if_neg (Nat.not_lt.mpr short), Text.readDecimal_toDigits]
  rfl

theorem value_octal (negative : Bool) (zeros n : Nat) :
    (integer negative (List.replicate (zeros + 1) '0' ++ Nat.toDigits 8 n)).value =
      .ok (some (.int (signed negative n))) := by
  have octal : (List.replicate (zeros + 1) '0' ++ Nat.toDigits 8 n).all Text.isOctalDigit := by
    have each : ∀ d < 8, Text.isOctalDigit d.digitChar := by decide
    exact List.all_eq_true.mpr (Text.forall_mem_padded (by decide) each (zeros + 1))
  have long : 1 < (List.replicate (zeros + 1) '0' ++ Nat.toDigits 8 n).length := by
    have filled : 0 < (Nat.toDigits 8 n).length := Nat.length_toDigits_pos
    rw [List.length_append, List.length_replicate]
    omega
  have zero : (List.replicate (zeros + 1) '0' ++ Nat.toDigits 8 n).head? = some '0' := rfl
  simp only [value, Bool.and_eq_true, decide_eq_true_eq, beq_iff_eq, if_pos (And.intro long zero),
    if_pos octal, Text.readBase_zeros, Text.readBase_toDigits (by decide : 1 < 8) (by decide)]

/-- Letters of either case and zeros in front are hexadecimal digits, with the value of the rest. -/
theorem hexDigits_of_lower {zeros n : Nat}
    (same : digits.map Char.toLower = List.replicate zeros '0' ++ Nat.toDigits 16 n) :
    digits ∈ run isAsciiHex ∧ Text.readBase 16 digits = n := by
  have filled : digits ≠ [] := by
    rintro rfl
    exact Nat.toDigits_ne_nil (List.append_eq_nil_iff.mp same.symm).2
  have each : ∀ d < 16, Text.isHexDigit d.digitChar := by decide
  refine ⟨mem_run.mpr ⟨filled, fun c found => ?_⟩, ?_⟩
  · have lower : c.toLower ∈ List.replicate zeros '0' ++ Nat.toDigits 16 n :=
      same ▸ List.mem_map_of_mem found
    have digit := Text.forall_mem_padded (by decide) each zeros c.toLower lower
    rwa [← isHexDigit_eq, Text.isHexDigit, ← Text.asciiDigit?_toLower]
  · rw [← Text.readBase_toLower, same, Text.readBase_zeros,
      Text.readBase_toDigits (by decide) (by decide)]

end Reading

theorem padded_mem_run {base : Nat} (two : 1 < base) (few : base ≤ 10) (zeros n : Nat) :
    List.replicate zeros '0' ++ Nat.toDigits base n ∈ run Text.isDigit := by
  have each : ∀ d < 10, Text.isDigit d.digitChar := by decide
  refine mem_run.mpr ⟨List.append_ne_nil_of_right_ne_nil _ Nat.toDigits_ne_nil, ?_⟩
  exact Text.forall_mem_padded two (fun d small => each d (by omega)) zeros

/-- Each spelling of an integer is read as this integer. -/
theorem createNumber_of_spelling {n : Int} {text : String} (spelled : SpellsInteger n text.toList) :
    createNumber text = .ok (some (.int n)) := by
  generalize chars : text.toList = s at spelled
  cases spelled with
  | decimal fits short ends =>
    have held : Nat.toDigits 10 n.natAbs ∈ run Text.isDigit :=
      padded_mem_run (by decide) (by decide) 0 n.natAbs
    obtain ⟨negative, read, same⟩ := createNumber_run fits held ends chars
    rw [read, value_decimal negative short, same]
  | @hex signs mark digits zeros fits marked lower =>
    obtain ⟨held, value⟩ := hexDigits_of_lower lower
    have bare : ∀ c ∈ (mark ++ digits).head?, c ≠ '+' ∧ c ≠ '-' := by
      obtain rfl | rfl | rfl := mem_hexMark.mp marked <;> simp
    obtain ⟨negative, cut, same⟩ := fits.read bare
    rw [← chars] at cut
    have read := hexDigits?_eq_some.mpr ⟨held, mark, marked, rfl⟩
    rw [createNumber_hex cut read, value, same]
  | @octal signs letter zeros fits ends =>
    have held : List.replicate (zeros + 1) '0' ++ Nat.toDigits 8 n.natAbs ∈ run Text.isDigit :=
      padded_mem_run (by decide) (by decide) (zeros + 1) n.natAbs
    obtain ⟨negative, read, same⟩ := createNumber_run fits held ends chars
    rw [read, value_octal, same]

/-- Minus 493 in each of the three bases. -/
theorem createNumber_of_spelling_signed :
    (SpellsInteger (-493) "-493L".toList ∧ createNumber "-493L" = .ok (some (.int (-493)))) ∧
    (SpellsInteger (-493) "-0X01eD".toList ∧ createNumber "-0X01eD" = .ok (some (.int (-493)))) ∧
    SpellsInteger (-493) "-00755".toList ∧ createNumber "-00755" = .ok (some (.int (-493))) := by
  have below : SignOf (-493) ['-'] := .minus (by decide)
  have decimal := @SpellsInteger.decimal (-493) ['-'] ['L'] below (by decide)
    (mem_maybe_oneOf.mpr (by decide))
  have hex := @SpellsInteger.hex (-493) ['-'] ['0', 'X'] ['0', '1', 'e', 'D'] 1 below
    (mem_hexMark.mpr (by decide)) (by decide)
  have octal := @SpellsInteger.octal (-493) ['-'] [] 1 below (mem_maybe_oneOf.mpr (by decide))
  exact ⟨⟨decimal, createNumber_of_spelling decimal⟩, ⟨hex, createNumber_of_spelling hex⟩,
    octal, createNumber_of_spelling octal⟩

end Literal

end TemplateEngine
