import TemplateEngine.Proofs.NumberGrammar
import TemplateEngine.Proofs.SettingsNames
import Mathlib.Data.List.DropRight
/-!
Loose spellings of numbers as languages: integers and numbers with a point, with blanks around them and
with single underscores between digits.
-/
namespace TemplateEngine

/-! ## Trimming -/

namespace Text

variable {α : Type} {p : α → Bool} {s : List α}

theorem dropWhile_append_all {before : List α} (all : ∀ c ∈ before, p c) (s : List α) :
    (before ++ s).dropWhile p = s.dropWhile p := by
  rw [List.dropWhile_append]
  simp [List.dropWhile_eq_nil_iff.mpr all]

theorem rdropWhile_append_all {after : List α} (all : ∀ c ∈ after, p c) (s : List α) :
    (s ++ after).rdropWhile p = s.rdropWhile p := by
  have reversed : ∀ c ∈ after.reverse, p c := fun c found => all c (List.mem_reverse.mp found)
  rw [List.rdropWhile, List.reverse_append, dropWhile_append_all reversed, List.rdropWhile]

/-- What stands between elements of a kind is what is left if both its ends are of another kind. -/
theorem trimBy_append {before after : List α} (front : ∀ c ∈ before, p c) (back : ∀ c ∈ after, p c)
    (first : ∀ c ∈ s.head?, p c = false) (last : ∀ c ∈ s.getLast?, p c = false) :
    trimBy p (before ++ (s ++ after)) = s := by
  change ((before ++ (s ++ after)).dropWhile p).rdropWhile p = s
  rw [dropWhile_append_all front]
  cases s with
  | nil => simp [List.rdropWhile, List.dropWhile_eq_nil_iff.mpr back]
  | cons c rest =>
    have kept : (c :: rest ++ after).dropWhile p = c :: rest ++ after := by
      simp [first c (by simp)]
    rw [kept, rdropWhile_append_all back, List.rdropWhile_eq_self_iff]
    intro filled
    simp [last _ (List.getLast?_eq_getLast_of_ne_nil filled)]

/-- Only elements of the kind are cut off. -/
theorem trimBy_split (p : α → Bool) (s : List α) : ∃ before after,
    s = before ++ (trimBy p s ++ after) ∧ (∀ c ∈ before, p c) ∧ ∀ c ∈ after, p c := by
  refine ⟨s.takeWhile p, (s.dropWhile p).rtakeWhile p, ?_, ?_, ?_⟩
  · change s = s.takeWhile p ++ ((s.dropWhile p).rdropWhile p ++ (s.dropWhile p).rtakeWhile p)
    rw [List.rdropWhile_append_rtakeWhile, List.takeWhile_append_dropWhile]
  · exact fun c found => List.all_eq_true.mp List.all_takeWhile c found
  · exact fun c found => List.mem_rtakeWhile_imp found

end Text

namespace Loose

open Literal Computability

/-! ## The languages -/

/-- Digits with single underscores between them. -/
inductive Grouped : List Char → Prop
  | one {d : Char} (digit : Text.isDigit d) : Grouped [d]
  | next {d : Char} {run : List Char} (digit : Text.isDigit d) (later : Grouped run) :
      Grouped (d :: run)
  | underscore {d : Char} {run : List Char} (digit : Text.isDigit d) (later : Grouped run) :
      Grouped (d :: '_' :: run)

def grouped : Language Char := {s | Grouped s}

def isSpace (c : Char) : Bool := Text.isBlank c && !(28 ≤ c.toNat && c.toNat ≤ 31)

def spaces : Language Char := (one isSpace)∗

/-- `[+-]? d(_? d)*` between blanks. -/
def integerText : Language Char := spaces * (signMark * grouped * spaces)

/-- `([eE] [+-]? d(_? d)*)?` -/
def powerText : Language Char := maybe (oneOf ['e', 'E'] * (signMark * grouped))

/-- A point with digits on one side of it at least. -/
def pointed : Language Char :=
  grouped * (oneOf ['.'] * maybe grouped) + oneOf ['.'] * grouped

/-- `[+-]? (d(_? d)* . (d(_? d)*)? | . d(_? d)*) ([eE] [+-]? d(_? d)*)?` between blanks. -/
def pointText : Language Char := spaces * (signMark * (pointed * powerText) * spaces)

section Runs

variable {run rest s : List Char}

theorem Grouped.each (h : Grouped run) : ∀ c ∈ run, Text.isDigit c ∨ c = '_' := by
  induction h with
  | one digit => simpa using .inl digit
  | next digit later ih => simpa [digit] using ih
  | underscore digit later ih => simpa [digit] using ih

theorem not_mem_of_each (each : ∀ c ∈ run, Text.isDigit c ∨ c = '_') {c : Char}
    (other : Text.isDigit c = false) (mark : c ≠ '_') : c ∉ run := by
  intro inside
  obtain digit | same := each c inside
  · simp [other] at digit
  · exact mark same

theorem isDigit_underscore : Text.isDigit '_' = false := by decide

theorem Grouped.head (h : Grouped run) (rest : List Char) :
    ∀ c ∈ (run ++ rest).head?, Text.isDigit c := by
  cases h with
  | one digit => simpa using digit
  | next digit later => simpa using digit
  | underscore digit later => simpa using digit

theorem Grouped.digits (h : Grouped run) : run.filter Text.isDigit ∈ Literal.run Text.isDigit := by
  refine mem_run.mpr ⟨?_, fun c found => (List.mem_filter.mp found).2⟩
  cases h with
  | one digit => simp [digit]
  | next digit later => simp [digit]
  | underscore digit later => simp [digit]

theorem digitRun_of_other (other : ∀ c ∈ s.head?, Text.isDigit c = false) : digitRun s = ([], s) := by
  unfold digitRun
  split
  · rw [if_neg (by simpa using other)]
  · rw [if_neg (by simpa using other)]
  · rfl

theorem digitRun_of_digit {d : Char} (digit : Text.isDigit d) (rest : List Char) :
    (digitRun (d :: rest)).1 ≠ [] := by
  unfold digitRun
  split
  · next same =>
    obtain ⟨rfl, rfl⟩ := List.cons.inj same
    rw [if_pos digit]
    split_ifs <;> simp
  · next same =>
    obtain ⟨rfl, rfl⟩ := List.cons.inj same
    simp [digit]
  · next same => cases same

/-- A run of digits is read to its end. -/
theorem digitRun_append (h : Grouped run)
    (ends : ∀ c ∈ rest.head?, Text.isDigit c = false ∧ c ≠ '_') :
    digitRun (run ++ rest) = (run.filter Text.isDigit, rest) := by
  induction h with
  | @one d digit =>
    have nothing : digitRun rest = ([], rest) := digitRun_of_other fun c found => (ends c found).1
    have single : ∀ c more, rest = '_' :: c :: more → False := by
      rintro c more rfl
      exact (ends '_' (by simp)).2 rfl
    rw [List.singleton_append, digitRun.eq_2 _ _ single, nothing]
    simp [digit]
  | @next d run digit later ih =>
    have single : ∀ c more, run ++ rest = '_' :: c :: more → False := by
      intro c more same
      have first := later.head rest '_' (by simp [same])
      simp [isDigit_underscore] at first
    rw [List.cons_append, digitRun.eq_2 _ _ single, ih]
    simp [digit]
  | @underscore d run digit later ih =>
    obtain ⟨c, more, same⟩ : ∃ c more, run ++ rest = c :: more := by
      cases later <;> exact ⟨_, _, rfl⟩
    have second := later.head rest c (by simp [same])
    rw [List.cons_append, List.cons_append, same, digitRun.eq_1, if_pos digit, if_pos second, ← same, ih]
    simp [digit, isDigit_underscore]

/-- What is read as a run of digits is one, or there is no digit at the front. -/
theorem digitRun_split (s : List Char) : digitRun s = ([], s) ∨
    ∃ run rest, Grouped run ∧ s = run ++ rest ∧ digitRun s = (run.filter Text.isDigit, rest) := by
  induction s using digitRun.induct with
  | case1 c d rest digit next _ _ _ ih =>
    right
    obtain none | ⟨run, left, held, whole, read⟩ := ih
    · exact absurd (congrArg Prod.fst none) (digitRun_of_digit next rest)
    · refine ⟨c :: '_' :: run, left, .underscore digit held, by simp [whole], ?_⟩
      rw [digitRun, if_pos digit, if_pos next, read]
      simp [digit, isDigit_underscore]
  | case2 c d rest digit other =>
    refine .inr ⟨[c], '_' :: d :: rest, .one digit, rfl, ?_⟩
    rw [digitRun, if_pos digit, if_neg other]
    simp [digit]
  | case3 c d rest other => exact .inl (digitRun_of_other (by simpa using other))
  | case4 c rest last digit _ _ _ ih =>
    right
    obtain none | ⟨run, left, held, whole, read⟩ := ih
    · refine ⟨[c], rest, .one digit, rfl, ?_⟩
      rw [digitRun.eq_2 _ _ last, if_pos digit, none]
      simp [digit]
    · refine ⟨c :: run, left, .next digit held, by simp [whole], ?_⟩
      rw [digitRun.eq_2 _ _ last, if_pos digit, read]
      simp [digit]
  | case5 c rest last other => exact .inl (digitRun_of_other (by simpa using other))
  | case6 => exact .inl rfl

end Runs

/-! ## Blanks and signs -/

section Around

variable {before after body mark s : List Char}

theorem unspaced_digit {c : Char} (digit : Text.isDigit c) : isSpace c = false := by
  simp [isSpace, digit_unblank digit]

theorem unspaced_mark : ∀ c ∈ ['+', '-', '.', 'e', 'E', '_'], isSpace c = false :=
  List.forall_iff_forall_mem.mp (by decide)

theorem unspaced_grouped : ∀ s ∈ grouped, ∀ c ∈ s, isSpace c = false := by
  intro s held c found
  obtain digit | rfl := Grouped.each held c found
  · exact unspaced_digit digit
  · exact unspaced_mark '_' (by simp)

theorem unspaced_sign : ∀ s ∈ signMark, ∀ c ∈ s, isSpace c = false :=
  each_maybe (each_oneOf fun c found => unspaced_mark c (List.mem_append_left ['.', 'e', 'E', '_'] found))

theorem trim_append (front : before ∈ spaces) (back : after ∈ spaces)
    (unspaced : ∀ c ∈ body, isSpace c = false) : trim (before ++ (body ++ after)) = body :=
  Text.trimBy_append (mem_star.mp front) (mem_star.mp back)
    (fun c found => unspaced c (List.mem_of_mem_head? found))
    fun c found => unspaced c (List.mem_of_getLast? found)

theorem trim_split (s : List Char) :
    ∃ before ∈ spaces, ∃ after ∈ spaces, s = before ++ (trim s ++ after) := by
  obtain ⟨before, after, whole, front, back⟩ := Text.trimBy_split isSpace s
  exact ⟨before, mem_star.mpr front, after, mem_star.mpr back, whole⟩

theorem sign_marked (marked : mark ∈ signMark) (bare : ∀ c ∈ body.head?, c ≠ '+' ∧ c ≠ '-') :
    sign (mark ++ body) = (mark.contains '-', body) := by
  refine Prod.ext ?_ (sign_append marked bare)
  obtain rfl | rfl | rfl := mem_signMark.mp marked
  · unfold sign
    split <;> simp_all
  · rfl
  · rfl

end Around

/-! ## Integers -/

section Integers

variable {s : List Char}

/-- The parts of an integer: the minus of its sign and the digits of its run are those of the text. -/
theorem integerText_parts (held : s ∈ integerText) : ∃ before ∈ spaces, ∃ mark ∈ signMark, ∃ run,
    Grouped run ∧ ∃ after ∈ spaces, s = before ++ (mark ++ run ++ after) ∧
      s.contains '-' = mark.contains '-' ∧ s.filter Text.isDigit = run.filter Text.isDigit := by
  obtain ⟨before, front, rest, inside, rfl⟩ := Language.mem_mul.mp held
  obtain ⟨body, number, after, back, rfl⟩ := Language.mem_mul.mp inside
  obtain ⟨mark, marked, run, digits, rfl⟩ := Language.mem_mul.mp number
  have undigit {c : Char} (space : isSpace c) : Text.isDigit c = false := by
    by_contra digit
    simp [unspaced_digit (by simpa using digit)] at space
  have unsigned {c : Char} (space : isSpace c) : c ≠ '-' := by
    rintro rfl
    simp [unspaced_mark] at space
  have bare : '-' ∉ run := not_mem_of_each (Grouped.each digits) (by simp [isDigit_mark]) (by decide)
  have front_bare : '-' ∉ before := fun found => unsigned (mem_star.mp front _ found) rfl
  have back_bare : '-' ∉ after := fun found => unsigned (mem_star.mp back _ found) rfl
  have front_filter : before.filter Text.isDigit = [] :=
    List.filter_eq_nil_iff.mpr fun c found => by simp [undigit (mem_star.mp front c found)]
  have back_filter : after.filter Text.isDigit = [] :=
    List.filter_eq_nil_iff.mpr fun c found => by simp [undigit (mem_star.mp back c found)]
  have mark_filter : mark.filter Text.isDigit = [] := by
    obtain rfl | rfl | rfl := mem_signMark.mp marked <;> simp [isDigit_mark]
  refine ⟨before, front, mark, marked, run, digits, after, back, rfl, ?_, ?_⟩
  · rw [Bool.eq_iff_iff]
    simp [front_bare, back_bare, bare]
  · simp [front_filter, back_filter, mark_filter]

theorem digit_unsigned {run : List Char} (held : Grouped run) (rest : List Char) :
    ∀ c ∈ (run ++ rest).head?, c ≠ '+' ∧ c ≠ '-' :=
  fun c found => digit_bare c (held.head rest c found)

/-- An integer is read: its digits, and whether it has a minus. -/
theorem integer?_of_mem (held : s ∈ integerText) :
    integer? s = some (s.contains '-', s.filter Text.isDigit) := by
  obtain ⟨before, front, mark, marked, run, held, after, back, whole, minus, digits⟩ :=
    integerText_parts held
  have body : trim s = mark ++ run := by
    rw [whole]
    exact trim_append front back (each_mul unspaced_sign unspaced_grouped _
      (Language.append_mem_mul marked held))
  have bare : ∀ c ∈ run.head?, c ≠ '+' ∧ c ≠ '-' := by simpa using digit_unsigned held []
  have runs : digitRun run = (run.filter Text.isDigit, []) := by
    simpa using @digitRun_append run [] held (by simp)
  rw [minus, digits, integer?, body, sign_marked marked bare]
  dsimp only
  rw [runs]
  have filled := (mem_run.mp held.digits).1
  generalize run.filter Text.isDigit = digits at filled
  cases digits with
  | nil => exact absurd rfl filled
  | cons d digits => rfl

theorem mem_of_integer? {found : Bool × List Char} (read : integer? s = some found) :
    s ∈ integerText := by
  obtain ⟨before, front, after, back, whole⟩ := trim_split s
  obtain ⟨mark, marked, signed⟩ := sign_split (trim s)
  obtain none | ⟨run, rest, held, split, runs⟩ := digitRun_split (sign (trim s)).2
  · simp only [integer?, none] at read
    cases read
  · have ends : rest = [] := by
      simp only [integer?, runs] at read
      cases rest with
      | nil => rfl
      | cons c rest =>
        split at read
        · cases read
        · next same => cases (Prod.mk.inj same).2
        · cases read
    rw [ends, List.append_nil] at split
    rw [whole, ← signed, split]
    exact Language.append_mem_mul front
      (Language.append_mem_mul (Language.append_mem_mul marked held) back)

theorem integer?_eq_some {negative : Bool} {digits : List Char} :
    integer? s = some (negative, digits) ↔
      s ∈ integerText ∧ negative = s.contains '-' ∧ digits = s.filter Text.isDigit := by
  constructor
  · intro found
    have held := mem_of_integer? found
    obtain ⟨rfl, rfl⟩ := Prod.mk.inj (Option.some.inj ((integer?_of_mem held).symm.trans found))
    exact ⟨held, rfl, rfl⟩
  · rintro ⟨held, rfl, rfl⟩
    exact integer?_of_mem held

end Integers

/-! ## Numbers with a point -/

section Points

variable {run rest s : List Char}

/-- Digits with single underscores between them, or nothing. -/
def MaybeGrouped (run : List Char) : Prop := run = [] ∨ Grouped run

theorem MaybeGrouped.each (h : MaybeGrouped run) : ∀ c ∈ run, Text.isDigit c ∨ c = '_' := by
  obtain rfl | held := h
  · simp
  · exact held.each

theorem MaybeGrouped.filter_eq_nil (h : MaybeGrouped run) (none : run.filter Text.isDigit = []) :
    run = [] := by
  obtain rfl | held := h
  · rfl
  · exact absurd none (mem_run.mp held.digits).1

theorem digitRun_maybe (h : MaybeGrouped run)
    (ends : ∀ c ∈ rest.head?, Text.isDigit c = false ∧ c ≠ '_') :
    digitRun (run ++ rest) = (run.filter Text.isDigit, rest) := by
  obtain rfl | held := h
  · exact digitRun_of_other fun c found => (ends c found).1
  · exact digitRun_append held ends

theorem exists_digitRun (s : List Char) : ∃ run rest, MaybeGrouped run ∧ s = run ++ rest ∧
    digitRun s = (run.filter Text.isDigit, rest) := by
  obtain none | ⟨run, rest, held, whole, read⟩ := digitRun_split s
  · exact ⟨[], s, .inl rfl, rfl, none⟩
  · exact ⟨run, rest, .inr held, whole, read⟩

theorem mem_pointed : s ∈ pointed ↔ ∃ whole fraction, s = whole ++ '.' :: fraction ∧
    MaybeGrouped whole ∧ MaybeGrouped fraction ∧ (whole ≠ [] ∨ fraction ≠ []) := by
  have dot : ['.'] ∈ oneOf ['.'] := mem_oneOf.mpr ⟨'.', by simp, rfl⟩
  have filled {run : List Char} (held : Grouped run) : run ≠ [] := by cases held <;> simp
  rw [pointed, Language.mem_add, Language.mem_mul, Language.mem_mul]
  constructor
  · rintro (⟨whole, held, _, ⟨point, dotted, fraction, maybe, rfl⟩, rfl⟩ |
      ⟨point, dotted, fraction, held, rfl⟩)
    · obtain ⟨c, found, rfl⟩ := mem_oneOf.mp dotted
      obtain rfl := List.mem_singleton.mp found
      exact ⟨whole, fraction, rfl, .inr held, mem_maybe.mp maybe, .inl (filled held)⟩
    · obtain ⟨c, found, rfl⟩ := mem_oneOf.mp dotted
      obtain rfl := List.mem_singleton.mp found
      exact ⟨[], fraction, rfl, .inl rfl, .inr held, .inr (filled held)⟩
  · rintro ⟨whole, fraction, rfl, held | held, maybe, some⟩
    · subst held
      have right : Grouped fraction := by
        obtain rfl | right := maybe
        · simp at some
        · exact right
      exact .inr ⟨['.'], dot, fraction, right, rfl⟩
    · exact .inl ⟨whole, held, '.' :: fraction, ⟨['.'], dot, fraction, mem_maybe.mpr maybe, rfl⟩, rfl⟩

/-- An exponent is a mark, a sign and a run of digits. -/
theorem exponent?_cons (mark : Char) (rest : List Char) :
    ∃ signs ∈ signMark, signs ++ (sign rest).2 = rest ∧
      exponent? (mark :: rest) =
        if mark = 'e' || mark = 'E' then
          match digitRun (sign rest).2 with
          | ([], _) => none
          | (digits, []) => some (mark :: signs ++ digits)
          | _ => none
        else none := by
  unfold exponent? sign
  split
  · exact ⟨['-'], by simp [mem_signMark], rfl, rfl⟩
  · exact ⟨['+'], by simp [mem_signMark], rfl, rfl⟩
  · next minus plus =>
    refine ⟨[], by simp [mem_signMark], rfl, if_congr Iff.rfl ?_ rfl⟩
    split
    next parts =>
      split at parts
      · exact (minus _ rfl).elim
      · exact (plus _ rfl).elim
      · cases parts
        rfl

theorem mem_powerText : s ∈ powerText ↔ s = [] ∨
    ∃ mark signs run, s = mark :: signs ++ run ∧ (mark = 'e' ∨ mark = 'E') ∧ signs ∈ signMark ∧
      Grouped run := by
  rw [powerText, mem_maybe, Language.mem_mul]
  constructor
  · rintro (rfl | ⟨_, mark, _, ⟨signs, signed, run, held, rfl⟩, rfl⟩)
    · exact .inl rfl
    · obtain ⟨c, found, rfl⟩ := mem_oneOf.mp mark
      exact .inr ⟨c, signs, run, rfl, by simpa using found, signed, held⟩
  · rintro (rfl | ⟨mark, signs, run, rfl, letter, signed, held⟩)
    · exact .inl rfl
    · right
      refine ⟨[mark], mem_oneOf.mpr ⟨mark, by simpa using letter, rfl⟩, signs ++ run, ?_, rfl⟩
      exact ⟨signs, signed, run, held, rfl⟩

theorem pointless_power (held : s ∈ powerText) : '.' ∉ s := by
  obtain rfl | ⟨mark, signs, run, rfl, letter, signed, digits⟩ := mem_powerText.mp held
  · simp
  · have unmarked : '.' ≠ mark := by
      rintro rfl
      simp at letter
    have unsigned : '.' ∉ signs := by
      obtain rfl | rfl | rfl := mem_signMark.mp signed <;> simp
    have bare : '.' ∉ run := not_mem_of_each digits.each (by simp [isDigit_mark]) (by decide)
    simp [unmarked, unsigned, bare]

theorem exponent?_of_mem (held : s ∈ powerText) : ∃ p ∈ power, exponent? s = some p := by
  obtain rfl | ⟨mark, signs, run, rfl, letter, signed, digits⟩ := mem_powerText.mp held
  · exact ⟨[], mem_power.mpr (.inl rfl), rfl⟩
  · have bare : ∀ c ∈ run.head?, c ≠ '+' ∧ c ≠ '-' := by simpa using digit_unsigned digits []
    obtain ⟨marks, -, split, read⟩ := exponent?_cons mark (signs ++ run)
    rw [sign_append signed bare] at split read
    obtain rfl : marks = signs := List.append_cancel_right split
    refine ⟨mark :: marks ++ run.filter Text.isDigit,
      mem_power.mpr (.inr ⟨mark, marks, _, rfl, letter, signed, digits.digits⟩), ?_⟩
    have runs : digitRun run = (run.filter Text.isDigit, []) := by
      simpa using @digitRun_append run [] digits (by simp)
    rw [List.cons_append, read, if_pos (by simpa using letter), runs]
    have filled := (mem_run.mp digits.digits).1
    generalize run.filter Text.isDigit = digits at filled
    cases digits with
    | nil => exact absurd rfl filled
    | cons d digits => rfl

theorem mem_of_exponent? {p : List Char} (read : exponent? s = some p) : s ∈ powerText := by
  cases s with
  | nil => exact mem_powerText.mpr (.inl rfl)
  | cons mark rest =>
    obtain ⟨signs, signed, split, cut⟩ := exponent?_cons mark rest
    rw [cut] at read
    split_ifs at read with letter
    obtain none | ⟨run, left, held, whole, runs⟩ := digitRun_split (sign rest).2
    · simp [none] at read
    · have ends : left = [] := by
        rw [runs] at read
        cases left with
        | nil => rfl
        | cons c left =>
          split at read
          · cases read
          · next same => cases (Prod.mk.inj same).2
          · cases read
      refine mem_powerText.mpr (.inr ⟨mark, signs, run, ?_, by simpa using letter, signed, held⟩)
      rw [← split, whole, ends, List.append_nil, List.cons_append]

/-- A text with a point is none of the words for numbers. -/
theorem magnitude?_pointed (point : '.' ∈ s) (negative : Bool) : magnitude? negative s =
    let (whole, rest) := digitRun s
    let (fraction, rest) := match rest with
      | '.' :: rest => digitRun rest
      | rest => ([], rest)
    if whole.isEmpty && fraction.isEmpty then none
    else do
      let power ← exponent? rest
      let d ← Decimal.ofFiniteText? negative (whole ++ '.' :: fraction ++ power)
      return d.toBinary64 := by
  have inside : '.' ∈ (Text.lower (String.ofList s)).toList :=
    Text.mark_mem_lower (.inl (by decide)) (by simpa using point)
  have other (word : String) (plain : '.' ∉ word.toList) :
      (Text.lower (String.ofList s)).toList ≠ word.toList := fun same => plain (same ▸ inside)
  have infinite := not_or.mpr ⟨other "inf" (by decide), other "infinity" (by decide)⟩
  exact (if_neg infinite).trans (if_neg (other "nan" (by decide)))

theorem not_both_empty {a b : List Char} :
    ¬(a.isEmpty && b.isEmpty) = true ↔ a ≠ [] ∨ b ≠ [] := by
  simp [imp_iff_not_or]

theorem magnitude?_of_mem (held : s ∈ pointed * powerText) (negative : Bool) :
    ∃ x, magnitude? negative s = some x := by
  obtain ⟨_, number, p, powered, rfl⟩ := Language.mem_mul.mp held
  obtain ⟨whole, fraction, rfl, left, right, filled⟩ := mem_pointed.mp number
  obtain ⟨power, spelled, read⟩ := exponent?_of_mem powered
  have split : whole ++ '.' :: fraction ++ p = whole ++ '.' :: (fraction ++ p) := by simp
  have wholes : digitRun (whole ++ '.' :: (fraction ++ p)) =
      (whole.filter Text.isDigit, '.' :: (fraction ++ p)) :=
    digitRun_maybe left (by simp [isDigit_mark])
  have fractions : digitRun (fraction ++ p) = (fraction.filter Text.isDigit, p) := by
    refine digitRun_maybe right ?_
    obtain rfl | ⟨mark, signs, run, rfl, rfl | rfl, -⟩ := mem_powerText.mp powered <;>
      simp [isDigit_mark]
  have some_digit : whole.filter Text.isDigit ≠ [] ∨ fraction.filter Text.isDigit ≠ [] :=
    filled.imp (mt left.filter_eq_nil) (mt right.filter_eq_nil)
  have digits (run : List Char) : ∀ c ∈ run.filter Text.isDigit, Text.isDigit c :=
    fun c found => (List.mem_filter.mp found).2
  obtain ⟨d, finite⟩ := ofFiniteText?_of_mem (Language.append_mem_mul (mem_mantissa.mpr
    (.inr ⟨_, _, rfl, some_digit, digits whole, digits fraction⟩)) spelled) negative
  refine ⟨d.toBinary64, ?_⟩
  rw [magnitude?_pointed (by simp), split, wholes]
  simp only [fractions]
  rw [if_neg (not_both_empty.mpr some_digit), read]
  simp only [Option.bind_eq_bind, Option.bind_some, finite, Option.pure_def]

theorem mem_of_magnitude? {negative : Bool} {x : Binary64} (point : '.' ∈ s)
    (read : magnitude? negative s = some x) : s ∈ pointed * powerText := by
  rw [magnitude?_pointed point] at read
  obtain ⟨whole, rest, left, rfl, wholes⟩ := exists_digitRun s
  rw [wholes] at read
  have powered {fraction rest : List Char} (read : (if (whole.filter Text.isDigit).isEmpty &&
        fraction.isEmpty then none
      else do
        let power ← exponent? rest
        let d ← Decimal.ofFiniteText? negative (whole.filter Text.isDigit ++ '.' :: fraction ++ power)
        return d.toBinary64) = some x) :
      (whole.filter Text.isDigit ≠ [] ∨ fraction ≠ []) ∧ rest ∈ powerText := by
    split_ifs at read with empty
    obtain ⟨power, spelled, -⟩ := Option.bind_eq_some_iff.mp read
    exact ⟨not_both_empty.mp empty, mem_of_exponent? spelled⟩
  dsimp only at read
  split at read
  · next rest =>
    obtain ⟨fraction, after, right, rfl, fractions⟩ := exists_digitRun rest
    rw [fractions] at read
    obtain ⟨filled, held⟩ := powered read
    refine Language.mem_mul.mpr ⟨whole ++ '.' :: fraction, mem_pointed.mpr
      ⟨whole, fraction, rfl, left, right, ?_⟩, after, held, by simp⟩
    exact filled.imp (fun some none => some (by simp [none])) fun some none => some (by simp [none])
  · next rest undotted =>
    obtain ⟨-, held⟩ := powered read
    obtain inside | inside := List.mem_append.mp point
    · exact absurd inside (not_mem_of_each left.each (by simp [isDigit_mark]) (by decide))
    · exact absurd inside (pointless_power held)

theorem unspaced_pointed : ∀ s ∈ pointed * powerText, ∀ c ∈ s, isSpace c = false := by
  have dot : ∀ s ∈ oneOf ['.'], ∀ c ∈ s, isSpace c = false :=
    each_oneOf fun c found => unspaced_mark c (by simp_all)
  have letter : ∀ s ∈ oneOf ['e', 'E'], ∀ c ∈ s, isSpace c = false :=
    each_oneOf fun c found => unspaced_mark c (List.mem_append_right ['+', '-', '.']
      (List.mem_append_left ['_'] found))
  have number : ∀ s ∈ pointed, ∀ c ∈ s, isSpace c = false := by
    intro s held
    rw [pointed, Language.mem_add] at held
    obtain held | held := held
    · exact each_mul unspaced_grouped (each_mul dot (each_maybe unspaced_grouped)) s held
    · exact each_mul dot unspaced_grouped s held
  exact each_mul number (each_maybe (each_mul letter (each_mul unspaced_sign unspaced_grouped)))

theorem pointed_unsigned {body : List Char} (held : body ∈ pointed * powerText) :
    ∀ c ∈ body.head?, c ≠ '+' ∧ c ≠ '-' := by
  obtain ⟨_, number, p, -, rfl⟩ := Language.mem_mul.mp held
  obtain ⟨whole, fraction, rfl, left, -, -⟩ := mem_pointed.mp number
  obtain rfl | left := left
  · simp
  · rw [List.append_assoc]
    exact digit_unsigned left _

/-- A text with a point is read as a number if it is one. -/
theorem real?_iff : ('.' ∈ s ∧ ∃ x, real? s = some x) ↔ s ∈ pointText := by
  constructor
  · rintro ⟨point, x, found⟩
    obtain ⟨before, front, after, back, whole⟩ := trim_split s
    obtain ⟨mark, marked, signed⟩ := sign_split (trim s)
    obtain ⟨negative, body, cut⟩ : ∃ negative body, sign (trim s) = (negative, body) := ⟨_, _, rfl⟩
    rw [real?, cut] at found
    rw [cut] at signed
    have outside {blanks : List Char} (held : blanks ∈ spaces) : '.' ∉ blanks := fun inside => by
      have space := mem_star.mp held '.' inside
      simp [unspaced_mark] at space
    have inside : '.' ∈ body := by
      rw [whole, ← signed] at point
      have unmarked : '.' ∉ mark := by
        obtain rfl | rfl | rfl := mem_signMark.mp marked <;> simp
      simpa [outside front, outside back, unmarked] using point
    have held := mem_of_magnitude? inside found
    rw [whole, ← signed]
    exact Language.append_mem_mul front
      (Language.append_mem_mul (Language.append_mem_mul marked held) back)
  · intro held
    obtain ⟨before, front, rest, inside, rfl⟩ := Language.mem_mul.mp held
    obtain ⟨body, signed, after, back, rfl⟩ := Language.mem_mul.mp inside
    obtain ⟨mark, marked, number, pointed, rfl⟩ := Language.mem_mul.mp signed
    have body : trim (before ++ (mark ++ number ++ after)) = mark ++ number :=
      trim_append front back (each_mul unspaced_sign unspaced_pointed _
        (Language.append_mem_mul marked pointed))
    constructor
    · obtain ⟨_, number, p, -, rfl⟩ := Language.mem_mul.mp pointed
      obtain ⟨whole, fraction, rfl, -⟩ := mem_pointed.mp number
      simp
    · rw [real?, body, sign_marked marked (pointed_unsigned pointed)]
      exact magnitude?_of_mem pointed _

end Points

end Loose

namespace Environment

open Loose

variable {s : String}

/-- A text stands for an integer if it is one, of no more digits than an integer may have. -/
theorem integer?_eq_some_iff {n : Int} : integer? s = some n ↔ s.toList ∈ integerText ∧
    (s.toList.filter Text.isDigit).length ≤ maxIntegerDigits ∧
      n = signed (s.toList.contains '-') (Text.readDecimal (s.toList.filter Text.isDigit)) := by
  have read {negative : Bool} {digits : List Char} :
      (readInteger negative digits).toOption = some n ↔
        digits.length ≤ maxIntegerDigits ∧ n = signed negative (Text.readDecimal digits) := by
    rw [readInteger]
    split_ifs with long
    · simp [Except.toOption, Nat.not_le_of_lt long]
    · simp [Except.toOption, Nat.le_of_not_lt long, eq_comm]
  rw [integer?, Option.bind_eq_some_iff]
  constructor
  · rintro ⟨⟨negative, digits⟩, found, value⟩
    obtain ⟨held, rfl, rfl⟩ := Loose.integer?_eq_some.mp found
    exact ⟨held, read.mp value⟩
  · rintro ⟨held, value⟩
    exact ⟨_, Loose.integer?_eq_some.mpr ⟨held, rfl, rfl⟩, read.mpr value⟩

theorem exists_pointNumber?_iff : (∃ x, pointNumber? s = some x) ↔ s.toList ∈ pointText := by
  rw [← real?_iff, pointNumber?]
  by_cases point : '.' ∈ s.toList <;> simp [point]

end Environment

end TemplateEngine
