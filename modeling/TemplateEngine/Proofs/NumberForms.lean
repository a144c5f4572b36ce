import TemplateEngine.Number.Literal
import Mathlib.Computability.Language
/-!
The lenient number grammar as three languages: hexadecimal numbers, integers, and numbers with a
fraction, an exponent or a type. Each scanner accepts the texts of one of them, and a form tells which
number the reader makes of its texts.
-/
namespace TemplateEngine.Literal

open Computability

/-! ## The languages -/

/-- One character of a kind. -/
def one (kind : Char → Bool) : Language Char := {s | ∃ c, kind c ∧ s = [c]}

/-- One of the characters. -/
def oneOf (cs : List Char) : Language Char := one fun c => cs.contains c

/-- Characters of a kind, one or more. -/
def run (kind : Char → Bool) : Language Char := one kind * (one kind)∗

/-- A text of the language or none. -/
def maybe (l : Language Char) : Language Char := 1 + l

def isAsciiHex (c : Char) : Bool :=
  ('0' ≤ c && c ≤ '9') || ('a' ≤ c && c ≤ 'f') || ('A' ≤ c && c ≤ 'F')

def isAsciiOctal (c : Char) : Bool := '0' ≤ c && c ≤ '7'

def signMark : Language Char := maybe (oneOf ['+', '-'])

def hexMark : Language Char := oneOf ['0'] * oneOf ['x', 'X'] + oneOf ['#']

/-- `[+-]? (0x|0X|#) hexdigit+` -/
def hexForm : Language Char := signMark * (hexMark * run isAsciiHex)

/-- `[+-]? d+ [lL]?` with a run of digits from the language `runs`. -/
def integral (runs : Language Char) : Language Char :=
  signMark * (runs * maybe (oneOf ['l', 'L']))

/-- Runs of digits that are one digit, or do not start with a zero, or are octal. -/
def integerRun : Language Char :=
  {digits | digits ∈ run Text.isDigit ∧
    (digits.length = 1 ∨ digits.head? ≠ some '0' ∨ digits ∈ (one isAsciiOctal)∗)}

def integerForm : Language Char := integral integerRun

/-- `d+ .? d* | . d+` -/
def mantissa : Language Char :=
  run Text.isDigit * (maybe (oneOf ['.']) * (one Text.isDigit)∗) + oneOf ['.'] * run Text.isDigit

/-- `([eE] [+-]? d+)?` -/
def power : Language Char := maybe (oneOf ['e', 'E'] * (signMark * run Text.isDigit))

/-- `[+-]? (d+ .? d* | . d+) ([eE] [+-]? d+)? [fFdD]?`, unless it is a run of digits with at most a
sign and an `l` or `L` around it. -/
def realForm : Language Char :=
  signMark * (mantissa * (power * maybe (oneOf ['f', 'F', 'd', 'D']))) - integral (run Text.isDigit)

section Membership
variable {kind : Char → Bool} {s : List Char}

theorem mem_oneOf {cs : List Char} : s ∈ oneOf cs ↔ ∃ c ∈ cs, s = [c] := by
  constructor
  · rintro ⟨c, found, rfl⟩
    exact ⟨c, List.contains_iff_mem.mp found, rfl⟩
  · rintro ⟨c, found, rfl⟩
    exact ⟨c, List.contains_iff_mem.mpr found, rfl⟩

theorem mem_maybe {l : Language Char} : s ∈ maybe l ↔ s = [] ∨ s ∈ l := by
  rw [maybe, Language.mem_add, Language.mem_one]

theorem mem_maybe_oneOf {cs : List Char} : s ∈ maybe (oneOf cs) ↔ s ∈ [] :: cs.map ([·]) := by
  simp [mem_maybe, mem_oneOf, eq_comm]

theorem mem_signMark : s ∈ signMark ↔ s = [] ∨ s = ['+'] ∨ s = ['-'] := by
  simp [signMark, mem_maybe_oneOf]

theorem mem_hexMark : s ∈ hexMark ↔ s = ['0', 'x'] ∨ s = ['0', 'X'] ∨ s = ['#'] := by
  rw [hexMark, Language.mem_add, Language.mem_mul]
  simp [mem_oneOf, eq_comm, or_assoc]

theorem mem_star : s ∈ (one kind)∗ ↔ ∀ c ∈ s, kind c := by
  rw [Language.mem_kstar]
  constructor
  · rintro ⟨parts, rfl, each⟩ c found
    obtain ⟨part, inside, held⟩ := List.mem_flatten.mp found
    obtain ⟨d, fits, rfl⟩ := each part inside
    rwa [List.mem_singleton.mp held]
  · intro all
    have joined : s = (s.map ([·])).flatten := by
      rw [← List.flatMap_def, List.flatMap_singleton']
    refine ⟨s.map ([·]), joined, ?_⟩
    intro part inside
    obtain ⟨c, found, rfl⟩ := List.mem_map.mp inside
    exact ⟨c, all c found, rfl⟩

theorem mem_run : s ∈ run kind ↔ s ≠ [] ∧ ∀ c ∈ s, kind c := by
  rw [run, Language.mem_mul]
  constructor
  · rintro ⟨_, ⟨c, fits, rfl⟩, rest, all, rfl⟩
    simpa [fits] using mem_star.mp all
  · rintro ⟨filled, all⟩
    cases s with
    | nil => exact absurd rfl filled
    | cons c rest =>
      obtain ⟨fits, others⟩ := List.forall_mem_cons.mp all
      exact ⟨[c], ⟨c, fits, rfl⟩, rest, mem_star.mpr others, rfl⟩

/-- A mantissa is a run of digits, or has a point with digits on one side of it at least. -/
theorem mem_mantissa : s ∈ mantissa ↔ s ∈ run Text.isDigit ∨
    ∃ whole fraction, s = whole ++ '.' :: fraction ∧ (whole ≠ [] ∨ fraction ≠ []) ∧
      (∀ c ∈ whole, Text.isDigit c) ∧ ∀ c ∈ fraction, Text.isDigit c := by
  rw [mantissa, Language.mem_add, Language.mem_mul, Language.mem_mul]
  constructor
  · rintro (⟨whole, digits, _, ⟨point, dot, fraction, others, rfl⟩, rfl⟩ | ⟨_, dot, fraction, digits, rfl⟩)
    · obtain ⟨filled, all⟩ := mem_run.mp digits
      have rest := mem_star.mp others
      obtain rfl | dot := mem_maybe.mp dot
      · left
        refine mem_run.mpr ⟨by simp [filled], ?_⟩
        simpa [or_imp, forall_and] using ⟨all, rest⟩
      · obtain ⟨c, held, rfl⟩ := mem_oneOf.mp dot
        obtain rfl := List.mem_singleton.mp held
        exact .inr ⟨whole, fraction, rfl, .inl filled, all, rest⟩
    · obtain ⟨filled, all⟩ := mem_run.mp digits
      obtain ⟨c, held, rfl⟩ := mem_oneOf.mp dot
      obtain rfl := List.mem_singleton.mp held
      exact .inr ⟨[], fraction, rfl, .inr filled, by simp, all⟩
  · have dot : ['.'] ∈ oneOf ['.'] := mem_oneOf.mpr ⟨'.', by simp, rfl⟩
    rintro (digits | ⟨whole, fraction, rfl, filled, before, after⟩)
    · left
      refine ⟨s, digits, [], ?_, by simp⟩
      exact ⟨[], mem_maybe.mpr (.inl rfl), [], mem_star.mpr (by simp), rfl⟩
    · by_cases empty : whole = []
      · subst empty
        exact .inr ⟨['.'], dot, fraction, mem_run.mpr ⟨by simpa using filled, after⟩, rfl⟩
      · left
        refine ⟨whole, mem_run.mpr ⟨empty, before⟩, '.' :: fraction, ?_, rfl⟩
        exact ⟨['.'], mem_maybe.mpr (.inr dot), fraction, mem_star.mpr after, rfl⟩

theorem mem_power : s ∈ power ↔ s = [] ∨
    ∃ mark signs digits, s = mark :: signs ++ digits ∧ (mark = 'e' ∨ mark = 'E') ∧
      signs ∈ signMark ∧ digits ∈ run Text.isDigit := by
  rw [power, mem_maybe, Language.mem_mul]
  constructor
  · rintro (rfl | ⟨_, mark, _, ⟨signs, signed, digits, held, rfl⟩, rfl⟩)
    · exact .inl rfl
    · obtain ⟨c, found, rfl⟩ := mem_oneOf.mp mark
      exact .inr ⟨c, signs, digits, rfl, by simpa using found, signed, held⟩
  · rintro (rfl | ⟨mark, signs, digits, rfl, letter, signed, held⟩)
    · exact .inl rfl
    · right
      refine ⟨[mark], mem_oneOf.mpr ⟨mark, by simpa using letter, rfl⟩, signs ++ digits, ?_, rfl⟩
      exact ⟨signs, signed, digits, held, rfl⟩

end Membership

/-! ## Characters -/

theorem le_iff_toNat (a b : Char) : a ≤ b ↔ a.toNat ≤ b.toNat := UInt32.le_iff_toNat_le

/-- The digits below a base up to sixteen, by code point. -/
theorem asciiDigit?_lt (base : Nat) (small : base ≤ 16) (c : Char) :
    (Text.asciiDigit? c).any (· < base) = true ↔
      (48 ≤ c.toNat ∧ c.toNat ≤ 57 ∧ c.toNat < 48 + base) ∨
      (97 ≤ c.toNat ∧ c.toNat < 87 + base) ∨ (65 ≤ c.toNat ∧ c.toNat < 55 + base) := by
  unfold Text.asciiDigit?
  simp only [Bool.and_eq_true, decide_eq_true_eq, le_iff_toNat, Char.reduceToNat]
  split_ifs with digit lower upper
  · simp only [Option.any_some, decide_eq_true_eq]
    omega
  · simp only [Option.any_some, decide_eq_true_eq]
    omega
  · simp only [Option.any_some, decide_eq_true_eq]
    omega
  · simp only [Option.any_none, Bool.false_eq_true, false_iff]
    omega

theorem isHexDigit_eq (c : Char) : Text.isHexDigit c = isAsciiHex c := by
  rw [Bool.eq_iff_iff, Text.isHexDigit, asciiDigit?_lt 16 (by omega), isAsciiHex]
  simp only [Bool.or_eq_true, Bool.and_eq_true, decide_eq_true_eq, le_iff_toNat, Char.reduceToNat]
  omega

theorem isOctalDigit_eq (c : Char) : Text.isOctalDigit c = isAsciiOctal c := by
  rw [Bool.eq_iff_iff, Text.isOctalDigit, asciiDigit?_lt 8 (by omega), isAsciiOctal]
  simp only [Bool.and_eq_true, decide_eq_true_eq, le_iff_toNat, Char.reduceToNat]
  omega

/-- The other characters of the grammar are no digits. -/
theorem isDigit_mark : ∀ c ∈ ['+', '-', '.', '#', 'x', 'X', 'e', 'E', 'l', 'L', 'f', 'F', 'd', 'D'],
    Text.isDigit c = false :=
  List.forall_iff_forall_mem.mp (by decide)

/-! ## What the scanner reads -/

/-- A run of a kind is cut off where the kind ends. -/
theorem run_cut {kind : Char → Bool} {digits rest : List Char} (all : ∀ c ∈ digits, kind c)
    (ends : ∀ c ∈ rest.head?, kind c = false) :
    (digits ++ rest).takeWhile kind = digits ∧ (digits ++ rest).dropWhile kind = rest := by
  induction digits with
  | nil => cases rest <;> simp_all
  | cons c digits ih =>
    obtain ⟨fits, others⟩ := List.forall_mem_cons.mp all
    simpa [fits] using ih others

theorem head_run {kind : Char → Bool} {digits : List Char} (held : digits ∈ run kind)
    (rest : List Char) : ∀ c ∈ (digits ++ rest).head?, kind c := by
  obtain ⟨filled, all⟩ := mem_run.mp held
  cases digits with
  | nil => exact absurd rfl filled
  | cons c digits => simpa using all c (by simp)

theorem takeWhile_all (kind : Char → Bool) (s : List Char) : ∀ c ∈ s.takeWhile kind, kind c := by
  intro c found
  exact List.all_eq_true.mp List.all_takeWhile c found

/-- A digit is no other character of the grammar. -/
theorem digit_ne {c : Char} (digit : Text.isDigit c) : c ≠ '+' ∧ c ≠ '-' ∧ c ≠ '.' ∧ c ≠ '#' := by
  refine ⟨?_, ?_, ?_, ?_⟩ <;> (rintro rfl; simp [isDigit_mark] at digit)

theorem sign_split (s : List Char) : ∃ mark ∈ signMark, mark ++ (sign s).2 = s := by
  unfold sign
  split
  · exact ⟨['-'], by simp [mem_signMark], rfl⟩
  · exact ⟨['+'], by simp [mem_signMark], rfl⟩
  · exact ⟨[], by simp [mem_signMark], rfl⟩

theorem sign_append {mark body : List Char} (marked : mark ∈ signMark)
    (bare : ∀ c ∈ body.head?, c ≠ '+' ∧ c ≠ '-') : (sign (mark ++ body)).2 = body := by
  obtain rfl | rfl | rfl := mem_signMark.mp marked
  · unfold sign
    split <;> simp_all
  · rfl
  · rfl

/-- A sign before a language whose texts have none is what the scanner takes off. -/
theorem mem_signMark_mul {l : Language Char}
    (bare : ∀ body ∈ l, ∀ c ∈ body.head?, c ≠ '+' ∧ c ≠ '-') {s : List Char} :
    s ∈ signMark * l ↔ (sign s).2 ∈ l := by
  constructor
  · rintro ⟨mark, marked, body, held, rfl⟩
    change (sign (mark ++ body)).2 ∈ l
    rwa [sign_append marked (bare body held)]
  · intro held
    obtain ⟨mark, marked, whole⟩ := sign_split s
    exact Language.mem_mul.mpr ⟨mark, marked, _, held, whole⟩

theorem hexDigits?_eq_some {s digits : List Char} :
    hexDigits? s = some digits ↔ digits ∈ run isAsciiHex ∧ ∃ mark ∈ hexMark, mark ++ digits = s := by
  have kept (ds : List Char) :
      (!ds.isEmpty && ds.all Text.isHexDigit) = true ↔ ds ∈ run isAsciiHex := by
    simp [mem_run, isHexDigit_eq]
  unfold hexDigits?
  simp only [kept, mem_hexMark, Option.ite_none_right_eq_some, Option.some.injEq]
  constructor
  · rintro ⟨held, rfl⟩
    refine ⟨held, ?_⟩
    split
    · exact ⟨_, .inl rfl, rfl⟩
    · exact ⟨_, .inr (.inl rfl), rfl⟩
    · exact ⟨_, .inr (.inr rfl), rfl⟩
    · simp_all [mem_run]
  · rintro ⟨held, mark, rfl | rfl | rfl, rfl⟩
    · exact ⟨held, rfl⟩
    · exact ⟨held, rfl⟩
    · exact ⟨held, rfl⟩

theorem integerDigits?_eq_some {s digits : List Char} :
    integerDigits? s = some digits ↔
      digits ∈ run Text.isDigit ∧ ∃ mark ∈ maybe (oneOf ['l', 'L']), digits ++ mark = s := by
  unfold integerDigits?
  simp only [Option.ite_none_right_eq_some, Option.some.injEq, Bool.and_eq_true, mem_maybe_oneOf,
    List.contains_iff_mem, List.map_cons, List.map_nil, mem_run]
  constructor
  · rintro ⟨⟨filled, letter⟩, rfl⟩
    refine ⟨⟨by simpa using filled, takeWhile_all _ _⟩, _, letter, List.takeWhile_append_dropWhile⟩
  · rintro ⟨⟨filled, all⟩, mark, letter, rfl⟩
    have ends : ∀ c ∈ mark.head?, Text.isDigit c = false := by
      simp only [List.mem_cons, List.not_mem_nil, or_false] at letter
      obtain rfl | rfl | rfl := letter <;> simp [isDigit_mark]
    obtain ⟨taken, dropped⟩ := run_cut all ends
    rw [taken, dropped]
    exact ⟨⟨by simpa using filled, letter⟩, rfl⟩

/-- The scanner of an exponent takes off the sign that the scanner of numbers does. -/
theorem exponent_cons (mark : Char) (rest : List Char) :
    ∃ signs ∈ signMark, signs ++ (sign rest).2 = rest ∧
      exponent (mark :: rest) =
        if mark = 'e' ∨ mark = 'E' then
          if ((sign rest).2.takeWhile Text.isDigit).isEmpty then ([], mark :: rest)
          else (mark :: signs ++ (sign rest).2.takeWhile Text.isDigit,
            (sign rest).2.dropWhile Text.isDigit)
        else ([], mark :: rest) := by
  unfold exponent sign
  split
  · exact ⟨['-'], by simp [mem_signMark], rfl, rfl⟩
  · exact ⟨['+'], by simp [mem_signMark], rfl, rfl⟩
  · refine ⟨[], by simp [mem_signMark], rfl, ?_⟩
    split <;> simp_all

theorem exponent_split (s : List Char) :
    (exponent s).1 ∈ power ∧ (exponent s).1 ++ (exponent s).2 = s := by
  cases s with
  | nil => exact ⟨mem_power.mpr (.inl rfl), rfl⟩
  | cons mark rest =>
    obtain ⟨signs, signed, split, read⟩ := exponent_cons mark rest
    rw [read]
    split_ifs with letter empty
    · exact ⟨mem_power.mpr (.inl rfl), rfl⟩
    · refine ⟨mem_power.mpr (.inr ⟨mark, signs, _, rfl, letter, signed, mem_run.mpr ?_⟩), ?_⟩
      · exact ⟨by simpa using empty, takeWhile_all _ _⟩
      · simp only [List.cons_append, List.append_assoc, List.takeWhile_append_dropWhile, split]
    · exact ⟨mem_power.mpr (.inl rfl), rfl⟩

/-- What may follow a power: nothing, or a letter that ends the number. -/
theorem exponent_append {p suffix : List Char} (held : p ∈ power)
    (ends : suffix ∈ maybe (oneOf ['f', 'F', 'd', 'D'])) : exponent (p ++ suffix) = (p, suffix) := by
  have apart : ∀ c ∈ suffix.head?, Text.isDigit c = false ∧ c ≠ 'e' ∧ c ≠ 'E' := by
    simp only [mem_maybe_oneOf, List.map_cons, List.map_nil, List.mem_cons, List.not_mem_nil,
      or_false] at ends
    obtain rfl | rfl | rfl | rfl | rfl := ends <;> simp [isDigit_mark]
  obtain rfl | ⟨mark, signs, digits, rfl, letter, signed, held⟩ := mem_power.mp held
  · cases suffix with
    | nil => rfl
    | cons c rest =>
      obtain ⟨-, small, great⟩ := apart c (by simp)
      simp [exponent, small, great]
  · obtain ⟨filled, all⟩ := mem_run.mp held
    obtain ⟨taken, dropped⟩ := run_cut all fun c found => (apart c found).1
    have bare : (sign (signs ++ (digits ++ suffix))).2 = digits ++ suffix := by
      refine sign_append signed fun c found => ?_
      obtain ⟨plus, minus, -⟩ := digit_ne (head_run held suffix c found)
      exact ⟨plus, minus⟩
    obtain ⟨marks, -, split, read⟩ := exponent_cons mark (signs ++ (digits ++ suffix))
    rw [bare] at split read
    obtain rfl : marks = signs := List.append_cancel_right split
    simp only [List.cons_append, List.append_assoc, read, taken, dropped, if_pos letter]
    simp [filled]

/-- Neither a power nor what may follow it continues the digits before it. -/
theorem power_apart {p suffix : List Char} (held : p ∈ power)
    (ends : suffix ∈ maybe (oneOf ['f', 'F', 'd', 'D'])) :
    ∀ c ∈ (p ++ suffix).head?, Text.isDigit c = false ∧ c ≠ '.' := by
  obtain rfl | ⟨mark, signs, digits, rfl, rfl | rfl, -⟩ := mem_power.mp held
  · simp only [mem_maybe_oneOf, List.map_cons, List.map_nil, List.mem_cons, List.not_mem_nil,
      or_false] at ends
    obtain rfl | rfl | rfl | rfl | rfl := ends <;> simp [isDigit_mark]
  · simp [isDigit_mark]
  · simp [isDigit_mark]

/-- A mantissa at the front: the digits before the point, the point, the digits after it, and what
follows. -/
def cutMantissa (s : List Char) : List Char × List Char × List Char × List Char :=
  match s.dropWhile Text.isDigit with
  | '.' :: rest => (s.takeWhile Text.isDigit, ['.'], rest.takeWhile Text.isDigit,
      rest.dropWhile Text.isDigit)
  | rest => (s.takeWhile Text.isDigit, [], [], rest)

section Cut
variable {s whole point fraction rest : List Char}

theorem cutMantissa_cases (cut : cutMantissa s = (whole, point, fraction, rest)) :
    whole = s.takeWhile Text.isDigit ∧
      ((∃ after, s.dropWhile Text.isDigit = '.' :: after ∧ point = ['.'] ∧
          fraction = after.takeWhile Text.isDigit ∧ rest = after.dropWhile Text.isDigit) ∨
        ((∀ after, s.dropWhile Text.isDigit ≠ '.' :: after) ∧ point = [] ∧ fraction = [] ∧
          rest = s.dropWhile Text.isDigit)) := by
  unfold cutMantissa at cut
  split at cut
  case h_1 after found =>
    obtain ⟨rfl, rfl, rfl, rfl⟩ := by simpa only [Prod.mk.injEq] using cut
    exact ⟨rfl, .inl ⟨after, found, rfl, rfl, rfl⟩⟩
  case h_2 undotted =>
    obtain ⟨rfl, rfl, rfl, rfl⟩ := by simpa only [Prod.mk.injEq] using cut
    exact ⟨rfl, .inr ⟨undotted, rfl, rfl, rfl⟩⟩

theorem realNumber?_eq (cut : cutMantissa s = (whole, point, fraction, rest)) : realNumber? s =
    if whole.isEmpty && fraction.isEmpty then none
    else if [[], ['f'], ['F'], ['d'], ['D']].contains (exponent rest).2 then
      some (whole ++ point ++ fraction ++ (exponent rest).1)
    else none := by
  obtain ⟨rfl, ⟨after, found, rfl, rfl, rfl⟩ | ⟨undotted, rfl, rfl, rfl⟩⟩ := cutMantissa_cases cut
  · simp only [realNumber?, found]
  · simp only [realNumber?, List.append_nil]

theorem ofFiniteText?_eq (cut : cutMantissa s = (whole, point, fraction, rest)) (negative : Bool) :
    Decimal.ofFiniteText? negative s =
      if whole.isEmpty && fraction.isEmpty then none
      else
        let build (e : Int) : Decimal :=
          .finite negative (Text.readDecimal (whole ++ fraction)) (e - fraction.length)
        match rest with
        | [] => some (build 0)
        | mark :: rest =>
          if mark = 'e' ∨ mark = 'E' then
            let (minus, digits) := sign rest
            if digits.isEmpty || !digits.all Text.isDigit then none
            else
              let n : Int := Text.readDecimal digits
              some (build (if minus then -n else n))
          else none := by
  obtain ⟨rfl, ⟨after, found, rfl, rfl, rfl⟩ | ⟨undotted, rfl, rfl, rfl⟩⟩ := cutMantissa_cases cut
  · simp only [Decimal.ofFiniteText?, found]
    rfl
  · simp only [Decimal.ofFiniteText?]
    rfl

/-- What is cut off the front is a mantissa if it has a digit. -/
theorem cutMantissa_split (cut : cutMantissa s = (whole, point, fraction, rest)) :
    whole ++ point ++ fraction ++ rest = s ∧
      ((whole.isEmpty && fraction.isEmpty) = false → whole ++ point ++ fraction ∈ mantissa) := by
  have parts : s.takeWhile Text.isDigit ++ s.dropWhile Text.isDigit = s :=
    List.takeWhile_append_dropWhile
  obtain ⟨rfl, ⟨after, found, rfl, rfl, rfl⟩ | ⟨undotted, rfl, rfl, rfl⟩⟩ := cutMantissa_cases cut
  · refine ⟨?_, fun filled => mem_mantissa.mpr (.inr ⟨_, _, List.append_assoc .., ?_⟩)⟩
    · rw [List.append_assoc, List.takeWhile_append_dropWhile, List.append_assoc]
      rwa [found] at parts
    · refine ⟨?_, takeWhile_all _ _, takeWhile_all _ _⟩
      simpa [imp_iff_not_or] using filled
  · simp only [List.append_nil]
    refine ⟨parts, fun filled => mem_mantissa.mpr (.inl (mem_run.mpr ⟨?_, takeWhile_all _ _⟩))⟩
    simpa using filled

end Cut

theorem cutMantissa_append {m rest : List Char} (held : m ∈ mantissa)
    (apart : ∀ c ∈ rest.head?, Text.isDigit c = false ∧ c ≠ '.') :
    ∃ whole point fraction, cutMantissa (m ++ rest) = (whole, point, fraction, rest) ∧
      m = whole ++ point ++ fraction ∧ (whole.isEmpty && fraction.isEmpty) = false := by
  have ends : ∀ c ∈ rest.head?, Text.isDigit c = false := fun c found => (apart c found).1
  obtain digits | ⟨whole, fraction, rfl, filled, before, after⟩ := mem_mantissa.mp held
  · obtain ⟨filled, all⟩ := mem_run.mp digits
    obtain ⟨taken, dropped⟩ := run_cut all ends
    refine ⟨m, [], [], ?_, by simp, by simp [filled]⟩
    unfold cutMantissa
    rw [taken, dropped]
    split
    · exact absurd rfl (apart '.' (by simp)).2
    · rfl
  · have point : ∀ c ∈ ('.' :: (fraction ++ rest)).head?, Text.isDigit c = false := by
      simp [isDigit_mark]
    obtain ⟨taken, dropped⟩ := run_cut before point
    obtain ⟨between, beyond⟩ := run_cut after ends
    have same : whole ++ '.' :: fraction ++ rest = whole ++ '.' :: (fraction ++ rest) := by simp
    refine ⟨whole, ['.'], fraction, ?_, by simp, by simpa [← not_or, imp_iff_not_or] using filled⟩
    unfold cutMantissa
    rw [same, taken, dropped]
    simp only [between, beyond]

/-- The scanner of a number with a fraction or an exponent accepts these numbers and no others. -/
theorem realNumber?_eq_some {s number : List Char} : realNumber? s = some number ↔
    number ∈ mantissa * power ∧ ∃ letter ∈ maybe (oneOf ['f', 'F', 'd', 'D']), number ++ letter = s := by
  have letters (suffix : List Char) : [[], ['f'], ['F'], ['d'], ['D']].contains suffix = true ↔
      suffix ∈ maybe (oneOf ['f', 'F', 'd', 'D']) := by
    simp [mem_maybe_oneOf]
  constructor
  · intro read
    obtain ⟨⟨whole, point, fraction, rest⟩, cut⟩ : ∃ parts, cutMantissa s = parts := ⟨_, rfl⟩
    rw [realNumber?_eq cut] at read
    split_ifs at read with empty letter
    obtain ⟨rfl, held⟩ := cutMantissa_split cut
    obtain ⟨powered, joined⟩ := exponent_split rest
    obtain rfl := Option.some.inj read
    refine ⟨?_, _, (letters _).mp letter, ?_⟩
    · exact Language.append_mem_mul (held (by simpa using empty)) powered
    · rw [List.append_assoc, joined]
  · rintro ⟨held, letter, ends, rfl⟩
    obtain ⟨m, wide, p, powered, rfl⟩ := Language.mem_mul.mp held
    obtain ⟨whole, point, fraction, cut, rfl, filled⟩ :=
      cutMantissa_append wide (power_apart powered ends)
    rw [List.append_assoc _ p, realNumber?_eq cut, filled, exponent_append powered ends,
      if_neg Bool.false_ne_true, if_pos ((letters letter).mpr ends)]

/-- Every number that the scanner accepts can be read. -/
theorem ofFiniteText?_of_mem {number : List Char} (held : number ∈ mantissa * power)
    (negative : Bool) : ∃ d, Decimal.ofFiniteText? negative number = some d := by
  obtain ⟨m, wide, p, powered, rfl⟩ := Language.mem_mul.mp held
  have apart := power_apart powered (mem_maybe.mpr (.inl rfl))
  rw [List.append_nil] at apart
  obtain ⟨whole, point, fraction, cut, rfl, filled⟩ := cutMantissa_append wide apart
  rw [ofFiniteText?_eq cut, filled]
  obtain rfl | ⟨mark, signs, digits, rfl, letter, signed, run⟩ := mem_power.mp powered
  · exact ⟨_, rfl⟩
  · have bare : (sign (signs ++ digits)).2 = digits := by
      refine sign_append signed fun c found => ?_
      obtain ⟨plus, minus, -⟩ := digit_ne (head_run run [] c (by simpa using found))
      exact ⟨plus, minus⟩
    obtain ⟨full, all⟩ := mem_run.mp run
    have every : digits.all Text.isDigit := List.all_eq_true.mpr all
    simp [bare, every, full, letter]

/-! ## Texts of a form -/

section Forms
variable {s : List Char}

theorem mem_hexForm : s ∈ hexForm ↔ ∃ digits, hexDigits? (sign s).2 = some digits := by
  have bare : ∀ body ∈ hexMark * run isAsciiHex, ∀ c ∈ body.head?, c ≠ '+' ∧ c ≠ '-' := by
    rintro body ⟨mark, held, digits, -, rfl⟩ c found
    obtain rfl | rfl | rfl := mem_hexMark.mp held <;>
      (obtain rfl : _ = c := by simpa using found) <;> decide
  rw [hexForm, mem_signMark_mul bare, Language.mem_mul]
  constructor
  · rintro ⟨mark, held, digits, hex, whole⟩
    exact ⟨digits, hexDigits?_eq_some.mpr ⟨hex, mark, held, whole⟩⟩
  · rintro ⟨digits, read⟩
    obtain ⟨hex, mark, held, whole⟩ := hexDigits?_eq_some.mp read
    exact ⟨mark, held, digits, hex, whole⟩

theorem mem_integral {runs : Language Char} (digital : ∀ digits ∈ runs, digits ∈ run Text.isDigit) :
    s ∈ integral runs ↔ ∃ digits ∈ runs, integerDigits? (sign s).2 = some digits := by
  have bare : ∀ body ∈ runs * maybe (oneOf ['l', 'L']), ∀ c ∈ body.head?, c ≠ '+' ∧ c ≠ '-' := by
    rintro body ⟨digits, held, letter, -, rfl⟩ c found
    obtain ⟨plus, minus, -⟩ := digit_ne (head_run (digital digits held) letter c found)
    exact ⟨plus, minus⟩
  rw [integral, mem_signMark_mul bare, Language.mem_mul]
  constructor
  · rintro ⟨digits, held, letter, ends, whole⟩
    exact ⟨digits, held, integerDigits?_eq_some.mpr ⟨digital digits held, letter, ends, whole⟩⟩
  · rintro ⟨digits, held, read⟩
    obtain ⟨-, letter, ends, whole⟩ := integerDigits?_eq_some.mp read
    exact ⟨digits, held, letter, ends, whole⟩

theorem mem_integerForm :
    s ∈ integerForm ↔ ∃ digits ∈ integerRun, integerDigits? (sign s).2 = some digits :=
  mem_integral fun _ held => held.1

/-- A mantissa starts with a digit or the point. -/
theorem head_mantissa {m : List Char} (held : m ∈ mantissa) (rest : List Char) :
    ∀ c ∈ (m ++ rest).head?, c ≠ '+' ∧ c ≠ '-' := by
  intro c found
  obtain digits | ⟨whole, fraction, rfl, -, before, -⟩ := mem_mantissa.mp held
  · obtain ⟨plus, minus, -⟩ := digit_ne (head_run digits rest c found)
    exact ⟨plus, minus⟩
  · cases whole with
    | nil =>
      obtain rfl : '.' = c := by simpa using found
      decide
    | cons d whole =>
      obtain rfl : d = c := by simpa using found
      obtain ⟨plus, minus, -⟩ := digit_ne (before d (by simp))
      exact ⟨plus, minus⟩

theorem mem_real : s ∈ signMark * (mantissa * (power * maybe (oneOf ['f', 'F', 'd', 'D']))) ↔
    ∃ number, realNumber? (sign s).2 = some number := by
  have bare : ∀ body ∈ mantissa * (power * maybe (oneOf ['f', 'F', 'd', 'D'])),
      ∀ c ∈ body.head?, c ≠ '+' ∧ c ≠ '-' := by
    rintro body ⟨m, held, rest, -, rfl⟩
    exact head_mantissa held rest
  rw [mem_signMark_mul bare, ← mul_assoc, Language.mem_mul]
  constructor
  · rintro ⟨number, held, letter, ends, whole⟩
    exact ⟨number, realNumber?_eq_some.mpr ⟨held, letter, ends, whole⟩⟩
  · rintro ⟨number, read⟩
    obtain ⟨held, letter, ends, whole⟩ := realNumber?_eq_some.mp read
    exact ⟨number, held, letter, ends, whole⟩

theorem mem_realForm : s ∈ realForm ↔
    (∃ number, realNumber? (sign s).2 = some number) ∧ integerDigits? (sign s).2 = none := by
  have shape := mem_integral (s := s) fun _ (held : _ ∈ run Text.isDigit) => held
  rw [realForm, Language.mem_sub, mem_real, shape, Option.eq_none_iff_forall_ne_some]
  constructor
  · rintro ⟨real, apart⟩
    exact ⟨real, fun digits read => apart ⟨digits, (integerDigits?_eq_some.mp read).1, read⟩⟩
  · rintro ⟨real, apart⟩
    exact ⟨real, fun ⟨digits, _, read⟩ => apart digits read⟩

/-- After a hexadecimal mark no other scanner reads on. -/
theorem hex_alone {body digits : List Char} (read : hexDigits? body = some digits) :
    integerDigits? body = none ∧ realNumber? body = none := by
  obtain ⟨-, mark, marked, rfl⟩ := hexDigits?_eq_some.mp read
  have zero : Text.isDigit '0' = true := by decide
  obtain rfl | rfl | rfl := mem_hexMark.mp marked
  · simp [integerDigits?, realNumber?, exponent, zero, isDigit_mark]
  · simp [integerDigits?, realNumber?, exponent, zero, isDigit_mark]
  · simp [integerDigits?, realNumber?, isDigit_mark]

/-! ## Which number a form has -/

theorem integerRun_octal {digits : List Char} (long : 1 < digits.length)
    (zero : digits.head? = some '0') (held : digits ∈ run Text.isDigit) :
    digits ∈ integerRun ↔ digits.all Text.isOctalDigit = true := by
  have octal : digits.all Text.isOctalDigit = true ↔ digits ∈ (one isAsciiOctal)∗ := by
    rw [mem_star, List.all_eq_true]
    simp only [isOctalDigit_eq]
  rw [octal]
  constructor
  · rintro ⟨-, single | nonzero | octal⟩
    · omega
    · exact absurd zero nonzero
    · exact octal
  · exact fun octal => ⟨held, .inr (.inr octal)⟩

/-- What becomes of the text of an integer: a number if its digits are of the form, unless a run
that is read in base ten is too long. -/
theorem value_integer (negative : Bool) {digits : List Char} (held : digits ∈ run Text.isDigit) :
    (digits ∉ integerRun ∧ (integer negative digits).value = .ok none) ∨
    (digits ∈ integerRun ∧ ((∃ n, (integer negative digits).value = .ok (some (.int n))) ∨
      maxIntegerDigits < digits.length ∧
        (integer negative digits).value = .error (.tooManyDigits digits.length))) := by
  simp only [value, Bool.and_eq_true, decide_eq_true_eq, beq_iff_eq]
  split_ifs with leading octal
  · exact .inr ⟨(integerRun_octal leading.1 leading.2 held).mpr octal, .inl ⟨_, rfl⟩⟩
  · exact .inl ⟨mt (integerRun_octal leading.1 leading.2 held).mp octal, rfl⟩
  · right
    have filled : 0 < digits.length := List.length_pos_iff.mpr (mem_run.mp held).1
    constructor
    · refine ⟨held, ?_⟩
      by_cases zero : digits.head? = some '0'
      · left
        have short : ¬ 1 < digits.length := fun long => leading ⟨long, zero⟩
        omega
      · exact .inr (.inl zero)
    · unfold readInteger
      split_ifs with long
      · exact .inr ⟨long, rfl⟩
      · exact .inl ⟨_, rfl⟩

/-- What becomes of the text of a number with a fraction or an exponent. -/
theorem value_real (negative : Bool) {number : List Char} (held : number ∈ mantissa * power) :
    (∃ x, (real negative number).value = .ok (some (.float x))) ∨
    (∃ d, (real negative number).value = .ok (some (.decimal d))) ∨
    (∃ d, Decimal.ofFiniteText? negative number = some d ∧ ¬ d.inRange ∧
      (real negative number).value = .error .exponentOutOfRange) := by
  obtain ⟨d, read⟩ := ofFiniteText?_of_mem held negative
  simp only [value, read]
  split
  · split_ifs with ranged
    · exact .inr (.inl ⟨d, rfl⟩)
    · exact .inr (.inr ⟨d, rfl, ranged, rfl⟩)
  · exact .inl ⟨_, rfl⟩

end Forms

end TemplateEngine.Literal
