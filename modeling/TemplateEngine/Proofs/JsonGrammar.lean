import TemplateEngine.Proofs.LooseNumbers
/-!
The texts of JSON, and their reader. Every text that is read is one of JSON; and a text of JSON is read,
unless it breaks a limit: it has an integer of too many digits, or too many brackets.
-/
namespace TemplateEngine

namespace Json

open Literal Computability

/-! ## The grammar -/

def isBlank (c : Char) : Bool := [' ', '\t', '\n', '\r'].contains c

def blanks : Language Char := (one isBlank)∗

/-- `0 | [1-9] [0-9]*` -/
def natural : Language Char :=
  oneOf ['0'] + one (fun c => '1' ≤ c && c ≤ '9') * (one isAsciiDigit)∗

/-- `(. [0-9]+)?` -/
def fractionText : Language Char := maybe (oneOf ['.'] * run isAsciiDigit)

/-- `([eE] [+-]? [0-9]+)?` -/
def powerText : Language Char := maybe (oneOf ['e', 'E'] * (signMark * run isAsciiDigit))

def magnitude : Language Char := natural * (fractionText * powerText)

def numberText : Language Char := maybe (oneOf ['-']) * magnitude

def wordTexts : List (List Char) := words.map (·.1.toList)

/-- What stands between the quotes of a text. -/
inductive IsBody : List Char → Prop
  | nil : IsBody []
  | plain {c : Char} {s : List Char} (printed : 0x20 ≤ c.toNat) (unquoted : c ≠ '"')
      (unescaped : c ≠ '\\') (later : IsBody s) : IsBody (c :: s)
  | escape {mark : Char} {s : List Char} (known : mark ∈ ['"', '\\', '/', 'b', 'f', 'n', 'r', 't'])
      (later : IsBody s) : IsBody ('\\' :: mark :: s)
  | code {a b c d : Char} {s : List Char} (hex : ∀ x ∈ [a, b, c, d], isAsciiHex x)
      (later : IsBody s) : IsBody ('\\' :: 'u' :: a :: b :: c :: d :: s)

mutual

inductive IsValue : List Char → Prop
  | text {body : List Char} (inside : IsBody body) : IsValue ('"' :: (body ++ ['"']))
  | word {s : List Char} (known : s ∈ wordTexts) : IsValue s
  | number {s : List Char} (held : s ∈ numberText) : IsValue s
  | noItems {b : List Char} (blank : b ∈ blanks) : IsValue ('[' :: (b ++ [']']))
  | list {s : List Char} (inside : IsItems s) : IsValue ('[' :: (s ++ [']']))
  | noEntries {b : List Char} (blank : b ∈ blanks) : IsValue ('\x7b' :: (b ++ ['\x7d']))
  | table {s : List Char} (inside : IsEntries s) : IsValue ('\x7b' :: (s ++ ['\x7d']))

/-- Values with commas between them, and blanks around each. -/
inductive IsItems : List Char → Prop
  | last {b v a : List Char} (before : b ∈ blanks) (value : IsValue v) (after : a ∈ blanks) :
      IsItems (b ++ (v ++ a))
  | more {b v a s : List Char} (before : b ∈ blanks) (value : IsValue v) (after : a ∈ blanks)
      (later : IsItems s) : IsItems (b ++ (v ++ (a ++ ',' :: s)))

/-- Entries with commas between them, and blanks around each, its colon and its value. -/
inductive IsEntries : List Char → Prop
  | last {b key m n v a : List Char} (before : b ∈ blanks) (named : IsBody key) (between : m ∈ blanks)
      (beyond : n ∈ blanks) (value : IsValue v) (after : a ∈ blanks) :
      IsEntries (b ++ ('"' :: (key ++ '"' :: (m ++ ':' :: (n ++ (v ++ a))))))
  | more {b key m n v a s : List Char} (before : b ∈ blanks) (named : IsBody key)
      (between : m ∈ blanks) (beyond : n ∈ blanks) (value : IsValue v) (after : a ∈ blanks)
      (later : IsEntries s) :
      IsEntries (b ++ ('"' :: (key ++ '"' :: (m ++ ':' :: (n ++ (v ++ (a ++ ',' :: s)))))))

end

/-- A value with blanks around it. -/
def IsJson (s : List Char) : Prop :=
  ∃ before ∈ blanks, ∃ v, IsValue v ∧ ∃ after ∈ blanks, s = before ++ (v ++ after)

/-! ## What a reading gives -/

/-- Why a text breaks a limit: it has a run of too many digits, or more brackets than there is room. -/
def Limit.Fits (room : Nat) (s : List Char) : Limit → Prop
  | .number e => ∃ digits, digits <:+: s ∧ (∀ c ∈ digits, isAsciiDigit c) ∧
      maxIntegerDigits < digits.length ∧ e = .tooManyDigits digits.length
  | .depth _ => room < s.countP fun c => c = '[' || c = '\x7b'

/-- What was read is spelled by the front of the text. -/
def Reads {α : Type} (room : Nat) (s : List Char) (spells : List Char → α → Prop) :
    Except Flaw (α × List Char) → Prop
  | .ok (a, rest) => ∃ v, spells v a ∧ s = v ++ rest
  | .error (.limit l) => l.Fits room s
  | .error .malformed => True

section Steps

variable {α β : Type} {room taken : Nat} {s t rest : List Char}

theorem Limit.Fits.mono {l : Limit} (h : l.Fits taken t) (part : t <:+: s)
    (brackets : room + t.countP (fun c => c = '[' || c = '\x7b') ≤
      taken + s.countP fun c => c = '[' || c = '\x7b') : l.Fits room s := by
  cases l with
  | number e =>
    obtain ⟨digits, inside, all, long, rfl⟩ := h
    exact ⟨digits, inside.trans part, all, long, rfl⟩
  | depth isList =>
    have deep : taken < t.countP fun c => c = '[' || c = '\x7b' := h
    change room < s.countP fun c => c = '[' || c = '\x7b'
    omega

theorem Limit.Fits.part {l : Limit} (h : l.Fits room t) (part : t <:+: s) : l.Fits room s :=
  h.mono part (Nat.add_le_add_left (part.sublist.countP_le) room)

theorem skipBlanks_eq (s : List Char) : skipBlanks s = s.dropWhile isBlank := by
  rw [skipBlanks]
  congr 1
  funext c
  simp [isBlank, Bool.or_assoc]

theorem skipBlanks_append {b : List Char} (blank : b ∈ blanks) (s : List Char) :
    skipBlanks (b ++ s) = skipBlanks s := by
  rw [skipBlanks_eq, skipBlanks_eq, Text.dropWhile_append_all (mem_star.mp blank)]

theorem skipBlanks_cons {c : Char} (mark : isBlank c = false) (s : List Char) :
    skipBlanks (c :: s) = c :: s := by
  rw [skipBlanks_eq, List.dropWhile_cons_of_neg (by simp [mark])]

theorem skipBlanks_split (s : List Char) : ∃ b ∈ blanks, s = b ++ skipBlanks s := by
  refine ⟨s.takeWhile isBlank, mem_star.mpr (takeWhile_all isBlank s), ?_⟩
  rw [skipBlanks_eq, List.takeWhile_append_dropWhile]

/-- What is left after the first step is the text of the second. -/
theorem Reads.bind {spells : List Char → α → Prop} {spelled : List Char → β → Prop}
    {x : Except Flaw (α × List Char)} {f : α × List Char → Except Flaw (β × List Char)}
    (first : Reads taken t spells x) (limits : ∀ l : Limit, l.Fits taken t → l.Fits room s)
    (second : ∀ v a rest, spells v a → t = v ++ rest → Reads room s spelled (f (a, rest))) :
    Reads room s spelled (x >>= f) := by
  cases x with
  | ok found =>
    obtain ⟨v, held, whole⟩ := first
    exact second v found.1 found.2 held whole
  | error f =>
    cases f with
    | malformed => trivial
    | limit l => exact limits l first

/-- A reading that comes after something else in the text. -/
theorem Reads.after {spells spelled : List Char → α → Prop} {x : Except Flaw (α × List Char)}
    (read : Reads room t spells x) (front : List Char) (whole : s = front ++ t)
    (longer : ∀ v a, spells v a → spelled (front ++ v) a) : Reads room s spelled x := by
  have next : Reads room s spelled (x >>= .ok) := read.bind
    (fun l fits => fits.part (whole ▸ (List.suffix_append front t).isInfix))
    fun v a rest held split => ⟨front ++ v, longer v a held, by rw [whole, split, List.append_assoc]⟩
  cases x <;> exact next

end Steps

/-! ## Soundness -/

section Texts

variable {room : Nat} {s rest : List Char}

theorem hexQuad?_eq_some {n : Nat} (found : hexQuad? s = some (n, rest)) :
    ∃ a b c d, s = a :: b :: c :: d :: rest ∧ ∀ x ∈ [a, b, c, d], isAsciiHex x := by
  unfold hexQuad? at found
  split at found
  · next a b c d rest =>
    split_ifs at found with hex
    cases found
    refine ⟨a, b, c, d, rfl, fun x inside => ?_⟩
    rw [← isHexDigit_eq]
    exact List.all_eq_true.mp hex x inside
  · cases found

/-- What may stand in a text after a backslash and the mark of a number. -/
def Continues (v : List Char) : Prop := ∀ s, IsBody s → IsBody ('\\' :: 'u' :: (v ++ s))

theorem reads_unicodeEscape (s : List Char) :
    Reads room s (fun v _ => Continues v) (unicodeEscape s) := by
  unfold unicodeEscape
  split
  · trivial
  · next high rest found =>
    obtain ⟨a, b, c, d, rfl, hex⟩ := hexQuad?_eq_some found
    have single (x : Char) : Reads room (a :: b :: c :: d :: rest) (fun v _ => Continues v)
        (.ok (x, rest)) :=
      ⟨[a, b, c, d], fun s later => .code hex later, rfl⟩
    dsimp only
    split
    · split
      · next more =>
        split
        · trivial
        · next low rest found =>
          obtain ⟨e, f, g, h, rfl, second⟩ := hexQuad?_eq_some found
          split
          · exact ⟨[a, b, c, d, '\\', 'u', e, f, g, h], fun s later => .code hex (.code second later), rfl⟩
          · exact single _
      · exact single _
    · exact single _

/-- What stands between the quotes of a text, and the second quote. -/
def Closes (v : List Char) : Prop := ∃ body, IsBody body ∧ v = body ++ ['"']

theorem Closes.after {front v : List Char} (h : Closes v)
    (continues : ∀ body, IsBody body → IsBody (front ++ body)) : Closes (front ++ v) := by
  obtain ⟨body, inside, rfl⟩ := h
  exact ⟨front ++ body, continues body inside, by simp⟩

theorem reads_readString (fuel : Nat) (read s : List Char) :
    Reads room s (fun v _ => Closes v) (readString fuel read s) := by
  induction fuel generalizing read s with
  | zero => trivial
  | succ fuel ih =>
    unfold readString
    split
    · trivial
    · exact ⟨['"'], ⟨[], .nil, rfl⟩, rfl⟩
    · next rest =>
      refine (reads_unicodeEscape rest).bind
        (fun l fits => fits.part (List.suffix_append ['\\', 'u'] rest).isInfix)
        fun v c rest code split => ?_
      refine (ih _ rest).after ('\\' :: 'u' :: v) (by simp [split]) fun body _ closes => ?_
      exact closes.after code
    · next mark rest _ =>
      split
      · next c known =>
        refine (ih _ rest).after ['\\', mark] rfl fun body _ closes => ?_
        refine closes.after fun body inside => .escape ?_ inside
        obtain ⟨before, after, split, -⟩ := List.lookup_eq_some_iff.mp known
        have listed : mark ∈ simpleEscapes.map Prod.fst := by simp [split]
        simpa [simpleEscapes] using listed
      · trivial
    · next c rest unquoted code escaped =>
      split
      · trivial
      · next printed =>
        by_cases backslash : c = '\\'
        · subst backslash
          cases rest with
          | nil => cases fuel <;> trivial
          | cons mark rest => exact absurd rfl (escaped mark rest rfl)
        · refine (ih _ rest).after [c] rfl fun body _ closes => ?_
          exact closes.after fun body inside =>
            .plain (Nat.le_of_not_lt printed) (fun quote => unquoted quote) backslash inside

end Texts

section Numbers

variable {room : Nat} {s : List Char}

theorem digits_split (front : List Char) (filled : ¬(s.takeWhile isAsciiDigit).isEmpty) :
    s.takeWhile isAsciiDigit ∈ run isAsciiDigit ∧
      (front ++ s.takeWhile isAsciiDigit) ++ s.dropWhile isAsciiDigit = front ++ s := by
  refine ⟨mem_run.mpr ⟨by simpa using filled, takeWhile_all isAsciiDigit s⟩, ?_⟩
  rw [List.append_assoc, List.takeWhile_append_dropWhile]

theorem fraction_split (s : List Char) :
    (fraction s).1 ∈ fractionText ∧ (fraction s).1 ++ (fraction s).2 = s := by
  have nothing : ([] : List Char) ∈ fractionText := mem_maybe.mpr (.inl rfl)
  unfold fraction
  split
  · next rest =>
    dsimp only
    split_ifs with empty
    · exact ⟨nothing, rfl⟩
    · obtain ⟨digits, whole⟩ := digits_split ['.'] empty
      exact ⟨mem_maybe.mpr (.inr ⟨['.'], mem_oneOf.mpr ⟨'.', by simp, rfl⟩, _, digits, rfl⟩), whole⟩
  · exact ⟨nothing, rfl⟩

theorem power_cons (mark : Char) (rest : List Char) :
    ∃ signs ∈ signMark, signs ++ (sign rest).2 = rest ∧
      power (mark :: rest) =
        if mark = 'e' || mark = 'E' then
          if ((sign rest).2.takeWhile isAsciiDigit).isEmpty then ([], mark :: rest)
          else (mark :: signs ++ (sign rest).2.takeWhile isAsciiDigit,
            (sign rest).2.dropWhile isAsciiDigit)
        else ([], mark :: rest) := by
  unfold power sign
  split
  · exact ⟨['-'], by simp [mem_signMark], rfl, rfl⟩
  · exact ⟨['+'], by simp [mem_signMark], rfl, rfl⟩
  · refine ⟨[], by simp [mem_signMark], rfl, ?_⟩
    split <;> simp_all

theorem power_split (s : List Char) : (power s).1 ∈ powerText ∧ (power s).1 ++ (power s).2 = s := by
  have nothing : ([] : List Char) ∈ powerText := mem_maybe.mpr (.inl rfl)
  cases s with
  | nil => exact ⟨nothing, rfl⟩
  | cons mark rest =>
    obtain ⟨signs, signed, split, read⟩ := power_cons mark rest
    rw [read]
    split_ifs with letter empty
    · exact ⟨nothing, rfl⟩
    · obtain ⟨digits, whole⟩ := digits_split (mark :: signs) empty
      refine ⟨mem_maybe.mpr (.inr ⟨[mark], mem_oneOf.mpr ⟨mark, by simpa using letter, rfl⟩, _,
        Language.append_mem_mul signed digits, rfl⟩), ?_⟩
      rw [whole, List.cons_append, split]
    · exact ⟨nothing, rfl⟩

theorem mem_natural : s ∈ natural ↔
    s = ['0'] ∨ ∃ c rest, s = c :: rest ∧ '1' ≤ c ∧ c ≤ '9' ∧ ∀ d ∈ rest, isAsciiDigit d := by
  rw [natural, Language.mem_add, Language.mem_mul, mem_oneOf]
  constructor
  · rintro (⟨c, found, rfl⟩ | ⟨_, ⟨c, leading, rfl⟩, rest, all, rfl⟩)
    · exact .inl (by simpa using found)
    · simp only [Bool.and_eq_true, decide_eq_true_eq] at leading
      exact .inr ⟨c, rest, rfl, leading.1, leading.2, mem_star.mp all⟩
  · rintro (rfl | ⟨c, rest, rfl, low, high, all⟩)
    · exact .inl ⟨'0', by simp, rfl⟩
    · exact .inr ⟨[c], ⟨c, by simp [low, high], rfl⟩, rest, mem_star.mpr all, rfl⟩

theorem natural_digits (held : s ∈ natural) : ∀ c ∈ s, isAsciiDigit c := by
  obtain rfl | ⟨c, rest, rfl, low, high, all⟩ := mem_natural.mp held
  · exact List.forall_mem_singleton.mpr (by decide)
  · have first : isAsciiDigit c := by
      rw [isAsciiDigit, Bool.and_eq_true, decide_eq_true_eq, decide_eq_true_eq]
      exact ⟨Char.le_trans (by decide : '0' ≤ '1') low, high⟩
    exact List.forall_mem_cons.mpr ⟨first, all⟩

theorem isPrinted_floatOf (negative : Bool) (text : List Char) : (floatOf negative text).IsPrinted := by
  unfold floatOf
  split
  · exact ⟨.float _, _, rfl⟩
  · exact ⟨.null, _, rfl⟩

theorem isAsciiDigit_iff {c : Char} : isAsciiDigit c ↔ c = '0' ∨ '1' ≤ c ∧ c ≤ '9' := by
  rw [isAsciiDigit, Bool.and_eq_true, decide_eq_true_eq, decide_eq_true_eq]
  simp only [le_iff_toNat, ← Char.toNat_inj, Char.reduceToNat]
  omega

/-- The first digits of a number, as many as may stand there. -/
theorem wholePart?_eq_some {whole rest : List Char} (found : wholePart? s = some (whole, rest)) :
    whole ∈ natural ∧ s = whole ++ rest := by
  unfold wholePart? at found
  split at found
  · cases found
    exact ⟨mem_natural.mpr (.inl rfl), rfl⟩
  · next c rest unzero =>
    split_ifs at found with digit
    cases found
    refine ⟨mem_natural.mpr (.inr ⟨c, rest.takeWhile isAsciiDigit, List.takeWhile_cons_of_pos digit, ?_⟩),
      List.takeWhile_append_dropWhile.symm⟩
    obtain rfl | ⟨low, high⟩ := isAsciiDigit_iff.mp digit
    · exact absurd rfl unzero
    · exact ⟨low, high, takeWhile_all isAsciiDigit rest⟩
  · cases found

theorem reads_readNumber (negative : Bool) (s : List Char) :
    Reads room s (fun v a => v ∈ magnitude ∧ a.IsPrinted) (readNumber negative s) := by
  unfold readNumber
  split
  · trivial
  · next whole rest found =>
    obtain ⟨natural, split⟩ := wholePart?_eq_some found
    obtain ⟨pointed, fractions⟩ := fraction_split rest
    obtain ⟨powered, powers⟩ := power_split (fraction rest).2
    have number : whole ++ ((fraction rest).1 ++ (power (fraction rest).2).1) ∈ magnitude :=
      Language.append_mem_mul natural (Language.append_mem_mul pointed powered)
    have parts : s = whole ++ ((fraction rest).1 ++ (power (fraction rest).2).1) ++
        (power (fraction rest).2).2 := by
      rw [split, List.append_assoc, List.append_assoc, powers, fractions]
    dsimp only
    split_ifs
    · split
      · next n read => exact ⟨_, ⟨number, isPrinted_of_readInteger read⟩, parts⟩
      · next e read =>
        unfold readInteger at read
        split_ifs at read with long
        cases read
        exact ⟨whole, split ▸ (List.prefix_append whole rest).isInfix, natural_digits natural, long, rfl⟩
    · exact ⟨_, ⟨number, isPrinted_floatOf _ _⟩, parts⟩

end Numbers

section Scalars

variable {room : Nat} {s rest : List Char}

theorem readWord?_eq_some {v : Value} (found : readWord? s = some (v, rest)) :
    ∃ word ∈ wordTexts, s = word ++ rest ∧ v.IsPrinted := by
  obtain ⟨⟨word, a⟩, listed, dropped⟩ := List.exists_of_findSome?_eq_some found
  obtain ⟨left, spelled, same⟩ := Option.map_eq_some_iff.mp dropped
  obtain ⟨rfl, rfl⟩ := Prod.mk.inj same
  refine ⟨word.toList, List.mem_map.mpr ⟨_, listed, rfl⟩,
    Text.dropPrefix?_eq_some_iff.mp spelled, ?_⟩
  have printed : ∀ entry ∈ words, entry.2.IsPrinted := by
    simp only [words, List.forall_mem_cons]
    exact ⟨⟨.null, _, rfl⟩, ⟨.bool _, _, rfl⟩, ⟨.bool _, _, rfl⟩, ⟨.float _, _, rfl⟩, ⟨.float _, _, rfl⟩,
      ⟨.float _, _, rfl⟩, fun _ found => nomatch found⟩
  exact printed _ listed

theorem reads_readScalar (s : List Char) :
    Reads room s (fun v a => IsValue v ∧ a.IsPrinted) (readScalar s) := by
  have unsigned : ([] : List Char) ∈ maybe (oneOf ['-']) := mem_maybe.mpr (.inl rfl)
  have signed : ['-'] ∈ maybe (oneOf ['-']) := mem_maybe.mpr (.inr (mem_oneOf.mpr ⟨'-', by simp, rfl⟩))
  unfold readScalar
  split
  · next found read =>
    obtain ⟨word, listed, whole, printed⟩ := readWord?_eq_some read
    exact ⟨word, ⟨.word listed, printed⟩, whole⟩
  · split
    · next rest _ =>
      refine (reads_readNumber true rest).after ['-'] rfl fun v a held => ⟨.number ?_, held.2⟩
      exact Language.append_mem_mul signed held.1
    · refine (reads_readNumber false s).after [] rfl fun v a held => ⟨.number ?_, held.2⟩
      exact Language.append_mem_mul unsigned held.1

end Scalars

section Trees

variable {room : Nat} {b s rest : List Char}

theorem append_mem_blanks {a : List Char} (left : a ∈ blanks) (right : b ∈ blanks) : a ++ b ∈ blanks :=
  mem_star.mpr (List.forall_mem_append.mpr ⟨mem_star.mp left, mem_star.mp right⟩)

theorem IsItems.blank (blank : b ∈ blanks) (h : IsItems s) : IsItems (b ++ s) := by
  cases h with
  | last before value after =>
    rw [← List.append_assoc]
    exact .last (append_mem_blanks blank before) value after
  | more before value after later =>
    rw [← List.append_assoc]
    exact .more (append_mem_blanks blank before) value after later

theorem IsEntries.blank (blank : b ∈ blanks) (h : IsEntries s) : IsEntries (b ++ s) := by
  cases h with
  | last before named between beyond value after =>
    rw [← List.append_assoc]
    exact .last (append_mem_blanks blank before) named between beyond value after
  | more before named between beyond value after later =>
    rw [← List.append_assoc]
    exact .more (append_mem_blanks blank before) named between beyond value after later

/-- What the readers make of a text, with so much fuel. -/
structure ReadsTrees (fuel : Nat) : Prop where
  tree : ∀ room s,
    Reads room s (fun v t => IsValue v ∧ t.Proper Value.IsPrinted) (readTree room fuel s)
  items : ∀ room read s, (∀ t ∈ read, t.Proper Value.IsPrinted) →
    Reads room s (fun v ts => (∃ inside, IsItems inside ∧ v = inside ++ [']']) ∧
      ∀ t ∈ ts, t.Proper Value.IsPrinted) (readItems room fuel read s)
  entries : ∀ room read s, Tree.ProperTable Value.IsPrinted read →
    Reads room s (fun v es => (∃ inside, IsEntries inside ∧ v = inside ++ ['\x7d']) ∧
      Tree.ProperTable Value.IsPrinted es) (readEntries room fuel read s)

/-- A bracket takes up room for what is inside it. -/
theorem Limit.Fits.inside {l : Limit} {c : Char} (h : l.Fits (room - 1) s) (part : s <:+ rest)
    (opening : c = '[' ∨ c = '\x7b') : l.Fits room (c :: rest) := by
  refine h.mono (part.isInfix.trans (List.suffix_cons c rest).isInfix) ?_
  have fewer : s.countP (fun c => c = '[' || c = '\x7b') ≤ rest.countP fun c => c = '[' || c = '\x7b' :=
    part.sublist.countP_le
  have counted : (c :: rest).countP (fun c => c = '[' || c = '\x7b') =
      rest.countP (fun c => c = '[' || c = '\x7b') + 1 := by
    obtain rfl | rfl := opening <;> simp
  omega

theorem suffix_skipBlanks (s : List Char) : skipBlanks s <:+ s := List.dropWhile_suffix _

theorem reads_readTree {fuel : Nat} (ih : ReadsTrees fuel) (s : List Char) :
    Reads room s (fun v t => IsValue v ∧ t.Proper Value.IsPrinted) (readTree room (fuel + 1) s) := by
  rw [readTree.eq_def]
  dsimp only
  split
  · next rest =>
    refine (reads_readString _ _ rest).bind
      (fun l fits => fits.part (List.suffix_cons '"' rest).isInfix) fun v text left closes split => ?_
    obtain ⟨body, inside, rfl⟩ := closes
    exact ⟨'"' :: (body ++ ['"']), ⟨.text inside, .text text, _, rfl⟩, by rw [split]; rfl⟩
  · next rest =>
    obtain ⟨b, blank, whole⟩ := skipBlanks_split rest
    split
    · next full =>
      change room < _
      simp [full]
    · split
      · next left closed =>
        rw [closed] at whole
        exact ⟨'[' :: (b ++ [']']), ⟨.noItems blank, trivial⟩, by simp [whole]⟩
      · refine (ih.items (room - 1) [] (skipBlanks rest) (by simp)).bind
          (fun l fits => fits.inside (suffix_skipBlanks rest) (.inl rfl)) fun v items left held split => ?_
        obtain ⟨⟨inside, listed, rfl⟩, proper⟩ := held
        refine ⟨'[' :: ((b ++ inside) ++ [']']),
          ⟨.list (listed.blank blank), Tree.properItems_iff.mpr proper⟩, ?_⟩
        rw [whole, split]
        simp
  · next rest =>
    obtain ⟨b, blank, whole⟩ := skipBlanks_split rest
    split
    · next full =>
      change room < _
      simp [full]
    · split
      · next left closed =>
        rw [closed] at whole
        exact ⟨'\x7b' :: (b ++ ['\x7d']), ⟨.noEntries blank, List.nodup_nil, trivial⟩, by simp [whole]⟩
      · refine (ih.entries (room - 1) [] (skipBlanks rest) ⟨List.nodup_nil, trivial⟩).bind
          (fun l fits => fits.inside (suffix_skipBlanks rest) (.inr rfl)) fun v es left held split => ?_
        obtain ⟨⟨inside, listed, rfl⟩, proper⟩ := held
        refine ⟨'\x7b' :: ((b ++ inside) ++ ['\x7d']), ⟨.table (listed.blank blank), proper⟩, ?_⟩
        rw [whole, split]
        simp
  · refine (reads_readScalar s).bind (fun l fits => fits) fun v a left held split => ?_
    exact ⟨v, held, split⟩

theorem reads_readItems {fuel : Nat} (ih : ReadsTrees fuel) (read : List (Tree String Value))
    (proper : ∀ t ∈ read, t.Proper Value.IsPrinted) (s : List Char) :
    Reads room s (fun v ts => (∃ inside, IsItems inside ∧ v = inside ++ [']']) ∧
      ∀ t ∈ ts, t.Proper Value.IsPrinted) (readItems room (fuel + 1) read s) := by
  have none : ([] : List Char) ∈ blanks := mem_star.mpr (by simp)
  rw [readItems.eq_def]
  refine (ih.tree room s).bind (fun l fits => fits) fun v t left held split => ?_
  have all : ∀ x ∈ t :: read, x.Proper Value.IsPrinted := List.forall_mem_cons.mpr ⟨held.2, proper⟩
  obtain ⟨b, blank, whole⟩ := skipBlanks_split left
  dsimp only
  split
  · next rest closed =>
    rw [closed] at whole
    refine ⟨([] ++ (v ++ b)) ++ [']'], ⟨⟨_, .last none held.1 blank, rfl⟩, ?_⟩, by simp [split, whole]⟩
    exact fun x found => all x (List.mem_reverse.mp found)
  · next rest comma =>
    rw [comma] at whole
    obtain ⟨c, before, later⟩ := skipBlanks_split rest
    refine (ih.items room (t :: read) (skipBlanks rest) all).after (v ++ (b ++ ',' :: c))
      (by rw [split, whole, later]; simp [← later]) fun w ts held' => ?_
    obtain ⟨⟨inside, listed, rfl⟩, others⟩ := held'
    refine ⟨⟨[] ++ (v ++ (b ++ ',' :: (c ++ inside))),
      .more none held.1 blank (listed.blank before), ?_⟩, others⟩
    simp
  · trivial

theorem reads_readEntries {fuel : Nat} (ih : ReadsTrees fuel) (read : Table String (Tree String Value))
    (proper : Tree.ProperTable Value.IsPrinted read) (s : List Char) :
    Reads room s (fun v es => (∃ inside, IsEntries inside ∧ v = inside ++ ['\x7d']) ∧
      Tree.ProperTable Value.IsPrinted es) (readEntries room (fuel + 1) read s) := by
  have none : ([] : List Char) ∈ blanks := mem_star.mpr (by simp)
  rw [readEntries.eq_def]
  dsimp only
  split
  · next first =>
    refine (reads_readString _ _ first).bind
      (fun l fits => fits.part (List.suffix_cons '"' first).isInfix) fun v key left closes split => ?_
    obtain ⟨body, named, rfl⟩ := closes
    obtain ⟨m, between, colon⟩ := skipBlanks_split left
    dsimp only
    split
    · next beyond mark =>
      rw [mark] at colon
      obtain ⟨n, gap, value⟩ := skipBlanks_split beyond
      have front : '"' :: first = '"' :: (body ++ '"' :: (m ++ ':' :: n)) ++ skipBlanks beyond := by
        rw [split, colon]
        simp [← value]
      refine (ih.tree room (skipBlanks beyond)).bind
        (fun l fits => fits.part (front ▸ (List.suffix_append _ _).isInfix)) fun v t left held split => ?_
      have all := proper.insert key held.2
      obtain ⟨b, blank, whole⟩ := skipBlanks_split left
      dsimp only
      split
      · next rest closed =>
        rw [closed] at whole
        refine ⟨_, ⟨⟨_, .last none named between gap held.1 blank, rfl⟩, all⟩, ?_⟩
        rw [front, split, whole]
        simp
      · next rest comma =>
        rw [comma] at whole
        obtain ⟨c, before, later⟩ := skipBlanks_split rest
        refine (ih.entries room _ (skipBlanks rest) all).after
          ('"' :: (body ++ '"' :: (m ++ ':' :: (n ++ (v ++ (b ++ ',' :: c)))))) ?_ fun w es held' => ?_
        · rw [front, split, whole]
          simp [← later]
        · obtain ⟨⟨inside, listed, rfl⟩, others⟩ := held'
          refine ⟨⟨_, .more none named between gap held.1 blank (listed.blank before), ?_⟩, others⟩
          simp
      · trivial
    · trivial
  · trivial

theorem readsTrees (fuel : Nat) : ReadsTrees fuel := by
  induction fuel with
  | zero => exact ⟨fun _ _ => trivial, fun _ _ _ _ => trivial, fun _ _ _ _ => trivial⟩
  | succ fuel ih =>
    constructor
    · exact fun room s => reads_readTree ih s
    · exact fun room read s proper => reads_readItems ih read proper s
    · exact fun room read s proper => reads_readEntries ih read proper s

end Trees

section Whole

variable {s : List Char}

theorem read_eq (s : List Char) : Json.read s =
    match readTree maxDepth (2 * s.length + 2) (skipBlanks s) with
    | .ok (t, rest) => if (skipBlanks rest).isEmpty then .ok t else .error .malformed
    | .error f => .error f := by
  rw [Json.read]
  cases readTree maxDepth (2 * s.length + 2) (skipBlanks s) <;> rfl

/-- What is read is one of the texts of JSON, and can be written out. -/
theorem isJson_of_read {t : Tree String Value} (read : Json.read s = .ok t) :
    IsJson s ∧ t.Proper Value.IsPrinted := by
  have sound := (readsTrees (2 * s.length + 2)).tree maxDepth (skipBlanks s)
  rw [read_eq] at read
  split at read
  · next tree rest found =>
    rw [found] at sound
    obtain ⟨b, before, front⟩ := skipBlanks_split s
    obtain ⟨v, ⟨value, proper⟩, split⟩ := sound
    obtain ⟨a, after, back⟩ := skipBlanks_split rest
    split_ifs at read with empty
    cases read
    rw [List.isEmpty_iff.mp empty, List.append_nil] at back
    exact ⟨⟨b, before, v, value, a, after, by rw [front, split, back]⟩, proper⟩
  · cases read

/-- A limit that is broken is one of the text. -/
theorem fits_of_read {l : Limit} (read : Json.read s = .error (.limit l)) : l.Fits maxDepth s := by
  have sound := (readsTrees (2 * s.length + 2)).tree maxDepth (skipBlanks s)
  rw [read_eq] at read
  split at read
  · split_ifs at read
    cases read
  · next f found =>
    cases read
    rw [found] at sound
    have fits : l.Fits maxDepth (skipBlanks s) := sound
    exact fits.part (suffix_skipBlanks s).isInfix

end Whole

end Json

end TemplateEngine
