import TemplateEngine.Proofs.JsonGrammar
/-!
Every text of JSON is read, unless it breaks a limit. Each reader stops where its part of the grammar
ends, and the fuel it is given is enough for the length of that part.
-/
namespace TemplateEngine.Json

open Literal Computability

/-- A reading that goes on at the rest of the text, or breaks a limit. -/
def Accepts {α : Type} (rest : List Char) (x : Except Flaw (α × List Char)) : Prop :=
  (∃ a, x = .ok (a, rest)) ∨ ∃ l, x = .error (.limit l)

/-- What may follow a value. -/
def Ends (rest : List Char) : Prop :=
  ∀ c ∈ rest.head?, isBlank c ∨ c ∈ [',', ']', '\x7d']

section Steps

variable {α β : Type} {mid rest b : List Char}

theorem accepts_ok {a : α} : Accepts rest (.ok (a, rest)) := .inl ⟨a, rfl⟩

theorem Accepts.bind {x : Except Flaw (α × List Char)} {f : α × List Char → Except Flaw (β × List Char)}
    (first : Accepts mid x) (second : ∀ a, Accepts rest (f (a, mid))) : Accepts rest (x >>= f) := by
  obtain ⟨a, rfl⟩ | ⟨l, rfl⟩ := first
  · exact second a
  · exact .inr ⟨l, rfl⟩

theorem ends_blanks (blank : b ∈ blanks) (h : Ends rest) : Ends (b ++ rest) := by
  cases b with
  | nil => exact h
  | cons c b =>
    intro d found
    cases found
    exact .inl (mem_star.mp blank c (by simp))

theorem ends_cons {c : Char} (mark : c ∈ [',', ']', '\x7d']) (rest : List Char) : Ends (c :: rest) := by
  intro d found
  cases found
  exact .inr mark

/-- The characters that may follow a value are none that may stand in a number. -/
theorem Ends.head (h : Ends rest) :
    ∀ c ∈ rest.head?, isAsciiDigit c = false ∧ c ∉ ['.', 'e', 'E', '+', '-'] := by
  have marks : ∀ c ∈ [' ', '\t', '\n', '\r'] ++ [',', ']', '\x7d'],
      isAsciiDigit c = false ∧ c ∉ ['.', 'e', 'E', '+', '-'] :=
    List.forall_iff_forall_mem.mp (by decide)
  intro c found
  obtain blank | mark := h c found
  · exact marks c (List.mem_append_left _ (List.contains_iff_mem.mp blank))
  · exact marks c (List.mem_append_right _ mark)

end Steps

/-! ## Texts -/

section Texts

variable {s rest : List Char} {a b c d : Char}

theorem exists_hexQuad? (hex : ∀ x ∈ [a, b, c, d], isAsciiHex x) (rest : List Char) :
    ∃ n, hexQuad? (a :: b :: c :: d :: rest) = some (n, rest) := by
  refine ⟨Text.readBase 16 [a, b, c, d], ?_⟩
  rw [hexQuad?, if_pos]
  rw [List.all_eq_true]
  intro x inside
  rw [isHexDigit_eq]
  exact hex x inside

/-- A second half is taken along if one follows. -/
theorem exists_unicodeEscape (hex : ∀ x ∈ [a, b, c, d], isAsciiHex x) (later : IsBody s)
    (rest : List Char) : ∃ x left, IsBody left ∧ left.length ≤ s.length ∧
      unicodeEscape (a :: b :: c :: d :: (s ++ '"' :: rest)) = .ok (x, left ++ '"' :: rest) := by
  obtain ⟨high, first⟩ := exists_hexQuad? hex (s ++ '"' :: rest)
  unfold unicodeEscape
  rw [first]
  dsimp only
  split
  · split
    · next more follows =>
      cases later with
      | nil => cases follows
      | plain printed unquoted unescaped later => exact absurd (List.cons.inj follows).1 unescaped
      | escape known later =>
        have mark := (List.cons.inj (List.cons.inj follows).2).1
        subst mark
        simp at known
      | @code e f g h s second later =>
        obtain ⟨low, quad⟩ := exists_hexQuad? second (s ++ '"' :: rest)
        obtain rfl : e :: f :: g :: h :: (s ++ '"' :: rest) = more :=
          (List.cons.inj (List.cons.inj follows).2).2
        rw [quad]
        dsimp only
        split
        · exact ⟨_, s, later, by simp; omega, rfl⟩
        · exact ⟨_, _, .code second later, le_rfl, rfl⟩
    · exact ⟨_, s, later, le_rfl, rfl⟩
  · exact ⟨_, s, later, le_rfl, rfl⟩

theorem exists_readString (fuel : Nat) (inside : IsBody s) (enough : s.length < fuel)
    (read rest : List Char) : ∃ text, readString fuel read (s ++ '"' :: rest) = .ok (text, rest) := by
  induction fuel generalizing s read with
  | zero => omega
  | succ fuel ih =>
    cases inside with
    | nil => exact ⟨_, rfl⟩
    | @plain c s printed unquoted unescaped later =>
      obtain ⟨text, found⟩ := ih later (by simpa using enough) (c :: read)
      refine ⟨text, ?_⟩
      rw [List.cons_append, readString]
      · rw [if_neg (Nat.not_lt.mpr printed), found]
      · exact fun quote => unquoted quote
      · intro _ escape
        exact absurd escape unescaped
      · intro _ _ escape
        exact absurd escape unescaped
    | @escape mark s known later =>
      have escapes : ∀ mark ∈ ['"', '\\', '/', 'b', 'f', 'n', 'r', 't'],
          mark ≠ 'u' ∧ (simpleEscapes.lookup mark).isSome :=
        List.forall_iff_forall_mem.mp (by decide)
      obtain ⟨numberless, spelled⟩ := escapes mark known
      obtain ⟨c, value⟩ := Option.isSome_iff_exists.mp spelled
      obtain ⟨text, found⟩ := ih later (by simp at enough; omega) (c :: read)
      refine ⟨text, ?_⟩
      rw [List.cons_append, List.cons_append, readString, value]
      · exact found
      · exact numberless
    | @code a b c d s hex later =>
      obtain ⟨x, left, body, shorter, found⟩ := exists_unicodeEscape hex later rest
      obtain ⟨text, others⟩ := ih body (by simp at enough; omega) (x :: read)
      refine ⟨text, ?_⟩
      simp only [List.cons_append, readString]
      rw [found]
      exact others

end Texts

/-! ## Numbers and words -/

section Scalars

variable {s digits rest : List Char}

theorem takeWhile_digits (all : ∀ c ∈ digits, isAsciiDigit c)
    (ends : ∀ c ∈ rest.head?, isAsciiDigit c = false) :
    (digits ++ rest).takeWhile isAsciiDigit = digits ∧ (digits ++ rest).dropWhile isAsciiDigit = rest := by
  have none : rest.takeWhile isAsciiDigit = [] ∧ rest.dropWhile isAsciiDigit = rest := by
    cases rest with
    | nil => exact ⟨rfl, rfl⟩
    | cons c rest => simp [ends c rfl]
  rw [List.takeWhile_append_of_pos all, List.dropWhile_append_of_pos all, none.1, none.2, List.append_nil]
  exact ⟨rfl, rfl⟩

theorem wholePart?_append (held : s ∈ natural) (ends : ∀ c ∈ rest.head?, isAsciiDigit c = false) :
    wholePart? (s ++ rest) = some (s, rest) := by
  have all := natural_digits held
  obtain rfl | ⟨c, digits, rfl, low, high, others⟩ := mem_natural.mp held
  · rfl
  · obtain ⟨taken, left⟩ := takeWhile_digits all ends
    have nonzero : c ≠ '0' := by
      rintro rfl
      exact absurd low (by decide)
    rw [List.cons_append] at taken left ⊢
    rw [wholePart?, if_pos (all c (by simp)), taken, left]
    exact fun zero => nonzero zero

theorem fraction_append (held : s ∈ fractionText)
    (ends : ∀ c ∈ rest.head?, isAsciiDigit c = false ∧ c ≠ '.') : fraction (s ++ rest) = (s, rest) := by
  obtain rfl | held := mem_maybe.mp held
  · rw [List.nil_append]
    unfold fraction
    split
    · exact absurd rfl (ends '.' rfl).2
    · rfl
  · obtain ⟨_, point, digits, run, rfl⟩ := Language.mem_mul.mp held
    obtain ⟨c, found, rfl⟩ := mem_oneOf.mp point
    obtain rfl := List.mem_singleton.mp found
    obtain ⟨filled, all⟩ := mem_run.mp run
    obtain ⟨taken, left⟩ := takeWhile_digits all fun c found => (ends c found).1
    simp [fraction, taken, left, filled]

theorem power_append (held : s ∈ powerText)
    (ends : ∀ c ∈ rest.head?, isAsciiDigit c = false ∧ c ≠ 'e' ∧ c ≠ 'E') :
    power (s ++ rest) = (s, rest) := by
  obtain rfl | held := mem_maybe.mp held
  · cases rest with
    | nil => rfl
    | cons c rest =>
      obtain ⟨-, small, capital⟩ := ends c rfl
      simp [power, small, capital]
  · obtain ⟨_, letter, _, ⟨signs, signed, digits, run, rfl⟩, rfl⟩ := Language.mem_mul.mp held
    obtain ⟨mark, found, rfl⟩ := mem_oneOf.mp letter
    obtain ⟨filled, all⟩ := mem_run.mp run
    obtain ⟨taken, left⟩ := takeWhile_digits all fun c found => (ends c found).1
    have bare : ∀ c ∈ (digits ++ rest).head?, c ≠ '+' ∧ c ≠ '-' := by
      intro c found
      rw [List.head?_append_of_ne_nil _ filled] at found
      have digit := all c (List.mem_of_mem_head? found)
      constructor <;> (rintro rfl; exact absurd digit (by decide))
    obtain ⟨marks, -, split, read⟩ := power_cons mark (signs ++ (digits ++ rest))
    rw [sign_append signed bare] at split read
    obtain rfl : marks = signs := List.append_cancel_right split
    have whole : [mark] ++ (marks ++ digits) ++ rest = mark :: (marks ++ (digits ++ rest)) := by simp
    rw [whole, read, taken, left, if_pos (by simpa using found), if_neg (by simpa using filled)]
    rfl

theorem accepts_readNumber (negative : Bool) (held : s ∈ magnitude) (h : Ends rest) :
    Accepts rest (readNumber negative (s ++ rest)) := by
  obtain ⟨whole, natural, _, ⟨p, pointed, e, powered, rfl⟩, rfl⟩ := held
  have after := h.head
  have powers : power (e ++ rest) = (e, rest) := by
    refine power_append powered fun c found => ?_
    obtain ⟨digit, mark⟩ := after c found
    simp_all
  have letters : ∀ c ∈ (e ++ rest).head?, isAsciiDigit c = false ∧ c ≠ '.' := by
    obtain rfl | ⟨_, letter, _, -, rfl⟩ := mem_maybe.mp powered
    · intro c found
      obtain ⟨digit, mark⟩ := after c found
      simp_all
    · obtain ⟨mark, found, rfl⟩ := mem_oneOf.mp letter
      have marks : ∀ c ∈ ['e', 'E'], isAsciiDigit c = false ∧ c ≠ '.' :=
        List.forall_iff_forall_mem.mp (by decide)
      simpa using marks mark found
  have fractions : fraction (p ++ (e ++ rest)) = (p, e ++ rest) := fraction_append pointed letters
  have points : ∀ c ∈ (p ++ (e ++ rest)).head?, isAsciiDigit c = false := by
    obtain rfl | ⟨_, point, _, -, rfl⟩ := mem_maybe.mp pointed
    · exact fun c found => (letters c found).1
    · obtain ⟨mark, found, rfl⟩ := mem_oneOf.mp point
      obtain rfl := List.mem_singleton.mp found
      simpa using (by decide : isAsciiDigit '.' = false)
  have split : whole ++ (p ++ e) ++ rest = whole ++ (p ++ (e ++ rest)) := by simp
  have wholes : wholePart? (whole ++ (p ++ e) ++ rest) = some (whole, p ++ (e ++ rest)) :=
    split ▸ wholePart?_append natural points
  rw [readNumber, wholes]
  dsimp only
  rw [fractions]
  dsimp only
  rw [powers]
  dsimp only
  split_ifs
  · split
    · exact accepts_ok
    · exact .inr ⟨_, rfl⟩
  · exact accepts_ok

theorem mem_wordTexts : s ∈ wordTexts ↔ s = "null".toList ∨ s = "true".toList ∨ s = "false".toList ∨
    s = "NaN".toList ∨ s = "Infinity".toList ∨ s = "-Infinity".toList := by
  simp [wordTexts, words]

theorem exists_readWord? (known : s ∈ wordTexts) (rest : List Char) :
    ∃ v, readWord? (s ++ rest) = some (v, rest) := by
  obtain rfl | rfl | rfl | rfl | rfl | rfl := mem_wordTexts.mp known <;> exact ⟨_, rfl⟩

/-- A number begins with a digit, or with a minus and a digit. -/
theorem number_head (held : s ∈ numberText) : ∃ sign body, s = sign ++ body ∧ (sign = [] ∨ sign = ['-']) ∧
    body ∈ magnitude ∧ ∃ d later, body = d :: later ∧ isAsciiDigit d := by
  obtain ⟨sign, signed, body, number, rfl⟩ := held
  have marks : sign = [] ∨ sign = ['-'] := by
    simpa using mem_maybe_oneOf.mp signed
  refine ⟨sign, body, rfl, marks, number, ?_⟩
  obtain ⟨whole, natural, tail, -, rfl⟩ := number
  have all := natural_digits natural
  obtain rfl | ⟨c, digits, rfl, -⟩ := mem_natural.mp natural
  · exact ⟨'0', tail, rfl, by decide⟩
  · exact ⟨c, digits ++ tail, rfl, all c (by simp)⟩

theorem readWord?_of_digit {d : Char} (digit : isAsciiDigit d) (rest : List Char) :
    readWord? (d :: rest) = none ∧ readWord? ('-' :: d :: rest) = none := by
  have letters : ∀ c ∈ ['n', 't', 'f', 'N', 'I', '-'], isAsciiDigit c = false :=
    List.forall_iff_forall_mem.mp (by decide)
  have other : ∀ c ∈ ['n', 't', 'f', 'N', 'I', '-'], c ≠ d := by
    rintro c listed rfl
    simp [letters c listed] at digit
  simp only [List.forall_mem_cons] at other
  obtain ⟨n, t, f, capital, infinity, minus, -⟩ := other
  simp [readWord?, words, Text.dropPrefix?, n, t, f, capital, infinity, minus]

theorem accepts_readScalar (held : s ∈ wordTexts ∨ s ∈ numberText) (h : Ends rest) :
    Accepts rest (readScalar (s ++ rest)) := by
  unfold readScalar
  obtain known | number := held
  · obtain ⟨v, found⟩ := exists_readWord? known rest
    rw [found]
    exact accepts_ok
  · obtain ⟨sign, body, rfl, rfl | rfl, number, d, later, rfl, digit⟩ := number_head number
    · rw [List.nil_append, List.cons_append, (readWord?_of_digit digit _).1]
      dsimp only
      split
      · next same =>
        rw [(List.cons.inj same).1] at digit
        exact absurd digit (by decide)
      · exact accepts_readNumber false number h
    · rw [List.singleton_append, List.cons_append, List.cons_append, (readWord?_of_digit digit _).2]
      exact accepts_readNumber true number h

end Scalars

/-! ## Lists and tables -/

section Trees

variable {s v b rest : List Char}

/-- Blanks and brackets. -/
def apartMarks : List Char := [' ', '\t', '\n', '\r', '"', '[', '\x7b', ']', '\x7d']

theorem scalar_head (held : s ∈ wordTexts ∨ s ∈ numberText) :
    ∃ c later, s = c :: later ∧ c ∉ apartMarks := by
  obtain known | number := held
  · obtain rfl | rfl | rfl | rfl | rfl | rfl := mem_wordTexts.mp known <;>
      exact ⟨_, _, rfl, by decide⟩
  · obtain ⟨sign, body, rfl, rfl | rfl, -, d, later, rfl, digit⟩ := number_head number
    · have marks : ∀ c ∈ apartMarks, isAsciiDigit c = false :=
        List.forall_iff_forall_mem.mp (by decide)
      refine ⟨d, later, rfl, fun listed => ?_⟩
      simp [marks d listed] at digit
    · exact ⟨'-', d :: later, rfl, by decide⟩

/-- A value begins with a character at which the skipping of blanks ends. -/
theorem IsValue.head (h : IsValue v) :
    ∃ c later, v = c :: later ∧ isBlank c = false ∧ c ≠ ']' ∧ c ≠ '\x7d' := by
  have scalar (held : v ∈ wordTexts ∨ v ∈ numberText) :
      ∃ c later, v = c :: later ∧ isBlank c = false ∧ c ≠ ']' ∧ c ≠ '\x7d' := by
    obtain ⟨c, later, rfl, apart⟩ := scalar_head held
    refine ⟨c, later, rfl, ?_⟩
    simp only [apartMarks, List.mem_cons, not_or] at apart
    simp [isBlank, apart]
  cases h with
  | text inside => exact ⟨'"', _, rfl, by decide⟩
  | word known => exact scalar (.inl known)
  | number held => exact scalar (.inr held)
  | noItems blank => exact ⟨'[', _, rfl, by decide⟩
  | list inside => exact ⟨'[', _, rfl, by decide⟩
  | noEntries blank => exact ⟨'\x7b', _, rfl, by decide⟩
  | table inside => exact ⟨'\x7b', _, rfl, by decide⟩

theorem IsValue.skipBlanks (h : IsValue v) (blank : b ∈ blanks) (rest : List Char) :
    Json.skipBlanks (b ++ (v ++ rest)) = v ++ rest := by
  obtain ⟨c, later, rfl, mark, -⟩ := h.head
  rw [skipBlanks_append blank, List.cons_append, skipBlanks_cons mark]

theorem skipBlanks_mark {c : Char} (blank : b ∈ blanks) (mark : isBlank c = false) (rest : List Char) :
    skipBlanks (b ++ c :: rest) = c :: rest := by
  rw [skipBlanks_append blank, skipBlanks_cons mark]

theorem IsItems.head (h : IsItems s) (rest : List Char) :
    ∃ c later, Json.skipBlanks (s ++ rest) = c :: later ∧ c ≠ ']' := by
  cases h with
  | last before value after =>
    rw [List.append_assoc, List.append_assoc, value.skipBlanks before]
    obtain ⟨c, later, rfl, -, open_, -⟩ := value.head
    exact ⟨c, _, rfl, open_⟩
  | more before value after later =>
    rw [List.append_assoc, List.append_assoc, value.skipBlanks before]
    obtain ⟨c, later, rfl, -, open_, -⟩ := value.head
    exact ⟨c, _, rfl, open_⟩

theorem IsEntries.head (h : IsEntries s) (rest : List Char) :
    ∃ later, Json.skipBlanks (s ++ rest) = '"' :: later := by
  cases h with
  | last before named between beyond value after =>
    rw [List.append_assoc, List.cons_append, skipBlanks_mark before (by decide)]
    exact ⟨_, rfl⟩
  | more before named between beyond value after later =>
    rw [List.append_assoc, List.cons_append, skipBlanks_mark before (by decide)]
    exact ⟨_, rfl⟩

/-- The readers take what the grammar has, with fuel for twice its length. -/
structure AcceptsTrees (fuel : Nat) : Prop where
  tree : ∀ room v rest, IsValue v → 2 * v.length ≤ fuel → Ends rest →
    Accepts rest (readTree room fuel (v ++ rest))
  items : ∀ room read s rest, IsItems s → 2 * s.length + 1 ≤ fuel →
    Accepts rest (readItems room fuel read (skipBlanks (s ++ ']' :: rest)))
  entries : ∀ room read s rest, IsEntries s → 2 * s.length + 1 ≤ fuel →
    Accepts rest (readEntries room fuel read (skipBlanks (s ++ '\x7d' :: rest)))

theorem accepts_readTree {fuel : Nat} (ih : AcceptsTrees fuel) (room : Nat) (value : IsValue v)
    (enough : 2 * v.length ≤ fuel + 1) (ends : Ends rest) :
    Accepts rest (readTree room (fuel + 1) (v ++ rest)) := by
  have scalar (held : v ∈ wordTexts ∨ v ∈ numberText) :
      Accepts rest (readTree room (fuel + 1) (v ++ rest)) := by
    obtain ⟨c, later, rfl, apart⟩ := scalar_head held
    simp only [apartMarks, List.mem_cons, not_or] at apart
    obtain ⟨-, -, -, -, quote, square, brace, -⟩ := apart
    rw [List.cons_append, readTree]
    · exact (accepts_readScalar held ends).bind fun a => accepts_ok
    · exact fun _ same => quote (List.cons.inj same).1
    · exact fun _ same => square (List.cons.inj same).1
    · exact fun _ same => brace (List.cons.inj same).1
  cases value with
  | @text body inside =>
    obtain ⟨text, found⟩ := exists_readString ((body ++ '"' :: rest).length + 1) inside
      (by rw [List.length_append]; omega) [] rest
    have split : '"' :: (body ++ ['"']) ++ rest = '"' :: (body ++ '"' :: rest) := by simp
    rw [split, readTree, found]
    exact accepts_ok
  | word known => exact scalar (.inl known)
  | number held => exact scalar (.inr held)
  | @noItems b blank =>
    have split : '[' :: (b ++ [']']) ++ rest = '[' :: (b ++ ']' :: rest) := by simp
    rw [split, readTree, skipBlanks_mark blank (by decide)]
    split_ifs
    · exact .inr ⟨_, rfl⟩
    · exact accepts_ok
  | @list s inside =>
    have split : '[' :: (s ++ [']']) ++ rest = '[' :: (s ++ ']' :: rest) := by simp
    obtain ⟨c, later, first, unclosed⟩ := inside.head (']' :: rest)
    rw [split, readTree]
    split_ifs
    · exact .inr ⟨_, rfl⟩
    · split
      · next left closed => exact absurd (List.cons.inj (first.symm.trans closed)).1 unclosed
      · exact (ih.items (room - 1) [] s rest inside (by simp at enough; omega)).bind fun ts => accepts_ok
  | @noEntries b blank =>
    have split : '\x7b' :: (b ++ ['\x7d']) ++ rest = '\x7b' :: (b ++ '\x7d' :: rest) := by simp
    rw [split, readTree, skipBlanks_mark blank (by decide)]
    split_ifs
    · exact .inr ⟨_, rfl⟩
    · exact accepts_ok
  | @table s inside =>
    have split : '\x7b' :: (s ++ ['\x7d']) ++ rest = '\x7b' :: (s ++ '\x7d' :: rest) := by simp
    obtain ⟨later, first⟩ := inside.head ('\x7d' :: rest)
    rw [split, readTree]
    split_ifs
    · exact .inr ⟨_, rfl⟩
    · split
      · next left closed =>
        rw [first] at closed
        cases closed
      · exact (ih.entries (room - 1) [] s rest inside (by simp at enough; omega)).bind fun es => accepts_ok

theorem accepts_readItems {fuel : Nat} (ih : AcceptsTrees fuel) (room : Nat)
    (read : List (Tree String Value)) (inside : IsItems s) (enough : 2 * s.length ≤ fuel) :
    Accepts rest (readItems room (fuel + 1) read (skipBlanks (s ++ ']' :: rest))) := by
  cases inside with
  | @last b v a before value after =>
    have split : b ++ (v ++ a) ++ ']' :: rest = b ++ (v ++ (a ++ ']' :: rest)) := by simp
    rw [split, value.skipBlanks before, readItems]
    refine (ih.tree room v (a ++ ']' :: rest) value (by simp at enough; omega)
      (ends_blanks after (ends_cons (by simp) _))).bind fun t => ?_
    dsimp only
    rw [skipBlanks_mark after (by decide)]
    exact accepts_ok
  | @more b v a s before value after later =>
    have split : b ++ (v ++ (a ++ ',' :: s)) ++ ']' :: rest =
        b ++ (v ++ (a ++ ',' :: (s ++ ']' :: rest))) := by simp
    rw [split, value.skipBlanks before, readItems]
    refine (ih.tree room v _ value (by simp at enough; omega)
      (ends_blanks after (ends_cons (by simp) _))).bind fun t => ?_
    dsimp only
    rw [skipBlanks_mark after (by decide)]
    exact ih.items room (t :: read) s rest later (by simp at enough; omega)

/-- After the name and the value of an entry, it depends on the next mark what is read. -/
theorem accepts_entry {fuel : Nat} (ih : AcceptsTrees fuel) (room : Nat)
    (read : Table String (Tree String Value)) {key m n tail : List Char} (named : IsBody key)
    (between : m ∈ blanks) (beyond : n ∈ blanks) (value : IsValue v) (shorter : 2 * v.length ≤ fuel)
    (ends : Ends tail)
    (next : skipBlanks tail = '\x7d' :: rest ∨ ∃ later, skipBlanks tail = ',' :: later ∧
      ∀ read, Accepts rest (readEntries room fuel read (skipBlanks later))) :
    Accepts rest (readEntries room (fuel + 1) read
      ('"' :: (key ++ '"' :: (m ++ ':' :: (n ++ (v ++ tail)))))) := by
  obtain ⟨text, found⟩ := exists_readString
    ((key ++ '"' :: (m ++ ':' :: (n ++ (v ++ tail)))).length + 1) named
    (by rw [List.length_append]; omega) [] (m ++ ':' :: (n ++ (v ++ tail)))
  rw [readEntries, found]
  refine accepts_ok.bind fun key => ?_
  dsimp only
  rw [skipBlanks_mark between (by decide)]
  change Accepts rest (readTree room fuel (skipBlanks (n ++ (v ++ tail))) >>= _)
  rw [value.skipBlanks beyond]
  refine (ih.tree room v tail value shorter ends).bind fun t => ?_
  dsimp only
  obtain closed | ⟨later, comma, more⟩ := next
  · rw [closed]
    exact accepts_ok
  · rw [comma]
    exact more _

theorem accepts_readEntries {fuel : Nat} (ih : AcceptsTrees fuel) (room : Nat)
    (read : Table String (Tree String Value)) (inside : IsEntries s) (enough : 2 * s.length ≤ fuel) :
    Accepts rest (readEntries room (fuel + 1) read (skipBlanks (s ++ '\x7d' :: rest))) := by
  cases inside with
  | @last b key m n v a before named between beyond value after =>
    rw [List.append_assoc, List.cons_append, skipBlanks_mark before (by decide)]
    simp only [List.append_assoc, List.cons_append]
    exact accepts_entry ih room read named between beyond value (by simp at enough; omega)
      (ends_blanks after (ends_cons (by simp) _)) (.inl (skipBlanks_mark after (by decide) _))
  | @more b key m n v a s before named between beyond value after later =>
    rw [List.append_assoc, List.cons_append, skipBlanks_mark before (by decide)]
    simp only [List.append_assoc, List.cons_append]
    exact accepts_entry ih room read named between beyond value (by simp at enough; omega)
      (ends_blanks after (ends_cons (by simp) _)) (.inr ⟨_, skipBlanks_mark after (by decide) _,
        fun read => ih.entries room read s rest later (by simp at enough; omega)⟩)

theorem acceptsTrees (fuel : Nat) : AcceptsTrees fuel := by
  induction fuel with
  | zero =>
    constructor
    · intro room v rest value enough ends
      obtain ⟨c, later, rfl, -⟩ := value.head
      simp at enough
    · intro room read s rest inside enough
      simp at enough
    · intro room read s rest inside enough
      simp at enough
  | succ fuel ih =>
    constructor
    · exact fun room v rest value enough ends => accepts_readTree ih room value enough ends
    · exact fun room read s rest inside enough => accepts_readItems ih room read inside (by omega)
    · exact fun room read s rest inside enough => accepts_readEntries ih room read inside (by omega)

end Trees

/-- A text of JSON is read unless it breaks a limit. -/
theorem read_of_isJson {s : List Char} (h : IsJson s) :
    (∃ t, Json.read s = .ok t) ∨ ∃ l, Json.read s = .error (.limit l) := by
  obtain ⟨b, before, v, value, a, after, rfl⟩ := h
  have ends : Ends a := by
    intro c found
    exact .inl (mem_star.mp after c (List.mem_of_mem_head? found))
  have accepts := (acceptsTrees (2 * (b ++ (v ++ a)).length + 2)).tree maxDepth v a value
    (by simp; omega) ends
  have empty : (skipBlanks a).isEmpty := by
    rw [skipBlanks_eq, List.isEmpty_iff, List.dropWhile_eq_nil_iff]
    exact mem_star.mp after
  rw [read_eq, value.skipBlanks before]
  obtain ⟨t, read⟩ | ⟨l, broken⟩ := accepts
  · rw [read]
    exact .inl ⟨t, if_pos empty⟩
  · rw [broken]
    exact .inr ⟨l, rfl⟩

end TemplateEngine.Json
