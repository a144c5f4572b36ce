import TemplateEngine.Proofs.IntegerSpellings
import TemplateEngine.Proofs.NumberForms
import TemplateEngine.Proofs.SettingsFiles
/-!
The place that is reported of a flaw in a settings file. The message of a flaw ends with the place where
reading stopped, but before that it may quote a key of the file, and the key may look like a place. The
first place in the message is the one that is reported.
-/
namespace TemplateEngine

/-! ## Places in a text -/

/-- Decimal digits, one at least. -/
def IsNumeral (s : List Char) : Prop := s ≠ [] ∧ ∀ c ∈ s, Text.isDigit c

def lineMark : List Char := ['a', 't', ' ', 'l', 'i', 'n', 'e', ' ']

def columnMark : List Char := [',', ' ', 'c', 'o', 'l', 'u', 'm', 'n', ' ']

/-- What follows the bracket of a place. -/
def placeBody (line column : List Char) : List Char :=
  lineMark ++ (line ++ (columnMark ++ (column ++ [')'])))

/-- A place in brackets. -/
def placeText (line column : List Char) : List Char := '(' :: placeBody line column

/-- A text names a place after its first part. -/
def NamesAfter (s before line column : List Char) : Prop :=
  IsNumeral line ∧ IsNumeral column ∧ ∃ after, s = before ++ (placeText line column ++ after)

/-- The place that a text names first. -/
def NamesFirst (s line column : List Char) : Prop :=
  ∃ before, NamesAfter s before line column ∧
    ∀ earlier l c, NamesAfter s earlier l c → before.length ≤ earlier.length

section Reading

variable {s line column : List Char}

/-- No bracket is opened inside a place. -/
theorem bracket_not_mem_placeBody (hl : IsNumeral line) (hc : IsNumeral column) :
    '(' ∉ placeBody line column := by
  have mark : Text.isDigit '(' = false := by decide
  have unspelled {digits : List Char} (numeral : IsNumeral digits) : '(' ∉ digits := by
    intro inside
    rw [numeral.2 '(' inside] at mark
    cases mark
  simp only [placeBody, List.mem_append, not_or]
  exact ⟨by decide, unspelled hl, by decide, unspelled hc, by decide⟩

theorem leadingDigits?_eq_some_iff {digits rest : List Char} :
    leadingDigits? s = some (digits, rest) ↔
      IsNumeral digits ∧ s = digits ++ rest ∧ ∀ c ∈ rest.head?, Text.isDigit c = false := by
  have parts : s.takeWhile Text.isDigit ++ s.dropWhile Text.isDigit = s :=
    List.takeWhile_append_dropWhile
  have ends := List.head?_dropWhile_not Text.isDigit s
  unfold leadingDigits?
  simp only [Option.ite_none_left_eq_some, Option.some.injEq, Prod.mk.injEq]
  constructor
  · intro ⟨filled, taken, dropped⟩
    subst taken dropped
    refine ⟨⟨by simpa using filled, Literal.takeWhile_all _ _⟩, parts.symm, ?_⟩
    intro c first
    rwa [Option.mem_def.mp first] at ends
  · intro ⟨numeral, split, apart⟩
    subst split
    obtain ⟨taken, dropped⟩ := Literal.run_cut numeral.2 apart
    rw [taken, dropped]
    exact ⟨by simpa using numeral.1, rfl, rfl⟩

/-- A mark after digits ends them. -/
theorem leadingDigits?_append {digits : List Char} (numeral : IsNumeral digits) {mark : Char}
    (other : Text.isDigit mark = false) (rest : List Char) :
    leadingDigits? (digits ++ mark :: rest) = some (digits, mark :: rest) :=
  leadingDigits?_eq_some_iff.mpr ⟨numeral, rfl, by simp [other]⟩

theorem placeAtFront?_eq_some_iff :
    placeAtFront? s = some (line, column) ↔ NamesAfter s [] line column := by
  have opening : "(at line ".toList = '(' :: lineMark := by decide
  have middle : ", column ".toList = columnMark := by decide
  simp only [placeAtFront?, opening, middle, Option.bind_eq_bind, Option.bind_eq_some_iff,
    Prod.exists, Text.dropPrefix?_eq_some_iff, Option.pure_def, Option.some.injEq, Prod.mk.injEq]
  constructor
  · intro read
    obtain ⟨s₁, opened, l, s₂, first, s₃, comma, c, s₄, second, after, closed, rfl, rfl⟩ := read
    obtain ⟨hl, split, -⟩ := leadingDigits?_eq_some_iff.mp first
    obtain ⟨hc, split', -⟩ := leadingDigits?_eq_some_iff.mp second
    refine ⟨hl, hc, after, ?_⟩
    rw [opened, split, comma, split', closed]
    simp [placeText, placeBody]
  · intro named
    obtain ⟨hl, hc, after, whole⟩ := named
    have comma : Text.isDigit ',' = false := by decide
    have bracket : Text.isDigit ')' = false := by decide
    refine ⟨line ++ (columnMark ++ (column ++ ')' :: after)), ?_, line, _,
      leadingDigits?_append hl comma _, _, rfl, column, _,
      leadingDigits?_append hc bracket _, after, rfl, rfl, rfl⟩
    simp [whole, placeText, placeBody]

theorem namesAfter_nil (s line column : List Char) :
    ¬NamesAfter [] s line column := by
  intro named
  obtain ⟨-, -, after, whole⟩ := named
  simp [placeText] at whole

theorem namesAfter_cons {a b : Char} {before : List Char} :
    NamesAfter (a :: s) (b :: before) line column ↔ a = b ∧ NamesAfter s before line column := by
  simp only [NamesAfter, List.cons_append, List.cons.injEq]
  constructor
  · intro named
    obtain ⟨hl, hc, after, same, whole⟩ := named
    exact ⟨same, hl, hc, after, whole⟩
  · intro named
    obtain ⟨same, hl, hc, after, whole⟩ := named
    exact ⟨hl, hc, after, same, whole⟩

/-- The first place is the one at the front, or else the first one after the first character. -/
theorem namesFirst_cons {a : Char} : NamesFirst (a :: s) line column ↔
    NamesAfter (a :: s) [] line column ∨
      (∀ l c, ¬NamesAfter (a :: s) [] l c) ∧ NamesFirst s line column := by
  constructor
  · intro named
    obtain ⟨before, there, least⟩ := named
    cases before with
    | nil => exact .inl there
    | cons b before =>
      obtain ⟨rfl, later⟩ := namesAfter_cons.mp there
      refine .inr ⟨fun l c front => ?_, before, later, fun earlier l c named => ?_⟩
      · exact absurd (least [] l c front) (Nat.not_succ_le_zero _)
      · exact Nat.le_of_succ_le_succ (least (a :: earlier) l c (namesAfter_cons.mpr ⟨rfl, named⟩))
  · intro named
    cases named with
    | inl front => exact ⟨[], front, fun earlier l c _ => Nat.zero_le _⟩
    | inr later =>
      obtain ⟨unnamed, before, there, least⟩ := later
      refine ⟨a :: before, namesAfter_cons.mpr ⟨rfl, there⟩, fun earlier l c named => ?_⟩
      cases earlier with
      | nil => exact absurd named (unnamed l c)
      | cons b earlier =>
        obtain ⟨-, named⟩ := namesAfter_cons.mp named
        exact Nat.succ_le_succ (least earlier l c named)

theorem placeIn?_eq_some_iff : placeIn? s = some (line, column) ↔ NamesFirst s line column := by
  induction s with
  | nil =>
    refine iff_of_false (by simp [placeIn?]) fun named => ?_
    obtain ⟨before, there, -⟩ := named
    exact namesAfter_nil _ _ _ there
  | cons a s ih =>
    rw [placeIn?, namesFirst_cons, ← ih]
    cases front : placeAtFront? (a :: s) with
    | some place =>
      have there : NamesAfter (a :: s) [] place.1 place.2 := placeAtFront?_eq_some_iff.mp front
      have unnamed : ¬∀ l c, ¬NamesAfter (a :: s) [] l c := fun none => none _ _ there
      rw [← placeAtFront?_eq_some_iff, front]
      simp [unnamed]
    | none =>
      have unnamed (l c : List Char) : ¬NamesAfter (a :: s) [] l c := by
        rw [← placeAtFront?_eq_some_iff, front]
        simp
      simp [unnamed]

/-- A place is named somewhere exactly if one is named first. -/
theorem placeIn?_eq_none_iff :
    placeIn? s = none ↔ ∀ before l c, ¬NamesAfter s before l c := by
  induction s with
  | nil => exact iff_of_true rfl fun before l c => namesAfter_nil before l c
  | cons a s ih =>
    have front : placeIn? (a :: s) = none ↔ placeAtFront? (a :: s) = none ∧ placeIn? s = none := by
      rw [placeIn?]
      cases placeAtFront? (a :: s) <;> simp
    rw [front, ih, Option.eq_none_iff_forall_ne_some]
    constructor
    · intro none before l c named
      obtain ⟨front, later⟩ := none
      cases before with
      | nil => exact front (l, c) (placeAtFront?_eq_some_iff.mpr named)
      | cons b before => exact later before l c (namesAfter_cons.mp named).2
    · intro none
      refine ⟨fun place front => ?_, fun before l c named => ?_⟩
      · exact none [] _ _ (placeAtFront?_eq_some_iff.mp front)
      · exact none (a :: before) l c (namesAfter_cons.mpr ⟨rfl, named⟩)

/-! ## A place at the end -/

/-- A place at the front does not reach into a bracket that follows a blank. -/
theorem namesAfter_front_blank {m after : List Char} :
    NamesAfter (m ++ ' ' :: '(' :: after) [] line column ↔ NamesAfter m [] line column := by
  constructor
  · intro named
    obtain ⟨hl, hc, rest, whole⟩ := named
    have unopened := bracket_not_mem_placeBody hl hc
    rw [List.nil_append] at whole
    refine ⟨hl, hc, ?_⟩
    obtain ⟨inner, split, left⟩ | ⟨inner, split, -⟩ := List.append_eq_append_iff.mp whole
    · cases inner with
      | nil => exact ⟨[], by simpa using split.symm⟩
      | cons blank inner =>
        obtain ⟨rfl, opened⟩ := List.cons.inj left
        cases inner with
        | nil =>
          -- The blank would be the last character of the place, which is a bracket.
          have last := congrArg List.getLast? split
          simp [placeText, placeBody, List.getLast?_cons, List.getLast?_append] at last
        | cons bracket inner =>
          obtain ⟨rfl, -⟩ := List.cons.inj opened
          cases m with
          | nil => cases split
          | cons first m =>
            have body : placeBody line column = m ++ ' ' :: '(' :: inner := (List.cons.inj split).2
            exact absurd (by simp [body]) unopened
    · exact ⟨inner, by simpa using split⟩
  · intro named
    obtain ⟨hl, hc, rest, whole⟩ := named
    exact ⟨hl, hc, rest ++ ' ' :: '(' :: after, by simp [whole]⟩

theorem placeAtFront?_blank (m after : List Char) :
    placeAtFront? (m ++ ' ' :: '(' :: after) = placeAtFront? m := by
  ext place
  exact placeAtFront?_eq_some_iff.trans
    (namesAfter_front_blank.trans placeAtFront?_eq_some_iff.symm)

/-- The place at the end of a text is the first one only if none is named before. -/
theorem placeIn?_append_place (m : List Char) (hl : IsNumeral line) (hc : IsNumeral column) :
    placeIn? (m ++ ' ' :: placeText line column) =
      (placeIn? m).orElse fun _ => some (line, column) := by
  induction m with
  | nil =>
    have front : placeAtFront? (placeText line column) = some (line, column) :=
      placeAtFront?_eq_some_iff.mpr ⟨hl, hc, [], by simp⟩
    have blank : placeAtFront? (' ' :: placeText line column) = none :=
      placeAtFront?_blank [] (placeBody line column)
    rw [List.nil_append, placeIn?, placeIn?, blank, placeText, placeIn?, ← placeText, front]
    rfl
  | cons a m ih =>
    rw [List.cons_append, placeIn?, placeIn?, ih, ← List.cons_append, placeText,
      placeAtFront?_blank (a :: m)]
    cases placeAtFront? (a :: m) <;> rfl

/-- Two texts that end with a bracket, nothing in which opens another one, are the same up to the
bracket and in it. -/
theorem append_bracket_inj {a b s t : List Char} (hs : '(' ∉ s) (ht : '(' ∉ t)
    (same : a ++ '(' :: s = b ++ '(' :: t) : a = b ∧ s = t := by
  induction a generalizing b with
  | nil =>
    cases b with
    | nil => exact ⟨rfl, (List.cons.inj same).2⟩
    | cons c b => exact absurd ((List.cons.inj same).2 ▸ by simp) hs
  | cons c a ih =>
    cases b with
    | nil => exact absurd ((List.cons.inj same).2 ▸ by simp) ht
    | cons d b =>
      obtain ⟨rfl, inner⟩ := List.cons.inj same
      obtain ⟨rfl, rfl⟩ := ih inner
      exact ⟨rfl, rfl⟩

theorem placeBody_inj {l c l' c' : List Char} (hl : IsNumeral l) (hc : IsNumeral c)
    (hl' : IsNumeral l') (hc' : IsNumeral c') (same : placeBody l c = placeBody l' c') :
    l = l' ∧ c = c' := by
  have comma : Text.isDigit ',' = false := by decide
  have bracket : Text.isDigit ')' = false := by decide
  have lines := congrArg leadingDigits? (List.append_cancel_left same)
  simp only [columnMark, List.cons_append, leadingDigits?_append hl comma,
    leadingDigits?_append hl' comma] at lines
  obtain ⟨rfl, rest⟩ := Prod.mk.inj (Option.some.inj lines)
  have columns := congrArg leadingDigits? ((List.append_right_inj columnMark).mp rest)
  rw [leadingDigits?_append hc bracket, leadingDigits?_append hc' bracket] at columns
  exact ⟨rfl, (Prod.mk.inj (Option.some.inj columns)).1⟩

end Reading

/-! ## What is reported -/

/-- The place that the reader of a document puts at the end of a message. -/
def placeSuffix (line column : Nat) : String :=
  " (at line " ++ Text.writeBase 10 line ++ ", column " ++ Text.writeBase 10 column ++ ")"

theorem isNumeral_toDigits (n : Nat) : IsNumeral (Nat.toDigits 10 n) := by
  refine ⟨Nat.toDigits_ne_nil, fun c inside => ?_⟩
  obtain ⟨d, small, rfl⟩ := Text.mem_toDigits (by decide) inside
  rw [Text.isDigit, Text.digit?_digitChar d small]
  rfl

theorem toList_placeSuffix (line column : Nat) : (placeSuffix line column).toList =
    ' ' :: placeText (Nat.toDigits 10 line) (Nat.toDigits 10 column) := by
  have opening : " (at line ".toList = ' ' :: '(' :: lineMark := by decide
  have middle : ", column ".toList = columnMark := by decide
  have closing : ")".toList = [')'] := by decide
  simp only [placeSuffix, String.toList_append, opening, middle, closing,
    Text.toList_writeBase (by decide : 1 < 10) (by decide), placeText, placeBody]
  simp

theorem readNatural_toDigits {n : Nat} (small : n < 10 ^ maxIntegerDigits) :
    readNatural (Nat.toDigits 10 n) = .ok n := by
  have short : (Nat.toDigits 10 n).length ≤ maxIntegerDigits :=
    (Nat.length_toDigits_le_iff (by decide) (by decide)).mpr small
  rw [readNatural_of_short short, Text.readDecimal_toDigits]

/-- A message with a place at its end, cut at the bracket of that place. -/
theorem toList_append_placeSuffix (m : String) (line column : Nat) :
    (m ++ placeSuffix line column).toList =
      (m.toList ++ [' ']) ++ '(' :: placeBody (Nat.toDigits 10 line) (Nat.toDigits 10 column) := by
  rw [String.toList_append, toList_placeSuffix, placeText, List.append_cons]

/-- The place at the end of a message is the one where reading stopped. -/
theorem position_of_message {document rest : List Char} {what m : String} {line column : Nat}
    (told : m ++ placeSuffix line column = Toml.showFlaw document what rest) :
    rest ≠ [] ∧ Toml.position (document.take (document.length - rest.length)) = (line, column) := by
  have unopened := bracket_not_mem_placeBody (isNumeral_toDigits line) (isNumeral_toDigits column)
  have spelled := congrArg String.toList told
  rw [toList_append_placeSuffix] at spelled
  cases rest with
  | nil =>
    have ending : (Toml.showFlaw document what []).toList =
        (what.toList ++ [' ']) ++ '(' :: "at end of document)".toList := by
      simp [Toml.showFlaw, Toml.showPlace]
    rw [ending] at spelled
    have bodies := (append_bracket_inj unopened (by decide) spelled).2
    have fourth := congrArg (·[3]?) bodies
    simp [placeBody, lineMark] at fourth
  | cons c rest =>
    refine ⟨List.cons_ne_nil c rest, ?_⟩
    obtain ⟨line', column', stopped⟩ : ∃ line' column', Toml.position
      (document.take (document.length - (c :: rest).length)) = (line', column') := ⟨_, _, rfl⟩
    have shown : Toml.showFlaw document what (c :: rest) = what ++ placeSuffix line' column' := by
      have opening : " (at line " = " (at " ++ "line " := by decide
      simp only [Toml.showFlaw, Toml.showPlace, stopped, List.isEmpty_cons, Bool.false_eq_true,
        if_false, placeSuffix]
      rw [opening]
      simp only [String.append_assoc]
    rw [shown, toList_append_placeSuffix] at spelled
    have unopened' := bracket_not_mem_placeBody (isNumeral_toDigits line') (isNumeral_toDigits column')
    have bodies := (append_bracket_inj unopened unopened' spelled).2
    obtain ⟨lines, columns⟩ := placeBody_inj (isNumeral_toDigits line) (isNumeral_toDigits column)
      (isNumeral_toDigits line') (isNumeral_toDigits column') bodies
    have number {n n' : Nat} (same : Nat.toDigits 10 n = Nat.toDigits 10 n') : n = n' := by
      rw [← Text.readDecimal_toDigits n, same, Text.readDecimal_toDigits]
    rw [stopped, number lines, number columns]

variable {path : String}

theorem readSettingsFile_of_malformed {f : Folder} {bytes : List UInt8} {text message : String}
    (there : f.read path = .ok bytes)
    (encoded : bytes.toByteArray = text.toUTF8)
    (failed : Toml.read text = .error (.malformed message)) :
    readSettingsFile f path = .error (flawFault path message) := by
  have decoded : Text.Utf8.decode bytes = .ok text := Text.Utf8.decode_eq_ok.mpr encoded
  simp only [readSettingsFile, there, bind, Except.bind, decoded, failed]

theorem flawFault_of_place {message : String} {line column : List Char} {l c : Nat}
    (named : placeIn? message.toList = some (line, column)) (lines : readNatural line = .ok l)
    (columns : readNatural column = .ok c) : flawFault path message =
      .configLoad ("Failed to parse TOML file: " ++ message) (normalPath path) (some (l, c)) := by
  rw [flawFault, reportedPlace_of_some named, lines, columns]
  rfl

/-- A flaw is told with a message that ends with the place where reading stopped. If the message names
no place before that one, this place is reported; and otherwise the first place that the message names,
whatever it stands for, or, if a number of that place has too many digits to be read, the fault of the
number. A file is refused with what is so reported of the flaw of its document. -/
theorem reported_place (path m : String) (line column : Nat) :
    let message := m ++ placeSuffix line column
    let reported (place : Nat × Nat) : Fault :=
      .configLoad ("Failed to parse TOML file: " ++ message) (normalPath path) (some place)
    ((∀ before l c, ¬NamesAfter m.toList before l c) → line < 10 ^ maxIntegerDigits →
      column < 10 ^ maxIntegerDigits → flawFault path message = reported (line, column)) ∧
    (∀ l c, NamesFirst m.toList l c →
      (l.length ≤ maxIntegerDigits → c.length ≤ maxIntegerDigits →
        flawFault path message = reported (Text.readDecimal l, Text.readDecimal c)) ∧
      (maxIntegerDigits < l.length → flawFault path message = .numeral (.tooManyDigits l.length)) ∧
      (l.length ≤ maxIntegerDigits → maxIntegerDigits < c.length →
        flawFault path message = .numeral (.tooManyDigits c.length))) ∧
    ∀ (f : Folder) (bytes : List UInt8) (text : String), f.read path = .ok bytes →
      bytes.toByteArray = text.toUTF8 → Toml.read text = .error (.malformed message) →
        let document := Toml.unifyLineEnds text.toList
        readSettingsFile f path = .error (flawFault path message) ∧
        ∃ rest, rest <:+ document ∧ rest ≠ [] ∧
          Toml.position (document.take (document.length - rest.length)) = (line, column) := by
  intro message reported
  have ending : placeIn? message.toList =
      (placeIn? m.toList).orElse fun _ => some (Nat.toDigits 10 line, Nat.toDigits 10 column) := by
    rw [String.toList_append, toList_placeSuffix,
      placeIn?_append_place m.toList (isNumeral_toDigits line) (isNumeral_toDigits column)]
  refine ⟨?_, ?_, ?_⟩
  · intro unnamed lines columns
    rw [placeIn?_eq_none_iff.mpr unnamed] at ending
    exact flawFault_of_place ending (readNatural_toDigits lines) (readNatural_toDigits columns)
  · intro l c named
    rw [placeIn?_eq_some_iff.mpr named] at ending
    refine ⟨fun lines columns => ?_, fun long => ?_, fun lines long => ?_⟩
    · exact flawFault_of_place ending (readNatural_of_short lines) (readNatural_of_short columns)
    · rw [flawFault, reportedPlace_of_some ending, readNatural_of_long long]
      rfl
    · rw [flawFault, reportedPlace_of_some ending, readNatural_of_short lines,
        readNatural_of_long long]
      rfl
  · intro f bytes text there encoded failed
    obtain ⟨what, rest, inside, told⟩ := Toml.read_error failed
    exact ⟨readSettingsFile_of_malformed there encoded failed, rest, inside, position_of_message told⟩

/-! ## A key that looks like a place -/

namespace Toml

variable {d : Draft} {s rest : List Char} {path : Path}

/-- A bracket begins the name of a table. -/
theorem readStatement_square (unlisted : s.head? ≠ some '[') :
    d.readStatement ('[' :: s) = d.finish.openTable s := by
  unfold Draft.readStatement
  split
  · next same =>
    rw [(List.cons.inj same).2] at unlisted
    exact absurd rfl unlisted
  · next same => rw [(List.cons.inj same).2]
  · next same => cases (List.cons.inj same).1
  · next square _ same => exact absurd (List.cons.inj same).1.symm square
  · next same => cases same

/-- After a line that opens a table the next one is read. -/
theorem readLines_square {d' : Draft} (fuel : Nat) (unlisted : s.head? ≠ some '[')
    (read : d.finish.openTable s = .ok (d', '\n' :: rest)) :
    d.readLines (fuel + 1) ('[' :: s) = d'.readLines fuel rest := by
  rw [Draft.readLines, List.dropWhile_cons_of_neg (by decide)]
  split
  · next same => cases same
  · next same => cases same
  · rw [readStatement_square unlisted, read]
    rfl

/-- No line is read after a table that is refused. -/
theorem readLines_square_error {f : Flaw} (fuel : Nat) (unlisted : s.head? ≠ some '[')
    (refused : d.finish.openTable s = .error f) : d.readLines (fuel + 1) ('[' :: s) = .error f := by
  rw [Draft.readLines, List.dropWhile_cons_of_neg (by decide)]
  split
  · next same => cases same
  · next same => cases same
  · rw [readStatement_square unlisted, refused]
    rfl

/-- A table that is opened for the first time. -/
theorem openTable_new {entries : Entries}
    (named : readPath (s.length + 1) (s.dropWhile isBlank) = .ok (path, ']' :: rest))
    (unopened : (d.opened.contains path || isFrozen d.frozen path) = false)
    (opened : changeAt true .ok path d.entries = .ok entries) :
    d.openTable s =
      .ok ({ d with entries := entries, header := path, opened := path :: d.opened }, rest) := by
  simp only [Draft.openTable, named, bind, Except.bind, unopened, opened, liftObstacle]
  rfl

/-- A table that is opened a second time is refused with its name. -/
theorem openTable_again (named : readPath (s.length + 1) (s.dropWhile isBlank) = .ok (path, rest))
    (opened : d.opened.contains path = true) :
    d.openTable s = flawed ("Cannot declare " ++ showPath path ++ " twice") rest := by
  simp only [Draft.openTable, named, bind, Except.bind, opened, Bool.true_or]
  rfl

/-- A first key gets a table of its own. -/
theorem changeAt_new (key : String) :
    changeAt true .ok [key] [] = .ok [(key, .table [])] := by
  rw [changeAt, Table.get?]
  dsimp only
  rw [changeAt]
  rfl

/-- A table that is opened twice, whose name looks like a place. -/
def repeatedTable : String := "['(at line 9, column 8)']\n['(at line 9, column 8)']"

/-- The name of the table, as a message quotes it. -/
def repeatedName : String := "Cannot declare ('(at line 9, column 8)',) twice"

theorem read_repeatedTable :
    read repeatedTable = .error (.malformed (repeatedName ++ placeSuffix 2 25)) := by
  let table := "'(at line 9, column 8)']".toList
  let key := "(at line 9, column 8)"
  have document : unifyLineEnds repeatedTable.toList = '[' :: (table ++ '\n' :: '[' :: table) := by
    decide
  have opened : Draft.empty.finish.openTable (table ++ '\n' :: '[' :: table) =
      .ok (⟨[(key, .table [])], [key], [[key]], [], []⟩, '\n' :: '[' :: table) := by
    have named : readPath ((table ++ '\n' :: '[' :: table).length + 1)
        ((table ++ '\n' :: '[' :: table).dropWhile isBlank) =
        .ok ([key], ']' :: '\n' :: '[' :: table) := by decide
    exact openTable_new named rfl (changeAt_new key)
  have again : Draft.openTable ⟨[(key, .table [])], [key], [[key]], [], []⟩ table =
      flawed repeatedName [']'] := by
    have named : readPath (table.length + 1) (table.dropWhile isBlank) =
        .ok ([key], [']']) := by decide
    have told : "Cannot declare " ++ showPath [key] ++ " twice" = repeatedName := by decide
    rw [openTable_again named rfl, told]
  have shown : showFlaw ('[' :: (table ++ '\n' :: '[' :: table)) repeatedName [']'] =
      repeatedName ++ placeSuffix 2 25 := by decide
  have lines : Draft.empty.readLines (('[' :: (table ++ '\n' :: '[' :: table)).length + 1)
      ('[' :: (table ++ '\n' :: '[' :: table)) = flawed repeatedName [']'] := by
    rw [readLines_square _ (by decide) opened]
    exact readLines_square_error _ (by decide) again
  simp only [read, document, lines, flawed, shown]

end Toml

open Toml in
/-- The file with that document is refused with the place that the name of the table looks like. -/
theorem reported_place_quoted :
    let f : Folder := Folder.write [] "sightly.toml" repeatedTable.toUTF8.toList
    f.read "sightly.toml" = .ok repeatedTable.toUTF8.toList ∧
      read repeatedTable = .error (.malformed (repeatedName ++ placeSuffix 2 25)) ∧
      NamesFirst repeatedName.toList ['9'] ['8'] ∧
      readSettingsFile f "sightly.toml" = .error (.configLoad
        ("Failed to parse TOML file: " ++ (repeatedName ++ placeSuffix 2 25)) "sightly.toml"
        (some (9, 8))) := by
  intro f
  have there : f.read "sightly.toml" = .ok repeatedTable.toUTF8.toList := by decide +kernel
  have encoded : repeatedTable.toUTF8.toList.toByteArray = repeatedTable.toUTF8 := by decide +kernel
  have first : NamesFirst repeatedName.toList ['9'] ['8'] :=
    placeIn?_eq_some_iff.mp (by decide)
  have shown : normalPath "sightly.toml" = "sightly.toml" := by decide
  obtain ⟨-, named, refused⟩ := reported_place "sightly.toml" repeatedName 2 25
  refine ⟨there, read_repeatedTable, first, ?_⟩
  rw [(refused f _ _ there encoded read_repeatedTable).1,
    (named _ _ first).1 (by decide) (by decide), shown]
  rfl

end TemplateEngine
