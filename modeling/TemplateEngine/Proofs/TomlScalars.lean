import TemplateEngine.Toml.Document
import Mathlib.Data.List.Infix
import Mathlib.Tactic.SplitIfs
/-!
What the reading of a TOML document leaves of it, and what its failures say about it: a flaw of grammar
is at a place in the document, a number is refused only for a run of too many digits, and values are
too deep inside each other only where there are that many brackets. Here for what stands in a single
value.
-/
namespace TemplateEngine.Toml

/-- A run of decimal digits with underscores among them, of more digits than an integer may have. -/
structure TooLong (run : List Char) : Prop where
  digits : ∀ c ∈ run, isAsciiDigit c ∨ c = '_'
  long : maxIntegerDigits < run.countP isAsciiDigit

/-- The room that the brackets of a text take up at most. -/
def bracketRoom (s : List Char) : Nat := arrayRoom * s.count '[' + inlineRoom * s.count '{'

/-- What a flaw says about the text that it was found in. -/
def Flaw.Fits (room : Nat) (s : List Char) : Flaw → Prop
  | .malformed _ rest => rest <:+ s
  | .number e => ∃ run, run <:+: s ∧ TooLong run ∧ e = .tooManyDigits (run.countP isAsciiDigit)
  | .depth => room < bracketRoom s

/-- A step in the reading of a text: either its outcome is as expected, or its flaw is one of the
text. -/
def Sound {α : Type} (room : Nat) (s : List Char) (expected : α → Prop) : Except Flaw α → Prop
  | .ok a => expected a
  | .error f => f.Fits room s

/-- A step that takes something off the front of a text. -/
def Reads {α : Type} (room : Nat) (s : List Char) (x : Except Flaw (Reading α)) : Prop :=
  Sound room s (fun found => found.2 <:+ s) x

section Steps

variable {α β : Type} {room : Nat} {s t : List Char}

theorem bracketRoom_mono (part : t <:+ s) : bracketRoom t ≤ bracketRoom s := by
  have squares := part.sublist.count_le '['
  have braces := part.sublist.count_le '{'
  unfold bracketRoom
  exact Nat.add_le_add (Nat.mul_le_mul_left _ squares) (Nat.mul_le_mul_left _ braces)

theorem Flaw.Fits.mono {f : Flaw} (h : f.Fits room t) (part : t <:+ s) : f.Fits room s := by
  cases f with
  | malformed text rest => exact h.trans part
  | number e =>
    obtain ⟨run, inside, rest⟩ := h
    exact ⟨run, inside.trans part.isInfix, rest⟩
  | depth => exact Nat.lt_of_lt_of_le h (bracketRoom_mono part)

theorem sound_flawed {P : α → Prop} {text : String} (part : t <:+ s) :
    Sound room s P (flawed text t : Except Flaw α) := part

theorem Sound.bind {P : α → Prop} {Q : β → Prop} {x : Except Flaw α} {f : α → Except Flaw β}
    (first : Sound room s P x) (second : ∀ a, P a → Sound room s Q (f a)) :
    Sound room s Q (x >>= f) := by
  cases x with
  | ok a => exact second a first
  | error f => exact first

theorem Sound.imp {P Q : α → Prop} {x : Except Flaw α} (h : Sound room t P x) (part : t <:+ s)
    (weaker : ∀ a, P a → Q a) : Sound room s Q x := by
  cases x with
  | ok a => exact weaker a h
  | error f => exact h.mono part

theorem Reads.mono {x : Except Flaw (Reading α)} (h : Reads room t x) (part : t <:+ s) :
    Reads room s x :=
  h.imp part fun _ left => left.trans part

theorem reads_ok {a : α} (part : t <:+ s) : Reads room s (.ok (a, t)) := part

theorem reads_flawed {text : String} (part : t <:+ s) :
    Reads room s (flawed text t : Except Flaw (Reading α)) := part

/-- What is left after the first step is the text of the second. -/
theorem Reads.bind {x : Except Flaw (Reading α)} {f : Reading α → Except Flaw (Reading β)}
    (first : Reads room s x) (second : ∀ a rest, rest <:+ s → Reads room s (f (a, rest))) :
    Reads room s (x >>= f) :=
  Sound.bind first fun (a, rest) left => second a rest left

theorem suffix_tail {c : Char} {rest : List Char} (part : c :: rest <:+ s) : rest <:+ s :=
  (List.suffix_cons c rest).trans part

theorem suffix_dropWhile (p : Char → Bool) (part : t <:+ s) : t.dropWhile p <:+ s :=
  (List.dropWhile_suffix p).trans part

theorem suffix_drop (n : Nat) (part : t <:+ s) : t.drop n <:+ s := (List.drop_suffix n t).trans part

end Steps

section Texts

variable {room : Nat} {s t : List Char}

theorem sound_refuse (illegal : Char → Bool) (part s : List Char) :
    Sound room s (fun _ => True) (refuse illegal part s) := by
  unfold refuse
  split
  · exact sound_flawed (List.dropWhile_suffix _)
  · trivial

theorem suffix_of_splitBefore? {pat before rest : List Char}
    (cut : splitBefore? pat s = some (before, rest)) : rest <:+ s := by
  induction s generalizing before with
  | nil =>
    rw [splitBefore?] at cut
    split at cut <;> cases cut
    exact List.suffix_refl _
  | cons c s ih =>
    rw [splitBefore?] at cut
    split at cut
    · cases cut
      exact List.suffix_refl _
    · obtain ⟨⟨before, rest⟩, found, same⟩ := Option.map_eq_some_iff.mp cut
      cases same
      exact (ih found).trans (List.suffix_cons c s)

theorem reads_literalText (close : List Char) (illegal : Char → Bool) (s : List Char) :
    Reads room s (literalText close illegal s) := by
  unfold literalText
  cases cut : splitBefore? close s with
  | none => exact reads_flawed List.nil_suffix
  | some found =>
    obtain ⟨body, rest⟩ := found
    exact (sound_refuse illegal body s).bind fun _ _ =>
      reads_ok (suffix_drop _ (suffix_of_splitBefore? cut))

theorem reads_hexCharacter (width : Nat) (s : List Char) : Reads room s (hexCharacter width s) := by
  simp only [hexCharacter]
  split_ifs
  · exact reads_flawed (List.suffix_refl s)
  · exact reads_ok (List.drop_suffix _ _)
  · exact reads_flawed (List.drop_suffix _ _)

theorem reads_escape (inLines : Bool) (s : List Char) : Reads room s (escape inLines s) := by
  unfold escape
  cases s with
  | nil => exact reads_flawed (List.suffix_refl _)
  | cons mark rest =>
    have left : rest <:+ mark :: rest := List.suffix_cons mark rest
    dsimp only
    split_ifs
    · exact reads_ok (suffix_dropWhile _ left)
    · split
      · exact reads_ok List.nil_suffix
      · next rest' blank =>
        have after : '\n' :: rest' <:+ mark :: rest := blank ▸ suffix_dropWhile isBlank left
        exact reads_ok (suffix_dropWhile _ (suffix_tail after))
      · exact reads_flawed (suffix_dropWhile _ left)
    · exact (reads_hexCharacter 4 rest).mono left
    · exact (reads_hexCharacter 8 rest).mono left
    · split
      · exact reads_ok left
      · exact reads_flawed left

theorem reads_basicText (inLines : Bool) (fuel : Nat) (read s : List Char) :
    Reads room s (basicText inLines fuel read s) := by
  induction fuel generalizing read s with
  | zero => exact reads_flawed (List.suffix_refl s)
  | succ fuel ih =>
    unfold basicText
    split
    · exact reads_flawed (List.suffix_refl _)
    · next rest =>
      have left : rest <:+ '\\' :: rest := List.suffix_cons _ rest
      exact ((reads_escape inLines rest).mono left).bind fun part after later =>
        (ih _ after).mono later
    · next c rest _ =>
      have left : rest <:+ c :: rest := List.suffix_cons c rest
      split
      · exact reads_ok left
      split
      · exact reads_ok (suffix_drop 2 left)
      -- Which characters are refused depends on the kind of text.
      generalize (if inLines then isControlInLines c else isControl c) = refused
      cases refused with
      | true => exact reads_flawed (List.suffix_refl _)
      | false => exact (ih _ rest).mono left

theorem suffix_trailingQuotes (quote : Char) (body rest : List Char) :
    (trailingQuotes quote body rest).2 <:+ rest := by
  unfold trailingQuotes
  split
  · next a rest =>
    have left : rest <:+ a :: rest := List.suffix_cons a rest
    split
    · split
      · split
        · exact suffix_tail left
        · exact left
      · exact left
    · exact List.suffix_refl _
  · exact List.suffix_refl _

theorem suffix_dropNewline (s : List Char) : dropNewline s <:+ s := by
  unfold dropNewline
  split
  · exact List.suffix_cons _ _
  · exact List.suffix_refl _

theorem reads_lineText (s : List Char) :
    Reads room s (basicText false (s.length + 1) [] (s.drop 1)) :=
  (reads_basicText false _ [] _).mono (List.drop_suffix 1 s)

theorem reads_readText (s : List Char) : Reads room s (readText s) := by
  simp only [readText]
  split
  · next rest =>
    have left : dropNewline rest <:+ '"' :: '"' :: '"' :: rest :=
      (suffix_dropNewline rest).trans (suffix_tail (suffix_tail (List.suffix_cons _ _)))
    exact ((reads_basicText true _ [] _).mono left).bind fun body rest left =>
      reads_ok ((suffix_trailingQuotes '"' body rest).trans left)
  · next rest =>
    have left : dropNewline rest <:+ '\'' :: '\'' :: '\'' :: rest :=
      (suffix_dropNewline rest).trans (suffix_tail (suffix_tail (List.suffix_cons _ _)))
    exact ((reads_literalText _ _ _).mono left).bind fun body rest left =>
      reads_ok ((suffix_trailingQuotes '\'' body rest).trans left)
  · exact ((reads_literalText _ _ _).mono (List.suffix_cons _ _)).bind fun _ _ left => reads_ok left
  · exact (reads_lineText s).bind fun _ _ left => reads_ok left

theorem reads_readLineText (s : List Char) : Reads room s (readLineText s) := by
  simp only [readLineText]
  split
  · exact ((reads_literalText _ _ _).mono (List.suffix_cons _ _)).bind fun _ _ left => reads_ok left
  · exact (reads_lineText s).bind fun _ _ left => reads_ok left

end Texts

section Values

variable {α : Type} {room : Nat} {s rest : List Char}

theorem suffix_of_fixedNumber? {width low high : Nat} {n : Int}
    (read : fixedNumber? width low high s = some (n, rest)) : rest <:+ s := by
  simp only [fixedNumber?] at read
  split at read <;> cases read
  exact List.drop_suffix _ _

theorem suffix_of_expect? {c : Char} (read : expect? c s = some rest) : rest <:+ s := by
  unfold expect? at read
  split at read
  · split at read <;> cases read
    exact List.suffix_cons _ _
  · cases read

theorem suffix_millionths (s : List Char) : (millionths s).2 <:+ s := by
  unfold millionths
  split
  · next rest =>
    dsimp only
    split
    · exact List.suffix_refl _
    · exact suffix_dropWhile _ (List.suffix_cons _ _)
  · exact List.suffix_refl _

theorem suffix_of_time? {t : TimeOfDay} (read : time? s = some (t, rest)) : rest <:+ s := by
  simp only [time?, Option.bind_eq_bind, Option.bind_eq_some_iff] at read
  obtain ⟨⟨hour, s₁⟩, readHour, s₂, colon₁, ⟨minute, s₃⟩, readMinute, s₄, colon₂, ⟨second, s₅⟩, readSecond, same⟩ := read
  cases same
  calc (millionths s₅).2 <:+ s₅ := suffix_millionths s₅
    _ <:+ s₄ := suffix_of_fixedNumber? readSecond
    _ <:+ s₃ := suffix_of_expect? colon₂
    _ <:+ s₂ := suffix_of_fixedNumber? readMinute
    _ <:+ s₁ := suffix_of_expect? colon₁
    _ <:+ s := suffix_of_fixedNumber? readHour

theorem suffix_of_date? {d : Date} (read : date? s = some (d, rest)) : rest <:+ s := by
  simp only [date?, Option.bind_eq_bind, Option.bind_eq_some_iff] at read
  obtain ⟨⟨year, s₁⟩, readYear, s₂, mark₁, ⟨month, s₃⟩, readMonth, s₄, mark₂, ⟨day, s₅⟩, readDay, same⟩ := read
  cases same
  calc s₅ <:+ s₄ := suffix_of_fixedNumber? readDay
    _ <:+ s₃ := suffix_of_expect? mark₂
    _ <:+ s₂ := suffix_of_fixedNumber? readMonth
    _ <:+ s₁ := suffix_of_expect? mark₁
    _ <:+ s := suffix_of_fixedNumber? readYear

theorem suffix_of_offset? {seconds : Int} (read : offset? s = some (seconds, rest)) :
    rest <:+ s := by
  unfold offset? at read
  split at read
  · cases read
    exact List.suffix_cons _ _
  · cases read
    exact List.suffix_cons _ _
  · next sign s _ _ =>
    split at read
    · cases read
    · simp only [Option.bind_eq_bind, Option.bind_eq_some_iff] at read
      obtain ⟨⟨hours, s₁⟩, readHours, s₂, colon, ⟨minutes, s₃⟩, readMinutes, same⟩ := read
      cases same
      calc s₃ <:+ s₂ := suffix_of_fixedNumber? readMinutes
        _ <:+ s₁ := suffix_of_expect? colon
        _ <:+ s := suffix_of_fixedNumber? readHours
        _ <:+ sign :: s := List.suffix_cons sign s
  · cases read

theorem suffix_of_dateOrMoment? {v : Except Unit Value}
    (read : dateOrMoment? s = some (v, rest)) : rest <:+ s := by
  simp only [dateOrMoment?, Option.bind_eq_bind, Option.bind_eq_some_iff] at read
  obtain ⟨⟨date, s₁⟩, readDate, read⟩ := read
  have left : s₁ <:+ s := suffix_of_date? readDate
  split at read
  · cases read
    exact left
  · next time s₂ timed =>
    have later : s₂ <:+ s := by
      cases s₁ with
      | nil => cases timed
      | cons mark after =>
        dsimp only at timed
        split at timed
        · exact (suffix_of_time? timed).trans (suffix_tail left)
        · cases timed
    split at read
    · next offset s₃ told =>
      cases read
      exact (suffix_of_offset? told).trans later
    · cases read
      exact later

theorem suffix_sign (s : List Char) : (Literal.sign s).2 <:+ s := by
  unfold Literal.sign
  split
  · exact List.suffix_cons _ _
  · exact List.suffix_cons _ _
  · exact List.suffix_refl _

/-- The digits of a run are those of a part at the front of the text that holds nothing else than
them and underscores. -/
theorem exists_run {isDigit : Char → Bool} (plain : isDigit '_' = false) (s : List Char) :
    ∃ run, s = run ++ (digitRun isDigit s).2 ∧ (∀ c ∈ run, isDigit c ∨ c = '_') ∧
      (digitRun isDigit s).1.length = run.countP isDigit := by
  induction s using digitRun.induct isDigit with
  | case1 c d rest digit next _ _ _ ih =>
    obtain ⟨run, whole, inside, count⟩ := ih
    refine ⟨c :: '_' :: run, ?_, ?_, ?_⟩
    · rw [digitRun, if_pos digit, if_pos next]
      exact congrArg (c :: '_' :: ·) whole
    · simpa [digit] using inside
    · rw [digitRun, if_pos digit, if_pos next]
      simp [digit, plain, count]
  | case2 c d rest digit next =>
    rw [digitRun, if_pos digit, if_neg next]
    exact ⟨[c], rfl, by simp [digit], by simp [digit]⟩
  | case3 c d rest digit =>
    rw [digitRun, if_neg digit]
    exact ⟨[], rfl, by simp, rfl⟩
  | case4 c rest last digit _ _ _ ih =>
    obtain ⟨run, whole, inside, count⟩ := ih
    rw [digitRun, if_pos digit]
    · exact ⟨c :: run, congrArg (c :: ·) whole, by simpa [digit] using inside, by simp [digit, count]⟩
    · exact last
  | case5 c rest last digit =>
    rw [digitRun, if_neg digit]
    · exact ⟨[], rfl, by simp, rfl⟩
    · exact last
  | case6 => exact ⟨[], rfl, by simp, rfl⟩

theorem suffix_digitRun {isDigit : Char → Bool} (plain : isDigit '_' = false) (s : List Char) :
    (digitRun isDigit s).2 <:+ s := by
  obtain ⟨run, whole, -⟩ := exists_run plain s
  exact ⟨run, whole.symm⟩

theorem isAsciiDigit_underscore : isAsciiDigit '_' = false := by decide

theorem based_underscore (base : Nat) : (Text.asciiDigit? '_').any (· < base) = false := rfl

theorem suffix_of_basedInteger? {n : Int} (read : basedInteger? s = some (n, rest)) :
    rest <:+ s := by
  unfold basedInteger? at read
  split at read
  · simp only [Option.bind_eq_bind, Option.bind_eq_some_iff] at read
    obtain ⟨base, -, read⟩ := read
    split at read <;> cases read
    exact (suffix_digitRun (based_underscore base) _).trans
      (suffix_tail (List.suffix_cons _ _))
  · cases read

theorem suffix_fraction (s : List Char) : (fraction s).2 <:+ s := by
  unfold fraction
  split
  · dsimp only
    split
    · exact List.suffix_refl _
    · exact (suffix_digitRun isAsciiDigit_underscore _).trans (List.suffix_cons _ _)
  · exact List.suffix_refl _

theorem suffix_power (s : List Char) : (power s).2 <:+ s := by
  unfold power
  cases s with
  | nil => exact List.suffix_refl _
  | cons mark rest =>
    have digits (sign after : List Char) (part : after <:+ mark :: rest) :
        (if (digitRun isAsciiDigit after).1.isEmpty then ([], mark :: rest)
          else (mark :: sign ++ (digitRun isAsciiDigit after).1, (digitRun isAsciiDigit after).2)).2
          <:+ mark :: rest := by
      split
      · exact List.suffix_refl _
      · exact (suffix_digitRun isAsciiDigit_underscore _).trans part
    dsimp only
    split
    · split
      · exact digits ['-'] _ (suffix_tail (List.suffix_cons _ _))
      · exact digits ['+'] _ (suffix_tail (List.suffix_cons _ _))
      · exact digits [] _ (List.suffix_cons _ _)
    · exact List.suffix_refl _

/-- The digits before the point, as a run at the front. -/
theorem exists_wholeDigits (s : List Char) : ∃ run,
    s = run ++ (wholeDigits s).2 ∧ (∀ c ∈ run, isAsciiDigit c ∨ c = '_') ∧
      (wholeDigits s).1.length = run.countP isAsciiDigit := by
  unfold wholeDigits
  split
  · exact ⟨['0'], rfl, by simp [isAsciiDigit], rfl⟩
  · exact exists_run isAsciiDigit_underscore _

theorem suffix_wholeDigits (s : List Char) : (wholeDigits s).2 <:+ s := by
  obtain ⟨run, whole, -⟩ := exists_wholeDigits s
  exact ⟨run, whole.symm⟩

/-- A number in decimals is read, or has too many digits. -/
theorem reads_decimalNumber (room : Nat) {x : Except Flaw Value} (read : decimalNumber? s = some (x, rest)) :
    Sound room s (fun _ => rest <:+ s) x := by
  simp only [decimalNumber?] at read
  split at read
  · cases read
  · have left : (power (fraction (wholeDigits (Literal.sign s).2).2).2).2 <:+ s :=
      calc _ <:+ (fraction (wholeDigits (Literal.sign s).2).2).2 := suffix_power _
        _ <:+ (wholeDigits (Literal.sign s).2).2 := suffix_fraction _
        _ <:+ (Literal.sign s).2 := suffix_wholeDigits _
        _ <:+ s := suffix_sign s
    split at read
    · split at read
      · cases read
        exact left
      · next e failed =>
        cases read
        obtain ⟨run, whole, inside, count⟩ := exists_wholeDigits (Literal.sign s).2
        simp only [readInteger] at failed
        split at failed
        · next long =>
          cases failed
          have part : run <:+: (Literal.sign s).2 := whole ▸ (List.prefix_append _ _).isInfix
          exact ⟨run, part.trans (suffix_sign s).isInfix, ⟨inside, count ▸ long⟩, by rw [count]⟩
        · cases failed
    · obtain ⟨d, -, same⟩ := Option.map_eq_some_iff.mp read
      cases same
      exact left

theorem suffix_of_word? {table : List (String × Value)} {v : Value}
    (read : word? table s = some (v, rest)) : rest <:+ s := by
  obtain ⟨⟨word, v⟩, -, found⟩ := List.exists_of_findSome?_eq_some read
  obtain ⟨after, dropped, same⟩ := Option.map_eq_some_iff.mp found
  cases same
  exact ⟨word.toList, (Text.dropPrefix?_eq_some_iff.mp dropped).symm⟩

theorem reads_readScalar (s : List Char) : Reads room s (readScalar s) := by
  unfold readScalar
  split
  · exact (reads_readText _).bind fun _ _ left => reads_ok left
  · exact (reads_readText _).bind fun _ _ left => reads_ok left
  · split
    · next found => exact reads_ok (suffix_of_word? found)
    split
    · next found => exact reads_ok (suffix_of_dateOrMoment? found)
    · exact reads_flawed (List.suffix_refl _)
    split
    · next found => exact reads_ok (suffix_of_time? found)
    split
    · next found => exact reads_ok (suffix_of_basedInteger? found)
    split
    · next found => exact reads_decimalNumber room found
    · next found => exact reads_decimalNumber room found
    split
    · next found => exact reads_ok (suffix_of_word? found)
    · exact reads_flawed (List.suffix_refl _)

end Values
end TemplateEngine.Toml
