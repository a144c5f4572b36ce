import TemplateEngine.Proofs.TomlScalars
/-!
Documents of good grammar that are refused all the same: with a number of too many digits, and with
arrays too deep inside each other.
-/
namespace TemplateEngine.Toml

theorem ne_of_kind {kind : Char → Bool} {c mark : Char} (inside : kind c)
    (outside : kind mark = false) : c ≠ mark := by
  rintro rfl
  rw [outside] at inside
  cases inside

section Numbers

variable {digits : List Char}

theorem digitRun_all {isDigit : Char → Bool} (plain : isDigit '_' = false)
    (all : ∀ c ∈ digits, isDigit c) : digitRun isDigit digits = (digits, []) := by
  induction digits using digitRun.induct isDigit with
  | case1 c d rest digit next _ _ _ ih => simp [plain] at all
  | case2 c d rest digit next => simp [plain] at all
  | case3 c d rest digit => simp [plain] at all
  | case4 c rest last digit _ _ _ ih =>
    rw [digitRun, if_pos digit, ih (fun d inside => all d (List.mem_cons_of_mem c inside))]
    exact last
  | case5 c rest last digit => exact absurd (all c List.mem_cons_self) digit
  | case6 => rfl

theorem fixedNumber?_cut {width low high : Nat} {n : Int} {s rest : List Char}
    (read : fixedNumber? width low high s = some (n, rest)) : rest = s.drop width := by
  simp only [fixedNumber?] at read
  split at read <;> cases read
  rfl

theorem expect?_digits {mark : Char} (plain : isAsciiDigit mark = false)
    (all : ∀ c ∈ digits, isAsciiDigit c) : expect? mark digits = none := by
  cases digits with
  | nil => rfl
  | cons c rest =>
    have digit := all c List.mem_cons_self
    rw [expect?, if_neg (ne_of_kind digit plain).symm]

theorem date?_digits (all : ∀ c ∈ digits, isAsciiDigit c) : date? digits = none := by
  rw [date?]
  cases read : fixedNumber? 4 0 9999 digits with
  | none => rfl
  | some found =>
    obtain ⟨year, rest⟩ := found
    have left : ∀ c ∈ rest, isAsciiDigit c := by
      rw [fixedNumber?_cut read]
      exact fun c inside => all c (List.mem_of_mem_drop inside)
    simp [expect?_digits (by decide : isAsciiDigit '-' = false) left]

theorem time?_digits (all : ∀ c ∈ digits, isAsciiDigit c) : time? digits = none := by
  rw [time?]
  cases read : fixedNumber? 2 0 23 digits with
  | none => rfl
  | some found =>
    obtain ⟨hour, rest⟩ := found
    have left : ∀ c ∈ rest, isAsciiDigit c := by
      rw [fixedNumber?_cut read]
      exact fun c inside => all c (List.mem_of_mem_drop inside)
    simp [expect?_digits (by decide : isAsciiDigit ':' = false) left]

theorem word?_digit {c : Char} {rest : List Char} (digit : isAsciiDigit c) :
    word? words (c :: rest) = none := by
  rw [word?, List.findSome?_eq_none_iff]
  intro (word, v) inside
  rw [Option.map_eq_none_iff, Option.eq_none_iff_forall_ne_some]
  intro after dropped
  have spelled := Text.dropPrefix?_eq_some_iff.mp dropped
  obtain same | same : (word, v) = ("true", .bool true) ∨ (word, v) = ("false", .bool false) := by
    simpa [words] using inside
  · cases same
    exact ne_of_kind digit (by decide : isAsciiDigit 't' = false) (List.cons.inj spelled).1
  · cases same
    exact ne_of_kind digit (by decide : isAsciiDigit 'f' = false) (List.cons.inj spelled).1

theorem basedInteger?_nonzero {c : Char} {rest : List Char} (zero : c ≠ '0') :
    basedInteger? (c :: rest) = none := by
  unfold basedInteger?
  split
  · next letter rest same => exact absurd (List.cons.inj same).1 zero
  · rfl

theorem sign_digit {c : Char} {rest : List Char} (digit : isAsciiDigit c) :
    Literal.sign (c :: rest) = (false, c :: rest) := by
  unfold Literal.sign
  split
  · next same => exact absurd (List.cons.inj same).1 (ne_of_kind digit (by decide))
  · next same => exact absurd (List.cons.inj same).1 (ne_of_kind digit (by decide))
  · rfl

theorem wholeDigits_all {c : Char} {rest : List Char} (zero : c ≠ '0')
    (all : ∀ d ∈ c :: rest, isAsciiDigit d) : wholeDigits (c :: rest) = (c :: rest, []) := by
  unfold wholeDigits
  split
  · next same => exact absurd (List.cons.inj same).1 zero
  · exact digitRun_all isAsciiDigit_underscore all

/-- A number of too many digits is refused. -/
theorem readScalar_too_long {c : Char} {rest : List Char} (zero : c ≠ '0')
    (all : ∀ d ∈ c :: rest, isAsciiDigit d) (long : maxIntegerDigits < (c :: rest).length) :
    readScalar (c :: rest) = .error (.number (.tooManyDigits (c :: rest).length)) := by
  have digit : isAsciiDigit c := all c List.mem_cons_self
  have number : decimalNumber? (c :: rest) =
      some (.error (.number (.tooManyDigits (c :: rest).length)), []) := by
    simp only [decimalNumber?, sign_digit digit, wholeDigits_all zero all]
    rw [readInteger, if_pos long]
    rfl
  have moment : dateOrMoment? (c :: rest) = none := by
    rw [dateOrMoment?, date?_digits all]
    rfl
  unfold readScalar
  split
  · next same => exact absurd (List.cons.inj same).1 (ne_of_kind digit (by decide))
  · next same => exact absurd (List.cons.inj same).1 (ne_of_kind digit (by decide))
  · simp only [word?_digit digit, moment, time?_digits all, basedInteger?_nonzero zero, number]
    rfl

end Numbers

section Depth

theorem skipLines_square (fuel : Nat) (rest : List Char) :
    skipLines fuel ('[' :: rest) = .ok ('[' :: rest) := by
  cases fuel <;> rfl

theorem readTree_squares {room fuel : Nat} (fits : ¬ room < arrayRoom) (rest : List Char) :
    readTree room (fuel + 1) ('[' :: '[' :: rest) =
      readItems (room - arrayRoom) fuel [] ('[' :: rest) := by
  rw [readTree, if_neg fits, skipLines_square]
  rfl

theorem readItems_error {room fuel : Nat} {read : List (Tree String Value)} {s : List Char}
    {f : Flaw} (failed : readTree room fuel s = .error f) :
    readItems room (fuel + 1) read s = .error f := by
  rw [readItems, failed]
  rfl

/-- Arrays inside each other are refused where they take up more room than there is. -/
theorem readTree_too_deep {room fuel n : Nat} (deep : room < arrayRoom * n) (enough : 2 * n ≤ fuel)
    (rest : List Char) :
    readTree room fuel (List.replicate n '[' ++ rest) = .error .depth := by
  induction n generalizing room fuel with
  | zero => exact absurd deep (Nat.not_lt_zero room)
  | succ n ih =>
    by_cases full : room < arrayRoom
    · obtain ⟨fuel, rfl⟩ := Nat.exists_eq_add_of_le' (show 1 ≤ fuel by omega)
      rw [List.replicate_succ, List.cons_append, readTree, if_pos full]
    · obtain ⟨fuel, rfl⟩ := Nat.exists_eq_add_of_le' (show 2 ≤ fuel by omega)
      have inner : readTree (room - arrayRoom) fuel (List.replicate n '[' ++ rest) = .error .depth :=
        ih (by unfold arrayRoom at *; omega) (by omega)
      cases n with
      | zero => exact absurd deep full
      | succ n =>
        rw [List.replicate_succ, List.cons_append] at inner ⊢
        rw [List.replicate_succ, List.cons_append, readTree_squares full]
        exact readItems_error inner

end Depth

section Entries

variable {key value : List Char}

theorem readKeyPart_bare (bare : ∀ c ∈ key, isBareKey c) (named : key ≠ []) (value : List Char) :
    readKeyPart (key ++ '=' :: value) = .ok (String.ofList key, '=' :: value) := by
  have first : (key ++ '=' :: value).takeWhile isBareKey = key := by
    rw [List.takeWhile_append_of_pos bare, List.takeWhile_cons_of_neg (by decide), List.append_nil]
  have last : (key ++ '=' :: value).dropWhile isBareKey = '=' :: value := by
    rw [List.dropWhile_append_of_pos bare, List.dropWhile_cons_of_neg (by decide)]
  obtain ⟨c, rest, rfl⟩ := List.exists_cons_of_ne_nil named
  rw [List.cons_append] at first last ⊢
  rw [readKeyPart, if_pos (bare c List.mem_cons_self), first, last]

theorem readPathAndSign_bare (bare : ∀ c ∈ key, isBareKey c) (named : key ≠ [])
    (value : List Char) :
    readPathAndSign (key ++ '=' :: value) = .ok ([String.ofList key], value.dropWhile isBlank) := by
  have path (fuel : Nat) :
      readPath (fuel + 1) (key ++ '=' :: value) = .ok ([String.ofList key], '=' :: value) := by
    rw [readPath, readKeyPart_bare bare named]
    rfl
  rw [readPathAndSign, path]
  rfl

/-- No blank is skipped in front of a character of a kind that has no blanks. -/
theorem dropWhile_isBlank_of_kind {kind : Char → Bool} {c : Char} (first : kind c)
    (space : kind ' ' = false) (tab : kind '\t' = false) (rest : List Char) :
    (c :: rest).dropWhile isBlank = c :: rest := by
  rw [List.dropWhile_cons_of_neg]
  simp [isBlank, ne_of_kind first space, ne_of_kind first tab]

/-- A line that begins with a bare key is an entry. -/
theorem readStatement_bare {c : Char} (first : isBareKey c) (rest : List Char) (d : Draft) :
    d.readStatement (c :: rest) = d.readEntry (c :: rest) := by
  unfold Draft.readStatement
  split
  · next same => exact absurd (List.cons.inj same).1 (ne_of_kind first (by decide))
  · next same => exact absurd (List.cons.inj same).1 (ne_of_kind first (by decide))
  · next same => exact absurd (List.cons.inj same).1 (ne_of_kind first (by decide))
  · next same =>
    obtain ⟨rfl, rfl⟩ := List.cons.inj same
    rw [if_pos (by simp [startsKey, first])]
  · next same => cases same

/-- A document that begins with an entry fails with what its value fails with. -/
theorem readLines_entry {f : Flaw} (bare : ∀ c ∈ key, isBareKey c) (named : key ≠ [])
    (failed : readTree maxRoom (2 * (value.dropWhile isBlank).length + 2) (value.dropWhile isBlank) =
      .error f) (fuel : Nat) (d : Draft) :
    d.readLines (fuel + 1) (key ++ '=' :: value) = .error f := by
  have entry : d.readEntry (key ++ '=' :: value) = .error f := by
    rw [Draft.readEntry, readPathAndSign_bare bare named]
    simp only [bind, Except.bind, failed]
  obtain ⟨c, rest, rfl⟩ := List.exists_cons_of_ne_nil named
  have first : isBareKey c := bare c List.mem_cons_self
  rw [List.cons_append] at entry ⊢
  rw [Draft.readLines, dropWhile_isBlank_of_kind first (by decide) (by decide)]
  split
  · next same => cases same
  · next same => exact absurd (List.cons.inj same).1 (ne_of_kind first (by decide))
  · rw [readStatement_bare first, entry]
    rfl

theorem unifyLineEnds_append {s : List Char} (plain : '\r' ∉ s) (t : List Char) :
    unifyLineEnds (s ++ t) = s ++ unifyLineEnds t := by
  induction s with
  | nil => rfl
  | cons c s ih =>
    rw [List.mem_cons, not_or] at plain
    rw [List.cons_append, unifyLineEnds, ih plain.2, List.cons_append]
    intro rest same
    exact absurd same.symm plain.1

theorem plain_of_kind {kind : Char → Bool} {s : List Char} (all : ∀ c ∈ s, kind c)
    (outside : kind '\r' = false) : '\r' ∉ s :=
  fun inside => ne_of_kind (all _ inside) outside rfl

/-- An integer of too many digits is refused, whatever key it stands under. -/
theorem read_too_long {c : Char} {digits : List Char} (bare : ∀ c ∈ key, isBareKey c)
    (named : key ≠ []) (zero : c ≠ '0') (all : ∀ d ∈ c :: digits, isAsciiDigit d)
    (long : maxIntegerDigits < (c :: digits).length) :
    read (String.ofList (key ++ '=' :: c :: digits)) =
      .error (.number (.tooManyDigits (c :: digits).length)) := by
  have digit : isAsciiDigit c := all c List.mem_cons_self
  have unblank : (c :: digits).dropWhile isBlank = c :: digits :=
    dropWhile_isBlank_of_kind digit (by decide) (by decide) digits
  have plain : '\r' ∉ key ++ '=' :: c :: digits := by
    simp only [List.mem_append, List.mem_cons (b := '='), not_or]
    exact ⟨plain_of_kind bare (by decide), by decide, plain_of_kind all (by decide)⟩
  have whole : unifyLineEnds (key ++ '=' :: c :: digits) = key ++ '=' :: c :: digits := by
    simpa [unifyLineEnds] using unifyLineEnds_append plain []
  have failed : readTree maxRoom (2 * (c :: digits).length + 2) (c :: digits) =
      .error (.number (.tooManyDigits (c :: digits).length)) := by
    rw [readTree]
    · rw [readScalar_too_long zero all long]
      rfl
    · intro rest same
      exact ne_of_kind digit (by decide) (List.cons.inj same).1
    · intro rest same
      exact ne_of_kind digit (by decide) (List.cons.inj same).1
  have line := readLines_entry bare named (by rwa [unblank])
    (key ++ '=' :: c :: digits).length Draft.empty
  simp only [read, String.toList_ofList, whole, line]

/-- Arrays inside each other are refused where they take up too much room, whatever key they stand under
and whatever follows. -/
theorem read_too_deep {n : Nat} (bare : ∀ c ∈ key, isBareKey c) (named : key ≠ [])
    (deep : maxRoom < arrayRoom * n) (rest : List Char) :
    read (String.ofList (key ++ '=' :: (List.replicate n '[' ++ rest))) = .error .depth := by
  have plain : '\r' ∉ key ++ '=' :: List.replicate n '[' := by
    simp only [List.mem_append, List.mem_cons, not_or]
    refine ⟨plain_of_kind bare (by decide), by decide, fun inside => ?_⟩
    exact absurd (List.eq_of_mem_replicate inside) (by decide)
  have whole : unifyLineEnds (key ++ '=' :: (List.replicate n '[' ++ rest)) =
      key ++ '=' :: (List.replicate n '[' ++ unifyLineEnds rest) := by
    simpa using unifyLineEnds_append plain rest
  generalize unifyLineEnds rest = rest at whole
  have unblank : (List.replicate n '[' ++ rest).dropWhile isBlank = List.replicate n '[' ++ rest := by
    cases n with
    | zero => exact absurd deep (Nat.not_lt_zero _)
    | succ n => rfl
  have line := readLines_entry bare named
    (by rw [unblank]; exact readTree_too_deep deep (by simp; omega) rest)
    (key ++ '=' :: (List.replicate n '[' ++ rest)).length Draft.empty
  simp only [read, String.toList_ofList, whole, line]

end Entries

end TemplateEngine.Toml
