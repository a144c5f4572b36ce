import TemplateEngine.Proofs.TomlScalars
/-!
What the reading of a TOML document leaves of it, and what its failures say about it, for values inside
each other and for whole documents.
-/
namespace TemplateEngine.Toml

section Lines

variable {α : Type} {room : Nat} {s : List Char}

theorem sound_skipComment (s : List Char) : Sound room s (fun left => left <:+ s) (skipComment s) := by
  unfold skipComment
  split
  · exact ((sound_refuse _ _ _).imp (List.suffix_cons _ _) fun _ h => h).bind fun _ _ =>
      suffix_dropWhile _ (List.suffix_cons _ _)
  · exact List.suffix_refl _

theorem sound_skipLines (fuel : Nat) (s : List Char) :
    Sound room s (fun left => left <:+ s) (skipLines fuel s) := by
  induction fuel generalizing s with
  | zero => exact List.suffix_refl s
  | succ fuel ih =>
    have left : s.dropWhile isBlankOrNewline <:+ s := List.dropWhile_suffix _
    simp only [skipLines]
    split
    · exact ((sound_skipComment _).imp left fun _ h => h.trans left).bind fun after part =>
        (ih after).imp part fun _ h => h.trans part
    · exact left

theorem reads_readKeyPart (s : List Char) : Reads room s (readKeyPart s) := by
  unfold readKeyPart
  split
  · exact reads_flawed (List.suffix_refl _)
  · split
    · exact reads_ok (List.dropWhile_suffix _)
    split
    · exact reads_readLineText _
    · exact reads_flawed (List.suffix_refl _)

theorem reads_readPath (fuel : Nat) (s : List Char) : Reads room s (readPath fuel s) := by
  induction fuel generalizing s with
  | zero => exact reads_flawed (List.suffix_refl s)
  | succ fuel ih =>
    rw [readPath]
    refine (reads_readKeyPart s).bind fun key rest left => ?_
    have after : rest.dropWhile isBlank <:+ s := suffix_dropWhile _ left
    dsimp only
    split
    · next later point =>
      rw [point] at after
      have next : later.dropWhile isBlank <:+ s := suffix_dropWhile _ (suffix_tail after)
      exact ((ih _).mono next).bind fun path rest left => reads_ok left
    · exact reads_ok after

theorem reads_readPathAndSign (s : List Char) : Reads room s (readPathAndSign s) := by
  rw [readPathAndSign]
  refine (reads_readPath _ s).bind fun path rest left => ?_
  dsimp only
  split
  · exact reads_ok (suffix_dropWhile _ (suffix_tail left))
  · exact reads_flawed left

theorem sound_liftObstacle {rest : List Char} (left : rest <:+ s) (x : Except Obstacle α) :
    Sound room s (fun _ => True) (liftObstacle rest x) := by
  unfold liftObstacle
  split
  · trivial
  · exact sound_flawed left
  · exact sound_flawed left

end Lines

section Values

variable {α : Type} {room : Nat} {s t : List Char}

/-- Brackets take up the room that is left for what is inside them. -/
theorem Reads.inside {x : Except Flaw (Reading α)} {taken : Nat} (h : Reads (room - taken) t x)
    (part : t <:+ s) (brackets : taken + bracketRoom t ≤ bracketRoom s) : Reads room s x := by
  cases x with
  | ok found => exact List.IsSuffix.trans h part
  | error f =>
    cases f with
    | malformed text rest => exact List.IsSuffix.trans h part
    | number e =>
      have fits : (Flaw.number e).Fits room t := h
      exact fits.mono part
    | depth =>
      have deep : room - taken < bracketRoom t := h
      show room < bracketRoom s
      omega

theorem bracketRoom_square (s : List Char) : bracketRoom ('[' :: s) = arrayRoom + bracketRoom s := by
  simp [bracketRoom, arrayRoom, inlineRoom]
  omega

theorem bracketRoom_brace (s : List Char) : bracketRoom ('{' :: s) = inlineRoom + bracketRoom s := by
  simp [bracketRoom, arrayRoom, inlineRoom]
  omega

/-- What the reading of values makes of a text, with so much fuel. -/
structure ReadsValues (fuel : Nat) : Prop where
  tree : ∀ room s, Reads room s (readTree room fuel s)
  items : ∀ room read s, Reads room s (readItems room fuel read s)
  inline : ∀ room frozen entries s, Reads room s (readInline room fuel frozen entries s)

theorem reads_readTree {fuel : Nat} (ih : ReadsValues fuel) (s : List Char) :
    Reads room s (readTree room (fuel + 1) s) := by
  rw [readTree.eq_def]
  dsimp only
  split
  · next rest =>
    split
    · next full =>
      show room < bracketRoom ('[' :: rest)
      rw [bracketRoom_square]
      omega
    · refine Sound.bind ((sound_skipLines rest.length rest).imp (List.suffix_cons _ _) fun _ h => h)
        fun after left => ?_
      split
      · exact reads_ok ((suffix_tail left).trans (List.suffix_cons _ _))
      · refine (ih.items _ _ after).inside (left.trans (List.suffix_cons _ _)) ?_
        rw [bracketRoom_square]
        exact Nat.add_le_add_left (bracketRoom_mono left) _
  · next rest =>
    split
    · next full =>
      show room < bracketRoom ('{' :: rest)
      rw [bracketRoom_brace]
      omega
    · have left : rest.dropWhile isBlank <:+ rest := List.dropWhile_suffix _
      split
      · next after closed =>
        rw [closed] at left
        exact reads_ok ((suffix_tail left).trans (List.suffix_cons _ _))
      · refine (ih.inline _ _ _ _).inside (left.trans (List.suffix_cons _ _)) ?_
        rw [bracketRoom_brace]
        exact Nat.add_le_add_left (bracketRoom_mono left) _
  · exact (reads_readScalar s).bind fun v rest left => reads_ok left

theorem reads_readItems {fuel : Nat} (ih : ReadsValues fuel) (read : List (Tree String Value))
    (s : List Char) : Reads room s (readItems room (fuel + 1) read s) := by
  rw [readItems.eq_def]
  refine (ih.tree room s).bind fun t rest left => ?_
  refine Sound.bind ((sound_skipLines rest.length rest).imp left fun _ h => h.trans left)
    fun after part => ?_
  split
  · exact reads_ok (suffix_tail part)
  · next later =>
    have next : later <:+ s := suffix_tail part
    refine Sound.bind ((sound_skipLines later.length later).imp next fun _ h => h.trans next)
      fun after part => ?_
    split
    · exact reads_ok (suffix_tail part)
    · exact (ih.items _ _ _).mono part
  · exact reads_flawed part

theorem reads_readInline {fuel : Nat} (ih : ReadsValues fuel) (frozen : List Path)
    (entries : Entries) (s : List Char) :
    Reads room s (readInline room (fuel + 1) frozen entries s) := by
  rw [readInline.eq_def]
  refine (reads_readPathAndSign s).bind fun path rest left => ?_
  refine ((ih.tree room rest).mono left).bind fun t rest left => ?_
  dsimp only
  split
  · exact reads_flawed left
  refine Sound.bind (sound_liftObstacle left _) fun entries _ => ?_
  have after : rest.dropWhile isBlank <:+ s := suffix_dropWhile _ left
  split
  · next later closed =>
    rw [closed] at after
    exact reads_ok (suffix_tail after)
  · next later comma =>
    rw [comma] at after
    exact (ih.inline _ _ _ _).mono (suffix_dropWhile _ (suffix_tail after))
  · exact reads_flawed after

theorem readsValues (fuel : Nat) : ReadsValues fuel := by
  induction fuel with
  | zero =>
    constructor
    · intro room s
      exact reads_flawed (List.suffix_refl s)
    · intro room read s
      exact reads_flawed (List.suffix_refl s)
    · intro room frozen entries s
      exact reads_flawed (List.suffix_refl s)
  | succ fuel ih => exact ⟨fun _ => reads_readTree ih, fun _ => reads_readItems ih, fun _ => reads_readInline ih⟩

end Values

section Statements

variable {room : Nat}

theorem reads_openTable (d : Draft) (s : List Char) : Reads room s (d.openTable s) := by
  rw [Draft.openTable]
  refine ((reads_readPath _ _).mono (List.dropWhile_suffix _)).bind fun path rest left => ?_
  dsimp only
  split
  · exact reads_flawed left
  refine Sound.bind (sound_liftObstacle left _) fun entries _ => ?_
  split
  · exact reads_ok (suffix_tail left)
  · exact reads_flawed left

theorem reads_openElement (d : Draft) (s : List Char) : Reads room s (d.openElement s) := by
  rw [Draft.openElement]
  refine ((reads_readPath _ _).mono (List.dropWhile_suffix _)).bind fun path rest left => ?_
  dsimp only
  split
  · exact reads_flawed left
  refine Sound.bind (sound_liftObstacle left _) fun entries _ => ?_
  split
  · exact reads_ok (suffix_tail (suffix_tail left))
  · exact reads_flawed left

theorem reads_readEntry (d : Draft) (s : List Char) : Reads maxRoom s (d.readEntry s) := by
  rw [Draft.readEntry]
  refine (reads_readPathAndSign s).bind fun path rest left => ?_
  refine (((readsValues _).tree maxRoom rest).mono left).bind fun t rest left => ?_
  dsimp only
  split
  · exact reads_flawed left
  split
  · exact reads_flawed left
  exact Sound.bind (sound_liftObstacle left _) fun entries _ => reads_ok left

theorem reads_readStatement (d : Draft) (s : List Char) : Reads maxRoom s (d.readStatement s) := by
  unfold Draft.readStatement
  split
  · exact (reads_openElement _ _).mono (suffix_tail (List.suffix_cons _ _))
  · exact (reads_openTable _ _).mono (List.suffix_cons _ _)
  · exact reads_ok (List.suffix_refl _)
  · split
    · exact reads_readEntry _ _
    · exact reads_flawed (List.suffix_refl _)
  · exact reads_ok (List.suffix_refl _)

theorem sound_readLines (fuel : Nat) (d : Draft) (s : List Char) :
    Sound maxRoom s (fun _ => True) (d.readLines fuel s) := by
  induction fuel generalizing d s with
  | zero => trivial
  | succ fuel ih =>
    rw [Draft.readLines]
    have left : s.dropWhile isBlank <:+ s := List.dropWhile_suffix _
    split
    · trivial
    · next rest newline =>
      rw [newline] at left
      exact (ih d rest).imp (suffix_tail left) fun _ h => h
    · refine Sound.bind ((reads_readStatement d _).mono left) fun (d, rest) part => ?_
      have after : rest.dropWhile isBlank <:+ s := suffix_dropWhile _ part
      refine Sound.bind ((sound_skipComment _).imp after fun _ h => h.trans after)
        fun last part => ?_
      split
      · trivial
      · exact (ih d _).imp (suffix_tail part) fun _ h => h
      · exact sound_flawed part

end Statements

section Documents

theorem count_unifyLineEnds {c : Char} (mark : c ≠ '\r') (s : List Char) :
    (unifyLineEnds s).count c = s.count c := by
  induction s using unifyLineEnds.induct with
  | case1 rest ih => simp [unifyLineEnds, List.count_cons, ih, mark.symm]
  | case2 c rest last ih =>
    rw [unifyLineEnds]
    · simp [List.count_cons, ih]
    · exact last
  | case3 => rfl

theorem bracketRoom_unifyLineEnds (s : List Char) :
    bracketRoom (unifyLineEnds s) = bracketRoom s := by
  simp only [bracketRoom]
  rw [count_unifyLineEnds (by decide), count_unifyLineEnds (by decide)]

theorem prefix_of_unifyLineEnds {part s : List Char} (found : part <+: unifyLineEnds s)
    (line : '\n' ∉ part) : part <+: s := by
  induction s using unifyLineEnds.induct generalizing part with
  | case1 rest ih =>
    cases part with
    | nil => exact List.nil_prefix
    | cons c part =>
      rw [unifyLineEnds, List.cons_prefix_cons] at found
      simp [found.1] at line
  | case2 c rest last ih =>
    cases part with
    | nil => exact List.nil_prefix
    | cons d part =>
      rw [unifyLineEnds, List.cons_prefix_cons] at found
      · rw [List.mem_cons, not_or] at line
        exact List.cons_prefix_cons.mpr ⟨found.1, ih found.2 line.2⟩
      · exact last
  | case3 => exact found

/-- What stands on a line stood there before the line ends were made alike. -/
theorem infix_of_unifyLineEnds {part s : List Char} (found : part <:+: unifyLineEnds s)
    (line : '\n' ∉ part) : part <:+: s := by
  have here (found : part <+: unifyLineEnds s) : part <:+: s :=
    (prefix_of_unifyLineEnds found line).isInfix
  induction s using unifyLineEnds.induct with
  | case1 rest ih =>
    rw [unifyLineEnds, List.infix_cons_iff] at found
    obtain found | found := found
    · exact here (by rwa [unifyLineEnds])
    · exact (ih found fun h => (prefix_of_unifyLineEnds h line).isInfix).trans
        ((List.suffix_cons _ _).trans (List.suffix_cons _ _)).isInfix
  | case2 c rest last ih =>
    have step : unifyLineEnds (c :: rest) = c :: unifyLineEnds rest := by
      rw [unifyLineEnds]
      exact last
    rw [step, List.infix_cons_iff] at found
    obtain found | found := found
    · exact here (by rwa [step])
    · exact (ih found fun h => (prefix_of_unifyLineEnds h line).isInfix).trans
        (List.suffix_cons _ _).isInfix
  | case3 => exact found

theorem TooLong.on_line {run : List Char} (h : TooLong run) : '\n' ∉ run := by
  intro inside
  obtain digit | mark := h.digits _ inside
  · exact absurd digit (by decide)
  · exact absurd mark (by decide)

/-- What a failure says about a document: a flaw of grammar is told with a place in the document, a
number was refused for a run of too many digits in it, and values are too deep inside each other only
with brackets for more than the room there is. -/
def Failure.Fits (text : String) : Failure → Prop
  | .malformed message => ∃ what rest, rest <:+ unifyLineEnds text.toList ∧
      message = showFlaw (unifyLineEnds text.toList) what rest
  | .number e => ∃ run, run <:+: text.toList ∧ TooLong run ∧
      e = .tooManyDigits (run.countP isAsciiDigit)
  | .depth => maxRoom < bracketRoom text.toList

theorem read_error {text : String} {f : Failure} (failed : read text = .error f) :
    f.Fits text := by
  have sound := sound_readLines ((unifyLineEnds text.toList).length + 1) Draft.empty
    (unifyLineEnds text.toList)
  simp only [read] at failed
  split at failed
  · cases failed
  · next what rest found =>
    cases failed
    rw [found] at sound
    exact ⟨what, rest, sound, rfl⟩
  · next e found =>
    cases failed
    rw [found] at sound
    obtain ⟨run, inside, long, same⟩ := sound
    exact ⟨run, infix_of_unifyLineEnds inside long.on_line, long, same⟩
  · next found =>
    cases failed
    rw [found] at sound
    have deep : maxRoom < bracketRoom (unifyLineEnds text.toList) := sound
    rwa [bracketRoom_unifyLineEnds] at deep

end Documents

end TemplateEngine.Toml
