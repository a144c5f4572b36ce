import TemplateEngine.Proofs.TomlDocuments
/-!
The fuel that the readers of a TOML document are given is enough: with more of it they read the same, so
that no document is cut off and none is refused for the want of it.
-/
namespace TemplateEngine.Toml

section Steps

variable {α β : Type} {room : Nat} {s : List Char}

/-- Two readings that go on alike after the same first step are the same. -/
theorem Sound.bind_congr {P : α → Prop} {x : Except Flaw α} {f g : α → Except Flaw β}
    (first : Sound room s P x) (same : ∀ a, P a → f a = g a) : x >>= f = x >>= g := by
  cases x with
  | ok a => exact same a first
  | error f => rfl

theorem Reads.bind_congr {x : Except Flaw (Reading α)} {f g : Reading α → Except Flaw β}
    (first : Reads room s x) (same : ∀ a rest, rest <:+ s → f (a, rest) = g (a, rest)) :
    x >>= f = x >>= g :=
  Sound.bind_congr first fun (a, rest) left => same a rest left

theorem length_lt_of_cons {c : Char} {rest : List Char} (part : c :: rest <:+ s) :
    rest.length < s.length :=
  part.length_le

end Steps

section Lines

theorem sound_skipComment_mark (rest : List Char) :
    Sound 0 ('#' :: rest) (fun left => left <:+ rest) (skipComment ('#' :: rest)) := by
  rw [skipComment]
  exact ((sound_refuse _ _ _).imp (List.suffix_cons _ _) fun _ h => h).bind fun _ _ =>
    List.dropWhile_suffix _

theorem skipLines_fuel {s : List Char} {m n : Nat} (hm : s.length ≤ m) (hn : s.length ≤ n) :
    skipLines m s = skipLines n s := by
  induction m generalizing s n with
  | zero =>
    obtain rfl := List.eq_nil_of_length_eq_zero (Nat.le_zero.mp hm)
    cases n <;> rfl
  | succ m ih =>
    cases n with
    | zero =>
      obtain rfl := List.eq_nil_of_length_eq_zero (Nat.le_zero.mp hn)
      rfl
    | succ n =>
      have left : s.dropWhile isBlankOrNewline <:+ s := List.dropWhile_suffix _
      simp only [skipLines]
      split
      · next rest comment =>
        rw [comment] at left ⊢
        refine (sound_skipComment_mark rest).bind_congr fun after part => ?_
        have shorter := length_lt_of_cons left
        have length := part.length_le
        exact ih (by omega) (by omega)
      · rfl

end Lines

section Values

theorem basicText_fuel {inLines : Bool} {read s : List Char} {m n : Nat} (hm : s.length < m)
    (hn : s.length < n) : basicText inLines m read s = basicText inLines n read s := by
  induction m generalizing read s n with
  | zero => exact absurd hm (Nat.not_lt_zero _)
  | succ m ih =>
    obtain ⟨n, rfl⟩ := Nat.exists_eq_add_of_le' (Nat.zero_lt_of_lt hn)
    unfold basicText
    split
    · rfl
    · next rest =>
      rw [List.length_cons] at hm hn
      have read : Reads 0 rest (escape inLines rest) := reads_escape inLines rest
      refine read.bind_congr fun part after left => ?_
      have shorter := left.length_le
      exact ih (by omega) (by omega)
    · next c rest _ =>
      rw [List.length_cons] at hm hn
      have after : basicText inLines m (c :: read) rest = basicText inLines n (c :: read) rest :=
        ih (by omega) (by omega)
      rw [after]

theorem readPath_fuel {s : List Char} {m n : Nat} (hm : s.length < m) (hn : s.length < n) :
    readPath m s = readPath n s := by
  induction m generalizing s n with
  | zero => exact absurd hm (Nat.not_lt_zero _)
  | succ m ih =>
    obtain ⟨n, rfl⟩ := Nat.exists_eq_add_of_le' (Nat.zero_lt_of_lt hn)
    rw [readPath, readPath]
    have read : Reads 0 s (readKeyPart s) := reads_readKeyPart s
    refine read.bind_congr fun key rest left => ?_
    have after : rest.dropWhile isBlank <:+ s := suffix_dropWhile _ left
    dsimp only
    split
    · next later point =>
      rw [point] at after
      have shorter := length_lt_of_cons after
      have next : (later.dropWhile isBlank).length ≤ later.length := (List.dropWhile_suffix _).length_le
      have same : readPath m (later.dropWhile isBlank) = readPath n (later.dropWhile isBlank) :=
        ih (by omega) (by omega)
      rw [same]
    · rfl

theorem skips (s : List Char) : Sound 0 s (fun left => left <:+ s) (skipLines s.length s) :=
  sound_skipLines s.length s

theorem changes {α : Type} (s : List Char) (x : Except Obstacle α) :
    Sound 0 s (fun _ => True) (liftObstacle s x) :=
  sound_liftObstacle (List.suffix_refl s) x

/-- What is read with this fuel is read with any other that is enough for the length of the text. -/
structure FuelEnough (m : Nat) : Prop where
  tree : ∀ {n room s}, 2 * s.length < m → 2 * s.length < n → readTree room m s = readTree room n s
  items : ∀ {n room read s}, 2 * s.length + 1 < m → 2 * s.length + 1 < n →
    readItems room m read s = readItems room n read s
  inline : ∀ {n room frozen entries s}, 2 * s.length + 1 < m → 2 * s.length + 1 < n →
    readInline room m frozen entries s = readInline room n frozen entries s

theorem readTree_fuel {m n room : Nat} (ih : FuelEnough m) {s : List Char}
    (hm : 2 * s.length < m + 1) (hn : 2 * s.length < n + 1) :
    readTree room (m + 1) s = readTree room (n + 1) s := by
  rw [readTree.eq_def, readTree.eq_def]
  dsimp only
  split
  · next rest =>
    rw [List.length_cons] at hm hn
    split
    · rfl
    refine (skips rest).bind_congr fun after left => ?_
    have shorter := left.length_le
    split
    · rfl
    · exact ih.items (by omega) (by omega)
  · next rest =>
    rw [List.length_cons] at hm hn
    split
    · rfl
    have shorter : (rest.dropWhile isBlank).length ≤ rest.length := (List.dropWhile_suffix _).length_le
    split
    · rfl
    · exact ih.inline (by omega) (by omega)
  · rfl

theorem readItems_fuel {m n room : Nat} (ih : FuelEnough m) {read : List (Tree String Value)}
    {s : List Char} (hm : 2 * s.length < m) (hn : 2 * s.length < n) :
    readItems room (m + 1) read s = readItems room (n + 1) read s := by
  rw [readItems.eq_def, readItems.eq_def]
  dsimp only
  rw [← ih.tree hm hn]
  refine ((readsValues m).tree room s).bind_congr fun t rest left => ?_
  have first := left.length_le
  refine (skips rest).bind_congr fun after part => ?_
  split
  · rfl
  · next later =>
    have second := length_lt_of_cons part
    refine (skips later).bind_congr fun after part => ?_
    have third := part.length_le
    split
    · rfl
    · exact ih.items (by omega) (by omega)
  · rfl

theorem readInline_fuel {m n room : Nat} (ih : FuelEnough m) {frozen : List Path}
    {entries : Entries} {s : List Char} (hm : 2 * s.length < m) (hn : 2 * s.length < n) :
    readInline room (m + 1) frozen entries s = readInline room (n + 1) frozen entries s := by
  rw [readInline.eq_def, readInline.eq_def]
  dsimp only
  have read : Reads room s (readPathAndSign s) := reads_readPathAndSign s
  refine read.bind_congr fun path rest left => ?_
  have first := left.length_le
  dsimp only
  have same : readTree room m rest = readTree room n rest := ih.tree (by omega) (by omega)
  rw [← same]
  refine ((readsValues m).tree room rest).bind_congr fun t rest part => ?_
  have second := part.length_le
  dsimp only
  split
  · rfl
  refine (changes rest _).bind_congr fun entries _ => ?_
  have last : rest.dropWhile isBlank <:+ rest := List.dropWhile_suffix _
  split
  · rfl
  · next later comma =>
    rw [comma] at last
    have third := length_lt_of_cons last
    have fourth : (later.dropWhile isBlank).length ≤ later.length :=
      (List.dropWhile_suffix _).length_le
    exact ih.inline (by omega) (by omega)
  · rfl

theorem fuelEnough (m : Nat) : FuelEnough m := by
  induction m with
  | zero =>
    constructor
    · intro n room s hm
      exact absurd hm (Nat.not_lt_zero _)
    · intro n room read s hm
      exact absurd hm (Nat.not_lt_zero _)
    · intro n room frozen entries s hm
      exact absurd hm (Nat.not_lt_zero _)
  | succ m ih =>
    constructor
    · intro n room s hm hn
      obtain ⟨n, rfl⟩ := Nat.exists_eq_add_of_le' (Nat.zero_lt_of_lt hn)
      exact readTree_fuel ih hm hn
    · intro n room read s hm hn
      obtain ⟨n, rfl⟩ := Nat.exists_eq_add_of_le' (Nat.zero_lt_of_lt hn)
      exact readItems_fuel ih (by omega) (by omega)
    · intro n room frozen entries s hm hn
      obtain ⟨n, rfl⟩ := Nat.exists_eq_add_of_le' (Nat.zero_lt_of_lt hn)
      exact readInline_fuel ih (by omega) (by omega)

end Values

/-- A document is read to its end: with more fuel than its length, the lines read are the same. -/
theorem readLines_fuel {d : Draft} {s : List Char} {m n : Nat} (hm : s.length < m)
    (hn : s.length < n) : d.readLines m s = d.readLines n s := by
  induction m generalizing d s n with
  | zero => exact absurd hm (Nat.not_lt_zero _)
  | succ m ih =>
    obtain ⟨n, rfl⟩ := Nat.exists_eq_add_of_le' (Nat.zero_lt_of_lt hn)
    rw [Draft.readLines, Draft.readLines]
    have left : s.dropWhile isBlank <:+ s := List.dropWhile_suffix _
    split
    · rfl
    · next rest newline =>
      rw [newline] at left
      have shorter := length_lt_of_cons left
      exact ih (by omega) (by omega)
    · refine ((reads_readStatement d _).mono left).bind_congr fun d rest part => ?_
      have after : rest.dropWhile isBlank <:+ s := suffix_dropWhile _ part
      have skipped : Sound maxRoom (rest.dropWhile isBlank) _ (skipComment (rest.dropWhile isBlank)) :=
        sound_skipComment _
      refine skipped.bind_congr fun last part => ?_
      split
      · rfl
      · have shorter := length_lt_of_cons (part.trans after)
        exact ih (by omega) (by omega)
      · rfl

end TemplateEngine.Toml
