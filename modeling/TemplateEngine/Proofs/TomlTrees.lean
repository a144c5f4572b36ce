import TemplateEngine.Toml.Document
import TemplateEngine.Proofs.SettingsText
/-!
What is read from a TOML document is proper: every table in it has each key once, and every single value
is one that stands alone.
-/
namespace TemplateEngine.Toml

/-! ## Steps -/

/-- What a step gives, if it gives something. -/
def Gives {ε α : Type} (expected : α → Prop) : Except ε α → Prop
  | .ok a => expected a
  | .error _ => True

section Steps

variable {ε α β : Type} {P : α → Prop} {Q : β → Prop}

theorem Gives.bind {x : Except ε α} {f : α → Except ε β} (first : Gives P x)
    (second : ∀ a, P a → Gives Q (f a)) : Gives Q (x >>= f) := by
  cases x with
  | ok a => exact second a first
  | error e => trivial

theorem Gives.of_ok {x : Except ε α} {a : α} (h : Gives P x) (found : x = .ok a) : P a := by
  rw [found] at h
  exact h

theorem gives_any (x : Except ε α) : Gives (fun _ => True) x := by
  cases x <;> trivial

end Steps

/-! ## Single values -/

section Scalars

variable {s rest : List Char} {v : Value}

theorem isScalar_of_word? {table : List (String × Value)} (scalars : ∀ e ∈ table, e.2.IsScalar)
    (read : word? table s = some (v, rest)) : v.IsScalar := by
  obtain ⟨⟨word, v⟩, listed, found⟩ := List.exists_of_findSome?_eq_some read
  obtain ⟨after, -, same⟩ := Option.map_eq_some_iff.mp found
  cases same
  exact scalars _ listed

theorem isScalar_of_dateOrMoment? (read : dateOrMoment? s = some (.ok v, rest)) : v.IsScalar := by
  have checked {date : Date} {u : Value} (scalar : u.IsScalar)
      (same : (if isValidDate date then Except.ok u else .error ()) = Except.ok v) : v.IsScalar := by
    split_ifs at same
    cases same
    exact scalar
  simp only [dateOrMoment?, Option.bind_eq_bind, Option.bind_eq_some_iff] at read
  obtain ⟨⟨date, after⟩, -, read⟩ := read
  split at read
  · exact checked (.date date) (Prod.mk.inj (Option.some.inj read)).1
  · split at read
    · exact checked (.moment _) (Prod.mk.inj (Option.some.inj read)).1
    · exact checked (.moment _) (Prod.mk.inj (Option.some.inj read)).1

theorem isScalar_of_decimalNumber? (read : decimalNumber? s = some (.ok v, rest)) : v.IsScalar := by
  simp only [decimalNumber?] at read
  split_ifs at read
  · split at read
    · cases read
      exact .int _
    · cases read
  · obtain ⟨d, -, same⟩ := Option.map_eq_some_iff.mp read
    cases same
    exact .float _

theorem gives_readScalar (s : List Char) : Gives (fun found => found.1.IsScalar) (readScalar s) := by
  have known : ∀ e ∈ words, e.2.IsScalar := by
    simp only [words, List.forall_mem_cons]
    exact ⟨.bool _, .bool _, fun _ found => nomatch found⟩
  have numbers : ∀ e ∈ numberWords, e.2.IsScalar := by
    simp only [numberWords, List.forall_mem_cons]
    exact ⟨.float _, .float _, .float _, .float _, .float _, .float _, fun _ found => nomatch found⟩
  unfold readScalar
  split
  · exact (gives_any _).bind fun _ _ => .text _
  · exact (gives_any _).bind fun _ _ => .text _
  · split
    · next found => exact isScalar_of_word? known found
    split
    · next found => exact isScalar_of_dateOrMoment? found
    · trivial
    split
    · exact .time _
    split
    · exact .int _
    split
    · next found => exact isScalar_of_decimalNumber? found
    · trivial
    split
    · next found => exact isScalar_of_word? numbers found
    · trivial

end Scalars

/-! ## Changes -/

section Changes

/-- Settings of a document. -/
abbrev IsSetting (t : Tree String Value) : Prop := t.Proper Value.IsScalar

abbrev AreSettings (entries : Entries) : Prop := Tree.ProperTable Value.IsScalar entries

theorem areSettings_nil : AreSettings [] := ⟨List.nodup_nil, trivial⟩

variable {change : Entries → Except Obstacle Entries} {inLists : Bool}

theorem gives_enter {path : Path}
    (changes : ∀ entries, AreSettings entries → Gives AreSettings (changeAt inLists change path entries))
    {t : Tree String Value} (proper : IsSetting t) : Gives IsSetting (enter inLists change path t) := by
  unfold enter
  split
  · next entries => exact (changes entries proper).bind fun _ after => after
  · next items =>
    split
    · next entries last =>
      have all := Tree.properItems_iff.mp proper
      have inside : AreSettings entries := all _ (List.mem_of_getLast? last)
      refine (changes entries inside).bind fun after changed => Tree.properItems_iff.mpr ?_
      intro t found
      obtain found | found := List.mem_append.mp found
      · exact all t (List.dropLast_subset items found)
      · rw [List.mem_singleton.mp found]
        exact changed
    · trivial
  · trivial

/-- A change of a table at a path leaves settings, if the change does. -/
theorem gives_changeAt (changes : ∀ entries, AreSettings entries → Gives AreSettings (change entries))
    (path : Path) {entries : Entries} (proper : AreSettings entries) :
    Gives AreSettings (changeAt inLists change path entries) := by
  induction path generalizing entries with
  | nil =>
    rw [changeAt]
    exact changes entries proper
  | cons key path ih =>
    rw [changeAt]
    split
    · exact (ih areSettings_nil).bind fun _ after => proper.insert key after
    · next t found =>
      exact (gives_enter (fun _ => ih) (proper.get? found)).bind fun _ after => proper.insert key after

theorem gives_addEntry (key : String) {t : Tree String Value} (setting : IsSetting t)
    (duplicate : Obstacle) (entries : Entries) (proper : AreSettings entries) :
    Gives AreSettings (addEntry key t duplicate entries) := by
  unfold addEntry
  split
  · trivial
  · exact proper.insert key setting

theorem gives_addToList (key : String) (entries : Entries) (proper : AreSettings entries) :
    Gives AreSettings (addToList key entries) := by
  unfold addToList
  split
  · exact proper.insert key ⟨areSettings_nil, trivial⟩
  · next items found =>
    refine proper.insert key (Tree.properItems_iff.mpr (List.forall_mem_append.mpr ⟨?_, ?_⟩))
    · exact Tree.properItems_iff.mp (proper.get? found)
    · exact List.forall_mem_singleton.mpr areSettings_nil
  · trivial

theorem gives_liftObstacle {rest : List Char} {x : Except Obstacle Entries} (h : Gives AreSettings x) :
    Gives AreSettings (liftObstacle rest x) := by
  unfold liftObstacle
  split
  · exact h
  · trivial
  · trivial

end Changes

/-! ## Values -/

section Values

/-- What the readers of values give, with so much fuel. -/
structure GivesValues (fuel : Nat) : Prop where
  tree : ∀ room s, Gives (fun found => IsSetting found.1) (readTree room fuel s)
  items : ∀ room read s, (∀ t ∈ read, IsSetting t) →
    Gives (fun found => IsSetting found.1) (readItems room fuel read s)
  inline : ∀ room frozen entries s, AreSettings entries →
    Gives (fun found => IsSetting found.1) (readInline room fuel frozen entries s)

variable {fuel room : Nat}

theorem gives_readTree (ih : GivesValues fuel) (s : List Char) :
    Gives (fun found => IsSetting found.1) (readTree room (fuel + 1) s) := by
  rw [readTree.eq_def]
  dsimp only
  split
  · split
    · trivial
    · refine (gives_any _).bind fun after _ => ?_
      split
      · exact trivial
      · exact ih.items _ _ _ (by simp)
  · split
    · trivial
    · split
      · exact areSettings_nil
      · exact ih.inline _ _ _ _ areSettings_nil
  · exact (gives_readScalar _).bind fun _ scalar => scalar

theorem gives_readItems (ih : GivesValues fuel) {read : List (Tree String Value)}
    (proper : ∀ t ∈ read, IsSetting t) (s : List Char) :
    Gives (fun found => IsSetting found.1) (readItems room (fuel + 1) read s) := by
  rw [readItems.eq_def]
  refine (ih.tree room s).bind fun found setting => ?_
  have all : ∀ t ∈ found.1 :: read, IsSetting t := List.forall_mem_cons.mpr ⟨setting, proper⟩
  have listed : IsSetting (.list (found.1 :: read).reverse) :=
    Tree.properItems_iff.mpr fun t inside => all t (List.mem_reverse.mp inside)
  refine (gives_any _).bind fun after _ => ?_
  split
  · exact listed
  · refine (gives_any _).bind fun after _ => ?_
    split
    · exact listed
    · exact ih.items _ _ _ all
  · trivial

theorem gives_readInline (ih : GivesValues fuel) (frozen : List Path) {entries : Entries}
    (proper : AreSettings entries) (s : List Char) :
    Gives (fun found => IsSetting found.1) (readInline room (fuel + 1) frozen entries s) := by
  rw [readInline.eq_def]
  refine (gives_any _).bind fun named _ => ?_
  refine (ih.tree room _).bind fun found setting => ?_
  dsimp only
  split
  · trivial
  refine (gives_liftObstacle (gives_changeAt (gives_addEntry _ setting _) _ proper)).bind
    fun entries after => ?_
  split
  · exact after
  · exact ih.inline _ _ _ _ after
  · trivial

theorem givesValues (fuel : Nat) : GivesValues fuel := by
  induction fuel with
  | zero => exact ⟨fun _ _ => trivial, fun _ _ _ _ => trivial, fun _ _ _ _ _ => trivial⟩
  | succ fuel ih =>
    constructor
    · exact fun _ s => gives_readTree ih s
    · exact fun _ _ s proper => gives_readItems ih proper s
    · exact fun _ frozen _ s proper => gives_readInline ih frozen proper s

end Values

/-! ## Documents -/

section Documents

variable {d : Draft}

theorem gives_openTable (proper : AreSettings d.entries) (s : List Char) :
    Gives (fun found => AreSettings found.1.entries) (d.openTable s) := by
  rw [Draft.openTable]
  refine (gives_any _).bind fun named _ => ?_
  dsimp only
  split
  · trivial
  have changes (entries : Entries) (h : AreSettings entries) :
      Gives AreSettings (Except.ok entries : Except Obstacle Entries) := h
  refine (gives_liftObstacle (gives_changeAt changes _ proper)).bind fun entries after => ?_
  split
  · exact after
  · trivial

theorem gives_openElement (proper : AreSettings d.entries) (s : List Char) :
    Gives (fun found => AreSettings found.1.entries) (d.openElement s) := by
  rw [Draft.openElement]
  refine (gives_any _).bind fun named _ => ?_
  dsimp only
  split
  · trivial
  refine (gives_liftObstacle (gives_changeAt (gives_addToList _) _ proper)).bind fun entries after => ?_
  split
  · exact after
  · trivial

theorem gives_readEntry (proper : AreSettings d.entries) (s : List Char) :
    Gives (fun found => AreSettings found.1.entries) (d.readEntry s) := by
  rw [Draft.readEntry]
  refine (gives_any _).bind fun named _ => ?_
  refine ((givesValues _).tree maxRoom _).bind fun found setting => ?_
  dsimp only
  split
  · trivial
  split
  · trivial
  exact (gives_liftObstacle (gives_changeAt (gives_addEntry _ setting _) _ proper)).bind
    fun entries after => after

theorem gives_readStatement (proper : AreSettings d.entries) (s : List Char) :
    Gives (fun found => AreSettings found.1.entries) (d.readStatement s) := by
  have finished : AreSettings d.finish.entries := proper
  unfold Draft.readStatement
  split
  · exact gives_openElement finished _
  · exact gives_openTable finished _
  · exact proper
  · split
    · exact gives_readEntry proper _
    · trivial
  · exact proper

theorem gives_readLines (fuel : Nat) (proper : AreSettings d.entries) (s : List Char) :
    Gives (fun after => AreSettings after.entries) (d.readLines fuel s) := by
  induction fuel generalizing d s with
  | zero => exact proper
  | succ fuel ih =>
    rw [Draft.readLines]
    split
    · exact proper
    · exact ih proper _
    · refine (gives_readStatement proper _).bind fun found after => ?_
      refine (gives_any _).bind fun last _ => ?_
      split
      · exact after
      · exact ih after _
      · trivial

/-- A document that is read gives settings. -/
theorem areSettings_of_read {text : String} {entries : Entries} (found : read text = .ok entries) :
    AreSettings entries := by
  have empty : AreSettings Draft.empty.entries := areSettings_nil
  have gives := gives_readLines ((unifyLineEnds text.toList).length + 1) empty (unifyLineEnds text.toList)
  simp only [read] at found
  split at found
  · next d lines =>
    cases found
    exact gives.of_ok lines
  · cases found
  · cases found
  · cases found

end Documents

end TemplateEngine.Toml
