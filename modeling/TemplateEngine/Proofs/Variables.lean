import TemplateEngine.Proofs.Paths
import TemplateEngine.Settings.Environment
/-!
Settings from environment variables. The name of a variable spells a path of keys. Variables whose paths
are apart from each other are read in any order: each leaves its value at its path, and nothing else is
there.
-/
namespace TemplateEngine.Environment

/-! ## Names -/

/-- A name with a point in place of each double underscore, read from the left. -/
def dotted : List Char → List Char
  | '_' :: '_' :: rest => '.' :: dotted rest
  | c :: rest => c :: dotted rest
  | [] => []

/-- A name spells a path if it begins with the prefix and has a double underscore after it: without
the prefix, with points for double underscores and in lower case, it is the keys with points between
them. -/
def Spells (pre name : String) (path : List String) : Prop :=
  ∃ rest, name.toList = pre.toList ++ rest ∧ ['_', '_'] <:+: rest ∧
    path = (Text.splitAtEach '.' (Text.lower (String.ofList (dotted rest))).toList).map String.ofList

theorem splitDoubled_ne_nil (s : List Char) : splitDoubled s ≠ [] := by
  fun_cases splitDoubled s <;> simp_all

theorem join_cons {parts : List String} (more : parts ≠ []) (sep s : String) :
    Text.join sep (s :: parts) = s ++ sep ++ Text.join sep parts := by
  cases parts with
  | nil => exact absurd rfl more
  | cons t rest => rfl

theorem toList_join_splitDoubled (s : List Char) :
    (Text.join "." ((splitDoubled s).map String.ofList)).toList = dotted s := by
  fun_induction splitDoubled s with
  | case1 rest ih =>
    rw [List.map_cons, join_cons (by simpa using splitDoubled_ne_nil rest), dotted]
    simp [ih]
  | case2 c rest single none ih => exact absurd none (splitDoubled_ne_nil rest)
  | case3 c rest single part parts split ih =>
    rw [dotted.eq_2 _ _ single, ← ih, split]
    cases parts with
    | nil => simp [Text.join]
    | cons next parts => simp [Text.join]
  | case4 => rfl

/-- There are several parts exactly if there is a double underscore. -/
theorem length_splitDoubled_iff (s : List Char) :
    2 ≤ (splitDoubled s).length ↔ ['_', '_'] <:+: s := by
  fun_induction splitDoubled s with
  | case1 rest ih =>
    have some_part := List.length_pos_iff.mpr (splitDoubled_ne_nil rest)
    exact iff_of_true (by rw [List.length_cons]; omega) ⟨[], rest, rfl⟩
  | case2 c rest single none ih => exact absurd none (splitDoubled_ne_nil rest)
  | case3 c rest single part parts split ih =>
    have elsewhere : ¬['_', '_'] <+: c :: rest := by
      rintro ⟨after, same⟩
      obtain ⟨rfl, rfl⟩ := List.cons.inj same
      exact single after rfl rfl
    rw [List.infix_cons_iff, or_iff_right elsewhere, ← ih, split]
    rfl
  | case4 => simp

theorem splitAtEach_ne_nil (sep : Char) (s : List Char) : Text.splitAtEach sep s ≠ [] := by
  fun_cases Text.splitAtEach sep s <;> simp

/-- A variable has a path exactly if its name spells one. -/
theorem variablePath?_eq_some_iff {pre name key : String} {path : List String} :
    variablePath? pre name = some (key, path) ↔ Spells pre name (key :: path) := by
  have read : ∀ rest, path? rest = some (key, path) ↔ ['_', '_'] <:+: rest ∧ key :: path =
      (Text.splitAtEach '.' (Text.lower (String.ofList (dotted rest))).toList).map String.ofList := by
    intro rest
    have lowered : Text.join "." ((splitDoubled rest).map String.ofList) = String.ofList (dotted rest) := by
      rw [← toList_join_splitDoubled, String.ofList_toList]
    rw [← length_splitDoubled_iff, path?, lowered]
    by_cases short : (splitDoubled rest).length < 2
    · simp [short, Nat.not_le_of_lt short]
    · obtain ⟨part, parts, split⟩ := List.exists_cons_of_ne_nil
        (splitAtEach_ne_nil '.' (Text.lower (String.ofList (dotted rest))).toList)
      simp [short, split, Nat.le_of_not_lt short, eq_comm]
  simp only [variablePath?, Option.bind_eq_some_iff, Text.dropPrefix?_eq_some_iff, read, Spells]

theorem Spells.cons {pre name : String} {path : List String} (h : Spells pre name path) :
    ∃ key rest, path = key :: rest := by
  obtain ⟨rest, -, -, split⟩ := h
  rw [split]
  exact List.exists_cons_of_ne_nil (by simpa using splitAtEach_ne_nil _ _)

theorem Spells.named {pre name : String} {path : List String} (h : Spells pre name path) :
    (variablePath? pre name).map (fun p => p.1 :: p.2) = some path := by
  obtain ⟨key, rest, rfl⟩ := h.cons
  rw [variablePath?_eq_some_iff.mpr h, Option.map_some]

/-- A name without the prefix, or without a double underscore after it, has no path. -/
theorem variablePath?_eq_none_of_unrelated {pre name : String}
    (unrelated : ¬∃ rest, name.toList = pre.toList ++ rest ∧ ['_', '_'] <:+: rest) :
    variablePath? pre name = none := by
  cases found : variablePath? pre name with
  | none => rfl
  | some p =>
    obtain ⟨rest, split, doubled, -⟩ := variablePath?_eq_some_iff.mp found
    exact absurd ⟨rest, split, doubled⟩ unrelated

/-! ## Variables -/

/-- What the variables write: their values, at their paths. -/
def writes (pre : String) (vars : Variables) : List (List String × Tree String Value) :=
  vars.filterMap fun v => (variablePath? pre v.1).bind fun p =>
    (readText v.2).toOption.map fun t => (p.1 :: p.2, t)

theorem mem_writes_iff {pre : String} {vars : Variables} {w : List String × Tree String Value} :
    w ∈ writes pre vars ↔ ∃ v ∈ vars, Spells pre v.1 w.1 ∧ readText v.2 = .ok w.2 := by
  obtain ⟨path, t⟩ := w
  rw [writes, List.mem_filterMap]
  refine exists_congr fun v => and_congr_right fun _ => ?_
  cases path with
  | nil =>
    refine iff_of_false ?_ fun h => ?_
    · simp [Option.bind_eq_some_iff]
    · obtain ⟨key, rest, same⟩ := h.1.cons
      cases same
  | cons key path =>
    rw [← variablePath?_eq_some_iff]
    cases readText v.2 <;> simp [Option.bind_eq_some_iff, Except.toOption]

/-- Every variable with a path has a value. -/
def Readable (pre : String) (vars : Variables) : Prop :=
  ∀ v ∈ vars, ∀ path, Spells pre v.1 path → ∃ t, readText v.2 = .ok t

theorem readVariables_eq {pre : String} {vars : Variables} (readable : Readable pre vars)
    (settings : Table String (Tree String Value)) : ∃ found,
    readVariables pre settings vars = .ok found ∧
      Tree.table found = (Tree.table settings).setAll (writes pre vars) := by
  induction vars generalizing settings with
  | nil => exact ⟨settings, rfl, rfl⟩
  | cons v rest ih =>
    obtain ⟨name, text⟩ := v
    have others : Readable pre rest := fun v hv => readable v (List.mem_cons_of_mem _ hv)
    cases named : variablePath? pre name with
    | none =>
      obtain ⟨found, read, all⟩ := ih others settings
      refine ⟨found, ?_, ?_⟩
      · rw [readVariables, named]
        exact read
      · rw [all, writes, writes, List.filterMap_cons_none (by rw [named]; rfl)]
    | some p =>
      obtain ⟨key, path⟩ := p
      obtain ⟨t, value⟩ := readable (name, text) List.mem_cons_self _
        (variablePath?_eq_some_iff.mp named)
      obtain ⟨found, read, all⟩ := ih others (Tree.setAt settings key path t)
      refine ⟨found, ?_, ?_⟩
      · rw [readVariables, named]
        dsimp only
        rw [value]
        exact read
      · rw [all, writes, writes, List.filterMap_cons_some (b := (key :: path, t)) (by
          rw [named, value]; rfl)]
        rfl

/-- No path leads through the path of another variable. -/
def Unmixed (pre : String) (vars : Variables) : Prop :=
  vars.Pairwise fun v w => ∀ p q, Spells pre v.1 p → Spells pre w.1 q → Tree.Apart p q

theorem Unmixed.independent {pre : String} {vars : Variables} (h : Unmixed pre vars) :
    Tree.Independent (writes pre vars) where
  apart := by
    have spelled : ∀ (v : String × String) (w : List String × Tree String Value),
        ((variablePath? pre v.1).bind fun p =>
          (readText v.2).toOption.map fun t => (p.1 :: p.2, t)) = some w → Spells pre v.1 w.1 := by
      intro v w found
      have one : w ∈ writes pre [v] :=
        List.mem_filterMap.mpr ⟨v, List.mem_singleton_self v, found⟩
      obtain ⟨v', hv', spelled, -⟩ := mem_writes_iff.mp one
      rwa [← List.mem_singleton.mp hv']
    rw [writes, List.pairwise_filterMap]
    exact h.imp fun {v v'} apart w hw w' hw' => apart _ _ (spelled v w hw) (spelled v' w' hw')
  inside := fun w hw => by
    obtain ⟨v, -, spelled, -⟩ := mem_writes_iff.mp hw
    obtain ⟨key, rest, path⟩ := spelled.cons
    rw [path]
    exact List.cons_ne_nil key rest

/-- An unrelated variable is passed over, wherever it stands. -/
theorem readVariables_unrelated {pre : String} {v : String × String}
    (unrelated : variablePath? pre v.1 = none) (earlier later : Variables)
    (settings : Table String (Tree String Value)) :
    readVariables pre settings (earlier ++ v :: later) =
      readVariables pre settings (earlier ++ later) := by
  induction earlier generalizing settings with
  | nil => rw [List.nil_append, readVariables, unrelated]; rfl
  | cons first earlier ih =>
    rw [List.cons_append, List.cons_append, readVariables, readVariables]
    cases variablePath? pre first.1 with
    | none => exact ih settings
    | some p =>
      dsimp only
      cases readText first.2 with
      | error e => rfl
      | ok t => exact ih (Tree.setAt settings p.1 p.2 t)

/-- Variables with values, none of whose paths leads through another one, give the same settings in
any order. Each value is at the path of its variable, whatever single value, list or empty table is in
the settings comes from one of them, and variables without the prefix or without a double underscore
after it play no part. -/
theorem settings_of_any_order {pre : String} {vars others : Variables} (perm : vars.Perm others)
    (unmixed : Unmixed pre vars) (readable : Readable pre vars) :
    ∃ found found', settings pre vars = .ok found ∧ settings pre others = .ok found' ∧
      (∀ path, Tree.SameAt (.table found) (.table found') path) ∧
      (∀ v ∈ vars, ∀ path t, Spells pre v.1 path → readText v.2 = .ok t →
        (Tree.table found).get? path = some t) ∧
      (∀ path t, path ≠ [] → (Tree.table found).get? path = some t →
        (t.isTable = false ∨ t = .table []) → ∃ v ∈ vars, ∃ p r s, Spells pre v.1 p ∧
          readText v.2 = .ok s ∧ path = p ++ r ∧ s.get? r = some t) ∧
      ∀ v : String × String, (¬∃ rest, v.1.toList = pre.toList ++ rest ∧ ['_', '_'] <:+: rest) →
        ∀ earlier later, settings pre (earlier ++ v :: later) = settings pre (earlier ++ later) := by
  have independent := unmixed.independent
  have readable' : Readable pre others := fun v hv => readable v (perm.mem_iff.mpr hv)
  obtain ⟨found, read, all⟩ := readVariables_eq readable []
  obtain ⟨found', read', all'⟩ := readVariables_eq readable' []
  refine ⟨found, found', read, read', ?_, ?_, ?_, ?_⟩
  · rw [all, all']
    exact Tree.sameAt_setAll_of_perm independent (perm.filterMap _)
  · intro v hv path t spelled value
    rw [all]
    exact Tree.get?_setAll (w := (path, t)) independent (mem_writes_iff.mpr ⟨v, hv, spelled, value⟩)
  · intro path t inside there ending
    rw [all] at there
    obtain ⟨w, hw, r, rfl, stems⟩ := Tree.exists_write_of_end independent inside there ending
    obtain ⟨v, hv, spelled, value⟩ := mem_writes_iff.mp hw
    exact ⟨v, hv, w.1, r, w.2, spelled, value, rfl, stems⟩
  · intro v unrelated earlier later
    exact readVariables_unrelated (variablePath?_eq_none_of_unrelated unrelated) earlier later []

/-- Two settings of one section, with a variable between them that is none. -/
theorem settings_of_any_order_logging :
    let vars := [("SIGHTLY_LOGGING__LEVEL", "debug"), ("PATH", "/bin"), ("SIGHTLY_LOGGING__FILE", "5")]
    Unmixed mark vars ∧ Readable mark vars ∧ ∃ found found',
      settings mark vars = .ok found ∧ settings mark vars.reverse = .ok found' ∧
        (∀ path, Tree.SameAt (.table found) (.table found') path) ∧
        (Tree.table found).get? ["logging", "level"] = some (.leaf (.text "debug")) := by
  intro vars
  have level : variablePath? mark "SIGHTLY_LOGGING__LEVEL" = some ("logging", ["level"]) := by
    decide +kernel
  have file : variablePath? mark "SIGHTLY_LOGGING__FILE" = some ("logging", ["file"]) := by
    decide +kernel
  have neither : variablePath? mark "PATH" = none := by decide +kernel
  have debug : readText "debug" = .ok (.leaf (.text "debug")) := by
    have whole : integer? "debug" = none := by decide +kernel
    have real : pointNumber? "debug" = none := by decide +kernel
    rw [readText, whole, real]
    rfl
  have unnamed : ∀ p, ¬Spells mark "PATH" p := fun p h => by
    have named := h.named
    rw [neither] at named
    cases named
  have unmixed : Unmixed mark vars := by
    refine .cons ?_ (.cons ?_ (.cons ?_ .nil))
    · intro w hw p q hp hq
      have p_eq := hp.named
      rw [level] at p_eq
      obtain rfl := Option.some.inj p_eq
      rcases List.mem_cons.mp hw with rfl | hw
      · exact absurd hq (unnamed q)
      · obtain rfl := List.mem_singleton.mp hw
        have q_eq := hq.named
        rw [file] at q_eq
        obtain rfl := Option.some.inj q_eq
        exact ⟨by decide, by decide⟩
    · exact fun w _ p _ hp => absurd hp (unnamed p)
    · exact fun w hw => absurd hw List.not_mem_nil
  have readable : Readable mark vars := by
    intro v hv p hp
    rcases List.mem_cons.mp hv with rfl | hv
    · exact ⟨_, debug⟩
    rcases List.mem_cons.mp hv with rfl | hv
    · exact absurd hp (unnamed p)
    · obtain rfl := List.mem_singleton.mp hv
      exact ⟨.leaf (.int 5), rfl⟩
  obtain ⟨found, found', read, read', same, there, -⟩ :=
    settings_of_any_order (List.reverse_perm vars).symm unmixed readable
  exact ⟨unmixed, readable, found, found', read, read', same,
    there _ List.mem_cons_self _ _ (variablePath?_eq_some_iff.mp level) debug⟩

end TemplateEngine.Environment
