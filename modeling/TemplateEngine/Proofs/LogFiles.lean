import TemplateEngine.Proofs.Configuration
import TemplateEngine.Proofs.EnvironmentTexts
import TemplateEngine.Proofs.Layering
import TemplateEngine.Proofs.TomlTrees
import TemplateEngine.Proofs.Variables
/-!
The log file of a configuration that is loaded with an environment. The last variable at its path, or
below it, decides what it is; what the variable stands for is written out as a text.
-/
namespace TemplateEngine

/-! ## Written trees -/

namespace Tree

variable {κ α : Type} [BEq κ] [LawfulBEq κ] {kind : α → Prop} {writes : List (List κ × Tree κ α)}

omit [BEq κ] [LawfulBEq κ] in
theorem proper_entries {t : Tree κ α} (h : t.Proper kind) : ProperTable kind t.entries := by
  cases t with
  | table entries => exact h
  | leaf a => exact ⟨List.nodup_nil, trivial⟩
  | list items => exact ⟨List.nodup_nil, trivial⟩

theorem proper_set {t v : Tree κ α} (h : t.Proper kind) (written : v.Proper kind) (path : List κ) :
    (t.set path v).Proper kind := by
  induction path generalizing t with
  | nil => exact written
  | cons k path ih =>
    rw [set_cons]
    refine (proper_entries h).insert k (ih ?_)
    cases found : Table.get? t.entries k with
    | none => exact ⟨List.nodup_nil, trivial⟩
    | some inner => exact (proper_entries h).get? found

theorem proper_setAll {t : Tree κ α} (h : t.Proper kind) (written : ∀ w ∈ writes, w.2.Proper kind) :
    (t.setAll writes).Proper kind := by
  induction writes using List.reverseRecOn with
  | nil => exact h
  | append_singleton writes w ih =>
    rw [setAll_concat]
    refine proper_set (ih fun v inside => written v (List.mem_append_left _ inside)) ?_ w.1
    exact written w (by simp)

theorem get?_setAll_of_apart {path : List κ} (apart : ∀ w ∈ writes, Apart w.1 path) (t : Tree κ α) :
    (t.setAll writes).get? path = t.get? path := by
  induction writes using List.reverseRecOn with
  | nil => rfl
  | append_singleton writes w ih =>
    rw [setAll_concat, get?_set_of_apart _ _ (apart w (by simp))]
    exact ih fun v inside => apart v (List.mem_append_left _ inside)

/-- Where all paths have two keys or more, every key leads to a table. -/
theorem isTable_of_setAll (long : ∀ w ∈ writes, 2 ≤ w.1.length) {k : κ} {x : Tree κ α}
    (found : ((table []).setAll writes).get? [k] = some x) : x.isTable = true := by
  induction writes using List.reverseRecOn with
  | nil => cases (get?_empty_cons k []).symm.trans found
  | append_singleton writes w ih =>
    rw [setAll_concat] at found
    have path := long w (by simp)
    obtain ⟨first, second, rest, split⟩ : ∃ a b r, w.1 = a :: b :: r := by
      match w.1, path with
      | a :: b :: r, _ => exact ⟨a, b, r, rfl⟩
    by_cases same : first = k
    · subst same
      obtain ⟨entries, there⟩ :=
        hasTable_set_of_passed ((table []).setAll writes) w.2 [first] second rest
      rw [split] at found
      cases there.symm.trans found
      rfl
    · have apart : Apart w.1 [k] := by
        rw [split]
        constructor
        · intro on
          simpa using on.length_le
        · intro passed
          exact same (List.cons_prefix_cons.mp passed).1.symm
      rw [get?_set_of_apart _ _ apart] at found
      exact ih (fun v inside => long v (List.mem_append_left _ inside)) found

end Tree

/-! ## Environments -/

namespace Environment

variable {pre : String} {vars : Variables}

theorem two_le_length_splitAtEach {sep : Char} {s : List Char} (inside : sep ∈ s) :
    2 ≤ (Text.splitAtEach sep s).length := by
  induction s with
  | nil => cases inside
  | cons c rest ih =>
    have some_part := List.length_pos_iff.mpr (splitAtEach_ne_nil sep rest)
    rw [Text.splitAtEach]
    by_cases here : c = sep
    · rw [if_pos (by simpa using here), List.length_cons]
      omega
    · have later := ih ((List.mem_cons.mp inside).resolve_left (Ne.symm here))
      rw [if_neg (by simpa using here)]
      split
      · next none => exact absurd none (splitAtEach_ne_nil sep rest)
      · next part parts split =>
        rw [split] at later
        exact later

theorem mem_dotted {s : List Char} (doubled : ['_', '_'] <:+: s) : '.' ∈ dotted s := by
  fun_induction dotted s with
  | case1 rest ih => exact List.mem_cons_self
  | case2 c rest single ih =>
    have elsewhere : ¬['_', '_'] <+: c :: rest := by
      rintro ⟨after, same⟩
      obtain ⟨rfl, rfl⟩ := List.cons.inj same
      exact single after rfl rfl
    exact List.mem_cons_of_mem _ (ih ((List.infix_cons_iff.mp doubled).resolve_left elsewhere))
  | case3 => simp at doubled

/-- The path of a variable has two keys or more. -/
theorem Spells.long {name : String} {path : List String} (h : Spells pre name path) :
    2 ≤ path.length := by
  obtain ⟨rest, -, doubled, split⟩ := h
  rw [split, List.length_map]
  refine two_le_length_splitAtEach (Text.mark_mem_lower (.inl (by decide)) ?_)
  simpa using mem_dotted doubled

theorem long_of_mem_writes {w : List String × Tree String Value} (inside : w ∈ writes pre vars) :
    2 ≤ w.1.length := by
  obtain ⟨v, -, spelled, -⟩ := mem_writes_iff.mp inside
  exact spelled.long

/-- The settings of an environment whose variables can be read: they are proper, and every key leads to
a table. -/
theorem exists_settings (readable : Readable pre vars) : ∃ found, settings pre vars = .ok found ∧
    Tree.table found = (Tree.table []).setAll (writes pre vars) ∧
      Tree.ProperTable Value.IsScalar found ∧
        ∀ k t, Table.get? found k = some t → t.isTable = true := by
  obtain ⟨found, read, all⟩ := readVariables_eq readable []
  have proper : (Tree.table found).Proper Value.IsScalar := by
    rw [all]
    refine Tree.proper_setAll ⟨List.nodup_nil, trivial⟩ fun w inside => ?_
    obtain ⟨v, -, -, value⟩ := mem_writes_iff.mp inside
    exact Tree.proper_mono (fun _ printed => printed.1) w.2 (stands_of_readText value).isPrinted
  refine ⟨found, read, all, proper, fun k t there => ?_⟩
  have below : ((Tree.table []).setAll (writes pre vars)).get? [k] = some t := by
    rw [← all, Tree.get?_cons, Tree.entries, there]
    exact Tree.get?_nil t
  exact Tree.isTable_of_setAll (fun w inside => long_of_mem_writes inside) below

/-- The last variable at a path, or below it, leaves its value there. -/
theorem get?_setAll_writes {earlier later : Variables} {name s : String} {path : List String}
    {t : Tree String Value} (spelled : Spells pre name path) (value : readText s = .ok t)
    (apart : ∀ v ∈ later, ∀ p, Spells pre v.1 p → Tree.Apart p path) :
    ((Tree.table []).setAll (writes pre (earlier ++ (name, s) :: later))).get? path = some t := by
  obtain ⟨key, rest, rfl⟩ := spelled.cons
  have split : writes pre (earlier ++ (name, s) :: later) =
      (writes pre earlier ++ [(key :: rest, t)]) ++ writes pre later := by
    have here : ((variablePath? pre name).bind fun p =>
        (readText s).toOption.map fun t => (p.1 :: p.2, t)) = some (key :: rest, t) := by
      rw [variablePath?_eq_some_iff.mpr spelled, value]
      rfl
    simp [writes, here]
  have others : ∀ w ∈ writes pre later, Tree.Apart w.1 (key :: rest) := by
    intro w inside
    obtain ⟨v, listed, named, -⟩ := mem_writes_iff.mp inside
    exact apart v listed w.1 named
  have written := Tree.get?_set_append ((Tree.table []).setAll (writes pre earlier)) t (key :: rest) []
  rw [List.append_nil] at written
  rw [split, Tree.setAll, List.foldl_append]
  refine (Tree.get?_setAll_of_apart others _).trans ?_
  rw [← Tree.setAll, Tree.setAll_concat]
  exact written

end Environment

/-! ## Configurations -/

namespace Config

open Settings

variable {f : Folder} {path : Option String} {base data : Table String (Tree String Value)}
  {name : String}

/-- The settings of a file, if one is given. -/
def fileSettings (f : Folder) (path : Option String) : Except Fault Toml.Entries :=
  path.elim (.ok []) (readSettingsFile f)

theorem areSettings_of_file (read : fileSettings f path = .ok base) :
    Tree.ProperTable Value.IsScalar base := by
  cases path with
  | none =>
    cases read
    exact ⟨List.nodup_nil, trivial⟩
  | some path =>
    change readSettingsFile f path = .ok base at read
    unfold readSettingsFile at read
    cases there : f.read path with
    | error e =>
      rw [there] at read
      cases read
    | ok bytes =>
      rw [there] at read
      simp only [bind, Except.bind] at read
      split at read
      · cases read
      · split at read
        · next entries parsed =>
          cases read
          exact Toml.areSettings_of_read parsed
        · cases read
        · cases read
        · cases read

/-- A section may be checked by what stands in its place. -/
theorem checkSection_iff : checkSection data name = .ok () ↔
    ∀ t, Table.get? data name = some t → t.isTable = true := by
  rw [checkSection]
  cases Table.get? data name with
  | none => simp
  | some t => cases t <;> simp [Tree.isTable]

/-- Tables of a later layer leave a section a table. -/
theorem checkSection_merge {later : Table String (Tree String Value)}
    (distinct : (Table.keys later).Nodup)
    (tables : ∀ k t, Table.get? later k = some t → t.isTable = true)
    (checked : checkSection base name = .ok () ∨ ∃ t, Table.get? later name = some t) :
    checkSection (Tree.mergeEntries base later) name = .ok () := by
  rw [checkSection_iff, Tree.get?_mergeEntries distinct]
  intro t there
  cases found : Table.get? later name with
  | none =>
    obtain checked | ⟨t', found'⟩ := checked
    · rw [found] at there
      exact checkSection_iff.mp checked t there
    · cases found.symm.trans found'
  | some inner =>
    have inside := tables name inner found
    rw [found] at there
    cases before : Table.get? base name with
    | none =>
      rw [before] at there
      cases there
      exact inside
    | some earlier =>
      rw [before] at there
      cases there
      rw [Tree.isTable_merge]
      exact inside

theorem outcome_ofSettings (proper : Tree.ProperTable Value.IsScalar data)
    (logging : checkSection data "logging" = .ok ()) (render : checkSection data "render" = .ok ())
    {file : String} (written : textOr "" (setting? data "logging" "file") = .ok file)
    (path : Option String) (w : World) : ∃ c,
      (outcome (ofSettings (generalKeys data) path) w).1 = .ok c ∧ c.logging.file = file := by
  have steps : ofSettings (generalKeys data) path =
      (sectionOf (generalKeys (Tree.mergeEntries defaults data)) "logging" >>= loggingOf) >>=
        fun logging => (sectionOf (generalKeys (Tree.mergeEntries defaults data)) "render" >>=
          strictOf) >>= fun strict => pure ⟨logging, strict, path⟩ := by
    rw [ofSettings, mergeEntries_defaultSettings]
    simp only [bind_assoc]
  obtain ⟨w₁, logs⟩ := outcome_loggingOf_merged proper logging w
  obtain ⟨w₂, strict⟩ := outcome_strictOf_merged proper render w₁
  rw [written] at logs
  rw [steps, outcome_bind_ok logs, outcome_bind_ok strict]
  exact ⟨_, rfl, rfl⟩

theorem outcome_load {vars : Environment.Variables} {found : Table String (Tree String Value)}
    (read : fileSettings f path = .ok base)
    (settings : Environment.settings Environment.mark vars = .ok found) (w : World) :
    outcome (load f path (some vars)) w =
      outcome (ofSettings (generalKeys (Tree.mergeEntries base found)) (path.map normalPath)) w := by
  have later : outcome (liftLimit (Environment.settings Environment.mark vars)) w = (.ok found, w) := by
    rw [settings]
    rfl
  cases path with
  | none =>
    cases read
    exact outcome_bind_ok later _
  | some path =>
    change readSettingsFile f path = .ok base at read
    have first : outcome (liftResult (readSettingsFile f path)) w = (.ok base, w) := by
      rw [outcome_liftResult, read]
    exact (outcome_bind_ok first _).trans (outcome_bind_ok later _)

section LogFile

open Environment

variable {earlier later : Environment.Variables} {s : String}

theorem spells_logFile : Spells mark "SIGHTLY_LOGGING__FILE" ["logging", "file"] :=
  variablePath?_eq_some_iff.mp (by decide)

/-- What a variable stands for is written out as the log file, unless it is a table. -/
theorem load_file (read : fileSettings f path = .ok base) (render : checkSection base "render" = .ok ())
    (readable : Readable mark (earlier ++ ("SIGHTLY_LOGGING__FILE", s) :: later))
    (last : ∀ v ∈ later, ∀ p, Spells mark v.1 p → ¬["logging", "file"] <+: p)
    {t : Tree String Value} (value : readText s = .ok t) (single : t.isTable = false) (w : World) :
    ∃ c, (outcome (load f path (some (earlier ++ ("SIGHTLY_LOGGING__FILE", s) :: later))) w).1 =
      .ok c ∧ t.text = .ok c.logging.file := by
  obtain ⟨found, settings, all, proper, tables⟩ := exists_settings readable
  have apart : ∀ v ∈ later, ∀ p, Spells mark v.1 p → Tree.Apart p ["logging", "file"] := by
    intro v listed p spelled
    refine ⟨fun passed => last v listed p spelled ?_, last v listed p spelled⟩
    -- a path of two keys that leads to this one is this one
    rw [passed.eq_of_length_le spelled.long]
  have there : (Tree.table found).get? ["logging", "file"] = some t := by
    rw [all]
    exact get?_setAll_writes spells_logFile value apart
  obtain ⟨logs, under⟩ : ∃ logs, Table.get? found "logging" = some logs := by
    rw [Tree.get?_cons] at there
    obtain ⟨logs, under, -⟩ := Option.bind_eq_some_iff.mp there
    exact ⟨logs, under⟩
  have whole : Tree.ProperTable Value.IsScalar (Tree.mergeEntries base found) :=
    Tree.proper_mergeEntries base found (areSettings_of_file read) proper
  have merged : setting? (Tree.mergeEntries base found) "logging" "file" = some t := by
    have laid : (Tree.table (Tree.mergeEntries base found)).get? ["logging", "file"] =
        some (((Tree.table base).get? ["logging", "file"]).elim t (·.merge t)) := by
      rw [← Tree.merge]
      exact Tree.get?_merge_of_some proper there
    rw [setting?, laid]
    cases (Tree.table base).get? ["logging", "file"] with
    | none => rfl
    | some earlier => exact congrArg some (Tree.merge_of_single earlier single)
  have printed : t.Proper Value.IsPrinted := (stands_of_readText value).isPrinted
  obtain ⟨file, text⟩ := Tree.exists_text printed
  have written : textOr "" (setting? (Tree.mergeEntries base found) "logging" "file") = .ok file := by
    rw [merged]
    exact text
  obtain ⟨c, loaded, rfl⟩ := outcome_ofSettings whole
    (checkSection_merge proper.1 tables (.inr ⟨logs, under⟩))
    (checkSection_merge proper.1 tables (.inl render)) written (path.map normalPath) w
  refine ⟨c, ?_, text⟩
  rw [outcome_load read settings]
  exact loaded

end LogFile

end Config

end TemplateEngine
