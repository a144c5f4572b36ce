import TemplateEngine.Proofs.Layers
import TemplateEngine.Proofs.Paths
/-!
What a later layer of settings makes of an earlier one. A single value of the later layer stands in the
merged settings wherever it stood, and hides what the earlier layer has there and below; everything else
of the earlier layer shows through. The keys of a table keep their order, and new ones come last.
-/
namespace TemplateEngine.Tree

variable {κ α : Type} [BEq κ]

/-! ## Merged trees -/

theorem merge_of_single (base : Tree κ α) {later : Tree κ α} (single : later.isTable = false) :
    base.merge later = later := by
  cases later with
  | table later => cases single
  | leaf a => cases base <;> rfl
  | list items => cases base <;> rfl

theorem merge_table_of_single {base : Tree κ α} (single : base.isTable = false)
    (later : Tree κ α) : base.merge later = later := by
  cases base with
  | table entries => cases single
  | leaf a => exact merge_leaf_left a later
  | list items => cases later <;> rfl

theorem isTable_merge (base later : Tree κ α) : (base.merge later).isTable = later.isTable := by
  cases later with
  | leaf a => rw [merge_of_single base rfl]
  | list items => rw [merge_of_single base rfl]
  | table later => cases base <;> rfl

/-- Below a single value nothing stands. -/
theorem get?_of_single {t : Tree κ α} (single : t.isTable = false) (k : κ) (path : List κ) :
    t.get? (k :: path) = none := by
  rw [get?_cons, entries_of_single single]
  rfl

/-- Whether a single value or a list stands somewhere above a path. -/
def Covers (t : Tree κ α) (path : List κ) : Prop :=
  ∃ q k r, path = q ++ k :: r ∧ t.leafAt? q ≠ none

/-- A path below a single value is covered, and so is one that leads through a table to a covered
one. -/
theorem covers_of_single {t : Tree κ α} (single : t.isTable = false) (k : κ) (path : List κ) :
    t.Covers (k :: path) :=
  ⟨[], k, path, rfl, Option.ne_none_iff_exists'.mpr
    ⟨t, leafAt?_eq_some_iff.mpr ⟨get?_nil t, single⟩⟩⟩

theorem Covers.cons {entries : Table κ (Tree κ α)} {k : κ} {inner : Tree κ α} {path : List κ}
    (h : inner.Covers path) (there : Table.get? entries k = some inner) :
    (table entries).Covers (k :: path) := by
  obtain ⟨q, key, r, rfl, covering⟩ := h
  refine ⟨k :: q, key, r, rfl, ?_⟩
  rwa [leafAt?, get?_cons, Tree.entries, there]

section

variable [LawfulBEq κ] {kind : α → Prop}

/-- One step into merged tables. -/
theorem get?_merge_cons (base : Tree κ α) {later : Table κ (Tree κ α)}
    (distinct : (Table.keys later).Nodup) (k : κ) (path : List κ) :
    (base.merge (table later)).get? (k :: path) =
      match Table.get? later k with
      | some inner => ((Table.get? base.entries k).elim inner (·.merge inner)).get? path
      | none => base.get? (k :: path) := by
  cases single : base.isTable with
  | false =>
    rw [merge_table_of_single single, get?_of_single single, entries_of_single single, get?_cons, entries]
    cases Table.get? later k <;> rfl
  | true =>
    obtain ⟨earlier, rfl⟩ : ∃ earlier, base = table earlier := by
      cases base with
      | table earlier => exact ⟨earlier, rfl⟩
      | leaf a => cases single
      | list items => cases single
    rw [merge, get?_cons, get?_cons, entries, entries, get?_mergeEntries distinct]
    cases Table.get? later k <;> cases Table.get? earlier k <;> rfl

/-- What the later layer has at a path is laid over what was there. -/
theorem get?_merge_of_some {base later t : Tree κ α} (proper : later.Proper kind) {path : List κ}
    (found : later.get? path = some t) :
    (base.merge later).get? path = some ((base.get? path).elim t (·.merge t)) := by
  induction path generalizing base later with
  | nil =>
    obtain rfl : later = t := Option.some.inj (by simpa using found)
    simp
  | cons k path ih =>
    cases later with
    | leaf a => rw [get?_of_single rfl] at found; cases found
    | list items => rw [get?_of_single rfl] at found; cases found
    | table later =>
      rw [get?_cons, entries] at found
      obtain ⟨inner, there, found⟩ := Option.bind_eq_some_iff.mp found
      rw [get?_merge_cons base proper.1, there, get?_cons]
      cases Table.get? base.entries k with
      | none => exact found
      | some earlier => exact ih (ProperTable.get? proper there) found

/-- What the later layer says nothing about shows through. -/
theorem get?_merge_of_none {base later : Tree κ α} (proper : later.Proper kind) {path : List κ}
    (missing : later.get? path = none) (bare : ¬later.Covers path) :
    (base.merge later).get? path = base.get? path := by
  induction path generalizing base later with
  | nil => cases missing
  | cons k path ih =>
    cases later with
    | leaf a => exact absurd (covers_of_single rfl k path) bare
    | list items => exact absurd (covers_of_single rfl k path) bare
    | table later =>
      rw [get?_merge_cons base proper.1]
      rw [get?_cons, entries] at missing
      cases there : Table.get? later k with
      | none => rfl
      | some inner =>
        rw [there] at missing
        rw [get?_cons]
        cases Table.get? base.entries k with
        | none => exact missing
        | some earlier =>
          exact ih (ProperTable.get? proper there) missing fun covered => bare (covered.cons there)

/-- A single value of the later layer hides all that is below. -/
theorem get?_merge_of_covers (base : Tree κ α) {later : Tree κ α} (proper : later.Proper kind)
    {path : List κ} (covered : later.Covers path) : (base.merge later).get? path = none := by
  obtain ⟨q, k, r, rfl, there⟩ := covered
  obtain ⟨t, found⟩ := Option.ne_none_iff_exists'.mp there
  obtain ⟨found, single⟩ := leafAt?_eq_some_iff.mp found
  rw [get?_append, get?_merge_of_some proper found]
  cases base.get? q with
  | none => exact get?_of_single single k r
  | some earlier =>
    change (earlier.merge t).get? (k :: r) = none
    rw [merge_of_single earlier single, get?_of_single single]

end

/-! ## Identities -/

section

variable [LawfulBEq κ]

/-- Entries that are there already, and that merging with themselves does not change, change
nothing. -/
theorem mergeEntries_of_there {base later : Table κ (Tree κ α)}
    (there : ∀ e ∈ later, Table.get? base e.1 = some e.2 ∧ e.2.merge e.2 = e.2) :
    mergeEntries base later = base := by
  induction later with
  | nil => rfl
  | cons e rest ih =>
    obtain ⟨k, t⟩ := e
    obtain ⟨found, same⟩ := there (k, t) List.mem_cons_self
    have kept : Table.insert base k (t.merge t) = base := by rw [same, Table.insert_of_get? found]
    rw [mergeEntries, found]
    simp only [kept]
    exact ih fun e he => there e (List.mem_cons_of_mem _ he)

/-- Entries under new keys are appended as they are. -/
theorem mergeEntries_of_new {base later : Table κ (Tree κ α)} (distinct : (Table.keys later).Nodup)
    (new : ∀ k ∈ Table.keys later, k ∉ Table.keys base) : mergeEntries base later = base ++ later := by
  induction later generalizing base with
  | nil => simp [mergeEntries]
  | cons e rest ih =>
    obtain ⟨k, t⟩ := e
    obtain ⟨single, distinct⟩ : k ∉ Table.keys rest ∧ (Table.keys rest).Nodup := by
      simpa [Table.keys] using distinct
    have missing : k ∉ Table.keys base := new k (by simp [Table.keys])
    have others : ∀ key ∈ Table.keys rest, key ∉ Table.keys (base ++ [(k, t)]) := by
      intro key hkey known
      rw [Table.keys, List.map_append] at known
      rcases List.mem_append.mp known with known | here
      · exact new key (List.mem_cons_of_mem _ hkey) known
      · obtain rfl : key = k := by simpa using here
        exact single hkey
    rw [mergeEntries, (Table.get?_eq_none_iff base k).mpr missing]
    simp only [Table.insert_of_not_mem missing, ih distinct others, List.append_assoc]
    rfl

/-- New keys come last, in their order. -/
theorem keys_mergeEntries {later : Table κ (Tree κ α)} (distinct : (Table.keys later).Nodup)
    (base : Table κ (Tree κ α)) : Table.keys (mergeEntries base later) =
      Table.keys base ++ (Table.keys later).filter (!(Table.keys base).contains ·) := by
  induction later generalizing base with
  | nil => simp [mergeEntries, Table.keys]
  | cons e rest ih =>
    obtain ⟨k, t⟩ := e
    obtain ⟨single, distinct⟩ : k ∉ Table.keys rest ∧ (Table.keys rest).Nodup := by
      simpa [Table.keys] using distinct
    rw [mergeEntries, ih distinct, show Table.keys ((k, t) :: rest) = k :: Table.keys rest from rfl,
      List.filter_cons]
    by_cases known : k ∈ Table.keys base
    · rw [Table.keys_insert_of_mem base _ known, if_neg (by simpa using known)]
    · have others : ∀ key ∈ Table.keys rest,
          (!(Table.keys base ++ [k]).contains key) = !(Table.keys base).contains key := by
        intro key hkey
        have apart : key ≠ k := fun same => single (same ▸ hkey)
        simp [apart]
      rw [Table.keys_insert_of_not_mem base _ known, if_pos (by simpa using known),
        List.filter_congr others, List.append_assoc]
      rfl

end

mutual

/-- A tree merged with itself is the same. -/
theorem merge_self [LawfulBEq κ] {kind : α → Prop} : ∀ t : Tree κ α, t.Proper kind → t.merge t = t
  | leaf _, _ => rfl
  | list _, _ => rfl
  | table entries, h =>
    congrArg table (mergeEntries_of_there fun e he =>
      ⟨Table.get?_of_mem h.1 he, merge_self_of_mem entries h.2 e he⟩)

theorem merge_self_of_mem [LawfulBEq κ] {kind : α → Prop} : ∀ entries : List (κ × Tree κ α),
    ProperEntries kind entries → ∀ e ∈ entries, e.2.merge e.2 = e.2
  | (k, t) :: rest, h, e, he => by
    rcases List.mem_cons.mp he with rfl | he
    · exact merge_self t h.1
    · exact merge_self_of_mem rest h.2 e he

end

/-! ## Layers -/

/-- The keys of the table at a path; anything else has none. -/
def keysAt (t : Tree κ α) (path : List κ) : List κ :=
  Table.keys (((t.get? path).map entries).getD [])

theorem get?_eq_none_of_bare {t : Tree κ α} {path : List κ} (single : t.leafAt? path = none)
    (bare : ¬t.HasTable path) : t.get? path = none := by
  cases found : t.get? path with
  | none => rfl
  | some s =>
    cases kind : s.isTable with
    | true => exact absurd (hasTable_iff.mpr ⟨s, found, kind⟩) bare
    | false => rw [leafAt?_eq_some_iff.mpr ⟨found, kind⟩] at single; cases single

section

variable [LawfulBEq κ] {kind : α → Prop} {base later : Tree κ α} {path : List κ}

theorem proper_get? {t s : Tree κ α} (proper : t.Proper kind) (found : t.get? path = some s) :
    s.Proper kind := by
  induction path generalizing t with
  | nil => exact Option.some.inj ((get?_nil t).symm.trans found) ▸ proper
  | cons k path ih =>
    cases t with
    | leaf a => rw [get?_of_single rfl] at found; cases found
    | list items => rw [get?_of_single rfl] at found; cases found
    | table entries =>
      rw [get?_cons] at found
      obtain ⟨inner, there, found⟩ := Option.bind_eq_some_iff.mp found
      exact ih (ProperTable.get? proper there) found

/-- A single value of the later layer stands where it stood. -/
theorem leafAt?_merge_of_some (proper : later.Proper kind) {t : Tree κ α}
    (found : later.leafAt? path = some t) : (base.merge later).leafAt? path = some t := by
  obtain ⟨found, single⟩ := leafAt?_eq_some_iff.mp found
  refine leafAt?_eq_some_iff.mpr ⟨?_, single⟩
  rw [get?_merge_of_some proper found]
  cases base.get? path with
  | none => rfl
  | some earlier => exact congrArg some (merge_of_single earlier single)

/-- A table of the later layer is a table of the merged ones. -/
theorem hasTable_merge (proper : later.Proper kind) (there : later.HasTable path) :
    (base.merge later).HasTable path := by
  obtain ⟨entries, found⟩ := there
  refine hasTable_iff.mpr ⟨_, get?_merge_of_some proper found, ?_⟩
  cases base.get? path with
  | none => rfl
  | some earlier => exact isTable_merge earlier (table entries)

omit [LawfulBEq κ] in
theorem filter_not_nil_contains (keys : List κ) :
    keys.filter (!([] : List κ).contains ·) = keys :=
  List.filter_eq_self.mpr fun _ _ => rfl

theorem keys_merge {entries : Table κ (Tree κ α)} (proper : ProperTable kind entries) :
    Table.keys (base.merge (table entries)).entries =
      Table.keys base.entries ++ (Table.keys entries).filter (!(Table.keys base.entries).contains ·) := by
  cases base with
  | table earlier => exact keys_mergeEntries proper.1 earlier
  | leaf a =>
    rw [merge_table_of_single rfl]
    exact (filter_not_nil_contains _).symm
  | list items =>
    rw [merge_table_of_single rfl]
    exact (filter_not_nil_contains _).symm

/-- The keys of a merged table: those of the earlier layer, then the new ones of the later layer. -/
theorem keysAt_merge (proper : later.Proper kind) (there : (base.merge later).HasTable path) :
    (base.merge later).keysAt path =
      base.keysAt path ++ (later.keysAt path).filter (!(base.keysAt path).contains ·) := by
  obtain ⟨merged, there⟩ := there
  cases found : later.get? path with
  | none =>
    have bare : ¬later.Covers path := fun covered => by
      rw [get?_merge_of_covers base proper covered] at there
      cases there
    simp [keysAt, get?_merge_of_none proper found bare, found, Table.keys]
  | some t =>
    have whole : (base.merge later).get? path = some ((base.get? path).elim t (·.merge t)) :=
      get?_merge_of_some proper found
    rw [keysAt, keysAt, keysAt, whole, found]
    rw [whole] at there
    cases before : base.get? path with
    | none => exact (filter_not_nil_contains _).symm
    | some earlier =>
      rw [before] at there
      have tabular : (earlier.merge t).isTable = true := congrArg isTable (Option.some.inj there)
      rw [isTable_merge] at tabular
      cases t with
      | leaf a => cases tabular
      | list items => cases tabular
      | table entries => exact keys_merge (proper_get? proper found)

end

/-- A later layer decides what stands at a path wherever it says anything about it, and the earlier
layer decides elsewhere: a single value or list of the later layer stays, and hides what was there and
below; below and in place of its tables nothing single stands but its own; and what it does not mention
is as it was. So nothing is no layer, on either side, a layer over itself is the same, and at every level
the keys of the earlier layer come first, in their order, and the new ones of the later layer last, in
theirs. -/
theorem merge_at_every_path [LawfulBEq κ] {kind : α → Prop} {base later : Table κ (Tree κ α)}
    (hbase : ProperTable kind base) (hlater : ProperTable kind later) :
    let merged := table (mergeEntries base later)
    (∀ path t, (table later).leafAt? path = some t → merged.leafAt? path = some t) ∧
    (∀ path, (table later).HasTable path ∨ (table later).Covers path → merged.leafAt? path = none) ∧
    (∀ path, (table later).leafAt? path = none → ¬(table later).HasTable path →
      ¬(table later).Covers path → merged.leafAt? path = (table base).leafAt? path) ∧
    mergeEntries [] later = later ∧ mergeEntries base [] = base ∧ mergeEntries base base = base ∧
    (∀ path, merged.HasTable path → merged.keysAt path = (table base).keysAt path ++
      ((table later).keysAt path).filter (!((table base).keysAt path).contains ·)) := by
  intro merged
  have same : merged = (table base).merge (table later) := by rw [merge]
  rw [same]
  refine ⟨fun path t => leafAt?_merge_of_some hlater, ?_, ?_, ?_, rfl, ?_,
    fun path => keysAt_merge hlater⟩
  · rintro path (there | covered)
    · exact (hasTable_merge hlater there).leafAt?_eq_none
    · rw [leafAt?, get?_merge_of_covers _ hlater covered, Option.filter_none]
  · intro path single bare uncovered
    rw [leafAt?, get?_merge_of_none hlater (get?_eq_none_of_bare single bare) uncovered, leafAt?]
  · exact mergeEntries_of_new hlater.1 (by simp [Table.keys])
  · have whole := merge_self (table base) hbase
    rw [merge] at whole
    exact table.inj whole

/-- A list over a number, a new key, and an empty table over a number. -/
theorem merge_at_every_path_mixed :
    let base : Table String (Tree String Nat) :=
      [("a", .table [("x", .leaf 1), ("y", .leaf 2)]), ("b", .leaf 3)]
    let later : Table String (Tree String Nat) :=
      [("b", .table []), ("a", .table [("z", .leaf 4), ("y", .list [.leaf 5])])]
    let merged := table (mergeEntries base later)
    ProperTable (fun _ => True) base ∧ ProperTable (fun _ => True) later ∧
      merged.leafAt? ["a", "y"] = some (.list [.leaf 5]) ∧ merged.leafAt? ["b"] = none ∧
      merged.leafAt? ["a", "x"] = some (.leaf 1) ∧ merged.keysAt ["a"] = ["x", "y", "z"] := by
  intro base later merged
  have hbase : ProperTable (fun _ => True) base :=
    ⟨by decide, ⟨by decide, trivial, trivial, trivial⟩, trivial, trivial⟩
  have hlater : ProperTable (fun _ => True) later :=
    ⟨by decide, ⟨List.nodup_nil, trivial⟩, ⟨by decide, trivial, ⟨trivial, trivial⟩, trivial⟩, trivial⟩
  obtain ⟨stays, hides, shows_, -, -, -, keys⟩ := merge_at_every_path hbase hlater
  refine ⟨hbase, hlater, stays ["a", "y"] _ rfl, hides ["b"] (.inl ⟨[], rfl⟩), ?_, ?_⟩
  · refine shows_ ["a", "x"] rfl ?_ ?_
    · rintro ⟨entries, there⟩
      cases there
    · rintro ⟨q, k, r, split, covering⟩
      rcases q with _ | ⟨a, _ | ⟨x, q⟩⟩
      · exact covering rfl
      · obtain ⟨rfl, -⟩ := List.cons.inj split
        exact covering rfl
      · simp at split
  · exact (keys ["a"] ⟨_, rfl⟩).trans (by decide)

end TemplateEngine.Tree
