import TemplateEngine.Proofs.MergedValues
import TemplateEngine.Proofs.Arguments
import TemplateEngine.Proofs.Variables
/-!
Writing at a path of nested mappings in place. The mappings carry a tree of settings, each of them in a
cell of its own; then they carry the tree that is written at the path, and nothing else is changed.
-/
namespace TemplateEngine

open World

namespace Table

variable {κ α : Type} [BEq κ] [LawfulBEq κ]

/-- Of two writes under a key the last one is kept, in the place of the first. -/
theorem insert_insert (t : Table κ α) (key : κ) (a b : α) :
    insert (insert t key a) key b = insert t key b := by
  induction t with
  | nil => simp [insert]
  | cons entry rest ih =>
    obtain ⟨k, v⟩ := entry
    by_cases here : k = key <;> simp [insert, here, ih]

end Table

namespace World

theorem rewriteCell_rewriteCell (w : World) (i : Nat) (c d : Cell) :
    (w.rewriteCell i c).rewriteCell i d = w.rewriteCell i d := by
  simp [rewriteCell]

/-! ## Nested tables -/

def isTable (w : World) (v : Value) : Bool :=
  match w.baseCell? v with
  | some (.dict ..) => true
  | _ => false

mutual

/-- A value that carries a tree with its tables in the given cells: no single value of the tree is a
table. -/
inductive Nests (w : World) : Tree String Value → Value → List Nat → Prop
  | leaf {a : Value} (single : w.isTable a = false) : Nests w (.leaf a) a []
  | list {i : Nat} {items : List Value} {ts : List (Tree String Value)} {cells : List Nat}
      (there : w.cell? i = some (.list items)) (inside : NestsItems w ts items cells) :
      Nests w (.list ts) (.ref i) cells
  | table {i : Nat} {fluent : Bool} {items : Table String Value}
      {es : Table String (Tree String Value)} {cells : List Nat}
      (there : w.cell? i = some (.dict fluent (textEntries items)))
      (inside : NestsEntries w es items cells) : Nests w (.table es) (.ref i) (i :: cells)

inductive NestsItems (w : World) : List (Tree String Value) → List Value → List Nat → Prop
  | nil : NestsItems w [] [] []
  | cons {t : Tree String Value} {v : Value} {ts : List (Tree String Value)} {items : List Value}
      {here later : List Nat} (first : Nests w t v here) (others : NestsItems w ts items later) :
      NestsItems w (t :: ts) (v :: items) (here ++ later)

inductive NestsEntries (w : World) :
    Table String (Tree String Value) → Table String Value → List Nat → Prop
  | nil : NestsEntries w [] [] []
  | cons {k : String} {t : Tree String Value} {v : Value} {es : Table String (Tree String Value)}
      {items : Table String Value} {here later : List Nat} (first : Nests w t v here)
      (others : NestsEntries w es items later) :
      NestsEntries w ((k, t) :: es) ((k, v) :: items) (here ++ later)

end

/-- Of all that was there before, at most tables in the given cells are changed. -/
def Touches (w : World) (cells : List Nat) (w' : World) : Prop :=
  ∀ i c, w.cell? i = some c → (∀ fluent entries, c = .dict fluent entries → i ∉ cells) →
    w'.cell? i = some c

variable {w w' w'' : World}

theorem Touches.trans {cells : List Nat} (h : w.Touches cells w') (h' : w'.Touches cells w'') :
    w.Touches cells w'' :=
  fun i c there apart => h' i c (h i c there apart) apart

theorem Touches.mono {cells more : List Nat} (h : w.Touches cells w') (among : cells ⊆ more) :
    w.Touches more w' :=
  fun i c there apart => h i c there fun fluent es same listed => apart fluent es same (among listed)

/-- A cell that was not there before does not count. -/
theorem Touches.trans_new {cells : List Nat} {n : Nat} (h : w.Touches cells w')
    (h' : w'.Touches [n] w'') (new : w.cell? n = none) : w.Touches cells w'' := by
  intro i c there apart
  refine h' i c (h i c there apart) fun _ _ _ listed => ?_
  rw [List.mem_singleton.mp listed, new] at there
  cases there

theorem Touches.rewriteCell {i : Nat} {fluent : Bool} {entries : List (Value × Value)}
    (there : w.cell? i = some (.dict fluent entries)) (c : Cell) :
    w.Touches [i] (w.rewriteCell i c) := by
  intro j d there' apart
  have other : j ≠ i := by
    rintro rfl
    exact apart fluent entries (Option.some.inj (there'.symm.trans there)) List.mem_cons_self
  rwa [cell?_rewriteCell_of_ne other]

theorem Touches.withCell (w : World) (c : Cell) (cells : List Nat) : w.Touches cells (w.withCell c) :=
  fun _ _ there _ => cell?_withCell_of_cell? there c

mutual

/-- A tree is left as it was if its tables are not among those that are changed. -/
theorem Nests.carries {changed : List Nat} (touched : w.Touches changed w') :
    ∀ {t : Tree String Value} {v : Value} {cells : List Nat}, w.Nests t v cells →
      cells.Disjoint changed → w'.Carries t v
  | .leaf a, _, _, nested, apart => by
    cases nested
    rfl
  | .list ts, _, _, nested, apart => by
    cases nested with
    | @list i items _ _ there inside =>
      have kept := touched i _ there fun _ _ same => nomatch same
      exact ⟨i, items, rfl, kept, inside.carries touched apart⟩
  | .table es, _, _, nested, apart => by
    cases nested with
    | @table i fluent items _ _ there inside =>
      obtain ⟨other, others⟩ := List.disjoint_cons_left.mp apart
      have kept := touched i _ there fun _ _ _ => other
      exact ⟨i, fluent, _, rfl, kept, inside.carries touched others⟩

theorem NestsItems.carries {changed : List Nat} (touched : w.Touches changed w') :
    ∀ {ts : List (Tree String Value)} {items : List Value} {cells : List Nat},
      w.NestsItems ts items cells → cells.Disjoint changed → w'.CarriesItems ts items
  | [], _, _, nested, _ => by
    cases nested
    rfl
  | t :: ts, _, _, nested, apart => by
    cases nested with
    | cons first others =>
      obtain ⟨here, later⟩ := List.disjoint_append_left.mp apart
      exact ⟨_, _, rfl, first.carries touched here, others.carries touched later⟩

theorem NestsEntries.carries {changed : List Nat} (touched : w.Touches changed w') :
    ∀ {es : Table String (Tree String Value)} {items : Table String Value} {cells : List Nat},
      w.NestsEntries es items cells → cells.Disjoint changed →
        w'.CarriesEntries es (textEntries items)
  | [], _, _, nested, _ => by
    cases nested
    rfl
  | (k, t) :: es, _, _, nested, apart => by
    cases nested with
    | cons first others =>
      obtain ⟨here, later⟩ := List.disjoint_append_left.mp apart
      exact ⟨_, _, rfl, first.carries touched here, others.carries touched later⟩

end

/-! ## One entry of a table -/

section Entries

variable {es : Table String (Tree String Value)} {items : Table String Value} {cells : List Nat}
  {key : String}

/-- An entry that is written carries what was written, and the others stay. -/
theorem NestsEntries.carries_insert {changed : List Nat} {t : Tree String Value} {v : Value}
    (nested : w.NestsEntries es items cells) (touched : w.Touches changed w')
    (apart : cells.Disjoint changed) (new : w'.Carries t v) :
    w'.CarriesEntries (Table.insert es key t) (textEntries (Table.insert items key v)) := by
  induction es generalizing items cells with
  | nil =>
    cases nested
    exact ⟨v, [], rfl, new, rfl⟩
  | cons e es ih =>
    cases nested with
    | @cons k s x _ items here later first others =>
      obtain ⟨first_apart, others_apart⟩ := List.disjoint_append_left.mp apart
      by_cases same : k = key
      · subst same
        simp only [Table.insert, beq_self_eq_true, if_true]
        exact ⟨v, _, rfl, new, others.carries touched others_apart⟩
      · simp only [Table.insert, beq_eq_false_iff_ne.mpr same, Bool.false_eq_true, if_false]
        exact ⟨x, _, rfl, first.carries touched first_apart, ih others others_apart⟩

/-- The value under a key carries the tree under it. -/
theorem NestsEntries.get? (nested : w.NestsEntries es items cells) (key : String) :
    (Table.get? es key = none ∧ Table.get? items key = none) ∨
      ∃ t v here, Table.get? es key = some t ∧ Table.get? items key = some v ∧ w.Nests t v here := by
  induction es generalizing items cells with
  | nil =>
    cases nested
    exact .inl ⟨rfl, rfl⟩
  | cons e es ih =>
    cases nested with
    | @cons k t v _ items here later first others =>
      by_cases same : k = key
      · subst same
        exact .inr ⟨t, v, here, by simp [Table.get?], by simp [Table.get?], first⟩
      · simpa [Table.get?, same] using ih others

/-- If the tables below a key are changed, the others stay. -/
theorem NestsEntries.carries_below (nested : w.NestsEntries es items cells) (distinct : cells.Nodup)
    {t : Tree String Value} (found : Table.get? es key = some t) :
    ∃ v here, Table.get? items key = some v ∧ w.Nests t v here ∧ here.Sublist cells ∧
      ∀ {w' : World} {t' : Tree String Value}, w.Touches here w' → w'.Carries t' v →
        w'.CarriesEntries (Table.insert es key t') (textEntries items) := by
  induction es generalizing items cells with
  | nil => cases found
  | cons e es ih =>
    cases nested with
    | @cons k s x _ items here later first others =>
      obtain ⟨-, later_distinct, apart⟩ := List.nodup_append'.mp distinct
      by_cases same : k = key
      · subst same
        obtain rfl : s = t := by simpa [Table.get?] using found
        refine ⟨x, here, by simp [Table.get?], first, List.sublist_append_left .., ?_⟩
        intro w' t' touched new
        simp only [Table.insert, beq_self_eq_true, if_true]
        exact ⟨x, _, rfl, new, others.carries touched apart.symm⟩
      · simp only [Table.get?, beq_eq_false_iff_ne.mpr same, Bool.false_eq_true, if_false] at found
        obtain ⟨v, below, got, nested, among, kept⟩ := ih others later_distinct found
        refine ⟨v, below, by simp [Table.get?, same, got], nested,
          among.trans (List.sublist_append_right ..), ?_⟩
        intro w' t' touched new
        have first_apart : here.Disjoint below := fun i hi hb => apart hi (among.subset hb)
        simp only [Table.insert, beq_eq_false_iff_ne.mpr same, Bool.false_eq_true, if_false]
        exact ⟨x, _, rfl, first.carries touched first_apart, kept touched new⟩

end Entries

theorem isTable_of_dict {i : Nat} {fluent : Bool} {entries : List (Value × Value)}
    (there : w.cell? i = some (.dict fluent entries)) : w.isTable (.ref i) = true := by
  simp [isTable, baseCell?_of_dict there]

/-- A value is a table if the tree that it carries is one. -/
theorem Nests.isTable {t : Tree String Value} {v : Value} {cells : List Nat}
    (nested : w.Nests t v cells) : w.isTable v = t.isTable := by
  cases nested with
  | leaf single => exact single
  | list there inside => simp [World.isTable, baseCell?_of_list there, Tree.isTable]
  | table there inside => exact isTable_of_dict there

end World

/-! ## Steps -/

namespace Settings

section Steps

variable {w : World} {i : Nat} {fluent : Bool} {items : Table String Value} {key : String}

theorem base_of_dict (there : w.cell? i = some (.dict fluent (textEntries items))) :
    w.base (.ref i) = .ref i := by
  simp [base_ref, there, Cell.base?]

theorem outcome_put_text (there : w.cell? i = some (.dict fluent (textEntries items)))
    (key : String) (v : Value) : outcome (put (.ref i) (.text key) v) w =
      (.ok (), w.rewriteCell i (.dict fluent (textEntries (Table.insert items key v)))) := by
  rw [put, outcome_get_bind]
  simp only [base_of_dict there, baseCell?_of_dict there]
  rw [writeEntry, outcome_get_bind]
  simp only [there]
  rw [outcome_bind_ok (outcome_insertEntry_texts w items key v)]
  rfl

/-- A table that is there is used. -/
theorem outcome_entryTable_found (there : w.cell? i = some (.dict fluent (textEntries items)))
    {inner : Value} (found : Table.get? items key = some inner) (table : w.isTable inner = true) :
    outcome (setInPlace.entryTable (.ref i) (.text key)) w = (.ok inner, w) := by
  have looked := outcome_lookUpEntry_texts w items key
  rw [found] at looked
  rw [setInPlace.entryTable, outcome_get_bind]
  simp only [mapping?, baseCell?_of_dict there]
  rw [outcome_bind_ok looked]
  unfold World.isTable at table
  split at table
  · rename_i inside
    simp [inside]
  · cases table

/-- A new table is put in the place of anything else. -/
theorem outcome_entryTable_new (there : w.cell? i = some (.dict fluent (textEntries items)))
    (missing : ∀ inner, Table.get? items key = some inner → w.isTable inner = false) :
    outcome (setInPlace.entryTable (.ref i) (.text key)) w =
      (.ok (.ref w.cells.size), (w.withCell (.dict false [])).rewriteCell i
        (.dict fluent (textEntries (Table.insert items key (.ref w.cells.size))))) := by
  have still := cell?_withCell_of_cell? there (.dict false [])
  have made : outcome (do
      let inner ← alloc (.dict false [])
      put (.ref i) (.text key) inner
      return inner) w = (.ok (.ref w.cells.size), (w.withCell (.dict false [])).rewriteCell i
        (.dict fluent (textEntries (Table.insert items key (.ref w.cells.size))))) := by
    rw [outcome_bind_ok (outcome_alloc w _)]
    exact outcome_bind_ok (outcome_put_text still key _) _
  have looked := outcome_lookUpEntry_texts w items key
  rw [setInPlace.entryTable, outcome_get_bind]
  simp only [mapping?, baseCell?_of_dict there]
  rw [outcome_bind_ok looked]
  cases found : Table.get? items key with
  | none => exact made
  | some inner =>
    dsimp only
    split
    · rename_i inside
      have single := missing inner found
      simp [World.isTable, inside] at single
    · exact made

end Steps

/-! ## Writing at a path -/

/-- What a write at a path does to the table in a cell. -/
structure Writes (w : World) (es : Table String (Tree String Value)) (d : Value) (cells : List Nat)
    (key : String) (path : List String) (v : Value) (w' : World) : Prop where
  ran : outcome (setInPlace d key path v) w = (.ok (), w')
  carries : w'.Carries (.table (Tree.setAt es key path (.leaf v))) d
  touched : w.Touches cells w'
  again : ∀ x, outcome (setInPlace d key path x) w' = outcome (setInPlace d key path x) w

variable {w : World} {es : Table String (Tree String Value)} {d v : Value} {cells : List Nat}
  {key : String}

/-- The last key is written in the table itself. -/
theorem exists_writes_last (nested : w.Nests (.table es) d cells) (distinct : cells.Nodup) :
    ∃ w', Writes w es d cells key [] v w' := by
  cases nested with
  | @table i fluent items _ inner there inside =>
    let entries (x : Value) := textEntries (Table.insert items key x)
    have touched : w.Touches [i] (w.rewriteCell i (.dict fluent (entries v))) := .rewriteCell there _
    have apart : inner.Disjoint [i] := by
      simpa [List.disjoint_singleton] using (List.nodup_cons.mp distinct).1
    have rewritten := cell?_rewriteCell_self there (.dict fluent (entries v))
    refine ⟨_, outcome_put_text there key v, ?_, touched.mono (by simp), fun x => ?_⟩
    · exact ⟨i, fluent, _, rfl, rewritten, inside.carries_insert touched apart rfl⟩
    · calc outcome (put (.ref i) (.text key) x) (w.rewriteCell i (.dict fluent (entries v)))
        _ = (.ok (), w.rewriteCell i (.dict fluent (entries x))) := by
          rw [outcome_put_text rewritten, rewriteCell_rewriteCell, Table.insert_insert]
        _ = outcome (put (.ref i) (.text key) x) w := (outcome_put_text there key x).symm

/-- A write below a table that is there leaves the table above as it is. -/
theorem exists_writes_below (nested : w.Nests (.table es) d cells) (distinct : cells.Nodup)
    {sub : Table String (Tree String Value)} (found : Table.get? es key = some (.table sub))
    {next : String} {path : List String}
    (below : ∀ {d : Value} {here : List Nat}, w.Nests (.table sub) d here → here.Nodup →
      ∃ w', Writes w sub d here next path v w') :
    ∃ w', Writes w es d cells key (next :: path) v w' := by
  cases nested with
  | @table i fluent items _ cells there inside =>
    obtain ⟨outside, distinct⟩ := List.nodup_cons.mp distinct
    obtain ⟨inner, here, got, nested, among, kept⟩ := inside.carries_below distinct found
    obtain ⟨w', written⟩ := below nested (distinct.sublist among)
    have still := written.touched i _ there fun _ _ _ listed => outside (among.subset listed)
    have table : w'.isTable inner = true := by
      obtain ⟨j, b, entries, rfl, there, -⟩ := written.carries
      exact isTable_of_dict there
    have descend (x : Value) : outcome (setInPlace (.ref i) key (next :: path) x) w =
        outcome (setInPlace inner next path x) w := by
      rw [setInPlace, outcome_bind_ok (outcome_entryTable_found there got nested.isTable)]
    have descend' (x : Value) : outcome (setInPlace (.ref i) key (next :: path) x) w' =
        outcome (setInPlace inner next path x) w' := by
      rw [setInPlace, outcome_bind_ok (outcome_entryTable_found still got table)]
    refine ⟨w', (descend v).trans written.ran, ?_, ?_, fun x => ?_⟩
    · simp only [Tree.setAt, found, Option.map_some, Option.getD_some, Tree.entries]
      exact ⟨i, fluent, _, rfl, still, kept written.touched written.carries⟩
    · exact written.touched.mono fun j listed => List.mem_cons_of_mem _ (among.subset listed)
    · rw [descend', descend, written.again]

/-- Where there is no table a new one is put, and the write goes on in it. -/
theorem exists_writes_new (nested : w.Nests (.table es) d cells) (distinct : cells.Nodup)
    (missing : ∀ t, Table.get? es key = some t → t.isTable = false)
    {next : String} {path : List String}
    (below : ∀ {w : World} {d : Value} {here : List Nat}, w.Nests (.table []) d here → here.Nodup →
      ∃ w', Writes w [] d here next path v w') :
    ∃ w', Writes w es d cells key (next :: path) v w' := by
  cases nested with
  | @table i fluent items _ inner there inside =>
    let n := w.cells.size
    let entries := textEntries (Table.insert items key (.ref n))
    let w₁ := (w.withCell (.dict false [])).rewriteCell i (.dict fluent entries)
    have old : i ≠ n := Nat.ne_of_lt (lt_size_of_cell? there)
    have empty : w₁.cell? n = some (.dict false (textEntries [])) :=
      (cell?_rewriteCell_of_ne old.symm _).trans (cell?_withCell_self w _)
    have rewritten : w₁.cell? i = some (.dict fluent entries) :=
      cell?_rewriteCell_self (cell?_withCell_of_cell? there _) _
    obtain ⟨w', written⟩ := below (Nests.table empty .nil) (List.nodup_singleton n)
    have prepared : w.Touches [i] w₁ :=
      (Touches.withCell w _ [i]).trans (.rewriteCell (cell?_withCell_of_cell? there _) _)
    have touched : w.Touches [i] w' := prepared.trans_new written.touched (by simp [cell?, n])
    have still := written.touched i _ rewritten fun _ _ _ listed => old (List.mem_singleton.mp listed)
    have apart : inner.Disjoint [i] := by
      simpa [List.disjoint_singleton] using (List.nodup_cons.mp distinct).1
    have absent (x : Value) (got : Table.get? items key = some x) : w.isTable x = false := by
      obtain ⟨-, none⟩ | ⟨t, x', here, found, got', nested⟩ := inside.get? key
      · cases none.symm.trans got
      · obtain rfl := Option.some.inj (got'.symm.trans got)
        rw [nested.isTable, missing t found]
    have table : w'.isTable (.ref n) = true := by
      obtain ⟨j, b, entries, same, there, -⟩ := written.carries
      rw [same]
      exact isTable_of_dict there
    have descend (x : Value) : outcome (setInPlace (.ref i) key (next :: path) x) w =
        outcome (setInPlace (.ref n) next path x) w₁ := by
      rw [setInPlace, outcome_bind_ok (outcome_entryTable_new there absent)]
    have descend' (x : Value) : outcome (setInPlace (.ref i) key (next :: path) x) w' =
        outcome (setInPlace (.ref n) next path x) w' := by
      have got : Table.get? (Table.insert items key (.ref n)) key = some (.ref n) :=
        Table.get?_insert_self ..
      rw [setInPlace, outcome_bind_ok (outcome_entryTable_found still got table)]
    refine ⟨w', (descend v).trans written.ran, ?_, touched.mono (by simp), fun x => ?_⟩
    · have nothing : ((Table.get? es key).map Tree.entries).getD [] = [] := by
        cases found : Table.get? es key with
        | none => rfl
        | some t => exact Tree.entries_of_single (missing t found)
      rw [Tree.setAt, nothing]
      exact ⟨i, fluent, _, rfl, still, inside.carries_insert touched apart written.carries⟩
    · rw [descend', descend, written.again]

/-- A write at a path of nested tables: the tables carry the tree that is written at the path, only
tables of theirs are changed, and a later write at the path does what it would have done before. -/
theorem exists_writes (path : List String) (nested : w.Nests (.table es) d cells)
    (distinct : cells.Nodup) : ∃ w', Writes w es d cells key path v w' := by
  induction path generalizing w es d cells key with
  | nil => exact exists_writes_last nested distinct
  | cons next path ih =>
    by_cases there : ∃ sub, Table.get? es key = some (.table sub)
    · obtain ⟨sub, found⟩ := there
      exact exists_writes_below nested distinct found ih
    · refine exists_writes_new nested distinct (fun t found => ?_) ih
      cases t with
      | table sub => exact absurd ⟨sub, found⟩ there
      | leaf a => rfl
      | list ts => rfl

/-- Settings with a table, a text and a list. -/
def nestedWorld : World where
  cells := #[.tuple [], .dict false (textEntries [("level", .text "info")]), .list [.text "pages"],
    .dict false (textEntries [("logging", .ref 1), ("limits", .text "soft"), ("paths", .ref 2)])]

def nestedEntries : Table String (Tree String Value) :=
  [("logging", .table [("level", .leaf (.text "info"))]), ("limits", .leaf (.text "soft")),
    ("paths", .list [.leaf (.text "pages")])]

theorem nestedWorld_nests : nestedWorld.Nests (.table nestedEntries) (.ref 3) [3, 1] := by
  have single (s : String) : nestedWorld.Nests (.leaf (.text s)) (.text s) [] := .leaf rfl
  have inner : nestedWorld.cell? 1 = some (.dict false (textEntries [("level", .text "info")])) := rfl
  have outer : nestedWorld.cell? 3 = some (.dict false
      (textEntries [("logging", .ref 1), ("limits", .text "soft"), ("paths", .ref 2)])) := rfl
  have logging : nestedWorld.Nests (.table [("level", .leaf (.text "info"))]) (.ref 1) [1] :=
    .table inner (.cons (single "info") .nil)
  have paths : nestedWorld.Nests (.list [.leaf (.text "pages")]) (.ref 2) [] :=
    .list rfl (.cons (single "pages") .nil)
  exact .table outer (.cons logging (.cons (single "soft") (.cons paths .nil)))

end Settings

end TemplateEngine
