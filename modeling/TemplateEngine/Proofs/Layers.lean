import TemplateEngine.Settings.Tree
import TemplateEngine.Proofs.Tables
/-!
Layers of settings. A layer decides about a key that it has, together with what earlier layers have
there, and leaves every other key alone. What keys are made of plays no part, and merging proper tables
gives a proper one.
-/
namespace TemplateEngine.Tree

variable {κ κ' α : Type}

/-! ## Proper trees -/

mutual

/-- Every table has each key once, and every single value is of some kind. -/
def Proper (kind : α → Prop) : Tree κ α → Prop
  | leaf a => kind a
  | list items => ProperItems kind items
  | table entries => (Table.keys entries).Nodup ∧ ProperEntries kind entries

def ProperItems (kind : α → Prop) : List (Tree κ α) → Prop
  | [] => True
  | t :: rest => t.Proper kind ∧ ProperItems kind rest

def ProperEntries (kind : α → Prop) : List (κ × Tree κ α) → Prop
  | [] => True
  | (_, t) :: rest => t.Proper kind ∧ ProperEntries kind rest

end

/-- The entries of a proper table. -/
def ProperTable (kind : α → Prop) (entries : Table κ (Tree κ α)) : Prop := (table entries).Proper kind

section

variable {kind : α → Prop}

theorem properEntries_iff {entries : List (κ × Tree κ α)} :
    ProperEntries kind entries ↔ ∀ e ∈ entries, e.2.Proper kind := by
  induction entries with
  | nil => simp [ProperEntries]
  | cons e rest ih => simp [ProperEntries, ih]

theorem properItems_iff {items : List (Tree κ α)} :
    ProperItems kind items ↔ ∀ t ∈ items, t.Proper kind := by
  induction items with
  | nil => simp [ProperItems]
  | cons t rest ih => simp [ProperItems, ih]

mutual

/-- A proper tree of some kind is one of any wider kind. -/
theorem proper_mono {wider : α → Prop} (imp : ∀ a, kind a → wider a) :
    ∀ t : Tree κ α, t.Proper kind → t.Proper wider
  | leaf a, h => imp a h
  | list items, h => properItems_mono imp items h
  | table entries, h => ⟨h.1, properEntries_mono imp entries h.2⟩

theorem properItems_mono {wider : α → Prop} (imp : ∀ a, kind a → wider a) :
    ∀ items : List (Tree κ α), ProperItems kind items → ProperItems wider items
  | [], _ => trivial
  | t :: rest, h => ⟨proper_mono imp t h.1, properItems_mono imp rest h.2⟩

theorem properEntries_mono {wider : α → Prop} (imp : ∀ a, kind a → wider a) :
    ∀ entries : List (κ × Tree κ α), ProperEntries kind entries → ProperEntries wider entries
  | [], _ => trivial
  | (_, t) :: rest, h => ⟨proper_mono imp t h.1, properEntries_mono imp rest h.2⟩

end

variable [BEq κ] [LawfulBEq κ]

theorem ProperTable.get? {entries : Table κ (Tree κ α)} (h : ProperTable kind entries) {k : κ}
    {t : Tree κ α} (found : Table.get? entries k = some t) : t.Proper kind :=
  properEntries_iff.mp h.2 _ (Table.mem_of_get? found)

theorem ProperTable.insert {entries : Table κ (Tree κ α)} (h : ProperTable kind entries) (k : κ)
    {t : Tree κ α} (proper : t.Proper kind) : ProperTable kind (Table.insert entries k t) := by
  refine ⟨Table.nodup_keys_insert entries k t h.1, properEntries_iff.mpr fun e he => ?_⟩
  rcases Table.mem_of_mem_insert he with rfl | he
  · exact proper
  · exact properEntries_iff.mp h.2 e he

end

/-! ## Merging -/

section

variable [BEq κ]

@[simp] theorem merge_leaf_left (a : α) (later : Tree κ α) : (leaf a).merge later = later := by
  cases later <;> rfl

variable [LawfulBEq κ]

/-- A key that a later layer does not have is left alone. -/
theorem get?_mergeEntries_of_not_mem {later base : Table κ (Tree κ α)} {k : κ}
    (missing : k ∉ Table.keys later) :
    Table.get? (mergeEntries base later) k = Table.get? base k := by
  induction later generalizing base with
  | nil => rfl
  | cons e rest ih =>
    obtain ⟨key, t⟩ := e
    obtain ⟨other, missing⟩ : k ≠ key ∧ k ∉ Table.keys rest := by simpa [Table.keys] using missing
    rw [mergeEntries, ih missing, Table.get?_insert_of_ne _ _ other]

/-- What is at a key after a merge: what the later layer has there, laid over what was there. -/
theorem get?_mergeEntries {later : Table κ (Tree κ α)} (distinct : (Table.keys later).Nodup)
    (base : Table κ (Tree κ α)) (k : κ) :
    Table.get? (mergeEntries base later) k =
      match Table.get? later k, Table.get? base k with
      | some t, some earlier => some (earlier.merge t)
      | some t, none => some t
      | none, found => found := by
  induction later generalizing base with
  | nil => rfl
  | cons e rest ih =>
    obtain ⟨key, t⟩ := e
    obtain ⟨single, distinct⟩ : key ∉ Table.keys rest ∧ (Table.keys rest).Nodup := by
      simpa [Table.keys] using distinct
    rw [mergeEntries]
    by_cases here : key = k
    · subst here
      rw [get?_mergeEntries_of_not_mem single, Table.get?_insert_self, Table.get?, if_pos (by simp)]
      cases Table.get? base key <;> rfl
    · rw [ih distinct, Table.get?_insert_of_ne _ _ (Ne.symm here), Table.get?,
        if_neg (by simpa using here)]

end

section

variable {kind : α → Prop}

mutual

theorem proper_merge [BEq κ] [LawfulBEq κ] : ∀ (base later : Tree κ α), base.Proper kind →
    later.Proper kind → (base.merge later).Proper kind
  | base, leaf a, _, h => by cases base <;> exact h
  | base, list items, _, h => by cases base <;> exact h
  | leaf _, table later, _, h => h
  | list _, table later, _, h => h
  | table entries, table later, hbase, h => proper_mergeEntries entries later hbase h

/-- Merging proper tables gives a proper one. -/
theorem proper_mergeEntries [BEq κ] [LawfulBEq κ] : ∀ base later : Table κ (Tree κ α),
    ProperTable kind base → ProperTable kind later → ProperTable kind (mergeEntries base later)
  | base, [], hbase, _ => hbase
  | base, (k, t) :: rest, hbase, h => by
    obtain ⟨distinct, proper, others⟩ := h
    have rest_proper : ProperTable kind rest :=
      ⟨(List.nodup_cons.mp distinct).2, others⟩
    rw [mergeEntries]
    refine proper_mergeEntries _ rest (hbase.insert k ?_) rest_proper
    cases found : Table.get? base k with
    | none => exact proper
    | some earlier => exact proper_merge earlier t (hbase.get? found) proper

end

theorem proper_layers [BEq κ] [LawfulBEq κ] {base : Table κ (Tree κ α)} (hbase : ProperTable kind base)
    {layers : List (Table κ (Tree κ α))} (h : ∀ layer ∈ layers, ProperTable kind layer) :
    ProperTable kind (layers.foldl mergeEntries base) := by
  induction layers generalizing base with
  | nil => exact hbase
  | cons layer rest ih =>
    exact ih (proper_mergeEntries base layer hbase (h layer List.mem_cons_self))
      fun later hlater => h later (List.mem_cons_of_mem _ hlater)

end

/-! ## Other keys -/

section

variable {f : κ → κ'} [BEq κ] [BEq κ']

theorem get?_mapKeysEntries (faithful : ∀ a b, (f a == f b) = (a == b))
    (entries : Table κ (Tree κ α)) (k : κ) :
    Table.get? (mapKeysEntries f entries) (f k) = (Table.get? entries k).map (mapKeys f) := by
  induction entries with
  | nil => rfl
  | cons e rest ih =>
    rw [mapKeysEntries, Table.get?, Table.get?, faithful, ih]
    split <;> rfl

theorem mapKeysEntries_insert (faithful : ∀ a b, (f a == f b) = (a == b))
    (entries : Table κ (Tree κ α)) (k : κ) (t : Tree κ α) :
    mapKeysEntries f (Table.insert entries k t) =
      Table.insert (mapKeysEntries f entries) (f k) (t.mapKeys f) := by
  induction entries with
  | nil => rfl
  | cons e rest ih =>
    rw [mapKeysEntries, Table.insert, Table.insert, faithful]
    split <;> simp [mapKeysEntries, ih]

mutual

theorem mapKeys_merge (faithful : ∀ a b, (f a == f b) = (a == b)) : ∀ base later : Tree κ α,
    (base.merge later).mapKeys f = (base.mapKeys f).merge (later.mapKeys f)
  | base, leaf a => by cases base <;> rfl
  | base, list items => by cases base <;> rfl
  | leaf _, table later => rfl
  | list _, table later => rfl
  | table entries, table later => congrArg table (mapKeysEntries_mergeEntries faithful entries later)

/-- Layers may be merged before or after their keys are written in another way. -/
theorem mapKeysEntries_mergeEntries (faithful : ∀ a b, (f a == f b) = (a == b)) :
    ∀ base later : Table κ (Tree κ α), mapKeysEntries f (mergeEntries base later) =
      mergeEntries (mapKeysEntries f base) (mapKeysEntries f later)
  | base, [] => rfl
  | base, (k, t) :: rest => by
    rw [mergeEntries, mapKeysEntries_mergeEntries faithful, mapKeysEntries_insert faithful,
      mapKeysEntries, mergeEntries, get?_mapKeysEntries faithful]
    cases Table.get? base k with
    | none => rfl
    | some earlier => rw [mapKeys_merge faithful]; rfl

end

end

end TemplateEngine.Tree
