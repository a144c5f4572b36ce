import TemplateEngine.Settings.Tree
import Mathlib.Data.List.Induction
/-!
What stands at a path of keys. Writing at a path puts the new tree there, makes tables above it and
leaves every path apart from it alone; so trees that are written at paths apart from each other may be
written in any order.
-/
namespace TemplateEngine.Tree

variable {κ α : Type}

def isTable : Tree κ α → Bool
  | table _ => true
  | _ => false

/-- Neither path leads through the other one. -/
def Apart (p q : List κ) : Prop := ¬p <+: q ∧ ¬q <+: p

theorem Apart.symm {p q : List κ} (h : Apart p q) : Apart q p := ⟨h.2, h.1⟩

/-- A path leads on from another one, is passed by it, or is apart from it. -/
theorem path_cases (p q : List κ) : (∃ r, q = p ++ r) ∨ (∃ k r, p = q ++ k :: r) ∨ Apart p q := by
  by_cases on : p <+: q
  · obtain ⟨r, rfl⟩ := on
    exact .inl ⟨r, rfl⟩
  by_cases passed : q <+: p
  · obtain ⟨r, rfl⟩ := passed
    cases r with
    | nil => exact absurd ⟨[], by simp⟩ on
    | cons k r => exact .inr (.inl ⟨k, r, rfl⟩)
  · exact .inr (.inr ⟨on, passed⟩)

theorem not_apart_append (p r : List κ) : ¬Apart p (p ++ r) := fun h => h.1 ⟨r, rfl⟩

/-- What leads on from a path is apart from all that the path is apart from. -/
theorem Apart.append {p q : List κ} (h : Apart p q) (r : List κ) : Apart p (q ++ r) := by
  constructor
  · intro on
    rcases List.prefix_or_prefix_of_prefix on (List.prefix_append q r) with on | passed
    · exact h.1 on
    · exact h.2 passed
  · exact fun passed => h.2 ((List.prefix_append q r).trans passed)

/-! ## Reading -/

theorem entries_of_single {t : Tree κ α} (single : t.isTable = false) : t.entries = [] := by
  cases t with
  | table es => exact absurd single (by simp [isTable])
  | leaf a => rfl
  | list items => rfl

variable [BEq κ]

/-- The single value, or the list, at a path. -/
def leafAt? (t : Tree κ α) (path : List κ) : Option (Tree κ α) := (t.get? path).filter (!·.isTable)

def HasTable (t : Tree κ α) (path : List κ) : Prop := ∃ entries, t.get? path = some (table entries)

/-- The same trees but for the order of the entries of tables. -/
def SameAt (s t : Tree κ α) (path : List κ) : Prop :=
  s.leafAt? path = t.leafAt? path ∧ (s.HasTable path ↔ t.HasTable path)

@[simp] theorem get?_nil (t : Tree κ α) : t.get? [] = some t := by rw [get?]

theorem get?_cons (t : Tree κ α) (k : κ) (path : List κ) :
    t.get? (k :: path) = (Table.get? t.entries k).bind (get? · path) := by rw [get?]

theorem get?_append (t : Tree κ α) (p q : List κ) :
    t.get? (p ++ q) = (t.get? p).bind (get? · q) := by
  induction p generalizing t with
  | nil => rw [List.nil_append, get?_nil, Option.bind_some]
  | cons k p ih =>
    rw [List.cons_append, get?_cons, get?_cons, Option.bind_assoc]
    exact Option.bind_congr fun s _ => ih s

theorem get?_empty_cons (k : κ) (path : List κ) : (table [] : Tree κ α).get? (k :: path) = none := by
  rw [get?_cons]
  rfl

theorem leafAt?_eq_some_iff {t x : Tree κ α} {path : List κ} :
    t.leafAt? path = some x ↔ t.get? path = some x ∧ x.isTable = false := by
  simp [leafAt?, Option.filter_eq_some_iff]

theorem hasTable_iff {t : Tree κ α} {path : List κ} :
    t.HasTable path ↔ ∃ x, t.get? path = some x ∧ x.isTable = true := by
  constructor
  · rintro ⟨es, h⟩
    exact ⟨_, h, rfl⟩
  · rintro ⟨x, h, isTable⟩
    cases x with
    | table es => exact ⟨es, h⟩
    | leaf a => cases isTable
    | list items => cases isTable

/-- Where a table stands, there is no single value. -/
theorem HasTable.leafAt?_eq_none {t : Tree κ α} {path : List κ} (h : t.HasTable path) :
    t.leafAt? path = none := by
  obtain ⟨es, h⟩ := h
  simp [leafAt?, h, Option.filter, isTable]

theorem leafAt?_empty (path : List κ) : (table [] : Tree κ α).leafAt? path = none := by
  cases path with
  | nil => exact HasTable.leafAt?_eq_none ⟨[], get?_nil _⟩
  | cons k path => rw [leafAt?, get?_empty_cons, Option.filter_none]

theorem hasTable_empty_iff (path : List κ) : (table [] : Tree κ α).HasTable path ↔ path = [] := by
  cases path with
  | nil => exact ⟨fun _ => rfl, fun _ => ⟨[], get?_nil _⟩⟩
  | cons k path => simp [HasTable, get?_empty_cons]

/-! ## Writing -/

theorem set_cons (t v : Tree κ α) (k : κ) (path : List κ) :
    t.set (k :: path) v =
      table (Table.insert t.entries k (((Table.get? t.entries k).getD (table [])).set path v)) := by
  cases path with
  | nil => rfl
  | cons next path =>
    rw [set, setAt, set]
    cases Table.get? t.entries k <;> rfl

variable [LawfulBEq κ]

/-- At a path and below it stands what was written there. -/
theorem get?_set_append (t v : Tree κ α) (p r : List κ) : (t.set p v).get? (p ++ r) = v.get? r := by
  induction p generalizing t with
  | nil => rfl
  | cons k p ih =>
    rw [set_cons, List.cons_append, get?_cons]
    exact (congrArg (Option.bind · _) (Table.get?_insert_self ..)).trans (ih _)

/-- Above a path there are tables. -/
theorem hasTable_set_of_passed (t v : Tree κ α) (q : List κ) (k : κ) (r : List κ) :
    (t.set (q ++ k :: r) v).HasTable q := by
  induction q generalizing t with
  | nil =>
    rw [List.nil_append, set_cons]
    exact ⟨_, get?_nil _⟩
  | cons key q ih =>
    obtain ⟨es, found⟩ := ih ((Table.get? t.entries key).getD (table []))
    refine ⟨es, ?_⟩
    rw [List.cons_append, set_cons, get?_cons]
    exact (congrArg (Option.bind · _) (Table.get?_insert_self ..)).trans found

/-- What is apart from a path is left alone. -/
theorem get?_set_of_apart (t v : Tree κ α) {p q : List κ} (h : Apart p q) :
    (t.set p v).get? q = t.get? q := by
  induction p generalizing t q with
  | nil => exact absurd (List.nil_prefix) h.1
  | cons k p ih =>
    cases q with
    | nil => exact absurd (List.nil_prefix) h.2
    | cons key q =>
      rw [set_cons, get?_cons, get?_cons]
      by_cases same : key = k
      · subst same
        have inside : Apart p q := by simpa [Apart, List.cons_prefix_cons] using h
        refine (congrArg (Option.bind · _) (Table.get?_insert_self ..)).trans ?_
        refine (ih _ inside).trans ?_
        cases Table.get? t.entries key with
        | some s => rfl
        | none =>
          cases q with
          | nil => exact absurd (List.nil_prefix) inside.2
          | cons next q => exact get?_empty_cons next q
      · exact congrArg (Option.bind · _) (Table.get?_insert_of_ne _ _ same)

/-- The values after a write: those of what was written, and those apart from it. -/
theorem leafAt?_set_iff {t v x : Tree κ α} {p q : List κ} :
    (t.set p v).leafAt? q = some x ↔
      (∃ r, q = p ++ r ∧ v.leafAt? r = some x) ∨ (Apart p q ∧ t.leafAt? q = some x) := by
  rcases path_cases p q with ⟨r, rfl⟩ | ⟨k, r, rfl⟩ | apart
  · simp [leafAt?, get?_set_append, not_apart_append]
  · rw [(hasTable_set_of_passed t v q k r).leafAt?_eq_none]
    constructor
    · intro h
      cases h
    · rintro (⟨r', same, -⟩ | ⟨apart, -⟩)
      · simpa using congrArg List.length same
      · exact absurd apart.symm (not_apart_append q _)
  · rw [leafAt?, get?_set_of_apart t v apart]
    refine ⟨fun h => .inr ⟨apart, h⟩, ?_⟩
    rintro (⟨r, rfl, -⟩ | ⟨-, h⟩)
    · exact absurd apart (not_apart_append p r)
    · exact h

/-- The tables after a write: those of what was written, those above it, and those apart from it. -/
theorem hasTable_set_iff {t v : Tree κ α} {p q : List κ} :
    (t.set p v).HasTable q ↔ (∃ r, q = p ++ r ∧ v.HasTable r) ∨ (∃ k r, p = q ++ k :: r) ∨
      (Apart p q ∧ t.HasTable q) := by
  rcases path_cases p q with ⟨r, rfl⟩ | ⟨k, r, rfl⟩ | apart
  · simp [HasTable, get?_set_append, not_apart_append]
  · exact ⟨fun _ => .inr (.inl ⟨k, r, rfl⟩), fun _ => hasTable_set_of_passed t v q k r⟩
  · rw [HasTable, get?_set_of_apart t v apart]
    refine ⟨fun h => .inr (.inr ⟨apart, h⟩), ?_⟩
    rintro (⟨r, rfl, -⟩ | ⟨k, r, rfl⟩ | ⟨-, h⟩)
    · exact absurd apart (not_apart_append p r)
    · exact absurd apart.symm (not_apart_append q _)
    · exact h

/-! ## Writing many trees -/

/-- Writes trees at their paths, one after the other. -/
def setAll (t : Tree κ α) (writes : List (List κ × Tree κ α)) : Tree κ α :=
  writes.foldl (fun t w => t.set w.1 w.2) t

omit [LawfulBEq κ] in
theorem setAll_concat (t : Tree κ α) (writes : List (List κ × Tree κ α)) (w : List κ × Tree κ α) :
    t.setAll (writes ++ [w]) = (t.setAll writes).set w.1 w.2 := by
  simp [setAll]

/-- Paths apart from each other, none of which is empty. -/
structure Independent (writes : List (List κ × Tree κ α)) : Prop where
  apart : writes.Pairwise fun v w => Apart v.1 w.1
  inside : ∀ w ∈ writes, w.1 ≠ []

omit [BEq κ] [LawfulBEq κ] in
theorem Independent.init {writes : List (List κ × Tree κ α)} {w : List κ × Tree κ α}
    (h : Independent (writes ++ [w])) : Independent writes where
  apart := (List.pairwise_append.mp h.apart).1
  inside := fun v hv => h.inside v (List.mem_append_left _ hv)

omit [BEq κ] [LawfulBEq κ] in
theorem Independent.apart_last {writes : List (List κ × Tree κ α)} {v w : List κ × Tree κ α}
    (h : Independent (writes ++ [w])) (hv : v ∈ writes) : Apart v.1 w.1 :=
  (List.pairwise_append.mp h.apart).2.2 v hv w (List.mem_singleton_self w)

/-- Every single value stems from one of the writes, and those of all writes are there. -/
theorem leafAt?_setAll_iff {writes : List (List κ × Tree κ α)} (h : Independent writes) {x : Tree κ α}
    {q : List κ} : ((table []).setAll writes).leafAt? q = some x ↔
      ∃ w ∈ writes, ∃ r, q = w.1 ++ r ∧ w.2.leafAt? r = some x := by
  induction writes using List.reverseRecOn with
  | nil => simpa [setAll] using ne_of_eq_of_ne (leafAt?_empty q) (by simp)
  | append_singleton writes w ih =>
    rw [setAll_concat, leafAt?_set_iff, ih h.init]
    constructor
    · rintro (⟨r, rfl, found⟩ | ⟨-, v, hv, found⟩)
      · exact ⟨w, by simp, r, rfl, found⟩
      · exact ⟨v, List.mem_append_left _ hv, found⟩
    · rintro ⟨v, hv, r, rfl, found⟩
      rcases List.mem_append.mp hv with earlier | last
      · exact .inr ⟨(h.apart_last earlier).symm.append r, v, earlier, r, rfl, found⟩
      · obtain rfl := List.mem_singleton.mp last
        exact .inl ⟨r, rfl, found⟩

/-- Every table below the root stands above one of the writes, or stems from one. -/
theorem hasTable_setAll_iff {writes : List (List κ × Tree κ α)} (h : Independent writes)
    {q : List κ} : ((table []).setAll writes).HasTable q ↔ q = [] ∨
      ∃ w ∈ writes, (∃ r, q = w.1 ++ r ∧ w.2.HasTable r) ∨ ∃ k r, w.1 = q ++ k :: r := by
  induction writes using List.reverseRecOn with
  | nil => simpa [setAll] using hasTable_empty_iff q
  | append_singleton writes w ih =>
    rw [setAll_concat, hasTable_set_iff, ih h.init]
    constructor
    · rintro (stems | above | ⟨-, rfl | ⟨v, hv, there⟩⟩)
      · exact .inr ⟨w, by simp, .inl stems⟩
      · exact .inr ⟨w, by simp, .inr above⟩
      · exact .inl rfl
      · exact .inr ⟨v, List.mem_append_left _ hv, there⟩
    · rintro (rfl | ⟨v, hv, there⟩)
      · obtain ⟨k, p, path⟩ := List.exists_cons_of_ne_nil (h.inside w (by simp))
        exact .inr (.inl ⟨k, p, path⟩)
      · rcases List.mem_append.mp hv with earlier | last
        · -- A table above an earlier write may stand above the last one, too.
          rcases path_cases w.1 q with ⟨r, rfl⟩ | above | apart
          · have last_apart := (h.apart_last earlier).symm
            rcases there with ⟨r', same, -⟩ | ⟨k, r', same⟩
            · exact absurd (same ▸ last_apart.append r') (not_apart_append w.1 r)
            · exact absurd ⟨r ++ k :: r', by rw [same, List.append_assoc]⟩ last_apart.1
          · exact .inr (.inl above)
          · exact .inr (.inr ⟨apart, .inr ⟨v, earlier, there⟩⟩)
        · obtain rfl := List.mem_singleton.mp last
          rcases there with stems | above
          · exact .inl stems
          · exact .inr (.inl above)

/-- What was written is there. -/
theorem get?_setAll {writes : List (List κ × Tree κ α)} (h : Independent writes)
    {w : List κ × Tree κ α} (hw : w ∈ writes) : ((table []).setAll writes).get? w.1 = some w.2 := by
  induction writes using List.reverseRecOn with
  | nil => cases hw
  | append_singleton writes last ih =>
    rw [setAll_concat]
    rcases List.mem_append.mp hw with earlier | is_last
    · rw [get?_set_of_apart _ _ (h.apart_last earlier).symm]
      exact ih h.init earlier
    · obtain rfl := List.mem_singleton.mp is_last
      simpa using get?_set_append ((table []).setAll writes) w.2 w.1 []

/-- Whatever ends a path, a single value, a list or an empty table, stems from one of the writes. -/
theorem exists_write_of_end {writes : List (List κ × Tree κ α)} (h : Independent writes) {q : List κ}
    {x : Tree κ α} (below : q ≠ []) (found : ((table []).setAll writes).get? q = some x)
    (ending : x.isTable = false ∨ x = table []) :
    ∃ w ∈ writes, ∃ r, q = w.1 ++ r ∧ w.2.get? r = some x := by
  rcases ending with single | rfl
  · obtain ⟨w, hw, r, same, there⟩ :=
      (leafAt?_setAll_iff h).mp (leafAt?_eq_some_iff.mpr ⟨found, single⟩)
    exact ⟨w, hw, r, same, (leafAt?_eq_some_iff.mp there).1⟩
  · obtain root | ⟨w, hw, ⟨r, rfl, -⟩ | ⟨k, r, above⟩⟩ := (hasTable_setAll_iff h).mp ⟨[], found⟩
    · exact absurd root below
    · refine ⟨w, hw, r, rfl, ?_⟩
      rw [get?_append, get?_setAll h hw] at found
      exact found
    · have there := get?_setAll h hw
      rw [above, get?_append, found] at there
      cases (get?_empty_cons k r).symm.trans there

/-- The order of the writes makes no difference. -/
theorem sameAt_setAll_of_perm {writes others : List (List κ × Tree κ α)} (h : Independent writes)
    (perm : writes.Perm others) (path : List κ) :
    SameAt ((table []).setAll writes) ((table []).setAll others) path := by
  have h' : Independent others :=
    ⟨perm.pairwise h.apart fun {_ _} apart => apart.symm, fun w hw => h.inside w (perm.mem_iff.mpr hw)⟩
  constructor
  · ext x
    simp only [leafAt?_setAll_iff h, leafAt?_setAll_iff h', perm.mem_iff]
  · simp only [hasTable_setAll_iff h, hasTable_setAll_iff h', perm.mem_iff]

end TemplateEngine.Tree
