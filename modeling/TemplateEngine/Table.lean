/-!
Tables in insertion order: a rewritten entry keeps its place, a new one goes last.
-/
namespace TemplateEngine

/-- Entries in insertion order, one for each key. -/
abbrev Table (κ α : Type) := List (κ × α)

namespace Table

variable {κ α β : Type} [BEq κ]

def get? : Table κ α → κ → Option α
  | [], _ => none
  | (k, v) :: rest, key => if k == key then some v else get? rest key

def contains (t : Table κ α) (key : κ) : Bool := (get? t key).isSome

def keys (t : Table κ α) : List κ := t.map Prod.fst

def values (t : Table κ α) : List α := t.map Prod.snd

theorem get?_eq_none_iff [LawfulBEq κ] (t : Table κ α) (key : κ) :
    get? t key = none ↔ key ∉ keys t := by
  induction t with
  | nil => simp [get?, keys]
  | cons e rest ih =>
    obtain ⟨k, v⟩ := e
    by_cases h : k = key
    · simp [get?, keys, h]
    · simpa [get?, keys, h, Ne.symm h] using ih

/-- Rewrites the entry of a key in its place, or adds one at the end. -/
def insert : Table κ α → κ → α → Table κ α
  | [], key, value => [(key, value)]
  | (k, v) :: rest, key, value =>
    if k == key then (k, value) :: rest else (k, v) :: insert rest key value

theorem get?_insert_self [LawfulBEq κ] (t : Table κ α) (key : κ) (value : α) :
    get? (insert t key value) key = some value := by
  induction t with
  | nil => simp [insert, get?]
  | cons e rest ih =>
    obtain ⟨k, v⟩ := e
    by_cases h : k = key <;> simp [insert, get?, h, ih]

theorem get?_insert_of_ne [LawfulBEq κ] (t : Table κ α) {key other : κ} (value : α)
    (h : other ≠ key) : get? (insert t key value) other = get? t other := by
  induction t with
  | nil => simp [insert, get?, Ne.symm h]
  | cons e rest ih =>
    obtain ⟨k, v⟩ := e
    by_cases hk : k = key
    · subst hk; simp [insert, get?, Ne.symm h]
    · simp [insert, get?, hk, ih]

theorem keys_insert_of_mem [LawfulBEq κ] (t : Table κ α) {key : κ} (value : α)
    (h : key ∈ keys t) : keys (insert t key value) = keys t := by
  induction t with
  | nil => simp [keys] at h
  | cons e rest ih =>
    obtain ⟨k, v⟩ := e
    by_cases hk : k = key
    · simp [insert, keys, hk]
    · simp only [keys, List.map_cons, List.mem_cons, Ne.symm hk, false_or] at h ih
      simp [insert, keys, hk, ih h]

theorem keys_insert_of_not_mem [LawfulBEq κ] (t : Table κ α) {key : κ} (value : α)
    (h : key ∉ keys t) : keys (insert t key value) = keys t ++ [key] := by
  induction t with
  | nil => simp [insert, keys]
  | cons e rest ih =>
    obtain ⟨k, v⟩ := e
    simp only [keys, List.map_cons, List.mem_cons, not_or] at h ih
    simp [insert, keys, Ne.symm h.1, ih h.2]

theorem nodup_keys_insert [LawfulBEq κ] (t : Table κ α) (key : κ) (value : α)
    (h : (keys t).Nodup) : (keys (insert t key value)).Nodup := by
  by_cases hk : key ∈ keys t
  · rwa [keys_insert_of_mem t value hk]
  · rw [keys_insert_of_not_mem t value hk, List.nodup_append]
    exact ⟨h, by simp, fun a ha b hb hab => hk (by simp_all)⟩

def erase : Table κ α → κ → Table κ α
  | [], _ => []
  | (k, v) :: rest, key => if k == key then rest else (k, v) :: erase rest key

theorem keys_erase [LawfulBEq κ] (t : Table κ α) (key : κ) :
    keys (erase t key) = (keys t).erase key := by
  induction t with
  | nil => simp [erase, keys]
  | cons e rest ih =>
    obtain ⟨k, v⟩ := e
    by_cases h : k = key
    · simp [erase, keys, h]
    · simpa [erase, keys, h, List.erase_cons] using ih

theorem get?_erase_of_ne [LawfulBEq κ] (t : Table κ α) {key other : κ} (h : other ≠ key) :
    get? (erase t key) other = get? t other := by
  induction t with
  | nil => rfl
  | cons e rest ih =>
    obtain ⟨k, v⟩ := e
    by_cases hk : k = key
    · subst hk; simp [erase, get?, Ne.symm h]
    · simp [erase, get?, hk, ih]

theorem get?_erase_self [LawfulBEq κ] (t : Table κ α) (key : κ) (h : (keys t).Nodup) :
    get? (erase t key) key = none := by
  rw [get?_eq_none_iff, keys_erase]
  exact h.not_mem_erase

/-- Writes entries one after the other. -/
def insertAll (t : Table κ α) (entries : List (κ × α)) : Table κ α :=
  entries.foldl (fun t (k, v) => insert t k v) t

def ofEntries (entries : List (κ × α)) : Table κ α := insertAll [] entries

end Table

end TemplateEngine
