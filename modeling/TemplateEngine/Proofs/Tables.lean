import Mathlib.Data.List.Induction
import TemplateEngine.Table
/-!
Tables and what is read off them entry by entry: writing and dropping an entry carry over to a
table that another one determines.
-/
namespace TemplateEngine.Table

variable {κ α β : Type}

theorem mem_of_lookup [BEq κ] [LawfulBEq κ] {t : Table κ α} {key : κ} {x : α}
    (h : t.lookup key = some x) : (key, x) ∈ t := by
  induction t with
  | nil => simp at h
  | cons e rest ih =>
    obtain ⟨k, y⟩ := e
    by_cases hk : key = k
    · subst hk
      simp only [List.lookup_cons_self, Option.some.injEq] at h
      simp [h]
    · simp only [List.lookup_cons, beq_eq_false_iff_ne.mpr hk] at h
      exact List.mem_cons_of_mem _ (ih h)

theorem mem_keys_of_mem {t : Table κ α} {e : κ × α} (h : e ∈ t) : e.1 ∈ keys t :=
  List.mem_map_of_mem h

/-- A table with the keys of another one, whose values its entries determine. -/
def carry (f : κ → α → β) (t : Table κ α) : Table κ β := t.map fun e => (e.1, f e.1 e.2)

@[simp] theorem keys_carry (f : κ → α → β) (t : Table κ α) : keys (carry f t) = keys t := by
  simp [carry, keys, Function.comp_def]

theorem carry_congr {f g : κ → α → β} {t : Table κ α} (h : ∀ e ∈ t, f e.1 e.2 = g e.1 e.2) :
    carry f t = carry g t :=
  List.map_congr_left fun e he => by rw [h e he]

variable [BEq κ] [LawfulBEq κ]

theorem get?_of_mem {t : Table κ α} (hn : (keys t).Nodup) {key : κ} {value : α}
    (h : (key, value) ∈ t) : get? t key = some value := by
  induction t with
  | nil => simp at h
  | cons e rest ih =>
    obtain ⟨k, v⟩ := e
    simp only [keys, List.map_cons, List.nodup_cons] at hn
    rcases List.mem_cons.mp h with he | hr
    · simp_all [get?]
    · have hk : k ≠ key := fun hk => hn.1 (hk ▸ mem_keys_of_mem hr)
      simpa [get?, hk] using ih hn.2 hr

theorem mem_of_get? {t : Table κ α} {key : κ} {value : α} (h : get? t key = some value) :
    (key, value) ∈ t := by
  induction t with
  | nil => simp [get?] at h
  | cons e rest ih =>
    obtain ⟨k, v⟩ := e
    by_cases hk : k = key
    · simp_all [get?]
    · exact List.mem_cons_of_mem _ (ih (by simpa [get?, hk] using h))

theorem get?_isSome_iff (t : Table κ α) (key : κ) : (get? t key).isSome ↔ key ∈ keys t := by
  rw [Option.isSome_iff_ne_none, ne_eq, get?_eq_none_iff, Decidable.not_not]

theorem mem_keys_insert (t : Table κ α) (key k : κ) (value : α) :
    k ∈ keys (insert t key value) ↔ k = key ∨ k ∈ keys t := by
  by_cases h : key ∈ keys t
  · rw [keys_insert_of_mem t value h]
    exact ⟨Or.inr, fun hk => hk.elim (fun he => he ▸ h) id⟩
  · rw [keys_insert_of_not_mem t value h]
    simp [or_comm]

theorem mem_of_mem_insert {t : Table κ α} {key : κ} {value : α} {e : κ × α}
    (h : e ∈ insert t key value) : e = (key, value) ∨ e ∈ t := by
  induction t with
  | nil => exact Or.inl (List.mem_singleton.mp h)
  | cons x rest ih =>
    obtain ⟨k, v⟩ := x
    by_cases hk : k = key
    · subst hk
      simp only [insert, beq_self_eq_true, if_true, List.mem_cons] at h
      exact h.imp id (List.mem_cons_of_mem _)
    · simp only [insert, beq_eq_false_iff_ne.mpr hk, Bool.false_eq_true, if_false,
        List.mem_cons] at h
      rcases h with rfl | h
      · exact Or.inr List.mem_cons_self
      · exact (ih h).imp id (List.mem_cons_of_mem _)

theorem insert_of_not_mem {t : Table κ α} {key : κ} (missing : key ∉ keys t) (value : α) :
    insert t key value = t ++ [(key, value)] := by
  induction t with
  | nil => rfl
  | cons entry rest ih =>
    obtain ⟨apart, later⟩ : key ≠ entry.1 ∧ key ∉ keys rest := by
      simpa [keys] using missing
    simp [insert, Ne.symm apart, ih later]

omit [LawfulBEq κ] in
theorem ofEntries_concat (items : List (κ × α)) (item : κ × α) :
    ofEntries (items ++ [item]) = insert (ofEntries items) item.1 item.2 := by
  simp [ofEntries, insertAll]

/-- Items of which no two have the same key are kept as they are. -/
theorem ofEntries_of_nodup (items : List (κ × α)) (distinct : (keys items).Nodup) :
    ofEntries items = items := by
  induction items using List.reverseRecOn with
  | nil => rfl
  | append_singleton items item ih =>
    obtain ⟨earlier, -, apart⟩ := List.nodup_append.mp (by simpa [keys] using distinct)
    have missing : item.1 ∉ keys items := fun known =>
      apart _ known _ (List.mem_singleton_self item.1) rfl
    rw [ofEntries_concat, ih earlier, insert_of_not_mem missing]

/-- Writing what is there already changes nothing. -/
theorem insert_of_get? {t : Table κ α} {key : κ} {value : α} (found : get? t key = some value) :
    insert t key value = t := by
  induction t with
  | nil => cases found
  | cons entry rest ih =>
    obtain ⟨k, v⟩ := entry
    by_cases here : k = key
    · subst here
      obtain rfl : v = value := by simpa [get?] using found
      simp [insert]
    · simp only [get?, beq_eq_false_iff_ne.mpr here, Bool.false_eq_true, if_false] at found
      simp [insert, here, ih found]

theorem mem_of_mem_insertAll {t entries : Table κ α} {e : κ × α} (h : e ∈ insertAll t entries) :
    e ∈ t ∨ e ∈ entries := by
  induction entries generalizing t with
  | nil => exact Or.inl h
  | cons x rest ih =>
    rcases ih h with h | h
    · rcases mem_of_mem_insert h with rfl | h
      · exact Or.inr List.mem_cons_self
      · exact Or.inl h
    · exact Or.inr (List.mem_cons_of_mem _ h)

theorem mem_of_mem_ofEntries {entries : Table κ α} {e : κ × α} (h : e ∈ ofEntries entries) :
    e ∈ entries :=
  (mem_of_mem_insertAll h).elim (fun h => absurd h List.not_mem_nil) id

theorem mem_of_mem_erase {t : Table κ α} {key : κ} {e : κ × α} (h : e ∈ erase t key) : e ∈ t := by
  induction t with
  | nil => exact h
  | cons x rest ih =>
    obtain ⟨k, v⟩ := x
    by_cases hk : k = key
    · subst hk
      simp only [erase, beq_self_eq_true, if_true] at h
      exact List.mem_cons_of_mem _ h
    · simp only [erase, beq_eq_false_iff_ne.mpr hk, Bool.false_eq_true, if_false,
        List.mem_cons] at h
      rcases h with rfl | h
      · exact List.mem_cons_self
      · exact List.mem_cons_of_mem _ (ih h)

/-- Every entry of a table with a new one is the new one, or an old one of another key. -/
theorem mem_insert {t : Table κ α} (hn : (keys t).Nodup) {key : κ} {value : α} {e : κ × α} :
    e ∈ insert t key value ↔ e = (key, value) ∨ e ∈ t ∧ e.1 ≠ key := by
  induction t with
  | nil => simp [insert]
  | cons x rest ih =>
    obtain ⟨k, v⟩ := x
    simp only [keys, List.map_cons, List.nodup_cons] at hn
    by_cases hk : k = key
    · have hrest : ∀ e ∈ rest, e.1 ≠ key := fun e he hek =>
        hn.1 (hk ▸ hek ▸ mem_keys_of_mem he)
      simp only [insert, hk, beq_self_eq_true, if_true, List.mem_cons]
      constructor
      · rintro (rfl | he)
        · exact Or.inl rfl
        · exact Or.inr ⟨Or.inr he, hrest e he⟩
      · rintro (rfl | ⟨rfl | he, hne⟩)
        · exact Or.inl rfl
        · exact absurd rfl hne
        · exact Or.inr he
    · simp only [insert, beq_eq_false_iff_ne.mpr hk, Bool.false_eq_true, if_false,
        List.mem_cons, ih hn.2]
      constructor
      · rintro (rfl | rfl | ⟨he, hne⟩)
        · exact Or.inr ⟨Or.inl rfl, hk⟩
        · exact Or.inl rfl
        · exact Or.inr ⟨Or.inr he, hne⟩
      · rintro (rfl | ⟨rfl | he, hne⟩)
        · exact Or.inr (Or.inl rfl)
        · exact Or.inl rfl
        · exact Or.inr (Or.inr ⟨he, hne⟩)

theorem mem_erase {t : Table κ α} (hn : (keys t).Nodup) {key : κ} {e : κ × α} :
    e ∈ erase t key ↔ e ∈ t ∧ e.1 ≠ key := by
  induction t with
  | nil => simp [erase]
  | cons x rest ih =>
    obtain ⟨k, v⟩ := x
    simp only [keys, List.map_cons, List.nodup_cons] at hn
    by_cases hk : k = key
    · have hrest : ∀ e ∈ rest, e.1 ≠ key := fun e he hek =>
        hn.1 (hk ▸ hek ▸ mem_keys_of_mem he)
      simp only [erase, hk, beq_self_eq_true, if_true, List.mem_cons]
      constructor
      · exact fun he => ⟨Or.inr he, hrest e he⟩
      · rintro ⟨rfl | he, hne⟩
        · exact absurd rfl hne
        · exact he
    · simp only [erase, beq_eq_false_iff_ne.mpr hk, Bool.false_eq_true, if_false, List.mem_cons,
        ih hn.2]
      constructor
      · rintro (rfl | ⟨he, hne⟩)
        · exact ⟨Or.inl rfl, hk⟩
        · exact ⟨Or.inr he, hne⟩
      · rintro ⟨rfl | he, hne⟩
        · exact Or.inl rfl
        · exact Or.inr ⟨he, hne⟩

theorem erase_of_not_mem {t : Table κ α} {key : κ} (h : key ∉ keys t) : erase t key = t := by
  induction t with
  | nil => rfl
  | cons x rest ih =>
    obtain ⟨k, v⟩ := x
    simp only [keys, List.map_cons, List.mem_cons, not_or] at h
    simp [erase, Ne.symm h.1, ih h.2]

theorem nodup_keys_erase {t : Table κ α} (hn : (keys t).Nodup) (key : κ) :
    (keys (erase t key)).Nodup := by
  rw [keys_erase]
  exact hn.erase key

theorem get?_carry (f : κ → α → β) (t : Table κ α) (key : κ) :
    get? (carry f t) key = (get? t key).map (f key) := by
  induction t with
  | nil => rfl
  | cons e rest ih =>
    obtain ⟨k, v⟩ := e
    by_cases hk : k = key
    · simp [carry, get?, hk]
    · simpa [carry, get?, hk] using ih

/-- Carrying over after a write writes what is carried over, when all other entries carry over as
before. -/
theorem carry_insert {f g : κ → α → β} {t : Table κ α} (hn : (keys t).Nodup) {key : κ}
    {value : α} (h : ∀ e ∈ t, e.1 ≠ key → f e.1 e.2 = g e.1 e.2) :
    carry f (insert t key value) = insert (carry g t) key (f key value) := by
  induction t with
  | nil => rfl
  | cons e rest ih =>
    obtain ⟨k, v⟩ := e
    simp only [keys, List.map_cons, List.nodup_cons] at hn
    by_cases hk : k = key
    · subst hk
      have hrest : carry f rest = carry g rest := carry_congr fun e he =>
        h e (List.mem_cons_of_mem _ he) fun hek => hn.1 (hek ▸ mem_keys_of_mem he)
      simpa [carry, insert] using hrest
    · have hrest := ih hn.2 fun e he => h e (List.mem_cons_of_mem _ he)
      have hhead : f k v = g k v := h (k, v) List.mem_cons_self hk
      simpa [carry, insert, hk, hhead] using hrest

theorem carry_erase {f g : κ → α → β} {t : Table κ α} (hn : (keys t).Nodup) {key : κ}
    (h : ∀ e ∈ t, e.1 ≠ key → f e.1 e.2 = g e.1 e.2) :
    carry f (erase t key) = erase (carry g t) key := by
  induction t with
  | nil => rfl
  | cons e rest ih =>
    obtain ⟨k, v⟩ := e
    simp only [keys, List.map_cons, List.nodup_cons] at hn
    by_cases hk : k = key
    · subst hk
      have hrest : carry f rest = carry g rest := carry_congr fun e he =>
        h e (List.mem_cons_of_mem _ he) fun hek => hn.1 (hek ▸ mem_keys_of_mem he)
      simpa [carry, erase] using hrest
    · have hrest := ih hn.2 fun e he => h e (List.mem_cons_of_mem _ he)
      have hhead : f k v = g k v := h (k, v) List.mem_cons_self hk
      simpa [carry, erase, hk, hhead] using hrest

end TemplateEngine.Table
