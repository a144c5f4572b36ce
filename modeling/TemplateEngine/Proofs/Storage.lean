import TemplateEngine.Proofs.Scopes
/-!
The order in which a scope stores its variables. It is not the order of iteration: a variable that is
written under another spelling keeps its place there, but goes last in storage. A copy is written in
order of storage, and lists its variables in that order.
-/
namespace TemplateEngine

theorem Table.erase_eq_filter {κ α : Type} [BEq κ] [LawfulBEq κ] {t : Table κ α}
    (distinct : (keys t).Nodup) (key : κ) : erase t key = t.filter fun e => !(e.1 == key) := by
  induction t with
  | nil => rfl
  | cons e rest ih =>
    obtain ⟨k, v⟩ := e
    simp only [keys, List.map_cons, List.nodup_cons] at distinct
    by_cases hk : k = key
    · subst hk
      have others : ∀ e ∈ rest, (!(e.1 == k)) = true := by
        intro e he
        have hne : e.1 ≠ k := fun hek => distinct.1 (hek ▸ mem_keys_of_mem he)
        simpa using hne
      simp [erase, List.filter_eq_self.mpr others]
    · simp [erase, hk, ih distinct.2]

namespace Scope

variable {κ α : Type}

/-- One change of a scope. -/
inductive Change (κ α : Type)
  | insert (name : Name κ) (value : α)
  | erase (text : String)
  | clear

def change (s : Scope κ α) : Change κ α → Scope κ α
  | .insert name value => s.insert name value
  | .erase text => s.erase text
  | .clear => empty

def changeAll (s : Scope κ α) (changes : List (Change κ α)) : Scope κ α := changes.foldl change s

@[simp] theorem changeAll_nil (s : Scope κ α) : s.changeAll [] = s := rfl

@[simp] theorem changeAll_cons (s : Scope κ α) (c : Change κ α) (rest : List (Change κ α)) :
    s.changeAll (c :: rest) = (s.change c).changeAll rest := rfl

/-- What changes make of a scope that is new. -/
def after (history : List (Change κ α)) : Scope κ α := empty.changeAll history

theorem after_append (history changes : List (Change κ α)) :
    after (history ++ changes) = (after history).changeAll changes :=
  List.foldl_append

theorem after_inserts (entries : List (Name κ × α)) :
    after (entries.map fun e => .insert e.1 e.2) = ofEntries entries :=
  List.foldl_map

theorem coherent_empty : (empty : Scope κ α).Coherent := shows_empty.coherent

theorem Coherent.change {s : Scope κ α} (h : s.Coherent) (c : Change κ α) :
    (s.change c).Coherent := by
  cases c with
  | insert name value => exact coherent_insert h name value
  | erase text => exact coherent_erase h text
  | clear => exact coherent_empty

theorem Coherent.changeAll (changes : List (Change κ α)) :
    ∀ {s : Scope κ α}, s.Coherent → (s.changeAll changes).Coherent := by
  induction changes with
  | nil => exact fun h => h
  | cons c rest ih => exact fun h => ih (h.change c)

theorem coherent_after (history : List (Change κ α)) : (after history).Coherent :=
  coherent_empty.changeAll history

namespace Coherent

variable {s : Scope κ α}

/-- A stored text is the one under which its folded text is spelled. -/
theorem spelled_of_stored (h : s.Coherent) {text : String} (stored : text ∈ Table.keys s.values) :
    ∃ name, s.spellings.get? (Text.foldCase text) = some name ∧ name.text = text := by
  obtain ⟨e, he, rfl⟩ := (h.texts text).mp stored
  refine ⟨e.2, ?_, rfl⟩
  rw [show Text.foldCase e.2.text = e.1 from h.folded e he]
  exact Table.get?_of_mem h.distinct he

theorem stored_of_spelled (h : s.Coherent) {key : String} {name : Name κ}
    (spelled : s.spellings.get? key = some name) : name.text ∈ Table.keys s.values :=
  (h.texts name.text).mpr ⟨(key, name), Table.mem_of_get? spelled, rfl⟩

/-- Of one folded text, one text is stored. -/
theorem stored_iff (h : s.Coherent) {key : String} {old : Name κ}
    (spelled : s.spellings.get? key = some old) {text : String}
    (stored : text ∈ Table.keys s.values) : Text.foldCase text = key ↔ text = old.text := by
  constructor
  · rintro rfl
    obtain ⟨name, hname, rfl⟩ := h.spelled_of_stored stored
    rw [Option.some.inj (hname.symm.trans spelled)]
  · rintro rfl
    exact h.folded_of_get? spelled

/-- Stored texts have distinct folded texts. -/
theorem nodup_folded (h : s.Coherent) : ((Table.keys s.values).map Text.foldCase).Nodup := by
  refine List.Nodup.map_on (fun t ht u hu same => ?_) h.stored
  obtain ⟨name, hname, rfl⟩ := h.spelled_of_stored ht
  exact ((h.stored_iff hname hu).mp same.symm).symm

theorem erase_stored (h : s.Coherent) {key : String} {old : Name κ}
    (spelled : s.spellings.get? key = some old) :
    s.values.erase old.text = s.values.filter fun e => !(Text.foldCase e.1 == key) := by
  rw [Table.erase_eq_filter h.stored]
  refine List.filter_congr fun e he => ?_
  have same := h.stored_iff spelled (Table.mem_keys_of_mem he)
  rw [Bool.not_inj_iff, Bool.eq_iff_iff, beq_iff_eq, beq_iff_eq]
  exact same.symm

theorem filter_stored (h : s.Coherent) {key : String} (unspelled : s.spellings.get? key = none) :
    (s.values.filter fun e => !(Text.foldCase e.1 == key)) = s.values := by
  refine List.filter_eq_self.mpr fun e he => ?_
  obtain ⟨name, hname, -⟩ := h.spelled_of_stored (Table.mem_keys_of_mem he)
  have hne : Text.foldCase e.1 ≠ key := by
    rintro rfl
    rw [hname] at unspelled
    cases unspelled
  simpa using hne

end Coherent

/-- What a change does to the stored variables: one that is written under the text that it has keeps
its place, and every other one that is written goes last. -/
def Change.store (stored : Table String (κ × α)) : Change κ α → Table String (κ × α)
  | .insert name value =>
    match stored.get? name.text with
    | some (first, _) => stored.insert name.text (first, value)
    | none => (stored.filter fun e => !(Text.foldCase e.1 == name.folded)) ++
        [(name.text, name.given, value)]
  | .erase text => stored.filter fun e => !(Text.foldCase e.1 == Text.foldCase text)
  | .clear => []

theorem values_insert {s : Scope κ α} (h : s.Coherent) (name : Name κ) (value : α) :
    (s.insert name value).values = (Change.insert name value).store s.values := by
  rw [insert_eq]
  cases hstored : s.values.get? name.text with
  | some entry =>
    have hkey : name.text ∈ Table.keys s.values :=
      (Table.get?_isSome_iff _ _).mp (by rw [hstored]; rfl)
    obtain ⟨old, hold, htext⟩ := h.spelled_of_stored hkey
    have hkept : s.kept name = s.values := by
      simp [kept, show s.spellings.get? name.folded = some old from hold, htext]
    simp [Change.store, firstGiven, hkept, hstored]
  | none =>
    have hmissing := (Table.get?_eq_none_iff _ _).mp hstored
    -- whatever else is spelled under the folded name is dropped before the new text is added
    have hkept : s.kept name = s.values.filter fun e => !(Text.foldCase e.1 == name.folded) := by
      cases hold : s.spellings.get? name.folded with
      | none => simp [kept, hold, h.filter_stored hold]
      | some old =>
        have hne : old.text ≠ name.text := fun same => hmissing (same ▸ h.stored_of_spelled hold)
        simp [kept, hold, hne, h.erase_stored hold]
    have hnew : name.text ∉ Table.keys (s.kept name) := by
      rw [hkept]
      exact fun hmem => hmissing (List.Sublist.subset (List.filter_sublist.map _) hmem)
    simp only [firstGiven, (Table.get?_eq_none_iff _ _).mpr hnew, Table.insert_of_not_mem hnew,
      Change.store, hstored]
    rw [hkept]
    rfl

/-- How the storage of a scope changes depends on the storage only. -/
theorem values_change {s : Scope κ α} (h : s.Coherent) (c : Change κ α) :
    (s.change c).values = c.store s.values := by
  cases c with
  | insert name value => exact values_insert h name value
  | erase text =>
    cases hold : s.spelling? text with
    | none => simp [change, erase, hold, Change.store, h.filter_stored hold]
    | some old => simp [change, erase_eq hold, Change.store, h.erase_stored hold]
  | clear => rfl

/-- What is stored in the end, in order. -/
def storage (history : List (Change κ α)) : Table String (κ × α) := history.foldl Change.store []

theorem values_after (history : List (Change κ α)) : (after history).values = storage history := by
  have run : ∀ {s : Scope κ α}, s.Coherent →
      (s.changeAll history).values = history.foldl Change.store s.values := by
    induction history with
    | nil => exact fun _ => rfl
    | cons c rest ih =>
      intro s h
      rw [List.foldl_cons, ← values_change h c]
      exact ih (h.change c)
  exact run coherent_empty

/-- Entries of which no two have the same folded name are stored and listed as they are. -/
theorem ofEntries_eq (entries : List (Name κ × α))
    (distinct : (entries.map fun e => e.1.folded).Nodup) :
    ofEntries entries =
      ⟨entries.map fun e => (e.1.folded, e.1), entries.map fun e => (e.1.text, e.1.given, e.2)⟩ := by
  induction entries using List.reverseRecOn with
  | nil => rfl
  | append_singleton entries e ih =>
    obtain ⟨earlier, -, apart⟩ := List.nodup_append.mp (by simpa using distinct)
    have hfolded : e.1.folded ∉ Table.keys (entries.map fun e => (e.1.folded, e.1)) := by
      intro hmem
      obtain ⟨x, hx, hxe⟩ : ∃ x ∈ entries, x.1.folded = e.1.folded := by
        simpa [Table.keys] using hmem
      exact apart _ (List.mem_map_of_mem hx) _ (List.mem_singleton_self _) hxe
    have htext : e.1.text ∉ Table.keys (entries.map fun e => (e.1.text, e.1.given, e.2)) := by
      intro hmem
      obtain ⟨x, hx, hxe⟩ : ∃ x ∈ entries, x.1.text = e.1.text := by
        simpa [Table.keys] using hmem
      exact apart _ (List.mem_map_of_mem hx) _ (List.mem_singleton_self _)
        (congrArg Text.foldCase hxe)
    have hconcat : ofEntries (entries ++ [e]) = (ofEntries entries).insert e.1 e.2 := by
      simp [ofEntries, insertAll]
    rw [hconcat, ih earlier, insert_eq]
    simp [kept, firstGiven, (Table.get?_eq_none_iff _ _).mpr hfolded,
      (Table.get?_eq_none_iff _ _).mpr htext, Table.insert_of_not_mem hfolded,
      Table.insert_of_not_mem htext]

theorem coherent_copy (s : Scope κ α) : s.copy.Coherent := by
  have := coherent_after (s.stored.map fun e => Change.insert e.1 e.2)
  rwa [after_inserts] at this

namespace Coherent

variable {s : Scope κ α}

/-- A copy stores what the scope stores, and spells each variable as it is stored. -/
theorem copy_eq (h : s.Coherent) :
    s.copy = ⟨s.stored.map fun e => (e.1.folded, e.1), s.values⟩ := by
  have distinct : (s.stored.map fun e => e.1.folded).Nodup := by
    simpa [Scope.stored, Table.keys, Function.comp_def, Name.folded] using h.nodup_folded
  rw [Scope.copy, ofEntries_eq s.stored distinct]
  simp [Scope.stored, Function.comp_def]

theorem keys_copy (h : s.Coherent) :
    Table.keys s.copy.spellings = (Table.keys s.values).map Text.foldCase := by
  simp [h.copy_eq, Table.keys, Scope.stored, Function.comp_def, Name.folded]

/-- Under each folded name a copy has the same text. -/
theorem get?_copy (h : s.Coherent) (key : String) :
    (s.copy.spellings.get? key).map (·.text) = (s.spellings.get? key).map (·.text) := by
  cases hname : s.copy.spellings.get? key with
  | some name =>
    have hstored : name.text ∈ Table.keys s.values := by
      have := (coherent_copy s).stored_of_spelled hname
      rwa [h.copy_eq] at this
    obtain ⟨old, hold, htext⟩ := h.spelled_of_stored hstored
    have hkey : Text.foldCase name.text = key := (coherent_copy s).folded_of_get? hname
    rw [← hkey, hold, Option.map_some, Option.map_some, htext]
  | none =>
    cases hold : s.spellings.get? key with
    | none => rfl
    | some old =>
      have hkey : Text.foldCase old.text = key := h.folded_of_get? hold
      have hmem : key ∈ Table.keys s.copy.spellings := by
        rw [h.keys_copy, ← hkey]
        exact List.mem_map_of_mem (h.stored_of_spelled hold)
      exact absurd hmem ((Table.get?_eq_none_iff _ _).mp hname)

theorem values_copy (h : s.Coherent) : s.copy.values = s.values := by rw [h.copy_eq]

theorem get?_isSome (h : s.Coherent) {key : String} (hkey : key ∈ Table.keys s.spellings) :
    (s.get? key).isSome := by
  obtain ⟨e, he, rfl⟩ := List.mem_map.mp hkey
  have hfold : Text.foldCase e.1 = e.1 := by
    rw [← h.folded e he, Name.folded, Text.foldCase_foldCase]
  have hspelled : s.spelling? e.1 = some e.2 := by
    rw [spelling?, hfold]
    exact Table.get?_of_mem h.distinct he
  rw [get?, hspelled, Option.bind_some, Option.isSome_map]
  exact h.value_isSome he

theorem keys_entries (h : s.Coherent) : s.entries.map Prod.fst = Table.keys s.spellings := by
  rw [entries, List.map_filterMap, Table.keys, ← List.filterMap_eq_map]
  refine List.filterMap_congr fun e he => ?_
  obtain ⟨v, hv⟩ := Option.isSome_iff_exists.mp (h.get?_isSome (Table.mem_keys_of_mem he))
  simp [hv]

end Coherent

/-- The entries are the folded names, each with what is found under it. -/
theorem entries_eq_keys (s : Scope κ α) :
    s.entries = (Table.keys s.spellings).filterMap fun key => (s.get? key).map (key, ·) := by
  simp [entries, Table.keys, List.filterMap_map]

/-- One scope has the variables of another one: the same are found under each name, they are written
the same, they are as many, and the same are listed, in whatever order. -/
structure Duplicates (c s : Scope κ α) : Prop where
  found : ∀ text, c.get? text = s.get? text
  contained : ∀ text, c.contains text = s.contains text
  spelled : ∀ text, (c.spelling? text).map (·.text) = (s.spelling? text).map (·.text)
  sized : c.size = s.size
  listed : c.entries.Perm s.entries

/-- A copy has the variables of its scope. -/
theorem duplicates_copy {s : Scope κ α} (h : s.Coherent) : s.copy.Duplicates s := by
  have spelled (text : String) :
      (s.copy.spelling? text).map (·.text) = (s.spelling? text).map (·.text) := h.get?_copy _
  have read (s : Scope κ α) (text : String) :
      s.get? text = (((s.spelling? text).map (·.text)).bind s.values.get?).map Prod.snd := by
    simp [get?, Option.bind_map, Function.comp_def]
  have found (text : String) : s.copy.get? text = s.get? text := by
    rw [read, read, spelled, h.values_copy]
  have contained (text : String) : s.copy.contains text = s.contains text := by
    simpa [contains] using congrArg Option.isSome (spelled text)
  have sized : s.copy.size = s.size := by rw [size, size, h.values_copy]
  have keys : (Table.keys s.copy.spellings).Perm (Table.keys s.spellings) := by
    refine (List.perm_ext_iff_of_nodup (coherent_copy s).distinct h.distinct).mpr fun key => ?_
    rw [← Table.get?_isSome_iff, ← Table.get?_isSome_iff]
    have := congrArg Option.isSome (h.get?_copy key)
    rw [Option.isSome_map, Option.isSome_map] at this
    rw [this]
  refine ⟨found, contained, spelled, sized, ?_⟩
  rw [entries_eq_keys, entries_eq_keys]
  simp only [found]
  exact keys.filterMap _

/-- A copy lists the variables in order of storage. -/
theorem keys_entries_copy {s : Scope κ α} (h : s.Coherent) :
    s.copy.entries.map Prod.fst = (Table.keys s.values).map Text.foldCase := by
  rw [(coherent_copy s).keys_entries, h.keys_copy]

/-- A copy lists the variables as its scope does just when that stores them in the order in which it
lists them. -/
theorem entries_copy_iff {s : Scope κ α} (h : s.Coherent) :
    s.copy.entries = s.entries ↔
      (Table.keys s.values).map Text.foldCase = Table.keys s.spellings := by
  constructor
  · intro same
    rw [← keys_entries_copy h, same, h.keys_entries]
  · intro same
    rw [entries_eq_keys, entries_eq_keys, h.keys_copy, same]
    simp only [(duplicates_copy h).found]

end Scope

end TemplateEngine
