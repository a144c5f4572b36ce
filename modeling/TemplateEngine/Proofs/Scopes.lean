import TemplateEngine.Proofs.Folding
import TemplateEngine.Proofs.Tables
import TemplateEngine.Scope
import Mathlib.Data.List.Nodup
/-!
A scope is a dictionary in insertion order under folded names, which remembers for each name how it
was last written. Its two tables belong together one to one, and every operation keeps that.
-/
namespace TemplateEngine

/-- What is remembered of a variable: the name as it was last given, and the value. The keys are
folded names. -/
abbrev Dictionary (κ α : Type) := Table String (κ × α)

namespace Scope

variable {κ α : Type}

/-- The two tables of a scope belong together: each name stands under its folded text, and the texts
of the names are the keys of the values. -/
structure Coherent (s : Scope κ α) : Prop where
  folded : ∀ e ∈ s.spellings, e.2.folded = e.1
  distinct : (Table.keys s.spellings).Nodup
  stored : (Table.keys s.values).Nodup
  texts : ∀ t, t ∈ Table.keys s.values ↔ ∃ e ∈ s.spellings, e.2.text = t

/-- The value that a scope holds for a name that it remembers. -/
def held (values : Table String (κ × α)) (name : Name κ) : κ × Option α :=
  (name.given, (values.get? name.text).map Prod.snd)

/-- What an entry of a dictionary tells. -/
def shown (e : κ × α) : κ × Option α := (e.1, some e.2)

/-- A scope shows a dictionary: the same names in the same order, with the same spellings and
values. -/
structure Shows (s : Scope κ α) (d : Dictionary κ α) : Prop where
  coherent : s.Coherent
  same : Table.carry (fun _ => held s.values) s.spellings = Table.carry (fun _ => shown) d

theorem shows_empty : (empty : Scope κ α).Shows [] where
  coherent := ⟨by simp [empty], by simp [empty, Table.keys], by simp [empty, Table.keys],
    by simp [empty, Table.keys]⟩
  same := rfl

namespace Coherent

variable {s : Scope κ α}

theorem folded_of_get? (h : s.Coherent) {key : String} {name : Name κ}
    (hname : s.spellings.get? key = some name) : name.folded = key :=
  h.folded (key, name) (Table.mem_of_get? hname)

/-- Under one folded name stands one spelling. -/
theorem eq_of_key (h : s.Coherent) {e : String × Name κ} (he : e ∈ s.spellings) {old : Name κ}
    (hold : s.spellings.get? e.1 = some old) : e.2 = old := by
  have hmem : (e.1, e.2) ∈ s.spellings := he
  have := Table.get?_of_mem h.distinct hmem
  rw [hold] at this
  exact (Option.some.inj this).symm

/-- Names with other folded texts have other texts. -/
theorem text_ne (h : s.Coherent) {e : String × Name κ} (he : e ∈ s.spellings) {name : Name κ}
    (hne : e.1 ≠ name.folded) : e.2.text ≠ name.text := by
  intro ht
  apply hne
  rw [← h.folded e he, Name.folded, Name.folded, ht]

theorem value_isSome (h : s.Coherent) {e : String × Name κ} (he : e ∈ s.spellings) :
    (s.values.get? e.2.text).isSome := by
  rw [Table.get?_isSome_iff, h.texts]
  exact ⟨e, he, rfl⟩

end Coherent

/-- The values that are left when a name is about to be written: one under another text of the same
name is dropped. -/
def kept (s : Scope κ α) (name : Name κ) : Table String (κ × α) :=
  match s.spellings.get? name.folded with
  | some old => if old.text = name.text then s.values else s.values.erase old.text
  | none => s.values

/-- The name that stays with a written value: the first one that had the text. -/
def firstGiven (s : Scope κ α) (name : Name κ) : κ :=
  (((s.kept name).get? name.text).map Prod.fst).getD name.given

theorem insert_eq (s : Scope κ α) (name : Name κ) (value : α) :
    s.insert name value = ⟨s.spellings.insert name.folded name,
      (s.kept name).insert name.text (s.firstGiven name, value)⟩ := rfl

theorem nodup_kept {s : Scope κ α} (h : s.Coherent) (name : Name κ) :
    (Table.keys (s.kept name)).Nodup := by
  unfold kept
  split
  · split
    · exact h.stored
    · exact Table.nodup_keys_erase h.stored _
  · exact h.stored

/-- The values of other names are kept. -/
theorem get?_kept {s : Scope κ α} (h : s.Coherent) (name : Name κ) {e : String × Name κ}
    (he : e ∈ s.spellings) (hne : e.1 ≠ name.folded) :
    (s.kept name).get? e.2.text = s.values.get? e.2.text := by
  unfold kept
  split
  · rename_i old hold
    split
    · rfl
    · have hold' : old.folded = name.folded := h.folded_of_get? hold
      exact Table.get?_erase_of_ne _ (h.text_ne he (by rw [hold']; exact hne))
  · rfl

/-- Besides the text that is about to be written, the texts of other names are kept, and no
more. -/
theorem mem_keys_kept {s : Scope κ α} (h : s.Coherent) (name : Name κ) {t : String}
    (ht : t ≠ name.text) :
    t ∈ Table.keys (s.kept name) ↔ ∃ e ∈ s.spellings, e.1 ≠ name.folded ∧ e.2.text = t := by
  constructor
  · intro hmem
    unfold kept at hmem
    split at hmem
    · rename_i old hold
      split at hmem
      · rename_i hsame
        obtain ⟨e, he, rfl⟩ := (h.texts t).mp hmem
        refine ⟨e, he, fun hf => ht ?_, rfl⟩
        rw [h.eq_of_key he (hf ▸ hold), hsame]
      · rw [Table.keys_erase, h.stored.mem_erase_iff] at hmem
        obtain ⟨e, he, rfl⟩ := (h.texts t).mp hmem.2
        exact ⟨e, he, fun hf => hmem.1 (by rw [h.eq_of_key he (hf ▸ hold)]), rfl⟩
    · rename_i hnone
      obtain ⟨e, he, rfl⟩ := (h.texts t).mp hmem
      refine ⟨e, he, fun hf => ?_, rfl⟩
      exact (Table.get?_eq_none_iff _ _).mp hnone (hf ▸ Table.mem_keys_of_mem he)
  · rintro ⟨e, he, hne, rfl⟩
    rw [← Table.get?_isSome_iff, get?_kept h name he hne]
    exact h.value_isSome he

theorem coherent_insert {s : Scope κ α} (h : s.Coherent) (name : Name κ) (value : α) :
    (s.insert name value).Coherent := by
  rw [insert_eq]
  refine ⟨?_, ?_, ?_, fun t => ?_⟩
  · intro e he
    rcases (Table.mem_insert h.distinct).mp he with rfl | ⟨he, -⟩
    · rfl
    · exact h.folded e he
  · exact Table.nodup_keys_insert _ _ _ h.distinct
  · exact Table.nodup_keys_insert _ _ _ (nodup_kept h name)
  · simp only [Table.mem_keys_insert, Table.mem_insert h.distinct]
    by_cases ht : t = name.text
    · subst ht
      exact ⟨fun _ => ⟨_, Or.inl rfl, rfl⟩, fun _ => Or.inl rfl⟩
    · rw [mem_keys_kept h name ht]
      constructor
      · rintro (rfl | ⟨e, he, hne, hte⟩)
        · exact absurd rfl ht
        · exact ⟨e, Or.inr ⟨he, hne⟩, hte⟩
      · rintro ⟨e, rfl | ⟨he, hne⟩, hte⟩
        · exact absurd hte.symm ht
        · exact Or.inr ⟨e, he, hne, hte⟩

theorem Shows.nodup_keys {s : Scope κ α} {d : Dictionary κ α} (h : s.Shows d) :
    (Table.keys d).Nodup := by
  have := congrArg Table.keys h.same
  rw [Table.keys_carry, Table.keys_carry] at this
  rw [← this]
  exact h.coherent.distinct

/-- Writing a variable writes the entry of its folded name. -/
theorem Shows.insert {s : Scope κ α} {d : Dictionary κ α} (h : s.Shows d) (name : Name κ)
    (value : α) : (s.insert name value).Shows (Table.insert d name.folded (name.given, value)) where
  coherent := coherent_insert h.coherent name value
  same := by
    have hkept : ∀ e ∈ s.spellings, e.1 ≠ name.folded →
        held (s.insert name value).values e.2 = held s.values e.2 := by
      intro e he hne
      have hget := Table.get?_insert_of_ne (s.kept name) (s.firstGiven name, value)
        (h.coherent.text_ne he hne)
      simp only [held, insert_eq, hget, get?_kept h.coherent name he hne]
    have hself : held (s.insert name value).values name = shown (name.given, value) := by
      simp [held, insert_eq, Table.get?_insert_self, shown]
    calc Table.carry (fun _ => held (s.insert name value).values)
          (s.spellings.insert name.folded name)
        = Table.insert (Table.carry (fun _ => held s.values) s.spellings) name.folded
            (held (s.insert name value).values name) :=
          Table.carry_insert h.coherent.distinct hkept
      _ = Table.insert (Table.carry (fun _ => shown) d) name.folded
            (shown (name.given, value)) := by rw [h.same, hself]
      _ = Table.carry (fun _ => shown) (Table.insert d name.folded (name.given, value)) :=
          (Table.carry_insert h.nodup_keys fun _ _ _ => rfl).symm

theorem erase_eq {s : Scope κ α} {text : String} {old : Name κ} (h : s.spelling? text = some old) :
    s.erase text = ⟨s.spellings.erase (Text.foldCase text), s.values.erase old.text⟩ := by
  simp [erase, h]

theorem coherent_erase {s : Scope κ α} (h : s.Coherent) (text : String) :
    (s.erase text).Coherent := by
  cases hold : s.spelling? text with
  | none => simpa [erase, hold] using h
  | some old =>
    have hfold := h.folded_of_get? hold
    rw [erase_eq hold]
    refine ⟨?_, ?_, ?_, fun t => ?_⟩
    · intro e he
      exact h.folded e ((Table.mem_erase h.distinct).mp he).1
    · exact Table.nodup_keys_erase h.distinct _
    · exact Table.nodup_keys_erase h.stored _
    · rw [Table.keys_erase, h.stored.mem_erase_iff, h.texts]
      constructor
      · rintro ⟨hne, e, he, rfl⟩
        refine ⟨e, (Table.mem_erase h.distinct).mpr ⟨he, fun hf => hne ?_⟩, rfl⟩
        have hkey : s.spellings.get? e.1 = some old := by rw [hf]; exact hold
        rw [h.eq_of_key he hkey]
      · rintro ⟨e, he, rfl⟩
        obtain ⟨he, hne⟩ := (Table.mem_erase h.distinct).mp he
        have htext : e.2.text ≠ old.text := h.text_ne he (by rw [hfold]; exact hne)
        exact ⟨htext, e, he, rfl⟩

/-- Erasing a variable erases the entry of its folded name. -/
theorem Shows.erase {s : Scope κ α} {d : Dictionary κ α} (h : s.Shows d) (text : String) :
    (s.erase text).Shows (Table.erase d (Text.foldCase text)) where
  coherent := coherent_erase h.coherent text
  same := by
    have hd : Table.carry (fun _ => shown) (Table.erase d (Text.foldCase text)) =
        Table.erase (Table.carry (fun _ => shown) d) (Text.foldCase text) :=
      Table.carry_erase h.nodup_keys fun _ _ _ => rfl
    have hkept : ∀ e ∈ s.spellings, e.1 ≠ Text.foldCase text →
        held (s.erase text).values e.2 = held s.values e.2 := by
      intro e he hne
      cases hold : s.spelling? text with
      | none => simp [Scope.erase, hold]
      | some old =>
        have hfold := h.coherent.folded_of_get? hold
        have htext : e.2.text ≠ old.text := h.coherent.text_ne he (by rw [hfold]; exact hne)
        simp [erase_eq hold, held, Table.get?_erase_of_ne _ htext]
    have hspellings : (s.erase text).spellings = s.spellings.erase (Text.foldCase text) := by
      cases hold : s.spelling? text with
      | none =>
        have hkey := (Table.get?_eq_none_iff _ _).mp hold
        simp [Scope.erase, hold, Table.erase_of_not_mem hkey]
      | some old => rw [erase_eq hold]
    calc Table.carry (fun _ => held (s.erase text).values) (s.erase text).spellings
        = Table.erase (Table.carry (fun _ => held s.values) s.spellings) (Text.foldCase text) := by
          rw [hspellings]
          exact Table.carry_erase h.coherent.distinct hkept
      _ = Table.carry (fun _ => shown) (Table.erase d (Text.foldCase text)) := by
          rw [hd]; exact congrArg (Table.erase · _) h.same

namespace Shows

variable {s : Scope κ α} {d : Dictionary κ α}

theorem get?_reading (h : s.Shows d) (key : String) :
    (s.spellings.get? key).map (held s.values) = (Table.get? d key).map shown := by
  have := congrArg (Table.get? · key) h.same
  simp only [Table.get?_carry] at this
  exact this

theorem spelling?_eq (h : s.Shows d) (text : String) :
    (s.spelling? text).map (·.given) = (Table.get? d (Text.foldCase text)).map Prod.fst := by
  have := congrArg (Option.map Prod.fst) (h.get?_reading (Text.foldCase text))
  simpa [Option.map_map, Function.comp_def, held, shown, spelling?] using this

theorem get?_eq (h : s.Shows d) (text : String) :
    s.get? text = (Table.get? d (Text.foldCase text)).map Prod.snd := by
  have := congrArg (Option.bind · Prod.snd) (h.get?_reading (Text.foldCase text))
  simp only [Option.bind_map, Function.comp_def, held, shown] at this
  rw [get?, Option.map_bind, spelling?]
  simpa [Function.comp_def, Option.map_eq_bind] using this

theorem contains_eq (h : s.Shows d) (text : String) :
    s.contains text = Table.contains d (Text.foldCase text) := by
  have := congrArg Option.isSome (h.get?_reading (Text.foldCase text))
  simpa [contains, spelling?, Table.contains] using this

theorem keys_eq (h : s.Shows d) : Table.keys s.spellings = Table.keys d := by
  simpa only [Table.keys_carry] using congrArg Table.keys h.same

/-- The folded names are keys under which they are found. -/
theorem fold_key (h : s.Shows d) {key : String} (hkey : key ∈ Table.keys d) :
    Text.foldCase key = key := by
  rw [← h.keys_eq] at hkey
  obtain ⟨e, he, rfl⟩ := List.mem_map.mp hkey
  rw [← h.coherent.folded e he, Name.folded, Text.foldCase_foldCase]

theorem entries_eq (h : s.Shows d) : s.entries = d.map fun e => (e.1, e.2.2) := by
  have hkeys : s.entries = (Table.keys s.spellings).filterMap fun key =>
      (s.get? key).map (key, ·) := by
    simp [entries, Table.keys, List.filterMap_map]
  have hfound : ∀ e ∈ d, (s.get? e.1).map (e.1, ·) = some (e.1, e.2.2) := by
    intro e he
    have hmem : (e.1, e.2) ∈ d := he
    rw [h.get?_eq, h.fold_key (Table.mem_keys_of_mem he), Table.get?_of_mem h.nodup_keys hmem]
    rfl
  rw [hkeys, h.keys_eq, Table.keys, List.filterMap_map, ← List.filterMap_eq_map]
  exact List.filterMap_congr hfound

/-- The two tables of a scope are of one length. -/
theorem size_eq (h : s.Shows d) : s.size = d.length := by
  have htexts : (s.spellings.map fun e => e.2.text).Perm (Table.keys s.values) := by
    refine (List.perm_ext_iff_of_nodup ?_ h.coherent.stored).mpr fun t => ?_
    · have hfold : (s.spellings.map fun e => e.2.text).map Text.foldCase =
          Table.keys s.spellings := by
        rw [List.map_map]
        exact List.map_congr_left fun e he => h.coherent.folded e he
      exact List.Nodup.of_map _ (hfold ▸ h.coherent.distinct)
    · rw [h.coherent.texts, List.mem_map]
  have hlength := htexts.length_eq
  have hkeys := congrArg List.length h.keys_eq
  simp only [Table.keys, List.length_map] at hlength hkeys
  rw [size, ← hlength, hkeys]

/-- The first variable in order of iteration is the first entry. -/
theorem popFirst?_nil {s : Scope κ α} (h : s.Shows ([] : Dictionary κ α)) : s.popFirst? = none := by
  simp [popFirst?, h.entries_eq]

theorem popFirst?_cons {key : String} {e : κ × α} {rest : Dictionary κ α}
    (h : s.Shows ((key, e) :: rest)) :
    ∃ s', s.popFirst? = some ((key, e.2), s') ∧ s'.Shows rest := by
  refine ⟨s.erase key, by simp [popFirst?, h.entries_eq], ?_⟩
  have hkey : key ∈ Table.keys ((key, e) :: rest) := by simp [Table.keys]
  have hfold := h.fold_key hkey
  have := h.erase key
  rwa [hfold, Table.erase, if_pos (by simp)] at this

end Shows

end Scope

end TemplateEngine
