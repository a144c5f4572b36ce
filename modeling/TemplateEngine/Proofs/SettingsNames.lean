import TemplateEngine.Proofs.SettingsText
/-!
Which settings name a log level or a log format. Only a text does: what any other setting is written
out as is no name in any case. Names consist of small letters, and almost all other texts have a
character that changing case leaves as it is and that is no letter.
-/
namespace TemplateEngine

variable {s : String}

/-! ## Marks -/

/-- A character that no name has, and that is its own small letter. -/
def IsMark (c : Char) : Prop := c.toNat < 0x41 ∨ c = '[' ∨ c = '\x7b'

namespace Text

theorem lowerCase_images_mark {c : Char} (h : IsMark c) : lowerCase.images c = [c] := by
  rcases h with small | rfl | rfl
  · have several : lowerCase.several.lookup c.toNat = none := by
      have later : lowerSeveral.all (0x41 ≤ ·.1) = true := by decide +kernel
      rw [List.lookup_eq_none_iff]
      intro e he
      have := List.all_eq_true.mp later e he
      simp only [decide_eq_true_eq] at this
      simp
      omega
    have runs : lowerCase.runs.find? (·.covers c.toNat) = none := by
      have later : lowerRuns.all (0x41 ≤ ·.first) = true := by decide +kernel
      rw [List.find?_eq_none]
      intro run hrun
      have := List.all_eq_true.mp later run hrun
      simp only [decide_eq_true_eq] at this
      simp only [CaseRun.covers, Bool.and_eq_true, decide_eq_true_eq, not_and]
      intro above
      omega
    rw [CaseMap.images, several, runs]
  · decide
  · decide

/-- A mark stays where a text is put into lower case. -/
theorem mark_mem_lower {c : Char} (h : IsMark c) (mem : c ∈ s.toList) : c ∈ (lower s).toList := by
  have mapped : ∀ (before : List Char) (cs : List Char), c ∈ cs →
      c ∈ mapInContext lowerImages before cs := by
    intro before cs
    induction cs generalizing before with
    | nil => simp
    | cons a rest ih =>
      intro mem
      rw [mapInContext, List.mem_append]
      rcases List.mem_cons.mp mem with rfl | mem
      · left
        have small : c ≠ 'Σ' := by
          rintro rfl
          simp [IsMark] at h
        rw [lowerImages, if_neg small, lowerCase_images_mark h]
        exact List.mem_cons_self
      · exact .inr (ih _ mem)
  rw [lower, String.toList_ofList]
  exact mapped [] _ mem

theorem mem_go_of_mem {base d : Nat} (fuel n : Nat) {acc : List Nat} (h : d ∈ acc) :
    d ∈ digitsOf.go base fuel n acc := by
  induction fuel generalizing n acc with
  | zero => exact h
  | succ fuel ih =>
    rw [digitsOf.go]
    split
    · exact List.mem_cons_of_mem _ h
    · exact ih _ (List.mem_cons_of_mem _ h)

/-- A numeral has a digit. -/
theorem exists_digit {base : Nat} (positive : 0 < base) (n : Nat) :
    ∃ d ∈ digitsOf base n, d < base := by
  rw [digitsOf, digitsOf.go]
  split
  · exact ⟨n, List.mem_cons_self, ‹_›⟩
  · exact ⟨n % base, mem_go_of_mem _ _ List.mem_cons_self, Nat.mod_lt _ positive⟩

end Text

/-! ## Names -/

/-- A text names neither a log level nor a log format, in any case. -/
def Nameless (s : String) : Prop :=
  LogLevel.ofName? (Text.lower s) = none ∧ LogFormat.ofName? (Text.lower s) = none

theorem nameless_of_mark {c : Char} (h : IsMark c) (mem : c ∈ s.toList) : Nameless s := by
  have kept := Text.mark_mem_lower h mem
  have unnamed : ∀ name ∈ ["debug", "info", "warning", "error", "json", "text"],
      Text.lower s ≠ name := by
    rintro name hname rfl
    have letters : (["debug", "info", "warning", "error", "json", "text"].all fun name =>
        name.toList.all fun c => 'a' ≤ c && c ≤ 'z') = true := by decide
    have letter := List.all_eq_true.mp (List.all_eq_true.mp letters _ hname) c kept
    simp only [Bool.and_eq_true, decide_eq_true_eq] at letter
    rcases h with small | rfl | rfl
    · have low : 'a'.toNat ≤ c.toNat := letter.1
      have : 'a'.toNat = 97 := rfl
      omega
    · exact absurd letter (by decide)
    · exact absurd letter (by decide)
  constructor
  · rw [LogLevel.ofName?, List.find?_eq_none]
    intro level _
    have other := unnamed level.name (by cases level <;> simp [LogLevel.name])
    simpa using Ne.symm other
  · rw [LogFormat.ofName?, List.find?_eq_none]
    intro format _
    have other := unnamed format.name (by cases format <;> simp [LogFormat.name])
    simpa using Ne.symm other

theorem nameless_writeInt (n : Int) : Nameless (Text.writeInt n) := by
  obtain ⟨d, mem, small⟩ := Text.exists_digit (show 0 < 10 by decide) n.natAbs
  have mark : IsMark (Text.digitChar d) := by
    have digits : ∀ d < 10, (Text.digitChar d).toNat < 0x41 := by decide
    exact .inl (digits d small)
  refine nameless_of_mark mark ?_
  have written : Text.digitChar d ∈ (Text.writeBase 10 n.natAbs).toList := by
    rw [Text.writeBase, String.toList_ofList]
    exact List.mem_map_of_mem mem
  unfold Text.writeInt
  split
  · rw [String.toList_append]
    exact List.mem_append_right _ written
  · exact written

/-- A number is written with a point, or with the sign of an exponent. -/
theorem mem_write (digits : List Nat) (lead : Int) :
    '.' ∈ (Layout.plain.write digits lead).toList ∨ '-' ∈ (Layout.plain.write digits lead).toList ∨
      '+' ∈ (Layout.plain.write digits lead).toList := by
  unfold Layout.write
  dsimp only
  by_cases positional : Layout.plain.minPositional ≤ lead ∧ lead < Layout.plain.maxPositional
  · rw [if_pos positional]
    left
    split
    · simp
    · split <;> simp [Layout.plain]
  · rw [if_neg positional]
    right
    by_cases negative : lead < 0
    · simp [negative]
    · simp [negative]

theorem nameless_write (digits : List Nat) (lead : Int) (sign : String) :
    Nameless (sign ++ Layout.plain.write digits lead) := by
  have within : ∀ c, IsMark c → c ∈ (Layout.plain.write digits lead).toList →
      Nameless (sign ++ Layout.plain.write digits lead) := fun c mark mem =>
    nameless_of_mark mark (by rw [String.toList_append]; exact List.mem_append_right _ mem)
  rcases mem_write digits lead with mem | mem | mem
  · exact within '.' (.inl (by decide)) mem
  · exact within '-' (.inl (by decide)) mem
  · exact within '+' (.inl (by decide)) mem

theorem nameless_float (x : Binary64) : Nameless x.toText := by
  cases x with
  | nan =>
    have nan : Nameless "nan" := by constructor <;> decide
    exact nan
  | infinite negative => cases negative <;> constructor <;> decide
  | finite negative m e =>
    have signed : ∀ sign : String, Nameless (sign ++ (if m = 0 then Layout.plain.write [0] 0
        else Layout.plain.write (shortest m e).normalDigits.1 (shortest m e).normalDigits.2)) := by
      intro sign
      split <;> exact nameless_write _ _ sign
    cases negative with
    | false =>
      have bare := signed ""
      rw [String.empty_append] at bare
      exact bare
    | true => exact signed "-"

/-- No scalar but a text is written out as a name. -/
theorem nameless_scalar {a : Value} (h : a.IsScalar) (other : ∀ s, a ≠ .text s)
    (written : a.scalarText = .ok s) : Nameless s := by
  have mark : ∀ c : Char, c.toNat < 0x41 → c ∈ s.toList → Nameless s := fun c small =>
    nameless_of_mark (.inl small)
  cases h with
  | null =>
    obtain rfl := Except.ok.inj written
    constructor <;> decide
  | bool b =>
    obtain rfl := Except.ok.inj written
    cases b <;> constructor <;> decide
  | int n =>
    have shown : showInt n = .ok s := written
    unfold showInt at shown
    split at shown
    · cases shown
    · obtain rfl := Except.ok.inj shown
      exact nameless_writeInt n
  | float x =>
    obtain rfl := Except.ok.inj written
    exact nameless_float x
  | text s => exact absurd rfl (other s)
  | date d =>
    obtain rfl := Except.ok.inj written
    exact mark '-' (by decide) (by simp [Date.toText])
  | time t =>
    obtain rfl := Except.ok.inj written
    exact mark ':' (by decide) (by simp [TimeOfDay.toText])
  | moment m =>
    obtain rfl := Except.ok.inj written
    exact mark ' ' (by decide) (by simp [Moment.toText])

theorem brackets_of_ok {x : Except Fault String} {left right : String}
    (written : (do return left ++ (← x) ++ right) = Except.ok s) :
    ∃ inside, s = left ++ inside ++ right := by
  cases x with
  | error f => cases written
  | ok inside => exact ⟨inside, (Except.ok.inj written).symm⟩

/-- No settings but a text are written out as a name: lists and tables are in brackets. -/
theorem nameless_text {t : Tree String Value} (proper : t.Proper Value.IsScalar)
    (other : ∀ s, t ≠ .leaf (.text s)) (written : t.text = .ok s) : Nameless s := by
  cases t with
  | leaf a => exact nameless_scalar proper (fun s h => other s (h ▸ rfl)) written
  | list items =>
    obtain ⟨inside, rfl⟩ := brackets_of_ok written
    exact nameless_of_mark (.inr (.inl rfl)) (by simp)
  | table entries =>
    obtain ⟨inside, rfl⟩ := brackets_of_ok written
    exact nameless_of_mark (.inr (.inr rfl)) (by simp)

/-! ## Failures -/

theorem shown_scalar_error {a : Value} {f : Fault} (h : a.IsScalar) (failed : a.shown = .error f) :
    f = .digitLimit := by
  cases h with
  | int n =>
    have shown : showInt n = .error f := failed
    unfold showInt at shown
    split at shown
    · exact (Except.error.inj shown).symm
    · cases shown
  | _ => cases failed

theorem bind_error_elim {α β : Type} {x : Except Fault α} {k : α → Except Fault β} {f : Fault}
    (failed : (x >>= k) = .error f) : x = .error f ∨ ∃ a, k a = .error f := by
  cases x with
  | error g => exact .inl (congrArg Except.error (Except.error.inj failed))
  | ok a => exact .inr ⟨a, failed⟩

mutual

theorem shown_error : ∀ (t : Tree String Value) {f : Fault}, t.Proper Value.IsScalar →
    t.shown = .error f → f = .digitLimit
  | .leaf a, f, h, failed => shown_scalar_error h failed
  | .list items, f, h, failed => by
    rcases bind_error_elim failed with failed | ⟨a, failed⟩
    · exact shownItems_error items h failed
    · cases failed
  | .table entries, f, h, failed => by
    rcases bind_error_elim failed with failed | ⟨a, failed⟩
    · exact shownEntries_error entries h.2 failed
    · cases failed

theorem shownItems_error : ∀ (ts : List (Tree String Value)) {f : Fault},
    Tree.ProperItems Value.IsScalar ts → Tree.shownItems ts = .error f → f = .digitLimit
  | [], f, _, failed => by cases failed
  | t :: rest, f, h, failed => by
    rw [Tree.shownItems_cons] at failed
    split at failed
    · exact shown_error t h.1 failed
    · rcases bind_error_elim failed with failed | ⟨a, failed⟩
      · exact shown_error t h.1 failed
      · rcases bind_error_elim failed with failed | ⟨b, failed⟩
        · exact shownItems_error rest h.2 failed
        · cases failed

theorem shownEntries_error : ∀ (es : List (String × Tree String Value)) {f : Fault},
    Tree.ProperEntries Value.IsScalar es → Tree.shownEntries es = .error f → f = .digitLimit
  | [], f, _, failed => by cases failed
  | (k, t) :: rest, f, h, failed => by
    rw [Tree.shownEntries_cons] at failed
    split at failed
    · rcases bind_error_elim failed with failed | ⟨a, failed⟩
      · exact shown_error t h.1 failed
      · cases failed
    · rcases bind_error_elim failed with failed | ⟨a, failed⟩
      · exact shown_error t h.1 failed
      · rcases bind_error_elim failed with failed | ⟨b, failed⟩
        · exact shownEntries_error rest h.2 failed
        · cases failed

end

/-- Settings have a text, unless there is an integer of too many digits in them. -/
theorem text_error {t : Tree String Value} {f : Fault} (proper : t.Proper Value.IsScalar)
    (failed : t.text = .error f) : f = .digitLimit := by
  cases t with
  | leaf a =>
    have scalar : a.IsScalar := proper
    have failed : a.scalarText = .error f := failed
    cases scalar with
    | int n => exact shown_scalar_error (.int n) failed
    | _ => cases failed
  | list items => exact shown_error (.list items) proper failed
  | table entries => exact shown_error (.table entries) proper failed

end TemplateEngine
