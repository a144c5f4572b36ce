import TemplateEngine.Proofs.JsonAcceptance
import TemplateEngine.Settings.Environment
/-!
What the text of a variable stands for: a truth value, an integer, a number with a point, or a list or
table of JSON, if it is one of them, and otherwise itself.
-/
namespace TemplateEngine.Environment

/-! ## The forms -/

/-- A spelling of a truth value, in any case. -/
def IsTruth (s : String) : Prop := Text.lower s ∈ ["true", "false", "1", "0"]

/-- An integer of no more digits than an integer may have. -/
def IsInteger (s : String) : Prop :=
  s.toList ∈ Loose.integerText ∧ (s.toList.filter Text.isDigit).length ≤ maxIntegerDigits

def integerValue (s : String) : Int :=
  signed (s.toList.contains '-') (Text.readDecimal (s.toList.filter Text.isDigit))

/-- A number with a point. -/
def IsPointNumber (s : String) : Prop := s.toList ∈ Loose.pointText

/-- A list or a table of JSON. -/
def IsCompound (s : String) : Prop := isBracketed s.toList ∧ Json.IsJson s.toList

/-- What a text stands for. The forms are tried one after the other. -/
inductive Stands (s : String) : Tree String Value → Prop
  | truth (spelled : IsTruth s) :
      Stands s (.leaf (.bool (["true", "1"].contains (Text.lower s))))
  | integer (untrue : ¬IsTruth s) (held : IsInteger s) : Stands s (.leaf (.int (integerValue s)))
  | point (untrue : ¬IsTruth s) (broken : ¬IsInteger s) (held : IsPointNumber s) {x : Binary64}
      (value : pointNumber? s = some x) : Stands s (.leaf (.float x))
  | compound (untrue : ¬IsTruth s) (broken : ¬IsInteger s) (pointless : ¬IsPointNumber s)
      (held : IsCompound s) {t : Tree String Value} (value : Json.read s.toList = .ok t) : Stands s t
  | text (untrue : ¬IsTruth s) (broken : ¬IsInteger s) (pointless : ¬IsPointNumber s)
      (loose : ¬IsCompound s) : Stands s (.leaf (.text s))

/-! ## The reader -/

section Readings

variable {s : String}

theorem integer?_of_isInteger (h : IsInteger s) : integer? s = some (integerValue s) :=
  integer?_eq_some_iff.mpr ⟨h.1, h.2, rfl⟩

theorem integer?_eq_none (h : ¬IsInteger s) : integer? s = none := by
  rw [Option.eq_none_iff_forall_ne_some]
  intro n found
  obtain ⟨held, short, -⟩ := integer?_eq_some_iff.mp found
  exact h ⟨held, short⟩

theorem pointNumber?_eq_none (h : ¬IsPointNumber s) : pointNumber? s = none := by
  rw [Option.eq_none_iff_forall_ne_some]
  exact fun x found => h (exists_pointNumber?_iff.mp ⟨x, found⟩)

theorem readText_of_truth (h : IsTruth s) :
    readText s = .ok (.leaf (.bool (["true", "1"].contains (Text.lower s)))) := by
  have listed : ["true", "false", "1", "0"].contains (Text.lower s) := List.contains_iff_mem.mpr h
  rw [readText, if_pos listed]

theorem readText_of_untrue (h : ¬IsTruth s) : readText s =
    match integer? s, pointNumber? s with
    | some n, _ => .ok (.leaf (.int n))
    | none, some x => .ok (.leaf (.float x))
    | none, none =>
      if isBracketed s.toList then
        match Json.read s.toList with
        | .ok t => .ok t
        | .error .malformed => .ok (.leaf (.text s))
        | .error (.limit l) => .error l
      else .ok (.leaf (.text s)) := by
  have unlisted : ¬["true", "false", "1", "0"].contains (Text.lower s) = true :=
    mt List.contains_iff_mem.mp h
  rw [readText, if_neg unlisted]
  cases integer? s with
  | some n => rfl
  | none => cases pointNumber? s <;> rfl

/-- What a text is read as is what it stands for. -/
theorem stands_of_readText {t : Tree String Value} (read : readText s = .ok t) : Stands s t := by
  by_cases spelled : IsTruth s
  · rw [readText_of_truth spelled] at read
    cases read
    exact .truth spelled
  rw [readText_of_untrue spelled] at read
  by_cases integral : IsInteger s
  · rw [integer?_of_isInteger integral] at read
    cases read
    exact .integer spelled integral
  rw [integer?_eq_none integral] at read
  by_cases pointed : IsPointNumber s
  · obtain ⟨x, found⟩ := exists_pointNumber?_iff.mpr pointed
    rw [found] at read
    cases read
    exact .point spelled integral pointed found
  rw [pointNumber?_eq_none pointed] at read
  dsimp only at read
  split_ifs at read with bracketed
  · split at read
    · next tree whole =>
      cases read
      exact .compound spelled integral pointed ⟨bracketed, (Json.isJson_of_read whole).1⟩ whole
    · next flawed =>
      cases read
      refine .text spelled integral pointed fun held => ?_
      obtain ⟨t, found⟩ | ⟨l, found⟩ := Json.read_of_isJson held.2
      · cases flawed.symm.trans found
      · cases flawed.symm.trans found
    · cases read
  · cases read
    exact .text spelled integral pointed fun held => bracketed held.1

/-- A text that is refused is in brackets and breaks a limit of JSON. -/
theorem fits_of_readText {l : Json.Limit} (read : readText s = .error l) :
    isBracketed s.toList ∧ ¬IsTruth s ∧ ¬IsInteger s ∧ ¬IsPointNumber s ∧
      l.Fits Json.maxDepth s.toList := by
  by_cases spelled : IsTruth s
  · rw [readText_of_truth spelled] at read
    cases read
  rw [readText_of_untrue spelled] at read
  by_cases integral : IsInteger s
  · rw [integer?_of_isInteger integral] at read
    cases read
  rw [integer?_eq_none integral] at read
  by_cases pointed : IsPointNumber s
  · obtain ⟨x, found⟩ := exists_pointNumber?_iff.mpr pointed
    rw [found] at read
    cases read
  rw [pointNumber?_eq_none pointed] at read
  dsimp only at read
  split_ifs at read with bracketed
  split at read
  · cases read
  · cases read
  · next limit broken =>
    cases read
    exact ⟨bracketed, spelled, integral, pointed, Json.fits_of_read broken⟩

/-- What a text stands for can be written out. -/
theorem Stands.isPrinted {t : Tree String Value} (h : Stands s t) : t.Proper Value.IsPrinted := by
  cases h with
  | truth spelled => exact ⟨.bool _, _, rfl⟩
  | integer untrue held =>
    have read : readInteger (s.toList.contains '-') (s.toList.filter Text.isDigit) =
        .ok (integerValue s) := by
      rw [readInteger, if_neg (Nat.not_lt.mpr held.2), integerValue]
    exact isPrinted_of_readInteger read
  | point untrue broken held value => exact ⟨.float _, _, rfl⟩
  | compound untrue broken pointless held value => exact (Json.isJson_of_read value).2
  | text untrue broken pointless loose => exact ⟨.text s, _, rfl⟩

end Readings

/-- Every text is read as the first of the forms that it has, and as itself if it has none. Only a text
in brackets may be refused, for a run of too many digits or for too many brackets. -/
theorem readText_stands (s : String) :
    match readText s with
    | .ok t => Stands s t
    | .error l => isBracketed s.toList ∧ ¬IsTruth s ∧ ¬IsInteger s ∧ ¬IsPointNumber s ∧
        l.Fits Json.maxDepth s.toList := by
  cases read : readText s with
  | ok t => exact stands_of_readText read
  | error l => exact fits_of_readText read

end TemplateEngine.Environment
