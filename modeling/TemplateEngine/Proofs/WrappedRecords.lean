import TemplateEngine.Proofs.Records
import TemplateEngine.Proofs.Transparency
/-!
Records within optionals. An optional is no record itself, and what it holds is resolved, listed and
mapped without asking whether that is one: a record loses its precedence by being wrapped.
-/
namespace TemplateEngine

namespace ObjectModel

variable {w w₁ : World} {t r : Value}

theorem outcome_toTemplateText_text (s : String) (w : World) :
    outcome (toTemplateText (.text s)) w = (.ok (.text s), w) := by
  obtain ⟨n, room⟩ := w.nesting_eq_succ (.text s)
  simp [toTemplateText, room, toStringWithin, World.content?, World.base, World.text?]

/-- A name is no index: only the record and its attributes are left to be asked. -/
theorem outcome_resolveProperty_text (given : t ≠ .null) (s : String) :
    outcome (ObjectModel.standard.resolveProperty t (.text s)) w =
      outcome (inheritedProperty t (.text s)) w := by
  have unindexed : outcome (resolveIndex t (.text s)) w = (.ok .null, w) := by
    simp [resolveIndex, indexTarget, asIndex, World.base]
  rw [outcome_resolveProperty (.text s) given, unindexed]

theorem outcome_inheritedProperty_other (given : t ≠ .null) (s : String)
    (other : outcome (isRecord t) w = (.ok false, w₁)) :
    outcome (inheritedProperty t (.text s)) w =
      outcome (TemplateEngine.resolveProperty t (.text s)) w₁ := by
  rw [outcome_inheritedProperty (.text s) given (outcome_toTemplateText_text s w),
    outcome_bind_ok other]
  rfl

theorem outcome_inheritedProperty_record (given : t ≠ .null) (s : String)
    (record : outcome (isRecord t) w = (.ok true, w₁)) :
    outcome (inheritedProperty t (.text s)) w =
      match outcome (recordProperty t (.text s)) w₁ with
      | (.ok .null, w₂) => outcome (TemplateEngine.resolveProperty t (.text s)) w₂
      | found => found := by
  rw [outcome_inheritedProperty (.text s) given (outcome_toTemplateText_text s w),
    outcome_bind_ok record, if_pos rfl]
  exact outcome_orElse _ _ w₁

theorem ne_null_of_isRecord (record : outcome (isRecord r) w = (.ok true, w₁)) : r ≠ .null := by
  rintro rfl
  rw [outcome_isRecord_missing (by simp) rfl rfl] at record
  simp at record

theorem outcome_inheritedProperty_wrap (tag : Nat) (tags : List Nat) (r : Value) (s : String) :
    outcome (inheritedProperty (wrap (tag :: tags) r) (.text s)) w =
      outcome (TemplateEngine.resolveProperty r (.text s)) w := by
  have other := outcome_isRecord_optional (w := w) tag (wrap tags r)
  rw [wrap, outcome_inheritedProperty_other (by simp) s other]
  exact outcome_resolveProperty_wrap_text (tag :: tags) r s

theorem outcome_toCollection_wrap (tag : Nat) (tags : List Nat) (r : Value) :
    outcome (toCollection (wrap (tag :: tags) r)) w = outcome (TemplateEngine.toCollection r) w := by
  have other := outcome_isRecord_optional (w := w) tag (wrap tags r)
  rw [wrap, toCollection, outcome_bind_ok other, if_neg Bool.false_ne_true, ← wrap,
    TemplateEngine.toCollection, TemplateEngine.toCollection, outcome_get_bind, outcome_get_bind,
    w.unwrap_wrap]

/-- A record is asked for a property first, and is its own sequence of names and mapping of
properties. Any optional around it hides all that: whatever the record has, its properties are
resolved as those of a value that is none, its sequence is that of such a value, and its mapping is a
new empty one. -/
theorem record_within_optionals (record : outcome (isRecord r) w = (.ok true, w₁)) (tag : Nat)
    (tags : List Nat) (s : String) :
    (∀ resolve ∈ [ObjectModel.standard.resolveProperty, ObjectModel.standard.getProperty],
      outcome (resolve r (.text s)) w =
        (match outcome (recordProperty r (.text s)) w₁ with
        | (.ok .null, w₂) => outcome (TemplateEngine.resolveProperty r (.text s)) w₂
        | found => found) ∧
      outcome (resolve (wrap (tag :: tags) r) (.text s)) w =
        outcome (TemplateEngine.resolveProperty r (.text s)) w) ∧
    (outcome (toCollection r) w = outcome (callMethod r Record.namer [] >>= drain) w₁ ∧
      outcome (toCollection (wrap (tag :: tags) r)) w = outcome (TemplateEngine.toCollection r) w) ∧
    (outcome (toMap r) w = (if w.isMapping r then (.ok r, w) else outcome (recordMap r) w₁) ∧
      outcome (toMap (wrap (tag :: tags) r)) w = outcome (alloc (.dict false [])) w) := by
  have given := ne_null_of_isRecord record
  have asked := outcome_inheritedProperty_record given s record
  have hidden := outcome_inheritedProperty_wrap (w := w) tag tags r s
  refine ⟨?_, ⟨?_, outcome_toCollection_wrap tag tags r⟩, ?_, outcome_toMap_optional tag _⟩
  · simp only [List.forall_mem_cons, List.not_mem_nil, false_implies, implies_true, and_true]
    refine ⟨⟨?_, ?_⟩, ?_, ?_⟩
    · rw [outcome_resolveProperty_text given, asked]
    · rw [outcome_resolveProperty_text (by simp [wrap]), hidden]
    · rw [outcome_getProperty_standard, asked]
    · rw [outcome_getProperty_standard, hidden]
  · rw [toCollection, outcome_bind_ok record, if_pos rfl]
  · rw [toMap, outcome_get_bind]
    cases w.isMapping r with
    | true => rfl
    | false => rw [if_neg Bool.false_ne_true, outcome_bind_ok record]; rfl

/-- A world with a unit that another one is registered with. -/
def household : World where
  forest := [⟨none, [("child", 1)]⟩, ⟨some 0, []⟩]
  unitClasses := #[0, 0]
  classes := #[{
    name := "Unit"
    kind := .plain
    bases := [.standard .renderUnit]
    order := [.declared 0, .standard .renderUnit, .standard .object]
    members := []
    annotations := []
    names := []
    fields := none
    closed := false }]

/-- A unit finds its sub-unit, and not within an optional. -/
theorem record_within_optionals_unit :
    outcome (isRecord (.unit 0)) household = (.ok true, household) ∧
    (outcome (ObjectModel.standard.resolveProperty (.unit 0) (.text "child")) household).1 =
      .ok (.unit 1) ∧
    (outcome (ObjectModel.standard.resolveProperty (wrap [2, 3] (.unit 0)) (.text "child"))
      household).1 = .ok .null := by
  have record : outcome (isRecord (.unit 0)) household = (.ok true, household) := rfl
  obtain ⟨resolved, -⟩ := record_within_optionals record 2 [3] "child"
  obtain ⟨bare, wrapped⟩ := resolved _ List.mem_cons_self
  refine ⟨record, ?_, ?_⟩
  · rw [bare]
    rfl
  · rw [wrapped]
    rfl

end ObjectModel

end TemplateEngine
