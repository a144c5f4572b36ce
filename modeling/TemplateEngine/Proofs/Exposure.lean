import TemplateEngine.Proofs.Hierarchy
import TemplateEngine.Proofs.Outcome
import TemplateEngine.Resolution
/-!
What templates reach of a value: fields and accessors that a public class exposes. Anything else is
nothing, and is not read.
-/
namespace TemplateEngine

/-- The class of the target is public, or a public class in its resolution order defines or
annotates the name. -/
def World.Exposes (w : World) (target : Value) (name : String) : Prop :=
  Classes.isPublic w.classes (w.ownerClass target) = true ∨
    ∃ c ∈ Classes.order w.classes (w.ownerClass target),
      Classes.isPublic w.classes c = true ∧ Classes.declares w.classes c name = true

theorem Classes.publicOwner?_of_public {cs : Classes} {c : ClassId} {name : String}
    (hc : cs.isPublic c = true) : publicOwner? cs c name = some c := by
  simp [publicOwner?, climb, hc]

variable {w : World} {target : Value} {name : String}

theorem World.exposes_of_owner (h : Classes.Sound w.classes) {owner : ClassId}
    (howner : Classes.publicOwner? w.classes (w.ownerClass target) name = some owner) :
    w.Exposes target name := by
  obtain ⟨hpublic, hmem, rfl | hdeclares⟩ := h.climb_spec howner
  · exact Or.inl hpublic
  · exact Or.inr ⟨owner, hmem, hpublic, hdeclares⟩

/-- A field is read under a public name that a public class exposes. -/
theorem getField_cases (h : Classes.Sound w.classes) (target : Value) (name : String) :
    outcome (getField target name) w = (.ok .null, w) ∨
      (w.isArray target = true ∧ name = "length" ∧
        ∃ n : Nat, outcome (getField target name) w = (.ok (.int n), w)) ∨
      isPrivate name = false ∧ w.Exposes target name ∧
        outcome (getField target name) w =
          outcome (do return (← readForTemplate target name).getD .null) w := by
  by_cases hnone : (target = .null || name.isEmpty) = true
  · exact Or.inl (by simp only [getField, outcome_get_bind, hnone, if_true, outcome_pure])
  by_cases hlength : (w.isArray target && name == "length") = true
  · obtain ⟨harray, hname⟩ : w.isArray target = true ∧ name = "length" := by simpa using hlength
    refine Or.inr (Or.inl ⟨harray, hname, (w.sequence? target).map Elements.length |>.getD 0, ?_⟩)
    simp only [getField, outcome_get_bind, hnone, hlength, if_true, if_false, outcome_pure,
      Bool.false_eq_true]
  by_cases hprivate : isPrivate name = true
  · refine Or.inl ?_
    simp only [getField, outcome_get_bind, hnone, hlength, hprivate, if_true, if_false,
      Bool.false_eq_true, outcome_pure]
  by_cases hfield : (!w.hasField target name) = true
  · refine Or.inl ?_
    simp only [getField, outcome_get_bind, hnone, hlength, hprivate, hfield, if_true, if_false,
      Bool.false_eq_true, outcome_pure]
  cases howner : Classes.publicOwner? w.classes (w.ownerClass target) name with
  | none =>
    refine Or.inl ?_
    simp only [getField, outcome_get_bind, hnone, hlength, hprivate, hfield, if_false, howner,
      Option.isNone_none, if_true, Bool.false_eq_true, outcome_pure]
  | some owner =>
    have hpublic : isPrivate name = false := by simpa using hprivate
    refine Or.inr (Or.inr ⟨hpublic, World.exposes_of_owner h howner, ?_⟩)
    simp only [getField, outcome_get_bind, hnone, hlength, hprivate, hfield, if_false, howner,
      Option.isNone_some, Bool.false_eq_true]

theorem spelling_of_accessorAt? {cs : Classes} {c owner : ClassId} {spelling n : String}
    (h : accessorAt? cs c spelling = some (n, owner)) :
    n = spelling ∧ (isPrivate n = false ∨ n = "__str__") := by
  unfold accessorAt? at h
  split at h
  · simp at h
  · rename_i hallowed
    split at h
    · split at h
      · obtain ⟨rfl, -⟩ : spelling = n ∧ _ = owner := by simpa using h
        refine ⟨rfl, ?_⟩
        by_cases hs : spelling = "__str__"
        · exact Or.inr hs
        · exact Or.inl (by simpa [hs] using hallowed)
      · simp at h
    · simp at h

theorem spelling_of_findAccessor? {cs : Classes} {c owner : ClassId} {n : String}
    (h : findAccessor? cs c name = some (n, owner)) :
    n ∈ accessorSpellings name ∧ (isPrivate n = false ∨ n = "__str__") := by
  unfold findAccessor? at h
  split at h
  · simp at h
  · obtain ⟨hfound, -⟩ := Option.filter_eq_some_iff.mp h
    obtain ⟨spelling, hmem, hat⟩ := List.exists_of_findSome?_eq_some hfound
    obtain ⟨rfl, hn⟩ := spelling_of_accessorAt? hat
    exact ⟨hmem, hn⟩

/-- An accessor is called under a spelling that is public, or is that of the text method, and that a
public class exposes. -/
theorem invokeAccessor_cases (h : Classes.Sound w.classes) (target : Value) (name : String) :
    outcome (invokeAccessor target name) w = (.ok .null, w) ∨
      (∃ text, outcome (invokeAccessor target name) w =
        (.ok .null, { w with log := w.log ++ [⟨.debug, text, none⟩] })) ∨
      ∃ n ∈ accessorSpellings name, (isPrivate n = false ∨ n = "__str__") ∧ w.Exposes target n ∧
        outcome (invokeAccessor target name) w = outcome (callNamed target n) w := by
  by_cases hnone : (target = .null || name.isEmpty) = true
  · exact Or.inl (by simp only [invokeAccessor, outcome_get_bind, hnone, if_true, outcome_pure])
  cases hfound : findAccessor? w.classes (w.ownerClass target) name with
  | none =>
    refine Or.inl ?_
    simp only [invokeAccessor, outcome_get_bind, hnone, if_false, Bool.false_eq_true, hfound, outcome_pure]
  | some found =>
    obtain ⟨n, owner⟩ := found
    obtain ⟨hmem, hn⟩ := spelling_of_findAccessor? hfound
    cases howner : Classes.publicOwner? w.classes (w.ownerClass target) n with
    | none =>
      refine Or.inr (Or.inl ⟨"Method '" ++ n ++ "' is not exposed by a public type of " ++
        w.qualifiedName (w.ownerClass target), ?_⟩)
      simp only [invokeAccessor, outcome_get_bind, hnone, if_false, Bool.false_eq_true, hfound,
        howner, Option.isNone_none, if_true]
      simp only [outcome_bind, outcome_report, outcome_pure]
    | some owner =>
      refine Or.inr (Or.inr ⟨n, hmem, hn, World.exposes_of_owner h howner, ?_⟩)
      simp only [invokeAccessor, outcome_get_bind, hnone, if_false, Bool.false_eq_true, hfound, howner,
        Option.isNone_some]

/-- A class that annotates a name, or extends another one. -/
def plainClass (name : String) (bases order : List ClassId) (annotations : List String) :
    ClassInfo where
  name := name
  kind := .plain
  bases := bases
  order := order
  members := []
  annotations := annotations
  names := []
  fields := none
  closed := false

/-- A private class under a public one. -/
def adults : World where
  classes := #[plainClass "Person" [.standard .object] [.declared 0, .standard .object] ["age"],
    plainClass "_Adult" [.declared 0] [.declared 1, .declared 0, .standard .object] []]

theorem grown_adults : Classes.Grown adults.classes :=
  .declared (.declared .empty (by simp [plainClass, Classes.Knows]) rfl rfl)
    (by simp [plainClass, Classes.Knows]) rfl rfl

end TemplateEngine
