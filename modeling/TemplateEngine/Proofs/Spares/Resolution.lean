import TemplateEngine.Proofs.Spares.Coercion
import TemplateEngine.ObjectModel
/-!
Resolving properties leaves hidden cells alone, with any object model and whatever user code runs.
-/
namespace TemplateEngine

variable {V : Veil} {w : World} {v prop : Value}

theorem spares_asIndex (p : Value) : Spares V w (asIndex p) := by
  refine spares_get ?_
  split
  · split
    · exact spares_fail _
    · exact spares_pure fun _ _ => trivial
  · exact spares_pure fun _ _ => trivial
  · split <;> exact spares_pure fun _ _ => trivial
  · split
    · exact spares_fail _
    · exact spares_pure fun _ _ => trivial
  · exact spares_pure within_none

theorem within_elementAt {A : Set Nat} {elements : Elements} (h : Within A elements)
    (index : Int) : Within A (elementAt elements index) :=
  within_ite (by trivial) (within_getD (within_get? h _))

theorem spares_elementWithin (index : Int) (hv : Within (V.region w) v) :
    Spares V w (elementWithin v index) := by
  unfold elementWithin
  split
  · exact spares_pure trivial
  · refine (spares_lengthOf v).bind fun w' n hw' _ => ?_
    split
    · exact spares_itemOf (hw'.within hv) _
    · exact spares_pure trivial

theorem spares_elementOfContent (index : Int) (hv : Within (V.region w) v) :
    Spares V w (elementOfContent v index) := by
  refine spares_get ?_
  split
  · exact spares_get (spares_pure (within_elementAt (World.within_enumMembers _) index))
  · refine (spares_collect hv).bind fun w' c hw' hc => ?_
    split
    · exact spares_elementWithin index (hw'.within hv)
    · exact spares_elementWithin index (hw'.within hv)
    · exact spares_elementWithin index (hw'.within hv)
    · exact spares_asObject (within_elementAt hc index)
    · split
      · rename_i entries _ key x he
        have hpair : Within (V.region w') (key, x) := by
          split at he
          · simp at he
          · exact hc _ (List.mem_of_getElem? he)
        exact spares_newTuple (by simpa using hpair)
      · exact spares_pure trivial

theorem spares_elementOfTarget (target : Value) (index : Int) (hv : Within (V.region w) v) :
    Spares V w (elementOfTarget target v index) := by
  refine spares_get ?_
  split
  · exact spares_pure trivial
  · exact spares_elementOfContent index hv

theorem spares_getEnumValue (target : Value) (name : String) :
    Spares V w (getEnumValue target name) := by
  refine spares_get ?_
  split
  · exact spares_pure trivial
  · split
    · exact spares_pure trivial
    · refine (spares_memberNamed _ name).attempt.bind fun w' r _ hr => ?_
      split
      · exact spares_pure ((within_ok _).mp hr)
      · exact spares_pure trivial

theorem spares_readForTemplate (name : String) (hv : Within (V.region w) v) :
    Spares V w (readForTemplate v name) := by
  refine (spares_getAttribute name hv).attempt.bind fun w' r _ hr => ?_
  split
  · exact spares_pure ((within_ok _).mp hr)
  · split
    · exact spares_pure within_none
    · exact (spares_displayed v).bind fun _ _ _ _ => (spares_report _ _ _).bind fun _ _ _ _ =>
        spares_pure within_none

theorem spares_getField (name : String) (hv : Within (V.region w) v) :
    Spares V w (getField v name) := by
  refine spares_get ?_
  split
  · exact spares_pure trivial
  · split
    · exact spares_pure trivial
    · split
      · exact spares_pure trivial
      · split
        · exact spares_pure trivial
        · split
          · exact spares_pure trivial
          · exact (spares_readForTemplate name hv).bind fun _ _ _ h => spares_pure (within_getD h)

theorem spares_callNamed (spelling : String) (hv : Within (V.region w) v) :
    Spares V w (callNamed v spelling) := by
  refine (spares_readForTemplate spelling hv).bind fun w' found hw' hfound => ?_
  split
  · exact spares_pure trivial
  · exact spares_pure trivial
  · refine (spares_call ((within_some _).mp hfound) (by simp)).attempt.bind fun w'' r _ hr => ?_
    split
    · exact spares_pure ((within_ok _).mp hr)
    · exact (spares_displayed v).bind fun _ _ _ _ => (spares_report _ _ _).bind fun _ _ _ _ =>
        spares_pure trivial

theorem spares_invokeAccessor (name : String) (hv : Within (V.region w) v) :
    Spares V w (invokeAccessor v name) := by
  refine spares_get ?_
  split
  · exact spares_pure trivial
  · dsimp only
    split
    · exact spares_pure trivial
    · split
      · exact (spares_report _ _ _).bind fun _ _ _ _ => spares_pure trivial
      · exact spares_callNamed _ hv

theorem spares_getEntry (key : Value) (hv : Within (V.region w) v) :
    Spares V w (getEntry v key) := by
  refine .of_sealed fun hw => spares_get ?_
  split
  · have hs := World.within_bindings.mp (hw.baseCell? (hw.open_of_within hv) ‹_›)
    split
    · exact spares_pure (within_getD (Scope.within_get? hs _))
    · exact spares_pure trivial
  · refine (spares_lookUpEntry (hw.entries (hw.open_of_within hv)) key).attempt.bind fun w' r _ hr => ?_
    split
    · exact spares_pure (within_getD ((within_ok _).mp hr))
    · split
      · exact spares_pure trivial
      · exact spares_fail _

theorem spares_orElse {found : Value} {next : M Value} (hfound : Within (V.region w) found)
    (hnext : Spares V w next) : Spares V w (orElse found next) := by
  unfold orElse
  split
  · exact hnext
  · exact spares_pure hfound

theorem spares_resolveName (name : String) (hv : Within (V.region w) v) :
    Spares V w (resolveName v prop name) := by
  have hrest : ∀ {w : World} {found : Value}, Within (V.region w) v → Within (V.region w) found →
      Spares V w (orElse found do
        orElse (← getEnumValue v name) do
          orElse (← getField v name) do
            invokeAccessor v name) := fun hv hfound => by
    refine spares_orElse hfound ((spares_getEnumValue v name).bind fun w₁ x hw₁ hx => ?_)
    refine spares_orElse hx ((spares_getField name (hw₁.within hv)).bind fun w₂ y hw₂ hy => ?_)
    exact spares_orElse hy (spares_invokeAccessor name (hw₂.within (hw₁.within hv)))
  refine spares_get ?_
  dsimp only
  split
  · exact (spares_getEntry prop hv).bind fun _ _ hw' h => hrest (hw'.within hv) h
  · exact (spares_pure (by trivial)).bind fun _ _ hw' h => hrest (hw'.within hv) h

theorem spares_indexTarget (target : Value) (hv : Within (V.region w) v) :
    Spares V w (indexTarget target v prop) := by
  refine (spares_asIndex prop).bind fun w' index hw' _ => ?_
  cases index with
  | some index => exact spares_elementOfTarget target index (hw'.within hv)
  | none => exact spares_pure trivial

theorem spares_resolveIndex (hv : Within (V.region w) v) : Spares V w (resolveIndex v prop) :=
  .of_sealed fun hw => spares_get (spares_indexTarget v (hw.unwrap hv))

theorem spares_withName {next : String → M Value} (hprop : Within (V.region w) prop)
    (hnext : ∀ w' name, World.Kept V w w' → Spares V w' (next name)) :
    Spares V w (withName prop next) := by
  refine (spares_templateText? hprop).bind fun w' found hw' _ => ?_
  cases found with
  | none => exact spares_pure trivial
  | some name =>
    dsimp only
    split
    · exact spares_pure trivial
    · exact hnext w' name hw'

theorem spares_resolveThrough {layers : List Value} (hprop : Within (V.region w) prop)
    (hv : Within (V.region w) v) (hlayers : Within (V.region w) layers) :
    Spares V w (resolveThrough prop v layers) := by
  induction layers generalizing w with
  | nil => exact spares_pure trivial
  | cons target inner ih =>
    rw [within_cons] at hlayers
    unfold resolveThrough
    split
    · exact spares_pure trivial
    · refine (spares_indexTarget target hv).bind fun w₁ found hw₁ hfound => ?_
      refine spares_orElse hfound (spares_withName (hw₁.within hprop) fun w₂ name hw₂ => ?_)
      have hkept := hw₁.trans hw₂
      split
      · exact spares_resolveName name (hkept.within hlayers.1)
      · exact ih (hkept.within hprop) (hkept.within hv) (hkept.within (a := inner) hlayers.2)

theorem spares_resolveProperty (hv : Within (V.region w) v) (hprop : Within (V.region w) prop) :
    Spares V w (resolveProperty v prop) :=
  .of_sealed fun hw => spares_get (spares_resolveThrough hprop (hw.unwrap hv) (hw.layers hv))

namespace ObjectModel

theorem spares_isPrimitive (m : ObjectModel) (v : Value) : Spares V w (m.isPrimitive v) := by
  unfold isPrimitive
  split
  · exact spares_pure trivial
  · split
    · exact spares_get (spares_pure trivial)
    · exact spares_pure trivial

theorem spares_inheritedProperty (hv : Within (V.region w) v) (hprop : Within (V.region w) prop) :
    Spares V w (inheritedProperty v prop) := by
  unfold inheritedProperty
  split
  · exact spares_pure trivial
  · refine (spares_toTemplateText hprop).bind fun w₁ name hw₁ hname => ?_
    refine (spares_isRecord (hw₁.within hv)).bind fun w₂ record hw₂ _ => ?_
    have hrest : ∀ {w' : World} {found : Value}, World.Kept V w₂ w' → Within (V.region w') found →
        Spares V w' (orElse found (TemplateEngine.resolveProperty v prop)) := fun h hfound => by
      have hkept := (hw₁.trans hw₂).trans h
      exact spares_orElse hfound (spares_resolveProperty (hkept.within hv) (hkept.within hprop))
    dsimp only
    split
    · exact (spares_recordProperty ((hw₁.trans hw₂).within hv) (hw₂.within hname)).bind
        fun _ _ h hfound => hrest h hfound
    · exact (spares_pure (by trivial)).bind fun _ _ h hfound => hrest h hfound

theorem spares_getProperty (m : ObjectModel) (hv : Within (V.region w) v)
    (hprop : Within (V.region w) prop) : Spares V w (m.getProperty v prop) := by
  refine (spares_inheritedProperty hv hprop).bind fun w' found _ hfound => spares_get ?_
  split
  · exact spares_pure trivial
  · exact spares_pure hfound

theorem spares_resolveProperty (m : ObjectModel) (hv : Within (V.region w) v)
    (hprop : Within (V.region w) prop) : Spares V w (m.resolveProperty v prop) := by
  unfold resolveProperty
  split
  · exact spares_pure trivial
  · exact (spares_resolveIndex hv).bind fun w' found hw' hfound =>
      spares_orElse hfound (spares_getProperty m (hw'.within hv) (hw'.within hprop))

theorem spares_toCollection (hv : Within (V.region w) v) :
    Spares V w (ObjectModel.toCollection v) := by
  refine (spares_isRecord hv).bind fun w' record hw' _ => ?_
  split
  · exact (spares_callMethod _ (hw'.within hv) (by simp)).bind fun _ _ _ h => spares_tupleOf h
  · exact TemplateEngine.spares_toCollection (hw'.within hv)

end ObjectModel

end TemplateEngine
