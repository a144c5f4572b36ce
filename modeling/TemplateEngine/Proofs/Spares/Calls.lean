import TemplateEngine.Proofs.Spares.Resolution
import TemplateEngine.Render.Unit
/-!
What rendering asks of the world: extensions, the arguments of calls, and what is noted of a scope
leave hidden cells alone.
-/
namespace TemplateEngine

variable {V : Veil} {w : World} {v : Value}

theorem Extension.spares_joinElements {arguments : List Value}
    (h : Within (V.region w) arguments) : Spares V w (joinElements arguments) := by
  unfold joinElements
  split
  · rename_i collection separator
    simp only [within_list, List.forall_mem_cons] at h
    refine (spares_toTemplateText h.2.1).bind fun w₁ sep hw₁ _ => spares_get ?_
    split
    · refine (ObjectModel.spares_toCollection (hw₁.within h.1)).bind fun w₂ elements _ helements => ?_
      exact (spares_joinEach _ helements fun _ _ _ hx => spares_toTemplateText hx).bind
        fun _ _ _ _ => spares_pure trivial
    · exact spares_fail _
  · dsimp only
    split <;> exact spares_fail _

instance : Plain Extension := ⟨⟩

theorem spares_findExtension (c : Context) (name : Value) : Spares V w (findExtension c name) :=
  spares_get ((spares_liftPlain _).bind fun _ _ _ _ => spares_pure fun _ _ => trivial)

theorem spares_namedArguments {entries given : List (Value × Value)}
    (h : Within (V.region w) entries) (hgiven : Within (V.region w) given) :
    Spares V w (namedArguments entries given) := by
  induction given generalizing w entries with
  | nil => exact spares_pure h
  | cons e rest ih =>
    rw [within_cons] at hgiven
    refine (spares_toTemplateText hgiven.1.1).bind fun w₁ name hw₁ hname => ?_
    refine (spares_insertEntry (hw₁.within h) hname (hw₁.within hgiven.1.2)).bind
      fun w₂ entries hw₂ hentries => ?_
    exact ih hentries ((hw₁.trans hw₂).within (a := rest) hgiven.2)

instance : Plain Fault := ⟨⟩

/-- The entries of a mapping may be passed on, also those of a hidden one. -/
theorem spares_callArguments (h : w.isMapping v ∧ w.Open V v ∨ Within (V.region w) v) :
    Spares V w (callArguments v) := by
  have hrest : ∀ {w : World} (map : Value), w.Open V map → Spares V w (do
      let entries ← namedArguments [] (((← get).mapping? map).getD [])
      return Value.readOnly (← freshTag) (← alloc (.dict false entries))) := by
    intro w map hmap
    refine .of_sealed fun hw => spares_get ?_
    refine (spares_namedArguments (by simp) (hw.entries hmap)).bind fun w₁ entries _ hentries => ?_
    refine spares_freshTag.bind fun w₂ tag hw₂ _ => ?_
    exact (spares_alloc (World.within_entries.mpr (hw₂.within hentries))).bind
      fun _ _ _ hv => spares_pure hv
  cases h with
  | inl h =>
    have htoMap : ∀ f : Value → M Value, outcome (toMap v >>= f) w = outcome (f v) w := fun f => by
      simp only [toMap, outcome_bind, outcome_get, h.1, if_true, outcome_pure]
    intro hw
    rw [callArguments, htoMap]
    exact hrest v h.2 hw
  | inr h =>
    exact (spares_toMap h).bind fun _ map _ hmap =>
      .of_sealed fun hw => hrest map (hw.open_of_within hmap)

theorem spares_callFailure (model : ObjectModel) (hv : Within (V.region w) v) :
    Spares V w (callFailure model v) := by
  refine spares_get ?_
  split
  · exact spares_pure trivial
  · refine (ObjectModel.spares_isPrimitive model v).bind fun w₁ primitive hw₁ _ => ?_
    split
    · exact (spares_templateText? (hw₁.within hv)).bind fun _ _ _ _ => spares_pure trivial
    · split
      · exact (spares_textOf (hw₁.within hv)).bind fun _ _ _ _ => spares_pure trivial
      · exact spares_pure trivial

theorem spares_argumentCount (v : Value) : Spares V w (argumentCount v) := by
  unfold argumentCount
  split
  · exact spares_pure trivial
  · exact spares_lengthOf v

end TemplateEngine
