import TemplateEngine.Proofs.Spares.Attributes
import TemplateEngine.Coercion
/-!
Records and coercions leave hidden cells alone.
-/
namespace TemplateEngine

variable {V : Veil} {w : World} {v : Value}

theorem spares_getAttribute (name : String) (hv : Within (V.region w) v) :
    Spares V w (getAttribute v name) :=
  (Dispatch.sparing_full V).read name hv

theorem spares_call {arguments : List Value} (hv : Within (V.region w) v)
    (h : Within (V.region w) arguments) : Spares V w (call v arguments) :=
  (Dispatch.sparing_full V).call hv h

theorem spares_make {r : Recipe} (h : Within (V.region w) r) : Spares V w (make r) :=
  spares_build (Dispatch.sparing_full V) r h

theorem spares_makeAll {rs : List Recipe} (h : Within (V.region w) rs) : Spares V w (makeAll rs) :=
  spares_buildAll (Dispatch.sparing_full V) rs (within_recipes.mpr h)

theorem spares_textValueOf (hv : Within (V.region w) v) : Spares V w (textValueOf v) :=
  (Dispatch.sparing_full V).text hv

theorem spares_textOf (hv : Within (V.region w) v) : Spares V w (textOf v) :=
  (spares_textValueOf hv).bind fun _ _ _ _ => spares_get (spares_pure trivial)

theorem spares_readable (name : String) (hv : Within (V.region w) v) :
    Spares V w (Record.readable v name) := by
  refine (spares_has (Dispatch.sparing_full V) hv name).bind fun w' has hw' _ => ?_
  split
  · refine (spares_readFrom (Dispatch.sparing_full V) (hw'.within hv) name).bind fun _ _ _ _ => ?_
    split
    · exact spares_pure trivial
    · exact spares_pure trivial
  · exact spares_pure trivial

theorem spares_isRecord (hv : Within (V.region w) v) : Spares V w (isRecord v) := by
  refine spares_get ?_
  dsimp only
  split
  · exact spares_pure trivial
  · refine (spares_readable _ hv).bind fun w' found hw' _ => ?_
    split
    · exact spares_readable _ (hw'.within hv)
    · exact spares_pure trivial

theorem spares_callMethod (name : String) {arguments : List Value} (hv : Within (V.region w) v)
    (h : Within (V.region w) arguments) : Spares V w (callMethod v name arguments) :=
  (spares_readFrom (Dispatch.sparing_full V) hv name).bind fun _ _ hw' hmethod =>
    spares_call hmethod (hw'.within h)

theorem spares_recordProperty {name : Value} (hv : Within (V.region w) v)
    (hname : Within (V.region w) name) : Spares V w (recordProperty v name) :=
  spares_callMethod _ hv fun _ hx => List.mem_singleton.mp hx ▸ hname

theorem spares_recordMap (hv : Within (V.region w) v) : Spares V w (recordMap v) := by
  refine (spares_callMethod Record.namer hv (by simp)).bind fun w₁ names hw₁ hnames => ?_
  refine .of_sealed fun hw => spares_get ?_
  have hfree : w₁.cells.size ∉ V.frozen := fun h =>
    Nat.lt_irrefl _ (hw.inBounds _ (V.frozen_subset h))
  refine (spares_alloc (by simp [within_cell, Cell.contents])).bind fun w₂ made hw₂ hmade => ?_
  refine (spares_forEach (hw₂.within hnames) fun w₃ name hw₃ hname => ?_).bind
    fun w₃ _ hw₃ _ => spares_pure (hw₃.within hmade)
  exact (spares_recordProperty (((hw₁.trans hw₂).trans hw₃).within hv) hname).bind
    fun w₄ x hw₄ hx => spares_writeEntry hfree (hw₄.within hname) hx

theorem World.Sealed.layersWithin (hw : w.Sealed V) (fuel : Nat) (hv : Within (V.region w) v) :
    Within (V.region w) (w.layersWithin fuel v) := by
  induction fuel generalizing v with
  | zero => exact fun x hx => List.mem_singleton.mp hx ▸ hv
  | succ fuel ih =>
    unfold World.layersWithin
    split
    · exact List.forall_mem_cons.mpr ⟨hv, ih (hw.content? hv _ ‹_›)⟩
    · exact fun x hx => List.mem_singleton.mp hx ▸ hv

theorem World.Sealed.layers (hw : w.Sealed V) (hv : Within (V.region w) v) :
    Within (V.region w) (w.layers v) :=
  hw.layersWithin _ hv

theorem World.Sealed.unwrap (hw : w.Sealed V) (hv : Within (V.region w) v) :
    Within (V.region w) (w.unwrap v) := by
  have hmem : w.unwrap v ∈ v :: w.layers v := List.getLastD_mem_cons
  exact List.forall_mem_cons.mpr ⟨hv, hw.layers hv⟩ _ hmem

theorem spares_truthOfContent (v : Value) : Spares V w (truthOfContent v) := by
  have hnonzero : Spares V w (w.isNonzero v) := by
    unfold World.isNonzero
    split
    case h_4 =>
      split
      · exact spares_fail _
      · exact spares_pure trivial
    all_goals exact spares_pure trivial
  refine spares_get ?_
  split
  · exact spares_pure trivial
  · exact spares_pure trivial
  · split
    · exact hnonzero
    · split
      · exact spares_pure trivial
      · exact spares_pure trivial
      · split
        · exact (spares_lengthOf _).bind fun _ _ _ _ => spares_pure trivial
        · exact (spares_lengthOf _).bind fun _ _ _ _ => spares_pure trivial
        · split
          · exact (spares_lengthHint _ _).bind fun _ _ _ _ => spares_pure trivial
          · exact spares_pure trivial

theorem spares_toBoolean (v : Value) : Spares V w (toBoolean v) :=
  spares_get (spares_truthOfContent _)

instance : Referring Collected where
  Within A
    | .items items => Within A items
    | .pairs entries => Within A entries
    | _ => True
  meet {_ _ _ c} hC h h' := by
    cases c with
    | items items => exact Referring.meet (a := items) hC h h'
    | pairs entries => exact Referring.meet (a := entries) hC h h'
    | _ => trivial

theorem spares_collectEach (hv : Within (V.region w) v) : Spares V w (collectEach v) := by
  unfold collectEach
  split
  · rename_i tag target
    refine .of_sealed fun hw => spares_get ?_
    have hentries := hw.entries (v := target) (hw.open_of_within hv)
    dsimp only
    split
    · exact (@spares_fail V w Unit _ _).bind fun _ _ hw' _ =>
        spares_pure (a := Collected.pairs _) (hw'.within hentries)
    · exact spares_pure (a := Collected.pairs _) hentries
  · refine (spares_ofValue hv).bind fun w' s hw' hs => ?_
    refine (spares_checkLength _ s).bind fun w'' _ hw'' _ => ?_
    have hs := hw''.within hs
    split
    · exact spares_pure (a := Collected.items _) (within_toList hs)
    · exact (spares_drain hs).bind fun _ _ _ h => spares_pure (a := Collected.items _) h

theorem spares_collect (hv : Within (V.region w) v) : Spares V w (collect v) := by
  have hone : Within (V.region w) (Collected.items [v]) := fun x hx =>
    List.mem_singleton.mp hx ▸ hv
  refine spares_get ?_
  split
  · exact spares_pure (a := Collected.items []) fun x hx => absurd hx List.not_mem_nil
  · exact spares_pure trivial
  · exact spares_pure hone
  · split
    · exact spares_pure trivial
    · split
      · exact spares_pure trivial
      · split
        · exact spares_pure hone
        · split
          · exact spares_pure trivial
          · split
            · exact spares_collectEach hv
            · exact spares_pure hone

theorem spares_sequenceOfContent (hv : Within (V.region w) v) :
    Spares V w (sequenceOfContent v) := by
  refine (spares_collect hv).bind fun w' c hw' hc => ?_
  have hv := hw'.within hv
  split
  · exact spares_pure hv
  · exact (spares_iterate hv).bind fun _ _ _ h => spares_newTuple h
  · exact spares_freshTag.bind fun _ _ hw'' _ => spares_pure (hw''.within hv)
  · exact (spares_asObjects hc).bind fun _ _ _ h => spares_newTuple h
  · exact (spares_newPairs hc).bind fun _ _ _ h => spares_newTuple h

theorem spares_toCollection (hv : Within (V.region w) v) : Spares V w (toCollection v) :=
  .of_sealed fun hw => spares_get (spares_sequenceOfContent (hw.unwrap hv))

theorem spares_joinTexts (sep : String) (texts : List Value) :
    Spares V w (joinTexts sep texts) := by
  refine spares_get ((spares_mapM fun _ _ _ _ => ?_).bind fun _ _ _ _ => spares_pure trivial)
  dsimp only
  split
  · exact spares_pure trivial
  · exact spares_fail _

theorem spares_joinEach (sep : String) {text : Value → M Value} {collection : Value}
    (hcollection : Within (V.region w) collection)
    (htext : ∀ w' x, World.Kept V w w' → Within (V.region w') x → Spares V w' (text x)) :
    Spares V w (joinEach sep text collection) := by
  refine (spares_forEach hcollection fun w' x hw' hx => ?_).bind fun _ _ _ _ =>
    spares_joinTexts sep _
  refine (htext w' x hw' hx).attempt.bind fun w'' r _ hr => ?_
  split
  · exact spares_pure ((within_ok _).mp hr)
  · exact spares_fail _

theorem spares_memberText (hv : Within (V.region w) v) : Spares V w (memberText v) := by
  refine spares_get ?_
  split
  · exact spares_readFrom (Dispatch.sparing_full V) hv "name"
  · exact spares_readFrom (Dispatch.sparing_full V) hv "name"
  · exact spares_pure (within_memberNameValue v)

theorem spares_toStringWithin (fuel : Nat) (hv : Within (V.region w) v) :
    Spares V w (toStringWithin fuel v) := by
  induction fuel generalizing w v with
  | zero => exact spares_fail _
  | succ fuel ih =>
    refine .of_sealed fun hw => spares_get ?_
    split
    · exact spares_pure trivial
    · exact spares_pure trivial
    · exact ih (hw.content? hv _ ‹_›)
    · exact spares_memberText hv
    · exact spares_memberText hv
    · exact spares_pure trivial
    · split
      · exact spares_pure hv
      · exact spares_pure trivial
      · split
        · refine (spares_toCollection hv).bind fun w' items hw' hitems => ?_
          exact (spares_joinEach "," hitems fun _ _ _ hx => ih hx).bind fun _ _ _ _ =>
            spares_pure trivial
        · exact spares_textValueOf hv

theorem spares_toTemplateText (hv : Within (V.region w) v) : Spares V w (toTemplateText v) :=
  spares_get (spares_toStringWithin _ hv)

theorem spares_templateText? (hv : Within (V.region w) v) : Spares V w (templateText? v) :=
  (spares_toTemplateText hv).bind fun _ _ _ _ => spares_get (spares_pure fun _ _ => trivial)

theorem spares_tupleOf (hv : Within (V.region w) v) : Spares V w (drain v) := by
  have hnew : ∀ {w : World}, Within (V.region w) v → Spares V w (do newTuple (← iterate v)) :=
    fun hv => (spares_iterate hv).bind fun _ _ _ h => spares_newTuple h
  unfold drain
  split
  · exact .of_sealed fun hw => spares_pure hw.emptyTuple
  · refine spares_get ?_
    split
    · exact spares_pure hv
    · exact hnew hv
  · exact hnew hv

theorem spares_toMap (hv : Within (V.region w) v) : Spares V w (toMap v) := by
  refine spares_get ?_
  split
  · exact spares_pure hv
  · refine (spares_isRecord hv).bind fun w' record hw' _ => ?_
    split
    · exact spares_recordMap (hw'.within hv)
    · exact spares_alloc (by simp [within_cell, Cell.contents])

end TemplateEngine
