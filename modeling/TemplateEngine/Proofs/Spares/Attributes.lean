import TemplateEngine.Proofs.Spares.Making
/-!
Reading attributes, calling values and giving texts leaves hidden cells alone, whatever the classes
of a world define.
-/
namespace TemplateEngine

variable {V : Veil} {w : World} {v x : Value} {d : Dispatch}

theorem spares_setMember (c : ClassId) (name : String) (hx : Within (V.region w) x) :
    Spares V w (setMember c name x) := by
  cases c with
  | standard => exact spares_pure trivial
  | declared k => exact fun hw => ⟨.setMember hw hx, (within_ok _).mpr trivial⟩

theorem spares_setAttribute (name : String) (hv : Within (V.region w) v)
    (hx : Within (V.region w) x) : Spares V w (setAttribute v name x) := by
  refine .of_sealed fun hw => spares_get ?_
  dsimp only
  split
  · exact spares_setMember _ name hx
  · rename_i i
    split
    · rename_i found cls attributes base hc
      have hstore : Spares V w (setCell i (.object cls (attributes.insert name x) base)) := by
        refine spares_setCell (d := .object cls (attributes.insert name x) base) hc
          (V.not_frozen hv) rfl fun y hy => ?_
        have hold := hw.visible hv hc
        rcases List.mem_append.mp hy with hy | hy
        · obtain ⟨e, he, rfl⟩ := List.mem_map.mp hy
          rcases Table.mem_of_mem_insert he with rfl | he
          · exact hx
          · exact hold e.2 (List.mem_append_left _ (List.mem_map_of_mem he))
        · exact hold y (List.mem_append_right _ hy)
      split
      · exact spares_fail _
      · split <;> exact spares_fail _
      · exact hstore
      · split
        · exact spares_fail _
        · split
          · exact hstore
          · exact spares_fail _
    · exact spares_fail _
  · exact spares_fail _

theorem spares_newBound (owner : ClassId) (name : String) (hv : Within (V.region w) v) :
    Spares V w (newBound owner name v) :=
  spares_freshTag.bind fun _ _ hw' _ => spares_pure (hw'.within hv)

theorem spares_memberOfClass (c owner : ClassId) (name : String) {m : Member}
    (hm : Within (V.region w) m) : Spares V w (memberOfClass c owner name m) := by
  have hbound : Spares V w (some <$> newBound owner name (.type c)) :=
    spares_some (spares_newBound owner name (by trivial))
  unfold memberOfClass
  split
  · exact spares_pure ((within_some _).mpr hm)
  · split
    · exact hbound
    · exact spares_pure (by simp)
  · exact spares_pure within_none
  · split
    case h_4 =>
      split
      · exact hbound
      · exact spares_pure (by simp)
    all_goals exact spares_pure ((within_some _).mpr trivial)
  · exact spares_pure (by simp)

theorem spares_memberOfValue (c owner : ClassId) (name : String) {m : Member}
    (hv : Within (V.region w) v) (hm : Within (V.region w) m) :
    Spares V w (memberOfValue v c owner name m) := by
  unfold memberOfValue
  split
  · exact spares_pure ((within_some _).mpr hm)
  · split
    · exact spares_some (spares_newBound owner name hv)
    · exact spares_pure (by simp)
    · exact spares_some (spares_newBound owner name (by trivial))
  · exact spares_some (spares_newBound owner name (within_ite (by trivial) hv))
  · exact spares_pure within_none

theorem spares_callNative (c : Standard) (name : String) {given : List Value}
    (h : Within (V.region w) given) : Spares V w (callNative c name given) := by
  unfold callNative
  split
  · split
    · exact spares_fail _
    · rename_i u key _
      refine (spares_foldName key).bind fun w' folded _ _ => spares_get (spares_pure ?_)
      cases (w'.forest.subs u).get? folded <;> trivial
    · rw [within_cons] at h
      exact spares_callAccessor c name h.1 h.2
    · exact spares_pure trivial
  · split
    · exact spares_fail _
    · rw [within_cons] at h
      exact spares_callAccessor c name h.1 h.2

theorem spares_addOne (v : Value) : Spares V w (addOne v) := by
  refine spares_get ?_
  dsimp only
  split
  case h_3 | h_4 => exact spares_asObject (by trivial)
  case h_5 n _ =>
    refine Spares.bind (spares_liftResult fun x hx => ?_) fun _ _ _ hx => spares_asObject hx
    cases hsum : n.addOne .standard with
    | error e => simp [hsum, Except.mapError, Except.map] at hx
    | ok sum =>
      simp only [hsum, Except.mapError, Except.map, Except.ok.injEq] at hx
      subst hx
      trivial
  all_goals first | exact spares_pure trivial | exact spares_fail _

theorem within_headD {A : Set Nat} {given : List Value} (h : Within A given) :
    Within A (given.headD .null) := by
  cases given with
  | nil => trivial
  | cons v rest => exact h v List.mem_cons_self

theorem within_getD {A : Set Nat} {o : Option Value} (h : Within A o) :
    Within A (o.getD .null) := by
  cases o with
  | none => trivial
  | some v => exact h v rfl

theorem spares_perform (hd : d.Sparing V) {action : Action} (binding : Binding)
    {given : List Value} (haction : Within (V.region w) action)
    (h : Within (V.region w) given) : Spares V w (perform d action binding given) := by
  have hself := within_headD h
  unfold perform
  dsimp only
  split
  · exact spares_build hd _ haction
  · exact spares_fail _
  · exact spares_readFrom hd hself _
  · rename_i name
    refine (spares_readFrom hd hself name).bind fun w₁ old hw₁ hold => ?_
    refine (spares_addOne old).bind fun w₂ sum hw₂ hsum => ?_
    refine (spares_setAttribute name ((hw₁.trans hw₂).within hself) hsum).bind
      fun w₃ _ hw₃ _ => spares_pure (hw₃.within hsum)
  · rename_i keys values
    refine (spares_buildAll hd keys haction.1).bind fun w₁ keys hw₁ hkeys => ?_
    refine (spares_buildAll hd values
      (Recipe.AllWithin.mono hw₁.region_subset values haction.2)).bind fun w₂ values hw₂ hvalues => ?_
    refine (spares_insertEntries (by simp) (within_zip (hw₂.within hkeys) hvalues)).bind
      fun w₃ entries hw₃ hentries => ?_
    exact (spares_lookUpEntry hentries _).bind fun _ _ _ hfound => spares_pure (within_getD hfound)

theorem spares_readAttribute (hd : d.Sparing V) (name : String) (hv : Within (V.region w) v) :
    Spares V w (readAttribute d v name) := by
  refine .of_sealed fun hw => spares_get ?_
  dsimp only
  split
  · split
    · exact spares_memberOfClass _ _ name (hw.findMember? ‹_›)
    · exact spares_some (spares_newBound _ name hv)
    · exact spares_pure within_none
  · have hown : Within (V.region w) ((w.ownAttributes v).get? name) := hw.ownAttributes hv name
    split
    · rename_i action hfound
      refine spares_some (spares_perform hd .receiver (hw.findMember? hfound) ?_)
      exact fun x hx => List.mem_singleton.mp hx ▸ hv
    · exact spares_pure hown
    · split
      · rename_i items hcell
        have hitems : Within (V.region w) items := hw.baseCell? (hw.open_of_within hv) hcell
        exact spares_pure fun x hx => hitems x (List.mem_of_getElem? hx)
      · exact spares_pure within_none
    · exact spares_readField _ name hv
    · split
      · exact spares_pure hown
      · exact spares_memberOfValue _ _ name hv (hw.findMember? ‹_›)
    · exact spares_pure hown

theorem spares_callRoutine (hd : d.Sparing V) {r : Routine} {given : List Value}
    (hr : Within (V.region w) r.action) (h : Within (V.region w) given) :
    Spares V w (callRoutine d r given) := by
  unfold callRoutine
  split
  · exact spares_fail _
  · exact spares_perform hd r.binding hr h

theorem spares_callMember (hd : d.Sparing V) (owner : ClassId) (name : String)
    {given : List Value} (h : Within (V.region w) given) :
    Spares V w (callMember d owner name given) := by
  refine .of_sealed fun hw => spares_get ?_
  dsimp only
  split
  · rename_i r hr
    exact spares_callRoutine hd (hw.ownMember? (m := .routine r) hr) h
  · split
    · exact spares_fail _
    · exact spares_callNative _ name h
  · exact spares_fail _

theorem within_given {A : Set Nat} (r : Routine) (c : ClassId) {arguments : List Value}
    (hv : Within A v) (h : Within A arguments) : Within A (r.given v c arguments) := by
  unfold Routine.given
  split
  · exact List.forall_mem_cons.mpr ⟨hv, h⟩
  · exact h
  · exact List.forall_mem_cons.mpr ⟨trivial, h⟩

theorem spares_callValue (hd : d.Sparing V) {arguments : List Value} (hv : Within (V.region w) v)
    (h : Within (V.region w) arguments) : Spares V w (callValue d v arguments) := by
  refine .of_sealed fun hw => spares_get ?_
  split
  · exact spares_callMember hd _ _ (List.forall_mem_cons.mpr ⟨hv, h⟩)
  · split
    · split
      · exact spares_callMember hd _ _ h
      · exact spares_fail _
    · exact spares_callMember hd _ _ h
  · exact Construction.spares_construct hd _ h
  · dsimp only
    split
    · rename_i owner r hr
      exact spares_callRoutine hd (hw.findMember? (m := .routine r) hr) (within_given r _ hv h)
    · exact spares_fail _

theorem spares_textFrom (hd : d.Sparing V) (hv : Within (V.region w) v) :
    Spares V w (textFrom d v) := by
  have hplain : Spares V w (do return Value.text (← liftResult (w.plainText v))) :=
    (spares_liftPlain _).bind fun _ _ _ _ => spares_pure trivial
  have hchecked : ∀ {w : World} {result : Value}, Within (V.region w) result → Spares V w (do
      if ((← get).text? result).isSome then return result
      else fail (.textNotText ((← get).typeInMessages result))) := fun h => by
    refine spares_get ?_
    split
    · exact spares_pure h
    · exact spares_get (spares_fail _)
  refine .of_sealed fun hw => spares_get ?_
  dsimp only
  split
  · exact hplain
  · split
    · rename_i owner r hr
      exact (spares_callRoutine hd (hw.findMember? (m := .routine r) hr)
        (within_given r _ hv (by simp))).bind fun _ _ _ h => hchecked h
    · rename_i owner x hx
      exact (hd.call (v := x) (hw.findMember? (m := .constant x) hx) (by simp)).bind
        fun _ _ _ h => hchecked h
    · rename_i owner action haction
      refine (spares_perform hd .receiver (hw.findMember? (m := .computed action) haction)
        fun x hx => List.mem_singleton.mp hx ▸ hv).bind fun _ _ _ h => ?_
      exact (hd.call h (by simp)).bind fun _ _ _ h => hchecked h
    · exact hplain

namespace Dispatch

/-- Texts, attributes and calls leave hidden cells alone, however deep they need each other. -/
theorem sparing_within (V : Veil) (fuel : Nat) : (within fuel).Sparing V := by
  induction fuel with
  | zero => exact ⟨fun _ => spares_fail _, fun _ _ => spares_fail _, fun _ _ => spares_fail _⟩
  | succ fuel ih =>
    exact ⟨fun hv => spares_textFrom ih hv, fun name hv => spares_readAttribute ih name hv,
      fun hv h => spares_callValue ih hv h⟩

theorem sparing_full (V : Veil) : full.Sparing V := sparing_within V maxDepth

end Dispatch

end TemplateEngine
