import TemplateEngine.Proofs.Spares
/-!
Reading elements and writing entries leaves hidden cells alone.
-/
namespace TemplateEngine

variable {V : Veil} {w : World} {v : Value}

theorem spares_liftPlain {α : Type} [Plain α] (r : Except Fault α) : Spares V w (liftResult r) :=
  spares_liftResult fun a _ => within_plain a

theorem spares_mapM {α β : Type} [Referring β] {items : List α} {f : α → M β}
    (hf : ∀ w' a, World.Kept V w w' → a ∈ items → Spares V w' (f a)) :
    Spares V w (items.mapM f) := by
  rw [← List.mapM'_eq_mapM]
  induction items generalizing w with
  | nil => exact spares_pure fun b hb => absurd hb List.not_mem_nil
  | cons a rest ih =>
    rw [List.mapM'_cons]
    refine .of_sealed fun hw => (hf w a (.refl hw) List.mem_cons_self).bind fun w' b hw' hb => ?_
    refine (ih fun w'' a h ha => hf w'' a (hw'.trans h) (List.mem_cons_of_mem _ ha)).bind
      fun w'' bs hw'' hbs => spares_pure ?_
    exact List.forall_mem_cons.mpr ⟨hw''.within hb, hbs⟩

theorem spares_forM {α : Type} {items : List α} {f : α → M Unit}
    (hf : ∀ w' a, World.Kept V w w' → a ∈ items → Spares V w' (f a)) :
    Spares V w (items.forM f) := by
  induction items generalizing w with
  | nil => exact spares_pure trivial
  | cons a rest ih =>
    refine .of_sealed fun hw => (hf w a (.refl hw) List.mem_cons_self).bind fun w' _ hw' _ => ?_
    exact ih fun w'' a h ha => hf w'' a (hw'.trans h) (List.mem_cons_of_mem _ ha)

theorem spares_asObject (hv : Within (V.region w) v) : Spares V w (asObject v) := by
  unfold asObject
  split
  · exact spares_freshTag.bind fun w' tag hw' _ => spares_pure (by simpa using hw'.within hv)
  · exact spares_pure hv

theorem spares_asObjects {items : List Value} (h : Within (V.region w) items) :
    Spares V w (asObjects items) :=
  spares_mapM fun _ x hw' hx => spares_asObject (hw'.within (h x hx))

theorem spares_newOptional (hv : Within (V.region w) v) : Spares V w (newOptional v) :=
  spares_freshTag.bind fun _ _ hw' _ => spares_pure (hw'.within hv)

theorem spares_newList {items : List Value} (h : Within (V.region w) items) :
    Spares V w (newList items) :=
  spares_alloc h

theorem spares_newTuple {items : List Value} (h : Within (V.region w) items) :
    Spares V w (newTuple items) := by
  unfold newTuple
  split
  · exact .of_sealed fun hw => spares_pure hw.emptyTuple
  · exact spares_alloc h

theorem spares_newPairs {entries : List (Value × Value)} (h : Within (V.region w) entries) :
    Spares V w (newPairs entries) := by
  induction entries generalizing w with
  | nil => exact spares_pure fun a ha => absurd ha List.not_mem_nil
  | cons e rest ih =>
    rw [within_cons] at h
    have hpair : Within (V.region w) [e.1, e.2] := by simpa using h.1
    refine (spares_newTuple hpair).bind fun w' pair hw' hp => ?_
    refine (ih (hw'.within (a := rest) h.2)).bind fun w'' pairs hw'' hps => spares_pure ?_
    rw [within_cons]
    exact ⟨hw''.within hp, hps⟩

theorem spares_lengthHint (kind : Stream) (rest : List Value) :
    Spares V w (lengthHint kind rest) := by
  unfold lengthHint
  split
  · exact spares_pure (by simp)
  · exact spares_pure (by simp)
  · exact spares_pure (by simp)
  · split_ifs
    · exact spares_fail _
    · exact spares_fail _
    · exact spares_pure (by simp)

def Source.Within (A : Set Nat) : Source → Prop
  | .fixed elements => TemplateEngine.Within A elements
  | .live i | .stream i => i ∈ A

instance : Referring Source where
  Within := Source.Within
  meet {_ _ _ s} hC h h' := by
    cases s with
    | fixed elements => exact Referring.meet (a := elements) hC h h'
    | live | stream => exact hC ⟨h, h'⟩

theorem spares_ofValue (hv : Within (V.region w) v) : Spares V w (Source.ofValue v) := by
  fun_induction Source.ofValue v with
  | case1 tag target ih => exact ih hv
  | case2 v hview =>
    refine .of_sealed fun hw => spares_get ?_
    split
    · exact spares_pure (hw.ref_of_base hv ‹w.base v = _›)
    · exact spares_pure (hw.ref_of_base hv ‹w.base v = _›)
    · split
      · exact spares_pure (hw.sequence? hv _ ‹_›)
      · exact spares_pure (within_map fun e he => (hw.mapping? (hw.open_of_within hv) _ ‹_› e he).1)
      · exact spares_pure (hw.repeatable? hv _ ‹_›)
      · split
        · refine (spares_newPairs ?_).bind fun _ _ _ h => spares_pure h
          exact hw.entries (hw.open_of_within hv)
        · exact spares_fail _

theorem spares_at? {s : Source} (hs : Within (V.region w) s) (turn : Nat) :
    Spares V w (s.at? turn) := by
  unfold Source.at?
  cases s with
  | fixed elements =>
    have hx := within_get? (e := elements) hs turn
    dsimp only
    split
    · rename_i x h
      exact spares_some (spares_asObject (hx x h))
    · exact spares_pure within_none
  | live i =>
    refine .of_sealed fun hw => spares_get ?_
    split
    · rename_i items hi
      exact spares_pure fun x hx => hw.visible hs hi x (List.mem_of_getElem? hx)
    · exact spares_pure within_none
  | stream i =>
    refine .of_sealed fun hw => spares_get ?_
    split
    · rename_i kind x rest hi
      have hitems : Within (V.region w) (x :: rest) := hw.visible hs hi
      rw [within_cons] at hitems
      have hset : Spares V w (setCell i (.stream kind rest)) :=
        spares_setCell hi (fun h => hs.2 (V.frozen_subset h)) rfl hitems.2
      exact hset.bind fun w' _ hw' _ => spares_pure ((within_some x).mpr (hw'.within hitems.1))
    · exact spares_pure within_none

/-- A body that leaves hidden cells alone does so on all elements. -/
theorem spares_visit {α : Type} [Referring α] {body : Nat → Value → M α} {s : Source}
    (hs : Within (V.region w) s)
    (hbody : ∀ w' i x, World.Kept V w w' → Within (V.region w') x → Spares V w' (body i x))
    (left turn : Nat) : Spares V w (s.visit id body left turn) := by
  induction left generalizing w turn with
  | zero => exact spares_pure fun a ha => absurd ha List.not_mem_nil
  | succ left ih =>
    refine (spares_at? hs turn).bind fun w' x hw' hx => ?_
    cases x with
    | none => exact spares_pure fun a ha => absurd ha List.not_mem_nil
    | some x =>
      refine (hbody w' turn x hw' (hx x rfl)).bind fun w'' a hw'' ha => ?_
      have hrest := ih (hw''.within (hw'.within hs))
        (fun w' i x h => hbody w' i x ((hw'.trans hw'').trans h)) (turn + 1)
      refine hrest.bind fun _ as hlast has => spares_pure ?_
      rw [within_cons]
      exact ⟨hlast.within ha, has⟩

theorem spares_forEachNumbered {α : Type} [Referring α] {body : Nat → Value → M α}
    (hv : Within (V.region w) v)
    (hbody : ∀ w' i x, World.Kept V w w' → Within (V.region w') x → Spares V w' (body i x)) :
    Spares V w (forEachNumbered v body) :=
  (spares_ofValue hv).bind fun _ _ hw' hs =>
    spares_get (spares_visit hs (fun w'' i x h => hbody w'' i x (hw'.trans h)) _ 0)

theorem spares_forEach {α : Type} [Referring α] {body : Value → M α}
    (hv : Within (V.region w) v)
    (hbody : ∀ w' x, World.Kept V w w' → Within (V.region w') x → Spares V w' (body x)) :
    Spares V w (forEach v body) :=
  spares_forEachNumbered hv fun w' _ x => hbody w' x

theorem spares_drain {s : Source} (hs : Within (V.region w) s) : Spares V w s.drain := by
  unfold Source.drain
  cases s with
  | fixed elements => exact spares_asObjects (within_toList (e := elements) hs)
  | live i =>
    refine .of_sealed fun hw => spares_get ?_
    split
    · rename_i items hi
      exact spares_pure (hw.visible hs hi)
    · exact spares_pure fun a ha => absurd ha List.not_mem_nil
  | stream i =>
    refine .of_sealed fun hw => spares_get ?_
    split
    · rename_i kind rest hi
      have hitems : Within (V.region w) rest := hw.visible hs hi
      have hset : Spares V w (setCell i (.stream kind [])) :=
        spares_setCell hi (fun h => hs.2 (V.frozen_subset h)) rfl fun a ha =>
          absurd ha List.not_mem_nil
      exact hset.bind fun w' _ hw' _ => spares_pure (hw'.within hitems)
    · exact spares_pure fun a ha => absurd ha List.not_mem_nil

theorem spares_checkLength (v : Value) (s : Source) : Spares V w (checkLength v s) := by
  unfold checkLength
  split
  · refine spares_get ?_
    split
    · exact (spares_lengthHint _ _).bind fun _ _ _ _ => spares_pure trivial
    · exact spares_pure trivial
  · split
    · exact spares_fail _
    · exact spares_pure trivial
  · exact spares_pure trivial

theorem spares_iterate (hv : Within (V.region w) v) : Spares V w (iterate v) :=
  (spares_ofValue hv).bind fun _ s _ hs =>
    (spares_checkLength v s).bind fun _ _ hw'' _ => spares_drain (hw''.within hs)

theorem spares_lengthOf (v : Value) : Spares V w (lengthOf v) := by
  refine spares_get ?_
  split
  · split
    · exact spares_pure trivial
    · exact spares_fail _
  · exact spares_fail _

theorem spares_isTruthy (v : Value) : Spares V w (isTruthy v) := by
  refine spares_get ?_
  split
  case h_11 => exact (spares_lengthOf v).bind fun _ _ _ _ => spares_pure trivial
  case h_12 => split <;> exact spares_pure trivial
  all_goals exact spares_pure trivial

theorem spares_nameOf (key : Value) : Spares V w (nameOf key) :=
  spares_get (spares_liftPlain _)

theorem spares_foldName (key : Value) : Spares V w (foldName key) :=
  (spares_nameOf key).bind fun _ _ _ _ => spares_pure trivial

theorem spares_displayed (v : Value) : Spares V w (displayed v) :=
  spares_get (spares_liftPlain _)

end TemplateEngine
