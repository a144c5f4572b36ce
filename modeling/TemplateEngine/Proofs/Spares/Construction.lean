import TemplateEngine.Proofs.Spares.Members
import TemplateEngine.Build
/-!
Making values by calling a class leaves hidden cells alone, when what a call asks of other values
does.
-/
namespace TemplateEngine

variable {V : Veil} {w : World} {v : Value} {d : Dispatch}

/-- Texts, attributes and calls leave hidden cells alone. -/
structure Dispatch.Sparing (V : Veil) (d : Dispatch) : Prop where
  text : ∀ {w v}, Within (V.region w) v → Spares V w (d.text v)
  read : ∀ {w v} (name : String), Within (V.region w) v → Spares V w (d.read v name)
  call : ∀ {w v} {arguments : List Value}, Within (V.region w) v →
    Within (V.region w) arguments → Spares V w (d.call v arguments)

theorem spares_readFrom (hd : d.Sparing V) (hv : Within (V.region w) v) (name : String) :
    Spares V w (d.readFrom v name) := by
  refine (hd.read name hv).bind fun w' found _ hfound => ?_
  cases found with
  | some x => exact spares_pure ((within_some x).mp hfound)
  | none =>
    refine spares_get ?_
    split
    · split <;> exact spares_fail _
    · exact spares_fail _

theorem spares_has (hd : d.Sparing V) (hv : Within (V.region w) v) (name : String) :
    Spares V w (d.has v name) := by
  refine (hd.read name hv).attempt.bind fun w' r _ _ => ?_
  split
  · exact spares_pure trivial
  · split
    · exact spares_pure trivial
    · exact spares_fail _

theorem spares_ask (hd : d.Sparing V) (hv : Within (V.region w) v) (name : String) :
    Spares V w (d.ask v name) :=
  (spares_readFrom hd hv name).bind fun _ _ _ hx => hd.call hx (by simp)

namespace Construction

theorem spares_integerSpelled (shown : String) (s : List Char) :
    Spares V w (integerSpelled shown s) := by
  unfold integerSpelled
  split
  · exact spares_fail _
  · split
    · exact spares_pure trivial
    · exact spares_fail _

theorem spares_integerOf (v : Value) : Spares V w (integerOf v) := by
  refine spares_get ?_
  split
  · exact (spares_displayed v).bind fun _ _ _ _ => spares_integerSpelled _ _
  · exact spares_integerSpelled _ _
  · split
    case h_3 => split <;> first | exact spares_pure trivial | exact spares_fail _
    case h_4 =>
      split
      · exact spares_pure trivial
      · exact spares_fail _
    all_goals first | exact spares_pure trivial | exact spares_fail _

theorem spares_nearest? (v : Value) : Spares V w (nearest? v) := by
  refine spares_get ?_
  split
  case h_3 | h_4 =>
    dsimp only
    split
    · exact spares_pure (by simp)
    · exact spares_fail _
  case h_5 =>
    split
    · exact spares_fail _
    · exact spares_pure (by simp)
  all_goals exact spares_pure (by simp)

theorem spares_realOf (v : Value) : Spares V w (realOf v) := by
  refine spares_get ?_
  dsimp only
  split
  case h_3 =>
    refine (spares_nearest? v).bind fun w' found _ _ => ?_
    cases found with
    | some x => exact spares_pure trivial
    | none => exact spares_fail _
  all_goals
    split
    · exact spares_pure trivial
    · exact (spares_displayed v).bind fun _ _ _ _ => spares_fail _

theorem spares_entryFrom (i : Nat) (hv : Within (V.region w) v) : Spares V w (entryFrom i v) := by
  refine (spares_iterate hv).attempt.bind fun w' r _ hr => ?_
  split
  · exact spares_pure (by simpa using hr)
  · exact spares_fail _
  · split <;> exact spares_fail _

theorem spares_newMapping (hd : d.Sparing V) (hv : Within (V.region w) v) :
    Spares V w (newMapping d v) := by
  refine .of_sealed fun hw => spares_get ?_
  split
  · exact spares_alloc (World.within_entries.mpr (hw.mapping? (hw.open_of_within hv) _ ‹_›))
  · have hfree : w.cells.size ∉ V.frozen := fun h =>
      Nat.lt_irrefl _ (hw.inBounds _ (V.frozen_subset h))
    refine (spares_alloc (by simp [within_cell, Cell.contents])).bind fun w' made hw' hmade => ?_
    refine (spares_has hd (hw'.within hv) "keys").bind fun w'' has hw'' _ => ?_
    split
    · refine (spares_ask hd ((hw'.trans hw'').within hv) "keys").bind fun w₁ keys hw₁ hkeys => ?_
      refine (spares_iterate hkeys).attempt.bind fun w₂ r hw₂ hr => ?_
      have hv₂ := (((hw'.trans hw'').trans hw₁).trans hw₂).within hv
      have hmade₂ := ((hw''.trans hw₁).trans hw₂).within hmade
      split
      · rename_i found
        refine (spares_forM fun w₃ key hw₃ hkey => ?_).bind
          fun w₄ _ hw₄ _ => spares_pure (hw₄.within hmade₂)
        have hkey := hw₃.within ((within_ok found).mp hr key hkey)
        exact (spares_itemOf (hw₃.within hv₂) key).bind fun w₅ x hw₅ hx =>
          spares_writeEntry hfree (hw₅.within hkey) hx
      · exact (spares_fail _).bind fun _ _ hw₄ _ => spares_pure (hw₄.within hmade₂)
      · exact (spares_fail _).bind fun _ _ hw₄ _ => spares_pure (hw₄.within hmade₂)
    · refine (spares_forEachNumbered ((hw'.trans hw'').within hv) fun w₁ i pair hw₁ hpair => ?_).bind
        fun w₂ _ hw₂ _ => spares_pure ((hw''.trans hw₂).within hmade)
      exact (spares_entryFrom i hpair).bind fun w₂ e hw₂ he =>
        spares_writeEntry hfree he.1 he.2

theorem spares_plainBase (hv : Within (V.region w) v) : Spares V w (plainBase v) := by
  refine spares_get ?_
  split
  · exact spares_pure trivial
  · exact spares_pure (by simpa using hv)

theorem spares_ofStandard (hd : d.Sparing V) (c : Standard) {arguments : List Value}
    (h : Within (V.region w) arguments) : Spares V w (ofStandard d c arguments) := by
  refine .of_sealed fun hw => spares_get ?_
  have hnothing : Within (V.region w) ([] : List Value) := by simp
  dsimp only
  split
  case h_2 => exact (spares_integerOf _).bind fun _ _ _ _ => spares_pure trivial
  case h_5 => exact (spares_realOf _).bind fun _ _ _ _ => spares_asObject trivial
  case h_7 => exact hd.text (h _ List.mem_cons_self)
  case h_10 => exact (spares_isTruthy _).bind fun _ _ _ _ => spares_pure trivial
  case h_11 => exact spares_newList hnothing
  case h_12 =>
    exact (spares_iterate (h _ List.mem_cons_self)).bind fun _ _ _ hitems => spares_newList hitems
  case h_13 => exact spares_pure hw.emptyTuple
  case h_14 v =>
    have hv : Within (V.region w) v := h v List.mem_cons_self
    have hnew : ∀ {w : World}, Within (V.region w) v →
        Spares V w (do newTuple (← iterate v)) := fun hv =>
      (spares_iterate hv).bind fun _ _ _ hitems => spares_newTuple hitems
    split
    · split
      · exact spares_pure hv
      · exact hnew hv
    · exact hnew hv
  case h_15 => exact spares_alloc (by simp [within_cell, Cell.contents])
  case h_16 => exact spares_newMapping hd (h _ List.mem_cons_self)
  case h_17 => exact spares_newOptional trivial
  case h_18 => exact spares_newOptional (h _ List.mem_cons_self)
  case h_26 => exact spares_alloc (by simp [within_cell, Cell.contents])
  all_goals first | exact spares_pure trivial | exact spares_fail _

theorem within_nameWith? {A : Set Nat} {agree : Value → Value → Except Fault Bool}
    {names : List EnumName} (h : Within A names) : Within A (nameWith? agree v names) := by
  induction names with
  | nil => exact (within_ok _).mpr within_none
  | cons n rest ih =>
    rw [within_cons] at h
    refine within_exceptBind fun found _ => ?_
    cases found with
    | false => exact ih h.2
    | true => exact (within_ok _).mpr ((within_some n).mpr h.1)

theorem spares_memberWith (cls : Nat) (hv : Within (V.region w) v) :
    Spares V w (memberWith cls v) := by
  refine .of_sealed fun hw => spares_get ?_
  dsimp only
  split
  · exact spares_pure hv
  · have hnames : Within (V.region w) (((w.class? cls).map (·.names)).getD []) := by
      cases hc : w.class? cls with
      | none => simp
      | some info => exact (hw.classes cls info hc).2
    refine (spares_liftResult (within_nameWith? hnames)).bind fun w' found _ _ => ?_
    split
    · rename_i m hm
      obtain ⟨n, -, hn⟩ := Option.bind_eq_some_iff.mp hm
      exact spares_pure (World.within_memberNamed? _ _ m hn)
    · exact (spares_displayed v).bind fun _ _ _ _ => spares_fail _

theorem spares_construct (hd : d.Sparing V) (c : ClassId) {arguments : List Value}
    (h : Within (V.region w) arguments) : Spares V w (construct d c arguments) := by
  refine spares_get ?_
  split
  · exact spares_ofStandard hd _ h
  · dsimp only
    split
    · split
      · exact spares_memberWith _ (h _ List.mem_cons_self)
      · exact spares_fail _
    · split
      · refine (spares_ofStandard hd _ h).bind fun w' base _ hbase => ?_
        refine (spares_plainBase hbase).bind fun w'' base _ hbase => spares_alloc ?_
        simpa [within_cell, Cell.contents] using hbase
      · split
        · exact spares_fail _
        · split
          · exact spares_alloc (by simp [within_cell, Cell.contents])
          · exact spares_fail _

theorem spares_newObject (hd : d.Sparing V) (c : ClassId) {attributes : Table String Value}
    {argument : Option Value} (hattributes : ∀ e ∈ attributes, Within (V.region w) e.2)
    (hargument : Within (V.region w) argument) :
    Spares V w (newObject d c attributes argument) := by
  refine spares_get ?_
  dsimp only
  have harguments : ∀ carries : Bool,
      Within (V.region w) (if carries = true then argument.toList else []) := fun carries =>
    within_ite (fun x hx => hargument x (Option.mem_toList.mp hx)) (by simp)
  refine (spares_construct hd c (harguments _)).bind fun w' v hw' hv => ?_
  have hdone : ∀ {w'' : World}, World.Kept V w' w'' → Spares V w'' (pure v) := fun h =>
    spares_pure (h.within hv)
  split
  · rename_i i
    refine .of_sealed fun hsealed => spares_get ?_
    split
    · rename_i cls old base hc
      refine (spares_setCell (d := .object cls (Table.ofEntries attributes) base) hc
        (V.not_frozen hv) rfl ?_).bind fun w'' _ hw'' _ => hdone hw''
      intro x hx
      rcases List.mem_append.mp hx with hx | hx
      · obtain ⟨e, he, rfl⟩ := List.mem_map.mp hx
        exact hw'.within (hattributes e (Table.mem_of_mem_ofEntries he))
      · exact hsealed.visible hv hc x (List.mem_append_right _ hx)
    · exact hdone (.refl hsealed)
  · exact .of_sealed fun hsealed => hdone (.refl hsealed)

end Construction

namespace Packing

theorem spares_integerIn (v : Value) : Spares V w (integerIn v) := by
  refine spares_get ?_
  split
  · exact spares_pure trivial
  · exact spares_fail _

theorem spares_integer (code : Char) (v : Value) : Spares V w (integer code v) := by
  refine (spares_integerIn v).bind fun _ _ _ _ => ?_
  split
  · exact spares_pure trivial
  · exact spares_fail _

theorem spares_element (code : Char) (v : Value) : Spares V w (element code v) := by
  refine spares_get ?_
  split
  · split
    · split
      · exact spares_pure trivial
      · exact spares_fail _
    · exact spares_fail _
  · split
    · refine (Construction.spares_nearest? v).bind fun _ found _ _ => ?_
      cases found with
      | some x => exact spares_pure trivial
      | none => exact spares_fail _
    · exact (spares_integer code v).bind fun _ _ _ _ => spares_pure trivial

end Packing

end TemplateEngine
