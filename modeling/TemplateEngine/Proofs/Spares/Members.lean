import TemplateEngine.Proofs.Spares.Entries
import TemplateEngine.Proofs.SortedElements
/-!
Fields and accessors of the built-in classes leave hidden cells alone.
-/
namespace TemplateEngine

variable {V : Veil} {w : World} {v : Value}

theorem within_memberNameValue {A : Set Nat} (v : Value) : Within A (memberNameValue w v) := by
  unfold memberNameValue
  split
  · cases w.memberName? _ _ <;> trivial
  · cases w.flagName? _ _ <;> trivial
  · trivial

theorem spares_readField (c : Standard) (name : String) (hv : Within (V.region w) v) :
    Spares V w (readField c name v) := by
  refine .of_sealed fun hw => spares_get ?_
  split
  case h_2 => exact spares_pure (hw.content? hv)
  case h_4 => exact spares_pure ((within_some _).mpr (within_memberNameValue v))
  case h_5 => exact spares_pure (within_optionMap fun n hn => hw.memberName? hn)
  case h_8 u =>
    refine spares_pure ((within_some _).mpr ?_)
    cases w.forest.owner? u <;> trivial
  case h_9 =>
    exact spares_freshTag.bind fun _ _ hw' _ => spares_pure ((within_some _).mpr (hw'.within hv))
  case h_11 =>
    split
    case h_27 => split <;> exact spares_pure (by simp)
    case h_28 => split <;> exact spares_pure (by simp)
    all_goals first
      | exact spares_pure ((within_some _).mpr trivial)
      | exact spares_pure (within_optionMap fun _ _ => trivial)
      | exact spares_pure within_none
      | exact spares_some (spares_asObject (by trivial))
  all_goals first
    | exact spares_pure ((within_some _).mpr trivial)
    | exact spares_pure (within_optionMap fun _ _ => trivial)

theorem spares_newRatio (num den : Int) : Spares V w (newRatio num den) :=
  spares_newTuple (by simp)

theorem spares_callIntAccessor (name : String) (n : Int) :
    Spares V w (callIntAccessor name n) := by
  unfold callIntAccessor
  split
  · exact spares_pure trivial
  · exact spares_pure trivial
  · exact spares_newRatio n 1

theorem spares_callTextAccessor (name s : String) : Spares V w (callTextAccessor name s) := by
  have hsplit : Within (V.region w) ((Text.words s).map Value.text) :=
    within_map fun _ _ => trivial
  unfold callTextAccessor
  split <;> first
    | exact spares_pure trivial
    | exact spares_newList hsplit

theorem spares_callBytesAccessor (name : String) (b : List UInt8) :
    Spares V w (callBytesAccessor name b) := by
  unfold callBytesAccessor
  split
  · split
    · exact spares_pure trivial
    · exact spares_fail _
  · exact spares_newList (within_map fun _ _ => trivial)
  · exact spares_pure trivial

theorem spares_callFloatAccessor (name : String) (x : Binary64) :
    Spares V w (callFloatAccessor name x) := by
  unfold callFloatAccessor
  split
  · exact spares_pure trivial
  · exact spares_pure trivial
  · split
    · exact spares_newRatio _ _
    · exact spares_fail _
    · exact spares_fail _

theorem spares_callDecimalAccessor (name : String) (d : Decimal) :
    Spares V w (callDecimalAccessor name d) := by
  unfold callDecimalAccessor
  split
  case h_5 =>
    split
    · exact spares_asObject trivial
    · exact spares_fail _
  all_goals exact spares_pure trivial

/-- The last element may be taken off when the others may be kept. -/
theorem spares_splitLast {α : Type} [Referring α] {items : List α} {keep : List α → M Unit}
    (whole : String) (h : Within (V.region w) items)
    (hkeep : ∀ kept, Within (V.region w) kept → Spares V w (keep kept)) :
    Spares V w (splitLast whole items keep) := by
  unfold splitLast
  split
  · rename_i x hx
    have hx := h x (List.mem_of_getLast? hx)
    have hkept : Within (V.region w) items.dropLast := fun y hy =>
      h y (List.dropLast_subset items hy)
    exact (hkeep _ hkept).bind fun _ _ hw' _ => spares_pure (hw'.within hx)
  · exact spares_fail _

section

variable {i : Nat}

theorem spares_callListAccessor {items : List Value} (name : String) (hi : i ∈ V.region w)
    (hc : w.cell? i = some (.list items)) : Spares V w (callListAccessor name i items) := by
  refine .of_sealed fun hw => ?_
  have hitems : Within (V.region w) items := hw.visible hi hc
  have hset : ∀ kept : List Value, Within (V.region w) kept →
      Spares V w (setCell i (.list kept)) :=
    fun kept hkept => spares_setCell hc (V.not_frozen hi) rfl hkept
  unfold callListAccessor
  split
  · exact (hset [] (by simp)).bind fun _ _ _ _ => spares_pure trivial
  · exact spares_newList hitems
  · refine (hset _ fun v hv => hitems v (List.mem_reverse.mp hv)).bind fun _ _ _ _ => ?_
    exact spares_pure trivial
  · exact spares_splitLast _ hitems hset
  · refine spares_get ((hset _ (Sorting.all_sortList hitems)).bind fun _ _ _ _ => ?_)
    split
    · exact spares_fail _
    · exact spares_pure trivial

theorem Scope.within_popFirst? {A : Set Nat} {s rest : Scope Value Value} {name : String}
    {x : Value} (hs : Within A s) (h : s.popFirst? = some ((name, x), rest)) :
    Within A x ∧ Within A rest := by
  unfold popFirst? at h
  split at h
  · simp at h
  · rename_i text value tail hentries
    simp only [Option.some.injEq, Prod.mk.injEq] at h
    obtain ⟨⟨rfl, rfl⟩, rfl⟩ := h
    refine ⟨Scope.within_entries hs value ?_, Scope.within_erase hs text⟩
    simp [hentries]

theorem spares_callBindingsAccessor {s : Scope Value Value} (name : String) (hi : i ∈ V.region w)
    (hc : w.cell? i = some (.bindings s)) :
    Spares V w (callBindingsAccessor name (.ref i) i s) := by
  refine .of_sealed fun hw => ?_
  have hs := World.within_bindings.mp (hw.visible hi hc)
  have hset : ∀ s' : Scope Value Value, Within (V.region w) s' →
      Spares V w (setCell i (.bindings s')) :=
    fun s' hs' => spares_setCell hc (V.not_frozen hi) rfl (World.within_bindings.mpr hs')
  have hpart : ∀ which, Spares V w (do return Value.part (← freshTag) which (.ref i)) := fun which =>
    spares_freshTag.bind fun _ _ hw' _ => spares_pure (hw'.within (a := Value.ref i) hi)
  unfold callBindingsAccessor
  split
  · exact (hset _ Scope.within_empty).bind fun _ _ _ _ => spares_pure trivial
  · exact hpart .items
  · exact hpart .keys
  · exact hpart .values
  · split
    · rename_i popped name x rest hpop
      obtain ⟨hx, hrest⟩ := Scope.within_popFirst? hs hpop
      refine (hset rest hrest).bind fun _ _ hw' _ => spares_newTuple ?_
      simpa using hw'.within hx
    · exact spares_fail _
  · exact spares_pure trivial

theorem spares_callDictRoutine {fluent : Bool} {entries : List (Value × Value)}
    {arguments : List Value} (name : String) (hv : Within (V.region w) v) (hi : i ∈ V.region w)
    (hc : w.cell? i = some (.dict fluent entries)) (harguments : Within (V.region w) arguments) :
    Spares V w (callDictRoutine name v i fluent entries arguments) := by
  refine .of_sealed fun hw => ?_
  have hentries := World.within_entries.mp (hw.visible hi hc)
  have hset : ∀ kept : List (Value × Value), Within (V.region w) kept →
      Spares V w (setCell i (.dict fluent kept)) :=
    fun kept hkept => spares_setCell hc (V.not_frozen hi) rfl (World.within_entries.mpr hkept)
  have hpart : ∀ which, Spares V w (do return Value.part (← freshTag) which v) := fun which =>
    spares_freshTag.bind fun _ _ hw' _ => spares_pure (hw'.within hv)
  unfold callDictRoutine
  split
  · exact hpart .items
  · exact hpart .keys
  · exact hpart .values
  · exact spares_alloc (World.within_entries.mpr hentries)
  · exact (hset [] (by simp)).bind fun _ _ _ _ => spares_pure trivial
  · rename_i key rest
    refine (spares_lookUpEntry hentries key).bind fun w' found hw' hfound => spares_pure ?_
    cases found with
    | some x => exact hfound x rfl
    | none =>
      cases rest with
      | nil => trivial
      | cons x rest => exact hw'.within (harguments x (by simp))
  · split
    · rename_i k x hlast
      have hlast := hentries _ (List.mem_of_getLast? hlast)
      refine (hset _ fun e he => hentries e (List.dropLast_subset entries he)).bind
        fun _ _ hw' _ => spares_newTuple ?_
      have := hw'.within hlast
      simpa using this
    · exact spares_fail _

end

theorem spares_callAccessor (c : Standard) (name : String) {arguments : List Value}
    (hv : Within (V.region w) v) (harguments : Within (V.region w) arguments) :
    Spares V w (callAccessor c name v arguments) := by
  refine .of_sealed fun hw => spares_get ?_
  split
  · exact (spares_liftPlain _).bind fun _ _ _ _ => spares_pure trivial
  · split
    · exact spares_newList (within_map fun _ _ => trivial)
    · exact spares_alloc (within_map (l := w.forest.subs _) fun _ _ => trivial)
    · exact spares_alloc (by simp [within_cell, Cell.contents])
    · refine spares_newOptional ?_
      cases arguments with
      | nil => trivial
      | cons x rest => exact harguments x List.mem_cons_self
    · exact spares_pure trivial
    · split
      · exact spares_callIntAccessor name _
      · exact spares_callIntAccessor name _
      · exact spares_callTextAccessor name _
      · exact spares_callBytesAccessor name _
      · exact spares_callFloatAccessor name _
      · exact spares_asObject trivial
      · exact spares_callDecimalAccessor name _
      · exact spares_newRatio _ _
      · rename_i i hbase
        have hi := hw.ref_of_base hv hbase
        split
        · exact spares_callListAccessor name hi ‹_›
        · exact spares_callDictRoutine name hv hi ‹_› harguments
        · rename_i code items hc
          have hitems : Within (V.region w) items := hw.visible hi hc
          refine (spares_splitLast _ hitems fun kept hkept => ?_).bind fun _ _ _ hx =>
            spares_asObject hx
          exact spares_setCell hc (V.not_frozen hi) rfl hkept
        · exact spares_callBindingsAccessor name hi ‹_›
        · exact spares_fail _
      · exact spares_fail _

end TemplateEngine
