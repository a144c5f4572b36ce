import TemplateEngine.Proofs.Mappings
import TemplateEngine.Resolution
/-!
The element at an index. Looking for one that is not there changes nothing but an iterator, which is
emptied, and so it may be looked for again.
-/
namespace TemplateEngine

/-- A computation leaves a world as it is. -/
def Still {α : Type} (w : World) (x : M α) : Prop := (outcome x w).2 = w

section Still

variable {α β : Type} {w : World}

theorem still_pure (a : α) : Still w (pure a : M α) := rfl

theorem still_fail (f : Fault) : Still w (fail f : M α) := rfl

theorem still_liftResult (r : Except Fault α) : Still w (liftResult r) := rfl

theorem Still.bind {x : M α} {f : α → M β} (hx : Still w x) (hf : ∀ a, Still w (f a)) :
    Still w (x >>= f) := by
  unfold Still at hx ⊢
  rw [outcome_bind]
  rcases h : outcome x w with ⟨_ | a, w'⟩ <;> rw [h] at hx <;> subst hx
  · rfl
  · exact hf a

theorem still_get_bind {f : World → M β} (hf : Still w (f w)) : Still w (get >>= f) := hf

end Still

/-- A computation that gives nothing leaves the world as it is. -/
def StillIfNull (w : World) (x : M Value) : Prop :=
  ∀ w', outcome x w = (.ok .null, w') → w' = w

section StillIfNull

variable {α : Type} {w : World}

theorem Still.ifNull {x : M Value} (hx : Still w x) : StillIfNull w x := by
  intro w' h
  rw [Still, h] at hx
  exact hx

theorem StillIfNull.bind {x : M α} {f : α → M Value} (hx : Still w x)
    (hf : ∀ a, StillIfNull w (f a)) : StillIfNull w (x >>= f) := by
  intro w' h
  unfold Still at hx
  rw [outcome_bind] at h
  rcases ho : outcome x w with ⟨_ | a, w₁⟩ <;> rw [ho] at hx h <;> subst hx
  · simp at h
  · exact hf a _ h

theorem stillIfNull_asObject (v : Value) : StillIfNull w (asObject v) := by
  intro w' h
  unfold asObject at h
  split at h
  · rename_i hbare
    have hmarked : ∀ n, v.marked n ≠ .null := by
      intro n
      cases v <;> simp [Value.isBare] at hbare <;> simp [Value.marked]
    simp [hmarked] at h
  · simpa [eq_comm] using (Prod.ext_iff.mp h).2

end StillIfNull

variable {w : World}

theorem still_asIndex (p : Value) : Still w (asIndex p) := by
  refine still_get_bind ?_
  split <;> (try split) <;> rfl

theorem still_lengthOf (v : Value) : Still w (lengthOf v) := by
  refine still_get_bind ?_
  split
  · split
    · exact still_pure _
    · exact still_fail _
  · exact still_fail _

theorem still_missing {α : Type} (key : Value) : Still w (Bindings.missing key : M α) :=
  Still.bind (still_get_bind (still_liftResult _)) fun _ => still_fail _

theorem still_lookUp? (b key : Value) : Still w (Bindings.lookUp? b key) := by
  refine Still.bind ?_ fun s => Still.bind (still_get_bind (still_liftResult _)) fun _ => still_pure _
  refine still_get_bind ?_
  split <;> exact still_pure _

theorem still_refuseElement {α : Type} (v : Value) : Still w (refuseElement v : M α) := by
  refine still_get_bind ?_
  split <;> exact still_fail _

theorem still_entryOf (v key : Value) (entries : List (Value × Value)) :
    Still w (entryOf v key entries) := by
  refine still_get_bind ?_
  split
  · refine Still.bind (still_lookUp? v key) fun found => ?_
    cases found with
    | some x => exact still_pure x
    | none => exact still_missing key
  · refine Still.bind (rfl : Still w (lookUpEntry entries key)) fun found => ?_
    cases found with
    | some x => exact still_pure x
    | none => exact still_missing key

theorem stillIfNull_elementOf (v : Value) (elements : Elements) (index : Value) :
    StillIfNull w (elementOf v elements index) := by
  unfold elementOf
  refine StillIfNull.bind (rfl : Still w get) fun w₁ => ?_
  dsimp only
  split
  · exact (still_fail _).ifNull
  · split
    · exact (still_fail _).ifNull
    · split
      · exact stillIfNull_asObject _
      · exact (still_fail _).ifNull

theorem stillIfNull_itemOf (v key : Value) : StillIfNull w (itemOf v key) := by
  unfold itemOf
  refine StillIfNull.bind (rfl : Still w get) fun w₁ => ?_
  dsimp only
  split
  · exact stillIfNull_elementOf _ _ _
  · exact (still_entryOf _ _ _).ifNull
  · split
    · exact (still_pure _).ifNull
    · exact (Still.bind (still_liftResult _) fun _ => still_missing key).ifNull
  · exact (still_refuseElement _).ifNull

theorem stillIfNull_elementWithin (v : Value) (index : Int) :
    StillIfNull w (elementWithin v index) := by
  unfold elementWithin
  split
  · exact (still_pure _).ifNull
  · refine StillIfNull.bind (still_lengthOf v) fun n => ?_
    split
    · exact stillIfNull_itemOf _ _
    · exact (still_pure _).ifNull

theorem still_lengthHint (kind : Stream) (rest : List Value) : Still w (lengthHint kind rest) := by
  unfold lengthHint
  split
  · exact still_pure _
  · exact still_pure _
  · exact still_pure _
  · split_ifs
    · exact still_fail _
    · exact still_fail _
    · exact still_pure _

theorem still_checkLength (v : Value) (s : Source) : Still w (checkLength v s) := by
  unfold checkLength
  split
  · refine still_get_bind ?_
    split
    · exact Still.bind (still_lengthHint _ _) fun _ => still_pure _
    · exact still_pure _
  · split
    · exact still_fail _
    · exact still_pure _
  · exact still_pure _

/-- Reading an iterable that is no view changes nothing, and it is an iterator only if it is built on
one. -/
theorem outcome_ofValue {v : Value} (hview : ∀ tag target, v ≠ .view tag target)
    (hitems : ∀ tag target, v ≠ .part tag .items target) :
    ∃ r, outcome (Source.ofValue v) w = (r, w) ∧
      ∀ i, r = .ok (.stream i) → ∃ kind rest, w.baseCell? v = some (.stream kind rest) := by
  rw [Source.ofValue.eq_2 _ hview]
  rw [outcome_get_bind]
  split
  · exact ⟨_, rfl, by simp⟩
  · rename_i kind rest hbase hcell
    exact ⟨_, rfl, fun _ _ => ⟨kind, rest, hcell⟩⟩
  · split
    · exact ⟨_, rfl, by simp⟩
    · exact ⟨_, rfl, by simp⟩
    · exact ⟨_, rfl, by simp⟩
    · split
      · exact absurd rfl (hitems _ _)
      · exact ⟨_, rfl, by simp⟩

/-- What is built on an iterator, but is none itself, cannot be iterated. -/
theorem not_isIterable_of_stream {v : Value} {kind : Stream} {rest : List Value}
    (hcell : w.baseCell? v = some (.stream kind rest)) (hstream : w.stream? v = none) :
    (w.isMapping v || w.isIterable v) = false := by
  obtain ⟨i, hbase, hi⟩ := World.base_of_baseCell? hcell
  rcases World.ref_or_member_of_base hbase with ⟨j, rfl⟩ | ⟨e, k, rfl⟩ <;>
    simp [World.isMapping, World.isIterable, World.mapping?, World.isSequence, World.sequence?,
      World.repeatable?, World.isSet, World.isIterator, hcell, hbase, hi, hstream]

theorem still_collect {v : Value} (hstream : w.stream? v = none) : Still w (collect v) := by
  refine still_get_bind ?_
  split
  · exact still_pure _
  · exact still_pure _
  · exact still_pure _
  · rename_i hnull hview hbroken
    split
    · exact still_pure _
    split
    · exact still_pure _
    split
    · exact still_pure _
    split
    · exact still_pure _
    split
    · rename_i hiterable
      unfold collectEach
      split
      · refine still_get_bind ?_
        dsimp only
        split
        · exact still_fail _
        · exact still_pure _
      · rename_i hitems
        obtain ⟨r, hsource, hkind⟩ := outcome_ofValue (w := w) hview hitems
        unfold Still
        rw [outcome_bind, hsource]
        cases r with
        | error f => rfl
        | ok source =>
          refine Still.bind (still_checkLength v source) fun _ => ?_
          cases source with
          | fixed elements => exact still_pure _
          | live i =>
            refine Still.bind (still_get_bind ?_) fun _ => still_pure _
            split <;> exact still_pure _
          | stream i =>
            obtain ⟨kind, rest, hcell⟩ := hkind i rfl
            rw [not_isIterable_of_stream hcell hstream] at hiterable
            simp at hiterable
    · exact still_pure _

/-- Whether an iterator refuses to tell how much is left does not depend on what is left. -/
theorem outcome_lengthHint (kind : Stream) :
    (∃ f, ∀ rest w, outcome (lengthHint kind rest) w = (.error f, w)) ∨
      ∀ rest, ∃ n, ∀ w, outcome (lengthHint kind rest) w = (.ok n, w) := by
  cases kind with
  | list => exact Or.inr fun rest => ⟨some rest.length, fun _ => rfl⟩
  | generator => exact Or.inr fun _ => ⟨none, fun _ => rfl⟩
  | hinted count =>
    cases count with
    | none => exact Or.inr fun _ => ⟨none, fun _ => rfl⟩
    | some n =>
      by_cases hlong : n < -(maxLength : Int) ∨ (maxLength : Int) ≤ n
      · exact Or.inl ⟨.lengthTooLarge, fun _ _ => by simp [lengthHint, hlong]⟩
      by_cases hn : n < 0
      · exact Or.inl ⟨.negativeHint, fun _ _ => by simp [lengthHint, hlong, hn]⟩
      · exact Or.inr fun _ => ⟨some n.toNat, fun _ => by simp [lengthHint, hlong, hn]⟩

/-- An iterator is asked how much is left, and then gives that and is emptied. -/
theorem outcome_collect_iterator {i : Nat} {kind : Stream} {w : World} {rest : List Value}
    (h : w.cell? i = some (.stream kind rest)) :
    outcome (collect (.ref i)) w = outcome (do
      let _ ← lengthHint kind rest
      setCell i (.stream kind [])
      return .items rest) w := by
  have hbase : w.base (.ref i) = .ref i := by simp [World.base_ref, h, Cell.base?]
  have hcell : w.baseCell? (.ref i) = some (.stream kind rest) := by
    simp [World.baseCell?, hbase, h]
  have hiterator : w.isIterator (.ref i) = true := by simp [World.isIterator, World.stream?, h]
  have hsource : outcome (Source.ofValue (.ref i)) w = (.ok (.stream i), w) := by
    simp [Source.ofValue, hbase, hcell]
  have heach : outcome (collect (.ref i)) w = outcome (collectEach (.ref i)) w := by
    simp [collect, World.isTuple, World.isArray, World.isText, World.text?, World.bytes?,
      World.isSequence, World.sequence?, World.isMapping, World.isIterable, hbase, hcell, h,
      hiterator]
  rw [heach]
  simp only [collectEach, outcome_bind_ok hsource, checkLength, Source.drain, outcome_bind,
    outcome_get, h]
  rcases outcome_lengthHint kind with ⟨f, hf⟩ | hok
  · simp [hf]
  · obtain ⟨n, hn⟩ := hok rest
    simp [hn, h]

/-- An iterator gives what is left of it and is emptied, unless it refuses. -/
theorem outcome_collect_stream (i : Nat) (kind : Stream) :
    (∃ f, ∀ (w : World) (rest : List Value), w.cell? i = some (.stream kind rest) →
      outcome (collect (.ref i)) w = (.error f, w)) ∨
    ∀ (w : World) (rest : List Value), w.cell? i = some (.stream kind rest) →
      outcome (collect (.ref i)) w = (.ok (.items rest), w.rewriteCell i (.stream kind [])) := by
  rcases outcome_lengthHint kind with ⟨f, hf⟩ | hok
  · exact Or.inl ⟨f, fun w rest h => by simp [outcome_collect_iterator h, outcome_bind, hf]⟩
  · refine Or.inr fun w rest h => ?_
    obtain ⟨n, hn⟩ := hok rest
    simp [outcome_collect_iterator h, outcome_bind, hn, World.rewriteCell]

theorem elementAt_nil (index : Int) : elementAt (.list []) index = .null := by
  unfold elementAt
  split <;> simp [Elements.get?]

/-- Nothing changes, but that a value is emptied if it is an iterator. -/
def World.Drains (w : World) (v : Value) (w' : World) : Prop :=
  w' = w ∨ ∃ i kind rest, v = .ref i ∧ w.cell? i = some (.stream kind rest) ∧
    w' = w.rewriteCell i (.stream kind [])

/-- Looking for an element where there is none empties an iterator at most, and changes nothing more
the second time. -/
theorem elementOfContent_null {v : Value} {index : Int} {w w' : World}
    (h : outcome (elementOfContent v index) w = (.ok .null, w')) :
    w.Drains v w' ∧ outcome (elementOfContent v index) w' = (.ok .null, w') := by
  -- Only an iterator changes, and it has nothing left the second time.
  cases hstream : w.stream? v with
  | none =>
    have hstill : StillIfNull w (elementOfContent v index) := by
      refine StillIfNull.bind (rfl : Still w get) fun w₁ => ?_
      split
      · exact StillIfNull.bind (rfl : Still w get) fun _ => (still_pure _).ifNull
      · refine StillIfNull.bind (still_collect hstream) fun collected => ?_
        cases collected with
        | itself => exact stillIfNull_elementWithin _ _
        | copied => exact stillIfNull_elementWithin _ _
        | viewed => exact stillIfNull_elementWithin _ _
        | items items => exact stillIfNull_asObject _
        | pairs entries =>
          dsimp only
          split
          · intro w' h'
            simp [newTuple] at h'
          · exact (still_pure _).ifNull
    obtain rfl := hstill _ h
    exact ⟨Or.inl rfl, h⟩
  | some left =>
    obtain ⟨i, kind, rest, rfl, hcell⟩ : ∃ i kind rest, v = .ref i ∧
        w.cell? i = some (.stream kind rest) := by
      unfold World.stream? at hstream
      split at hstream
      · rename_i i
        split at hstream
        · exact ⟨i, _, _, rfl, ‹_›⟩
        · simp at hstream
      · simp at hstream
    rcases outcome_collect_stream i kind with ⟨f, hf⟩ | hok
    · simp [elementOfContent, outcome_bind, World.enumClass?, hf w rest hcell] at h
    · have hrun : ∀ {w : World} {rest : List Value}, w.cell? i = some (.stream kind rest) →
          outcome (elementOfContent (.ref i) index) w =
            outcome (asObject (elementAt (.list rest) index))
              (w.rewriteCell i (.stream kind [])) := by
        intro w rest hcell
        simp [elementOfContent, outcome_bind, World.enumClass?, hok w rest hcell]
      rw [hrun hcell] at h
      obtain rfl := stillIfNull_asObject _ _ h
      have hdrained := World.cell?_rewriteCell_self hcell (.stream kind [])
      refine ⟨Or.inr ⟨i, kind, rest, rfl, hcell, rfl⟩, ?_⟩
      rw [hrun hdrained, elementAt_nil]
      simp [asObject, Value.isBare, World.rewriteCell]

namespace World.Drains

variable {w w' : World} {u : Value}

theorem baseCell?_cases (h : w.Drains u w') (v : Value) :
    w'.base v = w.base v ∧ (w'.baseCell? v = w.baseCell? v ∨
      ∃ kind rest rest', w.baseCell? v = some (.stream kind rest) ∧
        w'.baseCell? v = some (.stream kind rest')) := by
  rcases h with rfl | ⟨i, kind, rest, -, hi, rfl⟩
  · exact ⟨rfl, Or.inl rfl⟩
  · have hbase := World.base_rewriteCell (d := .stream kind []) hi rfl v
    refine ⟨hbase, ?_⟩
    unfold World.baseCell?
    rw [hbase]
    cases hv : w.base v with
    | ref j =>
      by_cases hj : j = i
      · subst hj
        exact Or.inr ⟨kind, rest, [], hi, World.cell?_rewriteCell_self hi _⟩
      · exact Or.inl (World.cell?_rewriteCell_of_ne hj _)
    | _ => exact Or.inl rfl

theorem isSet_eq (h : w.Drains u w') (v : Value) : w'.isSet v = w.isSet v := by
  unfold World.isSet
  split
  · rfl
  · rfl
  · obtain ⟨-, hcell | ⟨kind, rest, rest', hcell, hcell'⟩⟩ := h.baseCell?_cases v
    · rw [hcell]
    · rw [hcell, hcell']

theorem isMapping_eq (h : w.Drains u w') (v : Value) : w'.isMapping v = w.isMapping v := by
  unfold World.isMapping
  fun_induction World.mapping? w v with
  | case1 tag target ih => simpa only [World.mapping?] using ih
  | case2 owner => rfl
  | case3 v hreadOnly hsub fluent entries hcell =>
    obtain ⟨-, hsame | ⟨kind, rest, rest', hold, -⟩⟩ := h.baseCell?_cases v
    · rw [World.mapping?.eq_3 _ _ hreadOnly hsub, hsame, hcell]
    · simp [hcell] at hold
  | case4 v hreadOnly hsub scope hcell =>
    obtain ⟨-, hsame | ⟨kind, rest, rest', hold, -⟩⟩ := h.baseCell?_cases v
    · rw [World.mapping?.eq_3 _ _ hreadOnly hsub, hsame, hcell]
    · simp [hcell] at hold
  | case5 v hreadOnly hsub hdict hbindings =>
    obtain ⟨-, hsame | ⟨kind, rest, rest', -, hnew⟩⟩ := h.baseCell?_cases v
    · rw [World.mapping?.eq_3 _ _ hreadOnly hsub, hsame]
      split <;> simp_all
    · rw [World.mapping?.eq_3 _ _ hreadOnly hsub, hnew]

/-- Mappings and sets are no iterators. -/
theorem eq_of_not_ordered (h : w.Drains u w') (hu : (w.isMapping u || w.isSet u) = true) :
    w' = w := by
  rcases h with rfl | ⟨i, kind, rest, rfl, hi, rfl⟩
  · rfl
  · simp [World.isMapping, World.mapping?, World.isSet, World.baseCell?, World.base, hi] at hu

end World.Drains

end TemplateEngine
