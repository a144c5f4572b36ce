import TemplateEngine.Proofs.Arguments
import TemplateEngine.Proofs.TextTrees
/-!
Views of sequences against tuples. What a view and a tuple answer depends on nothing but their
elements, so a view answers as a tuple of the elements that are behind it at that time. Slices are
the exception: a view asks the sequence behind it for them, and deques give none.
-/
namespace TemplateEngine

/-! ## Ranges -/

namespace Elements

variable {start stop step n : Int}

/-- The steps of a range are those that do not reach its end. -/
theorem lt_rangeLength_iff {i : Nat} : i < rangeLength start stop step ↔
    0 < step ∧ start + step * i < stop ∨ step < 0 ∧ stop < start + step * i := by
  unfold rangeLength
  split_ifs with up down
  · have turns : (i : Int) + 1 ≤ (stop - start + step - 1) / step ↔ start + step * i < stop := by
      rw [Int.le_ediv_iff_mul_le up, Int.add_mul, Int.mul_comm]
      omega
    omega
  · have turns : (i : Int) + 1 ≤ (start - stop - step - 1) / -step ↔ stop < start + step * i := by
      rw [Int.le_ediv_iff_mul_le (by omega), Int.add_mul, Int.mul_comm, Int.neg_mul]
      omega
    omega
  · omega

/-- A range tells by division what a search among its elements finds. -/
theorem rangeContains_eq (stepped : step ≠ 0) :
    rangeContains start stop step n = ((List.range (rangeLength start stop step)).map
      fun i => start + step * (i : Nat)).contains n := by
  have bounded : (if 0 < step then decide (start ≤ n ∧ n < stop)
      else decide (stop < n ∧ n ≤ start)) = true ↔
      0 < step ∧ start ≤ n ∧ n < stop ∨ step < 0 ∧ stop < n ∧ n ≤ start := by
    split_ifs <;> simp only [decide_eq_true_eq] <;> omega
  rw [Bool.eq_iff_iff, List.contains_iff_mem, List.mem_map]
  simp only [List.mem_range, lt_rangeLength_iff, rangeContains, Bool.and_eq_true, beq_iff_eq,
    bounded]
  constructor
  · rintro ⟨inside, whole⟩
    obtain ⟨k, turns⟩ := Int.dvd_of_emod_eq_zero whole
    have positive : 0 ≤ k := by
      rcases inside with ⟨up, low, -⟩ | ⟨down, -, high⟩
      · exact nonneg_of_mul_nonneg_right (by omega : 0 ≤ step * k) up
      · by_contra negative
        have := Int.mul_pos_of_neg_of_neg down (by omega : k < 0)
        omega
    obtain ⟨i, rfl⟩ := Int.eq_ofNat_of_zero_le positive
    exact ⟨i, by omega, by omega⟩
  · rintro ⟨i, inside, rfl⟩
    have turned : 0 < step → 0 ≤ step * (i : Int) := fun up => by positivity
    have back : step < 0 → step * (i : Int) ≤ 0 := fun down =>
      Int.mul_nonpos_of_nonpos_of_nonneg (by omega) (by omega)
    exact ⟨by omega, by simp⟩

end Elements

/-! ## Search -/

namespace World

variable {w : World} {x : Value} {k n : Int}

/-- Whole numbers and truth values are compared as numbers. -/
theorem agree_int (number : w.numeric? x = some (.real (.ratio (.ofInt n))))
    (whole : ∀ m, x = .int m → m = n) (quiet : w.isSignaling x = false) :
    w.agree (.int k) x = .ok (k == n) := by
  obtain ⟨m, room⟩ : ∃ m, w.bulk + (Value.int k).depth + x.depth = m + 1 :=
    ⟨w.bulk + (Value.int k).depth + x.depth - 1, by have := two_le_bulk w; omega⟩
  have left : w.numeric? (.int k) = some (.real (.ratio (.ofInt k))) := rfl
  have quiet' : w.isSignaling (.int k) = false := rfl
  unfold agree agreeFrom
  split
  · rename_i same
    obtain rfl : Value.int k = x := by
      simp only [Value.identical, Bool.and_eq_true, beq_iff_eq] at same
      exact same.1
    simp [whole k rfl]
  · rw [equalFrom, room, equalWithin]
    simp [number, left, sameNumber, quiet, quiet', Numeric.same, Exact.same, Ratio.same,
      Ratio.ofInt]

theorem someAgrees_ints (number : w.numeric? x = some (.real (.ratio (.ofInt n))))
    (whole : ∀ m, x = .int m → m = n) (quiet : w.isSignaling x = false) (items : List Int) :
    someAgrees w.agree x (items.map .int) = .ok (items.contains n) := by
  induction items with
  | nil => rfl
  | cons k rest ih =>
    rw [List.map_cons, someAgrees, agree_int number whole quiet, ih, List.contains_cons,
      Bool.beq_comm]
    cases n == k <;> rfl

/-- A search over a source finds an element if one of those from there on agrees. -/
theorem outcome_findElement {s : Source} {items : List Value}
    (same : Value → Value → Except Fault Bool)
    (read : ∀ turn, outcome (s.at? turn) w = (.ok items[turn]?, w)) (left turn : Nat)
    (room : turn + left = items.length) :
    outcome (do
      return (← findElement (fun y => liftResult (same y x)) s left turn).isSome) w =
      (someAgrees same x (items.drop turn), w) := by
  induction left generalizing turn with
  | zero =>
    rw [List.drop_eq_nil_of_le (by omega)]
    rfl
  | succ left ih =>
    have within : turn < items.length := by omega
    rw [List.drop_eq_getElem_cons within, someAgrees, findElement, bind_assoc,
      outcome_bind_ok (read turn), List.getElem?_eq_getElem within]
    dsimp only
    rw [bind_assoc, outcome_bind, outcome_liftResult]
    cases same items[turn] x with
    | error f => rfl
    | ok agrees =>
      cases agrees with
      | true => rfl
      | false => exact ih (turn + 1) (by omega)

end World

/-! ## What the elements tell -/

/-- What an index gives in a list of elements, or the kind of the failure. -/
def World.itemAmong (w : World) (items : List Value) (index : Value) : Except String Value :=
  match w.integer? index with
  | none => .error "TypeError"
  | some n =>
    let i := if n < 0 then n + items.length else n
    match if i < 0 then none else items[i.toNat]? with
    | some x => .ok x
    | none => .error "IndexError"

/-- Reads the bounds of a slice, and goes on with its positions. -/
def slicing (length : Nat) (start stop step : Value) (next : List Nat → M Value) : M Value := do
  let step := (← Slice.bound step).getD 1
  if step = 0 then fail .zeroStep
  let start ← Slice.bound start
  let stop ← Slice.bound stop
  next (Slice.positions length start stop step)

/-- The elements at the positions of a slice, as a tuple. -/
def sliceAmong (items : List Value) (start stop step : Value) : M Value :=
  slicing items.length start stop step fun positions =>
    newTuple (positions.filterMap fun i => items[i]?)

/-- A value is read as a sequence of objects: it is a list, a tuple, a deque or a range, or a view
of one. -/
structure World.Shows (w : World) (v : Value) (e : Elements) : Prop where
  listed : w.sequence? v = some e
  plain : (∃ start stop step, World.behindViews v = .range start stop step ∧ step ≠ 0) ∨
    ∃ items, w.baseCell? (World.behindViews v) = some (.list items) ∨
      w.baseCell? (World.behindViews v) = some (.tuple items) ∨
      w.baseCell? (World.behindViews v) = some (.deque items)
  objects : ∀ x ∈ e.toList, x.isBare = false
  short : e.length < maxLength

section
variable {w : World} {v x : Value} {e : Elements}

/-- Lists, tuples and deques are cells, or what members of enumerations are built on. -/
theorem World.ordered_of_baseCell? {items : List Value}
    (held : w.baseCell? v = some (.list items) ∨ w.baseCell? v = some (.tuple items) ∨
      w.baseCell? v = some (.deque items)) :
    ∃ i c, w.baseCell? v = some c ∧ w.base v = .ref i ∧ w.cell? i = some c ∧
      ((∃ j, v = .ref j) ∨ ∃ k n, v = .member k n) ∧
      (c = .list items ∨ c = .tuple items ∨ c = .deque items) := by
  obtain ⟨c, cell, ordered⟩ : ∃ c, w.baseCell? v = some c ∧
      (c = .list items ∨ c = .tuple items ∨ c = .deque items) := by
    rcases held with held | held | held <;> exact ⟨_, held, by simp⟩
  obtain ⟨i, based, found⟩ := base_of_baseCell? cell
  exact ⟨i, c, cell, based, found, ref_or_member_of_base based, ordered⟩

theorem World.Shows.view (shows_ : w.Shows v e) (tag : Nat) : w.Shows (.view tag v) e :=
  ⟨shows_.listed, shows_.plain, shows_.objects, shows_.short⟩

theorem World.shows_tuple {i : Nat} {items : List Value} (cell : w.cell? i = some (.tuple items))
    (objects : ∀ x ∈ items, x.isBare = false) (short : items.length < maxLength) :
    w.Shows (.ref i) (.list items) := by
  have held : w.baseCell? (.ref i) = some (.tuple items) := by
    simp [baseCell?, base_ref, cell, Cell.base?]
  have listed : w.sequence? (.ref i) = some (.list items) := by
    simp [sequence?, base_ref, cell, Cell.base?]
  exact ⟨listed, .inr ⟨items, .inr (.inl held)⟩, objects, short⟩

theorem asObjects_of_objects {items : List Value} (objects : ∀ x ∈ items, x.isBare = false) :
    asObjects items = pure items := by
  induction items with
  | nil => rfl
  | cons x rest ih =>
    rw [List.forall_mem_cons] at objects
    rw [asObjects, List.mapM_cons, ← asObjects, ih objects.2, asObject, objects.1]
    rfl

theorem outcome_at?_objects {s : Source} (gives : w.Gives s e)
    (objects : ∀ x ∈ e.toList, x.isBare = false) (turn : Nat) :
    outcome (s.at? turn) w = (.ok e.toList[turn]?, w) := by
  rw [Elements.getElem?_toList]
  obtain rfl | ⟨j, items, rfl, held, rfl⟩ := gives
  · rw [Source.at?]
    cases part : e.get? turn with
    | none => rfl
    | some x =>
      have known := objects x (List.mem_of_getElem? ((e.getElem?_toList turn).trans part))
      dsimp only
      rw [asObject, known]
      rfl
  · rw [Source.at?, outcome_get_bind, held]
    rfl

/-- Elements that are read turn by turn are all read at once. -/
theorem outcome_iterate_of_gives {s : Source} (sourced : outcome (Source.ofValue v) w = (.ok s, w))
    (gives : w.Gives s e) (objects : ∀ x ∈ e.toList, x.isBare = false)
    (short : e.length < maxLength) : outcome (iterate v) w = (.ok e.toList, w) := by
  rw [iterate, outcome_bind_ok sourced]
  obtain rfl | ⟨j, items, rfl, held, rfl⟩ := gives
  · have counted : ¬ maxLength ≤ e.length := by omega
    simp only [checkLength, counted, if_false, Source.drain, asObjects_of_objects objects]
    rfl
  · simp only [checkLength, Source.drain, outcome_pure_bind, outcome_get_bind, held]
    rfl

theorem settled_bound (w : World) (v : Value) : ∃ r, outcome (Slice.bound v) w = (r, w) := by
  rw [Slice.bound, outcome_get_bind]
  split <;> exact ⟨_, rfl⟩

/-- The bounds of a slice are read without a change. -/
theorem outcome_slicing {next next' : List Nat → M Value}
    (same : ∀ positions, outcome (next positions) w = outcome (next' positions) w) (length : Nat)
    (start stop step : Value) :
    outcome (slicing length start stop step next) w =
      outcome (slicing length start stop step next') w := by
  obtain ⟨a, stepped⟩ := settled_bound w step
  obtain ⟨b, started⟩ := settled_bound w start
  obtain ⟨c, stopped⟩ := settled_bound w stop
  rw [slicing, slicing, outcome_bind, outcome_bind, stepped]
  cases a with
  | error f => rfl
  | ok a =>
    dsimp only
    split_ifs
    · rfl
    · rw [outcome_bind, outcome_bind, started]
      cases b with
      | error f => rfl
      | ok b =>
        dsimp only
        rw [outcome_bind, outcome_bind, stopped]
        cases c with
        | error f => rfl
        | ok c => exact same _

namespace World.Shows

variable (shows_ : w.Shows v e)
include shows_

theorem outcome_lengthOf : outcome (lengthOf v) w = (.ok e.length, w) := by
  rw [outcome_lengthOf_sized (size?_of_sequence shows_.listed), if_pos shows_.short]

theorem outcome_iterate : outcome (iterate v) w = (.ok e.toList, w) := by
  obtain ⟨s, sourced, gives⟩ := source_of_elements shows_.listed
  exact outcome_iterate_of_gives sourced gives shows_.objects shows_.short

theorem behind : w.sequence? (behindViews v) = some e :=
  (w.sequence?_behindViews v).trans shows_.listed

theorem outcome_positionOf? : outcome (do
    return (← positionOf? (behindViews v) x).isSome) w = (someAgrees w.agree x e.toList, w) := by
  obtain ⟨s, sourced, gives⟩ := source_of_elements shows_.behind
  rw [positionOf?, bind_assoc, outcome_get_bind, bind_assoc, outcome_bind_ok sourced, gives.count]
  exact outcome_findElement _ (outcome_at?_objects gives shows_.objects) _ _
    (by rw [e.length_toList]; omega)

theorem outcome_isIn : outcome (isIn v x) w = (someAgrees w.agree x e.toList, w) := by
  have searched := shows_.outcome_positionOf? (x := x)
  obtain ⟨start, stop, step, range, stepped⟩ | ⟨items, held⟩ := shows_.plain
  · obtain rfl : .range start stop step = e :=
      Option.some.inj ((range ▸ rfl : some _ = w.sequence? (behindViews v)).trans shows_.behind)
    have divided (n : Int) (number : w.numeric? x = some (.real (.ratio (.ofInt n))))
        (whole : ∀ m, x = .int m → m = n) (quiet : w.isSignaling x = false) :
        someAgrees w.agree x (Elements.range start stop step).toList =
          .ok (rangeContains start stop step n) := by
      rw [Elements.rangeContains_eq stepped, ← someAgrees_ints number whole quiet, List.map_map]
      rfl
    rw [isIn, outcome_get_bind]
    simp only [range] at searched ⊢
    cases x with
    | int n => exact congrArg (·, w) (divided n rfl (fun m same => by cases same; rfl) rfl).symm
    | bool b => exact congrArg (·, w) (divided _ rfl (fun m same => by cases same) rfl).symm
    | _ => exact searched
  · have iterable : w.isIterable (behindViews v) = true := by
      have listed := shows_.behind
      simp only [isIterable, isSequence, Bool.or_eq_true]
      refine .inl (.inl (.inl (.inl ?_)))
      split <;> simp_all
    rw [isIn, outcome_get_bind]
    dsimp only
    generalize behindViews v = u at *
    obtain ⟨i, c, cell, based, found, ⟨j, rfl⟩ | ⟨k, n, rfl⟩, rfl | rfl | rfl⟩ :=
      ordered_of_baseCell? held <;>
      simpa [text?, bytes?, mapping?, setElements?, isSet, shownScope?, enumClass?, based, found,
        cell, iterable] using searched

/-- Sequences word their refusals of an index differently. -/
theorem outcome_itemOf (index : Value) :
    ((outcome (itemOf v index) w).1.mapError Fault.kindName, (outcome (itemOf v index) w).2) =
      (w.itemAmong e.toList index, w) := by
  have short := shows_.short
  rw [itemOf, outcome_get_bind]
  simp only [shows_.behind, elementOf, outcome_get_bind, itemAmong]
  cases number : w.integer? index with
  | none => rfl
  | some n =>
    dsimp only
    rw [e.length_toList, e.getElem?_toList]
    by_cases refused : e.refuses n = true
    · have outside : (if n < 0 then n + (e.length : Int) else n) < 0 ∨
          e.get? (if n < 0 then n + (e.length : Int) else n).toNat = none := by
        cases e with
        | range => cases refused
        | list items =>
          simp only [Elements.refuses, Elements.length, Bool.or_eq_true, decide_eq_true_eq] at *
          by_cases negative : n < 0
          · exact .inl (by rw [if_pos negative]; omega)
          · refine .inr (List.getElem?_eq_none ?_)
            rw [if_neg negative]
            omega
      rw [if_pos refused]
      rcases outside with low | missing
      · rw [if_pos low]
        rfl
      · rw [missing, ite_self]
        rfl
    · rw [if_neg refused]
      generalize (if n < 0 then n + (e.length : Int) else n) = i
      cases found : (if i < 0 then none else e.get? i.toNat) with
      | none => rfl
      | some x =>
        have part : e.toList[i.toNat]? = some x := by
          rw [e.getElem?_toList]
          split_ifs at found
          exact found
        dsimp only
        rw [asObject, shows_.objects x (List.mem_of_getElem? part)]
        rfl

theorem baseCell?_ne_bindings (scope : Scope Value Value) :
    w.baseCell? (behindViews v) ≠ some (.bindings scope) := by
  intro cell
  obtain ⟨_, _, _, range, -⟩ | ⟨items, held⟩ := shows_.plain
  · rw [range] at cell
    cases cell
  · simp [cell] at held

/-- What was selected from the elements are objects. -/
theorem asObjects_filterMap (positions : List Nat) :
    asObjects (positions.filterMap e.get?) =
      pure (positions.filterMap fun i => e.toList[i]?) := by
  rw [show e.get? = fun i => e.toList[i]? from funext fun i => (e.getElem?_toList i).symm]
  refine asObjects_of_objects fun x selected => ?_
  obtain ⟨i, -, part⟩ := List.mem_filterMap.mp selected
  exact shows_.objects x (List.mem_of_getElem? part)

end World.Shows

/-- A view of what is no deque gives slices of its elements. -/
theorem World.Shows.outcome_sliceOf_view {tag : Nat} {target : Value}
    (shows_ : w.Shows (.view tag target) e)
    (sliceable : ∀ items, w.baseCell? (behindViews target) ≠ some (.deque items))
    (start stop step : Value) :
    outcome (sliceOf (.view tag target) start stop step) w =
      outcome (sliceAmong e.toList start stop step) w := by
  unfold sliceOf
  rw [outcome_get_bind]
  dsimp only
  split
  · rename_i cell
    exact absurd cell (sliceable _)
  · rename_i cell
    exact absurd cell (shows_.baseCell?_ne_bindings _)
  · rename_i elements read _ _
    obtain rfl := Option.some.inj (shows_.behind.symm.trans read)
    rw [sliceAmong, e.length_toList]
    change outcome (slicing e.length start stop step fun positions => do
      newTuple (← asObjects (positions.filterMap e.get?))) w = _
    exact outcome_slicing (fun positions => by rw [shows_.asObjects_filterMap]; rfl) _ _ _ _
  · rename_i read _ _
    cases shows_.behind.symm.trans read

theorem World.Shows.outcome_sliceOf_tuple {i : Nat} {items : List Value}
    (shows_ : w.Shows (.ref i) (.list items)) (cell : w.cell? i = some (.tuple items))
    (start stop step : Value) :
    outcome (sliceOf (.ref i) start stop step) w =
      outcome (sliceAmong items start stop step) w := by
  have based : w.base (.ref i) = .ref i := by simp [base_ref, cell, Cell.base?]
  have held : w.baseCell? (.ref i) = some (.tuple items) := by rw [baseCell?, based]; exact cell
  have read : w.sequence? (.ref i) = some (.list items) := shows_.listed
  unfold sliceOf
  rw [outcome_get_bind]
  simp only [behindViews, held, read]
  change outcome (slicing items.length start stop step (selection (.ref i) (.list items))) w = _
  refine outcome_slicing (fun positions => ?_) _ _ _ _
  rw [selection, outcome_get_bind, held]
  simp only [text?, bytes?, based, cell, shows_.asObjects_filterMap]
  rfl

end

/-! ## A sequence that is wrapped -/

section
variable {w w' : World} {s : Value} {e : Elements}

/-- The sequence of a value is a new view of it. -/
def World.Wraps (w : World) (s : Value) : Prop :=
  outcome (toCollection s) w = (.ok (.view w.nextTag s), w.mark 1)

theorem not_view_of_newTuple {x : M (List Value)} {tag : Nat} {target : Value} :
    outcome (do newTuple (← x)) w ≠ (.ok (.view tag target), w') := by
  intro made
  obtain ⟨items, w₁, -, made⟩ := bind_ok_iff.mp made
  cases items <;> cases made

theorem World.Wraps.viewed (wraps : w.Wraps s) :
    ∃ w₁, outcome (collect s) w = (.ok .viewed, w₁) := by
  have made : outcome (sequenceOfContent (w.unwrap s)) w = (.ok (.view w.nextTag s), w.mark 1) := by
    rw [← wraps, toCollection, outcome_get_bind]
  obtain ⟨c, w₁, gathered, made⟩ := bind_ok_iff.mp made
  cases c with
  | itself =>
    obtain ⟨flat, later⟩ := Prod.mk.inj made
    rw [Except.ok.inj flat] at gathered
    have tags := congrArg World.nextTag ((Prod.mk.inj gathered).2.trans later)
    simp [mark] at tags
  | copied => exact absurd made not_view_of_newTuple
  | items items => exact absurd made not_view_of_newTuple
  | pairs entries => exact absurd made not_view_of_newTuple
  | viewed =>
    obtain ⟨view, -⟩ := Prod.mk.inj made
    obtain ⟨-, same⟩ := Value.view.inj (Except.ok.inj view)
    exact ⟨w₁, same ▸ gathered⟩

/-- Ranges, lists and deques are wrapped. -/
theorem World.Wraps.shape (wraps : w.Wraps s) :
    (∃ start stop step, s = .range start stop step) ∨
      ∃ items, w.baseCell? s = some (.list items) ∨ w.baseCell? s = some (.deque items) := by
  obtain ⟨w₁, viewed⟩ := wraps.viewed
  have unstreamed : w.stream? s = none := by
    cases streamed : w.stream? s with
    | none => rfl
    | some stream =>
      obtain ⟨i, rfl, cell⟩ := cell_of_stream streamed
      rw [outcome_collect_iterator cell] at viewed
      obtain ⟨-, w₂, -, viewed⟩ := bind_ok_iff.mp viewed
      cases viewed
  obtain ⟨r, run, gathers⟩ := World.gathers unstreamed
  obtain rfl : r = .ok .viewed := (Prod.mk.inj (run.symm.trans viewed)).1
  cases gathers with
  | sequence gathered flat unlike read =>
    have untexted : w.isText s = false := by
      cases text : w.isText s with
      | false => rfl
      | true => simp [isGathered_of_text text] at gathered
    unfold sequence? at read
    split at read
    · exact absurd rfl (flat _ _)
    · exact .inl ⟨_, _, _, rfl⟩
    · cases gathered
    · cases untexted
    · split at read
      · rename_i based
        simp [isText, text?, based] at untexted
      · rename_i i based
        refine .inr ?_
        split at read
        · rename_i items cell
          exact ⟨items, .inl (by rw [baseCell?, based]; exact cell)⟩
        · rename_i cell
          simp [isArray, baseCell?, based, cell] at unlike
        · rename_i items cell
          exact ⟨items, .inr (by rw [baseCell?, based]; exact cell)⟩
        · rename_i cell
          simp [isArray, baseCell?, based, cell] at unlike
        · rename_i cell
          simp [isText, text?, bytes?, based, cell] at untexted
        · cases read
      · cases read

theorem World.sequence?_of_cell {v : Value} {items : List Value}
    (held : w.baseCell? v = some (.list items) ∨ w.baseCell? v = some (.tuple items) ∨
      w.baseCell? v = some (.deque items)) : w.sequence? v = some (.list items) := by
  obtain ⟨i, c, -, based, found, ⟨j, rfl⟩ | ⟨k, n, rfl⟩, rfl | rfl | rfl⟩ :=
    ordered_of_baseCell? held <;>
    simp [sequence?, based, found]

/-- A sequence of objects that is wrapped. A list holds no more elements than can be counted, and no
range goes by steps of zero. -/
structure World.Wrapped (w : World) (s : Value) (e : Elements) : Prop where
  wraps : w.Wraps s
  listed : w.sequence? s = some e
  objects : ∀ x ∈ e.toList, x.isBare = false
  stored : ∀ items, e = .list items → items.length < maxLength
  stepped : ∀ start stop, e ≠ .range start stop 0

/-- What a sequence is built on stays where another tuple comes to be. -/
theorem World.Grows.baseCell?_of_some (grown : w.Grows w') {v : Value} {c : Cell}
    (held : w.baseCell? v = some c) : w'.baseCell? v = some c := by
  obtain ⟨j, based, cell⟩ := base_of_baseCell? held
  have later : w'.base v = .ref j := by
    obtain ⟨i, rfl⟩ | ⟨k, n, rfl⟩ := ref_or_member_of_base based
    · rw [base_ref] at based ⊢
      cases there : w.cell? i with
      | some d => rwa [grown.cells i d there, ← there]
      | none =>
        obtain rfl : i = j := by simpa [there] using based
        cases there.symm.trans cell
    · rw [World.base, grown.class?_eq]
      exact based
  unfold World.baseCell?
  rw [later]
  exact grown.cells j c cell

namespace World.Wrapped

variable (wrapped : w.Wrapped s e)
include wrapped

theorem flat (tag : Nat) (target : Value) : s ≠ .view tag target := by
  rintro rfl
  obtain ⟨_, _, _, range⟩ | ⟨items, held | held⟩ := wrapped.wraps.shape
  · cases range
  · cases held
  · cases held

theorem behindViews_eq : behindViews s = s := by
  have flat := wrapped.flat
  cases s with
  | view tag target => exact absurd rfl (flat tag target)
  | _ => rfl

/-- The sequence shows the same elements as long as nothing but cells are added. -/
theorem shows_later (short : e.length < maxLength) (grown : w.Grows w') : w'.Shows s e := by
  have listed := wrapped.listed
  obtain ⟨start, stop, step, rfl⟩ | ⟨items, held⟩ := wrapped.wraps.shape
  · obtain rfl : .range start stop step = e := Option.some.inj listed
    refine ⟨rfl, .inl ⟨start, stop, step, rfl, ?_⟩, wrapped.objects, short⟩
    rintro rfl
    exact wrapped.stepped start stop rfl
  · have now : w.baseCell? s = some (.list items) ∨ w.baseCell? s = some (.tuple items) ∨
        w.baseCell? s = some (.deque items) := held.imp_right .inr
    have later := now.imp grown.baseCell?_of_some
      (Or.imp grown.baseCell?_of_some grown.baseCell?_of_some)
    obtain rfl : .list items = e := Option.some.inj ((sequence?_of_cell now).symm.trans listed)
    exact ⟨sequence?_of_cell later, .inr ⟨items, wrapped.behindViews_eq.symm ▸ later⟩,
      wrapped.objects, short⟩

theorem outcome_tuple : outcome (call (.type (.standard .tuple)) [s]) w =
    outcome (do newTuple (← iterate s)) w := by
  change outcome (Construction.ofStandard (.within 499) .tuple [s]) w = _
  rw [Construction.ofStandard, outcome_get_bind]
  obtain ⟨_, _, _, rfl⟩ | ⟨items, held | held⟩ := wrapped.wraps.shape
  · rfl
  · simp only [held]
  · simp only [held]

/-- What is too long to be a tuple is a range. -/
theorem outcome_tuple_long (long : maxLength ≤ e.length) :
    outcome (call (.type (.standard .tuple)) [s]) w = (.error .lengthTooLarge, w) := by
  obtain ⟨start, stop, step, rfl⟩ | ⟨items, held⟩ := wrapped.wraps.shape
  · obtain rfl : .range start stop step = e := Option.some.inj wrapped.listed
    have sourced : outcome (Source.ofValue (.range start stop step)) w =
        (.ok (.fixed (.range start stop step)), w) := rfl
    rw [wrapped.outcome_tuple, outcome_bind, outcome_iterate_fixed sourced, if_pos long]
  · have listed := sequence?_of_cell (held.imp_right .inr)
    have short := wrapped.stored items (Option.some.inj (wrapped.listed.symm.trans listed))
    obtain rfl := Option.some.inj (wrapped.listed.symm.trans listed)
    rw [Elements.length] at long
    omega

/-- The elements are made into a tuple. -/
theorem outcome_tuple_short (blank : w.cell? 0 = some (.tuple [])) (short : e.length < maxLength) :
    ∃ i w', outcome (call (.type (.standard .tuple)) [s]) w = (.ok (.ref i), w') ∧
      w'.cell? i = some (.tuple e.toList) ∧ w.Adds w' := by
  obtain ⟨i, w', made, cell, adds⟩ := outcome_newTuple blank e.toList
  refine ⟨i, w', ?_, cell, adds⟩
  rw [wrapped.outcome_tuple,
    outcome_bind_ok (wrapped.shows_later short (.refl w)).outcome_iterate, made]

end World.Wrapped

/-- A view answers as a tuple of what is behind it by then, whenever both are asked: they have the
same length, the same elements in the same order, the same answer to whether a value is in them, and
the same element at each index, or a failure of the same kind. A sequence that is too long for a
tuple has no length. Slices are equal as well, but for deques: their views give no slice. -/
theorem view_as_tuple (blank : w.cell? 0 = some (.tuple [])) (wrapped : w.Wrapped s e) :
    (maxLength ≤ e.length →
      outcome (call (.type (.standard .tuple)) [s]) w = (.error .lengthTooLarge, w) ∧
      ∀ tag, outcome (lengthOf (.view tag s)) w = (.error .lengthTooLarge, w)) ∧
    (e.length < maxLength → ∃ i w', w.Adds w' ∧
      outcome (call (.type (.standard .tuple)) [s]) w = (.ok (.ref i), w') ∧
      w'.cell? i = some (.tuple e.toList) ∧ ∀ tag,
      outcome (lengthOf (.view tag s)) w' = outcome (lengthOf (.ref i)) w' ∧
      outcome (iterate (.view tag s)) w' = outcome (iterate (.ref i)) w' ∧
      (∀ x, outcome (isIn (.view tag s) x) w' = outcome (isIn (.ref i) x) w') ∧
      (∀ index,
        (outcome (itemOf (.view tag s) index) w').1.mapError Fault.kindName =
          (outcome (itemOf (.ref i) index) w').1.mapError Fault.kindName ∧
        (outcome (itemOf (.view tag s) index) w').2 = (outcome (itemOf (.ref i) index) w').2) ∧
      ∀ start stop step,
        ((∀ items, w.baseCell? s ≠ some (.deque items)) →
          outcome (sliceOf (.view tag s) start stop step) w' =
            outcome (sliceOf (.ref i) start stop step) w') ∧
        ∀ items, w.baseCell? s = some (.deque items) →
          outcome (sliceOf (.view tag s) start stop step) w' = (.error .notSliceable, w')) := by
  refine ⟨fun long => ⟨wrapped.outcome_tuple_long long, fun tag => ?_⟩, fun short => ?_⟩
  · have sized : w.size? (.view tag s) = some e.length :=
      World.size?_of_sequence wrapped.listed
    rw [outcome_lengthOf_sized sized, if_neg (by omega)]
  obtain ⟨i, w', made, cell, adds⟩ := wrapped.outcome_tuple_short blank short
  have grown : w.Grows w' := by
    obtain rfl | ⟨c, rfl⟩ := adds
    · exact .refl _
    · exact .withCell _ c
  refine ⟨i, w', adds, made, cell, fun tag => ?_⟩
  have view := (wrapped.shows_later short grown).view tag
  have tuple := World.shows_tuple cell wrapped.objects (by rwa [e.length_toList])
  have indexed (index : Value) :=
    Prod.mk.inj ((view.outcome_itemOf index).trans (tuple.outcome_itemOf index).symm)
  refine ⟨?_, ?_, fun x => ?_, indexed, fun start stop step =>
    ⟨fun sliceable => ?_, fun items held => ?_⟩⟩
  · rw [view.outcome_lengthOf, tuple.outcome_lengthOf, Elements.length, e.length_toList]
  · rw [view.outcome_iterate, tuple.outcome_iterate, Elements.toList]
  · rw [view.outcome_isIn, tuple.outcome_isIn, Elements.toList]
  · rw [view.outcome_sliceOf_view, tuple.outcome_sliceOf_tuple cell]
    intro items
    rw [wrapped.behindViews_eq]
    obtain ⟨_, _, _, rfl⟩ | ⟨listed, held | held⟩ := wrapped.wraps.shape
    · exact fun cell => by cases cell
    · simp [grown.baseCell?_of_some held]
    · exact absurd held (sliceable listed)
  · have later := grown.baseCell?_of_some held
    unfold sliceOf
    rw [outcome_get_bind]
    simp only [World.behindViews, wrapped.behindViews_eq, later]
    rfl

/-- A list and a deque of the same numbers. -/
def countdown : World where
  cells := #[.tuple [], .list [.int 3, .int 2, .int 1], .deque [.int 3, .int 2, .int 1]]

/-- The view of the list gives the slice of the tuple, and that of the deque none. -/
theorem view_as_tuple_countdown :
    (∃ i w', outcome (call (.type (.standard .tuple)) [.ref 1]) countdown = (.ok (.ref i), w') ∧
      outcome (iterate (.view 7 (.ref 1))) w' = outcome (iterate (.ref i)) w' ∧
      outcome (sliceOf (.view 7 (.ref 1)) .null .null (.int (-2))) w' =
        outcome (sliceOf (.ref i) .null .null (.int (-2))) w') ∧
    ∃ i w', outcome (call (.type (.standard .tuple)) [.ref 2]) countdown = (.ok (.ref i), w') ∧
      outcome (sliceOf (.view 7 (.ref 2)) .null .null (.int (-2))) w' =
        (.error .notSliceable, w') := by
  have objects : ∀ x ∈ [Value.int 3, .int 2, .int 1], x.isBare = false := by decide
  have short : [Value.int 3, .int 2, .int 1].length < maxLength := by decide
  have stored : ∀ items, Elements.list [Value.int 3, .int 2, .int 1] = .list items →
      items.length < maxLength := fun items same => Elements.list.inj same ▸ short
  have list : countdown.Wrapped (.ref 1) (.list [.int 3, .int 2, .int 1]) :=
    ⟨rfl, rfl, objects, stored, nofun⟩
  have deque : countdown.Wrapped (.ref 2) (.list [.int 3, .int 2, .int 1]) :=
    ⟨rfl, rfl, objects, stored, nofun⟩
  obtain ⟨i, w', -, made, -, agrees⟩ := (view_as_tuple rfl list).2 short
  obtain ⟨j, w'', -, made', -, agrees'⟩ := (view_as_tuple rfl deque).2 short
  obtain ⟨-, iterated, -, -, sliced⟩ := agrees 7
  obtain ⟨-, -, -, -, unsliced⟩ := agrees' 7
  exact ⟨⟨i, w', made, iterated, (sliced .null .null (.int (-2))).1 nofun⟩, j, w'', made',
    (unsliced .null .null (.int (-2))).2 _ rfl⟩

end

end TemplateEngine
