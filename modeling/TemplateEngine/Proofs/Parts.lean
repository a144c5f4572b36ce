import TemplateEngine.Proofs.Gathering
import TemplateEngine.Proofs.Growth
import Mathlib.Algebra.BigOperators.Group.Finset.Basic
import Mathlib.Logic.Relation
/-!
Sequences and optionals inside each other. A finite tree of them goes through each cell at most once
on its way down, so that the bound on the nesting of values is enough for it.
-/
namespace TemplateEngine

/-- How deep sequences and optionals are nested in a value, as far as they are in no cell. -/
def Value.weight : Value → Nat
  | .optional _ v | .view _ v => v.weight + 1
  | .range .. => 2
  | _ => 1

theorem Value.weight_pos (v : Value) : 0 < v.weight := by
  cases v <;> simp [weight]

theorem Value.weight_le (v : Value) : v.weight ≤ v.depth + 1 := by
  induction v <;> simp_all [weight, depth]

/-- What the elements of a sequence in a cell are, or what an optional in it holds. -/
def Cell.parts? : Cell → Option Elements
  | .list items | .tuple items | .deque items | .array _ items => some (.list items)
  | .object _ _ (some (.optional _ content)) => some (.list [content])
  | .bytearray b => some (.list (byteItems b))
  | _ => none

theorem Elements.weight_of_range {start stop step : Int} {i : Nat} {x : Value}
    (part : (Elements.range start stop step).get? i = some x) : x.weight = 1 := by
  obtain ⟨-, rfl⟩ := by simpa [get?] using part
  rfl

theorem le_foldl_max (l : List Nat) (n : Nat) :
    n ≤ l.foldl max n ∧ ∀ m ∈ l, m ≤ l.foldl max n := by
  induction l generalizing n with
  | nil => simp
  | cons m rest ih =>
    obtain ⟨start, others⟩ := ih (max n m)
    refine ⟨(le_max_left n m).trans start, List.forall_mem_cons.mpr ⟨?_, others⟩⟩
    exact (le_max_right n m).trans start

theorem Cell.depth_of_mem {c : Cell} {x : Value} (held : x ∈ c.contents) : x.depth < c.depth :=
  Nat.lt_succ_of_le ((le_foldl_max _ 0).2 _ (List.mem_map_of_mem held))

theorem Cell.weight_of_parts {c : Cell} {e : Elements} {i : Nat} {x : Value}
    (made : c.parts? = some e) (part : e.get? i = some x) : x.weight ≤ c.depth := by
  have shallow : ∀ y ∈ c.contents, y.weight ≤ c.depth := fun y held =>
    y.weight_le.trans (c.depth_of_mem held)
  unfold parts? at made
  split at made
  case h_5 =>
    next cls attributes tag content =>
    obtain rfl := Option.some.inj made
    obtain rfl : content = x := by cases i <;> simp_all [Elements.get?]
    have held := Cell.depth_of_mem (c := .object cls attributes (some (.optional tag content)))
      (x := .optional tag content) (by simp [contents])
    exact content.weight_le.trans held.le
  case h_6 =>
    obtain rfl := Option.some.inj made
    obtain ⟨n, -, rfl⟩ := List.mem_map.mp (List.mem_of_getElem? part)
    exact Nat.succ_le_succ (Nat.zero_le _)
  case h_7 => cases made
  all_goals
    obtain rfl := Option.some.inj made
    exact shallow x (List.mem_of_getElem? part)

namespace World

variable {w w' : World} {v x : Value} {e : Elements} {i j : Nat}

/-- What a list, a tuple, a deque, an array, a range or a view is made of, and what an optional
holds. -/
def parts? (w : World) : Value → Option Elements
  | .view _ target => w.sequence? target
  | .range start stop step => some (.range start stop step)
  | .member .. => none
  | v =>
    match w.content? v, w.baseCell? v with
    | some content, _ => some (.list [content])
    | none, some (.list items) | none, some (.tuple items) | none, some (.deque items)
    | none, some (.array _ items) => some (.list items)
    | none, _ => none

/-- The cell in which a value keeps its parts. -/
def holder? (w : World) : Value → Option Nat
  | .view _ target => w.holder? target
  | v =>
    match v, w.base v with
    | _, .ref j => some j
    | .ref i, .optional .. => some i
    | _, _ => none

theorem holder_of_base (based : w.base v = .ref j) : w.holder? v = some j := by
  obtain ⟨i, rfl⟩ | ⟨e, k, rfl⟩ := ref_or_member_of_base based <;> simp [holder?, based]

theorem holder_of_text {s : String} (based : w.base v = .text s) : w.holder? v = none := by
  cases v <;> simp_all [holder?, base]

/-- The elements of a sequence are in the cell that holds it, or they are numbers and characters. -/
theorem kept_of_sequence (listed : w.sequence? v = some e) :
    (∃ j c, w.holder? v = some j ∧ w.cell? j = some c ∧ c.parts? = some e) ∨
      w.holder? v = none ∧ ∀ i x, e.get? i = some x → x.weight = 1 := by
  have flat : ∀ items : List Value, (∀ x ∈ items, x.weight = 1) →
      ∀ i x, (Elements.list items).get? i = some x → x.weight = 1 :=
    fun items single i x part => single x (List.mem_of_getElem? part)
  fun_induction World.sequence? w v with
  | case1 tag target ih => exact ih listed
  | case2 start stop step =>
    obtain rfl := Option.some.inj listed
    exact .inr ⟨rfl, fun i x => Elements.weight_of_range⟩
  | case3 t =>
    obtain rfl := Option.some.inj listed
    exact .inr ⟨rfl, flat _ (by simp [Value.weight])⟩
  | case4 b =>
    obtain rfl := Option.some.inj listed
    exact .inr ⟨rfl, flat _ (by simp [byteItems, Value.weight])⟩
  | case5 v _ _ _ _ s based =>
    obtain rfl := Option.some.inj listed
    exact .inr ⟨holder_of_text based, flat _ (by simp [textItems, Value.weight])⟩
  | case6 v _ _ _ _ i based items held | case7 v _ _ _ _ i based items held
  | case8 v _ _ _ _ i based items held | case9 v _ _ _ _ i based code items held
  | case10 v _ _ _ _ i based items held =>
    exact .inl ⟨i, _, holder_of_base based, held, listed⟩
  | case11 | case12 => cases listed

/-- What holds something is an optional, an instance of a class of optionals, or a member of an
enumeration. -/
theorem shape_of_content {content : Value} (held : w.content? v = some content) :
    (∃ tag, v = .optional tag content) ∨
      (∃ i cls attributes tag, v = .ref i ∧
        w.cell? i = some (.object cls attributes (some (.optional tag content)))) ∨
      ∃ cls k, v = .member cls k := by
  unfold content? at held
  split at held
  · next tag inside based =>
    obtain rfl := Option.some.inj held
    cases v with
    | optional => exact .inl ⟨_, based⟩
    | ref i =>
      cases found : w.cell? i with
      | none => simp [base, found] at based
      | some c =>
        cases c with
        | object cls attributes b =>
          cases b with
          | none => simp [base, found] at based
          | some b =>
            obtain rfl : b = .optional tag inside := by simpa [base, found] using based
            exact .inr (.inl ⟨i, cls, attributes, tag, rfl, found⟩)
        | _ => simp [base, found] at based
    | member cls k => exact .inr (.inr ⟨cls, k, rfl⟩)
    | _ => cases based
  · cases held

/-- An optional has what it holds as its only part. -/
theorem parts_of_content {content : Value} (held : w.content? v = some content)
    (made : w.parts? v = some e) : e = .list [content] := by
  obtain ⟨tag, rfl⟩ | ⟨i, cls, attributes, tag, rfl, found⟩ | ⟨cls, k, rfl⟩ :=
    shape_of_content held
  · exact (Option.some.inj made).symm
  · simpa [parts?, held, eq_comm] using made
  · cases made

/-- What a value is made of is in the cell that holds it, or less deep than the value. -/
theorem kept_of_parts (made : w.parts? v = some e) :
    (∃ j c, w.holder? v = some j ∧ w.cell? j = some c ∧ c.parts? = some e) ∨
      w.holder? v = none ∧ ∀ i x, e.get? i = some x → x.weight < v.weight := by
  unfold parts? at made
  split at made
  · next tag target =>
    obtain kept | ⟨loose, flat⟩ := kept_of_sequence made
    · exact .inl kept
    · refine .inr ⟨loose, fun i x part => ?_⟩
      rw [flat i x part]
      exact Nat.succ_lt_succ target.weight_pos
  · next start stop step =>
    obtain rfl := Option.some.inj made
    refine .inr ⟨rfl, fun i x part => ?_⟩
    rw [Elements.weight_of_range part]
    exact Nat.lt_succ_self 1
  · cases made
  · next v _ _ single =>
    split at made
    · next _ content held =>
      obtain rfl := Option.some.inj made
      obtain ⟨tag, rfl⟩ | ⟨i, cls, attributes, tag, rfl, found⟩ | ⟨cls, k, rfl⟩ :=
        shape_of_content held
      · refine .inr ⟨rfl, fun i x part => ?_⟩
        obtain rfl : content = x := by cases i <;> simp_all [Elements.get?]
        exact Nat.lt_succ_self _
      · exact .inl ⟨i, _, by simp [holder?, base, found], found, rfl⟩
      · exact absurd rfl (single _ _)
    case h_6 => cases made
    all_goals
      next found =>
      obtain rfl := Option.some.inj made
      obtain ⟨i, based, held⟩ := base_of_baseCell? found
      exact .inl ⟨i, _, holder_of_base based, held, rfl⟩

/-- A cell holds a sequence of these elements. -/
def Lists (w : World) (j : Nat) (items : List Value) : Prop :=
  w.cell? j = some (.list items) ∨ w.cell? j = some (.tuple items) ∨
    w.cell? j = some (.deque items) ∨ ∃ code, w.cell? j = some (.array code items)

/-- What has parts and is no optional is a view, a range, or a reference to a sequence. -/
theorem shape_of_parts (made : w.parts? v = some e) (single : w.content? v = none) :
    (∃ tag target, v = .view tag target ∧ w.sequence? target = some e) ∨
      (∃ start stop step, v = .range start stop step ∧ e = .range start stop step) ∨
      ∃ i j items, v = .ref i ∧ w.base (.ref i) = .ref j ∧ w.Lists j items ∧ e = .list items := by
  cases v with
  | view tag target => exact .inl ⟨tag, target, rfl, made⟩
  | range start stop step => exact .inr (.inl ⟨_, _, _, rfl, (Option.some.inj made).symm⟩)
  | ref i =>
    simp only [parts?, single] at made
    split at made
    case h_1 => contradiction
    case h_6 => cases made
    all_goals
      next found =>
      obtain rfl := Option.some.inj made
      obtain ⟨j, based, held⟩ := base_of_baseCell? found
      refine .inr (.inr ⟨i, j, _, rfl, based, ?_, rfl⟩)
      simp [Lists, held]
  | optional => cases single
  | member => cases made
  | _ => simp [parts?, content?, baseCell?, base] at made

/-! ## Parts in later worlds -/

theorem Grows.content? (grown : w.Grows w') (held : w.Holds v) : w'.content? v = w.content? v := by
  simp only [World.content?, grown.base held]

theorem Grows.parts? (grown : w.Grows w') (whole : w.Whole) (held : w.Holds v) :
    w'.parts? v = w.parts? v := by
  cases v with
  | view tag target => exact grown.sequence? whole (v := target) held
  | range | member => rfl
  | _ => simp only [World.parts?, grown.content? held, grown.baseCell? whole held]

theorem Sealed.parts? (whole : w.Whole) (held : w.Holds v) : w.Holds (w.parts? v) := by
  intro e made
  unfold World.parts? at made
  split at made
  · next tag target => exact whole.sequence? (v := target) held e made
  · obtain rfl := Option.some.inj made
    trivial
  · cases made
  · split at made
    · next content inside =>
      obtain rfl := Option.some.inj made
      exact List.forall_mem_singleton.mpr (whole.content? held _ inside)
    case h_6 => cases made
    all_goals
      next found =>
      obtain rfl := Option.some.inj made
      exact whole.contents held found

/-! ## The way down a tree -/

/-- A value is one of the parts of another one. -/
def Inside (w : World) (x v : Value) : Prop := ∃ e i, w.parts? v = some e ∧ e.get? i = some x

/-- What is below a value refers to no missing cell either. -/
theorem Inside.held (whole : w.Whole) (held : w.Holds v) (part : w.Inside x v) : w.Holds x := by
  obtain ⟨e, i, made, member⟩ := part
  exact within_get? (whole.parts? held e made) i x member

/-- On the way down from a value there is one that keeps its parts in the cell. -/
def Reaches (w : World) (v : Value) (j : Nat) : Prop :=
  ∃ y e, Relation.ReflTransGen w.Inside y v ∧ w.parts? y = some e ∧ w.holder? y = some j

theorem Reaches.of_part (part : w.Inside x v) (reached : w.Reaches x j) : w.Reaches v j := by
  obtain ⟨y, e, down, made, kept⟩ := reached
  exact ⟨y, e, down.tail part, made, kept⟩

theorem Reaches.lt_size (reached : w.Reaches v j) : j < w.cells.size := by
  obtain ⟨y, e, -, made, kept⟩ := reached
  obtain ⟨i, c, kept', found, -⟩ | ⟨loose, -⟩ := kept_of_parts made
  · obtain rfl := Option.some.inj (kept.symm.trans kept')
    exact lt_size_of_cell? found
  · cases loose.symm.trans kept

/-- Nothing is below itself in a finite tree. -/
theorem not_below_self (finite : Acc w.Inside v) : ¬ Relation.TransGen w.Inside v v := by
  have below := finite.transGen
  clear finite
  induction below with
  | intro v _ ih => exact fun below => ih v below below

/-- The cell of a value is not met again below its parts. -/
theorem not_reaches_again (finite : Acc w.Inside x) (part : w.Inside x v)
    (kept : w.holder? v = some j) : ¬ w.Reaches x j := by
  rintro ⟨y, e', down, made', kept'⟩
  obtain ⟨e, i, made, member⟩ := part
  obtain ⟨k, c, same, found, inCell⟩ | ⟨loose, -⟩ := kept_of_parts made
  · obtain rfl := Option.some.inj (kept.symm.trans same)
    obtain ⟨k', c', same', found', inCell'⟩ | ⟨loose, -⟩ := kept_of_parts made'
    · obtain rfl := Option.some.inj (kept'.symm.trans same')
      obtain rfl := Option.some.inj (found.symm.trans found')
      obtain rfl := Option.some.inj (inCell.symm.trans inCell')
      exact not_below_self finite (.head' ⟨e, i, made', member⟩ down)
    · cases loose.symm.trans kept'
  · cases loose.symm.trans kept

/-! ## The room that a tree needs -/

/-- What a cell adds to the bound on the nesting. -/
def bulkOf (w : World) (i : Nat) : Nat := (w.cell? i).elim 0 fun c => c.depth + 1

theorem bulk_eq_sum (w : World) : w.bulk = 2 + ∑ i ∈ Finset.range w.cells.size, w.bulkOf i := by
  have counted : ∀ (cells : List Cell) (n : Nat), cells.foldl (fun n c => n + c.depth + 1) n =
      n + ∑ i ∈ Finset.range cells.length, (cells[i]?).elim 0 fun c => c.depth + 1 := by
    intro cells
    induction cells with
    | nil => exact fun n => rfl
    | cons c rest ih =>
      intro n
      rw [List.foldl_cons, ih, List.length_cons, Finset.sum_range_succ']
      simp only [List.getElem?_cons_succ, List.getElem?_cons_zero, Option.elim_some]
      omega
  rw [bulk, ← Array.foldl_toList, counted, Array.length_toList]
  simp only [bulkOf, cell?, Array.getElem?_toList]

/-- A value and what is below it have room in a nesting: the cells that are still to be met take up
no more than that. -/
def Fits (w : World) (v : Value) (n : Nat) : Prop :=
  ∃ free : Finset Nat, (∀ j, w.Reaches v j → j ∈ free) ∧ ∑ i ∈ free, w.bulkOf i + v.weight ≤ n

theorem Fits.pos {n : Nat} (fits : w.Fits v n) : 0 < n := by
  obtain ⟨free, -, room⟩ := fits
  have := v.weight_pos
  omega

theorem fits_nesting (w : World) (v : Value) : w.Fits v (w.nesting v) := by
  refine ⟨Finset.range w.cells.size, fun j reached => Finset.mem_range.mpr reached.lt_size, ?_⟩
  have := v.weight_le
  rw [nesting, bulk_eq_sum]
  omega

/-- The parts of a value take up less room than the value. -/
theorem Fits.of_part {n : Nat} (fits : w.Fits v (n + 1)) (finite : Acc w.Inside x)
    (part : w.Inside x v) : w.Fits x n := by
  obtain ⟨free, known, room⟩ := fits
  obtain ⟨e, i, made, member⟩ := id part
  obtain ⟨j, c, kept, found, inCell⟩ | ⟨-, flat⟩ := kept_of_parts made
  · have met : j ∈ free := known j ⟨v, e, .refl, made, kept⟩
    refine ⟨free.erase j,
      fun k reached => Finset.mem_erase.mpr ⟨?_, known k (reached.of_part part)⟩, ?_⟩
    · rintro rfl
      exact not_reaches_again finite part kept reached
    · have split := Finset.add_sum_erase free w.bulkOf met
      have light := Cell.weight_of_parts inCell member
      have added : w.bulkOf j = c.depth + 1 := by rw [bulkOf, found]; rfl
      omega
  · refine ⟨free, fun k reached => known k (reached.of_part part), ?_⟩
    have := flat i x member
    omega

end World

end TemplateEngine
