import TemplateEngine.Proofs.Failures
import TemplateEngine.Proofs.Gathering
/-!
The element at an index against the sequence of a value. The sequence is not made to look for the
element, but what is found is what the sequence has there.
-/
namespace TemplateEngine

namespace World

variable {w w₁ w₂ : World} {v x y z : Value} {i : Int}

/-- Two results that were reached from one world, with the worlds that they were reached in: the same
failure, the same value, or a number or a pair that is new in both. -/
inductive Like (w w₁ w₂ : World) : Except Fault Value → Except Fault Value → Prop
  | failed {f : Fault} : Like w w₁ w₂ (.error f) (.error f)
  | value {v : Value} : Like w w₁ w₂ (.ok v) (.ok v)
  | number {x : Value} {m n : Nat} (bare : x.isBare = true) (first : w.nextTag ≤ m)
    (second : w.nextTag ≤ n) : Like w w₁ w₂ (.ok (x.marked m)) (.ok (x.marked n))
  | pair {i j : Nat} {key x : Value} (first : w.cells.size ≤ i) (second : w.cells.size ≤ j)
    (held : w₁.cell? i = some (.tuple [key, x])) (also : w₂.cell? j = some (.tuple [key, x])) :
    Like w w₁ w₂ (.ok (.ref i)) (.ok (.ref j))

/-- Two runs from one world end alike: with like results, and with the same in all cells of that
world. -/
structure Twins (w : World) (r s : Except Fault Value × World) : Prop where
  result : w.Like r.2 s.2 r.1 s.1
  cells : ∀ i < w.cells.size, r.2.cell? i = s.2.cell? i

theorem Like.refl (w w₁ w₂ : World) (r : Except Fault Value) : w.Like w₁ w₂ r r := by
  cases r with
  | error f => exact .failed
  | ok v => exact .value

theorem Twins.refl (w : World) (r : Except Fault Value × World) : w.Twins r r :=
  ⟨.refl _ _ _ _, fun _ _ => rfl⟩

/-- A number that is marked again has its last mark only. -/
theorem marked_marked (x : Value) (m n : Nat) : (x.marked m).marked n = x.marked n := by
  have real : ∀ y : Binary64, (y.marked m).marked n = y.marked n := fun y => by cases y <;> rfl
  have decimal : ∀ d : Decimal, (d.marked m).marked n = d.marked n := fun d => by cases d <;> rfl
  cases x <;> simp [Value.marked, real, decimal]

theorem Marks.again (first : w.Marks x y) (later : w.nextTag ≤ w₁.nextTag)
    (second : w₁.Marks y z) : w.Marks x z := by
  cases first with
  | known marked => exact second.mono later
  | bare bare unused =>
    cases second with
    | known marked => exact .bare bare unused
    | bare again unused' =>
      rw [marked_marked]
      exact .bare bare (later.trans unused')

/-- Two marks of one value are alike. -/
theorem Marks.like (first : w.Marks x y) (second : w.Marks x z) : w.Like w₁ w₂ (.ok y) (.ok z) := by
  cases first with
  | known marked =>
    cases second with
    | known => exact .value
    | bare bare => simp [marked] at bare
  | bare bare unused =>
    cases second with
    | known marked => simp [bare] at marked
    | bare _ unused' => exact .number bare unused unused'

theorem sequence?_behindViews (w : World) (v : Value) :
    w.sequence? (behindViews v) = w.sequence? v := by
  induction v with
  | view tag target ih => exact ih
  | _ => rfl

theorem outcome_itemOf_sequence {elements : Elements} (read : w.sequence? v = some elements)
    (positive : 0 ≤ i) (small : i < maxLength) (found : elements.get? i.toNat = some x) :
    outcome (itemOf v (.int i)) w = outcome (asObject x) w := by
  have behind : w.sequence? (behindViews v) = some elements := (w.sequence?_behindViews v).trans read
  have accepted : elements.refuses i = false := by
    cases elements with
    | list => simp [Elements.refuses]; omega
    | range => rfl
  have index : w.integer? (.int i) = some i := rfl
  have unsigned : ¬ i < 0 := by omega
  simp only [itemOf, outcome_get_bind, behind, elementOf, index, accepted, Bool.false_eq_true,
    if_false, unsigned, found]

/-- The element of a sequence at an index, unless there are more elements than a length can tell. -/
theorem outcome_elementWithin_sequence {elements : Elements} (read : w.sequence? v = some elements) :
    outcome (elementWithin v i) w =
      if 0 ≤ i ∧ maxLength ≤ elements.length then (.error .lengthTooLarge, w)
      else outcome (asObject (elementAt elements i)) w := by
  have nothing : outcome (asObject .null) w = (.ok .null, w) := rfl
  by_cases negative : i < 0
  · rw [elementWithin, if_pos negative, if_neg (by omega), elementAt, if_pos negative, nothing]
    rfl
  rw [elementWithin, if_neg negative, elementAt, if_neg negative, outcome_bind,
    outcome_lengthOf_sized (size?_of_sequence read)]
  by_cases long : maxLength ≤ elements.length
  · rw [if_neg (by omega), if_pos ⟨by omega, long⟩]
  rw [if_pos (by omega), if_neg (fun h => long h.2)]
  dsimp only
  by_cases inside : i < (elements.length : Int)
  · obtain ⟨x, found⟩ : ∃ x, elements.get? i.toNat = some x := by
      rw [← elements.getElem?_toList]
      exact ⟨_, List.getElem?_eq_getElem (by rw [elements.length_toList]; omega)⟩
    rw [if_pos inside, outcome_itemOf_sequence read (by omega) (by omega) found, found,
      Option.getD_some]
  · have missing : elements.get? i.toNat = none := by
      rw [← elements.getElem?_toList]
      exact List.getElem?_eq_none (by rw [elements.length_toList]; omega)
    rw [if_neg inside, missing, Option.getD_none, nothing]
    rfl

theorem forall₂_getElem? {α β : Type} {R : α → β → Prop} {xs : List α} {ys : List β}
    (all : List.Forall₂ R xs ys) (n : Nat) : (xs[n]? = none ∧ ys[n]? = none) ∨
      ∃ x y, xs[n]? = some x ∧ ys[n]? = some y ∧ R x y := by
  induction all generalizing n with
  | nil => exact .inl ⟨rfl, rfl⟩
  | cons first rest ih =>
    cases n with
    | zero => exact .inr ⟨_, _, rfl, rfl, first⟩
    | succ n => exact ih n

theorem marks_elementAt {items ys : List Value} (all : List.Forall₂ w.Marks items ys) (i : Int) :
    w.Marks (elementAt (.list items) i) (elementAt (.list ys) i) := by
  unfold elementAt
  split
  · exact .known rfl
  · obtain ⟨missing, also⟩ | ⟨x, y, found, also, marks⟩ := forall₂_getElem? all i.toNat
    · simpa [Elements.get?, missing, also] using Marks.known rfl
    · simpa [Elements.get?, found, also] using marks

end World

open World

section Twins
variable {w w' : World} {u : Value} {i : Int}

/-- Elements that were gathered, and the tuple that is made of them. -/
theorem twins_of_tuple (empty : w'.cell? 0 = some (.tuple [])) {items : List Value}
    (short : items.length < maxLength) (tags : w'.nextTag = w.nextTag)
    (size : w'.cells.size = w.cells.size)
    (sequence : outcome (sequenceOfContent u) w = outcome (do newTuple (← asObjects items)) w') :
    w.Twins (outcome (asObject (elementAt (.list items) i)) w')
      (outcome (do elementWithin (← sequenceOfContent u) i) w) := by
  obtain ⟨ys, n, made, all⟩ := outcome_asObjects items w'
  obtain ⟨j, w₂, built, held, shape⟩ := outcome_newTuple (w := w'.mark n) empty ys
  have given : outcome (sequenceOfContent u) w = (.ok (.ref j), w₂) :=
    sequence.trans ((outcome_bind_ok made _).trans built)
  have read : w₂.sequence? (.ref j) = some (.list ys) := by simp [sequence?, base, held]
  obtain ⟨y, k, found, marks⟩ := outcome_asObject (elementAt (.list items) i) w'
  obtain ⟨z, m, looked, again⟩ := outcome_asObject (elementAt (.list ys) i) w₂
  have later : w.nextTag ≤ w₂.nextTag := by
    rw [shape.nextTag, ← tags]
    exact Nat.le_add_right _ _
  have second : w.Marks (elementAt (.list items) i) z :=
    ((marks_elementAt all i).mono tags.ge).again later again
  have counted : ¬ (0 ≤ i ∧ maxLength ≤ (Elements.list ys).length) := by
    simp only [Elements.length, ← all.length_eq]
    omega
  rw [outcome_bind_ok given, outcome_elementWithin_sequence read, if_neg counted, found, looked]
  refine ⟨(marks.mono tags.ge).like second, fun j old => ?_⟩
  exact (shape.cell? (by rw [← size] at old; exact old)).symm

theorem twins_of_items (empty : w'.cell? 0 = some (.tuple [])) {items : List Value}
    (short : items.length < maxLength) (tags : w'.nextTag = w.nextTag)
    (size : w'.cells.size = w.cells.size)
    (gathered : outcome (collect u) w = (.ok (.items items), w')) :
    w.Twins (outcome (asObject (elementAt (.list items) i)) w')
      (outcome (do elementWithin (← sequenceOfContent u) i) w) :=
  twins_of_tuple empty short tags size (by rw [sequenceOfContent, outcome_bind_ok gathered])

theorem twins_of_array (empty : w.cell? 0 = some (.tuple [])) {code : Char} {items : List Value}
    (held : w.baseCell? u = some (.array code items)) (short : items.length < maxLength)
    (gathered : outcome (collect u) w = (.ok .copied, w)) :
    w.Twins (outcome (elementWithin u i) w)
      (outcome (do elementWithin (← sequenceOfContent u) i) w) := by
  have counted : ¬ (0 ≤ i ∧ maxLength ≤ (Elements.list items).length) := by
    simp only [Elements.length]
    omega
  rw [outcome_elementWithin_sequence (sequence?_of_array held), if_neg counted]
  refine twins_of_tuple empty short rfl rfl ?_
  rw [sequenceOfContent, outcome_bind_ok gathered]
  dsimp only
  rw [outcome_bind, outcome_iterate_fixed (source_of_array held), if_neg (by simpa [Elements.length]),
    outcome_bind, Elements.toList]

theorem twins_of_sequence {elements : Elements} (read : w.sequence? u = some elements)
    (gathered : outcome (collect u) w = (.ok .viewed, w)) :
    w.Twins (outcome (elementWithin u i) w)
      (outcome (do elementWithin (← sequenceOfContent u) i) w) := by
  have given : outcome (sequenceOfContent u) w = (.ok (.view w.nextTag u), w.mark 1) := by
    rw [sequenceOfContent, outcome_bind_ok gathered]
    rfl
  have later : (w.mark 1).sequence? (.view w.nextTag u) = some elements :=
    (w.sequence?_mark 1 u).trans read
  rw [outcome_bind_ok given, outcome_elementWithin_sequence read,
    outcome_elementWithin_sequence later]
  split
  · exact ⟨.failed, fun _ _ => rfl⟩
  · obtain ⟨y, n, found, marks⟩ := outcome_asObject (elementAt elements i) w
    obtain ⟨z, m, looked, again⟩ := outcome_asObject (elementAt elements i) (w.mark 1)
    rw [found, looked]
    exact ⟨marks.like (again.mono (Nat.le_add_right _ _)), fun _ _ => rfl⟩

theorem twins_of_itself (gathered : outcome (collect u) w = (.ok .itself, w)) :
    w.Twins (outcome (elementWithin u i) w)
      (outcome (do elementWithin (← sequenceOfContent u) i) w) := by
  have given : outcome (sequenceOfContent u) w = (.ok u, w) := by
    rw [sequenceOfContent, outcome_bind_ok gathered]
    rfl
  rw [outcome_bind_ok given]
  exact .refl w _

theorem twins_of_failure {f : Fault} {next : Collected → M Value}
    (refused : outcome (collect u) w = (.error f, w')) :
    w.Twins (outcome (collect u >>= next) w)
      (outcome (do elementWithin (← sequenceOfContent u) i) w) := by
  have given : outcome (sequenceOfContent u) w = (.error f, w') := outcome_bind_error refused _
  rw [outcome_bind_error given, outcome_bind_error refused]
  exact .refl w _

theorem twins_of_pairs (empty : w.cell? 0 = some (.tuple [])) {entries : List (Value × Value)}
    (short : entries.length < maxLength)
    (gathered : outcome (collect u) w = (.ok (.pairs entries), w)) :
    w.Twins
      (outcome (match if i < 0 then none else entries[i.toNat]? with
        | some (key, x) => newTuple [key, x]
        | none => return .null) w)
      (outcome (do elementWithin (← sequenceOfContent u) i) w) := by
  obtain ⟨pairs, w₁, made, size, kept, all⟩ := outcome_newPairs entries w
  obtain ⟨j, w₂, built, held, shape⟩ := outcome_newTuple (kept 0 _ empty) pairs
  have sequence : outcome (sequenceOfContent u) w = (.ok (.ref j), w₂) := by
    rw [sequenceOfContent, outcome_bind_ok gathered]
    exact (outcome_bind_ok made _).trans built
  have read : w₂.sequence? (.ref j) = some (.list pairs) := by simp [sequence?, base, held]
  have counted : ¬ (0 ≤ i ∧ maxLength ≤ (Elements.list pairs).length) := by
    simp only [Elements.length, ← all.length_eq]
    omega
  have old : ∀ k < w.cells.size, w₂.cell? k = w.cell? k := fun k old => by
    have found := Array.getElem?_eq_getElem old
    exact (shape.cell? (old.trans_le size)).trans ((kept k _ found).trans found.symm)
  rw [outcome_bind_ok sequence, outcome_elementWithin_sequence read, if_neg counted, elementAt]
  by_cases negative : i < 0
  · rw [if_pos negative, if_pos negative]
    exact ⟨.value, fun k small => (old k small).symm⟩
  rw [if_neg negative, if_neg negative]
  obtain ⟨missing, also⟩ | ⟨⟨key, x⟩, pair, found, also, c, rfl, fresh, stored⟩ :=
    forall₂_getElem? all i.toNat
  · simp only [missing, Elements.get?, also]
    exact ⟨.value, fun k small => (old k small).symm⟩
  · simp only [found, Elements.get?, also]
    refine ⟨.pair (i := w.cells.size) (j := c) le_rfl fresh (cell?_withCell_self w _) ?_, ?_⟩
    · exact (shape.cell? (lt_size_of_cell? stored)).trans stored
    · exact fun k small => (cell?_withCell_of_lt small _).trans (old k small).symm

theorem asObject_member {c : ClassId} (i : Int) (w : World) :
    outcome (asObject (elementAt (.list (w.enumMembers c)) i)) w =
      (.ok (elementAt (.list (w.enumMembers c)) i), w) := by
  have known : (elementAt (.list (w.enumMembers c)) i).isBare = false := by
    unfold elementAt
    split
    · rfl
    · cases found : (w.enumMembers c)[i.toNat]? with
      | none => simp [Elements.get?, found, Value.isBare]
      | some x =>
        obtain ⟨cls, bits, rfl, -⟩ | ⟨cls, k, rfl⟩ := shape_of_member (List.mem_of_getElem? found) <;>
          simp [Elements.get?, found, Value.isBare]
  rw [asObject, known]
  rfl

/-- No cell and no enumeration class has more elements than a length can tell. -/
structure World.Countable (w : World) : Prop where
  cells : ∀ i c, w.cell? i = some c → c.contents.length < maxLength
  members : ∀ c, (w.enumMembers c).length < maxLength

theorem elementOfContent_of_plain (plain : w.enumClass? u = none) :
    outcome (elementOfContent u i) w = outcome (do
      match ← collect u with
      | .itself | .copied | .viewed => elementWithin u i
      | .items items => asObject (elementAt (.list items) i)
      | .pairs entries =>
        match if i < 0 then none else entries[i.toNat]? with
        | some (key, x) => newTuple [key, x]
        | none => return .null) w := by
  rw [elementOfContent, outcome_get_bind]
  cases found : w.enumClass? u with
  | some c => cases found.symm.trans plain
  | none => rfl

/-- An enumeration class gives its members. -/
theorem twins_of_class (empty : w.cell? 0 = some (.tuple [])) (countable : w.Countable) {c : ClassId}
    (named : w.enumClass? u = some c) :
    w.Twins (outcome (elementOfContent u i) w)
      (outcome (do elementWithin (← sequenceOfContent u) i) w) := by
  unfold enumClass? at named
  split at named
  · next c' =>
    split_ifs at named with enumeration
    obtain rfl := Option.some.inj named
    have read : w.members? (.type c') = some (w.enumMembers c') := by
      simp [members?, sequence?, mapping?, repeatable?, base, baseCell?, enumeration]
    have made : outcome (elementOfContent (.type c') i) w =
        outcome (asObject (elementAt (.list (w.enumMembers c')) i)) w := by
      simp [elementOfContent, enumClass?, enumeration, asObject_member]
    rw [made]
    have gathered : outcome (collect (.type c')) w = (.ok (.items (w.enumMembers c')), w) := by
      have each : outcome (collect (.type c')) w = outcome (collectEach (.type c')) w := by
        simp [collect, isTuple, isArray, isText, text?, bytes?, isSequence, sequence?, isMapping,
          mapping?, isIterable, repeatable?, base, baseCell?, enumeration]
      rw [each, outcome_collectEach_members rfl read,
        if_neg (Nat.not_le_of_lt (countable.members c'))]
    exact twins_of_items empty (countable.members c') rfl rfl gathered
  · cases named

theorem twins_of_stream (empty : w.cell? 0 = some (.tuple [])) (countable : w.Countable)
    {kind : Stream} {rest : List Value} (held : w.stream? u = some (kind, rest)) :
    w.Twins (outcome (elementOfContent u i) w)
      (outcome (do elementWithin (← sequenceOfContent u) i) w) := by
  obtain ⟨j, rfl, found⟩ := cell_of_stream held
  rw [elementOfContent_of_plain rfl]
  obtain ⟨f, refused⟩ | drained := outcome_collect_stream j kind
  · exact twins_of_failure (refused w rest found)
  · have apart : 0 ≠ j := by
      rintro rfl
      cases empty.symm.trans found
    have gathered := drained w rest found
    rw [outcome_bind_ok gathered]
    refine twins_of_items ?_ (countable.cells j _ found) rfl (by simp [rewriteCell]) gathered
    rw [cell?_rewriteCell_of_ne apart, empty]

/-- The element that is looked for is the one of the sequence. -/
theorem twins_of_content (empty : w.cell? 0 = some (.tuple [])) (countable : w.Countable) :
    w.Twins (outcome (elementOfContent u i) w)
      (outcome (do elementWithin (← sequenceOfContent u) i) w) := by
  cases held : w.stream? u with
  | some stream => exact twins_of_stream empty countable held
  | none =>
  cases named : w.enumClass? u with
  | some c => exact twins_of_class empty countable named
  | none =>
  rw [elementOfContent_of_plain named]
  obtain ⟨r, collected, shape⟩ := World.gathers (w := w) held
  cases r with
  | error f => exact twins_of_failure collected
  | ok made =>
  rw [outcome_bind_ok collected]
  cases shape with
  | nothing => exact twins_of_items empty (by decide) rfl rfl collected
  | view => exact twins_of_itself collected
  | tuple => exact twins_of_itself collected
  | array held =>
    obtain ⟨j, -, found⟩ := base_of_baseCell? held
    exact twins_of_array empty held (countable.cells j _ found) collected
  | sequence _ _ _ read => exact twins_of_sequence read collected
  | members _ _ _ short => exact twins_of_items empty short rfl rfl collected
  | pairs short => exact twins_of_pairs empty short collected
  | alone => exact twins_of_items empty (by simp [maxLength]) rfl rfl collected

end Twins

/-! ## Failures -/

/-- A computation does not fail because of an index. -/
def Unindexed {α : Type} (w : World) (x : M α) : Prop :=
  ∀ f w', outcome x w = (.error f, w') → f.kindName ≠ "IndexError"

section Unindexed
variable {α β : Type} {w w' : World} {u v : Value} {i : Int} {f : Fault}

theorem unindexed_of_ok {x : M α} {a : α} (given : outcome x w = (.ok a, w')) : Unindexed w x := by
  intro f w₁ failed
  cases given.symm.trans failed

theorem unindexed_of_error {x : M α} (refused : outcome x w = (.error f, w'))
    (other : f.kindName ≠ "IndexError") : Unindexed w x := by
  intro g w₁ failed
  cases refused.symm.trans failed
  exact other

theorem Unindexed.bind {x : M α} {next : α → M β} (first : Unindexed w x)
    (then_ : ∀ a w', outcome x w = (.ok a, w') → Unindexed w' (next a)) :
    Unindexed w (x >>= next) := by
  intro f w'' failed
  obtain refused | ⟨a, w₁, run, later⟩ := bind_error_iff.mp failed
  · exact first f w'' refused
  · exact then_ a w₁ run f w'' later

/-- A key is compared with an integer until a number that signals comes up. -/
theorem equalWithin_int {fuel : Nat} {a : Value} {n : Int} {f : Fault}
    (failed : w.equalWithin fuel a (.int n) = .error f) :
    f = .nestedTooDeep ∨ f = .decimal .invalidOperation := by
  cases fuel with
  | zero =>
    rw [equalWithin] at failed
    exact .inl (Except.error.inj failed).symm
  | succ fuel =>
    have number : w.numeric? (.int n) = some (.real (.ratio (.ofInt n))) := rfl
    have untext : w.text? (.int n) = none := rfl
    have unset : w.setElements? (.int n) = none := rfl
    have octetless : w.comparedOctets? a (.int n) = none := by
      simp [comparedOctets?, octets?, bytes?, base, baseCell?]
    have unmapped : w.mapping? (.int n) = none := rfl
    have unheld : w.baseCell? (.int n) = none := rfl
    have based : w.base (.int n) = .int n := rfl
    rw [equalWithin] at failed
    simp only [number, untext, unset, octetless, based, unmapped, unheld] at failed
    cases read : w.numeric? a with
    | some x =>
      rw [read] at failed
      dsimp only [sameNumber] at failed
      split_ifs at failed
      exact .inr (Except.error.inj failed).symm
    | none =>
      rw [read] at failed
      dsimp only at failed
      split at failed
      · cases failed
      split at failed
      · simp_all
      split at failed
      case h_11 =>
        split at failed
        · simp_all
        · split at failed <;> simp_all
      all_goals first | cases failed | simp_all

theorem entryFor_int {n : Int} {entries : List (Value × Value)}
    (failed : entryFor (w.agreeFrom w.bulk) (.int n) entries = .error f) :
    f = .nestedTooDeep ∨ f = .decimal .invalidOperation := by
  induction entries with
  | nil => cases failed
  | cons entry rest ih =>
    obtain ⟨k, x⟩ := entry
    rw [entryFor] at failed
    cases compared : w.agreeFrom w.bulk k (.int n) with
    | error g =>
      rw [compared] at failed
      obtain rfl : g = f := Except.error.inj failed
      rw [agreeFrom] at compared
      split_ifs at compared
      exact equalWithin_int compared
    | ok same =>
      rw [compared] at failed
      cases same with
      | true => cases failed
      | false => exact ih failed

theorem unindexed_missing (n : Int) : Unindexed w (Bindings.missing (.int n) : M Value) := by
  obtain ⟨fuel, room⟩ := w.nesting_eq_succ (.int n)
  have shown : w.display (.int n) = showInt n := by rw [display, room]; rfl
  have asked : outcome (displayed (.int n)) w = (showInt n, w) := by rw [← shown]; rfl
  refine Unindexed.bind ?_ fun name w' _ =>
    unindexed_of_error (outcome_fail w' _) (by simp [Fault.kindName])
  intro f w' failed
  obtain ⟨refused, -⟩ := Prod.mk.inj (asked.symm.trans failed)
  unfold showInt at refused
  split_ifs at refused
  obtain rfl := Except.error.inj refused
  decide

theorem hash_int (n : Int) : w.hash (.int n) = .ok () := by
  obtain ⟨fuel, room⟩ := w.nesting_eq_succ (.int n)
  simp [World.hash, room, hashWithin, base, baseCell?]

theorem unindexed_lookUpEntry (n : Int) (entries : List (Value × Value)) :
    Unindexed w (lookUpEntry entries (.int n)) := by
  intro f w' failed
  have refused : entryFor (w.agreeFrom w.bulk) (.int n) entries = .error f := by
    have run : outcome (lookUpEntry entries (.int n)) w = (do
        w.hash (.int n)
        entryFor (w.agreeFrom w.bulk) (.int n) entries, w) := rfl
    rw [hash_int] at run
    exact (congrArg Prod.fst (run.symm.trans failed) :)
  obtain rfl | rfl := entryFor_int refused <;> decide

theorem unindexed_nameOf (n : Int) : Unindexed w (nameOf (.int n)) :=
  unindexed_of_error (outcome_fail w (.nameNotText (w.typeName (.int n)))) (by simp [Fault.kindName])

theorem unindexed_lookUp? (b : Value) (n : Int) : Unindexed w (Bindings.lookUp? b (.int n)) := by
  refine Unindexed.bind ?_ fun scope w' _ => (unindexed_nameOf n).bind fun name w'' _ =>
    unindexed_of_ok (outcome_pure w'' _)
  refine Unindexed.bind (unindexed_of_ok (outcome_get w)) fun w₁ w₂ _ => ?_
  split <;> exact unindexed_of_ok (outcome_pure w₂ _)

theorem unindexed_entryOf (n : Int) (entries : List (Value × Value)) :
    Unindexed w (entryOf v (.int n) entries) := by
  refine Unindexed.bind (unindexed_of_ok (outcome_get w)) fun w₁ w₂ _ => ?_
  split
  · refine (unindexed_lookUp? v n).bind fun found w₃ _ => ?_
    cases found with
    | some x => exact unindexed_of_ok (outcome_pure w₃ x)
    | none => exact unindexed_missing n
  · refine (unindexed_lookUpEntry n entries).bind fun found w₃ _ => ?_
    cases found with
    | some x => exact unindexed_of_ok (outcome_pure w₃ x)
    | none => exact unindexed_missing n

theorem unindexed_refuseElement (v : Value) : Unindexed w (refuseElement v : M Value) := by
  refine Unindexed.bind (unindexed_of_ok (outcome_get w)) fun w₁ w₂ _ => ?_
  split <;> exact unindexed_of_error (outcome_fail w₂ _) (by simp [Fault.kindName])

/-- What is no sequence is not asked for an element at an index. -/
theorem unindexed_itemOf (unlisted : w.sequence? v = none) (n : Int) :
    Unindexed w (itemOf v (.int n)) := by
  have behind := (w.sequence?_behindViews v).trans unlisted
  have hashed : outcome (liftResult (w.hash (.int n))) w = (.ok (), w) := by
    rw [outcome_liftResult, hash_int]
  intro f w' failed
  rw [itemOf, outcome_get_bind] at failed
  dsimp only at failed
  rw [behind] at failed
  cases mapped : w.mapping? (behindViews v) with
  | some entries =>
    rw [mapped] at failed
    exact unindexed_entryOf n _ f w' failed
  | none =>
    rw [mapped] at failed
    cases named : w.enumClass? (behindViews v) with
    | some c =>
      rw [named] at failed
      exact (unindexed_of_ok hashed).bind (fun _ _ _ => unindexed_missing n) f w' failed
    | none =>
      rw [named] at failed
      exact unindexed_refuseElement _ f w' failed

theorem unindexed_lengthOf (v : Value) : Unindexed w (lengthOf v) := by
  refine Unindexed.bind (unindexed_of_ok (outcome_get w)) fun w₁ w₂ _ => ?_
  split
  · split_ifs
    · exact unindexed_of_ok (outcome_pure w₂ _)
    · exact unindexed_of_error (outcome_fail w₂ _) (by simp [Fault.kindName])
  · exact unindexed_of_error (outcome_fail w₂ _) (by simp [Fault.kindName])

theorem unindexed_asObject (x : Value) : Unindexed w (asObject x) := by
  obtain ⟨y, n, made, -⟩ := outcome_asObject x w
  exact unindexed_of_ok made

theorem unindexed_elementWithin (v : Value) (i : Int) : Unindexed w (elementWithin v i) := by
  cases read : w.sequence? v with
  | some elements =>
    intro f w' failed
    rw [outcome_elementWithin_sequence read] at failed
    split_ifs at failed
    · cases failed
      simp [Fault.kindName]
    · exact unindexed_asObject _ f w' failed
  | none =>
    unfold elementWithin
    split_ifs
    · exact unindexed_of_ok (outcome_pure w _)
    · refine (unindexed_lengthOf v).bind fun n w' counted => ?_
      have same : w' = w := by
        have still := still_lengthOf (w := w) v
        rwa [Still, counted] at still
      subst same
      split_ifs
      · exact unindexed_itemOf read i
      · exact unindexed_of_ok (outcome_pure _ _)

theorem unindexed_collect (u : Value) : Unindexed w (collect u) := by
  cases held : w.stream? u with
  | some stream =>
    obtain ⟨kind, rest⟩ := stream
    obtain ⟨j, rfl, found⟩ := cell_of_stream held
    intro f w' failed
    rw [outcome_collect_iterator found] at failed
    refine Unindexed.bind ?_ (fun _ w₁ _ => unindexed_of_ok (a := .items rest) rfl) f w' failed
    unfold lengthHint
    split
    · exact unindexed_of_ok (outcome_pure w _)
    · exact unindexed_of_ok (outcome_pure w _)
    · exact unindexed_of_ok (outcome_pure w _)
    · split_ifs
      · exact unindexed_of_error (outcome_fail w _) (by simp [Fault.kindName])
      · exact unindexed_of_error (outcome_fail w _) (by simp [Fault.kindName])
      · exact unindexed_of_ok (outcome_pure w _)
  | none =>
    obtain ⟨r, collected, shape⟩ := World.gathers (w := w) held
    cases shape with
    | tooMany | tooManyPairs | keyless =>
      exact unindexed_of_error collected (by simp [Fault.kindName])
    | _ => exact unindexed_of_ok collected

theorem unindexed_content (u : Value) (i : Int) : Unindexed w (elementOfContent u i) := by
  cases named : w.enumClass? u with
  | some c =>
    have found : outcome (elementOfContent u i) w =
        (.ok (elementAt (.list (w.enumMembers c)) i), w) := by
      rw [elementOfContent, outcome_get_bind, named]
      rfl
    exact unindexed_of_ok found
  | none =>
    intro f w' failed
    rw [elementOfContent_of_plain named] at failed
    refine (unindexed_collect u).bind (fun made w₁ _ => ?_) f w' failed
    cases made with
    | itself | copied | viewed => exact unindexed_elementWithin u i
    | items items => exact unindexed_asObject _
    | pairs entries =>
      dsimp only
      split
      · exact unindexed_of_ok (outcome_alloc w₁ _)
      · exact unindexed_of_ok (outcome_pure w₁ _)

end Unindexed

/-! ## The whole target -/

section Targets
variable {w : World} {target : Value} {i : Int}

theorem outcome_getIndex_ordered (ordered : (w.isMapping target || w.isSet target) = true) :
    outcome (getIndex target i) w = (.ok .null, w) := by
  rw [getIndex, outcome_get_bind, elementOfTarget, outcome_get_bind, if_pos ordered, outcome_pure]

theorem outcome_getIndex_unordered (unordered : (w.isMapping target || w.isSet target) = false) :
    outcome (getIndex target i) w = outcome (elementOfContent (w.unwrap target) i) w := by
  rw [getIndex, outcome_get_bind, elementOfTarget, outcome_get_bind, unordered]
  rfl

/-- What holds an iterator is neither a mapping nor a set. -/
theorem unordered_of_stream {j : Nat} {kind : Stream} {rest : List Value}
    (content : w.unwrap target = .ref j) (held : w.cell? j = some (.stream kind rest)) :
    (w.isMapping target || w.isSet target) = false := by
  cases wrapped : w.content? target with
  | some inner => exact not_ordered_of_content w target inner wrapped
  | none =>
    obtain rfl : target = .ref j := (unwrap_of_content w target wrapped).symm.trans content
    simp [isMapping, mapping?, isSet, baseCell?, base, held]

/-- An iterator is emptied, unless it refuses to tell how much is left. -/
theorem drained_of_stream {j : Nat} {kind : Stream} {rest : List Value}
    (held : w.cell? j = some (.stream kind rest)) :
    (∃ f, outcome (lengthHint kind rest) w = (.error f, w) ∧
      outcome (elementOfContent (.ref j) i) w = (.error f, w)) ∨
    (outcome (elementOfContent (.ref j) i) w).2.cell? j = some (.stream kind []) := by
  have gathered := outcome_collect_iterator held
  rw [elementOfContent_of_plain rfl]
  obtain ⟨f, refused⟩ | tells := outcome_lengthHint kind
  · rw [outcome_bind_error (refused rest w)] at gathered
    exact .inl ⟨f, refused rest w, outcome_bind_error gathered _⟩
  · obtain ⟨n, told⟩ := tells rest
    rw [outcome_bind_ok (told w)] at gathered
    obtain ⟨y, m, made, -⟩ :=
      outcome_asObject (elementAt (.list rest) i) (w.rewriteCell j (.stream kind []))
    refine .inr ?_
    rw [outcome_bind_ok (gathered.trans rfl)]
    change (outcome (asObject (elementAt (.list rest) i)) (w.rewriteCell j (.stream kind []))).2.cell? j = _
    rw [made]
    exact cell?_rewriteCell_self held _

end Targets

/-- The element at an index of a target: nothing if it has no order, and otherwise what its sequence
has at that index, from the same world and up to new numbers and pairs; where the sequence cannot be
made, or cannot tell its length, it fails alike. It never fails because of the index. An iterator is
left with nothing, unless it refuses to tell how much is left. -/
theorem getIndex_of_sequence (w : World) (target : Value) (i : Int)
    (empty : w.cell? 0 = some (.tuple [])) (countable : w.Countable) :
    (target = .null ∨ (w.isMapping target || w.isSet target) = true →
      outcome (getIndex target i) w = (.ok .null, w)) ∧
    ((w.isMapping target || w.isSet target) = false →
      w.Twins (outcome (getIndex target i) w)
        (outcome (do elementWithin (← toCollection target) i) w)) ∧
    (∀ f w', outcome (getIndex target i) w = (.error f, w') → f.kindName ≠ "IndexError") ∧
    ∀ j kind rest, w.unwrap target = .ref j → w.cell? j = some (.stream kind rest) →
      (∃ f, outcome (lengthHint kind rest) w = (.error f, w) ∧
        outcome (getIndex target i) w = (.error f, w)) ∨
      (outcome (getIndex target i) w).2.cell? j = some (.stream kind []) := by
  refine ⟨?_, fun unordered => ?_, fun f w' failed => ?_, fun j kind rest content held => ?_⟩
  · rintro (rfl | ordered)
    · rw [outcome_getIndex_unordered rfl, unwrap_of_content w .null rfl]
      exact outcome_elementOfContent_nothing w i
    · exact outcome_getIndex_ordered ordered
  · have sequence : outcome (do elementWithin (← toCollection target) i) w =
        outcome (do elementWithin (← sequenceOfContent (w.unwrap target)) i) w := by
      rw [toCollection, outcome_bind, outcome_get_bind, ← outcome_bind]
    rw [outcome_getIndex_unordered unordered, sequence]
    exact twins_of_content empty countable
  · cases ordered : w.isMapping target || w.isSet target with
    | true =>
      rw [outcome_getIndex_ordered ordered] at failed
      cases failed
    | false =>
      rw [outcome_getIndex_unordered ordered] at failed
      exact unindexed_content _ i f w' failed
  · rw [outcome_getIndex_unordered (unordered_of_stream content held), content]
    exact drained_of_stream held

/-- A world with an iterator that has not been read. -/
def unread : World := { cells := #[.tuple [], .stream .list [.int 7]] }

theorem countable_unread : unread.Countable where
  cells
    | 0, _, rfl => by decide
    | 1, _, rfl => by decide
    | _ + 2, _, held => by cases held
  members c := by cases c <;> simp [enumMembers, unread, class?, maxLength]

/-- Beyond the end of an iterator within an optional there is nothing, and nothing is left of it. -/
theorem getIndex_of_sequence_iterator :
    unread.cell? 0 = some (.tuple []) ∧ unread.Countable ∧
      unread.Twins (outcome (getIndex (.optional 2 (.ref 1)) 3) unread)
        (outcome (do elementWithin (← toCollection (.optional 2 (.ref 1))) 3) unread) ∧
      (outcome (getIndex (.optional 2 (.ref 1)) 3) unread).2.cell? 1 = some (.stream .list []) := by
  obtain ⟨-, twins, -, drained⟩ :=
    getIndex_of_sequence unread (.optional 2 (.ref 1)) 3 rfl countable_unread
  refine ⟨rfl, countable_unread, twins rfl, (drained 1 .list [.int 7] rfl rfl).resolve_left ?_⟩
  rintro ⟨f, refused, -⟩
  cases refused

/-- The first element of a range is not had if the range is longer than a length can tell. -/
example : (outcome (getIndex (.range 0 (2 ^ 63) 1) 0) {}).1 = .error .lengthTooLarge := rfl

end TemplateEngine
