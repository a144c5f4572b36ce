import TemplateEngine.Proofs.Truth
import TemplateEngine.Proofs.Indexing
/-!
What the sequence of a value is made of. Each shape of value has one way to be gathered, and gathering
changes nothing but an iterator.
-/
namespace TemplateEngine

namespace World

variable {w : World} {v : Value}

/-- A value that is gathered: a collection or a mapping. -/
def isGathered (w : World) (v : Value) : Bool := w.isCollection v || w.isMapping v

/-- What a value that is neither an optional nor an iterator gives to a sequence, or why it gives
none. -/
inductive Gathers (w : World) : Value → Except Fault Collected → Prop
  | nothing : Gathers w .null (.ok (.items []))
  | view {tag : Nat} {target : Value} : Gathers w (.view tag target) (.ok .itself)
  | tuple {v : Value} {items : List Value} (held : w.baseCell? v = some (.tuple items)) :
    Gathers w v (.ok .itself)
  | array {v : Value} {code : Char} {items : List Value}
    (held : w.baseCell? v = some (.array code items)) : Gathers w v (.ok .copied)
  | sequence {v : Value} {elements : Elements} (gathered : w.isGathered v = true)
    (flat : ∀ tag target, v ≠ .view tag target) (unlike : w.isArray v = false)
    (read : w.sequence? v = some elements) : Gathers w v (.ok .viewed)
  /-- The keys of a mapping, and the elements of what can be read again and again. -/
  | members {v : Value} {items : List Value} (gathered : w.isGathered v = true)
    (unlisted : w.sequence? v = none) (read : w.members? v = some items)
    (short : items.length < maxLength) : Gathers w v (.ok (.items items))
  | pairs {tag : Nat} {target : Value} (short : ((w.mapping? target).getD []).length < maxLength) :
    Gathers w (.part tag .items target) (.ok (.pairs ((w.mapping? target).getD [])))
  | tooMany {v : Value} {items : List Value} (gathered : w.isGathered v = true)
    (unlisted : w.sequence? v = none) (read : w.members? v = some items)
    (long : maxLength ≤ items.length) : Gathers w v (.error .lengthTooLarge)
  | tooManyPairs {tag : Nat} {target : Value}
    (long : maxLength ≤ ((w.mapping? target).getD []).length) :
    Gathers w (.part tag .items target) (.error .lengthTooLarge)
  /-- The keys of what is no mapping. -/
  | keyless {tag : Nat} {target : Value} (unmapped : w.mapping? target = none) :
    Gathers w (.part tag .keys target)
      (.error (.notIterable (w.typeInMessages (.part tag .keys target))))
  /-- What is neither a collection nor a mapping is the only element. -/
  | alone {v : Value} (given : v ≠ .null) (single : w.isGathered v = false) :
    Gathers w v (.ok (.items [v]))

theorem members?_of_list {items : List Value} (held : w.baseCell? v = some (.list items)) :
    w.members? v = some items := by
  obtain ⟨i, based, found⟩ := base_of_baseCell? held
  obtain ⟨j, rfl⟩ | ⟨e, k, rfl⟩ := ref_or_member_of_base based <;>
    simp [members?, sequence?, based, found, Elements.toList]

theorem members?_of_stream {kind : Stream} {rest : List Value}
    (held : w.baseCell? v = some (.stream kind rest)) : w.members? v = none := by
  obtain ⟨i, based, found⟩ := base_of_baseCell? held
  obtain ⟨j, rfl⟩ | ⟨e, k, rfl⟩ := ref_or_member_of_base based <;>
    simp [members?, sequence?, mapping?, repeatable?, held, based, found]

theorem repeatable?_of_bag {items : List Value} (held : w.baseCell? v = some (.bag items)) :
    w.repeatable? v = some items := by
  obtain ⟨i, based, -⟩ := base_of_baseCell? held
  obtain ⟨j, rfl⟩ | ⟨e, k, rfl⟩ := ref_or_member_of_base based <;> simp [repeatable?, held]

theorem members?_of_bag {items : List Value} (held : w.baseCell? v = some (.bag items)) :
    w.members? v = some items := by
  obtain ⟨i, based, found⟩ := base_of_baseCell? held
  obtain ⟨j, rfl⟩ | ⟨e, k, rfl⟩ := ref_or_member_of_base based <;>
    simp [members?, sequence?, mapping?, repeatable?_of_bag held, held, based, found]

/-- The elements that a value has are read turn by turn. -/
theorem source_of_members {items : List Value} (flat : ∀ tag target, v ≠ .view tag target)
    (read : w.members? v = some items) :
    ∃ s, outcome (Source.ofValue v) w = (.ok s, w) ∧
      ((∃ elements, s = .fixed elements ∧ elements.toList = items) ∨
        ∃ i, s = .live i ∧ w.cell? i = some (.list items) ∧ w.baseCell? v = some (.list items)) := by
  rw [Source.ofValue.eq_2 _ flat, outcome_get_bind]
  split
  · next i found based held =>
    obtain rfl := Option.some.inj ((members?_of_list held).symm.trans read)
    have found := held
    rw [baseCell?, based] at found
    exact ⟨_, rfl, .inr ⟨i, rfl, found, held⟩⟩
  · next held => simp [members?_of_stream held] at read
  · unfold members? at read
    split at read
    · next elements listed =>
      obtain rfl := Option.some.inj read
      rw [listed]
      exact ⟨_, rfl, .inl ⟨elements, rfl, rfl⟩⟩
    · next entries unlisted mapped =>
      obtain rfl := Option.some.inj read
      rw [unlisted, mapped]
      exact ⟨_, rfl, .inl ⟨_, rfl, rfl⟩⟩
    · next unlisted unmapped =>
      rw [unlisted, unmapped, read]
      exact ⟨_, rfl, .inl ⟨_, rfl, rfl⟩⟩

theorem sequence?_of_list {items : List Value} (held : w.baseCell? v = some (.list items)) :
    w.sequence? v = some (.list items) := by
  obtain ⟨i, based, found⟩ := base_of_baseCell? held
  obtain ⟨j, rfl⟩ | ⟨e, k, rfl⟩ := ref_or_member_of_base based <;>
    simp [sequence?, based, found]

theorem size?_of_sequence {elements : Elements} (read : w.sequence? v = some elements) :
    w.size? v = some elements.length := by
  induction v with
  | view tag target ih => exact ih read
  | flags => cases read
  | _ => simp [size?, read]

/-- The elements of a sequence that is no list stay what they are while they are read. -/
theorem source_of_sequence {elements : Elements} (flat : ∀ tag target, v ≠ .view tag target)
    (unlisted : ∀ items, w.baseCell? v ≠ some (.list items)) (read : w.sequence? v = some elements) :
    outcome (Source.ofValue v) w = (.ok (.fixed elements), w) := by
  have members : w.members? v = some elements.toList := by rw [members?, read]
  rw [Source.ofValue.eq_2 _ flat, outcome_get_bind]
  split
  · next held => exact absurd held (unlisted _)
  · next held => simp [members?_of_stream held] at members
  · rw [read]
    rfl

theorem sequence?_of_array {code : Char} {items : List Value}
    (held : w.baseCell? v = some (.array code items)) : w.sequence? v = some (.list items) := by
  obtain ⟨i, based, found⟩ := base_of_baseCell? held
  obtain ⟨j, rfl⟩ | ⟨e, k, rfl⟩ := ref_or_member_of_base based <;>
    simp [sequence?, based, found]

theorem source_of_array {code : Char} {items : List Value}
    (held : w.baseCell? v = some (.array code items)) :
    outcome (Source.ofValue v) w = (.ok (.fixed (.list items)), w) := by
  refine source_of_sequence ?_ (by simp [held]) (sequence?_of_array held)
  rintro tag target rfl
  cases held

/-- A value tells the number of its elements, unless it is one of those that tell another number or
none. -/
theorem size?_eq_length (flat : ∀ tag target, v ≠ .view tag target)
    (unflagged : ∀ cls bits, v ≠ .flags cls bits)
    (unpaired : ∀ tag target, v ≠ .part tag .items target)
    (unbagged : ∀ items, w.baseCell? v ≠ some (.bag items)) :
    w.size? v = (w.members? v).map List.length := by
  cases listed : w.sequence? v with
  | some elements =>
    simp [size?_of_sequence listed, members?, listed, Elements.length_toList]
  | none =>
  cases mapped : w.mapping? v with
  | some entries => simp [size?_of_mapping mapped, members?, listed, mapped]
  | none =>
    rw [members?, listed, mapped]
    cases v with
    | view => exact absurd rfl (flat _ _)
    | flags => exact absurd rfl (unflagged _ _)
    | part tag which target =>
      cases which with
      | items => exact absurd rfl (unpaired _ _)
      | keys | values => simp [size?, listed, mapped, baseCell?, base]
    | ref | member => simp only [size?, listed, mapped]
    | _ => simp [size?, listed, mapped, baseCell?, base]

/-- What has elements and is no sequence is no view and not made of pairs. -/
theorem flat_of_members {items : List Value} (unlisted : w.sequence? v = none)
    (read : w.members? v = some items) : (∀ tag target, v ≠ .view tag target) ∧
      ∀ tag target, v ≠ .part tag .items target := by
  refine ⟨?_, ?_⟩ <;> rintro tag target rfl <;>
    simp [members?, unlisted, mapping?, repeatable?, base, baseCell?] at read

/-- What has elements and is no sequence knows their number, but for flag values and bags. -/
theorem size?_of_members {items : List Value} (unlisted : w.sequence? v = none)
    (read : w.members? v = some items) :
    w.size? v = some items.length ∨ (∃ cls bits, v = .flags cls bits ∧ items = w.flagParts cls bits) ∨
      w.baseCell? v = some (.bag items) := by
  obtain ⟨flat, unpaired⟩ := flat_of_members unlisted read
  by_cases unflagged : ∀ cls bits, v ≠ .flags cls bits
  · by_cases unbagged : ∀ items, w.baseCell? v ≠ some (.bag items)
    · exact .inl (by rw [size?_eq_length flat unflagged unpaired unbagged, read]; rfl)
    · obtain ⟨found, held⟩ : ∃ found, w.baseCell? v = some (.bag found) := by simpa using unbagged
      obtain rfl := Option.some.inj ((members?_of_bag held).symm.trans read)
      exact .inr (.inr held)
  · obtain ⟨cls, bits, rfl⟩ : ∃ cls bits, v = .flags cls bits := by simpa using unflagged
    refine .inr (.inl ⟨cls, bits, rfl, ?_⟩)
    simpa [members?, unlisted, mapping?, repeatable?, base, baseCell?, eq_comm] using read

/-- What is no sequence is gathered all at once. -/
theorem outcome_collectEach_members {items : List Value} (unlisted : w.sequence? v = none)
    (read : w.members? v = some items) :
    outcome (collectEach v) w =
      (if maxLength ≤ items.length then .error .lengthTooLarge else .ok (.items items), w) := by
  obtain ⟨flat, unpaired⟩ := flat_of_members unlisted read
  obtain ⟨s, sourced, ⟨elements, rfl, rfl⟩ | ⟨i, -, -, held⟩⟩ := source_of_members flat read
  · rw [collectEach.eq_2 _ unpaired, outcome_bind_ok sourced]
    simp only [checkLength, Elements.length_toList]
    split_ifs <;> rfl
  · simp [sequence?_of_list held] at unlisted

theorem outcome_collectEach_pairs (tag : Nat) (target : Value) :
    outcome (collectEach (.part tag .items target)) w =
      (if maxLength ≤ ((w.mapping? target).getD []).length then .error .lengthTooLarge
        else .ok (.pairs ((w.mapping? target).getD [])), w) := by
  rw [collectEach, outcome_get_bind]
  dsimp only
  split_ifs <;> rfl

theorem isGathered_of_iterable (untext : w.isText v = false) (timeless : ∀ t, v ≠ .brokenTime t)
    (iterable : (w.isMapping v || w.isIterable v) = true) : w.isGathered v = true := by
  cases mapped : w.isMapping v with
  | true => simp [isGathered, mapped]
  | false =>
    have iterates : w.isIterable v = true := by simpa [mapped] using iterable
    cases v with
    | brokenTime t => exact absurd rfl (timeless t)
    | _ => simp [isGathered, isCollection, untext, mapped, iterates]

theorem isMapping_of_text (read : w.isText v = true) : w.isMapping v = false := by
  cases mapped : w.mapping? v with
  | none => simp [isMapping, mapped]
  | some entries =>
    obtain ⟨tag, target, rfl⟩ | ⟨owner, rfl⟩ | ⟨i, based, ⟨fluent, found, held⟩ | ⟨scope, held⟩⟩ :=
        shape_of_mapping mapped
    · simp [isText, text?, bytes?, base] at read
    · simp [isText, text?, bytes?, base] at read
    · simp [isText, text?, bytes?, based, held] at read
    · simp [isText, text?, bytes?, based, held] at read

theorem isGathered_of_text (read : w.isText v = true) : w.isGathered v = false := by
  simp [isGathered, isCollection, read, isMapping_of_text read]

theorem cell_of_stream {kind : Stream} {rest : List Value} (held : w.stream? v = some (kind, rest)) :
    ∃ i, v = .ref i ∧ w.cell? i = some (.stream kind rest) := by
  unfold stream? at held
  split at held
  · split at held
    · next found =>
      obtain ⟨rfl, rfl⟩ := by simpa using held
      exact ⟨_, rfl, found⟩
    · cases held
  · cases held

/-- The members of an enumeration are single flags or members by number. -/
theorem shape_of_member {c : ClassId} {x : Value} (member : x ∈ w.enumMembers c) :
    (∃ cls bits, x = .flags cls bits ∧ isSingleBit bits = true) ∨ ∃ cls k, x = .member cls k := by
  unfold enumMembers at member
  split at member
  · cases member
  · split at member
    · cases member
    · obtain ⟨⟨name, k⟩, -, made⟩ := List.mem_filterMap.mp member
      dsimp only at made
      split_ifs at made
      · cases value : name.value with
        | int n =>
          rw [value] at made
          dsimp only at made
          split_ifs at made with single
          exact .inl ⟨_, _, (Option.some.inj made).symm, single⟩
        | _ => simp [value] at made
      · exact .inr ⟨_, _, (Option.some.inj made).symm⟩

/-- Only the keys of what is no mapping can be iterated without there being elements. -/
theorem keyless_of_iterable (unlisted : w.isSequence v = false) (unstreamed : w.stream? v = none)
    (iterable : (w.isMapping v || w.isIterable v) = true) (empty : w.members? v = none) :
    (∃ tag target, v = .part tag .items target) ∨
      ∃ tag target, v = .part tag .keys target ∧ w.mapping? target = none := by
  have unread : w.mapping? v = none ∧ w.repeatable? v = none := by
    unfold members? at empty
    split at empty
    · cases empty
    · cases empty
    · next unmapped => exact ⟨unmapped, empty⟩
  have set : w.isSet v = true := by
    simpa [isMapping, isIterable, isIterator, unlisted, unstreamed, unread] using iterable
  unfold isSet at set
  split at set
  · exact .inr ⟨_, _, rfl, by simpa [repeatable?] using unread.2⟩
  · exact .inl ⟨_, _, rfl⟩
  · split at set
    · next held =>
      obtain ⟨i, based, -⟩ := base_of_baseCell? held
      obtain ⟨j, rfl⟩ | ⟨e, k, rfl⟩ := ref_or_member_of_base based <;>
        simp [repeatable?, held] at unread
    · cases set

theorem cell_of_isTuple (tuple : w.isTuple v = true) :
    ∃ items, w.baseCell? v = some (.tuple items) := by
  unfold isTuple at tuple
  split at tuple
  · next items held => exact ⟨items, held⟩
  · cases tuple

theorem cell_of_isArray (untupled : w.isTuple v = false) (array : w.isArray v = true) :
    ∃ code items, w.baseCell? v = some (.array code items) := by
  unfold isArray at array
  split at array
  · next held => simp [isTuple, held] at untupled
  · next code items held => exact ⟨code, items, held⟩
  · cases array

/-- What is iterated without being an iterator is gathered without a change. -/
theorem gathers_each (gathered : w.isGathered v = true) (unstreamed : w.stream? v = none)
    (listed : w.isSequence v = false) (unlisted : w.sequence? v = none)
    (iterable : (w.isMapping v || w.isIterable v) = true) :
    ∃ r, outcome (collectEach v) w = (r, w) ∧ w.Gathers v r := by
  cases read : w.members? v with
  | some items =>
    refine ⟨_, outcome_collectEach_members unlisted read, ?_⟩
    split_ifs with long
    · exact .tooMany gathered unlisted read long
    · exact .members gathered unlisted read (by omega)
  | none =>
    obtain ⟨tag, target, rfl⟩ | ⟨tag, target, rfl, unmapped⟩ :=
      keyless_of_iterable listed unstreamed iterable read
    · refine ⟨_, outcome_collectEach_pairs tag target, ?_⟩
      split_ifs with long
      · exact .tooManyPairs long
      · exact .pairs (by omega)
    · refine ⟨_, ?_, .keyless unmapped⟩
      simp [collectEach, Source.ofValue, outcome_bind, sequence?, mapping?, repeatable?, base,
        baseCell?, unmapped]

/-- Whatever is no iterator is gathered without a change. -/
theorem gathers (unstreamed : w.stream? v = none) :
    ∃ r, outcome (collect v) w = (r, w) ∧ w.Gathers v r := by
  rw [collect, outcome_get_bind]
  split
  · exact ⟨_, rfl, .nothing⟩
  · exact ⟨_, rfl, .view⟩
  · exact ⟨_, rfl, .alone (by simp) (by simp [isGathered, isCollection, isText, text?, bytes?, base,
      isMapping, mapping?, baseCell?])⟩
  next given flat timeless =>
  cases tuple : w.isTuple v with
  | true =>
    obtain ⟨items, held⟩ := cell_of_isTuple tuple
    exact ⟨_, rfl, .tuple held⟩
  | false =>
  cases array : w.isArray v with
  | true =>
    obtain ⟨code, items, held⟩ := cell_of_isArray tuple array
    exact ⟨_, rfl, .array held⟩
  | false =>
  cases text : w.isText v with
  | true => exact ⟨_, rfl, .alone given (isGathered_of_text text)⟩
  | false =>
  cases listed : w.isSequence v with
  | true =>
    have gathered := isGathered_of_iterable text timeless (by simp [isIterable, listed])
    obtain ⟨elements, read⟩ : ∃ elements, w.sequence? v = some elements := by
      cases v with
      | view => exact absurd rfl (flat _ _)
      | _ => exact Option.isSome_iff_exists.mp listed
    exact ⟨_, rfl, .sequence gathered flat array read⟩
  | false =>
  have unlisted : w.sequence? v = none := by
    cases v with
    | view => exact absurd rfl (flat _ _)
    | _ => simpa [isSequence] using listed
  cases iterable : w.isMapping v || w.isIterable v with
  | true =>
    exact gathers_each (isGathered_of_iterable text timeless iterable) unstreamed listed unlisted
      iterable
  | false =>
    refine ⟨_, rfl, .alone given ?_⟩
    obtain ⟨unmapped, uniterable⟩ := Bool.or_eq_false_iff.mp iterable
    simp [isGathered, isCollection, text, unmapped, uniterable, array]

end World

open World

section Objects
variable {w w' : World} {x y : Value} {items : List Value}

/-- A value, or a number with a mark that was not used in the world. -/
inductive World.Marks (w : World) : Value → Value → Prop
  | known {x : Value} (marked : x.isBare = false) : Marks w x x
  | bare {x : Value} {mark : Nat} (bare : x.isBare = true) (unused : w.nextTag ≤ mark) :
    Marks w x (x.marked mark)

theorem World.sequence?_mark (w : World) (n : Nat) (v : Value) :
    (w.mark n).sequence? v = w.sequence? v := by
  induction v with
  | view tag target ih => exact ih
  | _ => rfl

theorem World.Marks.mono (later : w.nextTag ≤ w'.nextTag) (marks : w'.Marks x y) : w.Marks x y := by
  cases marks with
  | known marked => exact .known marked
  | bare bare unused => exact .bare bare (later.trans unused)

theorem outcome_asObject (x : Value) (w : World) :
    ∃ y n, outcome (asObject x) w = (.ok y, w.mark n) ∧ w.Marks x y := by
  cases bare : x.isBare with
  | true => exact ⟨_, 1, by rw [asObject, bare]; rfl, .bare bare le_rfl⟩
  | false => exact ⟨x, 0, by rw [asObject, bare]; rfl, .known bare⟩

theorem outcome_asObjects (items : List Value) (w : World) :
    ∃ ys n, outcome (asObjects items) w = (.ok ys, w.mark n) ∧ List.Forall₂ w.Marks items ys := by
  induction items generalizing w with
  | nil => exact ⟨[], 0, rfl, .nil⟩
  | cons x rest ih =>
    obtain ⟨y, n, made, marks⟩ := outcome_asObject x w
    obtain ⟨ys, m, others, all⟩ := ih (w.mark n)
    refine ⟨y :: ys, n + m, ?_, .cons marks (all.imp fun _ _ later => later.mono (by simp [mark]))⟩
    rw [asObjects, List.mapM_cons, outcome_bind_ok made, ← mark_mark]
    exact outcome_bind_ok others _

end Objects

theorem outcome_iterate_fixed {v : Value} {elements : Elements} {w : World}
    (sourced : outcome (Source.ofValue v) w = (.ok (.fixed elements), w)) :
    outcome (iterate v) w =
      if maxLength ≤ elements.length then (.error .lengthTooLarge, w)
      else outcome (asObjects elements.toList) w := by
  rw [iterate, outcome_bind_ok sourced]
  simp only [checkLength]
  split_ifs <;> rfl

section Tuples
variable {w : World}

/-- One cell may be new. -/
def World.Adds (w w' : World) : Prop := w' = w ∨ ∃ c, w' = w.withCell c

theorem World.Adds.nextTag {w' : World} (adds : w.Adds w') : w'.nextTag = w.nextTag := by
  obtain rfl | ⟨c, rfl⟩ := adds <;> rfl

theorem World.Adds.cell? {w' : World} (adds : w.Adds w') {i : Nat} (old : i < w.cells.size) :
    w'.cell? i = w.cell? i := by
  obtain rfl | ⟨c, rfl⟩ := adds
  · rfl
  · exact cell?_withCell_of_lt old c

/-- A new tuple has the elements that it is made of. -/
theorem outcome_newTuple (empty : w.cell? 0 = some (.tuple [])) (items : List Value) :
    ∃ i w', outcome (newTuple items) w = (.ok (.ref i), w') ∧ w'.cell? i = some (.tuple items) ∧
      w.Adds w' := by
  cases items with
  | nil => exact ⟨0, w, rfl, empty, .inl rfl⟩
  | cons x rest => exact ⟨w.cells.size, _, rfl, cell?_withCell_self w _, .inr ⟨_, rfl⟩⟩

/-- An array is copied into a tuple of its elements. -/
theorem outcome_sequenceOfContent_copied {u : Value} {code : Char} {items : List Value}
    (held : w.baseCell? u = some (.array code items)) (short : items.length < maxLength)
    (gathered : outcome (collect u) w = (.ok .copied, w)) :
    ∃ ys n, List.Forall₂ w.Marks items ys ∧
      outcome (sequenceOfContent u) w = outcome (newTuple ys) (w.mark n) := by
  obtain ⟨ys, n, made, all⟩ := outcome_asObjects items w
  have iterated : outcome (iterate u) w = (.ok ys, w.mark n) := by
    rw [outcome_iterate_fixed (World.source_of_array held),
      if_neg (by simpa [Elements.length] using short)]
    exact made
  refine ⟨ys, n, all, ?_⟩
  rw [sequenceOfContent, outcome_bind_ok gathered]
  exact outcome_bind_ok iterated _

/-- A value is a new tuple of the key and the value of an entry. -/
def World.Pairs (w w' : World) (entry : Value × Value) (pair : Value) : Prop :=
  ∃ i, pair = .ref i ∧ w.cells.size ≤ i ∧ w'.cell? i = some (.tuple [entry.1, entry.2])

theorem outcome_newPairs (entries : List (Value × Value)) (w : World) :
    ∃ pairs w', outcome (newPairs entries) w = (.ok pairs, w') ∧ w.cells.size ≤ w'.cells.size ∧
      (∀ i c, w.cell? i = some c → w'.cell? i = some c) ∧
      List.Forall₂ (w.Pairs w') entries pairs := by
  induction entries generalizing w with
  | nil => exact ⟨[], w, rfl, le_rfl, fun _ _ h => h, .nil⟩
  | cons entry rest ih =>
    obtain ⟨key, x⟩ := entry
    obtain ⟨pairs, w', made, grown, kept, all⟩ := ih (w.withCell (.tuple [key, x]))
    have larger : w.cells.size + 1 ≤ w'.cells.size := by simpa [withCell] using grown
    refine ⟨.ref w.cells.size :: pairs, w', ?_, by omega,
      fun i c held => kept i c (cell?_withCell_of_cell? held _), .cons ?_ (all.imp ?_)⟩
    · rw [newPairs]
      exact outcome_bind_ok made _
    · exact ⟨_, rfl, le_rfl, kept _ _ (cell?_withCell_self w _)⟩
    · rintro other pair ⟨i, rfl, fresh, held⟩
      exact ⟨i, rfl, by simp [withCell] at fresh; omega, held⟩

end Tuples

end TemplateEngine
