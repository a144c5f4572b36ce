import TemplateEngine.Proofs.SequenceViews
/-!
Collections of values. The sequence of a value is a tuple or a view with the elements that the value
has, in their order, and it is its own sequence. An iterator is left empty.
-/
namespace TemplateEngine

namespace World

/-- The elements of a value that is no optional, in order: nothing has none; a sequence has those
under its indices, a mapping its keys, its items their pairs, and what else can be iterated what it
gives, which is what is left for an iterator. Texts, dates and all else are the only element. -/
def elements (w : World) (v : Value) : List Element :=
  match v with
  | .null => []
  | .part _ .items target => ((w.mapping? target).getD []).map fun (key, x) => .pair key x
  | v =>
    if w.isGathered v then
      ((w.members? v).getD (((w.stream? v).map Prod.snd).getD [])).map .value
    else [.value v]

/-- What stands for an element in a sequence that was made: the value itself, or a new mark of a
number, or a new tuple for a pair. -/
inductive Presents (w w' : World) : Element → Value → Prop
  | value {x y : Value} (same : x.Remarks y) : Presents w w' (.value x) y
  | pair {key x y : Value} (made : w.Pairs w' (key, x) y) : Presents w w' (.pair key x) y

/-- Why a value has no sequence: it has too many elements to copy them, or an iterator refuses to
tell how much is left, or it is made of the keys of what is no mapping. -/
inductive Uncollected (w : World) : Value → Fault → Prop
  | long {v : Value} (copied : w.sequence? v = none ∨ w.isArray v = true)
    (many : maxLength ≤ (w.elements v).length) : Uncollected w v .lengthTooLarge
  | hint {i : Nat} {kind : Stream} {rest : List Value} {f : Fault}
    (cell : w.cell? i = some (.stream kind rest))
    (refused : outcome (lengthHint kind rest) w = (.error f, w)) : Uncollected w (.ref i) f
  | keyless {tag : Nat} {target : Value} (unmapped : w.mapping? target = none) :
    Uncollected w (.part tag .keys target)
      (.notIterable (w.typeInMessages (.part tag .keys target)))

variable {w w' : World} {v : Value} {items : List Value}

theorem elements_of_members (gathered : w.isGathered v = true)
    (unpaired : ∀ tag target, v ≠ .part tag .items target) (read : w.members? v = some items) :
    w.elements v = items.map .value := by
  unfold elements
  split
  · cases gathered
  · exact absurd rfl (unpaired _ _)
  · rw [if_pos gathered, read]
    rfl

theorem elements_of_stream {i : Nat} {kind : Stream}
    (cell : w.cell? i = some (.stream kind items)) : w.elements (.ref i) = items.map .value := by
  have streamed : w.stream? (.ref i) = some (kind, items) := by simp [stream?, cell]
  have held : w.baseCell? (.ref i) = some (.stream kind items) := by simp [baseCell?, base, cell]
  have unread := members?_of_stream held
  have gathered : w.isGathered (.ref i) = true := by
    simp [isGathered, isCollection, isText, text?, bytes?, base, cell, isMapping, mapping?,
      baseCell?, isIterable, isIterator, streamed]
  simp [elements, gathered, unread, streamed]

theorem elements_of_single (given : v ≠ .null) (single : w.isGathered v = false) :
    w.elements v = [.value v] := by
  unfold elements
  split
  · exact absurd rfl given
  · simp [isGathered, isCollection, isText, text?, bytes?, base, isMapping, mapping?, baseCell?,
      isArray, isIterable, isSet] at single
  · rw [single]
    rfl

/-- A tuple or a view that has the elements of a value. A view of what is no sequence has none, and
stays what it is. -/
structure Collects (w : World) (v r : Value) (w' : World) : Prop where
  kind : (∃ tag target, r = .view tag target) ∨ w'.isTuple r = true
  elements : (∃ e, w'.sequence? r = some e ∧
      List.Forall₂ (w.Presents w') (w.elements v) e.toList) ∨
    r = v ∧ w' = w ∧ ∃ tag target, v = .view tag target ∧ w.sequence? target = none

theorem presents_self (w w' : World) (items : List Value) :
    List.Forall₂ (w.Presents w') (items.map .value) items := by
  induction items with
  | nil => exact .nil
  | cons x rest ih => exact .cons (.value (.inl rfl)) ih

theorem collects_of_cell {i : Nat} (cell : w'.cell? i = some (.tuple items))
    (all : List.Forall₂ (w.Presents w') (w.elements v) items) : w.Collects v (.ref i) w' := by
  refine ⟨.inr ?_, .inl ⟨.list items, ?_, all⟩⟩ <;>
    simp [isTuple, baseCell?, sequence?, base_ref, cell, Cell.base?]

end World

open World

section
variable {w w' w₁ : World} {v r : Value} {items : List Value}

/-- A new tuple of elements, which were gathered without a change to what numbers and cells there
are. -/
theorem outcome_tuple_of_items (blank : w₁.cell? 0 = some (.tuple []))
    (listed : w.elements v = items.map .value) :
    ∃ i w', outcome (do newTuple (← asObjects items)) w₁ = (.ok (.ref i), w') ∧
      w.Collects v (.ref i) w' ∧ ∃ n, (w₁.mark n).Adds w' := by
  obtain ⟨ys, n, marked, all⟩ := outcome_asObjects items w₁
  obtain ⟨i, w', made, cell, adds⟩ := outcome_newTuple (w := w₁.mark n) blank ys
  refine ⟨i, w', by rw [outcome_bind_ok marked, made], collects_of_cell cell ?_, n, adds⟩
  rw [listed]
  exact List.forall₂_map_left_iff.mpr (all.imp fun _ _ marks => .value marks.remarks)

/-- A value that was gathered as its own sequence, or is viewed, keeps its elements. -/
theorem collects_of_sequence {e : Elements} (read : w'.sequence? r = some e)
    (listed : w.elements v = e.toList.map .value)
    (kind : (∃ tag target, r = .view tag target) ∨ w'.isTuple r = true) : w.Collects v r w' :=
  ⟨kind, .inl ⟨e, read, listed ▸ presents_self w w' e.toList⟩⟩

theorem isGathered_of_isArray (array : w.isArray v = true) : w.isGathered v = true := by
  obtain ⟨c, held, ordered⟩ : ∃ c, w.baseCell? v = some c ∧
      ((∃ items, c = .tuple items) ∨ ∃ code items, c = .array code items) := by
    unfold isArray at array
    split at array
    · exact ⟨_, ‹_›, .inl ⟨_, rfl⟩⟩
    · exact ⟨_, ‹_›, .inr ⟨_, _, rfl⟩⟩
    · cases array
  obtain ⟨i, based, cell⟩ := base_of_baseCell? held
  obtain ⟨j, rfl⟩ | ⟨k, n, rfl⟩ := ref_or_member_of_base based <;>
    obtain ⟨items, rfl⟩ | ⟨code, items, rfl⟩ := ordered <;>
    simp [isGathered, isCollection, isText, text?, bytes?, isMapping, mapping?, isArray, held,
      based, cell]

theorem elements_of_sequence {e : Elements} (gathered : w.isGathered v = true)
    (read : w.sequence? v = some e) : w.elements v = e.toList.map .value := by
  refine elements_of_members gathered ?_ (by rw [members?, read])
  rintro tag target rfl
  cases read

/-- The pairs of a mapping are made one after the other, and a tuple of them. -/
theorem outcome_tuple_of_pairs (blank : w.cell? 0 = some (.tuple []))
    {entries : List (Value × Value)}
    (listed : w.elements v = entries.map fun (key, x) => .pair key x) :
    ∃ i w', outcome (do newTuple (← newPairs entries)) w = (.ok (.ref i), w') ∧
      w.Collects v (.ref i) w' := by
  obtain ⟨pairs, w₁, paired, -, kept, all⟩ := outcome_newPairs entries w
  obtain ⟨i, w', made, cell, adds⟩ := outcome_newTuple (kept 0 _ blank) pairs
  refine ⟨i, w', by rw [outcome_bind_ok paired, made], collects_of_cell cell ?_⟩
  rw [listed]
  refine List.forall₂_map_left_iff.mpr (all.imp ?_)
  rintro ⟨key, x⟩ pair ⟨j, rfl, fresh, held⟩
  exact .pair ⟨j, rfl, fresh, (adds.cell? (lt_size_of_cell? held)).trans held⟩

/-- What is no iterator has a sequence of its elements, unless they are too many. -/
theorem collects_of_unstreamed (blank : w.cell? 0 = some (.tuple []))
    (unstreamed : w.stream? v = none) :
    (∃ r w', outcome (sequenceOfContent v) w = (.ok r, w') ∧ w.Collects v r w') ∨
      ∃ f, w.Uncollected v f ∧ outcome (sequenceOfContent v) w = (.error f, w) := by
  obtain ⟨c, run, gathers⟩ := World.gathers unstreamed
  cases gathers with
  | nothing =>
    have listed : w.elements .null = ([] : List Value).map .value := rfl
    obtain ⟨i, w', made, collects, -⟩ := outcome_tuple_of_items blank listed
    exact .inl ⟨_, w', made, collects⟩
  | @view tag target =>
    refine .inl ⟨.view tag target, w, rfl, ?_⟩
    cases read : w.sequence? target with
    | none => exact ⟨.inl ⟨tag, target, rfl⟩, .inr ⟨rfl, rfl, tag, target, rfl, read⟩⟩
    | some e =>
      have gathered : w.isGathered (.view tag target) = true := by
        simp [isGathered, isCollection, isText, text?, bytes?, base, isMapping, mapping?, baseCell?,
          isArray, isIterable, isSequence]
      exact collects_of_sequence read (elements_of_sequence gathered read) (.inl ⟨_, _, rfl⟩)
  | @tuple v items held =>
    have tuple : w.isTuple v = true := by simp [isTuple, held]
    have read := sequence?_of_cell (.inr (.inl held))
    have gathered := isGathered_of_isArray (by simp [isArray, held] : w.isArray v = true)
    exact .inl ⟨v, w, by rw [sequenceOfContent, outcome_bind_ok run]; rfl,
      collects_of_sequence read (elements_of_sequence gathered read) (.inr tuple)⟩
  | @array v code items held =>
    have read := sequence?_of_array held
    have array : w.isArray v = true := by simp [isArray, held]
    have listed := elements_of_sequence (isGathered_of_isArray array) read
    have iterated := outcome_iterate_fixed (source_of_array held)
    by_cases long : maxLength ≤ (Elements.list items).length
    · refine .inr ⟨_, .long (.inr array) (by rw [listed, List.length_map]; exact long), ?_⟩
      rw [if_pos long] at iterated
      rw [sequenceOfContent, outcome_bind_ok run]
      exact outcome_bind_error iterated _
    · obtain ⟨i, w', made, collects, -⟩ := outcome_tuple_of_items blank listed
      refine .inl ⟨_, w', ?_, collects⟩
      rw [if_neg long] at iterated
      rw [sequenceOfContent, outcome_bind_ok run, ← made]
      dsimp only
      rw [outcome_bind, outcome_bind, iterated]
  | @sequence v e gathered flat unlike read =>
    have later : (w.mark 1).sequence? (.view w.nextTag v) = some e :=
      (w.sequence?_mark 1 v).trans read
    exact .inl ⟨.view w.nextTag v, w.mark 1, by rw [sequenceOfContent, outcome_bind_ok run]; rfl,
      collects_of_sequence later (elements_of_sequence gathered read) (.inl ⟨_, _, rfl⟩)⟩
  | @members v items gathered unlisted read short =>
    have listed := elements_of_members gathered (flat_of_members unlisted read).2 read
    obtain ⟨i, w', made, collects, -⟩ := outcome_tuple_of_items (w := w) blank listed
    exact .inl ⟨_, w', by rw [sequenceOfContent, outcome_bind_ok run, made], collects⟩
  | @pairs tag target short =>
    obtain ⟨i, w', made, collects⟩ :=
      outcome_tuple_of_pairs (v := .part tag .items target) blank rfl
    exact .inl ⟨_, w', by rw [sequenceOfContent, outcome_bind_ok run, made], collects⟩
  | @tooMany v items gathered unlisted read long =>
    have listed := elements_of_members gathered (flat_of_members unlisted read).2 read
    exact .inr ⟨_, .long (.inl unlisted) (by rw [listed, List.length_map]; exact long),
      by rw [sequenceOfContent, outcome_bind_error run]⟩
  | @tooManyPairs tag target long =>
    exact .inr ⟨_, .long (.inl rfl) (by simpa [World.elements] using long),
      by rw [sequenceOfContent, outcome_bind_error run]⟩
  | keyless unmapped =>
    exact .inr ⟨_, .keyless unmapped, by rw [sequenceOfContent, outcome_bind_error run]⟩
  | @alone v given single =>
    have listed : w.elements v = [v].map .value := elements_of_single given single
    obtain ⟨i, w', made, collects, -⟩ := outcome_tuple_of_items blank listed
    exact .inl ⟨_, w', by rw [sequenceOfContent, outcome_bind_ok run, made], collects⟩

theorem content?_of_stream {i : Nat} {kind : Stream}
    (cell : w.cell? i = some (.stream kind items)) : w.content? (.ref i) = none := by
  simp [content?, base, cell]

/-- An iterator gives what is left of it, and after that nothing. -/
theorem collects_of_stream (blank : w.cell? 0 = some (.tuple [])) {i : Nat} {kind : Stream}
    (cell : w.cell? i = some (.stream kind items)) :
    (∃ r w', outcome (sequenceOfContent (.ref i)) w = (.ok r, w') ∧ w.Collects (.ref i) r w' ∧
        outcome (toCollection (.ref i)) w' = (.ok emptyTuple, w')) ∨
      ∃ f, w.Uncollected (.ref i) f ∧ outcome (sequenceOfContent (.ref i)) w = (.error f, w) := by
  obtain ⟨f, refused⟩ | tells := outcome_lengthHint kind
  · have gathered := outcome_collect_iterator cell
    rw [outcome_bind_error (refused items w)] at gathered
    exact .inr ⟨f, .hint cell (refused items w), outcome_bind_error gathered _⟩
  have gives {w : World} {rest : List Value} (cell : w.cell? i = some (.stream kind rest)) :
      outcome (collect (.ref i)) w = (.ok (.items rest), w.rewriteCell i (.stream kind [])) := by
    obtain ⟨n, told⟩ := tells rest
    rw [outcome_collect_iterator cell, outcome_bind_ok (told w)]
    rfl
  have apart : 0 ≠ i := by
    rintro rfl
    cases blank.symm.trans cell
  obtain ⟨j, w', made, collects, n, adds⟩ := outcome_tuple_of_items
    ((cell?_rewriteCell_of_ne apart _).trans blank) (elements_of_stream cell)
  have emptied : (w.rewriteCell i (.stream kind [])).cell? i = some (.stream kind []) :=
    cell?_rewriteCell_self cell _
  have left : w'.cell? i = some (.stream kind []) :=
    (adds.cell? (lt_size_of_cell? emptied)).trans emptied
  refine .inl ⟨_, w', by rw [sequenceOfContent, outcome_bind_ok (gives cell), made], collects, ?_⟩
  rw [toCollection, outcome_get_bind, w'.unwrap_of_content _ (content?_of_stream left),
    sequenceOfContent, outcome_bind_ok (gives left), rewriteCell_self left]
  rfl

/-- A tuple or a view is its own sequence. -/
theorem outcome_toCollection_own
    (kind : (∃ tag target, r = .view tag target) ∨ w.isTuple r = true) :
    outcome (toCollection r) w = (.ok r, w) := by
  have own : w.content? r = none ∧ outcome (collect r) w = (.ok .itself, w) := by
    obtain ⟨tag, target, rfl⟩ | tuple := kind
    · exact ⟨rfl, rfl⟩
    · obtain ⟨items, held⟩ := cell_of_isTuple tuple
      obtain ⟨i, based, -⟩ := base_of_baseCell? held
      refine ⟨by simp [content?, based], ?_⟩
      obtain ⟨j, rfl⟩ | ⟨k, n, rfl⟩ := ref_or_member_of_base based <;> simp [collect, tuple]
  rw [toCollection, outcome_get_bind, w.unwrap_of_content r own.1, sequenceOfContent,
    outcome_bind_ok own.2]
  rfl

/-- The sequence of a value is a tuple or a view, which has the elements of what is inside all
optionals, none more and none less and in their order, and is its own sequence. An iterator has none
left after it. There is a sequence unless the elements are too many to be copied, an iterator
refuses to tell how much is left, or the keys are those of no mapping. -/
theorem toCollection_elements (blank : w.cell? 0 = some (.tuple [])) (v : Value) :
    (∀ r w', outcome (toCollection v) w = (.ok r, w') →
      w.Collects (w.unwrap v) r w' ∧ outcome (toCollection r) w' = (.ok r, w') ∧
      ∀ i kind rest, v = .ref i → w.cell? i = some (.stream kind rest) →
        outcome (toCollection v) w' = (.ok emptyTuple, w')) ∧
    ((∃ r w', outcome (toCollection v) w = (.ok r, w')) ∨
      ∃ f, w.Uncollected (w.unwrap v) f ∧ outcome (toCollection v) w = (.error f, w)) := by
  have content : outcome (toCollection v) w = outcome (sequenceOfContent (w.unwrap v)) w := by
    rw [toCollection, outcome_get_bind]
  have decided : (∃ r w', outcome (sequenceOfContent (w.unwrap v)) w = (.ok r, w') ∧
      w.Collects (w.unwrap v) r w' ∧
      ∀ i kind rest, v = .ref i → w.cell? i = some (.stream kind rest) →
        outcome (toCollection v) w' = (.ok emptyTuple, w')) ∨
      ∃ f, w.Uncollected (w.unwrap v) f ∧
        outcome (sequenceOfContent (w.unwrap v)) w = (.error f, w) := by
    cases streamed : w.stream? (w.unwrap v) with
    | none =>
      refine (collects_of_unstreamed blank streamed).imp_left ?_
      rintro ⟨r, w', made, collects⟩
      refine ⟨r, w', made, collects, fun i kind rest iterator cell => ?_⟩
      rw [iterator, w.unwrap_of_content _ (content?_of_stream cell), stream?, cell] at streamed
      cases streamed
    | some stream =>
      obtain ⟨i, inside, cell⟩ := cell_of_stream streamed
      rw [inside]
      refine (collects_of_stream blank cell).imp_left ?_
      rintro ⟨r, w', made, collects, again⟩
      refine ⟨r, w', made, collects, fun j kind rest iterator cell => ?_⟩
      rw [iterator, w.unwrap_of_content _ (content?_of_stream cell)] at inside
      rw [iterator, inside, again]
  rw [content]
  obtain ⟨r, w', made, collects, again⟩ | ⟨f, why, failed⟩ := decided
  · refine ⟨fun r' w'' made' => ?_, .inl ⟨r, w', made⟩⟩
    obtain ⟨same, rfl⟩ := Prod.mk.inj (made.symm.trans made')
    obtain rfl := Except.ok.inj same
    exact ⟨collects, outcome_toCollection_own collects.kind, again⟩
  · exact ⟨fun r w' made => (by cases failed.symm.trans made), .inr ⟨f, why, failed⟩⟩

/-- An iterator with two numbers left. -/
def turnstile : World where
  cells := #[.tuple [], .stream .generator [.int 4, .int 5]]

/-- The iterator gives a tuple of both, and nothing the second time. -/
theorem toCollection_elements_turnstile :
    ∃ r w', outcome (toCollection (.ref 1)) turnstile = (.ok r, w') ∧
      (∃ e, w'.sequence? r = some e ∧
        List.Forall₂ (turnstile.Presents w') [.value (.int 4), .value (.int 5)] e.toList) ∧
      outcome (toCollection r) w' = (.ok r, w') ∧
      outcome (toCollection (.ref 1)) w' = (.ok emptyTuple, w') := by
  obtain ⟨r, w', made⟩ : ∃ r w', outcome (toCollection (.ref 1)) turnstile = (.ok r, w') :=
    ⟨_, _, rfl⟩
  obtain ⟨collects, own, again⟩ := (toCollection_elements (w := turnstile) rfl (.ref 1)).1 r w' made
  refine ⟨r, w', made, ?_, own, again 1 .generator [.int 4, .int 5] rfl rfl⟩
  obtain listed | ⟨-, -, tag, target, view, -⟩ := collects.elements
  · exact listed
  · cases view

end

end TemplateEngine
