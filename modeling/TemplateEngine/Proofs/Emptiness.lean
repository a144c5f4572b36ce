import TemplateEngine.Proofs.Gathering
/-!
Truth and emptiness: a collection is true exactly if its sequence has an element. Its truth is told
without reading it, so that the sequence is the same afterwards.
-/
namespace TemplateEngine

/-- The first element of something that is read turn by turn, if there is one. -/
def firstOf (v : Value) : M (Option Value) := do (← Source.ofValue v).at? 0

/-- A search for a first element comes to an end, and tells whether there is one. -/
def Begins (w : World) (search : M (Option Value)) (filled : Bool) : Prop :=
  ∃ first w', outcome search w = (.ok first, w') ∧ first.isSome = filled

section First
variable {w : World} {v : Value}

theorem begins_of_source {s : Source} {w' : World} {filled : Bool}
    (sourced : outcome (Source.ofValue v) w = (.ok s, w')) (begins : Begins w' (s.at? 0) filled) :
    Begins w (firstOf v) filled := by
  obtain ⟨first, w'', read, told⟩ := begins
  exact ⟨first, w'', (outcome_bind_ok sourced _).trans read, told⟩

theorem begins_fixed (elements : Elements) (w : World) :
    Begins w ((Source.fixed elements).at? 0) (!elements.toList.isEmpty) := by
  have start := elements.getElem?_toList 0
  cases listed : elements.toList with
  | nil =>
    rw [listed, List.getElem?_nil] at start
    exact ⟨none, w, by rw [Source.at?, ← start]; rfl, rfl⟩
  | cons x rest =>
    rw [listed, List.getElem?_cons_zero] at start
    obtain ⟨y, n, made, -⟩ := outcome_asObject x w
    exact ⟨some y, w.mark n, by rw [Source.at?, ← start, outcome_map, made], rfl⟩

theorem begins_of_members {items : List Value} (flat : ∀ tag target, v ≠ .view tag target)
    (read : w.members? v = some items) : Begins w (firstOf v) (!items.isEmpty) := by
  obtain ⟨s, sourced, ⟨elements, rfl, rfl⟩ | ⟨i, rfl, found, -⟩⟩ := World.source_of_members flat read
  · exact begins_of_source sourced (begins_fixed elements w)
  · refine begins_of_source sourced ⟨items[0]?, w, ?_, by cases items <;> rfl⟩
    rw [Source.at?, outcome_get_bind, found]
    rfl

theorem begins_of_pairs (tag : Nat) {target : Value} {entries : List (Value × Value)}
    (mapped : w.mapping? target = some entries) :
    Begins w (firstOf (.part tag .items target)) (!entries.isEmpty) := by
  obtain ⟨pairs, w', made, -, -, all⟩ := outcome_newPairs entries w
  have sourced : outcome (Source.ofValue (.part tag .items target)) w =
      (.ok (.fixed (.list pairs)), w') := by
    simp [Source.ofValue, outcome_bind, World.sequence?, World.mapping?, World.repeatable?,
      World.base, World.baseCell?, mapped, made]
  have begins := begins_of_source sourced (begins_fixed (.list pairs) w')
  cases all with
  | nil => exact begins
  | cons => exact begins

/-- A view begins with what is behind it. -/
theorem firstOf_view (tag : Nat) (target : Value) : firstOf (.view tag target) = firstOf target := by
  rw [firstOf, Source.ofValue, firstOf]

theorem begins_newTuple (empty : w.cell? 0 = some (.tuple [])) (items : List Value) :
    Begins w (do firstOf (← newTuple items)) (!items.isEmpty) := by
  obtain ⟨i, w', made, held, -⟩ := outcome_newTuple empty items
  have read : w'.members? (.ref i) = some items := by
    simp [World.members?, World.sequence?, World.base, held, Elements.toList]
  obtain ⟨first, w'', found, told⟩ := begins_of_members (by simp) read
  exact ⟨first, w'', (outcome_bind_ok made _).trans found, told⟩

end First

section Sized
variable {w : World} {v : Value}

/-- A flag value without bits is made of no members, as a member has one. -/
theorem World.flagParts_zero (w : World) (cls : Nat) : w.flagParts cls 0 = [] := by
  rw [flagParts, List.filter_eq_nil_iff]
  intro v member
  obtain ⟨e, bits, rfl, single⟩ | ⟨e, k, rfl⟩ := shape_of_member member
  · have filled : bits ≠ 0 := by
      rintro rfl
      cases single
    simp [filled.symm]
  · simp

/-- Bits of which no member is made are counted, but give no element. -/
def World.Unnamed (w : World) (v : Value) : Prop :=
  ∃ cls bits, behindViews v = .flags cls bits ∧ bits ≠ 0 ∧ w.flagParts cls bits = []

/-- A flag value has as many bits as it has members, or at least both or none, but for unnamed
bits. -/
theorem World.filled_of_flags (w : World) (cls bits : Nat) :
    decide (0 < World.bitCount bits) = (!(w.flagParts cls bits).isEmpty) ∨
      0 < World.bitCount bits ∧ w.Unnamed (.flags cls bits) := by
  by_cases bitless : bits = 0
  · subst bitless
    rw [w.flagParts_zero]
    exact .inl rfl
  · have counted : 0 < World.bitCount bits :=
      Nat.pos_of_ne_zero (World.bitCount_eq_zero.not.mpr bitless)
    cases parts : w.flagParts cls bits with
    | nil => exact .inr ⟨counted, cls, bits, rfl, bitless, parts⟩
    | cons x rest => exact .inl (by simp [counted])

theorem begins_of_flags (cls bits : Nat) :
    Begins w (firstOf (.flags cls bits)) (!(w.flagParts cls bits).isEmpty) :=
  begins_of_members (by simp) (by
    simp [World.members?, World.sequence?, World.mapping?, World.repeatable?, World.base,
      World.baseCell?])

theorem begins_of_plain_size {n : Nat} (flat : ∀ tag target, v ≠ .view tag target)
    (unflagged : ∀ cls bits, v ≠ .flags cls bits)
    (unpaired : ∀ tag target, v ≠ .part tag .items target) (sized : w.size? v = some n) :
    Begins w (firstOf v) (decide (0 < n)) := by
  have unbagged : ∀ items, w.baseCell? v ≠ some (.bag items) := by
    intro items held
    simp [World.size?_of_cell held, Cell.size?] at sized
  rw [World.size?_eq_length flat unflagged unpaired unbagged] at sized
  obtain ⟨items, read, rfl⟩ := Option.map_eq_some_iff.mp sized
  have begins := begins_of_members flat read
  cases items <;> simpa using begins

/-- What knows its size begins with an element unless the size is zero, or unless it is made of bits
without members. -/
theorem begins_of_size {n : Nat} (sized : w.size? v = some n) :
    Begins w (firstOf v) (decide (0 < n)) ∨ 0 < n ∧ w.Unnamed v := by
  induction v with
  | view tag target ih =>
    rw [firstOf_view]
    exact ih sized
  | flags cls bits =>
    obtain rfl := Option.some.inj sized
    obtain filled | unnamed := w.filled_of_flags cls bits
    · rw [filled]
      exact .inl (begins_of_flags cls bits)
    · exact .inr unnamed
  | part tag which target =>
    cases which with
    | items =>
      have counted : (w.mapping? target).map List.length = some n := by
        simpa [World.size?, World.sequence?, World.mapping?, World.base, World.baseCell?] using sized
      obtain ⟨entries, mapped, rfl⟩ := Option.map_eq_some_iff.mp counted
      have begins := begins_of_pairs tag mapped
      exact .inl (by cases entries <;> simpa using begins)
    | keys | values => exact .inl (begins_of_plain_size (by simp) (by simp) (by simp) sized)
  | _ => exact .inl (begins_of_plain_size (by simp) (by simp) (by simp) sized)

end Sized

/-! ## Sequences of values -/

/-- A value, no optional, that is true although its sequence is empty or cannot be made: bits of which
no member is made, an iterator that does not tell that nothing is left, more elements than can be
counted, and the keys or entries of what is no mapping. -/
inductive World.Feigns (w : World) : Value → Prop
  | unnamed {v : Value} (bits : w.Unnamed v) : Feigns w v
  | silent {v : Value} {kind : Stream} (held : w.stream? v = some (kind, []))
    (untold : kind = .generator ∨ kind = .hinted none) : Feigns w v
  | crowded {v : Value} {items : List Value} (read : w.repeatable? v = some items)
    (long : maxLength ≤ items.length) : Feigns w v
  | unmapped {tag : Nat} {which : MappingPart} {target : Value} (none : w.mapping? target = none) :
    Feigns w (.part tag which target)

section Sequences
variable {w : World} {u v : Value} {b : Bool}

/-- A value is true if its sequence begins with an element, and false if that is empty. -/
def World.Agrees (w : World) (u : Value) (b : Bool) : Prop :=
  Begins w (do firstOf (← sequenceOfContent u)) b ∨ b = true ∧ w.Feigns u

/-- What is made alike begins alike. -/
theorem Begins.of_outcome {x y : M Value} {w' : World} (same : outcome x w = outcome y w')
    (begins : Begins w' (do firstOf (← y)) b) : Begins w (do firstOf (← x)) b := by
  obtain ⟨first, w'', read, told⟩ := begins
  refine ⟨first, w'', ?_, told⟩
  rw [outcome_bind, same, ← outcome_bind]
  exact read

theorem begins_of_items {items : List Value} {w' : World} (empty : w'.cell? 0 = some (.tuple []))
    (gathered : outcome (collect u) w = (.ok (.items items), w')) :
    Begins w (do firstOf (← sequenceOfContent u)) (!items.isEmpty) := by
  obtain ⟨ys, n, made, all⟩ := outcome_asObjects items w'
  have begins := begins_newTuple (w := w'.mark n) empty ys
  have same : ys.isEmpty = items.isEmpty := by cases all <;> rfl
  rw [same] at begins
  refine .of_outcome ?_ begins
  rw [sequenceOfContent, outcome_bind_ok gathered]
  exact outcome_bind_ok made _

theorem begins_of_entries {entries : List (Value × Value)} (empty : w.cell? 0 = some (.tuple []))
    (gathered : outcome (collect u) w = (.ok (.pairs entries), w)) :
    Begins w (do firstOf (← sequenceOfContent u)) (!entries.isEmpty) := by
  obtain ⟨pairs, w', made, -, kept, all⟩ := outcome_newPairs entries w
  have begins := begins_newTuple (kept 0 _ empty) pairs
  have same : pairs.isEmpty = entries.isEmpty := by cases all <;> rfl
  rw [same] at begins
  refine .of_outcome ?_ begins
  rw [sequenceOfContent, outcome_bind_ok gathered]
  exact outcome_bind_ok made _

/-- The truth of a value that knows its size. -/
theorem true_of_size {n : Nat} (sized : w.size? u = some n) (untext : w.isText u = false)
    (told : outcome (truthOfContent u) w = (.ok b, w)) : n < maxLength ∧ b = decide (0 < n) := by
  obtain ⟨unspelled, unread⟩ := World.isText_eq_false.mp untext
  rw [outcome_truthOfContent_sized (World.unnumbered_of_size sized) unspelled unread sized] at told
  split_ifs at told with short
  · simpa [short, eq_comm] using told
  · simp at told

theorem World.isText_of_gathered (gathered : w.isGathered u = true) : w.isText u = false := by
  cases text : w.isText u with
  | false => rfl
  | true => simp [isGathered_of_text text] at gathered

theorem true_of_bag {items : List Value} (held : w.baseCell? u = some (.bag items))
    (told : outcome (truthOfContent u) w = (.ok b, w)) : b = !items.isEmpty := by
  obtain ⟨other, unread, unspelled⟩ := World.plain_of_cell held (by simp)
  have unstreamed : w.stream? u = none := Option.eq_none_iff_forall_ne_some.mpr fun _ read => by
    cases held.symm.trans (World.baseCell?_of_stream read)
  have judged := outcome_truthOfContent_other other unread unspelled (World.size?_of_cell held)
  obtain ⟨i, based, -⟩ := World.base_of_baseCell? held
  obtain ⟨j, rfl⟩ | ⟨e, k, rfl⟩ := World.ref_or_member_of_base based <;>
    simpa [judged (by simp) (by simp) (by simp) unstreamed, World.repeatable?, held, eq_comm]
      using told

theorem true_of_pairs {tag : Nat} {target : Value} {entries : List (Value × Value)}
    (mapped : w.mapping? target = some entries)
    (told : outcome (truthOfContent (.part tag .items target)) w = (.ok b, w)) :
    entries.length < maxLength ∧ b = !entries.isEmpty := by
  have sized : w.size? (.part tag .items target) = some entries.length := by
    simp [World.size?, World.sequence?, World.mapping?, World.base, World.baseCell?, mapped]
  obtain ⟨short, rfl⟩ := true_of_size sized rfl told
  exact ⟨by simpa using short, by cases entries <;> simp⟩

/-- What shows a part of no mapping is true. -/
theorem true_of_unmapped {tag : Nat} {which : MappingPart} {target : Value}
    (unmapped : w.mapping? target = none)
    (told : outcome (truthOfContent (.part tag which target)) w = (.ok b, w)) : b = true := by
  have unsized : w.size? (.part tag which target) = none := by
    cases which <;> simp [World.size?, World.sequence?, World.mapping?, World.repeatable?,
      World.base, World.baseCell?, unmapped]
  have judged := outcome_truthOfContent_other (w := w) (v := .part tag which target) rfl rfl rfl
    unsized (by simp) (by simp) (by simp) rfl
  cases which <;> simpa [judged, World.repeatable?, unmapped, eq_comm] using told

theorem begins_of_iterator (empty : w.cell? 0 = some (.tuple [])) {i : Nat} {kind : Stream}
    {rest : List Value} {n : Option Nat} (held : w.cell? i = some (.stream kind rest))
    (hinted : outcome (lengthHint kind rest) w = (.ok n, w)) :
    Begins w (do firstOf (← sequenceOfContent (.ref i))) (!rest.isEmpty) := by
  have apart : 0 ≠ i := by
    rintro rfl
    cases empty.symm.trans held
  have collected : outcome (collect (.ref i)) w =
      (.ok (.items rest), w.rewriteCell i (.stream kind [])) := by
    rw [outcome_collect_iterator held, outcome_bind_ok hinted]
    rfl
  exact begins_of_items ((World.cell?_rewriteCell_of_ne apart _).trans empty) collected

/-- What an honest iterator tells. -/
theorem hint_of_honest {kind : Stream} {rest : List Value} {n : Option Nat}
    (honest : ∀ m, kind = .hinted (some m) → m = rest.length)
    (hinted : outcome (lengthHint kind rest) w = (.ok n, w)) :
    n = some rest.length ∨ n = none ∧ (kind = .generator ∨ kind = .hinted none) := by
  cases kind with
  | list =>
    obtain rfl : some rest.length = n := by simpa [lengthHint] using hinted
    exact .inl rfl
  | generator =>
    obtain rfl : none = n := by simpa [lengthHint] using hinted
    exact .inr ⟨rfl, .inl rfl⟩
  | hinted count =>
    cases count with
    | none =>
      obtain rfl : none = n := by simpa [lengthHint] using hinted
      exact .inr ⟨rfl, .inr rfl⟩
    | some m =>
      obtain rfl := honest m rfl
      rw [lengthHint] at hinted
      split_ifs at hinted
      · cases hinted
      · cases hinted
      · obtain rfl : some rest.length = n := by simpa using hinted
        exact .inl rfl

/-- An iterator that tells how much is left is true if something is, and any other is true. -/
theorem agrees_of_stream (empty : w.cell? 0 = some (.tuple [])) {kind : Stream} {rest : List Value}
    (held : w.stream? u = some (kind, rest))
    (honest : ∀ n, kind = .hinted (some n) → n = rest.length)
    (told : outcome (truthOfContent u) w = (.ok b, w)) : w.Agrees u b := by
  obtain ⟨i, rfl, found⟩ := World.cell_of_stream held
  rw [World.outcome_of_stream held] at told
  obtain ⟨n, hinted⟩ : ∃ n, outcome (lengthHint kind rest) w = (.ok n, w) := by
    obtain ⟨f, refused⟩ | tells := outcome_lengthHint kind
    · rw [outcome_bind_error (refused rest w)] at told
      cases told
    · obtain ⟨n, hinted⟩ := tells rest
      exact ⟨n, hinted w⟩
  have begins := begins_of_iterator empty found hinted
  rw [outcome_bind_ok hinted] at told
  obtain rfl : decide (0 < n.getD 1) = b := by simpa using told
  obtain rfl | ⟨rfl, untold⟩ := hint_of_honest honest hinted
  · exact .inl (by cases rest <;> simpa using begins)
  · cases rest with
    | nil => exact .inr ⟨rfl, .silent held untold⟩
    | cons => exact .inl begins

/-- What has elements and is no sequence is true if it has one. -/
theorem true_of_members {items : List Value} (gathered : w.isGathered u = true)
    (unlisted : w.sequence? u = none) (read : w.members? u = some items)
    (told : outcome (truthOfContent u) w = (.ok b, w)) :
    b = (!items.isEmpty) ∨ b = true ∧ w.Unnamed u := by
  have untext := World.isText_of_gathered gathered
  obtain sized | ⟨cls, bits, rfl, rfl⟩ | held := World.size?_of_members unlisted read
  · obtain ⟨-, rfl⟩ := true_of_size sized untext told
    exact .inl (by cases items <;> simp)
  · obtain ⟨-, rfl⟩ := true_of_size rfl untext told
    obtain filled | ⟨counted, unnamed⟩ := w.filled_of_flags cls bits
    · exact .inl filled
    · exact .inr ⟨by simpa using counted, unnamed⟩
  · exact .inl (true_of_bag held told)

theorem begins_of_itself (gathered : outcome (collect u) w = (.ok .itself, w))
    (begins : Begins w (firstOf u) b) : Begins w (do firstOf (← sequenceOfContent u)) b := by
  have same : outcome (sequenceOfContent u) w = outcome (pure u) w := by
    rw [sequenceOfContent, outcome_bind_ok gathered]
  exact .of_outcome same begins

/-- What is its own sequence is true if it has an element. -/
theorem agrees_of_itself (untext : w.isText u = false) {n : Nat} (sized : w.size? u = some n)
    (gathered : outcome (collect u) w = (.ok .itself, w))
    (told : outcome (truthOfContent u) w = (.ok b, w)) : w.Agrees u b := by
  obtain ⟨-, rfl⟩ := true_of_size sized untext told
  obtain begins | ⟨positive, unnamed⟩ := begins_of_size sized
  · exact .inl (begins_of_itself gathered begins)
  · exact .inr ⟨by simpa using positive, .unnamed unnamed⟩

theorem agrees_of_array (empty : w.cell? 0 = some (.tuple [])) {code : Char} {items : List Value}
    (held : w.baseCell? u = some (.array code items))
    (gathered : outcome (collect u) w = (.ok .copied, w))
    (told : outcome (truthOfContent u) w = (.ok b, w)) : w.Agrees u b := by
  obtain ⟨-, unread, unspelled⟩ := World.plain_of_cell held (by simp)
  obtain ⟨short, rfl⟩ := true_of_size (World.size?_of_cell held)
    (World.isText_eq_false.mpr ⟨unread, unspelled⟩) told
  obtain ⟨ys, n, all, copied⟩ :=
    outcome_sequenceOfContent_copied held (by simpa using short) gathered
  have begins := begins_newTuple (w := w.mark n) empty ys
  have same : (!ys.isEmpty) = decide (0 < items.length) := by cases all <;> simp
  rw [same] at begins
  exact .inl (.of_outcome copied begins)

theorem agrees_of_sequence {elements : Elements} (flat : ∀ tag target, u ≠ .view tag target)
    (read : w.sequence? u = some elements) (untext : w.isText u = false)
    (gathered : outcome (collect u) w = (.ok .viewed, w))
    (told : outcome (truthOfContent u) w = (.ok b, w)) : w.Agrees u b := by
  obtain ⟨-, rfl⟩ := true_of_size (World.size?_of_sequence read) untext told
  have later : (w.mark 1).members? u = some elements.toList := by
    rw [World.members?, World.sequence?_mark, read]
  have begins := begins_of_members flat later
  rw [← firstOf_view w.nextTag] at begins
  have same : (!elements.toList.isEmpty) = decide (0 < elements.length) := by
    rw [← Elements.length_toList]
    cases elements.toList <;> simp
  rw [same] at begins
  refine .inl (.of_outcome (y := pure (.view w.nextTag u)) ?_ begins)
  rw [sequenceOfContent, outcome_bind_ok gathered]
  rfl

/-- Elements that are too many for a length are not counted for the truth. -/
theorem crowded_of_members {items : List Value} (gathered : w.isGathered u = true)
    (unlisted : w.sequence? u = none) (read : w.members? u = some items)
    (long : maxLength ≤ items.length) (told : outcome (truthOfContent u) w = (.ok b, w)) :
    w.Agrees u b := by
  have filled : b = true := by
    obtain rfl | ⟨rfl, -⟩ := true_of_members gathered unlisted read told
    · cases items with
      | nil => simp [maxLength] at long
      | cons => rfl
    · rfl
  refine .inr ⟨filled, ?_⟩
  obtain sized | ⟨cls, bits, rfl, rfl⟩ | held := World.size?_of_members unlisted read
  · obtain ⟨short, -⟩ := true_of_size sized (World.isText_of_gathered gathered) told
    omega
  · exact .crowded rfl long
  · exact .crowded (World.repeatable?_of_bag held) long

theorem agrees (empty : w.cell? 0 = some (.tuple [])) (gathered : w.isGathered u = true)
    (unstreamed : w.stream? u = none)
    (told : outcome (truthOfContent u) w = (.ok b, w)) : w.Agrees u b := by
  have untext := World.isText_of_gathered gathered
  obtain ⟨r, collected, shape⟩ := World.gathers (w := w) unstreamed
  cases shape with
  | nothing => cases gathered
  | @view tag target =>
    cases sized : w.size? (.view tag target) with
    | some n => exact agrees_of_itself untext sized collected told
    | none =>
      rw [outcome_truthOfContent_view rfl rfl rfl sized rfl] at told
      cases told
  | tuple held => exact agrees_of_itself untext (World.size?_of_cell held) collected told
  | array held => exact agrees_of_array empty held collected told
  | sequence _ flat _ read => exact agrees_of_sequence flat read untext collected told
  | members _ unlisted read short =>
    obtain rfl | ⟨rfl, unnamed⟩ := true_of_members gathered unlisted read told
    · exact .inl (begins_of_items empty collected)
    · exact .inr ⟨rfl, .unnamed unnamed⟩
  | @pairs tag target short =>
    cases mapped : w.mapping? target with
    | some entries =>
      rw [mapped, Option.getD_some] at collected
      obtain ⟨-, rfl⟩ := true_of_pairs mapped told
      exact .inl (begins_of_entries empty collected)
    | none => exact .inr ⟨true_of_unmapped mapped told, .unmapped mapped⟩
  | tooMany _ unlisted read long =>
    exact crowded_of_members gathered unlisted read long told
  | @tooManyPairs tag target long =>
    cases mapped : w.mapping? target with
    | some entries =>
      obtain ⟨short, -⟩ := true_of_pairs mapped told
      simp only [mapped, Option.getD_some] at long
      omega
    | none => exact .inr ⟨true_of_unmapped mapped told, .unmapped mapped⟩
  | keyless unmapped => exact .inr ⟨true_of_unmapped unmapped told, .unmapped unmapped⟩
  | alone given single => simp [single] at gathered

end Sequences

/-- A collection or a mapping, also within optionals, is true exactly if its sequence has an element,
unless it is one of those that only feign to have one; it has no truth exactly if it is too long or
cannot tell how long it is. A generator is true in any case. Nothing is read, so that the sequence is
afterwards what it would have been. -/
theorem toBoolean_of_gathered (w : World) (v : Value) (empty : w.cell? 0 = some (.tuple []))
    (gathered : w.isGathered (w.unwrap v) = true)
    (honest : ∀ n rest, w.stream? (w.unwrap v) = some (.hinted (some n), rest) → n = rest.length) :
    ∃ result, outcome (toBoolean v) w = (result, w) ∧
      (∀ f, result = .error f ↔ w.Untold (w.unwrap v) f) ∧
      (∀ b, result = .ok b → Begins w (do firstOf (← toCollection v)) b ∨
        b = true ∧ w.Feigns (w.unwrap v)) ∧
      (∀ rest, w.stream? (w.unwrap v) = some (.generator, rest) → result = .ok true) ∧
      outcome (do
        let _ ← attempt (toBoolean v)
        toCollection v) w = outcome (toCollection v) w := by
  obtain ⟨result, told, -, untold⟩ := toBoolean_told w v
  have content : outcome (truthOfContent (w.unwrap v)) w = (result, w) := by
    rw [← told, toBoolean, outcome_get_bind]
  have sequence : outcome (toCollection v) w = outcome (sequenceOfContent (w.unwrap v)) w := by
    rw [toCollection, outcome_get_bind]
  refine ⟨result, told, untold, ?_, ?_, ?_⟩
  · rintro b rfl
    have agreed : w.Agrees (w.unwrap v) b := by
      cases held : w.stream? (w.unwrap v) with
      | none => exact agrees empty gathered held content
      | some stream =>
        obtain ⟨kind, rest⟩ := stream
        exact agrees_of_stream empty held (fun n hint => honest n rest (by rw [held, hint])) content
    exact agreed.imp_left (.of_outcome sequence)
  · intro rest held
    rw [World.outcome_of_stream held] at content
    exact (congrArg Prod.fst content).symm
  · rw [outcome_bind, outcome_attempt, told]

/-- A world with an iterator over a list that has one element left. -/
def halfRead : World := { cells := #[.tuple [], .stream .list [.int 7]] }

/-- The iterator is true, and its sequence begins with what is left. -/
theorem toBoolean_of_gathered_iterator :
    halfRead.cell? 0 = some (.tuple []) ∧
      halfRead.isGathered (halfRead.unwrap (.optional 2 (.ref 1))) = true ∧
      outcome (toBoolean (.optional 2 (.ref 1))) halfRead = (.ok true, halfRead) ∧
      Begins halfRead (do firstOf (← toCollection (.optional 2 (.ref 1)))) true := by
  have content : halfRead.unwrap (.optional 2 (.ref 1)) = .ref 1 := rfl
  have held : halfRead.stream? (.ref 1) = some (.list, [.int 7]) := rfl
  obtain ⟨result, told, -, agrees, -⟩ := toBoolean_of_gathered halfRead (.optional 2 (.ref 1)) rfl rfl
    (by rw [content, held]; nofun)
  obtain rfl : result = .ok true := (congrArg Prod.fst told).symm.trans rfl
  refine ⟨rfl, rfl, told, (agrees true rfl).resolve_right ?_⟩
  rintro ⟨-, feigns⟩
  rw [content] at feigns
  cases feigns with
  | unnamed bits =>
    obtain ⟨cls, bits, made, -⟩ := bits
    cases made
  | silent read => cases held.symm.trans read
  | crowded read => cases read

/-- A range of more elements than a length can tell has no truth. -/
example : (outcome (toBoolean (.range 0 (2 ^ 63) 1)) {}).1 = .error .lengthTooLarge := rfl

end TemplateEngine
