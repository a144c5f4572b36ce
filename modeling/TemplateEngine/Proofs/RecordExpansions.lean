import TemplateEngine.Proofs.Arguments
import TemplateEngine.Proofs.Hiding
import TemplateEngine.Proofs.SequenceViews
/-!
The two expansions of a record, as a sequence of names and as a mapping of properties. They have the
same names, and the mapping has under each name what the record answered for it. A record that is a
mapping itself is the exception: it stands for itself as a mapping, whatever its properties are.
-/
namespace TemplateEngine

theorem World.isBare_of_text {w : World} {v : Value} {text : String} (read : w.text? v = some text) :
    v.isBare = false := by
  unfold World.text? at read
  split at read
  · rename_i based
    cases v <;> simp_all [World.base, Value.isBare]
  · cases read

section Sources
variable {w w' : World} {v : Value} {s : Source} {items : List Value}

/-- What a view has as its members are the elements of the sequence behind it. -/
theorem members?_of_view {tag : Nat} {target : Value}
    (read : w.members? (.view tag target) = some items) : w.members? target = some items := by
  cases listed : w.sequence? target with
  | some e => simpa [World.members?, World.sequence?, listed] using read
  | none =>
    simp [World.members?, World.sequence?, listed, World.mapping?, World.repeatable?,
      World.baseCell?, World.base] at read

/-- Elements that can be read again and again are read turn by turn. -/
theorem gives_of_members (read : w.members? v = some items) :
    ∃ s e, outcome (Source.ofValue v) w = (.ok s, w) ∧ w.Gives s e ∧ e.toList = items := by
  induction v with
  | view tag target ih => exact ih (members?_of_view read)
  | _ =>
    obtain ⟨s, sourced, ⟨e, rfl, same⟩ | ⟨i, rfl, held, -⟩⟩ :=
      World.source_of_members (by simp) read
    · exact ⟨_, e, sourced, .inl rfl, same⟩
    · exact ⟨_, .list items, sourced, .inr ⟨i, items, rfl, held, rfl⟩, rfl⟩

theorem source_later_flat (flat : ∀ tag target, v ≠ .view tag target) (grown : w.Grows w')
    (whole : w.Whole) (present : w.Holds v) (read : w.members? v = some items)
    (sourced : outcome (Source.ofValue v) w = (.ok s, w)) :
    outcome (Source.ofValue v) w' = (.ok s, w') := by
  rw [Source.ofValue.eq_2 _ flat, outcome_get_bind] at sourced ⊢
  rw [grown.base present, grown.baseCell? whole present, grown.sequence? whole present,
    grown.mapping? whole present, grown.repeatable? whole present]
  unfold World.members? at read
  split at sourced
  · obtain ⟨⟨⟩, -⟩ := Prod.mk.inj sourced
    rfl
  · obtain ⟨⟨⟩, -⟩ := Prod.mk.inj sourced
    rfl
  · revert read sourced
    cases w.sequence? v with
    | some e => exact fun _ sourced => by obtain ⟨⟨⟩, -⟩ := Prod.mk.inj sourced; rfl
    | none =>
      cases w.mapping? v with
      | some entries => exact fun _ sourced => by obtain ⟨⟨⟩, -⟩ := Prod.mk.inj sourced; rfl
      | none =>
        cases w.repeatable? v with
        | some items => exact fun _ sourced => by obtain ⟨⟨⟩, -⟩ := Prod.mk.inj sourced; rfl
        | none =>
          intro read
          cases read

/-- They are read in the same way when other cells come in. -/
theorem source_later (grown : w.Grows w') (whole : w.Whole) (present : w.Holds v)
    (read : w.members? v = some items) (sourced : outcome (Source.ofValue v) w = (.ok s, w)) :
    outcome (Source.ofValue v) w' = (.ok s, w') := by
  induction v with
  | view tag target ih => exact ih present (members?_of_view read) sourced
  | _ => exact source_later_flat (by simp) grown whole present read sourced

end Sources

/-- A record is asked for one name after the other, and what it answers is written into the mapping
in a cell. The names stay what they are in the meantime. -/
inductive World.Answers (r : Value) (cell : Nat) (s : Source) (e : Elements) :
    World → List Value → List Value → World → Prop
  | nil {w : World} : Answers r cell s e w [] [] w
  | cons {w w' w'' : World} {name v : Value} {names answers : List Value} (still : w.Gives s e)
      (answered : outcome (recordProperty r name) w = (.ok v, w'))
      (later : Answers r cell s e (outcome (writeEntry cell name v) w').2 names answers w'') :
      Answers r cell s e w (name :: names) (v :: answers) w''

/-- Texts stay texts. -/
theorem World.Kept.texts {V : Veil} {w w' : World} (kept : World.Kept V w w') {names : List Value}
    {texts : List String} (read : names.map w.text? = texts.map some) :
    names.map w'.text? = texts.map some := by
  induction names generalizing texts with
  | nil => exact read
  | cons name names ih =>
    cases texts with
    | nil => cases read
    | cons t ts =>
      obtain ⟨texted, others⟩ := List.cons.inj read
      rw [List.map_cons, kept.text? texted, ih others, List.map_cons]

section Filling
variable {r : Value} {cell : Nat} {s : Source} {e : Elements} {V : Veil}

/-- An entry under a text is written into the mapping in a cell. -/
theorem outcome_writeEntry {w : World} {entries : List (Value × Value)}
    {named : List (Name Value × Value)} {key : Value} {text : String}
    (there : w.cell? cell = some (.dict false entries)) (held : w.named? entries = some named)
    (read : w.text? key = some text) (v : Value) :
    ∃ entries' named', outcome (writeEntry cell key v) w =
        (.ok (), w.rewriteCell cell (.dict false entries')) ∧
      w.named? entries' = some named' ∧ itemsOf named' = Table.insert (itemsOf named) text v := by
  obtain ⟨entries', named', written, held', same⟩ := outcome_insertEntry held read v
  refine ⟨entries', named', ?_, held', same⟩
  rw [writeEntry, outcome_get_bind, there]
  exact (outcome_bind_ok written _).trans rfl

/-- The names that a record is asked for become the texts of the keys, and its answers the values.
The record cannot reach the mapping while it is filled. -/
theorem outcome_visit_answers {w w' : World} {names answers : List Value}
    (objects : ∀ x ∈ e.toList, x.isBare = false)
    (answered : World.Answers r cell s e w names answers w') :
    ∀ {turn : Nat} {entries : List (Value × Value)} {named : List (Name Value × Value)}
      {texts : List String}, w.Sealed (V.hide {cell}) → cell ∉ V.frozen →
      Within ((V.hide {cell}).region w) r → Within ((V.hide {cell}).region w) names →
      e.toList.drop turn = names → names.map w.text? = texts.map some →
      w.cell? cell = some (.dict false entries) → w.named? entries = some named →
      ∃ l entries' named',
        outcome (s.visit id (fun _ name => do writeEntry cell name (← recordProperty r name))
          names.length turn) w = (.ok l, w') ∧
        w'.cell? cell = some (.dict false entries') ∧ w'.named? entries' = some named' ∧
        itemsOf named' = Table.insertAll (itemsOf named) (texts.zip answers) := by
  induction answered with
  | nil =>
    intro turn entries named texts _ _ _ _ _ _ there held
    exact ⟨[], entries, named, rfl, there, held, by simp [Table.insertAll]⟩
  | @cons w₀ w₁ w₂ name v names answers still answered later ih =>
    intro turn entries named texts sealed_ unfrozen record known rest read there held
    obtain ⟨nameKnown, othersKnown⟩ := within_cons.mp known
    obtain ⟨text, texts, rfl⟩ : ∃ t ts, texts = t :: ts := by
      cases texts with
      | nil => cases read
      | cons t ts => exact ⟨t, ts, rfl⟩
    obtain ⟨texted, othersTexted⟩ := List.cons.inj read
    -- while the record answers, the cell of the mapping is frozen
    have spared := spares_recordProperty (V := (V.hide {cell}).freeze) record nameKnown sealed_.freeze
    rw [answered] at spared
    obtain ⟨frozen, answerKnown⟩ := spared
    have kept : World.Kept (V.hide {cell}) w₀ w₁ := frozen.reveal (Veil.covers_freeze _)
    have there₁ : w₁.cell? cell = some (.dict false entries) :=
      (frozen.frozen cell (.inl rfl)).trans there
    obtain ⟨entries₁, named₁, written, held₁, same₁⟩ :=
      outcome_writeEntry there₁ (kept.named? held) (kept.text? texted) v
    have spared₁ := spares_writeEntry (V := V.hide {cell}) unfrozen (kept.within nameKnown)
      ((within_ok v).mp answerKnown) kept.sealed_
    have kept₁ := kept.trans spared₁.1
    rw [written] at later ih spared₁ kept₁
    have next : e.toList[turn]? = some name := by
      have first := congrArg (·[0]?) rest
      simpa using first
    have others : e.toList.drop (turn + 1) = names := by
      rw [← List.drop_drop, rest, List.drop_one, List.tail_cons]
    obtain ⟨l, entries', named', done, there', held', same'⟩ := @ih (turn + 1) _ _ _ kept₁.sealed_
      unfrozen (kept₁.within record) (kept₁.within othersKnown) others (kept₁.texts othersTexted)
      (World.cell?_rewriteCell_self there₁ _) (spared₁.1.named? held₁)
    have given : outcome (id (s.at? turn)) w₀ = (.ok (some name), w₀) := by
      rw [id, outcome_at?_objects still objects, next]
    refine ⟨() :: l, entries', named', ?_, there', held', ?_⟩
    · rw [List.length_cons, Source.visit, outcome_bind_ok given]
      dsimp only
      rw [bind_assoc, outcome_bind_ok answered, outcome_bind_ok written]
      exact outcome_bind_ok done _
    · rw [same', same₁]
      rfl

end Filling

/-- What a record tells as its names can be read again and again, and each of them is a text. -/
structure World.Names (w : World) (told : Value) (s : Source) (e : Elements) (texts : List String) :
    Prop where
  listed : w.members? told = some e.toList
  source : outcome (Source.ofValue told) w = (.ok s, w)
  gives : w.Gives s e
  read : e.toList.map w.text? = texts.map some

section Names
variable {w : World} {told : Value} {s : Source} {e : Elements} {texts : List String}

/-- Names such as those in a set are read turn by turn. -/
theorem names_of_members {names : List Value} (listed : w.members? told = some names)
    (read : names.map w.text? = texts.map some) :
    ∃ s e, e.toList = names ∧ w.Names told s e texts := by
  obtain ⟨s, e, source, gives, rfl⟩ := gives_of_members listed
  exact ⟨s, e, rfl, listed, source, gives, read⟩

theorem World.Names.present (names : w.Names told s e texts) (whole : w.Whole)
    (present : w.Holds told) : w.Holds e.toList :=
  whole.members? present e.toList names.listed

/-- Names are read in the same way when other cells come in. -/
theorem World.Names.later {w' : World} (names : w.Names told s e texts) (grown : w.Grows w')
    (whole : w.Whole) (present : w.Holds told) : w'.Names told s e texts where
  listed := (grown.members? whole present).trans names.listed
  source := source_later grown whole present names.listed names.source
  gives := names.gives.later grown
  read := by
    rw [← names.read]
    exact List.map_congr_left fun x held => grown.text? (names.present whole present x held)

theorem World.Names.objects (names : w.Names told s e texts) : ∀ x ∈ e.toList, x.isBare = false := by
  intro x listed
  obtain ⟨t, -, texted⟩ := List.mem_map.mp (names.read ▸ List.mem_map_of_mem (f := w.text?) listed)
  exact World.isBare_of_text texted.symm

/-- All names are put into a tuple. -/
theorem outcome_drain_names (blank : w.cell? 0 = some (.tuple [])) (names : w.Names told s e texts)
    (short : e.length < maxLength) :
    ∃ i w', outcome (drain told) w = (.ok (.ref i), w') ∧ w'.cell? i = some (.tuple e.toList) ∧
      w.Grows w' := by
  have copied : ∃ i w', outcome (do newTuple (← iterate told)) w = (.ok (.ref i), w') ∧
      w'.cell? i = some (.tuple e.toList) ∧ w.Grows w' := by
    obtain ⟨i, w', made, there, added⟩ := outcome_newTuple blank e.toList
    refine ⟨i, w', ?_, there, ?_⟩
    · rw [outcome_bind_ok
        (outcome_iterate_of_gives names.source names.gives names.objects short), made]
    · obtain rfl | ⟨c, rfl⟩ := added
      · exact .refl _
      · exact .withCell w c
  unfold drain
  split
  · have := names.source
    simp [Source.ofValue, World.base, World.baseCell?, World.sequence?, World.mapping?,
      World.repeatable?] at this
  · rename_i i
    rw [outcome_get_bind]
    split
    · rename_i items there
      have source : outcome (Source.ofValue (.ref i)) w = (.ok (.fixed (.list items)), w) := by
        simp [Source.ofValue, World.base, World.baseCell?, World.sequence?, there]
      obtain rfl : .fixed (.list items) = s := by
        simpa using (Prod.mk.inj (source.symm.trans names.source)).1
      obtain same | ⟨j, items, other, -⟩ := names.gives
      · obtain rfl := Source.fixed.inj same
        exact ⟨i, w, rfl, there, .refl w⟩
      · cases other
    · exact copied
  · exact copied

theorem World.Answers.length_eq {r : Value} {cell : Nat} {w w' : World} {names answers : List Value}
    (answered : World.Answers r cell s e w names answers w') : answers.length = names.length := by
  induction answered with
  | nil => rfl
  | cons _ _ _ ih => exact congrArg (· + 1) ih

/-- A new mapping is filled with what a record answers for the names that it tells. -/
theorem outcome_recordMap {r : Value} {w' w'' : World} {answers : List Value} (whole : w'.Whole)
    (record : w'.Holds r) (present : w'.Holds told)
    (tells : outcome (callMethod r Record.namer []) w = (.ok told, w'))
    (names : w'.Names told s e texts)
    (answered : World.Answers r w'.cells.size s e (w'.withCell (.dict false [])) e.toList answers w'') :
    ∃ entries named, outcome (recordMap r) w = (.ok (.ref w'.cells.size), w'') ∧
      w''.cell? w'.cells.size = some (.dict false entries) ∧ w''.named? entries = some named ∧
      itemsOf named = Table.ofEntries (texts.zip answers) := by
  have later := names.later (.withCell w' (.dict false [])) whole present
  have shown := World.region_subset_hide .clear w' (.dict false [])
  obtain ⟨l, entries, named, filled, there, held, same⟩ :=
    outcome_visit_answers (V := .clear) later.objects answered
      (whole.hide (by simp [within_cell, Cell.contents])) id (Referring.mono shown record)
      (Referring.mono shown (names.present whole present)) List.drop_zero later.read
      (World.cell?_withCell_self w' _)
      (show World.named? _ [] = some [] from rfl)
  refine ⟨entries, named, ?_, there, held, same⟩
  rw [recordMap, outcome_bind_ok tells, outcome_get_bind]
  dsimp only
  have made : outcome (alloc (.dict false [])) w' =
      (.ok (.ref w'.cells.size), w'.withCell (.dict false [])) := rfl
  rw [outcome_bind_ok made, forEach, forEachNumbered, bind_assoc, outcome_bind_ok later.source,
    bind_assoc, outcome_get_bind, later.gives.count, ← e.length_toList, outcome_bind_ok filled]
  rfl

end Names

namespace ObjectModel

variable {w w₁ w₂ : World} {r told : Value} {items : List Value} {texts : List String}

/-- The sequence of a record and its mapping have the same names, which are those that it tells: the
sequence is a tuple of them, and the mapping is a new one which has under each name what the record
answered for it. A record that is a mapping stands for itself, whatever it tells. -/
theorem record_expansions (whole : w.Whole) (blank : w.cell? 0 = some (.tuple []))
    (present : w.Holds r) (record : outcome (isRecord r) w = (.ok true, w₁))
    (tells : outcome (callMethod r Record.namer []) w₁ = (.ok told, w₂))
    (listed : w₂.members? told = some items) (read : items.map w₂.text? = texts.map some)
    (short : items.length < maxLength) :
    (∃ i w', outcome (ObjectModel.toCollection r) w = (.ok (.ref i), w') ∧
      w'.cell? i = some (.tuple items) ∧ items.map w'.text? = texts.map some) ∧
    (w.isMapping r = true → outcome (toMap r) w = (.ok r, w)) ∧
    (w.isMapping r = false → ∃ s e, outcome (Source.ofValue told) w₂ = (.ok s, w₂) ∧
      w₂.Gives s e ∧ e.toList = items ∧ ∀ answers w',
        World.Answers r w₂.cells.size s e (w₂.withCell (.dict false [])) items answers w' →
        ∃ entries named, outcome (toMap r) w = (.ok (.ref w₂.cells.size), w') ∧
          w'.cell? w₂.cells.size = some (.dict false entries) ∧ w'.named? entries = some named ∧
          (∀ text, text ∈ Table.keys (itemsOf named) ↔ text ∈ texts) ∧
          ∀ text, Table.get? (itemsOf named) text =
            Table.last? (· == text) (texts.zip answers)) := by
  have spared := spares_isRecord present whole
  rw [record] at spared
  have present₁ := spared.1.within present
  have unasked : Within (Veil.clear.region w₁) ([] : List Value) := by simp
  have spared₂ := spares_callMethod Record.namer present₁ unasked spared.1.sealed_
  rw [tells] at spared₂
  have kept := spared.1.trans spared₂.1
  have known : w₂.Holds told := (within_ok told).mp spared₂.2
  obtain ⟨s, e, rfl, names⟩ := names_of_members listed read
  refine ⟨?_, fun mapped => ?_, fun unmapped => ⟨s, e, names.source, names.gives, rfl,
    fun answers w' answered => ?_⟩⟩
  · obtain ⟨c, held, shape⟩ := kept.shape 0 _ blank
    have blank₂ : w₂.cell? 0 = some (.tuple []) := by
      cases c <;> simp_all [Cell.shape]
    obtain ⟨i, w', drained, there, grown⟩ :=
      outcome_drain_names blank₂ names (by rwa [← e.length_toList])
    refine ⟨i, w', ?_, there, (names.later grown kept.sealed_ known).read⟩
    rw [ObjectModel.toCollection, outcome_bind_ok record, if_pos rfl, outcome_bind_ok tells, drained]
  · rw [toMap, outcome_get_bind, if_pos mapped]
    rfl
  · obtain ⟨entries, named, made, there, held, same⟩ :=
      outcome_recordMap kept.sealed_ (kept.within present) known tells names answered
    refine ⟨entries, named, ?_, there, held, fun text => ?_, fun text => ?_⟩
    · rw [toMap, outcome_get_bind, unmapped, if_neg Bool.false_ne_true, outcome_bind_ok record,
        if_pos rfl, made]
    · have aligned : texts.length ≤ answers.length := by
        have told := congrArg List.length names.read
        rw [List.length_map, List.length_map] at told
        rw [answered.length_eq, told]
      rw [same, Table.keys_ofEntries, List.mem_eraseDups, Table.keys, List.map_fst_zip aligned]
    · rw [same, Table.get?_ofEntries]

/-- Two records of a title: one of a class of its own, and one whose class is a dict too. -/
def library : World where
  cells := #[.tuple [], .object 0 [] none, .dict false [(.text "pages", .int 3)],
    .object 1 [] (some (.ref 2))]
  classes := #[
    { name := "Page"
      kind := .plain
      bases := [.standard .object]
      order := [.declared 0, .standard .object]
      members := [
        (Record.getter, .routine ⟨"Page.get_property", .receiver,
          [⟨"self", .positional, false⟩, ⟨"name", .positional, false⟩],
          .lookUp [.known (.text "title")] [.known (.text "Index")]⟩),
        (Record.namer, .routine ⟨"Page.get_property_names", .receiver,
          [⟨"self", .positional, false⟩], .give (.collection .frozenSet [.known (.text "title")])⟩)]
      annotations := []
      names := []
      fields := none
      closed := false },
    { name := "Bound"
      kind := .plain
      bases := [.declared 0, .standard .dict]
      order := [.declared 1, .declared 0, .standard .dict, .standard .object]
      members := []
      annotations := []
      names := []
      fields := none
      closed := false }]

theorem whole_library : library.Whole where
  cells i c hc _ := by
    have room : 2 ∈ Veil.clear.region library := ⟨by decide, id⟩
    rcases i with _ | _ | _ | _ | i
    · obtain rfl := Option.some.inj hc
      exact fun v hv => by cases hv
    · obtain rfl := Option.some.inj hc
      exact fun v hv => by cases hv
    · obtain rfl := Option.some.inj hc
      exact List.forall_mem_cons.mpr ⟨trivial, List.forall_mem_singleton.mpr trivial⟩
    · obtain rfl := Option.some.inj hc
      exact List.forall_mem_singleton.mpr room
    · simp [library, World.cell?] at hc
  classes i info h := by
    rcases i with _ | _ | i
    · obtain rfl := Option.some.inj h
      exact ⟨List.forall_mem_cons.mpr ⟨⟨⟨trivial, trivial⟩, trivial, trivial⟩,
        List.forall_mem_singleton.mpr ⟨trivial, trivial⟩⟩, by simp [library]⟩
    · obtain rfl := Option.some.inj h
      exact ⟨by simp [library], by simp [library]⟩
    · simp [library, World.class?] at h
  named e he := by simp [library] at he
  inBounds i hi := hi.elim
  emptyTuple := ⟨by decide, id⟩

/-- The record that is a dict gives itself as the mapping, which has no title. -/
theorem record_expansions_library :
    (∃ i w', outcome (ObjectModel.toCollection (.ref 3)) library = (.ok (.ref i), w') ∧
      w'.cell? i = some (.tuple [.text "title"])) ∧
    outcome (toMap (.ref 3)) library = (.ok (.ref 3), library) ∧
    ∃ entries named w', outcome (toMap (.ref 1)) library = (.ok (.ref 5), w') ∧
      w'.cell? 5 = some (.dict false entries) ∧ w'.named? entries = some named ∧
      Table.get? (itemsOf named) "title" = some (.text "Index") := by
  have told : ∀ r ∈ [Value.ref 1, .ref 3], outcome (callMethod r Record.namer []) library =
      (.ok (.ref 4), (library.mark 1).withCell (.set true [.text "title"])) := by
    simp only [List.forall_mem_cons, List.not_mem_nil, false_implies, implies_true, and_true]
    exact ⟨rfl, rfl⟩
  have read : [Value.text "title"].map ((library.mark 1).withCell (.set true [.text "title"])).text? =
      ["title"].map some := rfl
  obtain ⟨⟨i, w', collected, there, -⟩, itself, -⟩ := record_expansions whole_library rfl
    ⟨by decide, id⟩ (r := .ref 3) rfl (told _ (by simp)) rfl read (by decide)
  obtain ⟨-, -, filled⟩ := record_expansions whole_library rfl ⟨by decide, id⟩ (r := .ref 1) rfl
    (told _ (by simp)) rfl read (by decide)
  obtain ⟨s, e, source, gives, same, filled⟩ := filled rfl
  obtain rfl : .fixed (.list [.text "title"]) = s := by simpa using (Prod.mk.inj source).1
  obtain ⟨entries, named, made, written, held, -, gives⟩ :=
    filled [.text "Index"] _ (.cons (gives.later (.withCell _ _)) rfl .nil)
  exact ⟨⟨i, w', collected, there⟩, itself rfl, entries, named, _, made, written, held,
    (gives "title").trans rfl⟩

end ObjectModel

end TemplateEngine
