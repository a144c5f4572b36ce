import TemplateEngine.Proofs.Rejections
import TemplateEngine.Proofs.Isolation
import TemplateEngine.Proofs.Containment
/-!
Expressions in the body of a unit. What is known of the variables of a body stays true as the world
grows, and so an expression that reads them gives the same in every later world.
-/
namespace TemplateEngine

/-- From one stage to another a text is written, and the world only grows. -/
structure Stage.Writes (s : Stage) (text : String) (s' : Stage) : Prop where
  world : s.world.Grows s'.world
  whole : s'.world.Whole
  output : s'.output = s.output ++ text
  trace : s'.trace = s.trace

namespace Stage.Writes

variable {s s' s'' : Stage} {first second : String}

theorem refl (whole : s.world.Whole) : s.Writes "" s := ⟨.refl _, whole, by simp, rfl⟩

theorem trans (h : s.Writes first s') (h' : s'.Writes second s'') :
    s.Writes (first ++ second) s'' where
  world := h.world.trans h'.world
  whole := h'.whole
  output := by rw [h'.output, h.output, String.append_assoc]
  trace := h'.trace.trans h.trace

/-- What is logged is not written. -/
theorem silent {w : World} (grown : s.world.Grows w) (whole : w.Whole) (events : List Event) :
    s.Writes "" { s with world := w, events := events } :=
  ⟨grown, whole, by simp, rfl⟩

end Stage.Writes

theorem World.Grows.holds {w w' : World} {α : Type} [Referring α] {a : α} (grown : w.Grows w')
    (held : w.Holds a) : w'.Holds a := by
  refine Referring.mono (fun i inside => ⟨?_, id⟩) held
  obtain ⟨c, found⟩ : ∃ c, w.cell? i = some c := ⟨_, Array.getElem?_eq_getElem inside.1⟩
  exact World.lt_size_of_cell? (grown.cells i c found)

/-! ## Settings -/

/-- What is known of the frame of a body. It stays known as the world grows. -/
structure Setting where
  Fits : Frame → World → Prop
  later : ∀ {f w w'}, Fits f w → w.Grows w' → Fits f w'

namespace Setting

/-- The body is that of a unit, and its variables have these values. -/
def binding (u : UnitId) (meaning : Variables → String → Option Value) : Setting where
  Fits f w := f.unit = u ∧ ∀ source, ∃ i scope, f.source source = .ref i ∧
    w.cell? i = some (.bindings scope) ∧ ∀ text, scope.get? text = meaning source text
  later := by
    rintro f w w' ⟨unit, bound⟩ grown
    refine ⟨unit, fun source => ?_⟩
    obtain ⟨i, scope, same, cell, means⟩ := bound source
    exact ⟨i, scope, same, grown.cells i _ cell, means⟩

/-- The body of a unit sees the scope of the unit, and what is passed to it. -/
def ofUnit (forest : Forest) (globals : List (Name Value × Value)) (u : UnitId)
    (passed : String → Option Value) : Setting :=
  binding u fun
    | .scope => (forest.overlaid globals u).get?
    | .arguments => passed

/-- The body of a unit that is called with items. -/
def ofCall (forest : Forest) (globals : List (Name Value × Value)) (u : UnitId)
    (items : List (String × Value)) : Setting :=
  ofUnit forest globals u fun text => Table.lastSpelled? items (Text.foldCase text)

/-- In every later world a computation in a frame of the setting only adds to the world, and gives
something of a kind. -/
def Reads {α : Type} (E : Setting) (w : World) (x : Frame → Render α) (P : α → World → Prop) : Prop :=
  ∀ s f, w.Grows s.world → s.world.Whole → E.Fits f s.world →
    ∃ a s', Render.staged (x f) s = (.ok a, s') ∧ s.Writes "" s' ∧ P a s'.world

variable {E : Setting} {w : World} {c : Context} {v : Value}

theorem Reads.mono {α : Type} {x : Frame → Render α} {P Q : α → World → Prop}
    (reads : E.Reads w x P) (weaker : ∀ a w', w.Grows w' → w'.Whole → P a w' → Q a w') :
    E.Reads w x Q := by
  intro s f grown whole fits
  obtain ⟨a, s', run, quiet, given⟩ := reads s f grown whole fits
  exact ⟨a, s', run, quiet, weaker a _ (grown.trans quiet.world) quiet.whole given⟩

/-- What only looks at the world gives the same on the stage. -/
theorem reads_onWorld {x : Frame → M Value}
    (same : ∀ f w', w.Grows w' → E.Fits f w' → outcome (x f) w' = (.ok v, w')) :
    E.Reads w (fun f => Render.onWorld (x f)) fun a _ => a = v := by
  intro s f grown whole fits
  exact ⟨v, s, Render.staged_onWorld_ok (same f s.world grown fits), .refl whole, rfl⟩

theorem reads_literal (v : Value) :
    E.Reads w (Render.eval c · (.literal (.known v))) fun a _ => a = v :=
  reads_onWorld fun _ _ _ _ => rfl

theorem reads_unit {name : String} {u : UnitId} (named : w.unitNames.get? name = some u) :
    E.Reads w (Render.eval c · (.literal (.unit name))) fun a _ => a = .unit u := by
  refine reads_onWorld fun _ w' grown _ => ?_
  rw [make, build, outcome_get_bind, grown.unitNames, named]
  rfl

theorem reads_variable {u : UnitId} {meaning : Variables → String → Option Value}
    {source : Variables} {name : String} (bound : meaning source name = some v) :
    (binding u meaning).Reads w (Render.eval c · (.variable source (.known (.text name))))
      fun a _ => a = v := by
  refine reads_onWorld fun f w' _ fits => ?_
  obtain ⟨i, scope, same, cell, means⟩ := fits.2 source
  have found := Bindings.outcome_lookUp? cell (show w'.text? (.text name) = some name from rfl)
  rw [means, bound] at found
  rw [same]
  exact (outcome_bind_ok found _).trans rfl

/-- Expressions that give values give these one after the other. -/
theorem reads_all {es : List Expr} {values : List Value}
    (each : List.Forall₂ (fun e v => E.Reads w (Render.eval c · e) fun a _ => a = v) es values) :
    E.Reads w (Render.evalAll c · es) fun as _ => as = values := by
  induction each with
  | nil => exact fun s f _ whole _ => ⟨[], s, rfl, .refl whole, rfl⟩
  | @cons e v es values first _ ih =>
    intro s f grown whole fits
    obtain ⟨_, s₁, run₁, quiet₁, rfl⟩ := first s f grown whole fits
    obtain ⟨_, s₂, run₂, quiet₂, rfl⟩ :=
      ih s₁ f (grown.trans quiet₁.world) quiet₁.whole (E.later fits quiet₁.world)
    refine ⟨_, s₂, ?_, by simpa using quiet₁.trans quiet₂, rfl⟩
    change Render.staged (Render.evalAll c f (e :: es)) s = _
    rw [Render.evalAll, Render.staged_bind_ok run₁, Render.staged_bind_ok run₂]
    rfl

end Setting

/-! ## Arguments -/

section
variable {w : World} {items : List (String × Value)}

/-- Texts that are all different are the keys of a mapping in their order. -/
theorem outcome_insertEntries_texts (distinct : (Table.keys items).Nodup) :
    outcome (insertEntries [] (textEntries items)) w = (.ok (textEntries items), w) := by
  suffices step : ∀ done more : List (String × Value), (Table.keys (done ++ more)).Nodup →
      outcome (insertEntries (textEntries done) (textEntries more)) w =
        (.ok (textEntries (done ++ more)), w) from step [] items distinct
  intro done more
  induction more generalizing done with
  | nil => simp [textEntries, insertEntries]
  | cons item rest ih =>
    intro distinct
    have missing : item.1 ∉ Table.keys done := by
      intro found
      simp only [Table.keys, List.map_append, List.map_cons] at distinct
      exact (List.nodup_append.mp distinct).2.2 _ found _ List.mem_cons_self rfl
    have put := outcome_insertEntry_texts w done item.1 item.2
    rw [Table.insert_of_not_mem missing] at put
    have rested := ih (done ++ [item]) (by simpa using distinct)
    rw [List.append_assoc] at rested
    exact (outcome_bind_ok put _).trans rested

theorem outcome_makeAll_texts (items : List (String × Value)) :
    outcome (makeAll (items.map fun e => .known (.text e.1))) w =
      (.ok (items.map fun e => .text e.1), w) := by
  induction items with
  | nil => rfl
  | cons item rest ih => exact (outcome_bind_ok ih _).trans rfl

/-- A mapping with texts as keys spells its items. -/
theorem World.spells_texts (w : World) (items : List (String × Value)) :
    w.Spells (textEntries items) items w := by
  induction items with
  | nil => exact .nil
  | cons item rest ih => exact .cons (ObjectModel.outcome_toTemplateText_text item.1 w) rfl ih

end

/-- The arguments of a call; there may be none. -/
def Render.evalGiven (c : Context) (f : Frame) : Option Expr → Render Value
  | none => return .null
  | some e => eval c f e

/-- A call with the arguments gives a unit a frame that fits a setting. -/
def World.Supplies (w : World) (globals : List (Name Value × Value)) (u : UnitId) (E : Setting)
    (arguments : Value) : Prop :=
  ∃ map w' entries named, outcome (callArguments arguments) w = (.ok map, w') ∧ w.Grows w' ∧
    w'.mapping? map = some entries ∧ entries.length < maxLength ∧ w'.starts? map = some named ∧
    E.Fits (Render.newFrame w' u) (Render.newWorld w' globals named u)

namespace World

variable {w w₁ w₂ : World} {globals : List (Name Value × Value)} {u : UnitId} {arguments map : Value}
  {items : List (String × Value)}

theorem fits_newFrame {named : List (Name Value × Value)} {passed : String → Option Value}
    (means : ∀ text, (Scope.ofEntries named).get? text = passed text) :
    (Setting.ofUnit w.forest globals u passed).Fits (Render.newFrame w u)
      (Render.newWorld w globals named u) := by
  let inner := w.withCell (.bindings (w.forest.overlaid globals u))
  have next : inner.cells.size = w.cells.size + 1 := by simp [inner, withCell]
  have cell := cell?_withCell_self inner (.bindings (.ofEntries named))
  rw [next] at cell
  refine ⟨rfl, fun source => ?_⟩
  cases source with
  | scope =>
    exact ⟨_, _, rfl, cell?_withCell_of_cell? (cell?_withCell_self w _) _, fun _ => rfl⟩
  | arguments => exact ⟨_, _, rfl, cell, means⟩

/-- What spells items supplies them, to a unit that sees its own scope besides. -/
theorem supplies_of_spells (whole : w.Whole) (held : w.Holds arguments)
    (mapped : outcome (toMap arguments) w = (.ok map, w₁))
    (spelled : w₁.Spells ((w₁.mapping? map).getD []) items w₂) (grown : w.Grows w₂)
    (room : items.length < maxLength) :
    w.Supplies globals u (.ofCall w.forest globals u items) arguments := by
  obtain ⟨entries, named, called, kept, present, read, same⟩ :=
    outcome_callArguments whole held mapped spelled
  let made := { w₂ with nextTag := w₂.nextTag + 1 }.withCell (.dict false entries)
  have more : w₂.Grows made := (Grows.withTag w₂).trans (.withCell _ _)
  have cell : made.cell? w₂.cells.size = some (.dict false entries) :=
    cell?_withCell_self { w₂ with nextTag := w₂.nextTag + 1 } _
  have mapping : made.mapping? (.readOnly w₂.nextTag (.ref w₂.cells.size)) = some entries := by
    simp [mapping?, baseCell?, base, cell]
  have starts : made.starts? (.readOnly w₂.nextTag (.ref w₂.cells.size)) = some named := by
    simp [starts?, baseCell?, base, mapping, more.named? present, read]
  have counted : entries.length < maxLength :=
    calc entries.length = (itemsOf named).length := by simp [length_of_named? read, itemsOf]
      _ ≤ items.length := same ▸ Table.length_ofEntries_le items
      _ < maxLength := room
  refine ⟨_, made, entries, named, called, grown.trans more, mapping, counted, starts, ?_⟩
  rw [← (grown.trans more).forest]
  exact fits_newFrame (get?_ofEntries_items same)

/-- Without arguments there are no items. -/
theorem supplies_none (whole : w.Whole) :
    w.Supplies globals u (.ofCall w.forest globals u []) .null := by
  have mapped : outcome (toMap .null) w = (.ok (.ref w.cells.size), w.withCell (.dict false [])) := by
    rw [toMap, outcome_get_bind, if_neg (by simp [isMapping, mapping?, baseCell?, base]),
      outcome_bind_ok (ObjectModel.outcome_isRecord_null w)]
    rfl
  have spelled : (w.withCell (.dict false [])).Spells
      (((w.withCell (.dict false [])).mapping? (.ref w.cells.size)).getD []) []
      (w.withCell (.dict false [])) := by
    simp only [mapping?, baseCell?, base, cell?_withCell_self w (.dict false [])]
    exact .nil
  exact supplies_of_spells whole trivial mapped spelled (.withCell w _) (by decide)

/-- A mapping with texts as keys supplies its items. -/
theorem supplies_of_texts (whole : w.Whole) (held : w.Holds arguments)
    (read : w.mapping? arguments = some (textEntries items)) (room : items.length < maxLength) :
    w.Supplies globals u (.ofCall w.forest globals u items) arguments := by
  have mapped : outcome (toMap arguments) w = (.ok arguments, w) := by
    rw [toMap, outcome_get_bind, if_pos (by simp [isMapping, read])]
    rfl
  refine supplies_of_spells whole held mapped ?_ (.refl w) room
  rw [read]
  exact w.spells_texts items

end World

namespace Setting

variable {E : Setting} {w : World} {c : Context}

/-- A map that is built from texts and values has these as its entries. -/
theorem reads_map {items : List (String × Value)} {es : List Expr}
    (each : List.Forall₂ (fun e v => E.Reads w (Render.eval c · e) fun a _ => a = v) es
      (items.map Prod.snd))
    (distinct : (Table.keys items).Nodup) (held : w.Holds items) :
    E.Reads w (Render.eval c · (.map (items.map fun e => .known (.text e.1)) es))
      fun a w' => w'.Holds a ∧ w'.mapping? a = some (textEntries items) := by
  intro s f grown whole fits
  obtain ⟨_, s₁, run, quiet, rfl⟩ := reads_all each s f grown whole fits
  have present : s₁.world.Holds (textEntries items) := by
    have later := (grown.trans quiet.world).holds held
    exact within_map fun e he => ⟨trivial, (later e he).2⟩
  let made := s₁.world.withCell (.dict true (textEntries items))
  have kept : s₁.world.Kept .clear made :=
    .withCell quiet.whole (World.within_entries.mpr present)
  have cell := World.cell?_withCell_self s₁.world (.dict true (textEntries items))
  refine ⟨.ref s₁.world.cells.size, { s₁ with world := made }, ?_, ?_, ?_, ?_⟩
  · change Render.staged (Render.eval c f (.map _ es)) s = _
    rw [Render.eval, Render.staged_bind_ok run]
    refine Render.staged_onWorld_ok ?_
    have zipped : (items.map fun e => Value.text e.1).zip (items.map Prod.snd) =
        textEntries items := by
      simp [textEntries, List.zip_map']
    rw [outcome_bind_ok (outcome_makeAll_texts items), zipped,
      outcome_bind_ok (outcome_insertEntries_texts distinct)]
    rfl
  · simpa using quiet.trans (.silent (.withCell _ _) kept.sealed_ s₁.events)
  · exact ⟨World.lt_size_of_cell? cell, id⟩
  · simp [made, World.mapping?, World.baseCell?, World.base, cell]

theorem reads_none : E.Reads w (Render.evalGiven c · none) fun a _ => a = .null :=
  fun s _ _ whole _ => ⟨.null, s, rfl, .refl whole, rfl⟩

/-- What a call without arguments is given supplies no items. -/
theorem supplies_none {globals : List (Name Value × Value)} {u : UnitId} :
    E.Reads w (Render.evalGiven c · none) fun v w' => w'.Holds v ∧
      w'.Supplies globals u (.ofCall w.forest globals u []) v := by
  refine reads_none.mono ?_
  rintro _ w' grown whole rfl
  exact ⟨trivial, grown.forest ▸ World.supplies_none whole⟩

/-- What a call with a map of items is given supplies these. -/
theorem supplies_map {globals : List (Name Value × Value)} {u : UnitId}
    (items : List (String × Value)) {es : List Expr}
    (each : List.Forall₂ (fun e v => E.Reads w (Render.eval c · e) fun a _ => a = v) es
      (items.map Prod.snd))
    (distinct : (Table.keys items).Nodup) (room : items.length < maxLength) (held : w.Holds items) :
    E.Reads w (Render.evalGiven c · (some (.map (items.map fun e => .known (.text e.1)) es)))
      fun v w' => w'.Holds v ∧ w'.Supplies globals u (.ofCall w.forest globals u items) v :=
  (reads_map each distinct held).mono fun _ _ grown whole ⟨present, read⟩ =>
    ⟨present, grown.forest ▸ World.supplies_of_texts whole present read room⟩

end Setting

end TemplateEngine
