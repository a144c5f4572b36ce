import TemplateEngine.Proofs.EmptyNames
import TemplateEngine.Proofs.RecordExpansions
import TemplateEngine.Proofs.Refusals
/-!
Units as records. After any requests, refused ones among them, a unit has as its properties what was
registered with it: for each folded name the unit that was registered last. Its names, its mapping,
its sub-units and the resolution of its properties agree on that. A property that is a member of an
enumeration is the exception: its own text is looked up by the unit, its name by the resolution.
-/
namespace TemplateEngine

/-! ## Registrations -/

namespace Table

variable {α : Type}

theorem insertAll_append (t : Table String α) (items more : List (String × α)) :
    insertAll t (items ++ more) = insertAll (insertAll t items) more := by
  simp [insertAll]

theorem last?_map_keys (f : String → String) (asked : String → Bool) (items : List (String × α)) :
    last? asked (items.map fun e => (f e.1, e.2)) = last? (asked <| f ·) items := by
  simp only [last?, ← List.map_reverse, List.find?_map, Option.map_map]
  rfl

end Table

theorem Forest.subs_register_self {f : Forest} {owner : UnitId} (inside : owner < f.length)
    (name : String) (child : UnitId) :
    (f.register owner name child).subs owner = (f.subs owner).insert name child := by
  simp [subs, node, register, List.getD_eq_getElem?_getD, inside]

theorem Forest.subs_register_of_ne (f : Forest) {owner u : UnitId} (name : String)
    (child : UnitId) (apart : owner ≠ u) : (f.register owner name child).subs u = f.subs u := by
  rw [subs, node_register f owner child u name apart, subs]

/-- What a request registers with a unit: the unit, under the text of the name. -/
def Request.registers (r : Request) (w : World) (u : UnitId) : List (String × UnitId) :=
  match (outcome r.run w).1, w.text? r.name with
  | .ok (), some text => if r.owner = u then [(text, r.child)] else []
  | _, _ => []

/-- What requests register with a unit, one after the other. -/
def World.registrations (w : World) (u : UnitId) : List Request → List (String × UnitId)
  | [] => []
  | r :: rest => r.registers w u ++ (outcome r.run w).2.registrations u rest

/-- The last unit that was registered under a name, regardless of case. -/
def latest? (made : List (String × UnitId)) (name : String) : Option UnitId :=
  Table.last? (Text.foldCase · == Text.foldCase name) made

/-- The folded names of registrations, each once. -/
def foldedNames (made : List (String × UnitId)) : List String :=
  (made.map (Text.foldCase ·.1)).eraseDups

/-- The registry that registrations lead to. -/
def registryOf (made : List (String × UnitId)) : Table String UnitId :=
  Table.ofEntries (made.map fun e => (Text.foldCase e.1, e.2))

section Registry
variable (made : List (String × UnitId))

theorem get?_registryOf (name : String) :
    Table.get? (registryOf made) (Text.foldCase name) = latest? made name := by
  rw [registryOf, Table.get?_ofEntries, Table.last?_map_keys]
  rfl

theorem keys_registryOf : Table.keys (registryOf made) = foldedNames made := by
  rw [registryOf, Table.keys_ofEntries, Table.keys, List.map_map]
  rfl

theorem registry_registryOf : Forest.Registry (registryOf made) where
  folded key known := by
    rw [keys_registryOf, foldedNames, List.mem_eraseDups] at known
    obtain ⟨e, -, rfl⟩ := List.mem_map.mp known
    exact Text.foldCase_foldCase e.1
  distinct := Table.nodup_keys_ofEntries _

/-- What the registry lists is each folded name with the unit that was registered last. -/
theorem map_registryOf {α : Type} (f : String → Value → α) :
    (registryOf made).map (fun e => f e.1 (.unit e.2)) =
      (foldedNames made).map fun name => f name (((latest? made name).map Value.unit).getD .null) := by
  have registry := registry_registryOf made
  rw [← keys_registryOf, Table.keys, List.map_map]
  refine List.map_congr_left fun e listed => ?_
  have found := get?_registryOf made e.1
  rw [registry.folded _ (Table.mem_keys_of_mem listed),
    Table.get?_of_mem registry.distinct listed] at found
  simp [← found]

end Registry

section Requests
variable {w : World} {r : Request} {calls : List Request}

theorem Request.length_run (whole : w.Whole) (has : w.Has r.name) :
    (outcome r.run w).2.forest.length = w.forest.length := by
  have came := r.outcome_run whole has
  generalize outcome r.run w = out at came
  cases came with
  | registered read claimed =>
    obtain ⟨rfl, -⟩ | ⟨rfl, -⟩ := claimed <;>
      simp [Forest.length_register, Forest.length_claim]
  | unnamed => rfl
  | stranded => exact Forest.length_claim ..
  | taken _ _ kept => rw [kept.forest]

/-- A request adds what it registers to the registry of a unit, and nothing else. -/
theorem Request.subs_run (whole : w.Whole) (has : w.Has r.name)
    (inside : r.owner < w.forest.length) (u : UnitId) :
    (outcome r.run w).2.forest.subs u = Table.insertAll (w.forest.subs u)
      ((r.registers w u).map fun e => (Text.foldCase e.1, e.2)) := by
  have came := r.outcome_run whole has
  unfold Request.registers
  generalize outcome r.run w = out at came
  cases came with
  | @registered text f read claimed =>
    have same : ∀ u, f.subs u = w.forest.subs u := by
      obtain ⟨rfl, -⟩ | ⟨rfl, -⟩ := claimed
      · exact fun u => rfl
      · exact Forest.subs_claim _ _ _
    have inside' : r.owner < f.length := by
      obtain ⟨rfl, -⟩ | ⟨rfl, -⟩ := claimed
      · exact inside
      · rwa [Forest.length_claim]
    simp only [read]
    by_cases own : r.owner = u
    · subst own
      rw [if_pos rfl, Forest.subs_register_self inside', same]
      rfl
    · rw [if_neg own, Forest.subs_register_of_ne f _ _ own, same]
      rfl
  | unnamed => rfl
  | stranded => exact Forest.subs_claim ..
  | taken _ _ kept => simp [kept.forest, Table.insertAll]

/-- So the registries after requests are what these registered, in their order. -/
theorem World.subs_requested (whole : w.Whole) (has : ∀ c ∈ calls, w.Has c.name)
    (owners : ∀ c ∈ calls, c.owner < w.forest.length) (u : UnitId) :
    (w.requested calls).forest.subs u = Table.insertAll (w.forest.subs u)
      ((w.registrations u calls).map fun e => (Text.foldCase e.1, e.2)) := by
  induction calls generalizing w with
  | nil => rfl
  | cons c rest ih =>
    obtain ⟨first, later⟩ := List.forall_mem_cons.mp has
    obtain ⟨inside, others⟩ := List.forall_mem_cons.mp owners
    have step := (c.outcome_run whole first).retains whole
    rw [requested, registrations, List.map_append, Table.insertAll_append,
      ← c.subs_run whole first inside u]
    refine ih step.whole (fun d listed => step.has _ (later d listed)) fun d listed => ?_
    rw [c.length_run whole first]
    exact others d listed

end Requests

/-! ## Mappings under the same texts -/

section Equality
variable {same : Value → Value → Except Fault Bool} {w : World} {xs ys : List (Value × Value)}
  {xNames yNames : List (Name Value × Value)}

theorem entryFor_of_named (texts : ∀ a b s t, w.text? a = some s → w.text? b = some t →
      same a b = .ok (s == t)) {key : Value} {text : String} (read : w.text? key = some text)
    (held : w.named? ys = some yNames) :
    entryFor same key ys = .ok (Table.get? (itemsOf yNames) text) := by
  induction ys generalizing yNames with
  | nil =>
    obtain rfl : [] = yNames := Option.some.inj held
    rfl
  | cons y rest ih =>
    obtain ⟨k, v⟩ := y
    obtain ⟨s, tail, shown, others, rfl⟩ := World.of_named?_cons held
    by_cases h : s = text
    · simp [entryFor, texts _ _ _ _ shown read, h, itemsOf, Table.get?, bind, Except.bind, pure,
        Except.pure]
    · simpa [entryFor, texts _ _ _ _ shown read, h, itemsOf, Table.get?, bind, Except.bind, pure,
        Except.pure] using ih others

/-- Entries agree if they are the same values under the same texts. -/
theorem entriesAgree_of_named (texts : ∀ a b s t, w.text? a = some s → w.text? b = some t →
      same a b = .ok (s == t)) (values : ∀ e ∈ itemsOf yNames, same e.2 e.2 = .ok true)
    (distinct : (Table.keys (itemsOf yNames)).Nodup) (held : w.named? ys = some yNames)
    (listed : w.named? xs = some xNames) (among : itemsOf xNames ⊆ itemsOf yNames) :
    entriesAgree same ys xs = .ok true := by
  induction xs generalizing xNames with
  | nil => rfl
  | cons x rest ih =>
    obtain ⟨k, v⟩ := x
    obtain ⟨s, tail, shown, others, rfl⟩ := World.of_named?_cons listed
    obtain ⟨first, later⟩ := List.cons_subset.mp among
    have found := entryFor_of_named texts shown held
    rw [Table.get?_of_mem distinct first] at found
    simp [entriesAgree, found, values _ first, bind, Except.bind, ih others later]

end Equality

namespace World

variable {w : World}

theorem named?_texts (units : Table String UnitId) :
    w.named? (units.map fun e => (Value.text e.1, Value.unit e.2)) =
      some (units.map fun e => (⟨e.1, .text e.1⟩, .unit e.2)) := by
  induction units with
  | nil => rfl
  | cons e rest ih => rw [List.map_cons, named?_cons rfl ih, List.map_cons]

theorem itemsOf_texts (units : Table String UnitId) :
    itemsOf (units.map fun e => (⟨e.1, .text e.1⟩, .unit e.2)) =
      units.map fun e => (e.1, Value.unit e.2) := by
  simp [itemsOf]

/-- A dictionary equals the sub-units of a unit if it has the same units under the same names. -/
theorem equal_subUnits {i : Nat} {u : UnitId} {entries : List (Value × Value)}
    {named : List (Name Value × Value)} (there : w.cell? i = some (.dict false entries))
    (held : w.named? entries = some named)
    (same : itemsOf named = (w.forest.subs u).map fun e => (e.1, Value.unit e.2))
    (distinct : (Table.keys (w.forest.subs u)).Nodup) :
    w.equal (.ref i) (.subUnits u) = .ok true := by
  have based : w.base (.ref i) = .ref i := by simp [base, there]
  have cell : w.baseCell? (.ref i) = some (.dict false entries) := by
    rw [baseCell?, based]
    exact there
  have size : entries.length = (w.forest.subs u).length := by
    rw [length_of_named? held]
    simpa [itemsOf] using congrArg List.length same
  have shown : w.base (.subUnits u) = .subUnits u := rfl
  have nowhere : w.baseCell? (.subUnits u) = none := rfl
  have octets : w.comparedOctets? (.ref i) (.subUnits u) = none := by
    simp [comparedOctets?, octets?, bytes?, based, shown, cell, nowhere, there]
  obtain ⟨n, room⟩ : ∃ n, w.bulk + (Value.ref i).depth + (Value.subUnits u).depth = n + 1 + 1 :=
    ⟨w.bulk, rfl⟩
  rw [equal, equalFrom, room]
  unfold equalWithin
  simp only [numeric?, text?, octets, setElements?, isSet, based, shown, cell, mapping?, size,
    Bool.false_eq_true, if_false, List.length_map, if_true]
  refine entriesAgree_of_named (fun a b s t first second => same_of_text first second n) ?_ ?_
    (named?_texts (w.forest.subs u)) held ?_
  · intro e listed
    rw [itemsOf_texts] at listed
    obtain ⟨x, -, rfl⟩ := List.mem_map.mp listed
    simp [Value.identical, Value.isBare]
  · rwa [itemsOf_texts, Table.keys, List.map_map]
  · rw [same, itemsOf_texts]
    exact List.Subset.refl _

end World

namespace ObjectModel

/-- A unit whose classes leave it as it is as a record. -/
structure OwnRecord (w : World) (u : UnitId) : Prop where
  getter : Classes.findMember? w.classes (w.classOf (.unit u)) Record.getter =
    some (.standard .renderUnit, .native .renderUnit .routine)
  namer : Classes.findMember? w.classes (w.classOf (.unit u)) Record.namer =
    some (.standard .renderUnit, .native .renderUnit .accessor)
  listing : Classes.findMember? w.classes (w.classOf (.unit u)) "sub_templates" =
    some (.standard .renderUnit, .native .renderUnit .field)

variable {w : World} {u : UnitId}

theorem OwnRecord.plain (own : OwnRecord w u) : PlainUnit w u where
  getter := own.getter
  namer := by rw [Record.definedOnClass, own.namer]

/-- The sub-units are read from the unit. -/
theorem OwnRecord.outcome_listing (own : OwnRecord w u) :
    outcome (Dispatch.full.readFrom (.unit u) "sub_templates") w = (.ok (.subUnits u), w) := by
  have read : outcome (Dispatch.full.read (.unit u) "sub_templates") w =
      (.ok (some (.subUnits u)), w) := by
    change outcome (readAttribute (.within 499) (.unit u) "sub_templates") w = _
    unfold readAttribute
    rw [outcome_get_bind]
    simp only [own.listing]
    rfl
  rw [Dispatch.readFrom, outcome_bind_ok read]
  rfl

/-- The names are put into a new set that cannot be changed. -/
theorem OwnRecord.outcome_namer (own : OwnRecord w u) :
    outcome (callMethod (.unit u) Record.namer []) w = (.ok (.ref w.cells.size),
      (w.mark 1).withCell (.set true ((Table.keys (w.forest.subs u)).map .text))) := by
  rw [callMethod, outcome_bind_ok (outcome_readFrom_unit own.namer (by simp)), Table.keys,
    List.map_map]
  rfl

/-- What a unit answers for a name. -/
def unitUnder (w : World) (u : UnitId) (name : String) : Value :=
  (((w.forest.subs u).get? (Text.foldCase name)).map Value.unit).getD .null

/-- Writing an entry changes cells only. -/
theorem cells_of_writeEntry (cell : Nat) (key v : Value) (w : World) :
    ∃ cells, (outcome (writeEntry cell key v) w).2 = { w with cells := cells } := by
  rw [writeEntry, outcome_get_bind]
  split
  · rename_i fluent entries there
    have still := still_insertEntry entries key v w
    rw [Still] at still
    rw [outcome_bind]
    rcases written : outcome (insertEntry entries key v) w with ⟨f | entries', w'⟩ <;>
      rw [written] at still <;> subst still
    · exact ⟨w'.cells, rfl⟩
    · exact ⟨_, rfl⟩
  · exact ⟨w.cells, rfl⟩

/-- A unit is asked for its names one after the other, and answers with its sub-units. -/
theorem answers_of_plain {cell : Nat} {e : Elements} (names : List String)
    (plain : PlainUnit w u) :
    ∃ w', World.Answers (.unit u) cell (.fixed e) e w (names.map .text)
        (names.map (unitUnder w u)) w' ∧ w'.forest = w.forest := by
  induction names generalizing w with
  | nil => exact ⟨w, .nil, rfl⟩
  | cons name rest ih =>
    have answered := plain.outcome_recordProperty (show w.text? (.text name) = some name from rfl)
    obtain ⟨cells, written⟩ := cells_of_writeEntry cell (.text name) (unitUnder w u name) (w.mark 1)
    have still : PlainUnit { w.mark 1 with cells := cells } u := ⟨plain.getter, plain.namer⟩
    obtain ⟨w', later, same⟩ := ih still
    exact ⟨w', .cons (.inl rfl) answered (written ▸ later), same⟩

theorem texts_read (w : World) (texts : List String) :
    (texts.map Value.text).map w.text? = texts.map some := by
  rw [List.map_map]
  rfl

/-- A new set of texts is a set of names. -/
theorem names_of_set {i : Nat} {items : List Value} {texts : List String}
    (there : w.cell? i = some (.set true items)) (read : items.map w.text? = texts.map some) :
    w.Names (.ref i) (.fixed (.list items)) (.list items) texts := by
  have based : w.base (.ref i) = .ref i := by simp [World.base, there]
  have cell : w.baseCell? (.ref i) = some (.set true items) := by
    rw [World.baseCell?, based]
    exact there
  refine ⟨?_, ?_, .inl rfl, read⟩
  · simp [World.members?, World.sequence?, World.mapping?, World.repeatable?, based, cell, there,
      Elements.toList]
  · simp [Source.ofValue, World.sequence?, World.mapping?, World.repeatable?, based, cell, there]

/-- The mapping of a unit is a new one of its sub-units, and equals that which the unit shows. -/
theorem OwnRecord.outcome_toMap (own : OwnRecord w u) (whole : w.Whole)
    (registry : Forest.Registry (w.forest.subs u)) :
    ∃ i entries named w', outcome (toMap (.unit u)) w = (.ok (.ref i), w') ∧
      w'.cell? i = some (.dict false entries) ∧ w'.named? entries = some named ∧
      itemsOf named = (w.forest.subs u).map (fun e => (e.1, Value.unit e.2)) ∧
      w'.equal (.ref i) (.subUnits u) = .ok true := by
  let units := w.forest.subs u
  let keys : List Value := (Table.keys units).map .text
  let w₁ := (w.mark 1).withCell (.set true keys)
  have known (w : World) : w.Holds (.unit u : Value) := trivial
  have unasked : w.Holds ([] : List Value) := nofun
  have spared := spares_callMethod Record.namer (known w) unasked whole
  rw [own.outcome_namer] at spared
  have there := World.cell?_withCell_self (w.mark 1) (.set true keys)
  have names := names_of_set there (texts_read w₁ (Table.keys units))
  have plain : PlainUnit (w₁.withCell (.dict false [])) u := ⟨own.plain.getter, own.plain.namer⟩
  obtain ⟨w', answered, same⟩ := answers_of_plain (Table.keys units) plain
  obtain ⟨entries, named, made, there, held, gives⟩ :=
    outcome_recordMap spared.1.sealed_ (known w₁) ((within_ok _).mp spared.2) own.outcome_namer names
      answered
  have items : itemsOf named = units.map fun e => (e.1, Value.unit e.2) := by
    have under : ∀ e ∈ units, (e.1, unitUnder w₁ u e.1) = (e.1, Value.unit e.2) := fun e listed => by
      rw [unitUnder, registry.folded e.1 (Table.mem_keys_of_mem listed)]
      change (e.1, ((Table.get? units e.1).map Value.unit).getD .null) = _
      rw [Table.get?_of_mem registry.distinct listed]
      rfl
    have paired : (Table.keys units).zip ((Table.keys units).map (unitUnder w₁ u)) =
        units.map fun e => (e.1, Value.unit e.2) := by
      rw [Table.keys, List.map_map, List.zip_map']
      exact List.map_congr_left under
    rw [gives]
    change Table.ofEntries ((Table.keys units).zip ((Table.keys units).map (unitUnder w₁ u))) = _
    rw [paired, Table.ofEntries_of_nodup]
    rw [Table.keys, List.map_map]
    exact registry.distinct
  have unmapped : w.isMapping (.unit u) = false := rfl
  refine ⟨_, entries, named, w', ?_, there, held, items, ?_⟩
  · rw [toMap, outcome_get_bind, unmapped, if_neg Bool.false_ne_true,
      outcome_bind_ok own.plain.outcome_isRecord, if_pos rfl, made]
  · have units' : w'.forest.subs u = units := by rw [same]; rfl
    exact World.equal_subUnits there held (by rw [items, units']) (by rw [units']; exact registry.distinct)

/-- A text that is no member of an enumeration resolves to what the unit answers for it. -/
theorem OwnRecord.outcome_resolveProperty (own : OwnRecord w u) {p : Value} {text : String}
    {unit : UnitId} (read : w.text? p = some text) (single : p.isMember = false)
    (found : (w.forest.subs u).get? (Text.foldCase text) = some unit) :
    outcome (ObjectModel.standard.resolveProperty (.unit u) p) w = (.ok (.unit unit), w.mark 1) := by
  have given : p ≠ .null := by
    rintro rfl
    cases read
  have unindexed : w.Unindexed p := by
    rw [World.Unindexed, asIndex, outcome_get_bind, World.base_of_text read]
    rfl
  have made : outcome (toTemplateText p) w = (.ok p, w) := by
    rw [outcome_toTemplateText_plain single (by simp [World.isText, read]), read]
  have answered := own.plain.outcome_recordProperty read
  rw [found] at answered
  have asked : outcome (ObjectModel.standard.getProperty (.unit u) p) w =
      (.ok (.unit unit), w.mark 1) := by
    rw [outcome_getProperty_standard]
    simp only [inheritedProperty, given, reduceCtorEq, decide_false, Bool.or_false,
      Bool.false_eq_true, if_false]
    rw [outcome_bind_ok made, outcome_bind_ok own.plain.outcome_isRecord, if_pos rfl,
      outcome_bind_ok answered]
    rfl
  rw [resolveProperty_eq (by simp) given, outcome_bind_ok (outcome_resolveIndex_unindexed unindexed)]
  exact asked

/-- A unit answers as a record of what was registered with it. -/
structure RecordOf (w : World) (u : UnitId) (made : List (String × UnitId)) : Prop where
  /-- For a name, it answers with the unit that was registered last under it, if any was. -/
  property : ∀ name text, w.text? name = some text → outcome (recordProperty (.unit u) name) w =
    (.ok (((latest? made text).map Value.unit).getD .null), w.mark 1)
  /-- It tells exactly the folded names. -/
  names : outcome (callMethod (.unit u) Record.namer []) w =
    (.ok (.ref w.cells.size), (w.mark 1).withCell (.set true ((foldedNames made).map .text)))
  /-- It shows the unit that was registered last under each name. -/
  listing : outcome (Dispatch.full.readFrom (.unit u) "sub_templates") w = (.ok (.subUnits u), w) ∧
    w.mapping? (.subUnits u) = some ((foldedNames made).map fun name =>
      (.text name, ((latest? made name).map Value.unit).getD .null))
  /-- Its mapping is a new one with the same units under the same names, and equals that. -/
  mapping : ∃ i entries named w', outcome (toMap (.unit u)) w = (.ok (.ref i), w') ∧
    w'.cell? i = some (.dict false entries) ∧ w'.named? entries = some named ∧
    itemsOf named = (foldedNames made).map (fun name =>
      (name, ((latest? made name).map Value.unit).getD .null)) ∧
    w'.equal (.ref i) (.subUnits u) = .ok true
  /-- A text that is no member of an enumeration resolves to the unit that was registered last. -/
  resolved : ∀ p text unit, w.text? p = some text → p.isMember = false →
    latest? made text = some unit →
    outcome (ObjectModel.standard.resolveProperty (.unit u) p) w = (.ok (.unit unit), w.mark 1)

/-- After any requests, from a world without registered units, each unit answers as a record of what
was registered with it. -/
theorem record_of_requested {calls : List Request} (whole : w.Whole)
    (unregistered : ∀ u, w.forest.subs u = []) (has : ∀ c ∈ calls, w.Has c.name)
    (owners : ∀ c ∈ calls, c.owner < w.forest.length) (own : OwnRecord (w.requested calls) u) :
    RecordOf (w.requested calls) u (w.registrations u calls) := by
  have retained := World.retains_requested whole has
  have units : (w.requested calls).forest.subs u = registryOf (w.registrations u calls) := by
    rw [World.subs_requested whole has owners u, unregistered u]
    rfl
  generalize w.requested calls = w' at own retained units
  generalize w.registrations u calls = made at units
  have under (name : String) :
      (w'.forest.subs u).get? (Text.foldCase name) = latest? made name := by
    rw [units, get?_registryOf]
  refine ⟨fun name text read => ?_, ?_, ⟨own.outcome_listing, ?_⟩, ?_,
    fun p text unit read single found => ?_⟩
  · rw [own.plain.outcome_recordProperty read, under]
  · rw [own.outcome_namer, units, keys_registryOf]
  · rw [World.mapping?, units, map_registryOf made fun name v => (Value.text name, v)]
  · obtain ⟨i, entries, named, w'', mapped, there, held, items, same⟩ :=
      own.outcome_toMap retained.whole (units ▸ registry_registryOf made)
    rw [units, map_registryOf made fun name v => (name, v)] at items
    exact ⟨i, entries, named, w'', mapped, there, held, items, same⟩
  · exact own.outcome_resolveProperty read single ((under text).trans found)

/-- Three units that are not registered yet, and an enumeration of texts. -/
def unregistered : World where
  forest := List.replicate 3 ⟨none, []⟩
  unitClasses := #[0, 0, 0]
  classes := #[
    { name := "Unit"
      kind := .plain
      bases := [.standard .renderUnit]
      order := [.declared 0, .standard .renderUnit, .standard .object]
      members := []
      annotations := []
      names := []
      fields := none
      closed := false },
    { name := "Slot"
      kind := .textEnumeration
      bases := [.standard .textEnumeration]
      order := [.declared 1, .standard .textEnumeration, .standard .text, .standard .enumeration,
        .standard .object]
      members := []
      annotations := []
      names := [⟨"KEY", .text "child", 0⟩]
      fields := none
      closed := true }]

theorem whole_unregistered : unregistered.Whole where
  cells i c hc _ := by
    match i with
    | 0 =>
      obtain rfl := Option.some.inj hc
      exact fun v hv => by simp [unregistered, Cell.contents] at hv
    | i + 1 => simp [unregistered, World.cell?] at hc
  classes i info h := by
    rcases i with _ | _ | i
    · obtain rfl := Option.some.inj h
      exact ⟨by simp [unregistered], by simp [unregistered]⟩
    · obtain rfl := Option.some.inj h
      exact ⟨by simp [unregistered], List.forall_mem_singleton.mpr trivial⟩
    · simp [unregistered, World.class?] at h
  named e he := by simp [unregistered] at he
  inBounds i hi := hi.elim
  emptyTuple := ⟨by decide, id⟩

/-- Two units are registered under one name, and a third request is refused. -/
def reregistering : List Request :=
  [⟨0, .text "Child", 1⟩, ⟨0, .text "CHILD", 2⟩, ⟨2, .text "child", 1⟩]

theorem record_of_requested_child :
    unregistered.registrations 0 reregistering = [("Child", 1), ("CHILD", 2)] ∧
    (outcome (recordProperty (.unit 0) (.text "cHILD")) (unregistered.requested reregistering)).1 =
      .ok (.unit 2) ∧
    (outcome (ObjectModel.standard.resolveProperty (.unit 0) (.text "child"))
      (unregistered.requested reregistering)).1 = .ok (.unit 2) := by
  have made : unregistered.registrations 0 reregistering = [("Child", 1), ("CHILD", 2)] := rfl
  have has : ∀ c ∈ reregistering, unregistered.Has c.name := by
    simp only [reregistering, List.forall_mem_cons, List.not_mem_nil, false_imp_iff, implies_true,
      and_true]
    exact ⟨⟨trivial, nofun⟩, ⟨trivial, nofun⟩, trivial, nofun⟩
  have record := record_of_requested (u := 0) whole_unregistered
    (Forest.subs_fresh 3) has (by decide) ⟨rfl, rfl, rfl⟩
  rw [made] at record
  refine ⟨made, ?_, ?_⟩
  · rw [record.property (.text "cHILD") "cHILD" rfl]
    rfl
  · rw [record.resolved (.text "child") "child" 2 rfl rfl (by decide)]

/-- A member of an enumeration is looked up by its own text, but resolves by its name. -/
theorem member_resolves_by_name :
    let w := unregistered.requested [⟨0, .text "child", 1⟩]
    w.text? (.member 1 0) = some "child" ∧
      latest? (unregistered.registrations 0 [⟨0, .text "child", 1⟩]) "child" = some 1 ∧
      (outcome (recordProperty (.unit 0) (.member 1 0)) w).1 = .ok (.unit 1) ∧
      (outcome (ObjectModel.standard.resolveProperty (.unit 0) (.member 1 0)) w).1 = .ok .null :=
  ⟨rfl, by decide, rfl, rfl⟩

end ObjectModel

end TemplateEngine
