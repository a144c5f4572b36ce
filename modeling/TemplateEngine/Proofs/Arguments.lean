import TemplateEngine.Proofs.UnitScope
import TemplateEngine.Proofs.Agreement
import TemplateEngine.Proofs.Growth
import TemplateEngine.Proofs.Settled
import TemplateEngine.Proofs.Keys
import Mathlib.Data.List.Induction
import Mathlib.Data.List.Perm.Subperm
/-!
The arguments of a called unit. The keys are turned into texts first and folded then: a text that
comes again keeps its first place, so that the item that a name means is the last one of the spelling
that came up last, and not always the last one under the name.
-/
namespace TemplateEngine

/-! ## Items under texts -/

namespace Table

variable {α : Type}

/-- The value of the last item whose text is one of those asked for. -/
def last? (asked : String → Bool) (items : List (String × α)) : Option α :=
  (items.reverse.find? (asked ·.1)).map Prod.snd

/-- Of the spellings of a folded name, the one that comes up last; its last item gives the value. -/
def lastSpelled? (items : List (String × α)) (name : String) : Option α := do
  let spelling ← ((keys items).eraseDups.filter (Text.foldCase · == name)).getLast?
  last? (· == spelling) items

theorem last?_concat (asked : String → Bool) (items : List (String × α)) (item : String × α) :
    last? asked (items ++ [item]) =
      if asked item.1 then some item.2 else last? asked items := by
  by_cases h : asked item.1 <;> simp [last?, h]

/-- Of the items under a text the last one is kept. -/
theorem get?_ofEntries (items : List (String × α)) (spelling : String) :
    get? (ofEntries items) spelling = last? (· == spelling) items := by
  induction items using List.reverseRecOn with
  | nil => rfl
  | append_singleton items item ih =>
    rw [ofEntries_concat, last?_concat]
    by_cases h : item.1 = spelling
    · rw [if_pos (beq_iff_eq.mpr h), ← h, get?_insert_self]
    · rw [if_neg (mt beq_iff_eq.mp h), get?_insert_of_ne _ _ (Ne.symm h), ih]

/-- The texts keep the places at which they come up. -/
theorem keys_ofEntries (items : List (String × α)) :
    keys (ofEntries items) = (keys items).eraseDups := by
  induction items using List.reverseRecOn with
  | nil => rfl
  | append_singleton items item ih =>
    have split : keys (items ++ [item]) = keys items ++ [item.1] := by simp [keys]
    rw [ofEntries_concat, split, List.eraseDups_append]
    by_cases known : item.1 ∈ keys items
    · have held : item.1 ∈ keys (ofEntries items) := by rwa [ih, List.mem_eraseDups]
      rw [keys_insert_of_mem _ _ held, ih]
      simp [List.removeAll, known]
    · have missing : item.1 ∉ keys (ofEntries items) := by rwa [ih, List.mem_eraseDups]
      rw [keys_insert_of_not_mem _ _ missing, ih]
      simp [List.removeAll, known, List.eraseDups_cons]

theorem nodup_keys_ofEntries (items : List (String × α)) : (keys (ofEntries items)).Nodup := by
  induction items using List.reverseRecOn with
  | nil => exact List.nodup_nil
  | append_singleton items item ih =>
    rw [ofEntries_concat]
    exact nodup_keys_insert _ _ _ ih

theorem length_ofEntries_le (items : List (String × α)) :
    (ofEntries items).length ≤ items.length := by
  have listed : keys (ofEntries items) ⊆ keys items := fun text => by
    rw [keys_ofEntries, List.mem_eraseDups]
    exact id
  simpa [keys] using ((nodup_keys_ofEntries items).subperm listed).length_le

/-- The last entry under a folded name is the one of the spelling that comes up last. -/
theorem lastFolded_ofEntries (items : List (String × α)) (name : String) :
    last? (Text.foldCase · == name) (ofEntries items) = lastSpelled? items name := by
  have spellings : (keys items).eraseDups.filter (Text.foldCase · == name) =
      ((ofEntries items).filter (Text.foldCase ·.1 == name)).map Prod.fst := by
    rw [← keys_ofEntries, keys, List.filter_map]
    rfl
  have last : ((ofEntries items).filter (Text.foldCase ·.1 == name)).getLast? =
      (ofEntries items).reverse.find? (Text.foldCase ·.1 == name) := by
    rw [← List.head?_reverse, ← List.filter_reverse, List.head?_filter]
  rw [lastSpelled?, spellings, List.getLast?_map, last, last?]
  cases found : (ofEntries items).reverse.find? (Text.foldCase ·.1 == name) with
  | none => rfl
  | some entry =>
    have held : (entry.1, entry.2) ∈ ofEntries items := by
      simpa using List.mem_of_find?_eq_some found
    have value := get?_of_mem (nodup_keys_ofEntries items) held
    rw [get?_ofEntries] at value
    simp [value]

/-- A name has a value if some item is under it. -/
theorem isSome_lastSpelled? (items : List (String × α)) (name : String) :
    (lastSpelled? items name).isSome ↔ ∃ item ∈ items, Text.foldCase item.1 = name := by
  have listed : ∀ text, text ∈ keys (ofEntries items) ↔ text ∈ keys items := fun text => by
    rw [keys_ofEntries, List.mem_eraseDups]
  constructor
  · intro bound
    rw [← lastFolded_ofEntries, last?, Option.isSome_map, List.find?_isSome] at bound
    obtain ⟨entry, held, same⟩ := bound
    have spelled := mem_keys_of_mem (List.mem_reverse.mp held)
    obtain ⟨item, given, text⟩ := List.mem_map.mp ((listed entry.1).mp spelled)
    exact ⟨item, given, text ▸ beq_iff_eq.mp same⟩
  · rintro ⟨item, given, same⟩
    obtain ⟨entry, held, text⟩ := List.mem_map.mp ((listed item.1).mpr (mem_keys_of_mem given))
    rw [← lastFolded_ofEntries, last?, Option.isSome_map, List.find?_isSome]
    exact ⟨entry, List.mem_reverse.mpr held, beq_iff_eq.mpr (text ▸ same)⟩

/-- If no text comes twice, the last item under a name gives its value. -/
theorem lastSpelled?_of_nodup {items : List (String × α)} (distinct : (keys items).Nodup)
    (name : String) : lastSpelled? items name = last? (Text.foldCase · == name) items := by
  rw [← lastFolded_ofEntries, ofEntries_of_nodup items distinct]

end Table

/-- The texts of names with their values. -/
def itemsOf (named : List (Name Value × Value)) : List (String × Value) :=
  named.map fun e => (e.1.text, e.2)

/-! ## Texts as keys -/

namespace World

variable {w : World}

theorem base_of_text {v : Value} {text : String} (read : w.text? v = some text) :
    w.base v = .text text := by
  unfold text? at read
  split at read
  · rename_i based
    rwa [← Option.some.inj read]
  · cases read

theorem hash_of_text {key : Value} {text : String} (read : w.text? key = some text) :
    w.hash key = .ok () := by
  have based := base_of_text read
  obtain ⟨n, room⟩ := w.nesting_eq_succ key
  simp [hash, room, hashWithin, based, baseCell?]

/-- Texts are compared as such, at any depth. -/
theorem same_of_text {a b : Value} {s t : String} (first : w.text? a = some s)
    (second : w.text? b = some t) (n : Nat) :
    (if a.identical b then Except.ok true else w.equalWithin (n + 1) a b) = .ok (s == t) := by
  have unnumbered : w.numeric? a = none := by
    unfold text? at first
    split at first <;> simp_all [numeric?]
  split
  · rename_i same
    obtain rfl : a = b := by
      simp only [Value.identical, Bool.and_eq_true, beq_iff_eq] at same
      exact same.1
    obtain rfl := Option.some.inj (first.symm.trans second)
    simp
  · simp [equalWithin, unnumbered, first, second]

theorem agreeFrom_of_text {a b : Value} {s t : String} (first : w.text? a = some s)
    (second : w.text? b = some t) : w.agreeFrom w.bulk a b = .ok (s == t) := by
  obtain ⟨n, room⟩ : ∃ n, w.bulk + a.depth + b.depth = n + 1 :=
    ⟨w.bulk + a.depth + b.depth - 1, by have := two_le_bulk w; omega⟩
  rw [agreeFrom, equalFrom, room]
  exact same_of_text first second n

end World

section
variable {w : World} {entries : List (Value × Value)} {named : List (Name Value × Value)}
  {key : Value} {text : String}

theorem World.named?_cons {k v : Value} {s : String} (read : w.text? k = some s)
    (rest : w.named? entries = some named) :
    w.named? ((k, v) :: entries) = some ((⟨s, k⟩, v) :: named) := by
  simp [World.named?, read, rest]

theorem World.of_named?_cons {k v : Value} (held : w.named? ((k, v) :: entries) = some named) :
    ∃ s tail, w.text? k = some s ∧ w.named? entries = some tail ∧ (⟨s, k⟩, v) :: tail = named := by
  cases shown : w.text? k with
  | none => simp [World.named?, shown] at held
  | some s =>
    cases others : w.named? entries with
    | none => simp [World.named?, shown, others] at held
    | some tail => exact ⟨s, tail, rfl, rfl, by simpa [World.named?, shown, others] using held⟩

/-- An entry under a text is written in the place of that text, or at the end. -/
theorem putEntry_of_text (held : w.named? entries = some named) (read : w.text? key = some text)
    (v : Value) : ∃ entries' named', putEntry (w.agreeFrom w.bulk) key v entries = .ok entries' ∧
      w.named? entries' = some named' ∧ itemsOf named' = Table.insert (itemsOf named) text v := by
  induction entries generalizing named with
  | nil =>
    obtain rfl : named = [] := by simpa [World.named?, eq_comm] using held
    exact ⟨[(key, v)], _, rfl, World.named?_cons read rfl, rfl⟩
  | cons entry rest ih =>
    obtain ⟨k, x⟩ := entry
    obtain ⟨s, tail, shown, others, rfl⟩ := World.of_named?_cons held
    have compared := w.agreeFrom_of_text shown read
    by_cases same : s = text
    · subst same
      refine ⟨(k, v) :: rest, _, ?_, World.named?_cons shown others, ?_⟩
      · simp [putEntry, compared, bind, Except.bind, pure, Except.pure]
      · simp [itemsOf, Table.insert]
    · obtain ⟨rest', tail', written, read', same'⟩ := ih others
      refine ⟨(k, x) :: rest', _, ?_, World.named?_cons shown read', ?_⟩
      · simp [putEntry, compared, same, written, bind, Except.bind, pure, Except.pure]
      · simpa [itemsOf, Table.insert, same] using same'

theorem outcome_insertEntry (held : w.named? entries = some named) (read : w.text? key = some text)
    (v : Value) : ∃ entries' named', outcome (insertEntry entries key v) w = (.ok entries', w) ∧
      w.named? entries' = some named' ∧ itemsOf named' = Table.insert (itemsOf named) text v := by
  obtain ⟨entries', named', written, read', same⟩ := putEntry_of_text held read v
  refine ⟨entries', named', ?_, read', same⟩
  simp [insertEntry, World.hash_of_text read, outcome_bind, written]

end

/-- Items as entries with texts as keys. -/
def textEntries (items : List (String × Value)) : List (Value × Value) :=
  items.map fun e => (.text e.1, e.2)

section
variable (w : World) (items : List (String × Value)) (name : String)

theorem entryFor_texts : entryFor (w.agreeFrom w.bulk) (.text name) (textEntries items) =
    .ok (Table.get? items name) := by
  induction items with
  | nil => rfl
  | cons item rest ih =>
    obtain ⟨text, x⟩ := item
    have compared : w.agreeFrom w.bulk (.text text) (.text name) = .ok (text == name) :=
      w.agreeFrom_of_text rfl rfl
    rw [textEntries, List.map_cons, entryFor, compared, Table.get?]
    cases text == name
    · exact ih
    · rfl

theorem putEntry_texts (v : Value) :
    putEntry (w.agreeFrom w.bulk) (.text name) v (textEntries items) =
      .ok (textEntries (Table.insert items name v)) := by
  induction items with
  | nil => rfl
  | cons item rest ih =>
    obtain ⟨text, x⟩ := item
    have compared : w.agreeFrom w.bulk (.text text) (.text name) = .ok (text == name) :=
      w.agreeFrom_of_text rfl rfl
    rw [textEntries] at ih
    rw [textEntries, List.map_cons, putEntry, compared, Table.insert]
    cases text == name
    · simp [ih, bind, Except.bind, pure, Except.pure, textEntries]
    · rfl

theorem outcome_lookUpEntry_texts :
    outcome (lookUpEntry (textEntries items) (.text name)) w = (.ok (Table.get? items name), w) := by
  have hashed : w.hash (.text name) = .ok () := World.hash_of_text rfl
  change ((do w.hash (.text name); entryFor (w.agreeFrom w.bulk) (.text name) (textEntries items)), w) = _
  rw [hashed, entryFor_texts]
  rfl

theorem outcome_insertEntry_texts (v : Value) :
    outcome (insertEntry (textEntries items) (.text name) v) w =
      (.ok (textEntries (Table.insert items name v)), w) := by
  have hashed : w.hash (.text name) = .ok () := World.hash_of_text rfl
  simp [insertEntry, hashed, outcome_bind, putEntry_texts]

end

/-! ## The arguments of a call -/

/-- Items of a mapping under the texts of their keys. The texts are made one after the other, and the
making of one may change the world for the next one. -/
inductive World.Spells : World → List (Value × Value) → List (String × Value) → World → Prop
  | nil {w : World} : Spells w [] [] w
  | cons {w w' w'' : World} {key name v : Value} {text : String} {rest : List (Value × Value)}
      {items : List (String × Value)} (made : outcome (toTemplateText key) w = (.ok name, w'))
      (read : w'.text? name = some text) (later : Spells w' rest items w'') :
      Spells w ((key, v) :: rest) ((text, v) :: items) w''

/-- Items are written under the texts of their keys, one after the other. -/
theorem outcome_namedArguments {given : List (Value × Value)} {items : List (String × Value)}
    {w w' : World} (spelled : w.Spells given items w') :
    ∀ {entries : List (Value × Value)} {named : List (Name Value × Value)}, w.Whole →
      w.Holds given → w.named? entries = some named →
      ∃ entries' named', outcome (namedArguments entries given) w = (.ok entries', w') ∧
        w'.named? entries' = some named' ∧
        itemsOf named' = Table.insertAll (itemsOf named) items := by
  induction spelled with
  | nil =>
    intro entries named _ _ held
    exact ⟨entries, named, rfl, held, rfl⟩
  | @cons w₀ w₁ w₂ key name v text rest items made read later ih =>
    intro entries named whole present held
    obtain ⟨⟨keyPresent, -⟩, restPresent⟩ := within_cons.mp present
    have kept : w₀.Kept .clear w₁ := by
      have spared := (spares_toTemplateText keyPresent whole).1
      rwa [made] at spared
    obtain ⟨entries₁, named₁, written, held₁, same₁⟩ := outcome_insertEntry (kept.named? held) read v
    obtain ⟨entries', named', done, held', same'⟩ :=
      ih kept.sealed_ (kept.within restPresent) held₁
    refine ⟨entries', named', ?_, held', ?_⟩
    · rw [namedArguments, outcome_bind_ok made, outcome_bind_ok written, done]
    · rw [same', same₁]
      rfl

section
variable {w w₁ w₂ : World} {arguments map : Value} {items : List (String × Value)}

/-- The arguments of a call are a new mapping from the texts to their last values. -/
theorem outcome_callArguments (whole : w.Whole) (present : w.Holds arguments)
    (mapped : outcome (toMap arguments) w = (.ok map, w₁))
    (spelled : w₁.Spells ((w₁.mapping? map).getD []) items w₂) :
    ∃ entries named, outcome (callArguments arguments) w =
        (.ok (.readOnly w₂.nextTag (.ref w₂.cells.size)),
          { w₂ with nextTag := w₂.nextTag + 1 }.withCell (.dict false entries)) ∧
      w.Kept .clear w₂ ∧ w₂.Holds entries ∧ w₂.named? entries = some named ∧
      itemsOf named = Table.ofEntries items := by
  have spared := spares_toMap present whole
  rw [mapped] at spared
  obtain ⟨kept, mapPresent⟩ := spared
  have given : w₁.Holds ((w₁.mapping? map).getD []) :=
    kept.sealed_.entries (kept.sealed_.open_of_within ((within_ok map).mp mapPresent))
  obtain ⟨entries, named, made, held, same⟩ :=
    outcome_namedArguments spelled kept.sealed_ given (show w₁.named? [] = some [] from rfl)
  have gathered : Spares .clear w₁ (namedArguments [] ((w₁.mapping? map).getD [])) :=
    spares_namedArguments (by simp) given
  replace gathered := gathered kept.sealed_
  rw [made] at gathered
  refine ⟨entries, named, ?_, kept.trans gathered.1, (within_ok entries).mp gathered.2, held, same⟩
  rw [callArguments, outcome_bind_ok mapped, outcome_get_bind, outcome_bind_ok made]
  rfl

end

/-- A new scope over the arguments of a call binds the names of their spellings. -/
theorem get?_ofEntries_items {named : List (Name Value × Value)} {items : List (String × Value)}
    (same : itemsOf named = Table.ofEntries items) (text : String) :
    (Scope.ofEntries named).get? text = Table.lastSpelled? items (Text.foldCase text) := by
  have last : lastNamed? named (Text.foldCase text) =
      Table.last? (Text.foldCase · == Text.foldCase text) (itemsOf named) := by
    rw [lastNamed?, Table.last?, itemsOf, ← List.map_reverse, List.find?_map, Option.map_map]
    rfl
  rw [Scope.ofEntries, Scope.get?_insertAll named Scope.shows_empty, last, same,
    Table.lastFolded_ofEntries]
  simp [Scope.get?, Scope.spelling?, Scope.empty, Table.get?]

/-! ## Calls -/

namespace World

theorem length_of_named? {w : World} {entries : List (Value × Value)} :
    ∀ {named : List (Name Value × Value)}, w.named? entries = some named →
      entries.length = named.length := by
  induction entries with
  | nil =>
    intro named held
    obtain rfl : named = [] := by simpa [named?, eq_comm] using held
    rfl
  | cons entry rest ih =>
    intro named held
    obtain ⟨s, tail, -, others, rfl⟩ := of_named?_cons held
    simp [ih others]

namespace Grows

variable {w w' : World}

theorem named? (grown : w.Grows w') {entries : List (Value × Value)} (held : w.Holds entries) :
    w'.named? entries = w.named? entries := by
  induction entries with
  | nil => rfl
  | cons entry rest ih =>
    obtain ⟨⟨key, -⟩, later⟩ := within_cons.mp held
    simp only [World.named?, grown.text? key, ih later]

theorem starts? (grown : w.Grows w') (whole : w.Whole) {v : Value} (held : w.Holds v) :
    w'.starts? v = w.starts? v := by
  have entries : (w.mapping? v).bind w'.named? = (w.mapping? v).bind w.named? := by
    cases found : w.mapping? v with
    | none => rfl
    | some entries =>
      exact grown.named? (whole.mapping? (whole.open_of_within held) entries found)
  cases v with
  | null => rfl
  | _ =>
    unfold World.starts?
    simp only [grown.baseCell? whole held, grown.mapping? whole held, entries]

end Grows

end World

namespace Render

theorem staged_log (c : Context) (severity : Severity) (name : String)
    (fields : Table String Value) (s : Stage) :
    ∃ events, staged (log c severity name fields) s = (.ok (), { s with events := events }) := by
  unfold log
  split
  · exact ⟨s.events, rfl⟩
  · exact ⟨_, rfl⟩

theorem outcome_argumentCount {w : World} {map : Value} {entries : List (Value × Value)}
    (read : w.mapping? map = some entries) (room : entries.length < maxLength) :
    outcome (argumentCount map) w = (.ok entries.length, w) := by
  have given : map ≠ .null := by
    rintro rfl
    simp [World.mapping?, World.baseCell?, World.base] at read
  simp [argumentCount, given, lengthOf, World.size?_of_mapping read, room]

theorem outcome_unitName (w : World) (u : UnitId) :
    outcome (do return (← get).qualifiedName ((← get).classOf (.unit u))) w =
      (.ok (w.qualifiedName (w.classOf (.unit u))), w) := rfl

section
variable {α β : Type} {s s' : Stage}

theorem staged_bind_ok {x : Render α} {f : α → Render β} {a : α} (h : staged x s = (.ok a, s')) :
    staged (x >>= f) s = staged (f a) s' := by
  rw [staged_bind, h]

theorem staged_onWorld_ok {x : M α} {a : α} {w : World} (h : outcome x s.world = (.ok a, w)) :
    staged (onWorld x) s = (.ok a, { s with world := w }) := by
  rw [staged_onWorld, h]

end

/-- The frame in which the body of a unit runs when the unit is rendered in a world, with two new
cells for its variables. -/
def newFrame (w : World) (u : UnitId) : Frame :=
  ⟨u, .ref w.cells.size, .ref (w.cells.size + 1), .null⟩

/-- The world in which the body of a unit runs, with the scopes of its variables. -/
def newWorld (w : World) (globals named : List (Name Value × Value)) (u : UnitId) : World :=
  (w.withCell (.bindings (w.forest.overlaid globals u))).withCell (.bindings (.ofEntries named))

/-- The body of a unit gets two new scopes: that of the unit, and one over the arguments. -/
theorem staged_renderUnit_new {c : Context} {s : Stage} {arguments : Value} {count : Nat}
    {globals named : List (Name Value × Value)} (whole : s.world.Whole)
    (held : s.world.Holds arguments) (shared : s.world.starts? c.globals = some globals)
    (given : s.world.starts? arguments = some named)
    (counted : ∀ w, s.world.Grows w → outcome (argumentCount arguments) w = (.ok count, w))
    (u : UnitId) :
    ∃ events, ∀ runBody, staged (renderUnit c runBody u arguments) s =
      staged (runBody (newFrame s.world u) u)
        { s with world := newWorld s.world globals named u, events := events } := by
  let w := s.world
  let inner := w.withCell (.bindings (w.forest.overlaid globals u))
  have grown : w.Grows inner := .withCell w _
  have cell := World.cell?_withCell_self w (.bindings (w.forest.overlaid globals u))
  have bound := Bindings.outcome_make ((grown.starts? whole held).trans given)
  obtain ⟨events, logged⟩ := staged_log c .debug "render_unit"
    [("unit", .text (inner.qualifiedName (inner.classOf (.unit u)))),
      ("scope", .int (w.forest.overlaid globals u).size), ("arguments", .int count)]
    { s with world := inner }
  refine ⟨events, fun runBody => ?_⟩
  have sized : outcome (do return (← Bindings.scopeOf (.ref w.cells.size)).size) inner =
      (.ok (w.forest.overlaid globals u).size, inner) := by
    rw [outcome_bind_ok (Bindings.outcome_scopeOf cell), outcome_pure]
  have next : inner.cells.size = w.cells.size + 1 := by simp [inner, World.withCell]
  rw [renderUnit, staged_bind_ok (staged_onWorld_ok (outcome_unitScope shared u)),
    staged_bind_ok (staged_onWorld_ok sized),
    staged_bind_ok (staged_onWorld_ok (counted inner grown)),
    staged_bind_ok (staged_onWorld_ok (outcome_unitName inner u)), staged_bind_ok logged,
    staged_bind_ok (staged_onWorld_ok bound), next]
  rfl

/-- The body of a unit gets a new scope over the arguments, which binds what they bind. -/
theorem staged_renderUnit {c : Context} {s : Stage} {arguments : Value}
    {entries : List (Value × Value)} {globals named : List (Name Value × Value)}
    (whole : s.world.Whole) (held : s.world.Holds arguments)
    (shared : s.world.starts? c.globals = some globals)
    (read : s.world.mapping? arguments = some entries)
    (given : s.world.starts? arguments = some named) (room : entries.length < maxLength)
    (u : UnitId) :
    ∃ f s' i, f.unit = u ∧ f.arguments = .ref i ∧
      s'.world.cell? i = some (.bindings (.ofEntries named)) ∧
      ∀ runBody, staged (renderUnit c runBody u arguments) s = staged (runBody f u) s' := by
  have counted (w : World) (grown : s.world.Grows w) :
      outcome (argumentCount arguments) w = (.ok entries.length, w) :=
    outcome_argumentCount ((grown.mapping? whole held).trans read) room
  obtain ⟨events, run⟩ := staged_renderUnit_new whole held shared given counted u
  refine ⟨newFrame s.world u, _, s.world.cells.size + 1, rfl, rfl, ?_, run⟩
  have cell := World.cell?_withCell_self
    (s.world.withCell (.bindings (s.world.forest.overlaid globals u)))
    (.bindings (.ofEntries named))
  rwa [show (s.world.withCell _).cells.size = s.world.cells.size + 1 by simp [World.withCell]]
    at cell

/-- The body of a called unit gets a new scope over its arguments. A name is bound in it exactly if an
item is under it, to the last item of the spelling that comes up last, and so to the last item if no
spelling comes twice. There may be as many items as a length can count. -/
theorem callUnit_binds {c : Context} {s : Stage} {arguments map : Value} {w₁ w₂ : World}
    {items : List (String × Value)} {globals : List (Name Value × Value)} (whole : s.world.Whole)
    (held : s.world.Holds arguments) (lasting : s.world.Holds c.globals)
    (mapped : outcome (toMap arguments) s.world = (.ok map, w₁))
    (spelled : w₁.Spells ((w₁.mapping? map).getD []) items w₂)
    (shared : w₂.starts? c.globals = some globals) (room : items.length < maxLength) (u : UnitId) :
    ∃ f s' i scope, f.unit = u ∧ f.arguments = .ref i ∧
      s'.world.cell? i = some (.bindings scope) ∧
      (∀ runBody, staged (callUnit c (renderUnit c runBody) (.unit u) arguments) s =
        staged (runBody f u) s') ∧
      (∀ text, scope.get? text = Table.lastSpelled? items (Text.foldCase text)) ∧
      (∀ text, (scope.get? text).isSome ↔
        ∃ item ∈ items, Text.foldCase item.1 = Text.foldCase text) ∧
      ((Table.keys items).Nodup → ∀ text, scope.get? text =
        Table.last? (Text.foldCase · == Text.foldCase text) items) := by
  obtain ⟨entries, named, called, kept, present, read, same⟩ :=
    outcome_callArguments whole held mapped spelled
  let made := { w₂ with nextTag := w₂.nextTag + 1 }.withCell (.dict false entries)
  have grown : w₂.Grows made := (World.Grows.withTag w₂).trans (.withCell _ _)
  have passed := spares_callArguments (Or.inr held) whole
  rw [called] at passed
  have cell : made.cell? w₂.cells.size = some (.dict false entries) :=
    World.cell?_withCell_self { w₂ with nextTag := w₂.nextTag + 1 } _
  have mapping : made.mapping? (.readOnly w₂.nextTag (.ref w₂.cells.size)) = some entries := by
    simp [World.mapping?, World.baseCell?, World.base, cell]
  have starts : made.starts? (.readOnly w₂.nextTag (.ref w₂.cells.size)) = some named := by
    simp [World.starts?, World.baseCell?, World.base, mapping, grown.named? present, read]
  have counted : entries.length < maxLength :=
    calc entries.length = (itemsOf named).length := by simp [World.length_of_named? read, itemsOf]
      _ ≤ items.length := same ▸ Table.length_ofEntries_le items
      _ < maxLength := room
  obtain ⟨events, logged⟩ := staged_log c .debug "call_unit"
    [("unit", .text (made.qualifiedName (made.classOf (.unit u)))), ("arguments", .int entries.length)]
    { s with world := made }
  obtain ⟨f, s', i, unit, arguments', bound, rendered⟩ :=
    staged_renderUnit (c := c) (s := { s with world := made, events := events }) passed.1.sealed_
      ((within_ok _).mp passed.2) ((grown.starts? kept.sealed_ (kept.within lasting)).trans shared)
      mapping starts counted u
  have means := get?_ofEntries_items same
  refine ⟨f, s', i, .ofEntries named, unit, arguments', bound, fun runBody => ?_, means,
    fun text => ?_, fun distinct text => ?_⟩
  · rw [callUnit, staged_bind_ok (staged_onWorld_ok called),
      staged_bind_ok (staged_onWorld_ok (outcome_argumentCount mapping counted)),
      staged_bind_ok (staged_onWorld_ok (outcome_unitName made u)), staged_bind_ok logged, rendered]
  · rw [means, Table.isSome_lastSpelled?]
  · rw [means, Table.lastSpelled?_of_nodup distinct]

/-- A mapping with a spelling that comes twice, once as bytes. -/
def respelled : Stage where
  world :=
    { cells := #[.tuple [],
        .dict false [(.text "a", .int 1), (.text "A", .int 2), (.bytes [0x61], .int 3)]]
      forest := [⟨none, []⟩] }
  output := ""
  trace := []
  events := []

def bareContext : Context := ⟨.null, .standard, [], true, 10⟩

theorem whole_respelled : respelled.world.Whole where
  cells i c hc _ := by
    match i with
    | 0 =>
      obtain rfl := Option.some.inj hc
      exact fun v hv => by simp [respelled, Cell.contents] at hv
    | 1 =>
      obtain rfl := Option.some.inj hc
      exact World.within_entries.mpr (by simp [Referring.Within])
    | i + 2 => simp [respelled, World.cell?] at hc
  classes i info h := by simp [respelled, World.class?] at h
  named e he := by simp [respelled] at he
  inBounds i hi := hi.elim
  emptyTuple := ⟨by decide, id⟩

/-- The last item under the name is of the spelling that comes up first, and loses. -/
theorem callUnit_binds_respelled :
    ∃ f s' i scope, f.arguments = .ref i ∧ s'.world.cell? i = some (.bindings scope) ∧
      (∀ runBody, staged (callUnit bareContext (renderUnit bareContext runBody) (.unit 0) (.ref 1))
        respelled = staged (runBody f 0) s') ∧
      scope.get? "a" = some (.int 2) := by
  have spelled : respelled.world.Spells
      ((respelled.world.mapping? (.ref 1)).getD []) [("a", .int 1), ("A", .int 2), ("a", .int 3)]
      respelled.world :=
    .cons rfl rfl (.cons rfl rfl (.cons rfl rfl .nil))
  have passed : respelled.world.Holds (Value.ref 1) := ⟨by decide, id⟩
  obtain ⟨f, s', i, scope, -, arguments, cell, run, means, -, -⟩ :=
    callUnit_binds (c := bareContext) (s := respelled) whole_respelled passed trivial rfl spelled rfl
      (by decide) 0
  exact ⟨f, s', i, scope, arguments, cell, run, means "a"⟩

end Render

end TemplateEngine
