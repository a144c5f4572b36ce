import TemplateEngine.Proofs.Configuration
import TemplateEngine.Proofs.Layering
/-!
Merging of template values. Mappings and lists that carry trees of settings are merged as the trees are,
into a new mapping; what was there stays as it was.
-/
namespace TemplateEngine

namespace World

mutual

/-- A value that carries settings: a mapping with texts as keys, a list, or a single value. -/
def Carries (w : World) : Tree String Value → Value → Prop
  | .leaf a, v => v = a
  | .list ts, v => ∃ i items, v = .ref i ∧ w.cell? i = some (.list items) ∧ w.CarriesItems ts items
  | .table es, v => ∃ i b entries, v = .ref i ∧ w.cell? i = some (.dict b entries) ∧
      w.CarriesEntries es entries

def CarriesItems (w : World) : List (Tree String Value) → List Value → Prop
  | [], items => items = []
  | t :: ts, items => ∃ v rest, items = v :: rest ∧ w.Carries t v ∧ w.CarriesItems ts rest

def CarriesEntries (w : World) : List (String × Tree String Value) → List (Value × Value) → Prop
  | [], entries => entries = []
  | (k, t) :: es, entries => ∃ v rest, entries = (.text k, v) :: rest ∧ w.Carries t v ∧
      w.CarriesEntries es rest

end

end World

/-- A value that stands alone in settings, as an object of its own. -/
def Value.IsSingle (a : Value) : Prop := a.IsScalar ∧ a.isBare = false

namespace Tree

mutual

/-- How deep lists and tables stand inside each other. -/
def depth : Tree String Value → Nat
  | leaf _ => 0
  | list items => depthItems items + 1
  | table entries => depthEntries entries + 1

def depthItems : List (Tree String Value) → Nat
  | [] => 0
  | t :: rest => max t.depth (depthItems rest)

def depthEntries : List (String × Tree String Value) → Nat
  | [] => 0
  | (_, t) :: rest => max t.depth (depthEntries rest)

end

end Tree

open World

section Reading

variable {w : World}

theorem baseCell?_single {a : Value} (h : a.IsScalar) (w : World) : w.baseCell? a = none := by
  cases h <;> rfl

theorem baseCell?_of_dict {i : Nat} {b : Bool} {entries : List (Value × Value)}
    (there : w.cell? i = some (.dict b entries)) : w.baseCell? (.ref i) = some (.dict b entries) := by
  simp [baseCell?, base_ref, there, Cell.base?]

theorem baseCell?_of_list {i : Nat} {items : List Value}
    (there : w.cell? i = some (.list items)) : w.baseCell? (.ref i) = some (.list items) := by
  simp [baseCell?, base_ref, there, Cell.base?]

theorem ofValue_text (w : World) (k : String) (seen : List Value) :
    (Key.ofValue w (.text k)).run seen = .ok (Key.text k, seen) := rfl

theorem run_bind_ok {α β : Type} {x : Keyed (Except Fault) α} {a : α} {seen seen' : List Value}
    (first : x.run seen = .ok (a, seen')) (f : α → Keyed (Except Fault) β) :
    (x >>= f).run seen = (f a).run seen' := by
  rw [StateT.run_bind, first]
  rfl

mutual

theorem read_carried : ∀ (t : Tree String Value), t.Proper Value.IsSingle → ∀ {v : Value},
    w.Carries t v → ∀ fuel, t.depth < fuel → ∀ seen,
      (Settings.ofValueWithin w fuel v).run seen = .ok (t.mapKeys Key.text, seen)
  | .leaf a, single, v, carries, fuel + 1, _, seen => by
    obtain rfl : v = a := carries
    rw [Settings.ofValueWithin, baseCell?_single single.1]
    rfl
  | .list ts, proper, v, carries, fuel + 1, room, seen => by
    obtain ⟨i, items, rfl, there, inside⟩ := carries
    have read := read_carriedItems ts proper inside fuel (Nat.lt_of_succ_lt_succ room) seen
    rw [Settings.ofValueWithin, baseCell?_of_list there]
    exact run_bind_ok read _
  | .table es, proper, v, carries, fuel + 1, room, seen => by
    obtain ⟨i, b, entries, rfl, there, inside⟩ := carries
    have read := read_carriedEntries es proper.2 inside fuel (Nat.lt_of_succ_lt_succ room) seen
    rw [Settings.ofValueWithin, baseCell?_of_dict there]
    exact run_bind_ok read _

theorem read_carriedItems : ∀ (ts : List (Tree String Value)), Tree.ProperItems Value.IsSingle ts →
    ∀ {items : List Value}, w.CarriesItems ts items → ∀ fuel, Tree.depthItems ts < fuel → ∀ seen,
      (items.mapM (Settings.ofValueWithin w fuel)).run seen = .ok (Tree.mapKeysList Key.text ts, seen)
  | [], _, items, carries, fuel, _, seen => by
    obtain rfl : items = [] := carries
    rfl
  | t :: ts, proper, items, carries, fuel, room, seen => by
    obtain ⟨v, rest, rfl, first, others⟩ := carries
    have shallow : t.depth < fuel ∧ Tree.depthItems ts < fuel := Nat.max_lt.mp room
    have here := read_carried t proper.1 first fuel shallow.1 seen
    have later := read_carriedItems ts proper.2 others fuel shallow.2 seen
    rw [List.mapM_cons, run_bind_ok here, run_bind_ok later]
    rfl

theorem read_carriedEntries : ∀ (es : List (String × Tree String Value)),
    Tree.ProperEntries Value.IsSingle es → ∀ {entries : List (Value × Value)},
    w.CarriesEntries es entries → ∀ fuel, Tree.depthEntries es < fuel → ∀ seen,
      (entries.mapM fun (k, x) => do
        return (← Key.ofValue w k, ← Settings.ofValueWithin w fuel x) : Keyed (Except Fault) _).run seen
        = .ok (Tree.mapKeysEntries Key.text es, seen)
  | [], _, entries, carries, fuel, _, seen => by
    obtain rfl : entries = [] := carries
    rfl
  | (k, t) :: es, proper, entries, carries, fuel, room, seen => by
    obtain ⟨v, rest, rfl, first, others⟩ := carries
    have shallow : t.depth < fuel ∧ Tree.depthEntries es < fuel := Nat.max_lt.mp room
    have here := read_carried t proper.1 first fuel shallow.1 seen
    have later := read_carriedEntries es proper.2 others fuel shallow.2 seen
    have entry : (do return (← Key.ofValue w (.text k), ← Settings.ofValueWithin w fuel v) :
        Keyed (Except Fault) _).run seen = .ok ((Key.text k, t.mapKeys Key.text), seen) := by
      rw [run_bind_ok (ofValue_text w k seen), run_bind_ok here]
      rfl
    rw [List.mapM_cons, run_bind_ok entry, run_bind_ok later]
    rfl

end

/-! ## Depth -/

theorem single_ne_ref {a : Value} (h : a.IsSingle) (i : Nat) : a ≠ .ref i := by
  rintro rfl
  cases h.1

mutual

/-- A value carries one tree only. -/
theorem carried_unique : ∀ (s : Tree String Value), s.Proper Value.IsSingle → ∀ {t : Tree String Value},
    t.Proper Value.IsSingle → ∀ {v : Value}, w.Carries s v → w.Carries t v → s = t
  | .leaf a, single, t, proper, v, hs, ht => by
    obtain rfl : v = a := hs
    cases t with
    | leaf b => exact congrArg Tree.leaf ht
    | list ts =>
      obtain ⟨i, -, same, -⟩ := ht
      exact absurd same (single_ne_ref single i)
    | table es =>
      obtain ⟨i, -, -, same, -⟩ := ht
      exact absurd same (single_ne_ref single i)
  | .list ss, single, t, proper, v, hs, ht => by
    obtain ⟨i, items, rfl, there, inside⟩ := hs
    cases t with
    | leaf b => exact absurd (Eq.symm ht) (single_ne_ref proper i)
    | list ts =>
      obtain ⟨j, items', same, there', inside'⟩ := ht
      cases same
      cases there.symm.trans there'
      exact congrArg Tree.list (carriedItems_unique ss single proper inside inside')
    | table es =>
      obtain ⟨j, b, entries, same, there', -⟩ := ht
      cases same
      cases there.symm.trans there'
  | .table ds, single, t, proper, v, hs, ht => by
    obtain ⟨i, b, entries, rfl, there, inside⟩ := hs
    cases t with
    | leaf b => exact absurd (Eq.symm ht) (single_ne_ref proper i)
    | list ts =>
      obtain ⟨j, items, same, there', -⟩ := ht
      cases same
      cases there.symm.trans there'
    | table es =>
      obtain ⟨j, b', entries', same, there', inside'⟩ := ht
      cases same
      cases there.symm.trans there'
      exact congrArg Tree.table (carriedEntries_unique ds single.2 proper.2 inside inside')

theorem carriedItems_unique : ∀ (ss : List (Tree String Value)), Tree.ProperItems Value.IsSingle ss →
    ∀ {ts : List (Tree String Value)}, Tree.ProperItems Value.IsSingle ts → ∀ {items : List Value},
    w.CarriesItems ss items → w.CarriesItems ts items → ss = ts
  | [], _, ts, _, items, hs, ht => by
    obtain rfl : items = [] := hs
    cases ts with
    | nil => rfl
    | cons t ts =>
      obtain ⟨v, rest, same, -⟩ := ht
      cases same
  | s :: ss, hs, ts, ht, items, carries, carries' => by
    obtain ⟨v, rest, rfl, first, others⟩ := carries
    cases ts with
    | nil => cases carries'
    | cons t ts =>
      obtain ⟨v', rest', same, first', others'⟩ := carries'
      cases same
      rw [carried_unique s hs.1 ht.1 first first', carriedItems_unique ss hs.2 ht.2 others others']

theorem carriedEntries_unique : ∀ (ds : List (String × Tree String Value)),
    Tree.ProperEntries Value.IsSingle ds → ∀ {es : List (String × Tree String Value)},
    Tree.ProperEntries Value.IsSingle es → ∀ {entries : List (Value × Value)},
    w.CarriesEntries ds entries → w.CarriesEntries es entries → ds = es
  | [], _, es, _, entries, hs, ht => by
    obtain rfl : entries = [] := hs
    cases es with
    | nil => rfl
    | cons e es =>
      obtain ⟨v, rest, same, -⟩ := ht
      cases same
  | (k, s) :: ds, hs, es, ht, entries, carries, carries' => by
    obtain ⟨v, rest, rfl, first, others⟩ := carries
    cases es with
    | nil => cases carries'
    | cons e es =>
      obtain ⟨v', rest', same, first', others'⟩ := carries'
      cases same
      rw [carried_unique s hs.1 ht.1 first first', carriedEntries_unique ds hs.2 ht.2 others others']

end

/-- Some cell carries a tree of this depth. -/
def DepthInCell (w : World) (d : Nat) : Prop := ∃ i t, i < w.cells.size ∧ t.Proper Value.IsSingle ∧
  w.Carries t (.ref i) ∧ t.depth = d

mutual

/-- Below a carried tree there are trees of every lesser depth, each in a cell. -/
theorem depths_carried : ∀ (t : Tree String Value), t.Proper Value.IsSingle → ∀ {v : Value},
    w.Carries t v → ∀ d, 0 < d → d ≤ t.depth → DepthInCell w d
  | .leaf a, _, v, _, d, pos, le => absurd le (Nat.not_le_of_lt pos)
  | .list ts, proper, v, carries, d, pos, le => by
    have whole := carries
    obtain ⟨i, items, rfl, there, inside⟩ := carries
    obtain rfl | less := Nat.eq_or_lt_of_le le
    · exact ⟨i, .list ts, lt_size_of_cell? there, proper, whole, rfl⟩
    · exact depths_carriedItems ts proper inside d pos (Nat.lt_succ_iff.mp less)
  | .table es, proper, v, carries, d, pos, le => by
    have whole := carries
    obtain ⟨i, b, entries, rfl, there, inside⟩ := carries
    obtain rfl | less := Nat.eq_or_lt_of_le le
    · exact ⟨i, .table es, lt_size_of_cell? there, proper, whole, rfl⟩
    · exact depths_carriedEntries es proper.2 inside d pos (Nat.lt_succ_iff.mp less)

theorem depths_carriedItems : ∀ (ts : List (Tree String Value)), Tree.ProperItems Value.IsSingle ts →
    ∀ {items : List Value}, w.CarriesItems ts items → ∀ d, 0 < d → d ≤ Tree.depthItems ts →
      DepthInCell w d
  | [], _, items, _, d, pos, le => absurd le (Nat.not_le_of_lt pos)
  | t :: ts, proper, items, carries, d, pos, le => by
    obtain ⟨v, rest, rfl, first, others⟩ := carries
    obtain here | later := le_max_iff.mp le
    · exact depths_carried t proper.1 first d pos here
    · exact depths_carriedItems ts proper.2 others d pos later

theorem depths_carriedEntries : ∀ (es : List (String × Tree String Value)),
    Tree.ProperEntries Value.IsSingle es → ∀ {entries : List (Value × Value)},
    w.CarriesEntries es entries → ∀ d, 0 < d → d ≤ Tree.depthEntries es → DepthInCell w d
  | [], _, entries, _, d, pos, le => absurd le (Nat.not_le_of_lt pos)
  | (k, t) :: es, proper, entries, carries, d, pos, le => by
    obtain ⟨v, rest, rfl, first, others⟩ := carries
    obtain here | later := le_max_iff.mp le
    · exact depths_carried t proper.1 first d pos here
    · exact depths_carriedEntries es proper.2 others d pos later

end

/-- A carried tree is no deeper than there are cells: trees of different depth are in different cells. -/
theorem depth_le_size {t : Tree String Value} (proper : t.Proper Value.IsSingle) {v : Value}
    (carries : w.Carries t v) : t.depth ≤ w.cells.size := by
  have each (d : Fin t.depth) : DepthInCell w (d + 1) :=
    depths_carried t proper carries _ (Nat.succ_pos d) d.isLt
  choose cell tree inside single carried depth using each
  have injective : Function.Injective fun d => (⟨cell d, inside d⟩ : Fin w.cells.size) := by
    intro d e same
    have cells : cell d = cell e := congrArg Fin.val same
    have trees : tree d = tree e :=
      carried_unique _ (single d) (single e) (carried d) (cells ▸ carried e)
    have depths : (d : Nat) + 1 = e + 1 := by rw [← depth d, ← depth e, trees]
    exact Fin.ext (Nat.succ.inj depths)
  simpa using Fintype.card_le_of_injective _ injective

/-- A step on the keys seen, run on a world. -/
theorem outcome_run_bind {α β : Type} {x : Keyed M α} {a : α} {seen seen' : List Value} {w' : World}
    (first : outcome (x.run seen) w = (.ok (a, seen'), w')) (f : α → Keyed M β) :
    outcome ((x >>= f).run seen) w = outcome ((f a).run seen') w' := by
  rw [StateT.run_bind, outcome_bind_ok first]

theorem outcome_ofValue_carried {t : Tree String Value} (proper : t.Proper Value.IsSingle) {v : Value}
    (carries : w.Carries t v) (seen : List Value) :
    outcome ((Settings.ofValue v).run seen) w = (.ok (t.mapKeys Key.text, seen), w) := by
  have room : t.depth < w.nesting v :=
    Nat.lt_of_le_of_lt (depth_le_size proper carries) (w.size_lt_nesting v)
  have read := read_carried t proper carries _ room seen
  change (Settings.ofValueWithin w (w.nesting v) v seen, w) = _
  exact congrArg (·, w) read

theorem outcome_entries_carried {es : List (String × Tree String Value)}
    (proper : Tree.ProperEntries Value.IsSingle es) {entries : List (Value × Value)}
    (carries : w.CarriesEntries es entries) (seen : List Value) :
    outcome ((entries.mapM fun (k, x) => do
      return (← Settings.liftKeyed (Key.ofValue w k), ← Settings.ofValue x) : Keyed M _).run seen) w =
      (.ok (Tree.mapKeysEntries Key.text es, seen), w) := by
  induction es generalizing entries with
  | nil =>
    obtain rfl : entries = [] := carries
    rfl
  | cons e es ih =>
    obtain ⟨k, t⟩ := e
    obtain ⟨v, rest, rfl, first, others⟩ := carries
    have key : outcome ((Settings.liftKeyed (Key.ofValue w (.text k))).run seen) w =
        (.ok (Key.text k, seen), w) := rfl
    have entry : outcome ((do
        return (← Settings.liftKeyed (Key.ofValue w (.text k)), ← Settings.ofValue v) :
        Keyed M _).run seen) w = (.ok ((Key.text k, t.mapKeys Key.text), seen), w) := by
      rw [outcome_run_bind key, outcome_run_bind (outcome_ofValue_carried proper.1 first seen)]
      rfl
    rw [List.mapM_cons, outcome_run_bind entry, outcome_run_bind (ih proper.2 others)]
    rfl

theorem outcome_entriesOfValue_carried {es : Table String (Tree String Value)}
    (proper : Tree.ProperTable Value.IsSingle es) {v : Value} (carries : w.Carries (.table es) v)
    (seen : List Value) : outcome ((Settings.entriesOfValue v).run seen) w =
      (.ok (Settings.generalKeys es, seen), w) := by
  obtain ⟨i, b, entries, rfl, there, inside⟩ := carries
  have items : outcome (Settings.itemsOf (.ref i)) w = (.ok entries, w) := by
    rw [Settings.itemsOf, outcome_get_bind]
    simp [mapping?, baseCell?_of_dict there]
  have listed : outcome ((StateT.lift (Settings.itemsOf (.ref i)) : Keyed M _).run seen) w =
      (.ok (entries, seen), w) := by
    rw [StateT.run_lift, outcome_bind_ok items]
    rfl
  have world : outcome ((getThe World : Keyed M World).run seen) w = (.ok (w, seen), w) := rfl
  rw [Settings.entriesOfValue]
  refine (outcome_run_bind listed _).trans ?_
  refine (outcome_run_bind world _).trans ?_
  exact outcome_entries_carried proper.2 inside seen

end Reading

/-! ## Making -/

section Making

variable {w w' : World}

mutual

/-- What a value carries stays when the world grows. -/
theorem Carries.grows (grown : w.Grows w') : ∀ (t : Tree String Value) {v : Value}, w.Carries t v →
    w'.Carries t v
  | .leaf _, _, carries => carries
  | .list ts, v, carries => by
    obtain ⟨i, items, rfl, there, inside⟩ := carries
    exact ⟨i, items, rfl, grown.cells i _ there, CarriesItems.grows grown ts inside⟩
  | .table es, v, carries => by
    obtain ⟨i, b, entries, rfl, there, inside⟩ := carries
    exact ⟨i, b, entries, rfl, grown.cells i _ there, CarriesEntries.grows grown es inside⟩

theorem CarriesItems.grows (grown : w.Grows w') : ∀ (ts : List (Tree String Value))
    {items : List Value}, w.CarriesItems ts items → w'.CarriesItems ts items
  | [], _, carries => carries
  | t :: ts, items, carries => by
    obtain ⟨v, rest, rfl, first, others⟩ := carries
    exact ⟨v, rest, rfl, Carries.grows grown t first, CarriesItems.grows grown ts others⟩

theorem CarriesEntries.grows (grown : w.Grows w') : ∀ (es : List (String × Tree String Value))
    {entries : List (Value × Value)}, w.CarriesEntries es entries → w'.CarriesEntries es entries
  | [], _, carries => carries
  | (k, t) :: es, entries, carries => by
    obtain ⟨v, rest, rfl, first, others⟩ := carries
    exact ⟨v, rest, rfl, Carries.grows grown t first, CarriesEntries.grows grown es others⟩

end

mutual

/-- A value that is made of settings carries them; the world only grows. -/
theorem toValue_carries : ∀ (t : Tree String Value), t.Proper Value.IsSingle → ∀ w, ∃ v w',
    outcome (Settings.toValue (t.mapKeys Key.text)) w = (.ok v, w') ∧ w.Grows w' ∧ w'.Carries t v
  | .leaf a, single, w => ⟨a, w, by simp [Tree.mapKeys, Settings.toValue, asObject, single.2],
      .refl w, rfl⟩
  | .list ts, proper, w => by
    obtain ⟨items, w₁, made, grown, carries⟩ := toValues_carries ts proper w
    have larger := World.Grows.withCell w₁ (.list items)
    refine ⟨.ref w₁.cells.size, w₁.withCell (.list items), ?_, grown.trans larger,
      ⟨_, items, rfl, cell?_withCell_self w₁ _, CarriesItems.grows larger ts carries⟩⟩
    rw [Tree.mapKeys, Settings.toValue, outcome_bind_ok made]
    rfl
  | .table es, proper, w => by
    obtain ⟨entries, w₁, made, grown, carries⟩ := toEntries_carries es proper.2 w
    have larger := World.Grows.withCell w₁ (.dict false entries)
    refine ⟨.ref w₁.cells.size, w₁.withCell (.dict false entries), ?_, grown.trans larger,
      ⟨_, false, entries, rfl, cell?_withCell_self w₁ _, CarriesEntries.grows larger es carries⟩⟩
    rw [Tree.mapKeys, Settings.toValue, outcome_bind_ok made]
    rfl

theorem toValues_carries : ∀ (ts : List (Tree String Value)), Tree.ProperItems Value.IsSingle ts →
    ∀ w, ∃ items w', outcome (Settings.toValues (Tree.mapKeysList Key.text ts)) w = (.ok items, w') ∧
      w.Grows w' ∧ w'.CarriesItems ts items
  | [], _, w => ⟨[], w, rfl, .refl w, rfl⟩
  | t :: ts, proper, w => by
    obtain ⟨v, w₁, made, grown, carries⟩ := toValue_carries t proper.1 w
    obtain ⟨items, w₂, others, larger, carried⟩ := toValues_carries ts proper.2 w₁
    refine ⟨v :: items, w₂, ?_, grown.trans larger, v, items, rfl, Carries.grows larger t carries, carried⟩
    rw [Tree.mapKeysList, Settings.toValues, outcome_bind_ok made, outcome_bind_ok others]
    rfl

theorem toEntries_carries : ∀ (es : List (String × Tree String Value)),
    Tree.ProperEntries Value.IsSingle es → ∀ w, ∃ entries w',
      outcome (Settings.toEntries (Tree.mapKeysEntries Key.text es)) w = (.ok entries, w') ∧
        w.Grows w' ∧ w'.CarriesEntries es entries
  | [], _, w => ⟨[], w, rfl, .refl w, rfl⟩
  | (k, t) :: es, proper, w => by
    obtain ⟨v, w₁, made, grown, carries⟩ := toValue_carries t proper.1 w
    obtain ⟨entries, w₂, others, larger, carried⟩ := toEntries_carries es proper.2 w₁
    refine ⟨(.text k, v) :: entries, w₂, ?_, grown.trans larger, v, entries, rfl,
      Carries.grows larger t carries, carried⟩
    rw [Tree.mapKeysEntries, Settings.toEntries, outcome_bind_ok made, outcome_bind_ok others]
    rfl

end

theorem generalKeys_ofEntries (es : Table String (Tree String Value)) :
    Table.ofEntries (Settings.generalKeys es) = Settings.generalKeys (Table.ofEntries es) := by
  suffices commutes : ∀ known : Table String (Tree String Value),
      Table.insertAll (Settings.generalKeys known) (Settings.generalKeys es) =
        Settings.generalKeys (Table.insertAll known es) from commutes []
  induction es with
  | nil => exact fun known => rfl
  | cons e es ih =>
    intro known
    have first := Tree.mapKeysEntries_insert key_text_faithful known e.1 e.2
    refine Eq.trans ?_ (ih (Table.insert known e.1 e.2))
    rw [Settings.generalKeys, Settings.generalKeys, Settings.generalKeys, first]
    rfl

/-- Mappings that carry tables are merged as the tables are: the new mapping carries the merged table, and
all that was there is left as it was. -/
theorem mergeValues_carries {base later : Table String (Tree String Value)}
    (hbase : Tree.ProperTable Value.IsSingle base) (hlater : Tree.ProperTable Value.IsSingle later)
    {a b : Value} (ha : w.Carries (.table base) a) (hb : w.Carries (.table later) b) :
    ∃ v w', outcome (Settings.mergeValues a b) w = (.ok v, w') ∧ w.Grows w' ∧
      w'.Carries (.table (Tree.mergeEntries base later)) v := by
  obtain ⟨v, w', made, grown, carries⟩ := toValue_carries (.table (Tree.mergeEntries base later))
    (Tree.proper_mergeEntries base later hbase hlater) w
  refine ⟨v, w', ?_, grown, carries⟩
  rw [Settings.mergeValues, outcome_bind_ok (outcome_entriesOfValue_carried hbase ha []),
    outcome_bind_ok (outcome_entriesOfValue_carried hlater hb []), generalKeys_ofEntries,
    Table.ofEntries_of_nodup base hbase.1, ← made,
    Tree.mapKeys, Tree.mapKeysEntries_mergeEntries key_text_faithful]
  rfl

end Making

end TemplateEngine
