import TemplateEngine.Proofs.Dictionary
/-!
Each operation on a scope value does what it does to the dictionary that the scope shows, and gives
what the dictionary replies. A failing one leaves the dictionary as it was, but for what an update
wrote before it failed.
-/
namespace TemplateEngine

/-- Which keys are texts does not depend on what a scope holds. -/
theorem Dictionary.writeAll_withScope {w : World} {b : Nat} {s s' : Scope Value Value}
    (h : w.cell? b = some (.bindings s)) (entries : List (Value × Value)) :
    ∀ d, writeAll (w.withScope b s') d entries = writeAll w d entries := by
  induction entries with
  | nil => exact fun d => rfl
  | cons entry rest ih =>
    intro d
    simp only [writeAll, withName, World.text?_withScope h, ih]

namespace Bindings

/-- A cell holds a scope that shows a dictionary. -/
def Holds (w : World) (b : Nat) (d : Dictionary Value Value) : Prop :=
  ∃ s, w.cell? b = some (.bindings s) ∧ s.Shows d

/-- A computation does to a cell what a dictionary did, and gives what it replied. -/
def Does (x : M Answer) (w : World) (b : Nat) (r : Reply × Dictionary Value Value) : Prop :=
  r.1.Matches (outcome x w).2 (outcome x w).1 ∧ Holds (outcome x w).2 b r.2

variable {w : World} {b : Nat} {s : Scope Value Value} {d : Dictionary Value Value}

theorem holds_withScope (h : w.cell? b = some (.bindings s)) {s' : Scope Value Value}
    (hs : s'.Shows d) : Holds (w.withScope b s') b d :=
  ⟨s', World.cell?_withScope_self h s', hs⟩

/-- An operation on a name, one case for what is a text and one for what is none. -/
theorem does_withName {x : M Answer} {key : Value}
    {next : String → Reply × Dictionary Value Value} (hd : Holds w b d)
    (hnamed : ∀ text, w.text? key = some text → Does x w b (next (Text.foldCase text)))
    (hrefused : w.text? key = none →
      outcome x w = (.error (.nameNotText (w.typeName key)), w)) :
    Does x w b (Dictionary.withName w d key next) := by
  unfold Dictionary.withName
  split
  · rename_i text ht
    exact hnamed text ht
  · rename_i ht
    rw [Does, hrefused ht]
    exact ⟨rfl, hd⟩

/-- What an operation does is read off its outcome. -/
theorem Does.of_outcome {x y : M Answer} {w' : World} {r : Reply × Dictionary Value Value}
    (h : Does y w' b r) (hxy : outcome x w = outcome y w') : Does x w b r := by
  rw [Does, hxy]
  exact h

theorem does_answer {x : M Answer} {a : Answer} {w' : World} (h : outcome x w = (.ok a, w'))
    (hd : Holds w' b d) : Does x w b (.answer a, d) := by
  rw [Does, h]
  exact ⟨rfl, hd⟩

theorem does_missing {x : M Answer} {key : Value} {text : String} (hd : Holds w b d)
    (ht : w.text? key = some text)
    (hx : ∀ shown, w.display key = .ok shown →
      outcome x w = (.error (.missingKey shown), w)) : Does x w b (.missing key, d) := by
  obtain ⟨shown, hshown⟩ := World.display_of_text ht
  rw [Does, hx shown hshown]
  exact ⟨⟨shown, hshown, rfl⟩, hd⟩

section Named

variable (h : w.cell? b = some (.bindings s)) (hs : s.Shows d)
include h hs

theorem does_read (key : Value) :
    Does ((Operation.read key).perform (.ref b)) w b (Dictionary.perform w d (.read key)) := by
  have hd : Holds w b d := ⟨s, h, hs⟩
  refine does_withName hd (fun text ht => ?_) fun ht => ?_
  · have hget := hs.get?_eq text
    cases hentry : Table.get? d (Text.foldCase text) with
    | some e =>
      refine does_answer ?_ hd
      simp [Operation.perform, read, outcome_bind, outcome_lookUp? h ht, hget, hentry]
    | none =>
      refine does_missing hd ht fun shown hshown => ?_
      simp [Operation.perform, read, outcome_bind, outcome_lookUp? h ht, hget, hentry,
        outcome_missing hshown]
  · simp [Operation.perform, read, outcome_bind, outcome_lookUp?_refused h ht]

theorem does_contains (key : Value) :
    Does ((Operation.contains key).perform (.ref b)) w b
      (Dictionary.perform w d (.contains key)) := by
  have hd : Holds w b d := ⟨s, h, hs⟩
  refine does_withName hd (fun text ht => ?_) fun ht => ?_
  · have hget := hs.get?_eq text
    refine does_answer ?_ hd
    simp [Operation.perform, outcome_lookUp? h ht, hget, Table.contains]
  · simp [Operation.perform, outcome_lookUp?_refused h ht]

theorem does_spelling (key : Value) :
    Does ((Operation.spelling key).perform (.ref b)) w b
      (Dictionary.perform w d (.spelling key)) := by
  have hd : Holds w b d := ⟨s, h, hs⟩
  refine does_withName hd (fun text ht => ?_) fun ht => ?_
  · have hspelling := hs.spelling?_eq text
    refine does_answer ?_ hd
    simp [Operation.perform, spelling, outcome_bind, outcome_scopeOf h, outcome_nameOf ht,
      hspelling]
  · simp [Operation.perform, spelling, outcome_bind, outcome_scopeOf h, outcome_nameOf_refused ht]

theorem does_write (key v : Value) :
    Does ((Operation.write key v).perform (.ref b)) w b
      (Dictionary.perform w d (.write key v)) := by
  refine does_withName ⟨s, h, hs⟩ (fun text ht => ?_) fun ht => ?_
  · have hwritten : Holds (w.withScope b (s.insert ⟨text, key⟩ v)) b
        (Table.insert d (Text.foldCase text) (key, v)) :=
      holds_withScope h (hs.insert ⟨text, key⟩ v)
    refine does_answer ?_ hwritten
    simp [Operation.perform, outcome_write h ht]
  · simp [Operation.perform, outcome_write_refused ht]

theorem does_erase (key : Value) :
    Does ((Operation.erase key).perform (.ref b)) w b (Dictionary.perform w d (.erase key)) := by
  refine does_withName ⟨s, h, hs⟩ (fun text ht => ?_) fun ht => ?_
  · have hget := hs.get?_eq text
    cases hentry : Table.get? d (Text.foldCase text) with
    | some e =>
      rw [hentry] at hget
      have herased : Holds (w.withScope b (s.erase text)) b (Table.erase d (Text.foldCase text)) :=
        holds_withScope h (hs.erase text)
      refine does_answer ?_ herased
      simp [Operation.perform, outcome_erase h ht hget]
    | none =>
      refine does_missing ⟨s, h, hs⟩ ht fun shown hshown => ?_
      simp [Operation.perform, erase, outcome_bind, outcome_lookUp? h ht, hget, hentry,
        outcome_missing hshown]
  · simp [Operation.perform, erase, outcome_bind, outcome_lookUp?_refused h ht]

theorem does_take (key : Value) (fallback : Option Value) :
    Does ((Operation.take key fallback).perform (.ref b)) w b
      (Dictionary.perform w d (.take key fallback)) := by
  have hd : Holds w b d := ⟨s, h, hs⟩
  refine does_withName hd (fun text ht => ?_) fun ht => ?_
  · have hget := hs.get?_eq text
    cases hentry : Table.get? d (Text.foldCase text) with
    | some e =>
      rw [hentry] at hget
      have herased : Holds (w.withScope b (s.erase text)) b (Table.erase d (Text.foldCase text)) :=
        holds_withScope h (hs.erase text)
      refine does_answer ?_ herased
      simp [Operation.perform, take, outcome_bind, outcome_lookUp? h ht, hget,
        outcome_erase h ht hget]
    | none =>
      cases fallback with
      | some v =>
        refine does_answer ?_ hd
        simp [Operation.perform, take, outcome_bind, outcome_lookUp? h ht, hget, hentry]
      | none =>
        refine does_missing hd ht fun shown hshown => ?_
        simp [Operation.perform, take, outcome_bind, outcome_lookUp? h ht, hget, hentry,
          outcome_missing hshown]
  · simp [Operation.perform, take, outcome_bind, outcome_lookUp?_refused h ht]

theorem does_readOrWrite (key v : Value) :
    Does ((Operation.readOrWrite key v).perform (.ref b)) w b
      (Dictionary.perform w d (.readOrWrite key v)) := by
  have hd : Holds w b d := ⟨s, h, hs⟩
  refine does_withName hd (fun text ht => ?_) fun ht => ?_
  · have hget := hs.get?_eq text
    cases hentry : Table.get? d (Text.foldCase text) with
    | some e =>
      refine does_answer ?_ hd
      simp [Operation.perform, readOrWrite, outcome_bind, outcome_lookUp? h ht, hget, hentry]
    | none =>
      have hwritten : Holds (w.withScope b (s.insert ⟨text, key⟩ v)) b
          (Table.insert d (Text.foldCase text) (key, v)) :=
        holds_withScope h (hs.insert ⟨text, key⟩ v)
      refine does_answer ?_ hwritten
      simp [Operation.perform, readOrWrite, outcome_bind, outcome_lookUp? h ht, hget, hentry,
        outcome_write h ht]
  · simp [Operation.perform, readOrWrite, outcome_bind, outcome_lookUp?_refused h ht]

end Named

section Whole

variable (h : w.cell? b = some (.bindings s)) (hs : s.Shows d)
include h hs

theorem does_size :
    Does (Operation.size.perform (.ref b)) w b (Dictionary.perform w d .size) := by
  refine does_answer ?_ ⟨s, h, hs⟩
  simp [Operation.perform, outcome_scopeOf h, hs.size_eq]

theorem does_items :
    Does (Operation.items.perform (.ref b)) w b (Dictionary.perform w d .items) := by
  refine does_answer ?_ ⟨s, h, hs⟩
  simp [Operation.perform, World.mapping?, World.baseCell?_ref_of_bindings h, hs.entries_eq,
    Function.comp_def]

/-- The first entry is given as a new pair. -/
theorem does_popFirst :
    Does (Operation.popFirst.perform (.ref b)) w b (Dictionary.perform w d .popFirst) := by
  cases d with
  | nil =>
    have hpop := hs.popFirst?_nil
    have hout : outcome (Operation.popFirst.perform (.ref b)) w = (.error .emptyTable, w) := by
      simp [Operation.perform, popFirst, outcome_bind, outcome_scopeOf h, hpop]
    rw [Does, hout]
    exact ⟨rfl, s, h, hs⟩
  | cons entry rest =>
    obtain ⟨name, given, v⟩ := entry
    obtain ⟨s', hpop, hs'⟩ := hs.popFirst?_cons
    have hcell := World.cell?_withScope_self h s'
    have hout : outcome (Operation.popFirst.perform (.ref b)) w =
        (.ok (.value (.ref (w.withScope b s').cells.size)),
          (w.withScope b s').withCell (.tuple [.text name, v])) := by
      simp [Operation.perform, popFirst, outcome_bind, outcome_scopeOf h, hpop,
        outcome_setScope h, newTuple, World.withCell]
    rw [Does, hout]
    refine ⟨⟨_, rfl, ?_⟩, s', ?_, hs'⟩
    · exact World.cell?_withCell_self _ _
    · exact World.cell?_withCell_of_cell? hcell _

end Whole

theorem does_clear (h : w.cell? b = some (.bindings s)) :
    Does (Operation.clear.perform (.ref b)) w b (Dictionary.perform w d .clear) := by
  refine does_answer ?_ (holds_withScope h Scope.shows_empty)
  simp [Operation.perform, outcome_setScope h]

/-- The entries of a source are written in order, up to the first key that is no text. -/
theorem does_writeAll (entries : List (Value × Value)) :
    ∀ {w : World} {d : Dictionary Value Value}, Holds w b d →
      Does (do writeAll (.ref b) entries; return .done) w b (Dictionary.writeAll w d entries) := by
  induction entries with
  | nil => exact fun hd => does_answer rfl hd
  | cons entry rest ih =>
    obtain ⟨key, v⟩ := entry
    intro w d ⟨s, h, hs⟩
    refine does_withName ⟨s, h, hs⟩ (fun text ht => ?_) fun ht => ?_
    · have hrest := ih (holds_withScope h (hs.insert ⟨text, key⟩ v))
      rw [Dictionary.writeAll_withScope h] at hrest
      refine hrest.of_outcome ?_
      simp [writeAll, outcome_bind, outcome_write h ht]
    · simp [writeAll, outcome_bind, outcome_write_refused ht]

/-- A list has no attribute that tells keys. -/
theorem outcome_has_keys {i : Nat} {items : List Value} (h : w.cell? i = some (.list items)) :
    outcome (Dispatch.full.has (.ref i) "keys") w = (.ok false, w) := by
  have hclass : w.classOf (.ref i) = .standard .list := by simp [World.classOf, h]
  have hfound : Classes.findMember? w.classes (.standard .list) "keys" = none := by
    have horder : Classes.order w.classes (.standard .list) =
        [.standard .list, .standard .object] := rfl
    have hlist : Classes.ownMember? w.classes (.standard .list) "keys" = none := by
      simp only [Classes.ownMember?]
      decide
    have hobject : Classes.ownMember? w.classes (.standard .object) "keys" = none := by
      simp only [Classes.ownMember?]
      decide
    simp [Classes.findMember?, horder, hlist, hobject]
  have hread : outcome (Dispatch.full.read (.ref i) "keys") w = (.ok none, w) := by
    change outcome (readAttribute (Dispatch.within 499) (.ref i) "keys") w = _
    simp [readAttribute, hclass, hfound, World.ownAttributes, h, Table.get?]
  simp [Dispatch.has, outcome_bind, hread]

theorem outcome_asPair {v : Value} {pair : Value × Value} (h : w.pair? v = some pair) :
    outcome (asPair v) w = (.ok pair, w) := by
  unfold World.pair? at h
  split at h
  · rename_i j
    split at h
    · rename_i key x hcell
      split at h
      · simp at h
      · rename_i hbare
        obtain ⟨hkey, hx⟩ : key.isBare = false ∧ x.isBare = false := by simpa using hbare
        have hsource : outcome (Source.ofValue (.ref j)) w =
            (.ok (.fixed (.list [key, x])), w) := by
          simp [Source.ofValue, World.base, World.baseCell?, hcell, World.sequence?]
        obtain rfl : (key, x) = pair := by simpa using h
        simp [asPair, outcome_bind, hsource, Source.visit, Source.at?, Elements.get?, asObject,
          hkey, hx]
    · simp at h
  · simp at h
theorem pair?_withScope (h : w.cell? b = some (.bindings s)) (s' : Scope Value Value) (v : Value) :
    World.pair? (w.withScope b s') v = w.pair? v := by
  unfold World.pair?
  split
  · rename_i j
    by_cases hj : j = b
    · subst hj
      simp [h, World.cell?_withScope_self h]
    · simp [World.cell?_withScope_of_ne hj]
  · rfl

/-- The pairs of a list are written as entries are. -/
theorem outcome_writePairs {i : Nat} {items : List Value} (pairs : List (Value × Value)) :
    ∀ {w : World} {s : Scope Value Value} (turn : Nat), w.cell? b = some (.bindings s) →
      w.cell? i = some (.list items) → (items.drop turn).map w.pair? = pairs.map some →
      outcome (do
          let _ ← Source.visit id (fun _ pair => do
            let (key, v) ← asPair pair
            write (.ref b) key v) (.live i) pairs.length turn
          return Answer.done) w = outcome (do writeAll (.ref b) pairs; return Answer.done) w := by
  induction pairs with
  | nil => exact fun _ _ _ _ => rfl
  | cons pair rest ih =>
    obtain ⟨key, v⟩ := pair
    intro w s turn h hlist hpairs
    obtain ⟨x, tail, hdrop⟩ : ∃ x tail, items.drop turn = x :: tail := by
      cases hdrop : items.drop turn with
      | nil => simp [hdrop] at hpairs
      | cons x tail => exact ⟨x, tail, rfl⟩
    obtain ⟨hx, htail⟩ : w.pair? x = some (key, v) ∧ tail.map w.pair? = rest.map some := by
      simpa [hdrop] using hpairs
    have hnext : items.drop (turn + 1) = tail := by
      rw [← List.drop_drop, hdrop, List.drop_one, List.tail_cons]
    have hitem : items[turn]? = some x := by
      have := congrArg (·[0]?) hdrop
      simpa using this
    have hat : outcome (Source.at? (.live i) turn) w = (.ok (some x), w) := by
      simp [Source.at?, hlist, hitem]
    have hne : i ≠ b := fun hib => by simp [hib, h] at hlist
    cases ht : w.text? key with
    | some text =>
      have hlist' : (w.withScope b (s.insert ⟨text, key⟩ v)).cell? i = some (.list items) := by
        rw [World.cell?_withScope_of_ne hne, hlist]
      have hpairs' : (items.drop (turn + 1)).map
          (w.withScope b (s.insert ⟨text, key⟩ v)).pair? = rest.map some := by
        rw [hnext, ← htail]
        exact List.map_congr_left fun y _ => pair?_withScope h _ y
      have hrest := ih (turn + 1) (World.cell?_withScope_self h _) hlist' hpairs'
      simp only [List.length_cons, Source.visit, id, outcome_bind, hat, outcome_asPair hx,
        outcome_write h ht, writeAll] at hrest ⊢
      rw [← hrest]
      generalize outcome (Source.visit id _ (Source.live i) rest.length (turn + 1)) _ = r
      rcases r with ⟨_ | _, _⟩ <;> rfl
    | none =>
      simp [Source.visit, outcome_bind, hat, outcome_asPair hx, outcome_write_refused ht, writeAll]

theorem map_pair?_of_pairs? {items : List Value} :
    ∀ {pairs : List (Value × Value)}, w.pairs? items = some pairs →
      items.map w.pair? = pairs.map some := by
  induction items with
  | nil => simp [World.pairs?]
  | cons x rest ih =>
    intro pairs h
    cases hx : w.pair? x with
    | none => simp [World.pairs?, hx] at h
    | some pair =>
      cases hrest : w.pairs? rest with
      | none => simp [World.pairs?, hx, hrest] at h
      | some tail =>
        obtain rfl : pair :: tail = pairs := by simpa [World.pairs?, hx, hrest] using h
        simp [hx, ih hrest]

/-- An update from a mapping or from pairs writes the entries. -/
theorem outcome_update (h : w.cell? b = some (.bindings s)) {source : Value}
    {entries : List (Value × Value)} (hentries : w.updates? source = some entries) :
    outcome ((Operation.update source).perform (.ref b)) w =
      outcome (do writeAll (.ref b) entries; return Answer.done) w := by
  cases hm : w.mapping? source with
  | some mapped =>
    obtain rfl : mapped = entries := by simpa [World.updates?, hm] using hentries
    simp [Operation.perform, update, outcome_bind, hm]
  | none =>
    simp only [World.updates?, hm] at hentries
    split at hentries
    · rename_i i
      split at hentries
      · rename_i items hlist
        have hpairs : items.map w.pair? = entries.map some := map_pair?_of_pairs? hentries
        rw [← outcome_writePairs entries 0 h hlist (by simpa using hpairs)]
        have hsource : outcome (Source.ofValue (.ref i)) w = (.ok (.live i), w) := by
          simp [Source.ofValue, World.base, World.baseCell?, hlist]
        have hlength : items.length = entries.length := by
          simpa using congrArg List.length hpairs
        simp [Operation.perform, update, outcome_bind, hm, outcome_has_keys hlist, forEach,
          forEachNumbered, hsource, Source.count, hlist, hlength]
      · simp at hentries
    · simp at hentries

/-- Every operation on a scope does what the dictionary does that the scope shows. -/
theorem does_perform (hd : Holds w b d) (op : Operation) (hop : op.Reads w) :
    Does (op.perform (.ref b)) w b (Dictionary.perform w d op) := by
  obtain ⟨s, h, hs⟩ := hd
  cases op with
  | read key => exact does_read h hs key
  | contains key => exact does_contains h hs key
  | size => exact does_size h hs
  | items => exact does_items h hs
  | spelling key => exact does_spelling h hs key
  | write key v => exact does_write h hs key v
  | erase key => exact does_erase h hs key
  | take key fallback => exact does_take h hs key fallback
  | popFirst => exact does_popFirst h hs
  | readOrWrite key v => exact does_readOrWrite h hs key v
  | update source =>
    obtain ⟨entries, hentries⟩ := Option.isSome_iff_exists.mp hop
    rw [Dictionary.perform, hentries]
    exact (does_writeAll entries ⟨s, h, hs⟩).of_outcome (outcome_update h hentries)
  | clear => exact does_clear h

end Bindings

end TemplateEngine
