import TemplateEngine.ObjectModel
import TemplateEngine.Proofs.Optionals
/-!
Records before everything else. The object model tries the index, then asks a record for its own
property, and resolves the property without records at last. For a value that is no record the index
is tried once more: where nothing was found, nothing is found or changed the second time. But the
test for records is not guarded: it reads computed attributes, and what they raise comes out.
-/
namespace TemplateEngine

namespace World

variable {w w' : World} {u v : Value}

/-- Worlds in which a value has the same classes and the same attributes. -/
structure Alike (v : Value) (w w' : World) : Prop where
  classes : w'.classes = w.classes
  classOf : w'.classOf v = w.classOf v
  attributes : w'.ownAttributes v = w.ownAttributes v
  elements : ∀ items, w'.baseCell? v = some (.tuple items) ↔ w.baseCell? v = some (.tuple items)

theorem Alike.refl (w : World) (v : Value) : w.Alike v w := ⟨rfl, rfl, rfl, fun _ => Iff.rfl⟩

theorem Alike.mark (alike : Alike v w w') (tags : Nat) : Alike v w (w'.mark tags) :=
  ⟨alike.classes, alike.classOf, alike.attributes, alike.elements⟩

/-- What the cell of a value is, iterators being alike however much is left of them. -/
theorem Drains.cell? (drained : w.Drains u w') (i : Nat) :
    w'.cell? i = w.cell? i ∨ ∃ kind rest, w.cell? i = some (.stream kind rest) ∧
      w'.cell? i = some (.stream kind []) := by
  rcases drained with rfl | ⟨j, kind, rest, -, cell, rfl⟩
  · exact Or.inl rfl
  · by_cases same : i = j
    · subst same
      exact Or.inr ⟨kind, rest, cell, cell?_rewriteCell_self cell _⟩
    · exact Or.inl (cell?_rewriteCell_of_ne same _)

theorem Drains.classes (drained : w.Drains u w') : w'.classes = w.classes := by
  rcases drained with rfl | ⟨j, kind, rest, -, -, rfl⟩ <;> rfl

theorem Drains.alike (drained : w.Drains u w') (v : Value) : w.Alike v w' where
  classes := drained.classes
  classOf := by
    have units : w'.unitClasses = w.unitClasses := by
      rcases drained with rfl | ⟨j, kind, rest, -, -, rfl⟩ <;> rfl
    have cells := drained.cell?
    cases v with
    | ref i =>
      rcases cells i with same | ⟨kind, rest, before, after⟩
      · simp only [World.classOf, same]
      · cases kind <;> simp [World.classOf, before, after]
    | part tag which target =>
      cases target with
      | ref i =>
        rcases cells i with same | ⟨kind, rest, before, after⟩
        · simp only [World.classOf, same]
        · simp [World.classOf, before, after]
      | _ => rfl
    | _ => simp only [World.classOf, drained.classes, units]
  attributes := by
    cases v with
    | ref i =>
      rcases drained.cell? i with same | ⟨kind, rest, before, after⟩
      · simp only [ownAttributes, same]
      · simp [ownAttributes, before, after]
    | _ => rfl
  elements items := by
    obtain ⟨-, same | ⟨kind, rest, rest', before, after⟩⟩ := drained.baseCell?_cases v
    · rw [same]
    · simp [before, after]

end World

/-! ## The test for records -/

/-- A reading that gives a certain answer, or else a new routine bound to a certain value. -/
inductive Certain (x : M (Option Value)) : Prop
  | answer (a : Option Value) (h : ∀ w, outcome x w = (.ok a, w))
  | bound (owner : ClassId) (name : String) (v : Value)
      (h : ∀ w, outcome x w = (.ok (some (.bound w.nextTag owner name v)), w.mark 1))

theorem certain_newBound (owner : ClassId) (name : String) (v : Value) :
    Certain (some <$> newBound owner name v) :=
  .bound owner name v fun _ => rfl

theorem certain_pure (a : Option Value) : Certain (pure a) := .answer a fun _ => rfl

theorem certain_memberOfClass (c owner : ClassId) (name : String) (m : Member) :
    Certain (memberOfClass c owner name m) := by
  unfold memberOfClass
  repeat' split
  all_goals first | exact certain_pure _ | exact certain_newBound _ _ _

theorem certain_memberOfValue (v : Value) (c owner : ClassId) (name : String) (m : Member) :
    Certain (memberOfValue v c owner name m) := by
  unfold memberOfValue
  repeat' split
  all_goals first | exact certain_pure _ | exact certain_newBound _ _ _

/-- Whether a member is worked out when it is read. -/
def Member.isComputed : Member → Bool
  | .computed _ => true
  | .native _ .field => true
  | _ => false

/-- No member of the classes of a value that is worked out goes by a name. -/
def World.Plain (w : World) (v : Value) (name : String) : Prop :=
  ∀ owner m, Classes.findMember? w.classes (w.classOf v) name = some (owner, m) → m.isComputed = false

/-- No field of a built-in class goes by a name that records are asked by. -/
theorem lookup_ne_field (s : Standard) {name : String}
    (asked : name = Record.getter ∨ name = Record.namer) : s.members.lookup name ≠ some .field := by
  rcases asked with rfl | rfl <;> cases s <;> decide

/-- Only a class that is declared can work out what a value gives under these names. -/
theorem World.plain_of_declared {w : World} {v : Value} {name : String}
    (asked : name = Record.getter ∨ name = Record.namer)
    (ordinary : ∀ (i : Nat) info m, .declared i ∈ Classes.order w.classes (w.classOf v) →
      w.classes[i]? = some info → info.members.get? name = some m → m.isComputed = false) :
    w.Plain v name := by
  intro owner m found
  obtain ⟨c, listed, defined⟩ := List.exists_of_findSome?_eq_some found
  obtain ⟨m', own, same⟩ := Option.map_eq_some_iff.mp defined
  obtain ⟨rfl, rfl⟩ := Prod.mk.inj same
  cases c with
  | standard s =>
    obtain ⟨use, used, rfl⟩ := Option.map_eq_some_iff.mp own
    cases use with
    | field => exact absurd used (lookup_ne_field s asked)
    | _ => rfl
  | declared i =>
    obtain ⟨info, declared, member⟩ := Option.bind_eq_some_iff.mp own
    exact ordinary i info m' listed declared member

section
variable {w w' : World} {v : Value} {name : String}

theorem certain_readAttribute_type (d : Dispatch) (c : ClassId) :
    ∃ x, Certain x ∧
      ∀ w', w.Alike (.type c) w' → outcome (readAttribute d (.type c) name) w' = outcome x w' := by
  cases own : Classes.findMember? w.classes c name with
  | some found =>
    refine ⟨_, certain_memberOfClass c found.1 name found.2, fun w' alike => ?_⟩
    simp only [readAttribute, outcome_get_bind, alike.classes, own]
  | none =>
    cases found : Classes.findMember? w.classes (w.classOf (.type c)) name with
    | none =>
      refine ⟨_, certain_pure none, fun w' alike => ?_⟩
      simp only [readAttribute, outcome_get_bind, alike.classes, alike.classOf, own, found]
    | some found' =>
      obtain ⟨owner, m⟩ := found'
      by_cases called : ∃ s, m = .native s .accessor
      · obtain ⟨s, rfl⟩ := called
        refine ⟨_, certain_newBound owner name (.type c), fun w' alike => ?_⟩
        simp only [readAttribute, outcome_get_bind, alike.classes, alike.classOf, own, found]
      · refine ⟨_, certain_pure none, fun w' alike => ?_⟩
        simp only [readAttribute, outcome_get_bind, alike.classes, alike.classOf, own, found]
        split <;> simp_all

/-- A member that is not worked out is read from where the value keeps it, or else bound to it. -/
theorem outcome_readAttribute_found (d : Dispatch) (type : ∀ c, v ≠ .type c) {owner : ClassId}
    {m : Member} (found : Classes.findMember? w.classes (w.classOf v) name = some (owner, m))
    (ordinary : m.isComputed = false) :
    outcome (readAttribute d v name) w = outcome (
      let own := (w.ownAttributes v).get? name
      match m with
      | .slot => pure own
      | .position i =>
        match w.baseCell? v with
        | some (.tuple items) => pure items[i]?
        | _ => pure none
      | m => if own.isSome then pure own else memberOfValue v (w.classOf v) owner name m) w := by
  unfold readAttribute
  rw [outcome_get_bind]
  split
  · exact absurd rfl (type _)
  · simp only [found]
    cases m with
    | native s use => cases use <;> first | rfl | cases ordinary
    | computed action => cases ordinary
    | _ => rfl

theorem certain_of_stored {x : M (Option Value)} {owner : ClassId} {m : Member}
    (run : ∀ w', w.Alike v w' → outcome x w' = outcome
      (if ((w'.ownAttributes v).get? name).isSome then pure ((w'.ownAttributes v).get? name)
        else memberOfValue v (w'.classOf v) owner name m) w') :
    ∃ y, Certain y ∧ ∀ w', w.Alike v w' → outcome x w' = outcome y w' := by
  refine ⟨if ((w.ownAttributes v).get? name).isSome then pure ((w.ownAttributes v).get? name)
    else memberOfValue v (w.classOf v) owner name m, ?_, fun w' alike => ?_⟩
  · split
    · exact certain_pure _
    · exact certain_memberOfValue v _ owner name m
  · rw [run w' alike, alike.attributes, alike.classOf]

/-- What a plain name gives is certain, wherever the value has the same classes and attributes. -/
theorem certain_readAttribute (d : Dispatch) (plain : w.Plain v name) :
    ∃ x, Certain x ∧ ∀ w', w.Alike v w' → outcome (readAttribute d v name) w' = outcome x w' := by
  by_cases type : ∃ c, v = .type c
  · obtain ⟨c, rfl⟩ := type
    exact certain_readAttribute_type d c
  cases found : Classes.findMember? w.classes (w.classOf v) name with
  | none =>
    refine ⟨_, certain_pure ((w.ownAttributes v).get? name), fun w' alike => ?_⟩
    unfold readAttribute
    rw [outcome_get_bind]
    split
    · exact absurd ⟨_, rfl⟩ type
    · simp only [alike.classes, alike.classOf, alike.attributes, found]
  | some found' =>
    obtain ⟨owner, m⟩ := found'
    have ordinary := plain owner m found
    have run : ∀ w', w.Alike v w' → _ := fun w' alike =>
      outcome_readAttribute_found (w := w') d (fun c h => type ⟨c, h⟩)
        (by rw [alike.classes, alike.classOf, found]) ordinary
    cases m with
    | computed action => cases ordinary
    | slot =>
      refine ⟨_, certain_pure ((w.ownAttributes v).get? name), fun w' alike => ?_⟩
      rw [run w' alike, alike.attributes]
    | position i =>
      by_cases tuple : ∃ items, w.baseCell? v = some (.tuple items)
      · obtain ⟨items, cell⟩ := tuple
        refine ⟨_, certain_pure items[i]?, fun w' alike => ?_⟩
        simp only [run w' alike, (alike.elements items).mpr cell]
      · refine ⟨_, certain_pure none, fun w' alike => ?_⟩
        simp only [run w' alike]
        split
        · rename_i items cell
          exact absurd ⟨items, (alike.elements items).mp cell⟩ tuple
        · rfl
    | _ => exact certain_of_stored run

/-! ### Whether a value is a record -/

/-- Reading a plain name twice tells whether it gives something, and makes two objects at most. -/
theorem outcome_readable (plain : w.Plain v name) :
    ∃ found tags, (found = false → tags = 0) ∧
      ∀ w', w.Alike v w' → outcome (Record.readable v name) w' = (.ok found, w'.mark tags) := by
  obtain ⟨x, certain, run⟩ := certain_readAttribute (Dispatch.within 499) plain
  have read : ∀ w', w.Alike v w' → outcome (Dispatch.full.read v name) w' = outcome x w' := run
  cases certain with
  | answer a same =>
    refine ⟨a.any (· != .null), 0, fun _ => rfl, fun w' alike => ?_⟩
    have given : outcome (Dispatch.full.read v name) w' = (.ok a, w') := (read w' alike).trans (same w')
    cases a with
    | none => simp [Record.readable, Dispatch.has, outcome_bind, given, World.mark]
    | some y =>
      cases y <;> simp [Record.readable, Dispatch.has, Dispatch.readFrom, outcome_bind, given, World.mark]
  | bound owner routine receiver same =>
    refine ⟨true, 2, by simp, fun w' alike => ?_⟩
    have first := (read w' alike).trans (same w')
    have second := (read _ (alike.mark 1)).trans (same _)
    have twice : (w'.mark 1).mark 1 = w'.mark 2 := rfl
    simp [Record.readable, Dispatch.has, Dispatch.readFrom, outcome_bind, first, second, twice]

/-- Whether a value is a record that has both names plain depends on its classes and its attributes
only. The test makes no object if there is nothing under the first name. -/
theorem outcome_isRecord (getter : w.Plain v Record.getter) (namer : w.Plain v Record.namer) :
    ∃ found tags, ((outcome (Record.readable v Record.getter) w).1 = .ok false → tags = 0) ∧
      ∀ w', w.Alike v w' → outcome (isRecord v) w' = (.ok found, w'.mark tags) := by
  obtain ⟨hasGetter, first, unmarked, readGetter⟩ := outcome_readable getter
  obtain ⟨hasNamer, second, -, readNamer⟩ := outcome_readable namer
  have run : ∀ w', w.Alike v w' → outcome (isRecord v) w' = outcome (
      if Record.definedOnClass w (w.classOf v) Record.getter &&
          Record.definedOnClass w (w.classOf v) Record.namer then pure true
      else do
        if ← Record.readable v Record.getter then Record.readable v Record.namer
        else pure false) w' := by
    intro w' alike
    have defined : ∀ name, Record.definedOnClass w' (w'.classOf v) name =
        Record.definedOnClass w (w.classOf v) name := fun name => by
      rw [Record.definedOnClass, Record.definedOnClass, alike.classes, alike.classOf]
    simp only [isRecord, outcome_get_bind, defined]
  cases onClass : Record.definedOnClass w (w.classOf v) Record.getter &&
      Record.definedOnClass w (w.classOf v) Record.namer with
  | true =>
    refine ⟨true, 0, fun _ => rfl, fun w' alike => ?_⟩
    rw [run w' alike, if_pos onClass]
    rfl
  | false =>
    have read : ∀ w', w.Alike v w' → outcome (isRecord v) w' = outcome (do
        if ← Record.readable v Record.getter then Record.readable v Record.namer
        else pure false) w' := fun w' alike => by rw [run w' alike, onClass, if_neg Bool.false_ne_true]
    cases hasGetter with
    | false =>
      refine ⟨false, first, fun _ => unmarked rfl, fun w' alike => ?_⟩
      rw [read w' alike, outcome_bind_ok (readGetter w' alike)]
      rfl
    | true =>
      refine ⟨hasNamer, first + second, fun missing => ?_, fun w' alike => ?_⟩
      · rw [readGetter w (.refl w v)] at missing
        cases missing
      · rw [read w' alike, outcome_bind_ok (readGetter w' alike), if_pos rfl,
          readNamer _ (alike.mark first), World.mark_mark]

end

/-! ## Trying the index again -/

section
variable {w w' : World} {p t content u v : Value}

/-- Where a number designates nothing, it designates nothing the second time, and nothing changes
any more. -/
theorem indexTarget_null (hp : IsKey p)
    (missed : outcome (indexTarget t content p) w = (.ok .null, w')) :
    w.Drains content w' ∧ outcome (indexTarget t content p) w' = (.ok .null, w') := by
  cases ordered : w.isMapping t || w.isSet t with
  | true =>
    obtain ⟨r, index⟩ := settled_asIndex hp
    have kind : w.isMapping t = true ∨ w.isSet t = true := by simpa using ordered
    have same : w = w' := by
      rcases r with f | _ | i <;> simp_all [indexTarget, outcome_bind, elementOfTarget]
    subst same
    exact ⟨Or.inl rfl, missed⟩
  | false =>
    rw [outcome_indexTarget hp ordered] at missed
    obtain ⟨drained, again⟩ := outcome_seek_null hp missed
    have still : (w'.isMapping t || w'.isSet t) = false := by
      rw [drained.isMapping_eq, drained.isSet_eq, ordered]
    exact ⟨drained, (outcome_indexTarget hp still).trans again⟩

namespace World

/-- Layers that come to an end are all the layers, whatever room there is for more. -/
theorem layersWithin_of_ends {m n : Nat} (ends : w.content? ((w.layersWithin m v).getLastD v) = none)
    (room : (w.layersWithin m v).length ≤ n) : w.layersWithin n v = w.layersWithin m v := by
  induction m generalizing n v with
  | zero =>
    obtain ⟨n, rfl⟩ : ∃ k, n = k + 1 := ⟨n - 1, by simp [layersWithin] at room; omega⟩
    have bare : w.content? v = none := by simpa [layersWithin] using ends
    simp [layersWithin, bare]
  | succ m ih =>
    cases held : w.content? v with
    | none =>
      obtain ⟨n, rfl⟩ : ∃ k, n = k + 1 := ⟨n - 1, by simp [layersWithin, held] at room; omega⟩
      simp [layersWithin, held]
    | some content =>
      have inner : w.layersWithin (m + 1) v = v :: w.layersWithin m content := by
        simp [layersWithin, held]
      rw [inner, getLastD_cons_layersWithin] at ends
      rw [inner] at room ⊢
      obtain ⟨n, rfl⟩ : ∃ k, n = k + 1 := ⟨n - 1, by simp at room; omega⟩
      simp [layersWithin, held, ih ends (Nat.le_of_succ_le_succ room)]

theorem Drains.layersWithin_eq (drained : w.Drains u w') (fuel : Nat) (v : Value) :
    w'.layersWithin fuel v = w.layersWithin fuel v := by
  have held : ∀ v, w'.content? v = w.content? v := fun v => by
    simp only [World.content?, (drained.baseCell?_cases v).1]
  induction fuel generalizing v with
  | zero => rfl
  | succ fuel ih => simp only [World.layersWithin, held, ih]

/-- An iterator that is drained stays within the same layers, if there is room for them. -/
theorem Drains.layers_eq (drained : w.Drains (w.unwrap v) w')
    (room : (w.layers v).length ≤ w'.nesting v) : w'.layers v = w.layers v := by
  rcases id drained with rfl | ⟨i, kind, rest, inside, cell, -⟩
  · rfl
  · have ends : w.content? (w.unwrap v) = none := by
      rw [inside]
      simp [World.content?, World.base_ref, cell, Cell.base?]
    rw [World.layers, drained.layersWithin_eq]
    exact World.layersWithin_of_ends ends room

end World

/-- Where a number designates nothing, resolving the property afterwards does what resolving it
before did. -/
theorem resolveProperty_again (hp : IsKey p) (ht : t ≠ .null)
    (missed : outcome (resolveIndex t p) w = (.ok .null, w'))
    (room : (w.layers t).length ≤ w'.nesting t) :
    outcome (resolveProperty t p) w' = outcome (resolveProperty t p) w := by
  rw [resolveIndex, outcome_get_bind] at missed
  obtain ⟨drained, again⟩ := indexTarget_null hp missed
  obtain ⟨inner, layers⟩ := w.head_layers t
  have layers' := (drained.layers_eq room).trans layers
  have unwrapped : w'.unwrap t = w.unwrap t := by rw [World.unwrap, World.unwrap, layers, layers']
  simp only [resolveProperty, outcome_get_bind, layers, layers', unwrapped]
  rw [outcome_resolveThrough hp ht, outcome_resolveThrough hp ht, outcome_orElse, outcome_orElse,
    again, missed]

end

/-! ## The object model -/

/-- The text form of a name or number is always the same text, or the same failure. -/
theorem certain_toTemplateText {p : Value} (hp : IsKey p) :
    ∃ r : Except Fault String, ∀ w, outcome (toTemplateText p) w = (r.map .text, w) := by
  have number : ∀ {v : Value} {s : Standard}, IsNumber v s → (∀ b, v ≠ .bool b) →
      ∃ r : Except Fault String, ∀ w, outcome (toTemplateText v) w = (r.map .text, w) := by
    intro v s h plain
    obtain ⟨r, printed⟩ := plainText_const h
    exact ⟨r, fun w => by rw [outcome_toTemplateText_number h plain w, printed]⟩
  cases hp with
  | text s =>
    refine ⟨.ok s, fun w => ?_⟩
    obtain ⟨n, room⟩ := w.nesting_eq_succ (.text s)
    simp [toTemplateText, room, toStringWithin, World.content?, World.base, World.text?, Except.map]
  | bool b =>
    refine ⟨.ok (if b then "true" else "false"), fun w => ?_⟩
    obtain ⟨n, room⟩ := w.nesting_eq_succ (.bool b)
    simp [toTemplateText, room, toStringWithin, World.content?, World.base, Except.map]
  | int n => exact number (.int n) (by simp)
  | float x => exact number (.float x) (by simp)
  | complex re im => exact number (.complex re im) (by simp)
  | decimal d => exact number (.decimal d) (by simp)
  | fraction q => exact number (.fraction q) (by simp)

theorem outcome_templateText?_of_text {p : Value} {r : Except Fault String} {w : World}
    (made : outcome (toTemplateText p) w = (r.map .text, w)) :
    outcome (templateText? p) w = (r.map some, w) := by
  cases r <;> simp [templateText?, outcome_bind, made, Except.map, World.text?, World.base]

namespace ObjectModel

/-- What comes of a property under a name where no index designates anything: a record gives its own
property, and what it does not have is resolved without records, as is all on other values. -/
inductive Asked (t p : Value) (name : String) (w : World) : Except Fault Value × World → Prop
  | plain {w' : World} (test : outcome (isRecord t) w = (.ok false, w')) :
      Asked t p name w (outcome (TemplateEngine.resolveProperty t p) w')
  | own {w' w'' : World} {r : Except Fault Value} (test : outcome (isRecord t) w = (.ok true, w'))
      (given : outcome (recordProperty t (.text name)) w' = (r, w'')) (some : r ≠ .ok .null) :
      Asked t p name w (r, w'')
  | missing {w' w'' : World} (test : outcome (isRecord t) w = (.ok true, w'))
      (given : outcome (recordProperty t (.text name)) w' = (.ok .null, w'')) :
      Asked t p name w (outcome (TemplateEngine.resolveProperty t p) w'')
  | broken {f : Fault} {w' : World} (test : outcome (isRecord t) w = (.error f, w')) :
      Asked t p name w (.error f, w')

variable {w w' : World} {p t : Value}

theorem outcome_getProperty_standard (w : World) :
    outcome (ObjectModel.standard.getProperty t p) w = outcome (inheritedProperty t p) w := by
  rw [getProperty, outcome_bind]
  rcases outcome (inheritedProperty t p) w with ⟨f | found, w'⟩ <;> rfl

/-- What is given is asked for an index first. -/
theorem resolveProperty_eq (given : t ≠ .null) (asked : p ≠ .null) :
    ObjectModel.standard.resolveProperty t p =
      (do orElse (← resolveIndex t p) (ObjectModel.standard.getProperty t p)) := by
  simp [resolveProperty, given, asked]

theorem outcome_resolveProperty (hp : IsKey p) (ht : t ≠ .null) :
    outcome (ObjectModel.standard.resolveProperty t p) w =
      match outcome (resolveIndex t p) w with
      | (.ok .null, w') => outcome (inheritedProperty t p) w'
      | r => r := by
  rw [resolveProperty_eq ht hp.ne_null, outcome_orElse]
  rcases outcome (resolveIndex t p) w with ⟨f | v, w'⟩
  · rfl
  · cases v with
    | null => exact outcome_getProperty_standard w'
    | _ => rfl

theorem outcome_inheritedProperty (hp : IsKey p) (ht : t ≠ .null) {name : String}
    (named : outcome (toTemplateText p) w = (.ok (.text name), w)) :
    outcome (inheritedProperty t p) w = outcome (isRecord t >>= fun record =>
      if record then (do
        orElse (← recordProperty t (.text name)) (TemplateEngine.resolveProperty t p))
      else TemplateEngine.resolveProperty t p) w := by
  simp only [inheritedProperty, ht, hp.ne_null, decide_false, Bool.or_false, if_neg Bool.false_ne_true]
  rw [outcome_bind_ok named]
  rfl

/-- A record is asked first. -/
theorem asked_inheritedProperty (hp : IsKey p) (ht : t ≠ .null) {name : String}
    (named : outcome (toTemplateText p) w = (.ok (.text name), w)) :
    Asked t p name w (outcome (inheritedProperty t p) w) := by
  rw [outcome_inheritedProperty hp ht named]
  rcases test : outcome (isRecord t) w with ⟨f | record, w'⟩
  · rw [outcome_bind_error test]
    exact .broken test
  · rw [outcome_bind_ok test]
    cases record with
    | false => exact .plain test
    | true =>
      rw [if_pos rfl, outcome_orElse]
      rcases given : outcome (recordProperty t (.text name)) w' with ⟨r, w''⟩
      split
      · rename_i same
        obtain ⟨rfl, rfl⟩ := Prod.mk.inj same
        exact .missing test given
      · rename_i some
        exact .own test given fun missing => some w'' (by rw [missing])

theorem resolveProperty_null (w : World) :
    outcome (ObjectModel.standard.resolveProperty .null p) w = (.ok .null, w) ∧
      outcome (TemplateEngine.resolveProperty .null p) w = (.ok .null, w) := by
  obtain ⟨inner, layers⟩ := w.head_layers .null
  constructor
  · simp [resolveProperty]
  · simp [TemplateEngine.resolveProperty, layers, resolveThrough]

/-- What the index designates decides, with and without records. -/
theorem index_decides (hp : IsKey p) (ht : t ≠ .null) {r : Except Fault Value}
    (index : outcome (resolveIndex t p) w = (r, w')) (found : r ≠ .ok .null) :
    outcome (ObjectModel.standard.resolveProperty t p) w = (r, w') ∧
      outcome (TemplateEngine.resolveProperty t p) w = (r, w') := by
  have decided : ∀ next : World → Except Fault Value × World,
      (match ((r, w') : Except Fault Value × World) with
        | (.ok .null, w'') => next w''
        | r => r) = (r, w') := by
    intro next
    split
    · rename_i same
      exact absurd (Prod.mk.inj same).1 found
    · rfl
  constructor
  · rw [outcome_resolveProperty hp ht, index]
    exact decided _
  · obtain ⟨inner, layers⟩ := w.head_layers t
    rw [resolveIndex, outcome_get_bind] at index
    rw [TemplateEngine.resolveProperty, outcome_get_bind, layers, outcome_resolveThrough hp ht,
      outcome_orElse, index]
    exact decided _

/-- A text that cannot be made is what fails, with and without records. -/
theorem text_fails (hp : IsKey p) (ht : t ≠ .null) {f : Fault}
    (missed : outcome (resolveIndex t p) w = (.ok .null, w'))
    (text : outcome (toTemplateText p) w' = (.error f, w')) :
    outcome (ObjectModel.standard.resolveProperty t p) w = (.error f, w') ∧
      outcome (TemplateEngine.resolveProperty t p) w = (.error f, w') := by
  constructor
  · rw [outcome_resolveProperty hp ht, missed]
    simp [inheritedProperty, ht, hp.ne_null, outcome_bind_error text]
  · obtain ⟨inner, layers⟩ := w.head_layers t
    have named : outcome (templateText? p) w' = (.error f, w') :=
      outcome_templateText?_of_text (r := .error f) text
    rw [resolveIndex, outcome_get_bind] at missed
    rw [TemplateEngine.resolveProperty, outcome_get_bind, layers, outcome_resolveThrough hp ht,
      outcome_orElse, missed]
    simp [outcome_withName, named]

/-- The test for records says what it said before the index was tried. -/
theorem isRecord_again (hp : IsKey p) (getter : w.Plain t Record.getter)
    (namer : w.Plain t Record.namer) (missed : outcome (resolveIndex t p) w = (.ok .null, w')) :
    ∃ record tags, ((outcome (Record.readable t Record.getter) w).1 = .ok false → tags = 0) ∧
      outcome (isRecord t) w = (.ok record, w.mark tags) ∧
      outcome (isRecord t) w' = (.ok record, w'.mark tags) := by
  obtain ⟨record, tags, unmarked, run⟩ := outcome_isRecord getter namer
  rw [resolveIndex, outcome_get_bind] at missed
  obtain ⟨drained, -⟩ := indexTarget_null hp missed
  exact ⟨record, tags, unmarked, run w (.refl w t), run w' (drained.alike t)⟩

/-- A value that is no record, and has nothing under the name that a record is asked by, is resolved
as it is without records: with the same result, and leaving the same world. -/
theorem resolveProperty_other (hp : IsKey p)
    (room : ∀ w', outcome (resolveIndex t p) w = (.ok .null, w') →
      (w.layers t).length ≤ w'.nesting t)
    (getter : w.Plain t Record.getter) (namer : w.Plain t Record.namer)
    (other : (outcome (isRecord t) w).1 = .ok false)
    (missing : (outcome (Record.readable t Record.getter) w).1 = .ok false) :
    outcome (ObjectModel.standard.resolveProperty t p) w =
      outcome (TemplateEngine.resolveProperty t p) w := by
  by_cases ht : t = .null
  · subst ht
    rw [(resolveProperty_null w).1, (resolveProperty_null w).2]
  rcases index : outcome (resolveIndex t p) w with ⟨r, w'⟩
  by_cases found : r = .ok .null
  · subst found
    obtain ⟨text, made⟩ := certain_toTemplateText hp
    cases text with
    | error f =>
      obtain ⟨extended, plain⟩ := text_fails hp ht index (made w')
      rw [extended, plain]
    | ok name =>
      obtain ⟨record, tags, unmarked, before, after⟩ := isRecord_again hp getter namer index
      obtain rfl : record = false := by simpa [before] using other
      obtain rfl := unmarked missing
      rw [outcome_resolveProperty hp ht, index]
      calc outcome (inheritedProperty t p) w'
          = outcome (TemplateEngine.resolveProperty t p) w' := by
            rw [outcome_inheritedProperty hp ht (made w'), outcome_bind_ok after]
            rfl
        _ = outcome (TemplateEngine.resolveProperty t p) w :=
            resolveProperty_again hp ht index (room w' index)
  · obtain ⟨extended, plain⟩ := index_decides hp ht index found
    rw [extended, plain]

/-- The object model extends resolution without records. Where the index decides, or the text of the
property fails, both do the same. Elsewhere the index has been tried in vain, which changes nothing
for resolution without records, and then a record is asked for its own property. The test for that
says of a value with plain names what it said before, and at most gives tags to new objects; a value
that is no record, and has nothing under the name that a record is asked by, is resolved as it is
without records. But the test itself may fail where a name is not plain, and then so does the object
model.

The layers of the target must come to an end within the bound on its nesting. -/
theorem resolveProperty_extends (hp : IsKey p)
    (room : ∀ w', outcome (resolveIndex t p) w = (.ok .null, w') →
      (w.layers t).length ≤ w'.nesting t) :
    (∀ r w', t ≠ .null → outcome (resolveIndex t p) w = (r, w') → r ≠ .ok .null →
      outcome (ObjectModel.standard.resolveProperty t p) w = (r, w') ∧
        outcome (TemplateEngine.resolveProperty t p) w = (r, w')) ∧
    (∀ w', t ≠ .null → outcome (resolveIndex t p) w = (.ok .null, w') →
      outcome (TemplateEngine.resolveProperty t p) w' =
        outcome (TemplateEngine.resolveProperty t p) w ∧
      (∀ f, outcome (toTemplateText p) w' = (.error f, w') →
        outcome (ObjectModel.standard.resolveProperty t p) w = (.error f, w') ∧
          outcome (TemplateEngine.resolveProperty t p) w = (.error f, w')) ∧
      (∀ name, outcome (toTemplateText p) w' = (.ok (.text name), w') →
        Asked t p name w' (outcome (ObjectModel.standard.resolveProperty t p) w)) ∧
      (w.Plain t Record.getter → w.Plain t Record.namer → ∃ record tags,
        outcome (isRecord t) w = (.ok record, w.mark tags) ∧
          outcome (isRecord t) w' = (.ok record, w'.mark tags))) ∧
    (w.Plain t Record.getter → w.Plain t Record.namer → (outcome (isRecord t) w).1 = .ok false →
      (outcome (Record.readable t Record.getter) w).1 = .ok false →
      outcome (ObjectModel.standard.resolveProperty t p) w =
        outcome (TemplateEngine.resolveProperty t p) w) := by
  refine ⟨fun r w' ht index found => index_decides hp ht index found, fun w' ht missed => ?_,
    fun getter namer other missing => resolveProperty_other hp room getter namer other missing⟩
  refine ⟨resolveProperty_again hp ht missed (room w' missed),
    fun f text => text_fails hp ht missed text, fun name text => ?_, fun getter namer => ?_⟩
  · rw [outcome_resolveProperty hp ht, missed]
    exact asked_inheritedProperty hp ht text
  · obtain ⟨record, tags, -, before, after⟩ := isRecord_again hp getter namer missed
    exact ⟨record, tags, before, after⟩

/-- A world with an iterator, and with a value whose class works out what a record is asked by, and
fails. -/
def probed : World where
  cells := #[.tuple [], .stream .list [.int 1, .int 2], .object 0 [(Record.namer, .int 1)] none]
  classes := #[{
    name := "Odd"
    kind := .plain
    bases := [.standard .object]
    order := [.declared 0, .standard .object]
    members := [(Record.getter, .computed (.fail "ValueError" "broken"))]
    annotations := []
    names := []
    fields := none
    closed := false }]

/-- The index drains the iterator in vain, and trying it again does nothing more. -/
theorem resolveProperty_extends_iterator :
    outcome (resolveIndex (.ref 1) (.int 5)) probed =
        (.ok .null, probed.rewriteCell 1 (.stream .list [])) ∧
      outcome (TemplateEngine.resolveProperty (.ref 1) (.int 5))
          (probed.rewriteCell 1 (.stream .list [])) =
        outcome (TemplateEngine.resolveProperty (.ref 1) (.int 5)) probed ∧
      outcome (ObjectModel.standard.resolveProperty (.ref 1) (.int 5)) probed =
        outcome (TemplateEngine.resolveProperty (.ref 1) (.int 5)) probed := by
  have index : outcome (resolveIndex (.ref 1) (.int 5)) probed =
      (.ok .null, probed.rewriteCell 1 (.stream .list [])) := rfl
  have plain : ∀ {name}, name = Record.getter ∨ name = Record.namer → probed.Plain (.ref 1) name :=
    fun asked => World.plain_of_declared asked fun i info m listed => by
      have builtin : Classes.order probed.classes (probed.classOf (.ref 1)) =
        [.standard .listIterator, .standard .object] := rfl
      simp [builtin] at listed
  obtain ⟨-, missed, same⟩ := resolveProperty_extends (w := probed) (t := .ref 1) (.int 5)
    (fun w' missed => by rw [index] at missed; obtain ⟨-, rfl⟩ := Prod.mk.inj missed; decide)
  exact ⟨index, (missed _ (by simp) index).1, same (plain (.inl rfl)) (plain (.inr rfl)) rfl rfl⟩

/-- The test for records raises what the class of the value raises; without records nothing does. -/
example : (outcome (ObjectModel.standard.resolveProperty (.ref 2) (.text "q")) probed).1 =
      .error (.raised "ValueError" "broken") ∧
    (outcome (TemplateEngine.resolveProperty (.ref 2) (.text "q")) probed).1 = .ok .null :=
  ⟨rfl, rfl⟩

end ObjectModel

end TemplateEngine
