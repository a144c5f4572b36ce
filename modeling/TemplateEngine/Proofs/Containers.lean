import TemplateEngine.Proofs.Optionals
import TemplateEngine.Proofs.Exposure
import TemplateEngine.Proofs.Tables
/-!
Resolution on containers: lists, deques, arrays, mappings and scopes. What they have at an index, under
a key and as a field is read off their cells; only an accessor may change these.
-/
namespace TemplateEngine

/-- The cell of a container, with the class that it is of. -/
inductive IsContainer : Cell → Standard → Prop
  | list (items : List Value) : IsContainer (.list items) .list
  | deque (items : List Value) : IsContainer (.deque items) .deque
  | array (code : Char) (items : List Value) : IsContainer (.array code items) .array
  | dict (entries : List (Value × Value)) : IsContainer (.dict false entries) .dict
  | fluentMap (entries : List (Value × Value)) : IsContainer (.dict true entries) .fluentMap
  | bindings (scope : Scope Value Value) : IsContainer (.bindings scope) .bindings

namespace Cell

/-- The elements of a container that has an order. -/
def elements? : Cell → Option (List Value)
  | .list items | .deque items | .array _ items => some items
  | _ => none

/-- The entries of a container that has keys. -/
def isKeyed : Cell → Bool
  | .dict .. | .bindings _ => true
  | _ => false

/-- What a container has as a field. -/
def field : Cell → String → Value
  | .array _ items, "length" => .int items.length
  | .array code _, "typecode" => .text (String.ofList [code])
  | _, _ => .null

end Cell

namespace Standard

/-- The classes of containers. -/
def containers : List Standard := [list, deque, array, dict, fluentMap, bindings]

/-- The accessors of a class, those that it inherits among them. -/
def accessors (s : Standard) : List String :=
  ((s :: s.ancestors).flatMap members).filterMap fun (name, use) =>
    if use = .accessor then some name else Option.none

/-- The accessors that change a container. -/
def mutators : Standard → List String
  | list => ["clear", "pop", "reverse", "sort"]
  | array => ["pop"]
  | dict | fluentMap => ["popitem"]
  | bindings => ["clear", "popitem"]
  | _ => []

/-- The other accessors of containers give a copy, a view or the text. -/
theorem accessors_of_container {s : Standard} (hs : s ∈ containers) {name : String}
    (hname : name ∈ s.accessors) :
    name ∈ s.mutators ∨ name = "__str__" ∨ s = list ∧ name = "copy" ∨
      s = bindings ∧ name ∈ ["items", "keys", "values", "update"] := by
  revert name
  revert s
  decide

/-- Neither optionals nor units are among the ancestors of containers. -/
theorem ancestor_of_container {s : Standard} (hs : s ∈ containers) {t : Standard}
    (ht : t ∈ s :: s.ancestors) : t ≠ optional ∧ t ≠ renderUnit ∧ t ≠ type := by
  revert t
  revert s
  decide

theorem field_of_container {s : Standard} (hs : s ∈ containers) {t : Standard}
    (ht : t ∈ s :: s.ancestors) {name : String} (hname : (name, .field) ∈ t.members) :
    s = array ∧ t = array ∧ name = "typecode" ∨ s = deque ∧ t = deque ∧ name = "maxlen" := by
  have : ∀ s ∈ containers, ∀ t ∈ s :: s.ancestors, ∀ e ∈ t.members, e.2 = .field →
      s = array ∧ t = array ∧ e.1 = "typecode" ∨ s = deque ∧ t = deque ∧ e.1 = "maxlen" := by
    decide
  exact this s hs t ht _ hname rfl

end Standard

/-- What a container has under a key. A key that it refuses is not among its keys. -/
def World.entry (w : World) (c : Cell) (key : Value) : Except Fault Value :=
  match c with
  | .dict _ entries =>
    match (do w.hash key; entryFor (w.agreeFrom w.bulk) key entries) with
    | .ok found => .ok (found.getD .null)
    | .error f => if f.kindName = "TypeError" then .ok .null else .error f
  | .bindings scope => .ok (((w.text? key).bind scope.get?).getD .null)
  | _ => .ok .null

variable {w : World} {i : Nat} {c : Cell} {s : Standard}

theorem ref_of_container (hc : w.cell? i = some c) (hs : IsContainer c s) :
    w.base (.ref i) = .ref i ∧ w.classOf (.ref i) = .standard s ∧
      w.ownAttributes (.ref i) = [] := by
  cases hs <;> simp [World.base, World.classOf, World.ownAttributes, hc]

theorem content?_of_container (hc : w.cell? i = some c) (hs : IsContainer c s) :
    w.content? (.ref i) = none := by
  simp [World.content?, (ref_of_container hc hs).1]

/-- A built-in class has the members of itself and its ancestors. -/
theorem findMember?_standard {cs : Classes} {n : String} {owner : ClassId} {m : Member}
    (h : Classes.findMember? cs (.standard s) n = some (owner, m)) :
    ∃ t ∈ s :: s.ancestors, ∃ use, owner = .standard t ∧ m = .native t use ∧
      t.members.lookup n = some use := by
  obtain ⟨k, hk, hfound⟩ := List.exists_of_findSome?_eq_some h
  obtain ⟨t, ht, rfl⟩ : ∃ t ∈ s :: s.ancestors, ClassId.standard t = k := by
    simpa [Classes.order, eq_comm] using hk
  obtain ⟨m', hm', heq⟩ := Option.map_eq_some_iff.mp hfound
  obtain ⟨use, huse, rfl⟩ := Option.map_eq_some_iff.mp hm'
  obtain ⟨rfl, rfl⟩ := Prod.mk.inj heq
  exact ⟨t, ht, use, rfl, rfl, huse⟩

/-- What is called on an instance of a built-in class is one of its accessors. -/
theorem accessor_of_standard {cs : Classes} {name n : String}
    {owner : ClassId} (h : findAccessor? cs (.standard s) name = some (n, owner)) :
    n ∈ s.accessors ∧ ∃ t ∈ s :: s.ancestors,
      Classes.findMember? cs (.standard s) n = some (.standard t, .native t .accessor) := by
  obtain ⟨spelling, hfound⟩ : ∃ spelling, accessorAt? cs (.standard s) spelling = some (n, owner) := by
    unfold findAccessor? at h
    split at h
    · simp at h
    · obtain ⟨spelling, -, hat⟩ :=
        List.exists_of_findSome?_eq_some (Option.filter_eq_some_iff.mp h).1
      exact ⟨spelling, hat⟩
  obtain ⟨rfl, -⟩ := spelling_of_accessorAt? hfound
  unfold accessorAt? at hfound
  split at hfound
  · simp at hfound
  · split at hfound
    · rename_i hmember
      obtain ⟨t, ht, use, rfl, rfl, hlookup⟩ := findMember?_standard hmember
      split at hfound
      · rename_i hroutine
        obtain rfl : use = .accessor := by
          cases use <;> simp_all [Member.isRoutine, Member.needsNothing]
        refine ⟨List.mem_filterMap.mpr ⟨(n, .accessor), ?_, rfl⟩, t, ht, hmember⟩
        exact List.mem_flatMap.mpr ⟨t, ht, Table.mem_of_lookup hlookup⟩
      · simp at hfound
    · simp at hfound

theorem containers_of_class (hs : IsContainer c s) : s ∈ Standard.containers := by
  cases hs <;> decide

section

variable (hc : w.cell? i = some c) (hs : IsContainer c s)

include hc hs

theorem ownerClass_of_container : w.ownerClass (.ref i) = .standard s := by
  simp [World.ownerClass, World.enumClass?, (ref_of_container hc hs).2.1]

theorem outcome_getAttribute_container {t : Standard} {use : NativeUse} {name : String}
    (hfound : Classes.findMember? w.classes (.standard s) name =
      some (.standard t, .native t use)) :
    outcome (getAttribute (.ref i) name) w =
      if use = .field then outcome (readField t name (.ref i)) w
      else outcome (memberOfValue (.ref i) (.standard s) (.standard t) name (.native t use)) w := by
  obtain ⟨-, hclass, hown⟩ := ref_of_container hc hs
  change outcome (readAttribute (Dispatch.within 499) (.ref i) name) w = _
  simp only [readAttribute, outcome_get_bind, hclass, hfound, hown]
  cases use <;> rfl

omit hc in
theorem publicOwner?_of_container (name : String) :
    Classes.publicOwner? w.classes (.standard s) name = some (.standard s) := by
  have hpublic : ∀ s ∈ Standard.containers,
      (Classes.nameParts s.qualifiedName).any Classes.isPrivateName = false := by decide
  exact Classes.publicOwner?_of_public
    (by simp [Classes.isPublic, Classes.qualifiedName, hpublic s (containers_of_class hs)])

theorem outcome_getField_container (name : String) :
    outcome (getField (.ref i) name) w = (.ok (c.field name), w) := by
  obtain ⟨hbase, hclass, hown⟩ := ref_of_container hc hs
  have howner := ownerClass_of_container hc hs
  have hpublic := publicOwner?_of_container (w := w) hs name
  by_cases hfield : w.hasField (.ref i) name = true
  · obtain ⟨owner, m, hfound, hm⟩ : ∃ owner m,
        Classes.findMember? w.classes (.standard s) name = some (owner, m) ∧
          m.isRoutine = false := by
      simp only [World.hasField, hown, howner, Table.contains, Table.get?] at hfield
      split at hfield
      · exact ⟨_, _, ‹_›, by simpa using hfield⟩
      · simp at hfield
    obtain ⟨t, ht, use, rfl, rfl, hlookup⟩ := findMember?_standard hfound
    obtain rfl : use = .field := by cases use <;> simp_all [Member.isRoutine]
    have hattribute := outcome_getAttribute_container hc hs hfound
    rcases Standard.field_of_container (containers_of_class hs) ht (Table.mem_of_lookup hlookup)
      with ⟨rfl, rfl, rfl⟩ | ⟨rfl, rfl, rfl⟩
    · cases hs with
      | array code items =>
        have hread : outcome (readField .array "typecode" (.ref i)) w =
            (.ok (some (.text (String.ofList [code]))), w) := by
          simp [readField, hbase, hc]
        simp [getField, hfield, howner, hpublic, readForTemplate, hattribute, hread, outcome_bind,
          isPrivate, Classes.isPrivateName, Cell.field]
    · cases hs with
      | deque items =>
        have hread : outcome (readField .deque "maxlen" (.ref i)) w = (.ok (some .null), w) := by
          simp [readField, hbase, hc]
        simp [getField, hfield, howner, hpublic, readForTemplate, hattribute, hread, outcome_bind,
          isPrivate, Classes.isPrivateName, Cell.field]
  · by_cases hlength : (w.isArray (.ref i) && name == "length") = true
    · obtain ⟨harray, rfl⟩ : w.isArray (.ref i) = true ∧ name = "length" := by simpa using hlength
      obtain ⟨code, items, rfl⟩ : ∃ code items, c = .array code items := by
        cases hs <;> simp_all [World.isArray, World.baseCell?]
      simp [getField, harray, World.sequence?, hbase, hc, Cell.field, Elements.length]
    · have hnull : c.field name = .null := by
        unfold Cell.field
        split
        · simp [World.isArray, World.baseCell?, hbase, hc] at hlength
        · cases hs
          exact absurd (by rw [World.hasField, hown, howner]; rfl) hfield
        · rfl
      simp only [getField, outcome_get_bind, hlength, hfield, hnull]
      split
      · rfl
      · simp only [Bool.false_eq_true, if_false, Bool.not_false, if_true]
        split <;> rfl

theorem isKeyed_of_container :
    w.isMapping (.ref i) = c.isKeyed ∧ w.isSet (.ref i) = false ∧
      (c.isKeyed = false → ∃ items, c.elements? = some items) := by
  obtain ⟨hbase, -, -⟩ := ref_of_container hc hs
  cases hs <;> simp [World.isMapping, World.mapping?, World.isSet, World.baseCell?, Cell.isKeyed,
    Cell.elements?, hbase, hc]

theorem sequence?_of_container : w.sequence? (.ref i) = c.elements?.map .list := by
  obtain ⟨hbase, -, -⟩ := ref_of_container hc hs
  cases hs <;> simp [World.sequence?, Cell.elements?, hbase, hc]

/-- What has an order is its own sequence, a copy of it, or seen through a view. -/
theorem outcome_collect_container {items : List Value} (hitems : c.elements? = some items) :
    ∃ made, outcome (collect (.ref i)) w = (.ok made, w) ∧ (made = .viewed ∨ made = .copied) := by
  obtain ⟨hbase, -, -⟩ := ref_of_container hc hs
  have hsequence := sequence?_of_container hc hs
  cases c with
  | list | deque =>
    exact ⟨.viewed, by simp [collect, World.isTuple, World.isArray, World.isText, World.text?,
      World.bytes?, World.isSequence, World.baseCell?, hbase, hc, hsequence, Cell.elements?], Or.inl rfl⟩
  | array =>
    exact ⟨.copied, by simp [collect, World.isTuple, World.isArray, World.baseCell?, hbase, hc],
      Or.inr rfl⟩
  | _ => simp [Cell.elements?] at hitems

theorem outcome_elementWithin_container {items : List Value} (hitems : c.elements? = some items)
    (index : Int) :
    outcome (elementWithin (.ref i) index) w =
      if index < 0 then (.ok .null, w)
      else if maxLength ≤ items.length then (.error .lengthTooLarge, w)
      else outcome (asObject (items[index.toNat]?.getD .null)) w := by
  obtain ⟨hbase, -, -⟩ := ref_of_container hc hs
  have hsequence : w.sequence? (.ref i) = some (.list items) := by
    rw [sequence?_of_container hc hs, hitems]
    rfl
  have hsize : w.size? (.ref i) = some items.length := by
    simp [World.size?, hsequence, Elements.length]
  by_cases hneg : index < 0
  · simp [elementWithin, hneg]
  by_cases hlong : maxLength ≤ items.length
  · simp [elementWithin, hneg, hlong, lengthOf, hsize, outcome_bind, Nat.not_lt.mpr hlong]
  have hlength : outcome (lengthOf (.ref i)) w = (.ok items.length, w) := by
    simp [lengthOf, hsize, Nat.lt_of_not_le hlong]
  by_cases hrange : index < items.length
  · have hitem : items[index.toNat]? = some items[index.toNat] := by
      rw [List.getElem?_eq_getElem]
    have hsmall : ¬ (index < -(maxLength : Int) ∨ (maxLength : Int) ≤ index) := by
      unfold maxLength at *
      omega
    simp [elementWithin, hneg, hlong, hrange, outcome_bind, hlength, itemOf, World.behindViews,
      hsequence, elementOf, World.integer?, World.base, Elements.refuses, hsmall, Elements.get?,
      hitem]
  · have hitem : items[index.toNat]? = none := List.getElem?_eq_none (by omega)
    simp [elementWithin, hneg, hlong, hrange, outcome_bind, hlength, hitem, asObject, Value.isBare]

/-- The element at an index of a container, if it is ordered. -/
theorem outcome_elementOfTarget_container (index : Int) :
    outcome (elementOfTarget (.ref i) (.ref i) index) w =
      match c.elements? with
      | none => (.ok .null, w)
      | some items =>
        if index < 0 then (.ok .null, w)
        else if maxLength ≤ items.length then (.error .lengthTooLarge, w)
        else outcome (asObject (items[index.toNat]?.getD .null)) w := by
  obtain ⟨hkeyed, hset, hordered⟩ := isKeyed_of_container hc hs
  cases hk : c.isKeyed with
  | true =>
    have hnone : c.elements? = none := by cases c <;> simp_all [Cell.isKeyed, Cell.elements?]
    simp [elementOfTarget, hkeyed, hk, hnone]
  | false =>
    obtain ⟨items, hitems⟩ := hordered hk
    obtain ⟨made, hmade, hcases⟩ := outcome_collect_container hc hs hitems
    have hwithin := outcome_elementWithin_container hc hs hitems index
    rw [hitems]
    rcases hcases with rfl | rfl <;>
      simp [elementOfTarget, elementOfContent, World.enumClass?, outcome_bind, hkeyed, hk, hset,
        hmade, hwithin]

/-- What is found under a key before fields and accessors are asked. -/
theorem outcome_entry_container (key : Value) :
    outcome (if w.isMapping (.ref i) then getEntry (.ref i) key else pure .null) w =
      (w.entry c key, w) := by
  obtain ⟨hbase, -, -⟩ := ref_of_container hc hs
  obtain ⟨hkeyed, -, -⟩ := isKeyed_of_container hc hs
  rw [hkeyed]
  cases c with
  | dict fluent entries =>
    have hlook : outcome (lookUpEntry entries key) w =
        ((do w.hash key; entryFor (w.agreeFrom w.bulk) key entries), w) := rfl
    have hcell : w.baseCell? (.ref i) = some (.dict fluent entries) := by
      simp only [World.baseCell?, hbase, hc]
    have hentries : (w.mapping? (.ref i)).getD [] = entries := by
      simp only [World.mapping?, hcell, Option.getD_some]
    simp only [Cell.isKeyed, if_true, getEntry, outcome_get_bind, hcell, hentries, World.entry]
    rw [outcome_bind, outcome_attempt, hlook]
    generalize (do w.hash key; entryFor (w.agreeFrom w.bulk) key entries) = r
    cases r with
    | ok found => rfl
    | error f =>
      dsimp only
      split <;> rfl
  | bindings scope =>
    simp only [Cell.isKeyed, if_true, getEntry, outcome_get_bind, World.baseCell?, hbase, hc, World.entry]
    cases w.text? key <;> rfl
  | _ => rfl

theorem outcome_resolveName_container (key : Value) (name : String) :
    outcome (resolveName (.ref i) key name) w =
      match w.entry c key with
      | .error f => (.error f, w)
      | .ok .null =>
        match c.field name with
        | .null => outcome (invokeAccessor (.ref i) name) w
        | x => (.ok x, w)
      | .ok x => (.ok x, w) := by
  have henum : outcome (getEnumValue (.ref i) name) w = (.ok .null, w) := rfl
  have hfield := outcome_getField_container hc hs name
  rw [outcome_resolveName, outcome_orElse, outcome_entry_container hc hs]
  split
  · rename_i w' h
    obtain ⟨hnull, rfl⟩ := Prod.mk.inj h
    rw [hnull, outcome_bind_ok henum, orElse, if_pos rfl, outcome_orElse, hfield]
    split <;> simp_all
  · split <;> simp_all

theorem outcome_invokeAccessor_container (name : String) :
    outcome (invokeAccessor (.ref i) name) w =
      match findAccessor? w.classes (.standard s) name with
      | none => (.ok .null, w)
      | some (n, _) => outcome (callNamed (.ref i) n) w := by
  have howner := ownerClass_of_container hc hs
  simp only [invokeAccessor, outcome_get_bind, howner, publicOwner?_of_container hs, Option.isNone_some]
  split
  · rename_i hnone
    have hname : name.isEmpty = true := by simpa using hnone
    simp [findAccessor?, hname]
  · split <;> simp_all

/-- An accessor is read off a container, which uses up a tag, and called. -/
theorem outcome_callNamed_container {t : Standard} (ht : t ∈ s :: s.ancestors) {n : String}
    (hfound : Classes.findMember? w.classes (.standard s) n =
      some (.standard t, .native t .accessor)) :
    outcome (callNamed (.ref i) n) w =
      match outcome (callAccessor t n (.ref i) []) { w with nextTag := w.nextTag + 1 } with
      | (.ok v, w') => (.ok v, w')
      | (.error f, w') => outcome (do
          report .warning
            ("Cannot access method '" ++ n ++ "' on object " ++ (← displayed (.ref i)))
            (some f.kindName)
          return .null) w' := by
  obtain ⟨hoptional, hunit, -⟩ := Standard.ancestor_of_container (containers_of_class hs) ht
  have hread : outcome (readForTemplate (.ref i) n) w =
      (.ok (some (.bound w.nextTag (.standard t) n (.ref i))),
        { w with nextTag := w.nextTag + 1 }) := by
    rw [readForTemplate, outcome_bind, outcome_attempt,
      outcome_getAttribute_container hc hs hfound]
    simp [memberOfValue, Standard.isOnClass, hoptional, newBound]
  have hnative : nativeRoutine? t n = none := by
    unfold nativeRoutine?
    split <;> simp_all
  have hcall : ∀ w' : World, outcome (call (.bound w.nextTag (.standard t) n (.ref i)) []) w' =
      outcome (callAccessor t n (.ref i) []) w' := by
    intro w'
    obtain ⟨t', ht', use, h₁, h₂, hlookup⟩ := findMember?_standard hfound
    obtain ⟨rfl, rfl⟩ : t = t' ∧ NativeUse.accessor = use := by simp_all
    have hmember : Classes.ownMember? w'.classes (.standard t) n = some (.native t .accessor) := by
      simp [Classes.ownMember?, hlookup]
    change outcome (callMember (Dispatch.within 499) (.standard t) n [.ref i]) w' = _
    simp [callMember, hmember, callNative, hnative]
  rw [callNamed, outcome_bind_ok hread]
  dsimp only
  rw [outcome_bind, outcome_attempt, hcall]
  dsimp only
  generalize outcome (callAccessor t n (.ref i) []) _ = r
  obtain ⟨_ | _, w'⟩ := r <;> rfl

/-- What an accessor of a container does, the one that gives its text apart. -/
theorem outcome_callAccessor_container {t : Standard} (ht : t ∈ s :: s.ancestors) {n : String}
    (hn : n ≠ "__str__") :
    outcome (callAccessor t n (.ref i) []) w = outcome (match c with
      | .list items => callListAccessor n i items
      | .dict fluent entries => callDictRoutine n (.ref i) i fluent entries []
      | .array code items => do
        asObject (← splitLast "empty array" items fun kept => setCell i (.array code kept))
      | .bindings scope => callBindingsAccessor n (.ref i) i scope
      | _ => fail (.notCallable (w.typeInMessages (.ref i)))) w := by
  obtain ⟨hbase, -, -⟩ := ref_of_container hc hs
  obtain ⟨hoptional, hunit, htype⟩ := Standard.ancestor_of_container (containers_of_class hs) ht
  simp only [callAccessor, outcome_get_bind, hn, if_false]
  split
  case h_6 => cases hs <;> simp_all
  all_goals simp_all

/-- A property of a container is tried as an index, and then by name. -/
theorem outcome_resolveProperty_container {p : Value} (hp : p ≠ .null) :
    outcome (resolveProperty (.ref i) p) w =
      outcome (do orElse (← indexTarget (.ref i) (.ref i) p) (withName p fun name =>
        resolveName (.ref i) p name)) w := by
  have hcontent := content?_of_container hc hs
  simp [resolveProperty, resolveThrough, World.layers_of_content _ _ hcontent,
    World.unwrap_of_content _ _ hcontent, hp]

/-- Where there is no index, the name decides. -/
theorem outcome_resolveProperty_by_name {p : Value} (hp : p ≠ .null)
    (hindex : outcome (indexTarget (.ref i) (.ref i) p) w = (.ok .null, w)) :
    outcome (resolveProperty (.ref i) p) w =
      outcome (withName p fun name => resolveName (.ref i) p name) w := by
  rw [outcome_resolveProperty_container hc hs hp, outcome_orElse, hindex]

end

end TemplateEngine
