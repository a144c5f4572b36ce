import TemplateEngine.Proofs.Failures
import TemplateEngine.Proofs.TextTrees
import TemplateEngine.Proofs.WrappedRecords
import Mathlib.Logic.Relation
/-!
Properties without a name. Where the text form of a property has no characters, and no number
designates an element, a value that is no record gives nothing, through any layers of optionals. The
object model does not look at the name before it asks a record: what a record answers for it is the
result, such as a unit that is registered without a name.
-/
namespace TemplateEngine

/-- What resolving a property may ask first: its text form, an index, whether the target is a
record, and the record. -/
inductive Asks (t p : Value) (w : World) : World → Prop
  | text {name : Value} {w' : World} (made : outcome (toTemplateText p) w = (.ok name, w')) :
    Asks t p w w'
  | index {x : Value} {w' : World} (got : outcome (resolveIndex t p) w = (.ok x, w')) :
    Asks t p w w'
  | test {found : Bool} {w' : World} (tested : outcome (isRecord t) w = (.ok found, w')) :
    Asks t p w w'
  | record {name x : Value} {w' : World}
    (answered : outcome (recordProperty t name) w = (.ok x, w')) : Asks t p w w'

/-- In a world, and in all that resolving the property leads to. -/
def Throughout (t p : Value) (w : World) (P : World → Prop) : Prop :=
  ∀ w', Relation.ReflTransGen (Asks t p) w w' → P w'

namespace World

/-- The text form of a value is empty, or it has none. -/
def Mute (w : World) (p : Value) : Prop :=
  ∃ name w', outcome (toTemplateText p) w = (.ok name, w') ∧ (w'.text? name).getD "" = ""

/-- A value designates no index. -/
def Unindexed (w : World) (p : Value) : Prop := outcome (asIndex p) w = (.ok none, w)

end World

/-- Nothing, after the text form of a property was made. -/
def unnamed (p : Value) : M Value := do
  let _ ← toTemplateText p
  return .null

/-- What a record answers for a name; other values answer nothing. -/
def recordAnswer (t name : Value) : M Value := do
  if ← isRecord t then recordProperty t name else return .null

section
variable {t p name x : Value} {w w' : World} {P : World → Prop}

theorem Throughout.here (all : Throughout t p w P) : P w := all w .refl

theorem Throughout.after (all : Throughout t p w P) (asks : Asks t p w w') : Throughout t p w' P :=
  fun _ later => all _ (.head asks later)

theorem Throughout.answer (all : Throughout t p w P)
    (answered : outcome (recordAnswer t name) w = (.ok x, w')) : Throughout t p w' P := by
  obtain ⟨found, w₁, tested, answered⟩ := bind_ok_iff.mp answered
  have tested' := all.after (.test tested)
  cases found with
  | false =>
    obtain ⟨-, rfl⟩ := by simpa using answered
    exact tested'
  | true => exact tested'.after (.record answered)

theorem outcome_bind_same {α β : Type} {x : M α} {f g : α → M β}
    (same : ∀ a w', outcome x w = (.ok a, w') → outcome (f a) w' = outcome (g a) w') :
    outcome (x >>= f) w = outcome (x >>= g) w := by
  rw [outcome_bind, outcome_bind]
  rcases done : outcome x w with ⟨f | a, w'⟩
  · rfl
  · exact same a w' done

theorem outcome_orElse_same {x next next' : M Value}
    (same : ∀ w', outcome x w = (.ok .null, w') → outcome next w' = outcome next' w') :
    outcome (do orElse (← x) next) w = outcome (do orElse (← x) next') w :=
  outcome_bind_same fun a w' done => by
    by_cases null : a = .null
    · simpa [orElse, null] using same w' (null ▸ done)
    · simp [orElse, null]

/-- Where nothing comes after it, the result is what was found. -/
theorem fst_outcome_orElse {x next : M Value}
    (nothing : ∀ w', outcome x w = (.ok .null, w') → (outcome next w').1 = .ok .null) :
    (outcome (do orElse (← x) next) w).1 = (outcome x w).1 := by
  rw [outcome_orElse]
  split
  · rename_i w' missed
    rw [nothing w' missed, missed]
  · rfl

/-! ## Resolution without records -/

theorem World.Mute.fst_unnamed (mute : w.Mute p) : (outcome (unnamed p) w).1 = .ok .null := by
  obtain ⟨name, w', made, -⟩ := mute
  rw [unnamed, outcome_bind_ok made]
  rfl

theorem outcome_withName_mute (mute : w.Mute p) (next : String → M Value) :
    outcome (withName p next) w = outcome (unnamed p) w := by
  obtain ⟨name, w', made, silent⟩ := mute
  have form : outcome (templateText? p) w = (.ok (w'.text? name), w') := by
    rw [templateText?, outcome_bind_ok made]
    rfl
  rw [outcome_withName, form, unnamed, outcome_bind_ok made]
  cases text : w'.text? name with
  | none => rfl
  | some s =>
    obtain rfl : s = "" := by simpa [text] using silent
    rfl

/-- Only the outermost layer is asked for an index, and an empty name ends the resolution there. -/
theorem outcome_resolveProperty_mute (given : t ≠ .null) (asked : p ≠ .null)
    (mute : Throughout t p w fun w => w.Mute p) :
    outcome (resolveProperty t p) w = outcome (do orElse (← resolveIndex t p) (unnamed p)) w := by
  obtain ⟨inner, layers⟩ := w.head_layers t
  have through : outcome (resolveProperty t p) w =
      outcome (do orElse (← resolveIndex t p) (withName p fun name =>
        if inner.isEmpty then resolveName t p name
        else resolveThrough p (w.unwrap t) inner)) w := by
    simp only [resolveProperty, resolveIndex, outcome_get_bind, layers, bind_assoc]
    simp [resolveThrough, given, asked]
  rw [through]
  exact outcome_orElse_same fun w' missed =>
    outcome_withName_mute (mute.after (.index missed)).here _

theorem outcome_resolveIndex_unindexed (unindexed : w.Unindexed p) :
    outcome (resolveIndex t p) w = (.ok .null, w) := by
  rw [resolveIndex, outcome_get_bind, indexTarget, outcome_bind_ok unindexed]
  rfl

/-! ## Empty text forms -/

/-- Nothing, empty texts and bytes, sequences without elements, and optionals around such values. -/
inductive World.Wordless (w : World) : Value → Prop
  | null : Wordless w .null
  | text {v : Value} (read : w.text? v = some "") (plain : v.isMember = false) : Wordless w v
  | bytes {v : Value} (read : w.bytes? v = some []) (plain : v.isMember = false) : Wordless w v
  | parts {v : Value} {e : Elements} (made : w.parts? v = some e) (single : w.content? v = none)
    (none : e.length = 0) : Wordless w v
  | optional {v : Value} (tag : Nat) (inside : Wordless w v) : Wordless w (.optional tag v)

/-- A text is its own text form, and that of bytes is what they decode to. -/
theorem outcome_toTemplateText_plain (plain : p.isMember = false) (texted : w.isText p = true) :
    outcome (toTemplateText p) w = (.ok (match w.text? p with
      | some _ => p
      | none => replaceFlaws ((w.bytes? p).getD [])), w) := by
  obtain ⟨n, room⟩ := w.nesting_eq_succ p
  have single : w.content? p = none := by
    unfold World.content?
    split
    · rename_i based
      simp [World.isText, World.text?, World.bytes?, based] at texted
    · rfl
  rw [toTemplateText, outcome_get_bind, room, toStringWithin, outcome_get_bind, single]
  split
  case h_1 => simp [World.isText, World.text?, World.bytes?, World.base] at texted
  case h_7 =>
    rename_i u _ _ _ _ _ _ _
    cases text : w.text? u with
    | some s => rfl
    | none =>
      cases packed : w.bytes? u with
      | some b => rfl
      | none => simp [World.isText, text, packed] at texted
  all_goals simp_all [Value.isMember, World.isText, World.text?, World.bytes?, World.base]

theorem mute_of_parts (blank : w.cell? 0 = some (.tuple [])) {e : Elements}
    (made : w.parts? p = some e) (single : w.content? p = none) (none : e.length = 0) :
    w.Mute p := by
  have short : ∀ code items, w.baseCell? p = some (.array code items) →
      items.length < maxLength := by
    intro code items array
    obtain ⟨tag, target, rfl, -⟩ | ⟨start, stop, step, rfl, -⟩ |
      ⟨i, j, parts, rfl, based, held, rfl⟩ := World.shape_of_parts made single
    · cases array
    · cases array
    · rw [World.baseCell?, based] at array
      obtain rfl : parts = items := by
        rcases held with held | held | held | ⟨_, held⟩ <;> simp_all
      rw [show parts.length = 0 from none]
      decide
  obtain ⟨n, room⟩ := w.nesting_eq_succ p
  obtain ⟨c, w₁, e₁, collected, -, listed, length, -⟩ := makes_of_parts blank made single short
  have nowhere : ∀ i, e₁.get? i = Option.none := by
    intro i
    have bare := length.trans none
    cases e₁ with
    | list items => simp [List.length_eq_zero_iff.mp bare, Elements.get?]
    | range start stop step =>
      rw [Elements.length] at bare
      simp [Elements.get?, bare]
  obtain ⟨w₂, -, joined⟩ := outcome_joinEach (fun _ => "") (toStringWithin n) "," listed
    fun i x part => by simp [nowhere] at part
  refine ⟨.text "", w₂, ?_, rfl⟩
  rw [toTemplateText, outcome_get_bind, room, outcome_toStringWithin_sequence made single,
    outcome_bind_ok collected, outcome_bind_ok joined, length, none]
  rfl

theorem World.Wordless.mute (blank : w.cell? 0 = some (.tuple [])) (wordless : w.Wordless p) :
    w.Mute p := by
  induction wordless with
  | null => exact ⟨.text "", w, outcome_toTemplateText_null w, rfl⟩
  | text read plain =>
    refine ⟨_, w, outcome_toTemplateText_plain plain (by simp [World.isText, read]), ?_⟩
    simp [read]
  | @bytes v read plain =>
    refine ⟨_, w, outcome_toTemplateText_plain plain (by simp [World.isText, read]), ?_⟩
    have untexted : w.text? v = Option.none := by
      unfold World.text?
      split
      · rename_i based
        simp [World.bytes?, based] at read
      · rfl
    rw [untexted, read]
    rfl
  | parts made single none => exact mute_of_parts blank made single none
  | optional tag inside ih =>
    obtain ⟨name, w', made, silent⟩ := ih
    exact ⟨name, w', by rw [outcome_toTemplateText_optional, made], silent⟩

theorem World.Wordless.unindexed (wordless : w.Wordless p) : w.Unindexed p := by
  rw [World.Unindexed, asIndex, outcome_get_bind]
  cases wordless with
  | null | optional => rfl
  | text read =>
    unfold World.text? at read
    split at read
    · rename_i based
      simp [based]
    · cases read
  | bytes read =>
    unfold World.bytes? at read
    split at read <;> simp_all
  | parts made single =>
    obtain ⟨tag, target, rfl, -⟩ | ⟨start, stop, step, rfl, -⟩ |
      ⟨i, j, parts, rfl, based, -, rfl⟩ := World.shape_of_parts made single
    · rfl
    · rfl
    · simp [based]

end

/-! ## The object model -/

namespace ObjectModel

variable {t p : Value} {w : World}

theorem outcome_getProperty_mute (given : t ≠ .null) (asked : p ≠ .null)
    (mute : Throughout t p w fun w => w.Mute p) :
    outcome (ObjectModel.standard.getProperty t p) w = outcome (do
      let name ← toTemplateText p
      orElse (← recordAnswer t name) (do orElse (← resolveIndex t p) (unnamed p))) w := by
  have answers : inheritedProperty t p = (do
      let name ← toTemplateText p
      orElse (← recordAnswer t name) (TemplateEngine.resolveProperty t p)) := by
    simp only [inheritedProperty, given, asked, recordAnswer, decide_false, Bool.or_false,
      Bool.false_eq_true, if_false, bind_assoc]
    congr! with name found
    cases found <;> rfl
  rw [outcome_getProperty_standard, answers]
  exact outcome_bind_same fun name w₁ made => outcome_orElse_same fun w₂ answered =>
    outcome_resolveProperty_mute given asked ((mute.after (.text made)).answer answered)

theorem outcome_resolveProperty_mute (given : t ≠ .null) (asked : p ≠ .null)
    (mute : Throughout t p w fun w => w.Mute p) :
    outcome (ObjectModel.standard.resolveProperty t p) w = outcome (do
      orElse (← resolveIndex t p) do
        let name ← toTemplateText p
        orElse (← recordAnswer t name) (do orElse (← resolveIndex t p) (unnamed p))) w := by
  rw [resolveProperty_eq given asked]
  exact outcome_orElse_same fun w' missed =>
    outcome_getProperty_mute given asked (mute.after (.index missed))

/-! ## Units -/

/-- A unit whose classes answer for it as a record the way units do. -/
structure PlainUnit (w : World) (u : UnitId) : Prop where
  getter : Classes.findMember? w.classes (w.classOf (.unit u)) Record.getter =
    some (.standard .renderUnit, .native .renderUnit .routine)
  namer : Record.definedOnClass w (w.classOf (.unit u)) Record.namer = true

theorem PlainUnit.outcome_isRecord {u : UnitId} (plain : PlainUnit w u) :
    outcome (isRecord (.unit u)) w = (.ok true, w) := by
  have defined : Record.definedOnClass w (w.classOf (.unit u)) Record.getter = true := by
    rw [Record.definedOnClass, plain.getter]
  rw [isRecord, outcome_get_bind]
  simp [defined, plain.namer]

/-- A method of units that is read from one is bound to it. -/
theorem outcome_readFrom_unit {u : UnitId} {name : String} {use : NativeUse}
    (found : Classes.findMember? w.classes (w.classOf (.unit u)) name =
      some (.standard .renderUnit, .native .renderUnit use)) (method : use ≠ .field) :
    outcome (Dispatch.full.readFrom (.unit u) name) w =
      (.ok (.bound w.nextTag (.standard .renderUnit) name (.unit u)), w.mark 1) := by
  have ordinary : (Member.native .renderUnit use).isComputed = false := by
    cases use with
    | field => exact absurd rfl method
    | _ => rfl
  have read : outcome (Dispatch.full.read (.unit u) name) w =
      (.ok (some (.bound w.nextTag (.standard .renderUnit) name (.unit u))), w.mark 1) := by
    change outcome (readAttribute (.within 499) (.unit u) name) w = _
    rw [outcome_readAttribute_found _ (fun _ => Value.noConfusion) found ordinary]
    cases use with
    | field => exact absurd rfl method
    | _ => rfl
  rw [Dispatch.readFrom, outcome_bind_ok read]
  rfl

/-- A unit answers with the unit that is registered under the folded name. -/
theorem PlainUnit.outcome_recordProperty {u : UnitId} (plain : PlainUnit w u) {name : Value}
    {text : String} (read : w.text? name = some text) :
    outcome (recordProperty (.unit u) name) w =
      (.ok (((w.forest.subs u).get? (Text.foldCase text)).map Value.unit |>.getD .null),
        w.mark 1) := by
  have fold : outcome (foldName name) (w.mark 1) = (.ok (Text.foldCase text), w.mark 1) := by
    have read' : (w.mark 1).text? name = some text := read
    rw [foldName, nameOf]
    simp [outcome_bind, World.nameText, read']
  rw [recordProperty, callMethod, outcome_bind_ok (outcome_readFrom_unit plain.getter (by simp))]
  change outcome (foldName name >>= fun folded => do
    return (((← get).forest.subs u).get? folded |>.map Value.unit).getD .null) (w.mark 1) = _
  rw [outcome_bind_ok fold]
  rfl

/-- A unit answers for an empty name with the unit that is registered without a name. -/
theorem outcome_recordAnswer_unit {u : UnitId} (plain : PlainUnit w u) {name : Value}
    (empty : w.text? name = some "") :
    outcome (recordAnswer (.unit u) name) w =
      (.ok (((w.forest.subs u).get? "").map Value.unit |>.getD .null), w.mark 1) := by
  rw [recordAnswer, outcome_bind_ok plain.outcome_isRecord, if_pos rfl,
    plain.outcome_recordProperty empty]
  rfl

/-- What a property without a name resolves to. A property that is nothing gives nothing. One whose
text form is empty, as that of empty texts and sequences is, gives nothing without records, unless
it is a number that designates an element. With records it gives what a record answers for the name,
such as the unit that is registered under it: nothing else is asked, and a value that is no record
gives nothing. -/
theorem empty_name (t p : Value) (w : World) :
    (w.cell? 0 = some (.tuple []) → w.Wordless p → w.Mute p ∧ w.Unindexed p) ∧
    (t = .null ∨ p = .null → ∀ resolve ∈ [TemplateEngine.resolveProperty,
        ObjectModel.standard.getProperty, ObjectModel.standard.resolveProperty],
      outcome (resolve t p) w = (.ok .null, w)) ∧
    (t ≠ .null → p ≠ .null → (Throughout t p w fun w => w.Mute p) →
      (outcome (TemplateEngine.resolveProperty t p) w =
          outcome (do orElse (← resolveIndex t p) (unnamed p)) w ∧
        outcome (ObjectModel.standard.getProperty t p) w = outcome (do
          let name ← toTemplateText p
          orElse (← recordAnswer t name) (do orElse (← resolveIndex t p) (unnamed p))) w ∧
        outcome (ObjectModel.standard.resolveProperty t p) w = outcome (do
          orElse (← resolveIndex t p) do
            let name ← toTemplateText p
            orElse (← recordAnswer t name) (do orElse (← resolveIndex t p) (unnamed p))) w) ∧
      ((Throughout t p w fun w => w.Unindexed p) →
        (outcome (TemplateEngine.resolveProperty t p) w).1 = .ok .null ∧
        ∀ resolve ∈ [ObjectModel.standard.getProperty, ObjectModel.standard.resolveProperty],
          (outcome (resolve t p) w).1 = (outcome (do recordAnswer t (← toTemplateText p)) w).1)) ∧
    (∀ name w', outcome (isRecord t) w = (.ok false, w') →
      outcome (recordAnswer t name) w = (.ok .null, w')) ∧
    ∀ u name, t = .unit u → PlainUnit w u → w.text? name = some "" →
      outcome (recordAnswer t name) w =
        (.ok (((w.forest.subs u).get? "").map Value.unit |>.getD .null), w.mark 1) := by
  refine ⟨fun blank wordless => ⟨wordless.mute blank, wordless.unindexed⟩,
    fun missing resolve mem => ?_, fun given asked mute => ?_, fun name w' other => ?_,
    fun u name unit plain empty => unit ▸ outcome_recordAnswer_unit plain empty⟩
  · obtain ⟨inner, layers⟩ := w.head_layers t
    simp only [List.mem_cons, List.not_mem_nil, or_false] at mem
    rcases mem with rfl | rfl | rfl
    · rw [TemplateEngine.resolveProperty, outcome_get_bind, layers]
      simp [resolveThrough, missing]
    · rw [outcome_getProperty_standard]
      simp [inheritedProperty, missing]
    · simp [resolveProperty, missing]
  · have plain := TemplateEngine.outcome_resolveProperty_mute given asked mute
    have got := outcome_getProperty_mute given asked mute
    have resolved := outcome_resolveProperty_mute given asked mute
    refine ⟨⟨plain, got, resolved⟩, fun unindexed => ?_⟩
    have unfound : ∀ w', (Throughout t p w' fun w => w.Mute p) →
        (Throughout t p w' fun w => w.Unindexed p) →
        (outcome (do orElse (← resolveIndex t p) (unnamed p)) w').1 = .ok .null :=
      fun w' mute unindexed => by
        rw [outcome_bind_ok (outcome_resolveIndex_unindexed unindexed.here)]
        exact mute.here.fst_unnamed
    have answered : (outcome (ObjectModel.standard.getProperty t p) w).1 =
        (outcome (do recordAnswer t (← toTemplateText p)) w).1 := by
      obtain ⟨name, w₁, made, -⟩ := mute.here
      have asks : Asks t p w w₁ := .text made
      rw [got, outcome_bind_ok made, outcome_bind_ok made]
      exact fst_outcome_orElse fun w' answer =>
        unfound w' ((mute.after asks).answer answer) ((unindexed.after asks).answer answer)
    refine ⟨by rw [plain]; exact unfound w mute unindexed, ?_⟩
    simp only [List.forall_mem_cons, List.not_mem_nil, false_imp_iff, implies_true, and_true]
    refine ⟨answered, ?_⟩
    rw [resolved, outcome_bind_ok (outcome_resolveIndex_unindexed unindexed.here), orElse,
      if_pos rfl, ← got, answered]
  · rw [recordAnswer, outcome_bind_ok other]
    rfl

/-- A unit that another one is registered with, without a name. -/
def anonymous : World := { household with forest := [⟨none, [("", 1)]⟩, ⟨some 0, []⟩] }

/-- The unit is what an empty optional gives as a property, though not without records. -/
theorem empty_name_anonymous :
    (outcome (TemplateEngine.resolveProperty (.unit 0) .emptyOptional) anonymous).1 = .ok .null ∧
      (outcome (ObjectModel.standard.getProperty (.unit 0) .emptyOptional) anonymous).1 =
        .ok (.unit 1) ∧
      (outcome (ObjectModel.standard.resolveProperty (.unit 0) .emptyOptional) anonymous).1 =
        .ok (.unit 1) := by
  have plain : PlainUnit anonymous 0 := ⟨rfl, rfl⟩
  obtain ⟨-, -, resolved, -, units⟩ := empty_name (.unit 0) .emptyOptional anonymous
  have made (w : World) : outcome (toTemplateText .emptyOptional) w = (.ok (.text ""), w) :=
    (outcome_toTemplateText_wrap [0] .null).trans (outcome_toTemplateText_null w)
  obtain ⟨-, unindexed⟩ := resolved nofun nofun fun w _ => ⟨_, w, made w, rfl⟩
  obtain ⟨nothing, asked⟩ := unindexed fun w _ => rfl
  have answer : (outcome (do recordAnswer (.unit 0) (← toTemplateText .emptyOptional))
      anonymous).1 = .ok (.unit 1) := by
    rw [outcome_bind_ok (made anonymous), units 0 (.text "") rfl plain rfl]
    rfl
  exact ⟨nothing, (asked _ (by simp)).trans answer, (asked _ (by simp)).trans answer⟩

end ObjectModel

end TemplateEngine
