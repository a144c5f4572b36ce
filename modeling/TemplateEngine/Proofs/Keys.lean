import TemplateEngine.Proofs.Cells
import TemplateEngine.Resolution
/-!
Names and numbers as properties: the index that they designate and the text under which they are
looked up are always the same, and cost nothing.
-/
namespace TemplateEngine

/-- A name or a number of a built-in type. -/
inductive IsKey : Value → Prop
  | text (s : String) : IsKey (.text s)
  | bool (b : Bool) : IsKey (.bool b)
  | int (n : Int) : IsKey (.int n)
  | float (x : Binary64) : IsKey (.float x)
  | complex (re im : Binary64) : IsKey (.complex re im)
  | decimal (d : Decimal) : IsKey (.decimal d)
  | fraction (q : Ratio) : IsKey (.fraction q)

/-- A computation that gives the same on all worlds and changes none. -/
def Settled {α : Type} (x : M α) : Prop := ∃ r, ∀ w, outcome x w = (r, w)

theorem settled_asIndex {p : Value} (hp : IsKey p) : Settled (asIndex p) := by
  cases hp with
  | text s => exact ⟨.ok none, fun w => by simp [asIndex, World.base]⟩
  | bool b => exact ⟨.ok none, fun w => by simp [asIndex, World.base]⟩
  | complex re im => exact ⟨.ok none, fun w => by simp [asIndex, World.base]⟩
  | decimal d => exact ⟨.ok d.truncate?, fun w => by simp [asIndex, World.base]⟩
  | int n =>
    refine ⟨if overflowsFloat n 1 then .error .intTooLarge else .ok (some n), fun w => ?_⟩
    simp only [asIndex, World.base, outcome_get_bind]
    split <;> rfl
  | float x =>
    cases hexact : x.exact with
    | ratio r =>
      exact ⟨.ok (some r.truncate), fun w => by simp [asIndex, World.base, hexact]⟩
    | _ => exact ⟨.ok none, fun w => by simp [asIndex, World.base, hexact]⟩
  | fraction q =>
    refine ⟨if overflowsFloat q.num q.den then .error .ratioTooLarge else .ok (some q.truncate),
      fun w => ?_⟩
    simp only [asIndex, World.base, outcome_get_bind]
    split <;> rfl

theorem World.nesting_eq_succ (w : World) (v : Value) : ∃ n, w.nesting v = n + 1 :=
  ⟨w.nesting v - 1, by
    have hdepth : 1 ≤ v.depth := by cases v <;> simp [Value.depth]
    unfold World.nesting
    omega⟩

/-- A value whose class is one of numbers. -/
inductive IsNumber : Value → Standard → Prop
  | bool (b : Bool) : IsNumber (.bool b) .bool
  | int (n : Int) : IsNumber (.int n) .int
  | float (x : Binary64) : IsNumber (.float x) .float
  | complex (re im : Binary64) : IsNumber (.complex re im) .complex
  | decimal (d : Decimal) : IsNumber (.decimal d) .decimal
  | fraction (q : Ratio) : IsNumber (.fraction q) .fraction

/-- The class of a number gives no routine for its text. -/
theorem findMember?_text {v : Value} {s : Standard} (h : IsNumber v s) (cs : Classes) :
    ∃ owner, Classes.findMember? cs (.standard s) "__str__" =
      some (.standard owner, .native owner .accessor) := by
  cases h
  case bool => exact ⟨.object, rfl⟩
  case int => exact ⟨.object, rfl⟩
  case float => exact ⟨.object, rfl⟩
  case complex => exact ⟨.object, rfl⟩
  case decimal => exact ⟨.decimal, rfl⟩
  case fraction => exact ⟨.fraction, rfl⟩

theorem outcome_textValueOf {v : Value} {s : Standard} (h : IsNumber v s) (w : World) :
    outcome (textValueOf v) w = ((w.plainText v).map .text, w) := by
  obtain ⟨owner, hfound⟩ := findMember?_text h w.classes
  change outcome (textFrom (Dispatch.within 499) v) w = _
  cases h <;>
  · simp only [textFrom, outcome_get_bind, World.classOf, hfound]
    generalize w.plainText _ = r
    cases r <;> simp [Except.map]

/-- The text of a number depends on the number only. -/
theorem plainText_const {v : Value} {s : Standard} (h : IsNumber v s) :
    ∃ r, ∀ w : World, w.plainText v = r := by
  cases h with
  | bool b =>
    refine ⟨.ok (if b then "True" else "False"), fun w => ?_⟩
    obtain ⟨n, hn⟩ := w.nesting_eq_succ (.bool b)
    simp [World.plainText, World.base, World.display, hn, World.showWithin]
  | int n => exact ⟨showInt n, fun w => by simp [World.plainText, World.base]⟩
  | float x =>
    refine ⟨.ok x.toText, fun w => ?_⟩
    obtain ⟨n, hn⟩ := w.nesting_eq_succ (.float x)
    simp [World.plainText, World.base, World.display, hn, World.showWithin]
  | complex re im =>
    refine ⟨.ok (complexText re im), fun w => ?_⟩
    obtain ⟨n, hn⟩ := w.nesting_eq_succ (.complex re im)
    simp [World.plainText, World.base, World.display, hn, World.showWithin]
  | decimal d => exact ⟨_, fun w => rfl⟩
  | fraction q => exact ⟨_, fun w => rfl⟩

theorem isCollection_number {v : Value} {s : Standard} (h : IsNumber v s) (w : World) :
    w.isCollection v = false ∧ w.text? v = none ∧ w.bytes? v = none ∧ w.content? v = none := by
  cases h <;> simp [World.isCollection, World.isText, World.isMapping, World.isArray,
    World.isIterable, World.isSequence, World.isSet, World.isIterator, World.stream?, World.text?,
    World.bytes?, World.base, World.baseCell?, World.mapping?, World.sequence?, World.repeatable?,
    World.content?]

theorem outcome_templateText?_text (s : String) (w : World) :
    outcome (templateText? (.text s)) w = (.ok (some s), w) := by
  obtain ⟨n, hn⟩ := w.nesting_eq_succ (.text s)
  simp [templateText?, toTemplateText, hn, toStringWithin, outcome_bind, World.content?,
    World.base, World.text?]

theorem outcome_templateText?_null (w : World) :
    outcome (templateText? .null) w = (.ok (some ""), w) := by
  obtain ⟨n, hn⟩ := w.nesting_eq_succ .null
  simp [templateText?, toTemplateText, hn, toStringWithin, outcome_bind, World.text?, World.base]

/-- The text form of a number other than a truth value is what it prints. -/
theorem outcome_toStringWithin_number {v : Value} {s : Standard} (h : IsNumber v s)
    (hb : ∀ b, v ≠ .bool b) (n : Nat) (w : World) :
    outcome (toStringWithin (n + 1) v) w = ((w.plainText v).map .text, w) := by
  obtain ⟨hcollection, htext, hbytes, hcontent⟩ := isCollection_number h w
  have htext := outcome_textValueOf h w
  cases h <;> simp_all [toStringWithin]

theorem outcome_toTemplateText_number {v : Value} {s : Standard} (h : IsNumber v s)
    (hb : ∀ b, v ≠ .bool b) (w : World) :
    outcome (toTemplateText v) w = ((w.plainText v).map .text, w) := by
  obtain ⟨n, hn⟩ := w.nesting_eq_succ v
  rw [toTemplateText, outcome_get_bind, hn, outcome_toStringWithin_number h hb]

theorem settled_templateText? {p : Value} (hp : IsKey p) : Settled (templateText? p) := by
  have hnumber : ∀ {v : Value} {s : Standard}, IsNumber v s → (∀ b, v ≠ .bool b) →
      Settled (templateText? v) := by
    intro v s h hb
    obtain ⟨r, hr⟩ := plainText_const h
    refine ⟨r.map some, fun w => ?_⟩
    have hform := outcome_toTemplateText_number h hb w
    rw [hr] at hform
    cases r <;> simp [templateText?, outcome_bind, hform, Except.map, World.text?, World.base]
  cases hp with
  | text s => exact ⟨.ok (some s), outcome_templateText?_text s⟩
  | bool b =>
    refine ⟨.ok (some (if b then "true" else "false")), fun w => ?_⟩
    obtain ⟨n, hn⟩ := w.nesting_eq_succ (.bool b)
    simp [templateText?, toTemplateText, hn, toStringWithin, outcome_bind, World.content?,
      World.base, World.text?]
  | int n => exact hnumber (.int n) (by simp)
  | float x => exact hnumber (.float x) (by simp)
  | complex re im => exact hnumber (.complex re im) (by simp)
  | decimal d => exact hnumber (.decimal d) (by simp)
  | fraction q => exact hnumber (.fraction q) (by simp)

end TemplateEngine
