import TemplateEngine.Proofs.Arguments
import TemplateEngine.Proofs.Failures
import TemplateEngine.Proofs.NumberValues
/-!
Values without a text. What the text form of a value gives is a text, unless the value is a member of
an enumeration whose name is none: the value of no flag, or a member whose class computes something
else as its name. Joining and calling trust the text form, and fail at such members only.
-/
namespace TemplateEngine

def Value.isMember : Value → Bool
  | .member .. | .flags .. => true
  | _ => false

/-- What is inside all optionals is a member of an enumeration, and what it has as its name is no
text. -/
def World.Nameless (w : World) (v : Value) : Prop :=
  (w.unwrap v).isMember = true ∧
    ∃ name w', outcome (memberText (w.unwrap v)) w = (.ok name, w') ∧ w'.text? name = none

section Names
variable {w w' : World} {v t : Value}

/-- Names that no class computes are texts, but for that of a value without flags. -/
theorem World.nameless_iff (plain : ∀ owner m,
      Classes.findMember? w.classes (w.classOf (w.unwrap v)) "name" = some (owner, m) →
        (∀ action, m ≠ .computed action) ∧ ∀ r, m ≠ .routine r) :
    w.Nameless v ↔ (∃ e bits, w.unwrap v = .flags e bits ∧ w.flagName? e bits = none) ∨
      ∃ e k, w.unwrap v = .member e k ∧ w.memberName? e k = none := by
  have named : outcome (memberText (w.unwrap v)) w = (.ok (memberNameValue w (w.unwrap v)), w) := by
    rw [memberText, outcome_get_bind]
    split
    · next owner action found => exact absurd rfl ((plain owner _ found).1 action)
    · next owner r found => exact absurd rfl ((plain owner _ found).2 r)
    · rfl
  have single : w.Nameless v ↔
      (w.unwrap v).isMember = true ∧ w.text? (memberNameValue w (w.unwrap v)) = none := by
    simp [Nameless, named]
  rw [single]
  cases w.unwrap v with
  | member e k =>
    cases found : w.memberName? e k <;>
      simp [Value.isMember, memberNameValue, found, text?, base]
  | flags e bits =>
    cases found : w.flagName? e bits <;>
      simp [Value.isMember, memberNameValue, found, text?, base]
  | _ => simp [Value.isMember]

/-- Only the value of no flag has no name, where none was given to it. -/
theorem World.flagName?_eq_none_iff {e bits : Nat} :
    w.flagName? e bits = none ↔
      bits = 0 ∧ ∀ info, w.class? e = some info → ∀ n ∈ info.names, n.value ≠ .int 0 := by
  unfold flagName?
  split
  · next n found =>
    obtain ⟨info, known, first⟩ := Option.bind_eq_some_iff.mp found
    have held := List.mem_of_find?_eq_some first
    have valued := List.find?_some first
    refine ⟨nofun, fun ⟨flagless, unnamed⟩ => ?_⟩
    subst flagless
    exact absurd (by simpa using valued) (unnamed info known n held)
  · next missing =>
    by_cases flagless : bits = 0
    · subst flagless
      simpa [Option.bind_eq_none_iff] using missing
    · simp [flagless]

end Names

/-! ## What the text form gives -/

section Texts
variable {w w' : World} {v t : Value}

theorem text_of_textFrom {d : Dispatch} (made : outcome (textFrom d v) w = (.ok t, w')) :
    (w'.text? t).isSome = true := by
  have plain : ∀ {w : World} {r : Except Fault String},
      outcome (do return Value.text (← liftResult r)) w = (.ok t, w') →
        (w'.text? t).isSome = true := by
    intro w r made
    obtain ⟨s, w₁, -, made⟩ := bind_ok_iff.mp made
    obtain ⟨rfl, rfl⟩ := by simpa using made
    rfl
  have checked : ∀ {w : World} {x : Value},
      outcome (do
        if ((← get).text? x).isSome then return x
        else fail (.textNotText ((← get).typeInMessages x))) w = (.ok t, w') →
        (w'.text? t).isSome = true := by
    intro w x made
    rw [outcome_get_bind] at made
    split_ifs at made with texted
    · obtain ⟨rfl, rfl⟩ := by simpa using made
      exact texted
    · simp at made
  rw [textFrom, outcome_get_bind] at made
  dsimp only at made
  split at made
  · exact plain made
  · split at made
    · obtain ⟨x, w₁, -, made⟩ := bind_ok_iff.mp made
      exact checked made
    · obtain ⟨x, w₁, -, made⟩ := bind_ok_iff.mp made
      exact checked made
    · obtain ⟨x, w₁, -, made⟩ := bind_ok_iff.mp made
      obtain ⟨y, w₂, -, made⟩ := bind_ok_iff.mp made
      exact checked made
    · exact plain made

/-- The text form of what is no optional is a text, or the name of a member. -/
theorem text_of_plain {n : Nat} (plain : w.content? v = none)
    (made : outcome (toStringWithin (n + 1) v) w = (.ok t, w')) :
    if v.isMember then outcome (memberText v) w = (.ok t, w') else (w'.text? t).isSome = true := by
  rw [toStringWithin, outcome_get_bind, plain] at made
  split at made
  · obtain ⟨rfl, rfl⟩ := by simpa using made
    rfl
  · next empty => cases empty
  · next empty => cases empty
  · exact made
  · exact made
  · obtain ⟨rfl, rfl⟩ := by simpa using made
    rfl
  · next v _ _ _ single unflagged _ _ =>
    have member : v.isMember = false := by
      cases v with
      | member => exact absurd rfl (single _ _)
      | flags => exact absurd rfl (unflagged _ _)
      | _ => rfl
    rw [if_neg (by simp [member])]
    split at made
    · next s texted =>
      obtain ⟨rfl, rfl⟩ := by simpa using made
      simp [texted]
    · obtain ⟨rfl, rfl⟩ := by simpa [replaceFlaws] using made
      rfl
    · split_ifs at made
      · obtain ⟨items, w₁, -, made⟩ := bind_ok_iff.mp made
        obtain ⟨s, w₂, -, made⟩ := bind_ok_iff.mp made
        obtain ⟨rfl, rfl⟩ := by simpa using made
        rfl
      · exact text_of_textFrom made

theorem text_of_toStringWithin {n : Nat} (made : outcome (toStringWithin n v) w = (.ok t, w')) :
    let inner := (w.layersWithin n v).getLastD v
    if inner.isMember then outcome (memberText inner) w = (.ok t, w')
    else (w'.text? t).isSome = true := by
  induction n generalizing v with
  | zero => simp [toStringWithin] at made
  | succ n ih =>
    cases found : w.content? v with
    | none => simpa [World.layersWithin, found] using text_of_plain found made
    | some content =>
      have inner : (w.layersWithin (n + 1) v).getLastD v =
          (w.layersWithin n content).getLastD content := by
        simp only [World.layersWithin, found, World.getLastD_cons_layersWithin]
      rw [inner]
      by_cases empty : content = .null
      · subst empty
        have last : (w.layersWithin n .null).getLastD .null = .null := by
          cases n <;> simp [World.layersWithin, World.content?, World.base]
        have blank : outcome (toStringWithin (n + 1) v) w = (.ok (.text ""), w) := by
          rw [toStringWithin, outcome_get_bind, found]
          split <;> simp_all
        obtain ⟨rfl, rfl⟩ := by simpa [blank] using made
        rw [last]
        rfl
      · rw [w.outcome_toStringWithin_content n found empty] at made
        exact ih made

theorem text_iff_nameless (made : outcome (toTemplateText v) w = (.ok t, w')) :
    w'.text? t = none ↔ w.Nameless v := by
  have form := text_of_toStringWithin (n := w.nesting v) made
  change if (w.unwrap v).isMember then outcome (memberText (w.unwrap v)) w = (.ok t, w')
    else (w'.text? t).isSome = true at form
  split_ifs at form with member
  · simp [World.Nameless, member, form]
  · simp [World.Nameless, member, Option.isSome_iff_ne_none.mp form]

end Texts

/-! ## Joined texts -/

/-- What a generator makes of a failure: the end of another iterator is no end of its own. -/
def Fault.insideGenerator (f : Fault) : Fault :=
  if f.kindName = "StopIteration" then .generatorStopped else f

/-- The text form of an element, as a generator gives it. -/
def textInside (text : Value → M Value) (x : Value) : M Value := do
  match ← attempt (text x) with
  | .ok t => return t
  | .error f => fail f.insideGenerator

/-- The characters of what is joined at a place. -/
def charactersAt (w : World) (t : Value) (i : Nat) : M String :=
  match w.text? t with
  | some s => pure s
  | none => fail (.itemNotText i (w.typeInMessages t))

theorem joinEach_eq (sep : String) (text : Value → M Value) (c : Value) :
    joinEach sep text c = (do joinTexts sep (← forEach c (textInside text))) :=
  rfl

theorem joinTexts_eq (sep : String) (texts : List Value) : joinTexts sep texts = (do
    let w ← get
    let parts ← texts.zipIdx.mapM fun item => charactersAt w item.1 item.2
    return Text.join sep parts) :=
  rfl

/-- In a world that was kept, an element is read from a value. -/
def World.Delivers (w : World) (v : Value) (i : Nat) (x : Value) (w' : World) : Prop :=
  ∃ s w₀ w₁, outcome (Source.ofValue v) w = (.ok s, w₀) ∧ w.Kept .clear w₁ ∧
    outcome (s.at? i) w₁ = (.ok (some x), w')

/-- Why the texts of the elements of a value cannot be joined: the value cannot be iterated, an
element has no text form, or an element is nameless. -/
inductive World.Unjoined (w : World) (v : Value) : Fault → Prop
  | uniterable {f : Fault} {w' : World} (fails : outcome (Source.ofValue v) w = (.error f, w')) :
    Unjoined w v f
  | unwritten {i : Nat} {x : Value} {w₁ w₂ : World} {f : Fault} (read : w.Delivers v i x w₁)
    (fails : outcome (toTemplateText x) w₁ = (.error f, w₂)) : Unjoined w v f.insideGenerator
  | nameless {i : Nat} {x : Value} {w₁ : World} {type : String} (read : w.Delivers v i x w₁)
    (nameless : w₁.Nameless x) : Unjoined w v (.itemNotText i type)

section Joining
variable {w w' : World} {v : Value} {f : Fault}

theorem at?_ok (s : Source) (i : Nat) (w : World) :
    ∃ x w', outcome (s.at? i) w = (.ok x, w') := by
  cases s with
  | fixed elements =>
    rw [Source.at?]
    split
    · unfold asObject
      split <;> exact ⟨_, _, rfl⟩
    · exact ⟨_, _, rfl⟩
  | live j | stream j =>
    rw [Source.at?, outcome_get_bind]
    split <;> exact ⟨_, _, rfl⟩

section Visits
variable {α : Type} [Referring α] {body : Nat → Value → M α} {s : Source} {left turn : Nat}
  {made : List α}

/-- What a run over elements gives was made of them, each in a world that was kept. -/
theorem of_visit_ok (whole : w.Whole) (held : w.Holds s)
    (spared : ∀ {w₁ : World} {x : Value} (i : Nat), w₁.Holds x → Spares .clear w₁ (body i x))
    (run : outcome (s.visit id body left turn) w = (.ok made, w')) :
    ∀ i a, made[i]? = some a → ∃ w₁ x w₂ w₃, w.Kept .clear w₁ ∧
      outcome (s.at? (turn + i)) w₁ = (.ok (some x), w₂) ∧
      outcome (body (turn + i) x) w₂ = (.ok a, w₃) ∧ w₃.Kept .clear w' := by
  induction left generalizing w turn made with
  | zero =>
    obtain ⟨rfl, rfl⟩ := by simpa [Source.visit] using run
    simp
  | succ left ih =>
    obtain ⟨found, w₁, read, run⟩ := bind_ok_iff.mp run
    change outcome (s.at? turn) w = _ at read
    obtain ⟨kept, present⟩ := spares_at? held turn whole
    rw [read] at kept present
    cases found with
    | none =>
      obtain ⟨rfl, rfl⟩ := by simpa using run
      simp
    | some x =>
      obtain ⟨a, w₂, first, run⟩ := bind_ok_iff.mp run
      obtain ⟨as, w₃, others, run⟩ := bind_ok_iff.mp run
      obtain ⟨rfl, rfl⟩ := by simpa using run
      have later := (spared turn (((within_ok _).mp present) x rfl) kept.sealed_).1
      rw [first] at later
      have passed := kept.trans later
      have last := (spares_visit (passed.within held) (fun w₄ i y _ given => spared i given) left
        (turn + 1) later.sealed_).1
      rw [others] at last
      intro i b member
      cases i with
      | zero =>
        obtain rfl : a = b := by simpa using member
        exact ⟨w, x, w₁, w₂, .refl whole, read, first, last⟩
      | succ i =>
        obtain ⟨w₄, y, w₅, w₆, known, given, made, rest⟩ :=
          ih later.sealed_ (passed.within held) others i b (by simpa using member)
        have turned : turn + 1 + i = turn + (i + 1) := by omega
        rw [turned] at given made
        exact ⟨w₄, y, w₅, w₆, passed.trans known, given, made, rest⟩

/-- A run over elements fails at one of them, in a world that was kept. -/
theorem of_visit_error (whole : w.Whole) (held : w.Holds s)
    (spared : ∀ {w₁ : World} {x : Value} (i : Nat), w₁.Holds x → Spares .clear w₁ (body i x))
    (run : outcome (s.visit id body left turn) w = (.error f, w')) :
    ∃ i w₁ x w₂, w.Kept .clear w₁ ∧ outcome (s.at? i) w₁ = (.ok (some x), w₂) ∧
      outcome (body i x) w₂ = (.error f, w') := by
  induction left generalizing w turn with
  | zero => simp [Source.visit] at run
  | succ left ih =>
    obtain ⟨found, w₁, read⟩ := at?_ok s turn w
    obtain ⟨kept, present⟩ := spares_at? held turn whole
    rw [read] at kept present
    rw [Source.visit, outcome_bind_ok (show outcome (id (s.at? turn)) w = _ from read)] at run
    cases found with
    | none => simp at run
    | some x =>
      obtain first | ⟨a, w₂, first, run⟩ := bind_error_iff.mp run
      · exact ⟨turn, w, x, w₁, .refl whole, read, first⟩
      · have later := (spared turn (((within_ok _).mp present) x rfl) kept.sealed_).1
        rw [first] at later
        have passed := kept.trans later
        obtain others | ⟨as, w₃, -, run⟩ := bind_error_iff.mp run
        · obtain ⟨i, w₄, y, w₅, known, given, fails⟩ :=
            ih later.sealed_ (passed.within held) others
          exact ⟨i, w₄, y, w₅, passed.trans known, given, fails⟩
        · simp at run

end Visits

theorem joinTexts_error {sep : String} {texts : List Value}
    (failed : outcome (joinTexts sep texts) w = (.error f, w')) :
    ∃ i t type, texts[i]? = some t ∧ w.text? t = none ∧ f = .itemNotText i type := by
  have parts : ∀ (k : Nat) (w' : World), outcome ((texts.zipIdx k).mapM fun item =>
      charactersAt w item.1 item.2) w = (.error f, w') →
      ∃ i t type, texts[i]? = some t ∧ w.text? t = none ∧ f = .itemNotText (k + i) type := by
    clear failed
    induction texts with
    | nil => exact fun k w' failed => by simp at failed
    | cons t rest ih =>
      intro k w' failed
      rw [List.zipIdx_cons, List.mapM_cons] at failed
      cases read : w.text? t with
      | none =>
        refine ⟨0, t, w.typeInMessages t, rfl, read, ?_⟩
        simpa [charactersAt, read, eq_comm] using (congrArg Prod.fst failed)
      | some s =>
        obtain first | ⟨_, w₁, first, failed⟩ := bind_error_iff.mp failed
        · simp [charactersAt, read] at first
        · obtain ⟨-, rfl⟩ := by simpa [charactersAt, read] using first
          obtain later | ⟨_, w₂, -, failed⟩ := bind_error_iff.mp failed
          · obtain ⟨i, u, type, found, unread, same⟩ := ih (k + 1) w' later
            exact ⟨i + 1, u, type, found, unread, by rw [same]; congr 1; omega⟩
          · simp at failed
  rw [joinTexts_eq, outcome_get_bind] at failed
  obtain failed | ⟨_, w₁, -, failed⟩ := bind_error_iff.mp failed
  · simpa using parts 0 w' failed
  · simp at failed

theorem outcome_textInside (text : Value → M Value) (x : Value) (w : World) :
    outcome (textInside text x) w =
      ((outcome (text x) w).1.mapError Fault.insideGenerator, (outcome (text x) w).2) := by
  rw [textInside, outcome_bind, outcome_attempt]
  rcases outcome (text x) w with ⟨f | t, w'⟩ <;> rfl

theorem spares_textInside (held : w.Holds v) : Spares .clear w (textInside toTemplateText v) :=
  (spares_toTemplateText held).attempt.bind fun _ r _ hr => by
    cases r with
    | ok t => exact spares_pure ((within_ok _).mp hr)
    | error f => exact spares_fail _

/-- The texts of the elements of a value are joined, unless one of the causes is met. -/
theorem unjoined_of_joinEach {sep : String} (whole : w.Whole) (held : w.Holds v)
    (failed : outcome (joinEach sep toTemplateText v) w = (.error f, w')) : w.Unjoined v f := by
  rw [joinEach_eq, forEach, forEachNumbered] at failed
  have sources : ∀ {s : Source} {w₀ : World}, outcome (Source.ofValue v) w = (.ok s, w₀) →
      w.Kept .clear w₀ ∧ w₀.Holds s := fun sourced => by
    have kept := spares_ofValue held whole
    rw [sourced] at kept
    exact ⟨kept.1, (within_ok _).mp kept.2⟩
  obtain failed | ⟨texts, w₁, read, failed⟩ := bind_error_iff.mp failed
  · obtain failed | ⟨s, w₀, sourced, failed⟩ := bind_error_iff.mp failed
    · exact .uniterable failed
    obtain ⟨kept, present⟩ := sources sourced
    obtain ⟨i, w₁, x, w₂, known, given, failed⟩ :=
      of_visit_error kept.sealed_ present (fun _ => spares_textInside) failed
    rw [outcome_textInside] at failed
    rcases written : outcome (toTemplateText x) w₂ with ⟨g | t, w₃⟩
    · rw [written] at failed
      obtain ⟨rfl, rfl⟩ := by simpa [Except.mapError] using failed
      exact .unwritten ⟨s, w₀, w₁, sourced, kept.trans known, given⟩ written
    · rw [written] at failed
      simp [Except.mapError] at failed
  · obtain ⟨s, w₀, sourced, read⟩ := bind_ok_iff.mp read
    obtain ⟨kept, present⟩ := sources sourced
    obtain ⟨i, t, type, member, untexted, rfl⟩ := joinTexts_error failed
    obtain ⟨w₂, x, w₃, w₄, known, given, written, later⟩ :=
      of_visit_ok kept.sealed_ present (fun _ => spares_textInside) read i t member
    rw [outcome_textInside] at written
    rcases made : outcome (toTemplateText x) w₃ with ⟨g | u, w₅⟩
    · rw [made] at written
      simp [Except.mapError] at written
    · rw [made] at written
      obtain ⟨rfl, rfl⟩ := by simpa [Except.mapError] using written
      refine .nameless ⟨s, w₀, w₂, sourced, kept.trans known, by simpa using given⟩
        ((text_iff_nameless made).mp ?_)
      cases texted : w₅.text? u with
      | none => rfl
      | some _ => simp [later.text? texted] at untexted

end Joining

/-! ## The keys of arguments -/

/-- The keys of a mapping are texts, and a scope can be made of it. -/
def World.Accepts (w : World) (map : Value) : Prop :=
  (∃ entries, w.mapping? map = some entries ∧ ∀ e ∈ entries, (w.text? e.1).isSome = true) ∧
    ∃ scope w', outcome (Bindings.make Dispatch.full map) w = (.ok scope, w')

/-- In a world that was kept, some key of the mapping that arguments stand for is nameless. -/
def World.NamelessKey (w : World) (arguments : Value) : Prop :=
  ∃ map w₁, outcome (toMap arguments) w = (.ok map, w₁) ∧
    ∃ e ∈ (w₁.mapping? map).getD [], ∃ w₂, w₁.Kept .clear w₂ ∧ w₂.Nameless e.1

section Keys
variable {w w' : World} {v : Value} {f : Fault}

theorem still_insertEntry (entries : List (Value × Value)) (key x : Value) (w : World) :
    Still w (insertEntry entries key x) :=
  still_get_bind ((still_liftResult _).bind fun _ => still_liftResult _)

/-- Where the keys of arguments are written out, they have texts or one of them is nameless. -/
theorem spells_of_namedArguments {given entries named : List (Value × Value)} (whole : w.Whole)
    (held : w.Holds given) (made : outcome (namedArguments entries given) w = (.ok named, w')) :
    (∃ items, w.Spells given items w') ∨
      ∃ e ∈ given, ∃ w₁, w.Kept .clear w₁ ∧ w₁.Nameless e.1 := by
  induction given generalizing w entries with
  | nil =>
    obtain ⟨rfl, rfl⟩ := by simpa [namedArguments] using made
    exact .inl ⟨[], .nil⟩
  | cons entry rest ih =>
    obtain ⟨key, x⟩ := entry
    obtain ⟨⟨present, -⟩, others⟩ := within_cons.mp held
    obtain ⟨name, w₁, written, inserts⟩ := bind_ok_iff.mp made
    obtain ⟨entries', w₂, inserted, follows⟩ := bind_ok_iff.mp inserts
    have kept := (spares_toTemplateText present whole).1
    rw [written] at kept
    obtain rfl : w₂ = w₁ := by
      have still := still_insertEntry entries name x w₁
      rwa [Still, inserted] at still
    cases texted : w₂.text? name with
    | none =>
      exact .inr ⟨(key, x), by simp, w, .refl whole, (text_iff_nameless written).mp texted⟩
    | some text =>
      obtain ⟨items, spelled⟩ | ⟨e, member, w₃, later, nameless⟩ :=
        ih kept.sealed_ (kept.within others) follows
      · exact .inl ⟨(text, x) :: items, .cons written texted spelled⟩
      · exact .inr ⟨e, List.mem_cons_of_mem _ member, w₃, kept.trans later, nameless⟩

theorem text_of_named? {entries : List (Value × Value)} {named : List (Name Value × Value)}
    (held : w.named? entries = some named) : ∀ e ∈ entries, (w.text? e.1).isSome = true := by
  induction entries generalizing named with
  | nil => simp
  | cons entry rest ih =>
    obtain ⟨s, tail, texted, others, -⟩ := World.of_named?_cons held
    exact List.forall_mem_cons.mpr ⟨by simp [texted], ih others⟩

/-- Called with arguments, a unit is given texts as keys, which a scope takes, or a key is
nameless. -/
theorem accepts_of_callArguments {map : Value} (whole : w.Whole) (held : w.Holds v)
    (made : outcome (callArguments v) w = (.ok map, w')) : w'.Accepts map ∨ w.NamelessKey v := by
  obtain ⟨given, w₁, mapped, writes⟩ := bind_ok_iff.mp made
  obtain ⟨entries, w₂, written, -⟩ := bind_ok_iff.mp (outcome_get_bind w₁ _ ▸ writes)
  obtain ⟨kept, present⟩ := spares_toMap held whole
  rw [mapped] at kept present
  have listed : w₁.Holds ((w₁.mapping? given).getD []) :=
    kept.sealed_.entries (kept.sealed_.open_of_within ((within_ok given).mp present))
  obtain ⟨items, spelled⟩ | ⟨e, member, w₃, later, nameless⟩ :=
    spells_of_namedArguments kept.sealed_ listed written
  · obtain ⟨entries, named, called, kept, present, read, -⟩ :=
      outcome_callArguments whole held mapped spelled
    obtain ⟨rfl, rfl⟩ := by simpa [called] using made
    let made := { w₂ with nextTag := w₂.nextTag + 1 }.withCell (.dict false entries)
    have grown : w₂.Grows made := (World.Grows.withTag w₂).trans (.withCell _ _)
    have cell : made.cell? w₂.cells.size = some (.dict false entries) :=
      World.cell?_withCell_self { w₂ with nextTag := w₂.nextTag + 1 } _
    have mapping : made.mapping? (.readOnly w₂.nextTag (.ref w₂.cells.size)) = some entries := by
      simp [World.mapping?, World.baseCell?, World.base, cell]
    have texts : made.named? entries = some named := by rw [grown.named? present, read]
    have starts : made.starts? (.readOnly w₂.nextTag (.ref w₂.cells.size)) = some named := by
      simp [World.starts?, World.baseCell?, World.base, mapping, texts]
    exact .inl ⟨⟨entries, mapping, text_of_named? texts⟩, _, _, Bindings.outcome_make starts⟩
  · exact .inr ⟨given, w₁, mapped, e, member, w₃, later, nameless⟩

end Keys

/-! ## All together -/

section
variable {w : World} {v : Value}

/-- What the text form gives is a text exactly if the value is not nameless. The texts of elements are
joined unless the elements cannot be read, one of them fails, or one of them is nameless; and the keys
that a call makes are texts, which the scope of the unit takes, unless a key is nameless. -/
theorem text_unless_nameless (whole : w.Whole) (held : w.Holds v) :
    (∀ t w', outcome (toTemplateText v) w = (.ok t, w') →
      (w'.text? t = none ↔ w.Nameless v)) ∧
    (∀ f w', outcome (collectionToText v) w = (.error f, w') → w.Unjoined v f) ∧
    ∀ map w', outcome (callArguments v) w = (.ok map, w') → w'.Accepts map ∨ w.NamelessKey v := by
  refine ⟨fun t w' => text_iff_nameless, fun f w' failed => ?_,
    fun map w' => accepts_of_callArguments whole held⟩
  cases v with
  | null => simp [collectionToText] at failed
  | _ => exact unjoined_of_joinEach whole held failed

/-- Flags of which one is named. -/
def flagged : World where
  classes := #[{
    name := "Access"
    kind := .flagEnumeration
    bases := [.standard .flagEnumeration]
    order := [.declared 0, .standard .flagEnumeration, .standard .enumeration, .standard .object]
    members := []
    annotations := []
    names := [⟨"READ", .int 1, 0⟩]
    fields := none
    closed := true }]

theorem whole_flagged : flagged.Whole where
  cells i c hc _ := by
    cases i with
    | zero =>
      obtain rfl := Option.some.inj hc
      exact fun v hv => by simp [flagged, Cell.contents] at hv
    | succ i => simp [flagged, World.cell?] at hc
  classes i info h := by
    cases i with
    | zero =>
      obtain rfl := Option.some.inj h
      exact ⟨by simp [flagged], List.forall_mem_singleton.mpr trivial⟩
    | succ i => simp [flagged, World.class?] at h
  named e he := by simp [flagged] at he
  inBounds i hi := hi.elim
  emptyTuple := ⟨by decide, id⟩

/-- The value of no flag has nothing as its text form. -/
theorem text_unless_nameless_flag :
    outcome (toTemplateText (.flags 0 0)) flagged = (.ok .null, flagged) ∧
      flagged.Nameless (.flags 0 0) := by
  have made : outcome (toTemplateText (.flags 0 0)) flagged = (.ok .null, flagged) := rfl
  exact ⟨made,
    ((text_unless_nameless (v := .flags 0 0) whole_flagged trivial).1 .null flagged made).mp rfl⟩

end

end TemplateEngine
