import TemplateEngine.Proofs.Arguments
import TemplateEngine.Proofs.Containers
import TemplateEngine.Proofs.Leaves
/-!
Calls of values that are no units. The failure tells which kind of value was called, and has the value
itself. But for making the text that its message shows, and for one warning, nothing is done.
-/
namespace TemplateEngine

/-- What kind of value was called: nothing, a value of a primitive type, a text, or another one. -/
def CallFailureKind.ofTarget (m : ObjectModel) (w : World) (v : Value) : CallFailureKind :=
  if v = .null then .null
  else if v.isPrimitive || (m == .strict && (w.text? v).isSome) then .primitive
  else if (w.text? v).isSome then .string
  else .wrongType

/-- The message of a refused call, with what is shown of the value. -/
def CallFailureKind.message (shown : String) : CallFailureKind → String
  | .null => "data-sly-call: expression evaluates to null."
  | .primitive => "data-sly-call: primitive \"" ++ shown ++ "\" does not represent a HTL template."
  | .string => "data-sly-call: String '" ++ shown ++ "' does not represent a HTL template."
  | .wrongType => "data-sly-call: " ++ shown ++ " does not represent a HTL template."

/-- What the message of a refused call shows: the text form of the value, or the name of its class. -/
def shownTarget (m : ObjectModel) (v : Value) : M String := do
  let w ← get
  match CallFailureKind.ofTarget m w v with
  | .null => return ""
  | .primitive => return (← templateText? v).getD "None"
  | .string => textOf v
  | .wrongType => return Classes.fullName w.classes (w.classOf v)

/-- The failure of a refused call. -/
def rejection (m : ObjectModel) (w : World) (v : Value) (shown : String) : Fault :=
  let kind := CallFailureKind.ofTarget m w v
  .templateCall kind ⟨v, kind.message shown⟩

namespace CallFailureKind

variable {m : ObjectModel} {w w' : World} {v : Value}

/-- The kinds exclude each other: nothing comes first, then primitive types, then texts. -/
theorem ofTarget_iff (lenient : m ≠ .strict) :
    (ofTarget m w v = .null ↔ v = .null) ∧
    (ofTarget m w v = .primitive ↔ (∃ b, v = .bool b) ∨ (∃ n, v = .int n) ∨ (∃ x, v = .float x) ∨
      ∃ re im, v = .complex re im) ∧
    (ofTarget m w v = .string ↔ (w.text? v).isSome) ∧
    (ofTarget m w v = .wrongType ↔ v.isPrimitive = false ∧ w.text? v = none) := by
  have unlisted : (m == .strict) = false := beq_eq_false_iff_ne.mpr lenient
  cases primitive : v.isPrimitive with
  | true => cases v <;> simp_all [ofTarget, Value.isPrimitive, World.text?, World.base]
  | false =>
    have given : v ≠ .null := by rintro rfl; cases primitive
    have typed : ¬ ((∃ b, v = .bool b) ∨ (∃ n, v = .int n) ∨ (∃ x, v = .float x) ∨
        ∃ re im, v = .complex re im) := by
      rintro (⟨b, rfl⟩ | ⟨n, rfl⟩ | ⟨x, rfl⟩ | ⟨re, im, rfl⟩) <;> cases primitive
    have kind : ofTarget m w v = if (w.text? v).isSome then .string else .wrongType := by
      simp [ofTarget, given, primitive, unlisted]
    rw [kind]
    refine ⟨iff_of_false ?_ given, iff_of_false ?_ typed, ?_, ?_⟩ <;> cases w.text? v <;> simp

/-- To an object model for which texts are primitive, a text is that. -/
theorem ofTarget_strict (texted : (w.text? v).isSome) : ofTarget .strict w v = .primitive := by
  have given : v ≠ .null := by rintro rfl; cases texted
  simp [ofTarget, given, texted]

theorem typed_of_primitive (kind : ofTarget m w v = .primitive) :
    v ≠ .null ∧ (v.isPrimitive = true ∨ (w.text? v).isSome = true) := by
  by_cases missing : v = .null
  · simp [ofTarget, missing] at kind
  · refine ⟨missing, ?_⟩
    by_cases texted : (w.text? v).isSome = true
    · exact .inr texted
    · simpa [ofTarget, missing, texted] using kind

theorem texted_of_string (kind : ofTarget m w v = .string) : (w.text? v).isSome = true := by
  by_contra texted
  simp only [ofTarget, texted] at kind
  split at kind
  · cases kind
  · split at kind <;> cases kind

/-- The kind of a value stays. -/
theorem ofTarget_later (grown : w.Grows w') (held : w.Holds v) :
    ofTarget m w' v = ofTarget m w v := by
  simp only [ofTarget, grown.text? held]

end CallFailureKind

section
variable {m : ObjectModel} {w w' : World} {v : Value} {shown : String}

/-- A call is refused for its kind, if the text of its message can be made. -/
theorem outcome_callFailure (m : ObjectModel) (v : Value) (w : World) :
    outcome (callFailure m v) w =
      match outcome (shownTarget m v) w with
      | (.ok shown, w') => (.ok (rejection m w v shown), w')
      | (.error f, w') => (.error f, w') := by
  have primitive : outcome (m.isPrimitive v) w =
      (.ok (v.isPrimitive || (m == .strict && (w.text? v).isSome)), w) := by
    unfold ObjectModel.isPrimitive
    cases v.isPrimitive with
    | true => rfl
    | false => cases m <;> rfl
  rw [callFailure, shownTarget, outcome_get_bind, outcome_get_bind]
  unfold rejection
  by_cases missing : v = .null
  · have kind : CallFailureKind.ofTarget m w v = .null := if_pos missing
    rw [if_pos missing, kind]
    rfl
  · rw [if_neg missing, outcome_bind_ok primitive]
    by_cases typed : (v.isPrimitive || (m == .strict && (w.text? v).isSome)) = true
    · have kind : CallFailureKind.ofTarget m w v = .primitive := by
        rw [CallFailureKind.ofTarget, if_neg missing, if_pos typed]
      rw [if_pos typed, kind]
      dsimp only
      rw [outcome_bind, outcome_bind]
      rcases outcome (templateText? v) w with ⟨f | t, w'⟩ <;> rfl
    · rw [if_neg typed]
      by_cases texted : (w.text? v).isSome = true
      · have kind : CallFailureKind.ofTarget m w v = .string := by
          rw [CallFailureKind.ofTarget, if_neg missing, if_neg typed, if_pos texted]
        rw [if_pos texted, kind]
        dsimp only
        rw [outcome_bind]
        rcases outcome (textOf v) w with ⟨f | t, w'⟩ <;> rfl
      · have kind : CallFailureKind.ofTarget m w v = .wrongType := by
          rw [CallFailureKind.ofTarget, if_neg missing, if_neg typed, if_neg texted]
        rw [if_neg texted, kind]
        rfl

namespace World

/-- No code of its class is run for the text of a value, nor for its name if it is a member. -/
def Unscripted (w : World) (v : Value) : Prop :=
  ∀ name ∈ ["name", "__str__"], ∀ owner m,
    Classes.findMember? w.classes (w.classOf v) name = some (owner, m) → ∃ s use, m = .native s use

theorem unscripted_of_standard {t : Standard} (builtin : w.classOf v = .standard t) :
    w.Unscripted v := by
  intro name _ owner m found
  rw [builtin] at found
  obtain ⟨s, -, use, -, rfl, -⟩ := findMember?_standard found
  exact ⟨s, use, rfl⟩

theorem Unscripted.uncoded (native : w.Unscripted v) : w.Uncoded v := by
  intro owner m
  split
  · exact native "name" (by simp) owner m
  · exact native "__str__" (by simp) owner m

theorem Unscripted.later (native : w.Unscripted v) (grown : w.Grows w') (held : w.Holds v) :
    w'.Unscripted v := by
  rw [Unscripted, grown.classes, grown.classOf held]
  exact native

/-- In every later world the message of a refused call shows the same, and making it only adds to the
world. -/
def Spoken (m : ObjectModel) (w : World) (v : Value) (shown : String) : Prop :=
  ∀ w', w.Grows w' → w'.Whole → ∃ w'', outcome (shownTarget m v) w' = (.ok shown, w'') ∧
    w'.Grows w'' ∧ w''.Whole

theorem Spoken.later (spoken : w.Spoken m v shown) (grown : w.Grows w') : w'.Spoken m v shown :=
  fun _ more => spoken _ (grown.trans more)

theorem leaf_of_text (texted : (w.text? v).isSome) :
    w.content? v = none ∧ w.isCollection v = false := by
  obtain ⟨s, read⟩ := Option.isSome_iff_exists.mp texted
  have based := base_of_text read
  exact ⟨by simp [content?, based], by simp [isCollection, isText, texted]⟩

theorem leaf_of_primitive (primitive : v.isPrimitive = true) (given : v ≠ .null) :
    w.content? v = none ∧ w.isCollection v = false := by
  have number : ∃ s, IsNumber v s := by
    cases v with
    | null => exact absurd rfl given
    | bool b => exact ⟨_, .bool b⟩
    | int n => exact ⟨_, .int n⟩
    | float x => exact ⟨_, .float x⟩
    | complex re im => exact ⟨_, .complex re im⟩
    | _ => cases primitive
  obtain ⟨s, number⟩ := number
  obtain ⟨plain, -, -, single⟩ := isCollection_number number w
  exact ⟨single, plain⟩

/-- Without code, the text form that was made once is made again. -/
theorem outcome_templateText?_later (grown : w.Grows w') (whole : w.Whole) (held : w.Holds v)
    (leaf : w.content? v = none ∧ w.isCollection v = false) (uncoded : w.Uncoded v)
    {text : Option String} (made : (outcome (templateText? v) w).1 = .ok text) :
    outcome (templateText? v) w' = (.ok text, w') := by
  have now := outcome_toTemplateText_leaf leaf.1 leaf.2 uncoded
  have later := outcome_toTemplateText_leaf ((grown.content? held).trans leaf.1)
    ((grown.isCollection whole held).trans leaf.2) (uncoded.later grown held)
  rw [templateText?, outcome_bind, now] at made
  rw [templateText?, outcome_bind, later]
  have same := deeper_leafText grown whole held
  cases formed : w.leafText v with
  | error f => rw [formed] at made; cases made
  | ok t =>
    rw [formed] at made
    rw [same (by simp [formed]), formed]
    have known : w.Holds t := by
      have spared := (spares_toTemplateText held whole).2
      rw [now, formed] at spared
      exact (within_ok t).mp spared
    obtain rfl : w.text? t = text := Except.ok.inj made
    simp [grown.text? known]

/-- So does the text of a text. -/
theorem outcome_textOf_later (grown : w.Grows w') (held : w.Holds v) (native : w.Unscripted v)
    {s : String} (read : w.text? v = some s) : outcome (textOf v) w' = (.ok s, w') := by
  have read' : w'.text? v = some s := (grown.text? held).trans read
  have based := base_of_text read'
  have plain : w'.plainText v = .ok s := by
    cases v <;> simp_all [plainText, base]
  have made := outcome_textValueOf_native
    ((native.later grown held) "__str__" (by simp))
  rw [textOf, outcome_bind, made, plain]
  rfl

theorem unscripted_of_primitive (primitive : v.isPrimitive = true) : w.Unscripted v := by
  cases v with
  | null | bool | int | float | complex => exact unscripted_of_standard rfl
  | _ => cases primitive

/-- A value shows the same in all later worlds, unless it is a text whose class runs code for it. -/
theorem spoken_of_unscripted (whole : w.Whole) (held : w.Holds v)
    (native : (w.text? v).isSome → w.Unscripted v)
    (made : (outcome (shownTarget m v) w).1 = .ok shown) : w.Spoken m v shown := by
  intro w' grown whole'
  refine ⟨w', ?_, .refl w', whole'⟩
  rw [shownTarget, outcome_get_bind] at made ⊢
  rw [CallFailureKind.ofTarget_later grown held]
  cases kind : CallFailureKind.ofTarget m w v with
  | null =>
    rw [kind] at made
    exact congrArg (·, w') made
  | primitive =>
    rw [kind] at made
    dsimp only at made ⊢
    rw [outcome_bind] at made ⊢
    obtain ⟨given, typed⟩ := CallFailureKind.typed_of_primitive kind
    have leaf := typed.elim (leaf_of_primitive (w := w) · given) leaf_of_text
    have uncoded := (typed.elim unscripted_of_primitive native).uncoded
    rcases shows : outcome (templateText? v) w with ⟨f | text, w₁⟩
    · rw [shows] at made
      cases made
    · rw [outcome_templateText?_later grown whole held leaf uncoded (by rw [shows])]
      rw [shows] at made
      exact congrArg (·, w') made
  | string =>
    rw [kind] at made
    have texted := CallFailureKind.texted_of_string kind
    obtain ⟨s, read⟩ := Option.isSome_iff_exists.mp texted
    dsimp only at made ⊢
    rw [outcome_textOf_later (.refl w) held (native texted) read] at made
    rw [outcome_textOf_later grown held (native texted) read]
    exact congrArg (·, w') made
  | wrongType =>
    rw [kind] at made
    dsimp only at made ⊢
    rw [grown.classes, grown.classOf held]
    exact congrArg (·, w') made

end World

namespace Render

/-- What a refused call leaves: the failure with the value that was called, and the stage with a
warning. -/
theorem staged_callUnit_refused {c : Context} {s : Stage}
    (render : UnitId → Value → Render Unit) (other : ∀ u, v ≠ .unit u)
    (spoken : outcome (shownTarget c.model v) s.world = (.ok shown, w')) (arguments : Value) :
    ∃ events, staged (callUnit c render v arguments) s =
      (.error (rejection c.model s.world v shown), { s with world := w', events := events }) := by
  have failed := outcome_callFailure c.model v s.world
  rw [spoken] at failed
  obtain ⟨events, logged⟩ := staged_log c .warning "call_unit_failed"
    [("kind", .text (CallFailureKind.ofTarget c.model s.world v).name),
      ("error", .text (rejection c.model s.world v shown).message)] { s with world := w' }
  refine ⟨events, ?_⟩
  unfold callUnit
  split
  · exact absurd rfl (other _)
  · rw [staged_bind_ok (staged_onWorld_ok failed)]
    exact (staged_bind_ok logged).trans rfl

end Render

end

end TemplateEngine
