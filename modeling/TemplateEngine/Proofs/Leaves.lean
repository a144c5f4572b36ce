import TemplateEngine.Proofs.Depth
import TemplateEngine.Proofs.Nameless
import TemplateEngine.Proofs.Parts
/-!
The text of what is no collection. Where no code of its class is run for it, it is the same in every
later world, and making it changes nothing.
-/
namespace TemplateEngine

namespace World
variable {w w' : World} {v : Value} {s : String}

/-- What a value prints is the same later, unless there was no room for it. -/
theorem deeper_plainText (grown : w.Grows w') (whole : w.Whole) (held : w.Holds v) :
    Deeper (w.plainText v) (w'.plainText v) := by
  have shown := deeper_display grown whole held
  have based := grown.base held
  cases v with
  | readOnly tag target => exact deeper_display grown whole held
  | flags e bits =>
    simp only [plainText, grown.flagName?, grown.classes]
    exact .refl _
  | decimal | fraction | date | time | moment | instant => exact .refl _
  | _ =>
    simp only [plainText, based, grown.memberName?, grown.classes]
    split
    iterate 3 exact .refl _
    exact shown

/-! ## Leaves without code -/

/-- The text form of what is no collection and whose class has no code for it. -/
def leafText (w : World) (v : Value) : Except Fault Value :=
  match v with
  | .null => .ok (.text "")
  | .member .. | .flags .. => .ok (memberNameValue w v)
  | .bool b => .ok (.text (if b then "true" else "false"))
  | v =>
    match w.text? v, w.bytes? v with
    | some _, _ => .ok v
    | none, some b => .ok (replaceFlaws b)
    | none, none => (w.plainText v).map .text

/-- No code of its class is run for the text form of a value: for the name of a member, or else for
the text of the value. -/
def Uncoded (w : World) (v : Value) : Prop :=
  ∀ owner m, Classes.findMember? w.classes (w.classOf v) (if v.isMember then "name" else "__str__") =
    some (owner, m) → ∃ s use, m = .native s use

theorem Uncoded.later (uncoded : w.Uncoded v) (grown : w.Grows w') (held : w.Holds v) :
    w'.Uncoded v := by
  rw [Uncoded, grown.classes, grown.classOf held]
  exact uncoded

theorem Uncoded.memberText (uncoded : w.Uncoded v) (member : v.isMember = true) :
    outcome (memberText v) w = (.ok (memberNameValue w v), w) := by
  rw [TemplateEngine.memberText, outcome_get_bind]
  rw [Uncoded, if_pos member] at uncoded
  split
  · next owner action found => obtain ⟨s, use, same⟩ := uncoded owner _ found; cases same
  · next owner r found => obtain ⟨s, use, same⟩ := uncoded owner _ found; cases same
  · rfl

/-- Where no code is run for its text, a value has its plain text. -/
theorem outcome_textValueOf_native (native : ∀ owner m,
      Classes.findMember? w.classes (w.classOf v) "__str__" = some (owner, m) →
        ∃ s use, m = .native s use) :
    outcome (textValueOf v) w = ((w.plainText v).map .text, w) := by
  change outcome (textFrom (Dispatch.within 499) v) w = _
  have plain : outcome (do return Value.text (← liftResult (w.plainText v))) w =
      ((w.plainText v).map .text, w) := by
    generalize w.plainText v = r
    cases r <;> simp [Except.map]
  rw [textFrom, outcome_get_bind]
  dsimp only
  split
  · exact plain
  · split
    · next found => obtain ⟨s, use, same⟩ := native _ _ found; cases same
    · next found => obtain ⟨s, use, same⟩ := native _ _ found; cases same
    · next found => obtain ⟨s, use, same⟩ := native _ _ found; cases same
    · exact plain

theorem Uncoded.textValueOf (uncoded : w.Uncoded v) (member : v.isMember = false) :
    outcome (textValueOf v) w = ((w.plainText v).map .text, w) := by
  rw [Uncoded, if_neg (by simp [member])] at uncoded
  exact outcome_textValueOf_native uncoded

theorem outcome_toTemplateText_leaf (single : w.content? v = none) (plain : w.isCollection v = false)
    (uncoded : w.Uncoded v) : outcome (toTemplateText v) w = (w.leafText v, w) := by
  obtain ⟨n, room⟩ := w.nesting_eq_succ v
  rw [toTemplateText, outcome_get_bind, room, toStringWithin, outcome_get_bind, single]
  split
  · rfl
  · next found => cases found
  · next found => cases found
  · exact uncoded.memberText rfl
  · exact uncoded.memberText rfl
  · rfl
  · next v _ given _ unmember unflagged untrue _ =>
    have inner : v.isMember = false := by
      cases v with
      | member => exact absurd rfl (unmember _ _)
      | flags => exact absurd rfl (unflagged _ _)
      | _ => rfl
    have written := uncoded.textValueOf inner
    rw [leafText]
    case x | x_1 | x_2 | x_3 => assumption
    cases w.text? v with
    | some s => rfl
    | none =>
      cases w.bytes? v with
      | some b => rfl
      | none => simpa only [plain, Bool.false_eq_true, if_false] using written

theorem deeper_leafText (grown : w.Grows w') (whole : w.Whole) (held : w.Holds v) :
    Deeper (w.leafText v) (w'.leafText v) := by
  have printed := deeper_plainText grown whole held
  cases v with
  | null | bool => exact .refl _
  | member | flags =>
    simp only [leafText, memberNameValue, grown.memberName?, grown.flagName?]
    exact .refl _
  | _ =>
    simp only [leafText, grown.text? held, grown.bytes? whole held]
    split
    · exact .refl _
    · exact .refl _
    · intro made
      exact congrArg (Except.map Value.text) (printed fun deep => made (by rw [deep]; rfl))

/-- In every later world the text form of a value is a text, always the same one, and making it
changes nothing that was there. -/
def Lasts (w : World) (v : Value) (s : String) : Prop :=
  ∀ w', w.Grows w' → ∃ t w'', outcome (toTemplateText v) w' = (.ok t, w'') ∧ w'.Grows w'' ∧
    w''.text? t = some s

/-- Without code of a class, one text is enough. -/
theorem lasts_of_uncoded (whole : w.Whole) (held : w.Holds v) (single : w.content? v = none)
    (plain : w.isCollection v = false) (uncoded : w.Uncoded v) {t : Value}
    (made : (outcome (toTemplateText v) w).1 = .ok t) (texted : w.text? t = some s) :
    w.Lasts v s := by
  intro w' grown
  have now : w.leafText v = .ok t := by
    rwa [outcome_toTemplateText_leaf single plain uncoded] at made
  have later := outcome_toTemplateText_leaf ((grown.content? held).trans single)
    ((grown.isCollection whole held).trans plain) (uncoded.later grown held)
  have same := deeper_leafText grown whole held (by simp [now])
  exact ⟨t, w', by rw [later, same, now], .refl w', grown.text texted⟩

end World

/-! ## Marked numbers -/

theorem plainText_marked (x : Value) (m : Nat) (w : World) :
    w.plainText (x.marked m) = w.plainText x := by
  cases x with
  | float x => cases x <;> rfl
  | complex re im => cases re <;> cases im <;> rfl
  | decimal d => cases d <;> rfl
  | _ => rfl

/-- Marks are on numbers only. -/
theorem number_of_bare {x : Value} (bare : x.isBare = true) :
    ∃ s, ∀ m, IsNumber x s ∧ IsNumber (x.marked m) s := by
  cases x with
  | float x => exact ⟨.float, fun m => ⟨.float _, .float _⟩⟩
  | complex re im => exact ⟨.complex, fun m => ⟨.complex _ _, .complex _ _⟩⟩
  | decimal d => exact ⟨.decimal, fun m => ⟨.decimal _, .decimal _⟩⟩
  | _ => cases bare

/-- A number is written out as before when it is marked. -/
theorem outcome_toStringWithin_marked {x : Value} (bare : x.isBare = true) (n m : Nat) (w : World) :
    outcome (toStringWithin (n + 1) (x.marked m)) w = outcome (toTemplateText x) w := by
  obtain ⟨s, number⟩ := number_of_bare bare
  obtain ⟨plain, marked⟩ := number m
  have untrue : ∀ b, x ≠ .bool b := fun b same => by simp [same, Value.isBare] at bare
  have untrue' : ∀ b, x.marked m ≠ .bool b := fun b same => by
    cases x <;> simp_all [Value.isBare, Value.marked]
  rw [outcome_toStringWithin_number marked untrue', outcome_toTemplateText_number plain untrue,
    plainText_marked]

end TemplateEngine
