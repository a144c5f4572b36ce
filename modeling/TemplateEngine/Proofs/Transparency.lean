import TemplateEngine.Proofs.NumberValues
/-!
Names and coercions through optionals. A name is looked up in what the innermost optional holds, and in
every coercion but one an optional stands for what it holds, at any depth. The coercion to a mapping
does not look inside: every optional becomes a new empty mapping.
-/
namespace TemplateEngine

variable {w : World}

theorem World.unwrap_wrap (w : World) (tags : List Nat) (v : Value) :
    w.unwrap (wrap tags v) = w.unwrap v := by
  induction tags with
  | nil => rfl
  | cons tag tags ih => rw [wrap, w.unwrap_optional, ih]

theorem World.nesting_optional (w : World) (tag : Nat) (v : Value) :
    w.nesting (.optional tag v) = w.nesting v + 1 := by
  simp only [nesting, Value.depth]
  omega

/-! ## Names -/

theorem outcome_resolveName_null (key : Value) (name : String) :
    outcome (resolveName .null key name) w = (.ok .null, w) := by
  have unmapped : w.isMapping .null = false := rfl
  have unlisted : w.enumClass? .null = none := rfl
  simp [outcome_resolveName, unmapped, unlisted, orElse, getEnumValue, getField, invokeAccessor]

/-- A name designates no element, so that each layer only hands it on to the next one. -/
theorem outcome_resolveThrough_text (content v : Value) (s : String) (fuel : Nat) :
    outcome (resolveThrough (.text s) content (w.layersWithin fuel v)) w =
      if s = "" then (.ok .null, w)
      else outcome (resolveName ((w.layersWithin fuel v).getLastD v) (.text s) s) w := by
  have unindexed : ∀ layer, outcome (indexTarget layer content (.text s)) w = (.ok .null, w) :=
    fun layer => by simp [indexTarget, asIndex, World.base]
  have step : ∀ layer inner, layer ≠ .null →
      outcome (resolveThrough (.text s) content (layer :: inner)) w =
        if s = "" then (.ok .null, w)
        else outcome (if inner.isEmpty then resolveName layer (.text s) s
          else resolveThrough (.text s) content inner) w := by
    intro layer inner given
    rw [outcome_resolveThrough (.text s) given, outcome_orElse, unindexed]
    simp only [outcome_withName, outcome_templateText?_text]
  have single : ∀ layer, outcome (resolveThrough (.text s) content [layer]) w =
      if s = "" then (.ok .null, w) else outcome (resolveName layer (.text s) s) w := by
    intro layer
    by_cases given : layer = .null
    · subst given
      simp [resolveThrough, outcome_resolveName_null]
    · exact step layer [] given
  induction fuel generalizing v with
  | zero => exact single v
  | succ fuel ih =>
    rw [World.layersWithin]
    cases held : w.content? v with
    | none => exact single v
    | some inside =>
      have given : v ≠ .null := by
        rintro rfl
        simp [World.content?, World.base] at held
      simp only [step v _ given, ih, w.getLastD_cons_layersWithin, List.isEmpty_iff,
        w.layersWithin_ne_nil fuel inside, if_false]
      split <;> rfl

/-- A name is looked up in what is inside all optionals. -/
theorem outcome_resolveProperty_text (t : Value) (s : String) :
    outcome (resolveProperty t (.text s)) w =
      if s = "" then (.ok .null, w) else outcome (resolveName (w.unwrap t) (.text s) s) w := by
  rw [resolveProperty, outcome_get_bind, World.unwrap, World.layers]
  exact outcome_resolveThrough_text _ t s _

theorem outcome_resolveProperty_wrap_text (tags : List Nat) (v : Value) (s : String) :
    outcome (resolveProperty (wrap tags v) (.text s)) w = outcome (resolveProperty v (.text s)) w := by
  rw [outcome_resolveProperty_text, outcome_resolveProperty_text, w.unwrap_wrap]

/-! ## Text -/

theorem outcome_toTemplateText_null (w : World) :
    outcome (toTemplateText .null) w = (.ok (.text ""), w) := by
  obtain ⟨n, room⟩ := w.nesting_eq_succ .null
  simp [toTemplateText, room, toStringWithin]

/-- An optional takes one turn more than what it holds, and has room for one more. -/
theorem outcome_toTemplateText_optional (tag : Nat) (v : Value) :
    outcome (toTemplateText (.optional tag v)) w = outcome (toTemplateText v) w := by
  have inside : w.content? (.optional tag v) = some v := rfl
  rw [toTemplateText, outcome_get_bind, w.nesting_optional]
  by_cases filled : v = .null
  · subst filled
    rw [toStringWithin, outcome_get_bind, inside, outcome_toTemplateText_null]
    rfl
  · rw [w.outcome_toStringWithin_content _ inside filled]
    rfl

theorem outcome_toTemplateText_wrap (tags : List Nat) (v : Value) :
    outcome (toTemplateText (wrap tags v)) w = outcome (toTemplateText v) w := by
  induction tags with
  | nil => rfl
  | cons tag tags ih => rw [wrap, outcome_toTemplateText_optional, ih]

/-! ## Mappings -/

/-- What neither a value nor its classes have cannot be read. -/
theorem outcome_read_missing {v : Value} {name : String} (type : ∀ c, v ≠ .type c)
    (missing : Classes.findMember? w.classes (w.classOf v) name = none)
    (bare : (w.ownAttributes v).get? name = none) :
    outcome (Dispatch.full.read v name) w = (.ok none, w) := by
  change outcome (readAttribute (Dispatch.within 499) v name) w = _
  rw [readAttribute, outcome_get_bind]
  split
  · exact absurd rfl (type _)
  · simp only [missing, bare, outcome_pure]

/-- A value without the name that records are asked by is none. -/
theorem outcome_isRecord_missing {v : Value} (type : ∀ c, v ≠ .type c)
    (missing : Classes.findMember? w.classes (w.classOf v) Record.getter = none)
    (bare : (w.ownAttributes v).get? Record.getter = none) :
    outcome (isRecord v) w = (.ok false, w) := by
  have undefined : Record.definedOnClass w (w.classOf v) Record.getter = false := by
    rw [Record.definedOnClass, missing]
  have unreadable : outcome (Record.readable v Record.getter) w = (.ok false, w) := by
    rw [Record.readable, Dispatch.has, bind_assoc, outcome_bind, outcome_attempt,
      outcome_read_missing type missing bare]
    rfl
  rw [isRecord, outcome_get_bind]
  simp only [undefined, Bool.false_and, Bool.false_eq_true, if_false]
  rw [outcome_bind_ok unreadable]
  rfl

theorem outcome_isRecord_optional (tag : Nat) (v : Value) :
    outcome (isRecord (.optional tag v)) w = (.ok false, w) :=
  outcome_isRecord_missing (by simp) rfl rfl

/-- An optional has a mapping of its own, whatever it holds. -/
theorem outcome_toMap_optional (tag : Nat) (v : Value) :
    outcome (toMap (.optional tag v)) w = outcome (alloc (.dict false [])) w := by
  have unmapped : w.isMapping (.optional tag v) = false := rfl
  rw [toMap, outcome_get_bind, unmapped, if_neg Bool.false_ne_true,
    outcome_bind_ok (outcome_isRecord_optional tag v)]
  rfl

/-- A value has no mapping to show: it is neither a mapping nor a record, or a record without any
property, the asking of which leaves nothing behind. -/
inductive World.Unmapped (w : World) (v : Value) : Prop
  | other (plain : w.isMapping v = false) (test : outcome (isRecord v) w = (.ok false, w))
  | blank {w' : World} (plain : w.isMapping v = false) (test : outcome (isRecord v) w = (.ok true, w'))
    (made : outcome (recordMap v) w' = outcome (alloc (.dict false [])) w)

/-- A new cell tells apart the worlds that it is added to. -/
theorem World.withCell_inj {w w' : World} {c : Cell} (same : w'.withCell c = w.withCell c) :
    w' = w := by
  cases w
  cases w'
  simp_all [World.withCell, Array.push_eq_push]

theorem toMap_eq_alloc_iff {v : Value} :
    outcome (toMap v) w = outcome (alloc (.dict false [])) w ↔ w.Unmapped v := by
  rw [toMap, outcome_get_bind]
  constructor
  · intro same
    cases mapped : w.isMapping v with
    | true =>
      have longer := congrArg (fun r => r.2.cells.size) same
      simp [mapped] at longer
    | false =>
      rw [mapped, if_neg Bool.false_ne_true] at same
      rcases test : outcome (isRecord v) w with ⟨f | record, w'⟩
      · rw [outcome_bind_error test] at same
        cases congrArg Prod.fst same
      · rw [outcome_bind_ok test] at same
        cases record with
        | true => exact .blank mapped test same
        | false =>
          obtain rfl : w' = w := World.withCell_inj (congrArg Prod.snd same)
          exact .other mapped test
  · rintro (⟨mapped, test⟩ | ⟨mapped, test, made⟩)
    · rw [mapped, if_neg Bool.false_ne_true, outcome_bind_ok test]
      rfl
    · rw [mapped, if_neg Bool.false_ne_true, outcome_bind_ok test]
      exact made

/-! ## All coercions -/

/-- Around any value, and around nothing, optionals make no difference to its truth, number, text,
sequence, moment and instant. Its mapping is lost: an optional has a new empty one, which is that of
the value only if the value has no mapping to show. -/
theorem coercions_wrap (w : World) (tag : Nat) (tags : List Nat) (v : Value) :
    (outcome (toBoolean (wrap (tag :: tags) v)) w = outcome (toBoolean v) w ∧
      outcome (toNumber (wrap (tag :: tags) v)) w = outcome (toNumber v) w ∧
      outcome (toTemplateText (wrap (tag :: tags) v)) w = outcome (toTemplateText v) w ∧
      outcome (toCollection (wrap (tag :: tags) v)) w = outcome (toCollection v) w ∧
      outcome (toDate (wrap (tag :: tags) v)) w = outcome (toDate v) w ∧
      outcome (toInstant (wrap (tag :: tags) v)) w = outcome (toInstant v) w) ∧
    outcome (toMap (wrap (tag :: tags) v)) w = outcome (alloc (.dict false [])) w ∧
    (outcome (toMap (wrap (tag :: tags) v)) w = outcome (toMap v) w ↔ w.Unmapped v) := by
  have inside := w.unwrap_wrap (tag :: tags) v
  have emptied := outcome_toMap_optional (w := w) tag (wrap tags v)
  refine ⟨⟨?_, ?_, outcome_toTemplateText_wrap _ v, ?_, ?_, ?_⟩, emptied, ?_⟩
  · rw [toBoolean, toBoolean, outcome_get_bind, outcome_get_bind, inside]
  · rw [toNumber, toNumber, outcome_get_bind, outcome_get_bind, inside]
  · rw [toCollection, toCollection, outcome_get_bind, outcome_get_bind, inside]
  · rw [toDate, toDate, outcome_get_bind, outcome_get_bind, inside]
  · rw [toInstant, toInstant, outcome_get_bind, outcome_get_bind, inside]
  · rw [wrap, emptied, eq_comm]
    exact toMap_eq_alloc_iff

end TemplateEngine
