import TemplateEngine.Proofs.Optionals
import TemplateEngine.Proofs.Magnitude
/-!
When resolution fails: for numbers beyond the floating-point ones, for elements and texts that cannot
be had, for keys that a mapping cannot look up, and for failures of attributes and accessors that
cannot be logged, since the value they are about cannot be displayed. There are no other causes.
-/
namespace TemplateEngine

variable {w w' : World} {target content p v : Value} {name : String} {f : Fault}

/-- A number is greater than floating-point numbers get. -/
inductive World.TooLarge (w : World) (p : Value) : Fault → Prop
  | int {n : Int} (base : w.base p = .int n) (large : 2 ^ 1024 - 2 ^ 970 ≤ n.natAbs) :
    TooLarge w p .intTooLarge
  | fraction {q : Ratio} (base : w.base p = .fraction q) (large : overflowsFloat q.num q.den = true) :
    TooLarge w p .ratioTooLarge

/-- The failure of an attribute of a value is to be logged, but the value cannot be displayed. -/
inductive Unread (v : Value) (name : String) (w : World) (f : Fault) : World → Prop
  | intro {g : Fault} {w' : World} (failed : outcome (getAttribute v name) w = (.error g, w'))
    (present : g.isAttributeError = false) (shown : w'.display v = .error f) :
    Unread v name w f w'

/-- The failure of an accessor is to be logged, but the value cannot be displayed. -/
inductive Uncalled (v : Value) (name : String) (w : World) (f : Fault) : World → Prop
  | read {w' : World} (unread : Unread v name w f w') : Uncalled v name w f w'
  | call {m : Value} {g : Fault} {w₁ w' : World} (given : m ≠ .null)
    (read : outcome (readForTemplate v name) w = (.ok (some m), w₁))
    (failed : outcome (call m []) w₁ = (.error g, w')) (shown : w'.display v = .error f) :
    Uncalled v name w f w'

/-- An attribute is a field that templates may read. -/
structure World.OpenField (w : World) (v : Value) (name : String) : Prop where
  given : v ≠ .null
  named : name ≠ ""
  counted : (w.isArray v && name == "length") = false
  unhidden : isPrivate name = false
  present : w.hasField v name = true
  exposed : Classes.publicOwner? w.classes (w.ownerClass v) name ≠ none

/-- A routine is the accessor of a name, and templates may call it. -/
structure World.OpenAccessor (w : World) (v : Value) (name n : String) : Prop where
  given : v ≠ .null
  found : ∃ owner, findAccessor? w.classes (w.ownerClass v) name = some (n, owner)
  exposed : Classes.publicOwner? w.classes (w.ownerClass v) n ≠ none

/-- A mapping cannot be asked for a key. Scopes can be asked for any, and a key of a wrong type is only
not there. -/
structure World.Refuses (w : World) (v key : Value) (f : Fault) : Prop where
  unscoped : ∀ scope, w.baseCell? v ≠ some (.bindings scope)
  failed : outcome (lookUpEntry ((w.mapping? v).getD []) key) w = (.error f, w)
  other : f.kindName ≠ "TypeError"

/-- A value has neither an entry nor an enumeration member of a name. -/
structure World.Lacks (w : World) (v key : Value) (name : String) : Prop where
  entry : w.isMapping v = true → outcome (getEntry v key) w = (.ok .null, w)
  member : outcome (getEnumValue v name) w = (.ok .null, w)

/-- What makes the resolution of a name fail. -/
inductive NameFails (v key : Value) (name : String) (w : World) (f : Fault) : World → Prop
  | key (mapping : w.isMapping v = true) (refused : w.Refuses v key f) : NameFails v key name w f w
  | field {w' : World} (lacks : w.Lacks v key name) (exposed : w.OpenField v name)
    (unread : Unread v name w f w') : NameFails v key name w f w'
  | accessor {n : String} {w₁ w' : World} (lacks : w.Lacks v key name)
    (nothing : outcome (getField v name) w = (.ok .null, w₁)) (exposed : w₁.OpenAccessor v name n)
    (uncalled : Uncalled v n w₁ f w') : NameFails v key name w f w'

/-- A layer has no element at an index, and is asked for a name next. -/
structure Named (p content layer : Value) (name : String) (w w' : World) : Prop where
  given : layer ≠ .null
  nonempty : name ≠ ""
  text : ∃ w₁, outcome (indexTarget layer content p) w = (.ok .null, w₁) ∧
    outcome (templateText? p) w₁ = (.ok (some name), w')

/-- What makes the resolution of a property fail, on layers around a content. -/
inductive Fails (p content : Value) : List Value → World → Fault → World → Prop
  | number {layer : Value} {inner : List Value} {w : World} {f : Fault} (given : layer ≠ .null)
    (large : w.TooLarge p f) : Fails p content (layer :: inner) w f w
  | element {layer : Value} {inner : List Value} {index : Int} {w w' : World} {f : Fault}
    (given : layer ≠ .null) (number : outcome (asIndex p) w = (.ok (some index), w))
    (refused : outcome (elementOfTarget layer content index) w = (.error f, w')) :
    Fails p content (layer :: inner) w f w'
  | text {layer : Value} {inner : List Value} {w w₁ w' : World} {f : Fault} (given : layer ≠ .null)
    (nothing : outcome (indexTarget layer content p) w = (.ok .null, w₁))
    (refused : outcome (templateText? p) w₁ = (.error f, w')) :
    Fails p content (layer :: inner) w f w'
  | inner {layer : Value} {inner : List Value} {name : String} {w w₁ w' : World} {f : Fault}
    (named : Named p content layer name w w₁) (below : Fails p content inner w₁ f w') :
    Fails p content (layer :: inner) w f w'
  | name {layer : Value} {name : String} {w w₁ w' : World} {f : Fault}
    (named : Named p content layer name w w₁) (fails : NameFails layer p name w₁ f w') :
    Fails p content [layer] w f w'

theorem bind_ok_iff {α β : Type} {x : M α} {k : α → M β} {b : β} :
    outcome (x >>= k) w = (.ok b, w') ↔
      ∃ a w₁, outcome x w = (.ok a, w₁) ∧ outcome (k a) w₁ = (.ok b, w') := by
  rw [outcome_bind]
  rcases outcome x w with ⟨f | a, w₁⟩ <;> simp

theorem bind_error_iff {α β : Type} {x : M α} {k : α → M β} :
    outcome (x >>= k) w = (.error f, w') ↔
      outcome x w = (.error f, w') ∨
        ∃ a w₁, outcome x w = (.ok a, w₁) ∧ outcome (k a) w₁ = (.error f, w') := by
  rw [outcome_bind]
  rcases outcome x w with ⟨g | a, w₁⟩ <;> simp

/-- What is tried next fails after nothing was found, or what was tried first does. -/
theorem orElse_error_iff {x next : M Value} :
    outcome (do orElse (← x) next) w = (.error f, w') ↔
      outcome x w = (.error f, w') ∨
        ∃ w₁, outcome x w = (.ok .null, w₁) ∧ outcome next w₁ = (.error f, w') := by
  rw [bind_error_iff]
  refine or_congr_right ⟨?_, fun ⟨w₁, hnull, hnext⟩ =>
    ⟨.null, w₁, hnull, by simpa [orElse] using hnext⟩⟩
  rintro ⟨found, w₁, hfound, hnext⟩
  by_cases hnull : found = .null
  · subst hnull
    exact ⟨w₁, hfound, by simpa [orElse] using hnext⟩
  · simp [orElse, hnull] at hnext

/-- A line about a value cannot be logged if the value cannot be displayed. -/
theorem log_error_iff {α : Type} {start : String} {cause : Option String} {a : α} :
    outcome (do
        report .warning (start ++ (← displayed v)) cause
        return a) w = (.error f, w') ↔ w.display v = .error f ∧ w' = w := by
  simp only [displayed, outcome_bind, outcome_get, outcome_liftResult]
  cases w.display v <;> simp [eq_comm]

theorem asIndex_error_iff :
    outcome (asIndex p) w = (.error f, w') ↔ w.TooLarge p f ∧ w' = w := by
  constructor
  · intro h
    simp only [asIndex, outcome_get_bind] at h
    split at h
    · rename_i n hbase
      split at h
      · rename_i hlarge
        obtain ⟨hf, rfl⟩ := Prod.mk.inj h
        obtain rfl := Except.error.inj hf
        exact ⟨.int hbase (overflowsFloat_int_iff.mp hlarge), rfl⟩
      · simp at h
    · simp at h
    · split at h <;> simp at h
    · rename_i q hbase
      split at h
      · rename_i hlarge
        obtain ⟨hf, rfl⟩ := Prod.mk.inj h
        obtain rfl := Except.error.inj hf
        exact ⟨.fraction hbase hlarge, rfl⟩
      · simp at h
    · simp at h
  · rintro ⟨h, rfl⟩
    cases h with
    | int hbase hlarge => simp [asIndex, hbase, overflowsFloat_int_iff.mpr hlarge]
    | fraction hbase hlarge => simp [asIndex, hbase, hlarge]

theorem readForTemplate_error_iff :
    outcome (readForTemplate v name) w = (.error f, w') ↔ Unread v name w f w' := by
  rw [readForTemplate, outcome_bind, outcome_attempt]
  constructor
  · intro h
    rcases hread : outcome (getAttribute v name) w with ⟨g | found, w₁⟩
    · rw [hread] at h
      dsimp only at h
      split at h
      · simp at h
      · rename_i hg
        obtain ⟨hshown, rfl⟩ := log_error_iff.mp h
        exact ⟨hread, by simpa using hg, hshown⟩
    · simp [hread] at h
  · rintro ⟨hread, hg, hshown⟩
    rw [hread]
    dsimp only
    rw [if_neg (by simp [hg])]
    exact log_error_iff.mpr ⟨hshown, rfl⟩

theorem callNamed_error_iff :
    outcome (callNamed v name) w = (.error f, w') ↔ Uncalled v name w f w' := by
  rw [callNamed, bind_error_iff, readForTemplate_error_iff]
  constructor
  · rintro (hread | ⟨found, w₁, hread, h⟩)
    · exact .read hread
    · split at h
      · simp at h
      · simp at h
      · rename_i m hm
        rw [outcome_bind, outcome_attempt] at h
        rcases hcall : outcome (call m []) w₁ with ⟨g | x, w₂⟩ <;> rw [hcall] at h
        · obtain ⟨hshown, rfl⟩ := log_error_iff.mp h
          exact .call (fun hnull => hm (by rw [hnull])) hread hcall hshown
        · simp at h
  · rintro (hread | ⟨hm, hread, hcall, hshown⟩)
    · exact .inl hread
    · refine .inr ⟨_, _, hread, ?_⟩
      split
      · simp_all
      · simp_all
      · rename_i m' _ hm'
        obtain rfl := Option.some.inj hm'
        rw [outcome_bind, outcome_attempt, hcall]
        exact log_error_iff.mpr ⟨hshown, rfl⟩

theorem getField_of_open (h : w.OpenField v name) :
    outcome (getField v name) w = outcome (do return (← readForTemplate v name).getD .null) w := by
  have hasked : (decide (v = .null) || name.isEmpty) = false := by simp [h.given, h.named]
  have hexposed : (Classes.publicOwner? w.classes (w.ownerClass v) name).isNone = false := by
    simpa [Option.isSome_iff_ne_none] using h.exposed
  simp only [getField, outcome_get_bind, hasked, h.counted, h.unhidden, h.present, hexposed,
    Bool.not_true, Bool.false_eq_true, if_false]

theorem open_of_getField_error (h : outcome (getField v name) w = (.error f, w')) :
    w.OpenField v name := by
  simp only [getField, outcome_get_bind] at h
  split at h
  · simp at h
  · split at h
    · simp at h
    · split at h
      · simp at h
      · split at h
        · simp at h
        · split at h
          · simp at h
          · rename_i hgiven hcounted hhidden hpresent hexposed
            constructor <;> simp_all

theorem getField_error_iff :
    outcome (getField v name) w = (.error f, w') ↔ w.OpenField v name ∧ Unread v name w f w' := by
  have hread : outcome (do return (← readForTemplate v name).getD .null) w = (.error f, w') ↔
      Unread v name w f w' := by
    rw [bind_error_iff, readForTemplate_error_iff]
    simp
  constructor
  · intro h
    have hopen := open_of_getField_error h
    exact ⟨hopen, hread.mp ((getField_of_open hopen).symm.trans h)⟩
  · rintro ⟨hopen, hunread⟩
    exact (getField_of_open hopen).trans (hread.mpr hunread)

theorem invokeAccessor_error_iff :
    outcome (invokeAccessor v name) w = (.error f, w') ↔
      ∃ n, w.OpenAccessor v name n ∧ Uncalled v n w f w' := by
  constructor
  · intro h
    simp only [invokeAccessor, outcome_get_bind] at h
    split at h
    · simp at h
    · rename_i hgiven
      split at h
      · simp at h
      · rename_i n owner hfound
        split at h
        · simp at h
        · rename_i hexposed
          refine ⟨n, ⟨?_, ⟨owner, hfound⟩, ?_⟩, callNamed_error_iff.mp h⟩
          · simp_all
          · simp_all
  · rintro ⟨n, ⟨hgiven, ⟨owner, hfound⟩, hexposed⟩, huncalled⟩
    have hname : name ≠ "" := fun h => by simp [h, findAccessor?] at hfound
    have hasked : (decide (v = .null) || name.isEmpty) = false := by simp [hgiven, hname]
    have hexposed' : (Classes.publicOwner? w.classes (w.ownerClass v) n).isNone = false := by
      simpa [Option.isSome_iff_ne_none] using hexposed
    simp only [invokeAccessor, outcome_get_bind, hasked, hfound, hexposed', Bool.false_eq_true,
      if_false]
    exact callNamed_error_iff.mpr huncalled

/-- Looking under a key is no change. -/
theorem still_getEntry (key : Value) : Still w (getEntry v key) := by
  refine still_get_bind ?_
  split
  · split <;> rfl
  · refine .bind rfl fun r => ?_
    cases r with
    | ok found => rfl
    | error g =>
      dsimp only
      split <;> rfl

theorem getEnumValue_ok (name : String) : ∃ x, outcome (getEnumValue v name) w = (.ok x, w) := by
  simp only [getEnumValue, outcome_get_bind]
  split
  · exact ⟨_, rfl⟩
  · rename_i c _
    have hstill : (outcome (memberNamed c name) w).2 = w := by
      simp only [memberNamed, outcome_get_bind]
      split <;> rfl
    split
    · exact ⟨_, rfl⟩
    · rw [outcome_bind, outcome_attempt, hstill]
      dsimp only
      split <;> exact ⟨_, rfl⟩

theorem getEntry_error_iff {key : Value} :
    outcome (getEntry v key) w = (.error f, w') ↔ w.Refuses v key f ∧ w' = w := by
  have hlook : ∀ entries, outcome (lookUpEntry entries key) w =
      ((outcome (lookUpEntry entries key) w).1, w) := fun _ => rfl
  constructor
  · intro h
    simp only [getEntry, outcome_get_bind] at h
    split at h
    · split at h <;> simp at h
    · rename_i hunscoped
      rw [outcome_bind, outcome_attempt, hlook] at h
      cases hr : (outcome (lookUpEntry ((w.mapping? v).getD []) key) w).1 with
      | ok found => simp [hr] at h
      | error g =>
        rw [hr] at h
        dsimp only at h
        split at h
        · simp at h
        · rename_i hother
          obtain ⟨hf, rfl⟩ := Prod.mk.inj h
          obtain rfl := Except.error.inj hf
          exact ⟨⟨hunscoped, by rw [hlook, hr], hother⟩, rfl⟩
  · rintro ⟨⟨hunscoped, hfailed, hother⟩, rfl⟩
    simp only [getEntry, outcome_get_bind]
    rw [outcome_bind, outcome_attempt, hfailed]
    dsimp only
    rw [if_neg hother]
    rfl

theorem entry_error_iff {key : Value} :
    outcome (if w.isMapping v then getEntry v key else pure .null) w = (.error f, w') ↔
      w.isMapping v = true ∧ w.Refuses v key f ∧ w' = w := by
  by_cases hmapping : w.isMapping v = true
  · rw [if_pos hmapping, getEntry_error_iff]
    simp [hmapping]
  · simp [hmapping]

theorem entry_null_iff {key : Value} :
    outcome (if w.isMapping v then getEntry v key else pure .null) w = (.ok .null, w') ↔
      (w.isMapping v = true → outcome (getEntry v key) w = (.ok .null, w)) ∧ w' = w := by
  have hstill := still_getEntry (w := w) (v := v) key
  by_cases hmapping : w.isMapping v = true
  · rw [if_pos hmapping]
    refine ⟨fun h => ?_, fun ⟨h, hw⟩ => hw ▸ h hmapping⟩
    rw [Still, h] at hstill
    exact ⟨fun _ => hstill ▸ h, hstill⟩
  · simp [hmapping, eq_comm]

theorem resolveName_error_iff {key : Value} :
    outcome (resolveName v key name) w = (.error f, w') ↔ NameFails v key name w f w' := by
  obtain ⟨x, hmember⟩ := getEnumValue_ok (w := w) (v := v) name
  simp only [outcome_resolveName, orElse_error_iff, entry_error_iff, entry_null_iff,
    getField_error_iff, invokeAccessor_error_iff]
  constructor
  · rintro (⟨hmapping, hrefused, rfl⟩ | ⟨w₁, ⟨hentry, rfl⟩, hnone | ⟨w₂, hnone, h⟩⟩)
    · exact .key hmapping hrefused
    · simp [hmember] at hnone
    · obtain rfl : w₁ = w₂ := (Prod.mk.inj (hmember.symm.trans hnone)).2
      rcases h with ⟨hopen, hunread⟩ | ⟨w₃, hnothing, n, hopen, huncalled⟩
      · exact .field ⟨hentry, hnone⟩ hopen hunread
      · exact .accessor ⟨hentry, hnone⟩ hnothing hopen huncalled
  · rintro (⟨hmapping, hrefused⟩ | ⟨⟨hentry, hnone⟩, hopen, hunread⟩ |
      ⟨⟨hentry, hnone⟩, hnothing, hopen, huncalled⟩)
    · exact .inl ⟨hmapping, hrefused, rfl⟩
    · exact .inr ⟨w, ⟨hentry, rfl⟩, .inr ⟨w, hnone, .inl ⟨hopen, hunread⟩⟩⟩
    · exact .inr ⟨w, ⟨hentry, rfl⟩, .inr ⟨w, hnone, .inr ⟨_, hnothing, _, hopen, huncalled⟩⟩⟩

theorem indexTarget_error_iff {layer : Value} :
    outcome (indexTarget layer content p) w = (.error f, w') ↔
      w.TooLarge p f ∧ w' = w ∨ ∃ index, outcome (asIndex p) w = (.ok (some index), w) ∧
        outcome (elementOfTarget layer content index) w = (.error f, w') := by
  rw [indexTarget, bind_error_iff, asIndex_error_iff]
  refine or_congr_right ⟨?_, ?_⟩
  · rintro ⟨index, w₁, hindex, h⟩
    obtain rfl : w₁ = w := by
      have hstill := still_asIndex (w := w) p
      rwa [Still, hindex] at hstill
    cases index with
    | none => simp at h
    | some index => exact ⟨index, hindex, h⟩
  · rintro ⟨index, hindex, h⟩
    exact ⟨some index, w, hindex, h⟩

theorem withName_error_iff {next : String → M Value} :
    outcome (withName p next) w = (.error f, w') ↔
      outcome (templateText? p) w = (.error f, w') ∨
        ∃ name w₁, name ≠ "" ∧ outcome (templateText? p) w = (.ok (some name), w₁) ∧
          outcome (next name) w₁ = (.error f, w') := by
  rw [outcome_withName]
  rcases outcome (templateText? p) w with ⟨g | _ | name, w₁⟩
  · simp
  · simp
  · by_cases hname : name = "" <;> simp [hname]

theorem Named.ne_null {layer : Value} (h : Named p content layer name w w') : p ≠ .null := by
  rintro rfl
  obtain ⟨w₁, -, htext⟩ := h.text
  rw [outcome_templateText?_null] at htext
  exact h.nonempty (by simpa [eq_comm] using (Prod.mk.inj htext).1)

theorem Fails.given {layers : List Value} (h : Fails p content layers w f w') :
    p ≠ .null ∧ ∃ layer inner, layers = layer :: inner ∧ layer ≠ .null := by
  cases h with
  | number given large =>
    exact ⟨by rintro rfl; cases large <;> simp_all [World.base], _, _, rfl, given⟩
  | element given number refused =>
    exact ⟨by rintro rfl; simp [asIndex, World.base] at number, _, _, rfl, given⟩
  | text given nothing refused =>
    exact ⟨by rintro rfl; simp [outcome_templateText?_null] at refused, _, _, rfl, given⟩
  | inner named below => exact ⟨named.ne_null, _, _, rfl, named.given⟩
  | name named fails => exact ⟨named.ne_null, _, _, rfl, named.given⟩

/-- Resolution through layers fails exactly if one of the causes does it. -/
theorem resolveThrough_error_iff {layers : List Value} :
    outcome (resolveThrough p content layers) w = (.error f, w') ↔
      Fails p content layers w f w' := by
  induction layers generalizing w with
  | nil =>
    refine ⟨fun h => by simp [resolveThrough] at h, fun h => ?_⟩
    obtain ⟨-, layer, inner, hlayers, -⟩ := h.given
    simp at hlayers
  | cons layer inner ih =>
    by_cases hgiven : layer = .null ∨ p = .null
    · refine ⟨fun h => by simp [resolveThrough, hgiven] at h, fun h => ?_⟩
      obtain ⟨hp, _, _, hlayers, hlayer⟩ := h.given
      obtain ⟨rfl, rfl⟩ := List.cons.inj hlayers
      simp [hp, hlayer] at hgiven
    obtain ⟨hlayer, hp⟩ := not_or.mp hgiven
    have hsteps : outcome (resolveThrough p content (layer :: inner)) w =
        outcome (do orElse (← indexTarget layer content p) (withName p fun name =>
          if inner.isEmpty then resolveName layer p name
          else resolveThrough p content inner)) w := by
      simp [resolveThrough, hlayer, hp]
    rw [hsteps, orElse_error_iff, indexTarget_error_iff]
    simp only [withName_error_iff]
    constructor
    · rintro ((⟨hlarge, rfl⟩ | ⟨index, hindex, h⟩) |
        ⟨w₁, hnothing, htext | ⟨name, w₂, hname, htext, h⟩⟩)
      · exact .number hlayer hlarge
      · exact .element hlayer hindex h
      · exact .text hlayer hnothing htext
      · have hnamed : Named p content layer name w w₂ := ⟨hlayer, hname, w₁, hnothing, htext⟩
        cases inner with
        | nil => exact .name hnamed (resolveName_error_iff.mp h)
        | cons => exact .inner hnamed (ih.mp h)
    · intro h
      cases h with
      | number _ hlarge => exact .inl (.inl ⟨hlarge, rfl⟩)
      | element _ hindex h => exact .inl (.inr ⟨_, hindex, h⟩)
      | text _ hnothing htext => exact .inr ⟨_, hnothing, .inl htext⟩
      | inner hnamed hbelow =>
        obtain ⟨-, hname, w₁, hnothing, htext⟩ := hnamed
        obtain ⟨-, _, _, rfl, -⟩ := hbelow.given
        exact .inr ⟨w₁, hnothing, .inr ⟨_, _, hname, htext, ih.mpr hbelow⟩⟩
      | name hnamed hfails =>
        obtain ⟨-, hname, w₁, hnothing, htext⟩ := hnamed
        exact .inr ⟨w₁, hnothing, .inr ⟨_, _, hname, htext, resolveName_error_iff.mpr hfails⟩⟩

/-- A name is no index. -/
theorem named_text_iff {layer : Value} {s : String} :
    Named (.text s) content layer name w w' ↔ layer ≠ .null ∧ s ≠ "" ∧ name = s ∧ w' = w := by
  have hindex : outcome (indexTarget layer content (.text s)) w = (.ok .null, w) := by
    simp [indexTarget, asIndex, World.base]
  constructor
  · rintro ⟨hlayer, hname, w₁, hnothing, htext⟩
    obtain rfl : w = w₁ := (Prod.mk.inj (hindex.symm.trans hnothing)).2
    obtain ⟨hs, rfl⟩ := Prod.mk.inj ((outcome_templateText?_text s w).symm.trans htext)
    obtain rfl : s = name := by simpa using hs
    exact ⟨hlayer, hname, rfl, rfl⟩
  · rintro ⟨hlayer, hs, rfl, rfl⟩
    exact ⟨hlayer, hs, _, hindex, outcome_templateText?_text _ _⟩

theorem fails_text_iff {layer : Value} {inner : List Value} {s : String} :
    Fails (.text s) content (layer :: inner) w f w' ↔ layer ≠ .null ∧ s ≠ "" ∧
      if inner = [] then NameFails layer (.text s) s w f w'
      else Fails (.text s) content inner w f w' := by
  constructor
  · intro h
    cases h with
    | number _ large => cases large <;> simp_all [World.base]
    | element _ number => simp [asIndex, World.base] at number
    | text _ _ refused => simp [outcome_templateText?_text] at refused
    | inner named below =>
      obtain ⟨hlayer, hs, rfl, rfl⟩ := named_text_iff.mp named
      obtain ⟨-, _, _, rfl, -⟩ := below.given
      exact ⟨hlayer, hs, by simpa using below⟩
    | name named fails =>
      obtain ⟨hlayer, hs, rfl, rfl⟩ := named_text_iff.mp named
      exact ⟨hlayer, hs, by simpa using fails⟩
  · rintro ⟨hlayer, hs, h⟩
    have hnamed : Named (.text s) content layer s w w := named_text_iff.mpr ⟨hlayer, hs, rfl, rfl⟩
    split at h
    · rename_i hinner
      exact hinner ▸ .name hnamed h
    · exact .inner hnamed h

theorem NameFails.given {key : Value} (h : NameFails v key name w f w') : v ≠ .null := by
  cases h with
  | key mapping =>
    rintro rfl
    simp [World.isMapping, World.mapping?, World.baseCell?, World.base] at mapping
  | field _ exposed => exact exposed.given
  | accessor _ _ exposed => exact exposed.given

theorem fails_single_iff {s : String} :
    Fails (.text s) content [v] w f w' ↔ s ≠ "" ∧ NameFails v (.text s) s w f w' := by
  rw [fails_text_iff, if_pos rfl]
  exact ⟨And.right, fun h => ⟨h.2.given, h⟩⟩

/-- Whatever a value is within, a name fails for the value if it fails at all. -/
theorem fails_layers_iff {s : String} {fuel : Nat} :
    Fails (.text s) content (w.layersWithin fuel v) w f w' ↔
      s ≠ "" ∧ NameFails ((w.layersWithin fuel v).getLastD v) (.text s) s w f w' := by
  induction fuel generalizing v with
  | zero => exact fails_single_iff
  | succ fuel ih =>
    rw [World.layersWithin]
    cases hcontent : w.content? v with
    | none => exact fails_single_iff
    | some inside =>
      have hv : v ≠ .null := by rintro rfl; simp [World.content?, World.base] at hcontent
      obtain ⟨first, rest, hlayers⟩ :=
        List.exists_cons_of_ne_nil (w.layersWithin_ne_nil fuel inside)
      have hlast : (v :: w.layersWithin fuel inside).getLastD v =
          (w.layersWithin fuel inside).getLastD inside := by
        rw [hlayers]
        simp [List.getLastD]
      simp only [fails_text_iff, w.layersWithin_ne_nil fuel inside, if_false, hlast, ih]
      exact ⟨fun h => h.2.2, fun h => ⟨hv, h.1, h⟩⟩

/-- A number that is too great raises on every target. -/
theorem resolveProperty_of_tooLarge (hv : v ≠ .null) (h : w.TooLarge p f) :
    outcome (resolveProperty v p) w = (.error f, w) := by
  obtain ⟨rest, hrest⟩ := w.head_layers v
  rw [resolveProperty, outcome_get_bind, resolveThrough_error_iff, hrest]
  exact .number hv h

end TemplateEngine
