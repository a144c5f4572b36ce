import TemplateEngine.Proofs.Scripts
/-!
Renderings that a refused call breaks off. Bodies that only write and call have written what came before
the call, in the order in which it was executed; whatever was there is as it was, and so every later
rendering is.
-/
namespace TemplateEngine

namespace Render

variable {c : Context} {w : World} {globals : List (Name Value × Value)} {s s' : Stage}

/-- What is left after a failure that follows some text: whatever was there, so that a later rendering
ends, and writes, as it would have done without the failed one. -/
structure Clean (c : Context) (globals : List (Name Value × Value)) (s : Stage) (text : String)
    (s' : Stage) : Prop where
  output : s'.output = s.output ++ text
  trace : s'.trace = s.trace
  units : s'.world.forest = s.world.forest
  shared : s'.world.starts? c.globals = some globals
  mappings : ∀ v, s.world.Holds v → s'.world.mapping? v = s.world.mapping? v
  cells : ∀ i cell, s.world.cell? i = some cell → s'.world.cell? i = some cell
  later : ∀ (p : Program) (n : Nat) (u : UnitId) (arguments : Value) (pieces : List String)
    (ending : Ending), Performs c p s.world globals n u arguments pieces ending →
    ∃ r s₁ r' s₂, staged (renderWithin c p n u arguments) s = (r, s₁) ∧
      staged (renderWithin c p n u arguments) s' = (r', s₂) ∧
      ending.Allows c.model s₁.world r ∧ ending.Allows c.model s₂.world r' ∧
      s₁.output = s.output ++ String.join pieces ∧ s₂.output = s'.output ++ String.join pieces

theorem clean_of_writes {text : String} (lasting : s.world.Holds c.globals) (whole : s.world.Whole)
    (shared : s.world.starts? c.globals = some globals) (wrote : s.Writes text s') :
    Clean c globals s text s' where
  output := wrote.output
  trace := wrote.trace
  units := wrote.world.forest
  shared := (wrote.world.starts? whole lasting).trans shared
  mappings _ held := wrote.world.mapping? whole held
  cells := wrote.world.cells
  later p n u arguments pieces ending later := by
    obtain ⟨r, s₁, run₁, wrote₁, allowed₁⟩ :=
      later.staged_renderWithin lasting whole shared (.refl _) whole
    obtain ⟨r', s₂, run₂, wrote₂, allowed₂⟩ :=
      later.staged_renderWithin lasting whole shared wrote.world wrote.whole
    exact ⟨r, s₁, r', s₂, run₁, run₂, allowed₁, allowed₂, wrote₁.output, wrote₂.output⟩

theorem errorName_inj (k k' : CallFailureKind) : k.errorName = k'.errorName ↔ k = k' := by
  cases k <;> cases k' <;> decide

/-- The message of a refused call is made without attaching units. -/
theorem forest_of_shownTarget {v : Value} {shown : String} {w' : World} (whole : w.Whole)
    (held : w.Holds v) (formed : outcome (shownTarget c.model v) w = (.ok shown, w')) :
    w'.forest = w.forest := by
  have kept := (spares_callFailure c.model held whole).1
  rw [outcome_callFailure, formed] at kept
  exact kept.forest

/-- A value that is no unit and whose text form exists is refused with the kind of failure that is its
own, and the failure has the value. Where this breaks off a rendering, at any depth, exactly what was
written before the call is on the stage, and all that was there is as it was. What is written and how it
ends is told by their scripts for all programs with values written down in them. -/
theorem refused_calls_abort {c : Context} {s : Stage} {globals : List (Name Value × Value)}
    (whole : s.world.Whole) (lasting : s.world.Holds c.globals)
    (shared : s.world.starts? c.globals = some globals) :
    (∀ (render : UnitId → Value → Render Unit) (v arguments : Value) (shown : String) (w' : World),
      (∀ u, v ≠ .unit u) → outcome (shownTarget c.model v) s.world = (.ok shown, w') →
      ∃ kind s', staged (callUnit c render v arguments) s =
          (.error (.templateCall kind ⟨v, kind.message shown⟩), s') ∧
        s'.world = w' ∧ s'.output = s.output ∧ s'.trace = s.trace ∧
        (s.world.Holds v → s'.world.forest = s.world.forest) ∧
        (s.world.Spoken c.model v shown → Clean c globals s "" s') ∧
        (c.model ≠ .strict →
          (kind.errorName = "NullTemplateError" ↔ v = .null) ∧
          (kind.errorName = "PrimitiveTemplateError" ↔
            (∃ b, v = .bool b) ∨ (∃ n, v = .int n) ∨ (∃ x, v = .float x) ∨
              ∃ re im, v = .complex re im) ∧
          (kind.errorName = "StringTemplateError" ↔ (s.world.text? v).isSome) ∧
          (kind.errorName = "NotATemplateError" ↔
            v.isPrimitive = false ∧ s.world.text? v = none)) ∧
        (c.model = .strict → (s.world.text? v).isSome → kind = .primitive)) ∧
    (∀ (p : Program) (n : Nat) (u : UnitId) (arguments : Value) (pieces : List String)
      (kind : CallFailureKind) (shown : String) (target : Value → Prop),
      Performs c p s.world globals n u arguments pieces (.refused kind shown target) →
      ∃ v s', staged (renderWithin c p n u arguments) s =
          (.error (.templateCall kind ⟨v, kind.message shown⟩), s') ∧
        target v ∧ (∀ u, v ≠ .unit u) ∧ CallFailureKind.ofTarget c.model s'.world v = kind ∧
        Clean c globals s (String.join pieces) s') ∧
    ∀ (p : Program) (n : Nat) (u : UnitId) (arguments : Value) (named : List (Name Value × Value))
      (count : Nat), p.Written c.model s.world → s.world.Holds arguments →
      s.world.starts? arguments = some named →
      (∀ w, s.world.Grows w → outcome (argumentCount arguments) w = (.ok count, w)) →
      Performs c p s.world globals (n + 1) u arguments
        (p.script c.model s.world (n + 1) u).pieces (p.script c.model s.world (n + 1) u).ending := by
  refine ⟨fun render v arguments shown w' other formed => ?_,
    fun p n u arguments pieces kind shown target performs => ?_,
    fun p n u arguments named count written held given counted =>
      .unit held given counted (plays_script whole written n _ u)⟩
  · obtain ⟨events, run⟩ := staged_callUnit_refused render other formed arguments
    refine ⟨CallFailureKind.ofTarget c.model s.world v, _, run, rfl, rfl, rfl,
      fun held => forest_of_shownTarget whole held formed, fun spoken => ?_, fun lenient => ?_,
      fun strict texted => strict ▸ CallFailureKind.ofTarget_strict texted⟩
    · obtain ⟨w'', formed', grown, whole'⟩ := spoken s.world (.refl _) whole
      obtain rfl : w' = w'' := congrArg Prod.snd (formed.symm.trans formed')
      exact clean_of_writes lasting whole shared (.silent grown whole' events)
    · obtain ⟨null, primitive, string, wrong⟩ :=
        CallFailureKind.ofTarget_iff (w := s.world) (v := v) lenient
      exact ⟨(errorName_inj _ .null).trans null,
        (errorName_inj _ .primitive).trans primitive,
        (errorName_inj _ .string).trans string,
        (errorName_inj _ .wrongType).trans wrong⟩
  · obtain ⟨r, s', run, wrote, v, rejects, rfl⟩ :=
      performs.staged_renderWithin lasting whole shared (.refl _) whole
    refine ⟨v, s', ?_, rejects.called, rejects.other, rejects.kind,
      clean_of_writes lasting whole shared wrote⟩
    rw [run, rejection, rejects.kind]

/-! ## A list whose item calls a truth value -/

/-- A unit `list` with a unit `item` in it. -/
def listed : Stage where
  world :=
    { cells := #[.tuple []]
      forest := [⟨none, [("item", 1)]⟩, ⟨some 0, []⟩] }
  output := ""
  trace := []
  events := []

def listProgram : Program :=
  #[[.text "<ul>",
      .call (.variable .scope (.known (.text "item")))
        (some (.map [.known (.text "of")] [.literal (.known (.bool true))])),
      .text "</ul>"],
    [.text "<li>", .call (.variable .arguments (.known (.text "OF"))) none, .text "</li>"]]

theorem whole_listed : listed.world.Whole where
  cells i c hc _ := by
    match i with
    | 0 =>
      obtain rfl := Option.some.inj hc
      exact fun v hv => by simp [listed, Cell.contents] at hv
    | i + 1 => simp [listed, World.cell?] at hc
  classes i info h := by simp [listed, World.class?] at h
  named e he := by simp [listed] at he
  inBounds i hi := hi.elim
  emptyTuple := ⟨by decide, id⟩

/-- The call of the truth value is the end of both bodies. -/
theorem listProgram_performs :
    Performs bareContext listProgram listed.world [] 2 0 .null ["<ul>", "<li>"]
      (.refused .primitive "true" (· = .bool true)) := by
  have rejects : listed.world.Rejects .standard (· = .bool true) .primitive "true" (.bool true) :=
    World.rejects_of_unscripted (v := .bool true) whole_listed trivial rfl (by simp)
      (fun _ => World.unscripted_of_standard rfl) (by rfl)
  have item : (listed.world.forest.overlaid [] 0).get? "item" = some (.unit 1) := by decide
  refine .unit trivial rfl (fun w _ => rfl) (.text ?_)
  refine .broken (Setting.reads_variable item) (Setting.supplies_map [("of", .bool true)]
    (.cons (Setting.reads_literal _) .nil) (by decide) (by decide) (by simp [Referring.Within])) ?_
    nofun
  refine .text (.refused ?_ ?_)
  · refine (Setting.reads_variable (v := .bool true) rfl).mono ?_
    rintro _ w' grown - rfl
    exact rejects.later grown
  · exact Setting.reads_none.mono fun _ _ _ _ _ => trivial

theorem refused_calls_abort_list :
    ∃ s', staged (renderWithin bareContext listProgram 2 0 .null) listed =
        (.error (.templateCall .primitive ⟨.bool true,
          "data-sly-call: primitive \"true\" does not represent a HTL template."⟩), s') ∧
      s'.output = "<ul><li>" ∧ Clean bareContext [] listed "<ul><li>" s' := by
  obtain ⟨v, s', run, rfl, -, -, clean⟩ :=
    (refused_calls_abort (c := bareContext) (s := listed) whole_listed trivial rfl).2.1
      listProgram 2 0 .null ["<ul>", "<li>"] .primitive "true" (· = .bool true) listProgram_performs
  exact ⟨s', run, clean.output, clean⟩

end Render

end TemplateEngine
