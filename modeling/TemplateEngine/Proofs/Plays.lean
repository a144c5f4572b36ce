import TemplateEngine.Proofs.Bodies
/-!
What bodies write that only write and call, and how they end: they are done, a call in them or below
them is refused, or calls are nested too deep. A rendering writes and ends so on every stage whose
world has grown from the one that this is known of.
-/
namespace TemplateEngine

/-- A value that is no unit is called: the kind of its failure, and what the message shows of it. -/
structure World.Rejects (w : World) (m : ObjectModel) (target : Value → Prop) (kind : CallFailureKind)
    (shown : String) (v : Value) : Prop where
  called : target v
  other : ∀ u, v ≠ .unit u
  held : w.Holds v
  kind : CallFailureKind.ofTarget m w v = kind
  spoken : w.Spoken m v shown

/-- How a body ends: it is done; a call of one of some targets was refused, in it or in a body that it
called; or calls are nested too deep. -/
inductive Ending
  | finished
  | refused (kind : CallFailureKind) (shown : String) (target : Value → Prop)
  | tooDeep

/-- Whether a result is that of an ending. The failure of a refused call has the target. -/
def Ending.Allows (m : ObjectModel) (w : World) : Ending → Except Fault Unit → Prop
  | .finished, result => result = .ok ()
  | .refused kind shown target, result =>
    ∃ v, w.Rejects m target kind shown v ∧ result = .error (rejection m w v shown)
  | .tooDeep, result => result = .error .nestedTooDeep

section
variable {m : ObjectModel} {w w' : World} {target : Value → Prop} {kind : CallFailureKind}
  {shown : String} {v : Value}

theorem World.Rejects.later (rejects : w.Rejects m target kind shown v) (grown : w.Grows w') :
    w'.Rejects m target kind shown v where
  called := rejects.called
  other := rejects.other
  held := grown.holds rejects.held
  kind := (CallFailureKind.ofTarget_later grown rejects.held).trans rejects.kind
  spoken := rejects.spoken.later grown

/-- A value whose text form exists is rejected, unless it is a text whose class runs code for it. -/
theorem World.rejects_of_unscripted (whole : w.Whole) (held : w.Holds v) (called : target v)
    (other : ∀ u, v ≠ .unit u) (native : (w.text? v).isSome → w.Unscripted v)
    (made : (outcome (shownTarget m v) w).1 = .ok shown) :
    w.Rejects m target (CallFailureKind.ofTarget m w v) shown v :=
  ⟨called, other, held, rfl, spoken_of_unscripted whole held native made⟩

theorem Ending.Allows.fails {ending : Ending} {result : Except Fault Unit}
    (allowed : ending.Allows m w result) (cut : ending ≠ .finished) : ∃ f, result = .error f := by
  cases ending with
  | finished => exact absurd rfl cut
  | refused => obtain ⟨v, -, failed⟩ := allowed; exact ⟨_, failed⟩
  | tooDeep => exact ⟨_, allowed⟩

theorem rejection_later (grown : w.Grows w') (held : w.Holds v) :
    rejection m w' v shown = rejection m w v shown := by
  rw [rejection, rejection, CallFailureKind.ofTarget_later grown held]

end

namespace Render

/-- What the body of a unit does if it only writes and calls: the texts that it writes, those of the
bodies that it calls among them, and how it ends. Calls may be nested to a depth. -/
inductive Plays (c : Context) (p : Program) (w : World) (globals : List (Name Value × Value)) :
    Nat → Setting → Body → List String → Ending → Prop
  | done {n : Nat} {E : Setting} : Plays c p w globals n E [] [] .finished
  | text {n : Nat} {E : Setting} {s : String} {rest : Body} {pieces : List String} {ending : Ending}
      (later : Plays c p w globals n E rest pieces ending) :
      Plays c p w globals n E (.text s :: rest) (s :: pieces) ending
  | write {n : Nat} {E : Setting} {e : Expr} {s : String} {rest : Body} {pieces : List String}
      {ending : Ending} (printed : E.Reads w (eval c · e) fun v w' => w'.Holds v ∧ w'.Lasts v s)
      (later : Plays c p w globals n E rest pieces ending) :
      Plays c p w globals n E (.write e :: rest) (s :: pieces) ending
  | called {n : Nat} {E E' : Setting} {template : Expr} {given : Option Expr} {u : UnitId}
      {rest : Body} {played pieces : List String} {ending : Ending}
      (asked : E.Reads w (eval c · template) fun v _ => v = .unit u)
      (supplied : E.Reads w (evalGiven c · given) fun v w' => w'.Holds v ∧ w'.Supplies globals u E' v)
      (inner : Plays c p w globals n E' (p.getD u []) played .finished)
      (later : Plays c p w globals (n + 1) E rest pieces ending) :
      Plays c p w globals (n + 1) E (.call template given :: rest) (played ++ pieces) ending
  | broken {n : Nat} {E E' : Setting} {template : Expr} {given : Option Expr} {u : UnitId}
      {rest : Body} {played : List String} {ending : Ending}
      (asked : E.Reads w (eval c · template) fun v _ => v = .unit u)
      (supplied : E.Reads w (evalGiven c · given) fun v w' => w'.Holds v ∧ w'.Supplies globals u E' v)
      (inner : Plays c p w globals n E' (p.getD u []) played ending) (cut : ending ≠ .finished) :
      Plays c p w globals (n + 1) E (.call template given :: rest) played ending
  | deep {E E' : Setting} {template : Expr} {given : Option Expr} {u : UnitId} {rest : Body}
      (asked : E.Reads w (eval c · template) fun v _ => v = .unit u)
      (supplied : E.Reads w (evalGiven c · given) fun v w' =>
        w'.Holds v ∧ w'.Supplies globals u E' v) :
      Plays c p w globals 0 E (.call template given :: rest) [] .tooDeep
  | refused {n : Nat} {E : Setting} {template : Expr} {given : Option Expr} {rest : Body}
      {kind : CallFailureKind} {shown : String} {target : Value → Prop}
      (asked : E.Reads w (eval c · template) fun v w' => w'.Rejects c.model target kind shown v)
      (supplied : E.Reads w (evalGiven c · given) fun _ _ => True) :
      Plays c p w globals n E (.call template given :: rest) [] (.refused kind shown target)

/-- What the rendering of a unit with arguments does. -/
inductive Performs (c : Context) (p : Program) (w : World) (globals : List (Name Value × Value)) :
    Nat → UnitId → Value → List String → Ending → Prop
  | unit {n : Nat} {u : UnitId} {arguments : Value} {named : List (Name Value × Value)} {count : Nat}
      {pieces : List String} {ending : Ending} (held : w.Holds arguments)
      (given : w.starts? arguments = some named)
      (counted : ∀ w', w.Grows w' → outcome (argumentCount arguments) w' = (.ok count, w'))
      (plays : Plays c p w globals n
        (.ofUnit w.forest globals u (Scope.ofEntries named).get?) (p.getD u []) pieces ending) :
      Performs c p w globals (n + 1) u arguments pieces ending

variable {c : Context} {p : Program} {w : World} {globals named : List (Name Value × Value)}
  {s s' : Stage} {f : Frame} {E E' : Setting} {u : UnitId} {n : Nat}

/-- A call evaluates its target, and then its arguments. -/
theorem staged_call {template : Expr} {given : Option Expr} {P Q : Value → World → Prop}
    (asked : E.Reads w (eval c · template) P) (supplied : E.Reads w (evalGiven c · given) Q)
    (grown : w.Grows s.world) (whole : s.world.Whole) (fits : E.Fits f s.world) :
    ∃ v a w₁ s', P v w₁ ∧ Q a s'.world ∧ w₁.Grows s'.world ∧ s.Writes "" s' ∧
      ∀ call rest, staged (performAll c call f (.call template given :: rest)) s =
        staged (call v a >>= fun _ => performAll c call f rest) s' := by
  obtain ⟨v, s₁, run₁, quiet₁, called⟩ := asked s f grown whole fits
  obtain ⟨a, s₂, run₂, quiet₂, passed⟩ :=
    supplied s₁ f (grown.trans quiet₁.world) quiet₁.whole (E.later fits quiet₁.world)
  refine ⟨v, a, s₁.world, s₂, called, passed, quiet₂.world, by simpa using quiet₁.trans quiet₂,
    fun call rest => ?_⟩
  have steps : performAll c call f (.call template given :: rest) = (do
      let v ← eval c f template
      let a ← evalGiven c f given
      call v a
      performAll c call f rest) := by
    cases given <;> simp [performAll, perform, evalGiven]
  rw [steps, staged_bind_ok run₁, staged_bind_ok run₂]

theorem grows_newWorld (w : World) (globals named : List (Name Value × Value)) (u : UnitId) :
    w.Grows (newWorld w globals named u) :=
  (World.Grows.withCell w _).trans (.withCell _ _)

/-- The scopes of a body refer to no missing cell. -/
theorem whole_newWorld (whole : w.Whole) (lasting : w.Holds c.globals)
    (shared : w.starts? c.globals = some globals) {arguments : Value} (held : w.Holds arguments)
    (given : w.starts? arguments = some named) (u : UnitId) :
    (newWorld w globals named u).Whole := by
  have outer := within_overlaid whole (whole.open_of_within lasting) shared u
  have kept := World.Kept.withCell whole outer
  have inner : w.Holds (Scope.ofEntries named) :=
    Scope.within_ofEntries (whole.starts? (whole.open_of_within held) given)
  exact (World.Kept.withCell kept.sealed_ (World.within_bindings.mpr (kept.within inner))).sealed_

/-- A unit is rendered with the map of its arguments. -/
theorem staged_callUnit_unit {a : Value} (whole : s.world.Whole) (held : s.world.Holds a)
    (supplies : s.world.Supplies globals u E a) :
    ∃ map s' named count, s.Writes "" s' ∧ s'.world.Holds map ∧
      s'.world.starts? map = some named ∧
      (∀ w, s'.world.Grows w → outcome (argumentCount map) w = (.ok count, w)) ∧
      E.Fits (newFrame s'.world u) (newWorld s'.world globals named u) ∧
      ∀ render, staged (callUnit c render (.unit u) a) s = staged (render u map) s' := by
  obtain ⟨map, w, entries, named, called, grown, read, room, given, fits⟩ := supplies
  have passed := spares_callArguments (Or.inr held) whole
  rw [called] at passed
  have whole' : w.Whole := passed.1.sealed_
  have mapped : w.Holds map := (within_ok map).mp passed.2
  have counted (w' : World) (more : w.Grows w') :
      outcome (argumentCount map) w' = (.ok entries.length, w') :=
    outcome_argumentCount ((more.mapping? whole' mapped).trans read) room
  obtain ⟨events, logged⟩ := staged_log c .debug "call_unit"
    [("unit", .text (w.qualifiedName (w.classOf (.unit u)))), ("arguments", .int entries.length)]
    { s with world := w }
  refine ⟨map, { s with world := w, events := events }, named, entries.length,
    .silent grown whole' events, mapped, given, counted, fits, fun render => ?_⟩
  rw [callUnit, staged_bind_ok (staged_onWorld_ok called),
    staged_bind_ok (staged_onWorld_ok (counted w (.refl w))),
    staged_bind_ok (staged_onWorld_ok (outcome_unitName w u)), staged_bind_ok logged]

/-- The body of a unit runs in a new frame. -/
theorem staged_renderWithin_succ {arguments : Value} {count : Nat} (whole : s.world.Whole)
    (lasting : s.world.Holds c.globals) (shared : s.world.starts? c.globals = some globals)
    (held : s.world.Holds arguments) (given : s.world.starts? arguments = some named)
    (counted : ∀ w, s.world.Grows w → outcome (argumentCount arguments) w = (.ok count, w)) :
    ∃ s', s'.world = newWorld s.world globals named u ∧ s.Writes "" s' ∧
      staged (renderWithin c p (n + 1) u arguments) s =
        staged (performAll c (callUnit c (renderWithin c p n)) (newFrame s.world u) (p.getD u []))
          s' := by
  obtain ⟨events, run⟩ := staged_renderUnit_new whole held shared given counted u
  refine ⟨_, rfl, .silent (grows_newWorld s.world globals named u)
    (whole_newWorld whole lasting shared held given u) events, ?_⟩
  rw [renderWithin, run]

/-- A call that supplies a unit runs its body in a frame that fits. -/
theorem staged_callUnit_supplied {a : Value} (whole : s.world.Whole)
    (lasting : s.world.Holds c.globals) (shared : s.world.starts? c.globals = some globals)
    (held : s.world.Holds a) (supplies : s.world.Supplies globals u E a) :
    ∃ f s', E.Fits f s'.world ∧ s.Writes "" s' ∧
      staged (callUnit c (renderWithin c p (n + 1)) (.unit u) a) s =
        staged (performAll c (callUnit c (renderWithin c p n)) f (p.getD u [])) s' := by
  obtain ⟨map, s₁, named, count, quiet, mapped, given, counted, fits, called⟩ :=
    staged_callUnit_unit whole held supplies
  obtain ⟨s₂, made, quiet', run⟩ := staged_renderWithin_succ quiet.whole
    (quiet.world.holds lasting) ((quiet.world.starts? whole lasting).trans shared) mapped given counted
  exact ⟨_, s₂, made ▸ fits, by simpa using quiet.trans quiet', (called _).trans run⟩

/-- A call of a unit runs the body of the unit in a frame that fits, and then goes on. -/
theorem staged_called {template : Expr} {given : Option Expr} (lasting : w.Holds c.globals)
    (whole : w.Whole) (shared : w.starts? c.globals = some globals)
    (asked : E.Reads w (eval c · template) fun v _ => v = .unit u)
    (supplied : E.Reads w (evalGiven c · given) fun v w' => w'.Holds v ∧ w'.Supplies globals u E' v)
    (grown : w.Grows s.world) (whole' : s.world.Whole) (fits : E.Fits f s.world) (rest : Body) :
    ∃ f' s', E'.Fits f' s'.world ∧ s.Writes "" s' ∧
      staged (performAll c (callUnit c (renderWithin c p (n + 1))) f
          (.call template given :: rest)) s =
        staged (performAll c (callUnit c (renderWithin c p n)) f' (p.getD u []) >>= fun _ =>
          performAll c (callUnit c (renderWithin c p (n + 1))) f rest) s' := by
  obtain ⟨_, a, w₁, s₁, rfl, ⟨held, supplies⟩, -, quiet, run⟩ :=
    staged_call asked supplied grown whole' fits
  have grown₁ := grown.trans quiet.world
  obtain ⟨f', s₂, fits', quiet', body⟩ := staged_callUnit_supplied (p := p) (n := n) quiet.whole
    (grown₁.holds lasting) ((grown₁.starts? whole lasting).trans shared) held supplies
  refine ⟨f', s₂, fits', by simpa using quiet.trans quiet', ?_⟩
  rw [run, staged_bind, body, ← staged_bind]

/-- A value whose text lasts is written as that text. -/
theorem staged_write {e : Expr} {text : String}
    (printed : E.Reads w (eval c · e) fun v w' => w'.Holds v ∧ w'.Lasts v text)
    (grown : w.Grows s.world) (whole : s.world.Whole) (fits : E.Fits f s.world)
    (call : Value → Value → Render Unit) :
    ∃ s', staged (perform c call f (.write e)) s = (.ok (), s') ∧ s.Writes text s' := by
  obtain ⟨v, s₁, run, quiet, held, lasts⟩ := printed s f grown whole fits
  obtain ⟨t, w₂, made, grown₂, texted⟩ := lasts s₁.world (.refl _)
  have whole₂ : w₂.Whole := by
    have spared := (spares_toTemplateText held quiet.whole).1
    rw [made] at spared
    exact spared.sealed_
  let s₂ : Stage := { s₁ with world := w₂, output := s₁.output ++ text }
  have second : s₁.Writes text s₂ := ⟨grown₂, whole₂, rfl, rfl⟩
  refine ⟨s₂, ?_, by simpa using quiet.trans second⟩
  rw [perform, staged_bind_ok run]
  refine staged_bind_ok (staged_onWorld_ok (w := w₂) ?_)
  rw [outcome_bind_ok made, outcome_get_bind, texted]
  rfl

/-- A call of a value that is rejected is the end of a body. -/
theorem staged_refused {template : Expr} {given : Option Expr} {kind : CallFailureKind}
    {shown : String} {target : Value → Prop} {render : UnitId → Value → Render Unit}
    (asked : E.Reads w (eval c · template) fun v w' => w'.Rejects c.model target kind shown v)
    (supplied : E.Reads w (evalGiven c · given) fun _ _ => True) (grown : w.Grows s.world)
    (whole : s.world.Whole) (fits : E.Fits f s.world) (rest : Body) :
    ∃ v s', staged (performAll c (callUnit c render) f (.call template given :: rest)) s =
        (.error (rejection c.model s'.world v shown), s') ∧
      s.Writes "" s' ∧ s'.world.Rejects c.model target kind shown v := by
  obtain ⟨v, a, w₁, s₁, rejects, -, more, quiet, run⟩ := staged_call asked supplied grown whole fits
  replace rejects := rejects.later more
  obtain ⟨w', spoken, grown', whole'⟩ := rejects.spoken s₁.world (.refl _) quiet.whole
  obtain ⟨events, failed⟩ := staged_callUnit_refused render rejects.other spoken a
  have silent : s₁.Writes "" { s₁ with world := w', events := events } :=
    .silent grown' whole' events
  refine ⟨v, _, ?_, by simpa using quiet.trans silent, rejects.later grown'⟩
  rw [run, staged_bind, failed, rejection_later grown' rejects.held]

/-- A body does what it plays, on every stage whose world has grown from the one it plays in. -/
theorem Plays.staged_performAll {body : Body} {pieces : List String} {ending : Ending}
    (lasting : w.Holds c.globals) (whole : w.Whole) (shared : w.starts? c.globals = some globals)
    (plays : Plays c p w globals n E body pieces ending) :
    ∀ {s f}, w.Grows s.world → s.world.Whole → E.Fits f s.world →
      ∃ r s', staged (performAll c (callUnit c (renderWithin c p n)) f body) s = (r, s') ∧
        s.Writes (String.join pieces) s' ∧ ending.Allows c.model s'.world r := by
  -- The induction is on what is played: a callee comes before what follows its call.
  induction plays with
  | done => exact fun _ whole' _ => ⟨.ok (), _, rfl, .refl whole', rfl⟩
  | @text n E text rest pieces ending _ ih =>
    intro s f grown whole' fits
    let s₁ : Stage := { s with output := s.output ++ text }
    have first : s.Writes text s₁ := ⟨.refl _, whole', rfl, rfl⟩
    obtain ⟨r, s', run, more, allowed⟩ := ih (s := s₁) grown whole' fits
    exact ⟨r, s', run, by simpa using first.trans more, allowed⟩
  | @write n E e text rest pieces ending printed _ ih =>
    intro s f grown whole' fits
    obtain ⟨s₁, wrote, first⟩ :=
      staged_write printed grown whole' fits (callUnit c (renderWithin c p n))
    obtain ⟨r, s', run, more, allowed⟩ :=
      ih (grown.trans first.world) first.whole (E.later fits first.world)
    refine ⟨r, s', ?_, by simpa using first.trans more, allowed⟩
    rw [performAll, staged_bind_ok wrote, run]
  | @called n E E' template given u rest played pieces ending asked supplied _ _ ih ih' =>
    intro s f grown whole' fits
    obtain ⟨f', s₁, fits', quiet, run⟩ :=
      staged_called lasting whole shared asked supplied grown whole' fits rest
    obtain ⟨_, s₂, inner, wrote, rfl⟩ := ih (grown.trans quiet.world) quiet.whole fits'
    have first : s.Writes (String.join played) s₂ := by simpa using quiet.trans wrote
    obtain ⟨r, s', last, more, allowed⟩ :=
      ih' (grown.trans first.world) first.whole (E.later fits first.world)
    refine ⟨r, s', ?_, by simpa using first.trans more, allowed⟩
    rw [run, staged_bind_ok inner, last]
  | @broken n E E' template given u rest played ending asked supplied _ cut ih =>
    intro s f grown whole' fits
    obtain ⟨f', s₁, fits', quiet, run⟩ :=
      staged_called lasting whole shared asked supplied grown whole' fits rest
    obtain ⟨r, s₂, inner, wrote, allowed⟩ := ih (grown.trans quiet.world) quiet.whole fits'
    obtain ⟨failure, rfl⟩ := allowed.fails cut
    refine ⟨_, s₂, ?_, by simpa using quiet.trans wrote, allowed⟩
    rw [run, staged_bind, inner]
  | @deep E E' template given u rest asked supplied =>
    intro s f grown whole' fits
    obtain ⟨v, a, w₁, s₁, rfl, ⟨held, supplies⟩, -, quiet, run⟩ :=
      staged_call asked supplied grown whole' fits
    obtain ⟨map, s₂, -, -, quiet', -, -, -, -, called⟩ :=
      staged_callUnit_unit quiet.whole held supplies
    refine ⟨.error .nestedTooDeep, s₂, ?_, by simpa using quiet.trans quiet', rfl⟩
    rw [run, staged_bind, called]
    rfl
  | @refused n E template given rest kind shown target asked supplied =>
    intro s f grown whole' fits
    obtain ⟨v, s', run, quiet, rejects⟩ := staged_refused asked supplied grown whole' fits rest
    exact ⟨_, s', run, by simpa using quiet, v, rejects, rfl⟩

/-- So is it with the rendering of a unit. -/
theorem Performs.staged_renderWithin {arguments : Value} {pieces : List String} {ending : Ending}
    (lasting : w.Holds c.globals) (whole : w.Whole) (shared : w.starts? c.globals = some globals)
    (performs : Performs c p w globals n u arguments pieces ending) (grown : w.Grows s.world)
    (whole' : s.world.Whole) :
    ∃ r s', staged (renderWithin c p n u arguments) s = (r, s') ∧
      s.Writes (String.join pieces) s' ∧ ending.Allows c.model s'.world r := by
  cases performs with
  | @unit n _ _ named count _ _ held given counted plays =>
    have shared' := (grown.starts? whole lasting).trans shared
    obtain ⟨s₁, made, first, body⟩ := staged_renderWithin_succ (p := p) (n := n) (u := u) whole'
      (grown.holds lasting) shared' (grown.holds held) ((grown.starts? whole held).trans given)
      fun w' more => counted w' (grown.trans more)
    have fits : (Setting.ofUnit s.world.forest globals u (Scope.ofEntries named).get?).Fits
        (newFrame s.world u) (newWorld s.world globals named u) := World.fits_newFrame fun _ => rfl
    rw [grown.forest, ← made] at fits
    obtain ⟨r, s', inner, wrote, allowed⟩ := plays.staged_performAll lasting whole shared
      (grown.trans first.world) first.whole fits
    exact ⟨r, s', body.trans inner, by simpa using first.trans wrote, allowed⟩

end Render

end TemplateEngine
