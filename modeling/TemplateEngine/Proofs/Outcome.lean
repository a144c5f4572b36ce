import TemplateEngine.World
/-!
What a computation gives on a world: its result, and the world that it leaves. A failed computation
leaves what it changed before.
-/
namespace TemplateEngine

def outcome {α : Type} (x : M α) (w : World) : Except Fault α × World := x.run.run w

variable {α β : Type} (w : World)

@[simp] theorem outcome_pure (a : α) : outcome (pure a) w = (.ok a, w) := (rfl)

@[simp] theorem outcome_fail (f : Fault) : outcome (fail f : M α) w = (.error f, w) := (rfl)

@[simp] theorem outcome_get : outcome get w = (.ok w, w) := (rfl)

@[simp] theorem outcome_modify (f : World → World) : outcome (modify f) w = (.ok (), f w) := (rfl)

theorem outcome_bind (x : M α) (f : α → M β) :
    outcome (x >>= f) w =
      match outcome x w with
      | (.ok a, w') => outcome (f a) w'
      | (.error e, w') => (.error e, w') := by
  change (ExceptT.bind x f).run.run w = _
  simp only [ExceptT.bind, ExceptT.run, ExceptT.mk, outcome]
  change (match (StateT.run x w) with | (r, w') => StateT.run (ExceptT.bindCont f r) w') = _
  rcases h : StateT.run x w with ⟨_ | _, w'⟩ <;> rfl

variable {w}

theorem outcome_bind_ok {x : M α} {a : α} {w' : World} (h : outcome x w = (.ok a, w'))
    (f : α → M β) : outcome (x >>= f) w = outcome (f a) w' := by
  rw [outcome_bind, h]

theorem outcome_bind_error {x : M α} {e : Fault} {w' : World} (h : outcome x w = (.error e, w'))
    (f : α → M β) : outcome (x >>= f) w = (.error e, w') := by
  rw [outcome_bind, h]

variable (w)

@[simp] theorem outcome_get_bind (f : World → M β) : outcome (get >>= f) w = outcome (f w) w := (rfl)

@[simp] theorem outcome_pure_bind (a : α) (f : α → M β) :
    outcome (pure a >>= f) w = outcome (f a) w := (rfl)

@[simp] theorem outcome_fail_bind (e : Fault) (f : α → M β) :
    outcome (fail e >>= f) w = (.error e, w) := (rfl)

@[simp] theorem outcome_modify_bind (g : World → World) (f : Unit → M β) :
    outcome (modify g >>= f) w = outcome (f ()) (g w) := (rfl)

@[simp] theorem outcome_map (g : α → β) (x : M α) :
    outcome (g <$> x) w =
      match outcome x w with
      | (.ok a, w') => (.ok (g a), w')
      | (.error e, w') => (.error e, w') :=
  outcome_bind w x fun a => pure (g a)

@[simp] theorem outcome_liftResult (r : Except Fault α) : outcome (liftResult r) w = (r, w) := (rfl)

@[simp] theorem outcome_attempt (x : M α) :
    outcome (attempt x) w = (.ok (outcome x w).1, (outcome x w).2) := (rfl)

@[simp] theorem outcome_freshTag :
    outcome freshTag w = (.ok w.nextTag, { w with nextTag := w.nextTag + 1 }) := (rfl)

@[simp] theorem outcome_alloc (c : Cell) :
    outcome (alloc c) w = (.ok (.ref w.cells.size), { w with cells := w.cells.push c }) := (rfl)

@[simp] theorem outcome_setCell (i : Nat) (c : Cell) :
    outcome (setCell i c) w = (.ok (), { w with cells := w.cells.setIfInBounds i c }) := (rfl)

@[simp] theorem outcome_report (level : Severity) (text : String) (cause : Option String) :
    outcome (report level text cause) w =
      (.ok (), { w with log := w.log ++ [⟨level, text, cause⟩] }) := (rfl)

end TemplateEngine
