import TemplateEngine.Proofs.Hiding
import TemplateEngine.Proofs.Spares.Calls
/-!
Renderings that do the same on a stage, and leave hidden cells alone. Two that are put together from
such parts in the same way do the same as well.
-/
namespace TemplateEngine

namespace Render

/-- What a rendering gives on a stage: its result, and the stage that it leaves. -/
def staged {α : Type} (x : Render α) (s : Stage) : Except Fault α × Stage := x.run.run s

section

variable {α β : Type} (s : Stage)

theorem staged_bind (x : Render α) (f : α → Render β) :
    staged (x >>= f) s =
      match staged x s with
      | (.ok a, s') => staged (f a) s'
      | (.error e, s') => (.error e, s') := by
  change (ExceptT.bind x f).run.run s = _
  simp only [ExceptT.bind, ExceptT.run, ExceptT.mk, staged]
  change (match (StateT.run x s) with | (r, s') => StateT.run (ExceptT.bindCont f r) s') = _
  rcases h : StateT.run x s with ⟨_ | _, s'⟩ <;> rfl

theorem staged_onWorld (x : M α) :
    staged (onWorld x) s =
      ((outcome x s.world).1, { s with world := (outcome x s.world).2 }) := (rfl)

end

/-- Two renderings do the same on a stage, and leave hidden cells alone. -/
def Agree {α : Type} [Referring α] (V : Veil) (s : Stage) (x y : Render α) : Prop :=
  s.world.Sealed V → staged x s = staged y s ∧
    World.Kept V s.world (staged y s).2.world ∧
    Within (V.region (staged y s).2.world) (staged y s).1

variable {α β : Type} [Referring α] [Referring β] {V : Veil} {s : Stage}

theorem Agree.of_sealed {x y : Render α} (h : s.world.Sealed V → Agree V s x y) : Agree V s x y :=
  fun hs => h hs hs

theorem agree_pure {a : α} (ha : Within (V.region s.world) a) : Agree V s (pure a) (pure a) :=
  fun hs => ⟨rfl, .refl hs, (within_ok a).mpr ha⟩

theorem agree_throw (f : Fault) : Agree V s (throw f : Render α) (throw f) :=
  fun hs => ⟨rfl, .refl hs, within_error f⟩

theorem Agree.bind {x y : Render α} {f g : α → Render β} (h : Agree V s x y)
    (hrest : ∀ s' a, World.Kept V s.world s'.world → Within (V.region s'.world) a →
      Agree V s' (f a) (g a)) : Agree V s (x >>= f) (y >>= g) := by
  intro hs
  obtain ⟨heq, hkept, hresult⟩ := h hs
  rw [staged_bind, staged_bind, heq]
  rcases houtcome : staged y s with ⟨e | a, s'⟩
  · rw [houtcome] at hkept
    exact ⟨rfl, hkept, within_error e⟩
  · rw [houtcome] at hkept hresult
    obtain ⟨heq', hkept', hresult'⟩ := hrest s' a hkept ((within_ok a).mp hresult) hkept.sealed_
    exact ⟨heq', hkept.trans hkept', hresult'⟩

/-- What follows a computation on the world may use what is known of its outcome. -/
theorem agree_onWorld_bind {γ : Type} {m : M γ} {f g : γ → Render β}
    (h : s.world.Sealed V → World.Kept V s.world (outcome m s.world).2 ∧
      ∀ a, (outcome m s.world).1 = .ok a →
        Agree V { s with world := (outcome m s.world).2 } (f a) (g a)) :
    Agree V s (onWorld m >>= f) (onWorld m >>= g) := by
  intro hs
  obtain ⟨hkept, hrest⟩ := h hs
  simp only [staged_bind, staged_onWorld]
  cases hresult : (outcome m s.world).1 with
  | error e => exact ⟨rfl, hkept, within_error e⟩
  | ok a =>
    obtain ⟨heq, hkept', hwithin⟩ := hrest a hresult hkept.sealed_
    exact ⟨heq, hkept.trans hkept', hwithin⟩

theorem agree_onWorld {m : M α} (h : Spares V s.world m) : Agree V s (onWorld m) (onWorld m) :=
  fun hs => ⟨rfl, h hs⟩

/-- What is written, noted or logged leaves the world alone. -/
theorem agree_modify {f : Stage → Stage} (hf : (f s).world = s.world) :
    Agree V s (modify f : Render Unit) (modify f) := by
  intro hs
  have hstaged : staged (modify f : Render Unit) s = (.ok (), f s) := rfl
  rw [hstaged, hf]
  exact ⟨rfl, .refl hs, (within_ok _).mpr trivial⟩

theorem agree_write (text : String) : Agree V s (write text) (write text) := agree_modify rfl

theorem agree_note (snapshot : Snapshot) : Agree V s (note snapshot) (note snapshot) :=
  agree_modify rfl

theorem agree_log (c : Context) (severity : Severity) (name : String)
    (fields : Table String Value) :
    Agree V s (log c severity name fields) (log c severity name fields) := by
  unfold log
  split
  · exact agree_pure trivial
  · exact agree_modify rfl

/-- A failure turned into a value. -/
theorem Agree.attempt {x y : Render α} (h : Agree V s x y) :
    Agree V s (ExceptT.mk (do return .ok (← x.run)) : Render (Except Fault α))
      (ExceptT.mk (do return .ok (← y.run))) := by
  intro hs
  obtain ⟨heq, hkept, hresult⟩ := h hs
  have hattempt : ∀ z : Render α, staged (ExceptT.mk (do return .ok (← z.run)) :
      Render (Except Fault α)) s = (.ok (staged z s).1, (staged z s).2) := fun _ => rfl
  rw [hattempt, hattempt, heq]
  exact ⟨rfl, hkept, (within_ok _).mpr hresult⟩

theorem agree_visit {body body' : Nat → Value → Render α} {items : Source}
    (hitems : Within (V.region s.world) items)
    (hbody : ∀ s' i x, World.Kept V s.world s'.world → Within (V.region s'.world) x →
      Agree V s' (body i x) (body' i x)) (left turn : Nat) :
    Agree V s (items.visit onWorld body left turn) (items.visit onWorld body' left turn) := by
  induction left generalizing s turn with
  | zero => exact agree_pure fun a ha => absurd ha List.not_mem_nil
  | succ left ih =>
    refine (agree_onWorld (spares_at? hitems turn)).bind fun s' x hs' hx => ?_
    cases x with
    | none => exact agree_pure fun a ha => absurd ha List.not_mem_nil
    | some x =>
      refine (hbody s' turn x hs' (hx x rfl)).bind fun s'' a hs'' ha => ?_
      have hrest := ih (hs''.within (hs'.within hitems))
        (fun s' i x h => hbody s' i x ((hs'.trans hs'').trans h)) (turn + 1)
      refine hrest.bind fun _ as hlast has => agree_pure ?_
      rw [within_cons]
      exact ⟨hlast.within ha, has⟩

/-- What agrees where more is hidden or frozen agrees. -/
theorem Agree.of_covers {V' : Veil} {x y : Render α} (h : Agree V' s x y) (hV : V'.Covers V)
    (hsealed : s.world.Sealed V') : Agree V s x y := by
  intro _
  obtain ⟨heq, hkept, hresult⟩ := h hsealed
  exact ⟨heq, hkept.reveal hV, Referring.mono (hV.region_subset _) hresult⟩

/-- What comes after something may use that more was hidden or frozen until then. -/
theorem Agree.bind_covered {V' : Veil} {x y : Render α} {f g : α → Render β}
    (h : Agree V' s x y) (hV : V'.Covers V) (hsealed : s.world.Sealed V')
    (hrest : ∀ s' a, World.Kept V' s.world s'.world → Within (V'.region s'.world) a →
      Agree V s' (f a) (g a)) : Agree V s (x >>= f) (y >>= g) := by
  intro _
  obtain ⟨heq, hkept, hresult⟩ := h hsealed
  rw [staged_bind, staged_bind, heq]
  rcases houtcome : staged y s with ⟨e | a, s'⟩
  · rw [houtcome] at hkept
    exact ⟨rfl, hkept.reveal hV, within_error e⟩
  · rw [houtcome] at hkept hresult
    have hkept' := hkept.reveal hV
    obtain ⟨heq', hlast, hresult'⟩ := hrest s' a hkept ((within_ok a).mp hresult) hkept'.sealed_
    exact ⟨heq', hkept'.trans hlast, hresult'⟩

end Render

end TemplateEngine
