import TemplateEngine.Proofs.Confinement
import TemplateEngine.Proofs.UnitScope
/-!
Isolation of units: whatever bodies do to the variables that they are given, every body gets the
scope of its unit, and no call changes the global variables, the registries of units, or the
variables of a caller.
-/
namespace TemplateEngine

/-- Bodies that never let all variables together become a value. -/
def Program.Confined (p : Program) : Prop := ∀ u, Instruction.AllConfined (p.getD u [])

/-- Whether a cell is out of reach for what is called with some arguments: neither these nor the
global variables lead to it, nor do bodies, classes and named values. -/
def World.OutOfReach (w : World) (p : Program) (globals template passed : Value) (i : Nat) : Prop :=
  ∃ A : Set Nat, w.Closed A ∧ Within A p.recipes ∧ w.Yields A globals ∧ Within A template ∧
    (w.isMapping passed ∧ w.Yields A passed ∨ Within A passed) ∧ i ∉ A

/-- Arguments for a unit that is rendered: a value that leads to nothing outside of a set of cells, or
a mapping outside of it whose entries do not. -/
def World.Offers (w : World) (A : Set Nat) (v : Value) : Prop :=
  Within A v ∨
    (∃ entries, w.starts? v = some entries) ∧ w.Yields A v ∧ ∀ i, w.store? v = some i → i ∉ A

/-- The scope of a frame binds every name to what a unit sees: its own sub-unit, else the unit
beside it, else the last global variable. -/
def Frame.Sees (f : Frame) (forest : Forest) (entries : List (Name Value × Value)) (u : UnitId)
    (w : World) : Prop :=
  ∃ i s, f.scope = .ref i ∧ w.cell? i = some (.bindings s) ∧
    ∀ text, s.get? text = forest.seen? entries u (Text.foldCase text)

/-- What a call from a frame leaves as it was: the units, the global variables, and whatever the
callee is not led to. The variables of the frame are among that if bodies are confined. -/
structure Frame.Undisturbed (f : Frame) (c : Context) (p : Program) (forest : Forest)
    (entries : List (Name Value × Value)) (template passed : Value) (w w' : World) : Prop where
  forest : w'.forest = forest
  globals : w'.starts? c.globals = some entries
  maps : p.Confined → ∀ source, w'.baseCell? (f.source source) = w.baseCell? (f.source source)
  others : ∀ i cell, w.OutOfReach p c.globals template passed i → w.cell? i = some cell →
    w'.cell? i = some cell

theorem World.Closed.yields_of_within {w : World} {A : Set Nat} {v : Value} (hA : w.Closed A)
    (hv : Within A v) : w.Yields A v := by
  intro i c hi hc
  have hsealed := hA.sealed_ ∅ fun _ h => absurd h (Set.notMem_empty _)
  have hmem := hsealed.store_mem (Referring.mono (hA.subset_region ∅) hv) hi
  exact hA.cells i (Classical.not_not.mp fun h => hmem.2 ⟨hmem.1, h⟩) c hc

namespace Render

open Classical in
/-- A rendering that is followed by an alarm unless the worlds before and after it are as they must
be. -/
noncomputable def ensuring (alarm : Render Unit) (P : World → World → Prop) (x : Render Unit) :
    Render Unit :=
  ExceptT.mk fun s =>
    let (result, s') := x.run.run s
    if P s.world s'.world then (result, s') else alarm.run.run s'

/-- Renders a unit with an alarm that sounds if a body gets another scope than the one of its unit,
or if a call changes what it must leave. -/
noncomputable def watched (c : Context) (p : Program) (forest : Forest)
    (entries : List (Name Value × Value)) (alarm : Render Unit) :
    (fuel : Nat) → UnitId → Value → Render Unit
  | 0, _, _ => throw .nestedTooDeep
  | fuel + 1, u, arguments =>
    renderUnit c (fun f u => ensuring alarm (fun w _ => f.Sees forest entries u w)
      (performAll c (fun template passed =>
        ensuring alarm (f.Undisturbed c p forest entries template passed)
          (callUnit c (watched c p forest entries alarm fuel) template passed))
        f (p.getD u []))) u arguments

variable {V : Veil} {s : Stage}

theorem Agree.ensuring {x y : Render Unit} {alarm : Render Unit} {P : World → World → Prop}
    (h : Agree V s x y) (hP : s.world.Sealed V → P s.world (staged y s).2.world) :
    Agree V s (ensuring alarm P x) y := by
  classical
  intro hs
  obtain ⟨heq, hkept, hresult⟩ := h hs
  refine ⟨?_, hkept, hresult⟩
  have hx : staged (Render.ensuring alarm P x) s =
      if P s.world (staged x s).2.world then staged x s else staged alarm (staged x s).2 := rfl
  rw [hx, heq, if_pos (hP hs)]

/-- The units and the global variables are as they were, and the latter will stay. Bodies refer to
no hidden cell. -/
structure Settled (c : Context) (p : Program) (forest : Forest)
    (entries : List (Name Value × Value)) (V : Veil) (w : World) : Prop where
  forest : w.forest = forest
  globals : Lasting V w c.globals entries
  recipes : Within (V.region w) p.recipes

section

variable {c : Context} {p : Program} {forest : Forest} {entries : List (Name Value × Value)}
  {w w' : World} {V₁ V' : Veil} {P : Prop}

theorem Settled.kept (hs : Settled c p forest entries V w) (h : World.Kept V₁ w w')
    (hstays : V.frozen ⊆ V₁.frozen) (hfrozen : V.frozen ⊆ V'.frozen)
    (hburied : V'.buried ⊆ V.buried) (hregion : V.region w ⊆ V'.region w') :
    Settled c p forest entries V' w' :=
  ⟨h.forest.trans hs.forest, hs.globals.kept h hstays hfrozen hburied,
    Referring.mono hregion hs.recipes⟩

theorem Settled.later (hs : Settled c p forest entries V w) (h : World.Kept V w w') :
    Settled c p forest entries V w' :=
  hs.kept h (fun _ h => h) (fun _ h => h) (fun _ h => h) h.region_subset

theorem spares_className (v : Value) :
    Spares V w (do return (← get).qualifiedName ((← get).classOf v)) :=
  spares_get (spares_get (spares_pure trivial))

theorem agree_callUnit {render render' : UnitId → Value → Render Unit} {template passed : Value}
    (hrender : ∀ s' u map, World.Kept V s.world s'.world → Within (V.region s'.world) map →
      Agree V s' (render u map) (render' u map))
    (htemplate : Within (V.region s.world) template)
    (hpassed : s.world.isMapping passed ∧ s.world.Open V passed ∨
      Within (V.region s.world) passed) :
    Agree V s (callUnit c render template passed) (callUnit c render' template passed) := by
  unfold callUnit
  split
  · rename_i u
    refine (agree_onWorld (spares_callArguments hpassed)).bind fun s₁ map hs₁ hmap => ?_
    refine (agree_onWorld (spares_argumentCount map)).bind fun s₂ count hs₂ _ => ?_
    refine (agree_onWorld (spares_className _)).bind fun s₃ name hs₃ _ => ?_
    refine (agree_log c _ _ _).bind fun s₄ _ hs₄ _ => ?_
    have hkept := (hs₂.trans hs₃).trans hs₄
    exact hrender s₄ u map (hs₁.trans hkept) (hkept.within hmap)
  · refine (agree_onWorld (spares_callFailure c.model htemplate)).bind fun s₁ failure _ _ => ?_
    split
    · exact (agree_log c _ _ _).bind fun _ _ _ _ => agree_throw _
    · exact agree_throw _

theorem within_overlaid (hw : w.Sealed V) (hopen : w.Open V c.globals)
    (hstarts : w.starts? c.globals = some entries) (u : UnitId) :
    Within (V.region w) (Cell.bindings (w.forest.overlaid entries u)) := by
  have hunits : ∀ units : Table String UnitId, ∀ e ∈ Forest.named units,
      Within (V.region w) e.1.given ∧ Within (V.region w) e.2 := by
    intro units e he
    obtain ⟨⟨name, u⟩, -, rfl⟩ := List.mem_map.mp he
    exact ⟨trivial, trivial⟩
  have hglobals := Scope.within_ofEntries (hw.starts? hopen hstarts)
  have hbeside := Scope.within_insertAll hglobals (hunits ((w.forest.siblings? u).getD []))
  exact World.within_bindings.mpr (Scope.within_insertAll hbeside (hunits (w.forest.subs u)))

/-- A unit is rendered alike if its body is, given the scope of the unit and maps of its own. -/
theorem agree_renderUnit {runBody runBody' : Frame → UnitId → Render Unit} {u : UnitId}
    {passed : Value} (P : Prop) (hbuilt : forest.Built)
    (hs : Settled c p forest entries V s.world) (hpassed : Supplied V s.world passed)
    (hbody : ∀ V' s' f, Settled c p forest entries V' s'.world → Placed V' P s'.world f →
      f.Sees forest entries u s'.world → Agree V' s' (runBody f u) (runBody' f u)) :
    Agree V s (renderUnit c runBody u passed) (renderUnit c runBody' u passed) := by
  refine agree_onWorld_bind fun hsealed => ?_
  have hoverlaid := within_overlaid hsealed hs.globals.isOpen hs.globals.starts u
  have hkept := World.Kept.withCell hsealed hoverlaid
  rw [outcome_unitScope hs.globals.starts u]
  refine ⟨hkept, fun scope hok => ?_⟩
  obtain rfl : Value.ref s.world.cells.size = scope := Except.ok.inj hok
  have hcell := World.cell?_withCell_self s.world (.bindings (s.world.forest.overlaid entries u))
  -- Until the body runs, the scope is hidden and frozen: what the arguments are made of cannot
  -- reach it.
  let V₁ := (V.hide {s.world.cells.size}).freeze
  have hcovers : V₁.Covers V :=
    (Veil.covers_freeze _).trans (V.covers_hide _)
  have hfrozen : V.frozen ⊆ V₁.frozen := hcovers.frozen
  have hnew : s.world.cells.size ∉ V.hidden := fun hi =>
    Nat.lt_irrefl _ (hsealed.inBounds _ hi)
  have hold : s.world.cells.size ∉ V.frozen := fun hi => hnew (V.frozen_subset hi)
  have hsealed₁ := (hsealed.hide hoverlaid).freeze
  have hregion := World.region_subset_hide V s.world (.bindings (s.world.forest.overlaid entries u))
  have hpassed₁ : Supplied V₁ _ passed :=
    hpassed.kept hkept (fun _ h => h) hfrozen (fun _ h => h) hregion
  have hopen : World.Open V₁ _ (.ref s.world.cells.size) :=
    World.HoldsScope.isOpen (V := V) ⟨_, hcell⟩ hold
  refine (agree_onWorld ((Bindings.spares_scopeOf hopen).bind fun _ _ _ _ =>
    spares_pure trivial)).bind_covered hcovers hsealed₁ fun s₁ size hs₁ _ => ?_
  refine (agree_onWorld (spares_argumentCount passed)).bind_covered hcovers hs₁.sealed_
    fun s₂ count hs₂ _ => ?_
  refine (agree_onWorld (spares_className _)).bind_covered hcovers hs₂.sealed_
    fun s₃ name hs₃ _ => ?_
  refine (agree_log c _ _ _).bind_covered hcovers hs₃.sealed_ fun s₄ _ hs₄ _ => ?_
  have hkept₄ := ((hs₁.trans hs₂).trans hs₃).trans hs₄
  have hpassed₄ : Supplied V₁ s₄.world passed :=
    hpassed₁.kept hkept₄ (fun _ h => h) (fun _ h => h) (fun _ h => h) hkept₄.region_subset
  refine agree_onWorld_bind fun _ => ?_
  obtain ⟨hkept₅, hmade⟩ := Bindings.make_apart hkept₄.sealed_ hpassed₄
  refine ⟨hkept₅.reveal hcovers, fun arguments hok => ?_⟩
  obtain ⟨rfl, hscope₅, hsealed₅⟩ := hmade arguments hok
  have hwhole := hkept₄.trans hkept₅
  have hcell₅ := (hwhole.frozen s.world.cells.size (Or.inl rfl)).trans hcell
  -- From now on both maps are hidden only if bodies never make values of them.
  let own : Set Nat := {i | (i = s.world.cells.size ∨ i = s₄.world.cells.size) ∧ P}
  have hown : (V₁.hide {s₄.world.cells.size}).Covers (V.hide own) :=
    ⟨fun i hi => hi.elim (fun h => h.1.elim (fun h => Or.inr (Or.inl h)) Or.inl)
      fun h => Or.inr (Or.inr h), hfrozen, fun _ h => h⟩
  have hnew₄ : s₄.world.cells.size ∉ V.hidden := fun hi =>
    Nat.lt_irrefl _ (hkept₄.sealed_.inBounds _ (Or.inr hi))
  refine Agree.of_covers ?_ (V.covers_hide own) (hsealed₅.reveal hown)
  refine hbody _ _ _ ?_ (.of_fresh ⟨_, hcell₅⟩ hscope₅ hnew hnew₄ u) ?_
  · have hsize : s.world.cells.size < s₄.world.cells.size :=
      Nat.lt_of_lt_of_le (World.lt_size_of_cell? hcell) hkept₄.size
    refine hs.kept (hkept.trans (hwhole.reveal hcovers)) (fun _ h => h) (fun _ h => h)
      (fun _ h => h) fun i hi => ⟨?_, ?_⟩
    · exact Nat.lt_of_lt_of_le (Nat.lt_trans hi.1 hsize) hkept₅.size
    · rintro (⟨rfl | rfl, -⟩ | hhidden)
      · exact Nat.lt_irrefl _ hi.1
      · exact Nat.lt_asymm hi.1 hsize
      · exact hi.2 hhidden
  · refine ⟨_, _, rfl, hcell₅, fun text => ?_⟩
    rw [hs.forest, hbuilt.get?_overlaid]

theorem Own.baseCell? {v : Value} (hv : Own V P w v) (hP : P) (h : World.Kept V.freeze w w') :
    w'.baseCell? v = w.baseCell? v := by
  obtain ⟨i, rfl, ⟨scope, hscope⟩, -, hhidden⟩ := hv
  have hscope' := (h.frozen i (hhidden.mpr hP)).trans hscope
  rw [World.baseCell?_ref_of_bindings hscope, World.baseCell?_ref_of_bindings hscope']

theorem Passes.isOpen {f : Frame} {v : Value} (hv : Passes V w f v) (hw : w.Sealed V)
    (hf : Placed V P w f) : w.Open V v := by
  rcases hv with hwithin | ⟨source, rfl⟩
  · exact hw.open_of_within hwithin
  · exact (hf.source source).isOpen

/-- What is passed on may become the arguments of a call. -/
theorem Passes.fits {f : Frame} {v : Value} (hv : Passes V w f v) (hf : Placed V P w f) :
    w.isMapping v ∧ w.Open V v ∨ Within (V.region w) v := by
  rcases hv with hwithin | ⟨source, rfl⟩
  · exact Or.inr hwithin
  · exact Or.inl ⟨(hf.source source).isMapping, (hf.source source).isOpen⟩

theorem Settled.freeze (hs : Settled c p forest entries V w) :
    Settled c p forest entries V.freeze w :=
  ⟨hs.forest, ⟨hs.globals.starts, fun i hi => V.frozen_subset (hs.globals.frozen i hi),
    hs.globals.isOpen⟩, hs.recipes⟩

/-- Everything outside of a set of cells may be hidden, if what bodies are made of is within the set and
the global variables can still be looked at. -/
theorem Settled.outside (hsealed : w.Sealed V) (hs : Settled c p forest entries V w)
    {A opened : Set Nat} (hregion : A ∩ V.region w ⊆ (Veil.outside w (A ∩ V.region w) opened).region w)
    (hrecipes : Within A p.recipes) (hopened : ∀ i, w.store? c.globals = some i → i ∈ opened) :
    Settled c p forest entries (.outside w (A ∩ V.region w) opened) w := by
  have hstore : ∀ i, w.store? c.globals = some i → i ∈ V.hidden :=
    fun i hi => V.frozen_subset (hs.globals.frozen i hi)
  exact ⟨hs.forest, ⟨hs.globals.starts,
    fun i hi => ⟨hsealed.inBounds i (hstore i hi), fun h => h.2.2 (hstore i hi)⟩,
    fun i hi h => h.2 (hopened i hi)⟩, Referring.meet hregion hrecipes hs.recipes⟩

section

variable {render render' : UnitId → Value → Render Unit} {f : Frame} {template passed : Value}
  (ih : ∀ V s u passed, Settled c p forest entries V s.world → Supplied V s.world passed →
    Agree V s (render u passed) (render' u passed))
  (hs : Settled c p forest entries V s.world) (htemplate : Within (V.region s.world) template)

include ih hs htemplate

theorem agree_call (hpassed : s.world.isMapping passed ∧ s.world.Open V passed ∨
    Within (V.region s.world) passed) :
    Agree V s (callUnit c render template passed) (callUnit c render' template passed) :=
  agree_callUnit (fun s' u map hkept hmap => ih V s' u map (hs.later hkept) (Or.inr hmap))
    htemplate hpassed

variable (hf : Placed V P s.world f) (hpassed : Passes V s.world f passed)

include hf hpassed

/-- What a callee cannot reach may be hidden from it as well, and so it stays. -/
theorem cell?_callUnit (hsealed : s.world.Sealed V) {i : Nat} {cell : Cell}
    (hreach : s.world.OutOfReach p c.globals template passed i)
    (hcell : s.world.cell? i = some cell) :
    (staged (callUnit c render' template passed) s).2.world.cell? i = some cell := by
  obtain ⟨A, hA, hrecipes, hglobals, htemplateA, hpassedA, hout⟩ := hreach
  have hyields : s.world.Yields A passed := hpassedA.elim (·.2) hA.yields_of_within
  have hB := hA.inter hsealed.closed
  have hglobalsB := hglobals.inter (hsealed.yields hs.globals.isOpen)
  have hpassedB := hyields.inter (hsealed.yields (hpassed.isOpen hsealed hf))
  let opened : Set Nat :=
    {j | s.world.store? c.globals = some j ∨ s.world.store? passed = some j}
  have hsealed' := hB.sealed_ opened fun j hj d hd =>
    hj.elim (fun h => hglobalsB j d h hd) fun h => hpassedB j d h hd
  have hregion := hB.subset_region opened
  have hsettled := hs.outside hsealed hregion hrecipes fun j hj => Or.inl hj
  have hopen : s.world.Open (.outside s.world (A ∩ V.region s.world) opened) passed :=
    fun j hj h => h.2 (Or.inr hj)
  have hfits : s.world.isMapping passed ∧
        s.world.Open (.outside s.world (A ∩ V.region s.world) opened) passed ∨
      Within ((Veil.outside s.world (A ∩ V.region s.world) opened).region s.world) passed := by
    rcases hpassed, hpassedA with ⟨hwithin | ⟨source, rfl⟩, hmap | hwithinA⟩
    · exact Or.inl ⟨hmap.1, hopen⟩
    · exact Or.inr (Referring.meet hregion hwithinA hwithin)
    · exact Or.inl ⟨hmap.1, hopen⟩
    · exact Or.inl ⟨(hf.source source).isMapping, hopen⟩
  obtain ⟨-, hkept, -⟩ :=
    agree_call ih hsettled (Referring.meet hregion htemplateA htemplate) hfits hsealed'
  have hfrozen : i < s.world.cells.size ∧ i ∉ A ∩ V.region s.world :=
    ⟨World.lt_size_of_cell? hcell, fun h => hout h.1⟩
  exact (hkept.frozen i hfrozen).trans hcell

end

/-- A call from a body leaves everything as it must: whatever the callee may reach, the rest is not
among it. -/
theorem agree_watchedCall {render render' : UnitId → Value → Render Unit}
    (ih : ∀ V s u passed, Settled c p forest entries V s.world → Supplied V s.world passed →
      Agree V s (render u passed) (render' u passed))
    (alarm : Render Unit) {f : Frame} {template passed : Value}
    (hs : Settled c p forest entries V s.world) (hf : Placed V p.Confined s.world f)
    (htemplate : Within (V.region s.world) template) (hpassed : Passes V s.world f passed) :
    Agree V s
      (ensuring alarm (f.Undisturbed c p forest entries template passed)
        (callUnit c render template passed))
      (callUnit c render' template passed) := by
  refine Agree.of_sealed fun hsealed => ?_
  have hagree := agree_call ih hs.freeze htemplate (hpassed.fits hf)
  refine (hagree.of_covers V.covers_freeze hsealed.freeze).ensuring fun _ => ?_
  obtain ⟨-, hkept, -⟩ := hagree hsealed.freeze
  have hs' := hs.freeze.later hkept
  exact ⟨hs'.forest, hs'.globals.starts,
    fun hp source => (hf.source source).baseCell? hp hkept,
    fun i cell hreach hcell => cell?_callUnit ih hs htemplate hf hpassed hsealed hreach hcell⟩

/-- The alarm never sounds, however deep units call each other. -/
theorem agree_watched (hbuilt : forest.Built) (alarm : Render Unit) (fuel : Nat) :
    ∀ V s u passed, Settled c p forest entries V s.world → Supplied V s.world passed →
      Agree V s (watched c p forest entries alarm fuel u passed)
        (renderWithin c p fuel u passed) := by
  induction fuel with
  | zero => exact fun _ _ _ _ _ _ => agree_throw _
  | succ fuel ih =>
    intro V s u passed hs hpassed
    refine agree_renderUnit p.Confined hbuilt hs hpassed fun V' s' f hs' hf hsees => ?_
    refine Agree.ensuring ?_ fun _ => hsees
    refine agree_performAll c (fun s'' template arguments hkept htemplate harguments => ?_) hf _
      (Program.within_body hs'.recipes u) fun hp => hp u
    exact agree_watchedCall ih alarm (hs'.later hkept) (hf.kept hkept) htemplate harguments

end

/-- Rendering never sets off the alarm: every body gets the scope of its unit, which the registries
and the global variables alone determine, and calls leave the registries, the global variables and
the variables of the caller as they are. At the end, what nothing led to is what it was at the
beginning.

Values may run code of their own, which may change whatever it gets hold of: so what bodies can get
at, the cells of `A`, must not lead back to the global variables themselves. -/
theorem render_isolated {c : Context} {p : Program} {s : Stage}
    {entries : List (Name Value × Value)} {passed : Value} {A : Set Nat}
    (hbuilt : s.world.forest.Built) (hglobals : s.world.starts? c.globals = some entries)
    (hA : s.world.Closed A) (hrecipes : Within A p.recipes) (hyields : s.world.Yields A c.globals)
    (hprivate : ∀ i, s.world.store? c.globals = some i → i ∉ A) (hpassed : s.world.Offers A passed)
    (alarm : Render Unit) (fuel : Nat) (u : UnitId) :
    staged (watched c p s.world.forest entries alarm fuel u passed) s =
        staged (renderWithin c p fuel u passed) s ∧
      (staged (renderWithin c p fuel u passed) s).2.world.forest = s.world.forest ∧
      (staged (renderWithin c p fuel u passed) s).2.world.starts? c.globals = some entries ∧
      ∀ i cell, i ∉ A → s.world.cell? i = some cell →
        (staged (renderWithin c p fuel u passed) s).2.world.cell? i = some cell := by
  let opened : Set Nat := {i | s.world.store? c.globals = some i ∨ i ∉ A ∧ s.world.Yields A passed ∧
    s.world.store? passed = some i}
  have hsealed := hA.sealed_ opened fun i hi cell hcell =>
    hi.elim (fun h => hyields i cell h hcell) fun h => h.2.1 i cell h.2.2 hcell
  have hs : Settled c p s.world.forest entries (.outside s.world A opened) s.world :=
    ⟨rfl, ⟨hglobals, fun i hi => ⟨World.lt_size_of_starts? hglobals hi, hprivate i hi⟩,
      fun i hi h => h.2 (Or.inl hi)⟩, Referring.mono (hA.subset_region opened) hrecipes⟩
  have hsupplied : Supplied (.outside s.world A opened) s.world passed := by
    cases hpassed with
    | inl hwithin => exact Or.inr (Referring.mono (hA.subset_region opened) hwithin)
    | inr hmapping =>
      obtain ⟨⟨given, hgiven⟩, hyields', hstore⟩ := hmapping
      exact Or.inl ⟨given, hgiven,
        fun i hi => ⟨World.lt_size_of_starts? hgiven hi, hstore i hi⟩,
        fun i hi h => h.2 (Or.inr ⟨hstore i hi, hyields', hi⟩)⟩
  obtain ⟨heq, hkept, -⟩ := agree_watched hbuilt alarm fuel _ s u passed hs hsupplied hsealed
  refine ⟨heq, hkept.forest, (hs.later hkept).globals.starts, ?_⟩
  intro i cell hi hcell
  exact (hkept.frozen i ⟨World.lt_size_of_cell? hcell, hi⟩).trans hcell

/-- Two units: a page, and an item below it that hides a global variable. -/
def page : Stage where
  world :=
    { cells := #[.tuple [], .dict false [(.text "title", .text "Home"), (.text "ITEM", .int 1)]]
      forest := [⟨none, [("item", 1)]⟩, ⟨some 0, []⟩] }
  output := ""
  trace := []
  events := []

def pageContext : Context := ⟨.ref 1, .standard, [], true, 10⟩

def pageGlobals : List (Name Value × Value) :=
  [(⟨"title", .text "title"⟩, .text "Home"), (⟨"ITEM", .text "ITEM"⟩, .int 1)]

/-- The page hides and drops variables before it calls the item with its arguments; the item drops
one of them. -/
def pageBodies : Program :=
  #[[.set .scope (.known (.text "Item")) (.literal (.known .null)),
      .set .arguments (.known (.text "title")) (.whole .scope),
      .erase .scope (.known (.text "TITLE")), .call (.literal (.unit "item")) (some (.whole .arguments))],
    [.erase .arguments (.known (.text "Title"))]]

theorem built_page : page.world.forest.Built :=
  @Forest.Built.attached [⟨none, []⟩, ⟨none, []⟩] _ 0 1 (some "Item") (.added (.added .empty)) rfl

theorem closed_page : page.world.Closed {0} where
  cells i hi c hc := by
    obtain rfl : i = 0 := hi
    obtain rfl : Cell.tuple [] = c := Option.some.inj hc
    exact fun v hv => absurd hv List.not_mem_nil
  classes i info h := by simp [World.class?, page] at h
  named e he := by simp [page] at he
  inBounds i hi := by
    obtain rfl : i = 0 := hi
    decide
  emptyTuple := rfl

theorem render_isolated_page :
    page.world.forest.Built ∧ page.world.starts? pageContext.globals = some pageGlobals ∧
      page.world.forest.seen? pageGlobals 0 "item" = some (.unit 1) ∧
      staged (watched pageContext pageBodies page.world.forest pageGlobals (write "!") 9 0 .null)
          page = staged (renderWithin pageContext pageBodies 9 0 .null) page ∧
      (staged (renderWithin pageContext pageBodies 9 0 .null) page).2.world.cell? 1 =
        page.world.cell? 1 := by
  have hglobals : page.world.starts? pageContext.globals = some pageGlobals := rfl
  have hstore : ∀ i, page.world.store? pageContext.globals = some i → i = 1 :=
    fun i hi => (Option.some.inj hi).symm
  have hrecipes : Within {0} pageBodies.recipes := by
    simp [pageBodies, Program.recipes, Instruction.allRecipes, Instruction.recipes, Expr.recipes]
    trivial
  have hyields : page.world.Yields {0} pageContext.globals := by
    intro i c hi hc
    obtain rfl := hstore i hi
    obtain rfl : Cell.dict false [(.text "title", .text "Home"), (.text "ITEM", .int 1)] = c :=
      Option.some.inj hc
    simp [World.within_entries]
  have hpassed : page.world.Offers {0} .null := Or.inl trivial
  have hprivate : ∀ i, page.world.store? pageContext.globals = some i → i ∉ ({0} : Set Nat) := by
    intro i hi
    rw [hstore i hi]
    exact Nat.one_ne_zero
  obtain ⟨hwatched, -, -, hcells⟩ :=
    render_isolated built_page hglobals closed_page hrecipes hyields hprivate hpassed (write "!") 9 0
  exact ⟨built_page, hglobals, rfl, hwatched, hcells 1 _ Nat.one_ne_zero rfl⟩

end Render

end TemplateEngine
