import TemplateEngine.Proofs.Growth
import TemplateEngine.Proofs.Ownership
import TemplateEngine.Proofs.Settled
import TemplateEngine.Proofs.Spares.Coercion
/-!
What is left of a refused attachment. A request with any value as its name is refused if the unit
belongs to another one or the name is no text. The units stay as they are, and later requests come out
as without it, unless the unit had no owner: then it belongs to the unit that it was to be put under,
without being registered there.
-/
namespace TemplateEngine

/-- A request to put a unit under another one, with any value as its name. -/
structure Request where
  owner : UnitId
  name : Value
  child : UnitId

def Request.run (r : Request) : M Unit := attachUnit r.owner r.name r.child

namespace World

/-- The world after requests were made one after the other, the refused ones among them. -/
def requested (w : World) : List Request → World
  | [] => w
  | r :: rest => (outcome r.run w).2.requested rest

/-- The world has the value: the cells that it refers to, and the enumeration that it is a member of. -/
def Has (w : World) (v : Value) : Prop :=
  w.Holds v ∧ ∀ e k, v = .member e k → ∃ info, w.class? e = some info

/-- The name of a request is no text, and the unit has no owner yet. -/
def Strands (w : World) (r : Request) : Prop :=
  w.text? r.name = none ∧ w.forest.owner? r.child = none

/-- A world that is still whole has the values of another one, and the same of them are texts. -/
structure Retains (w w' : World) : Prop where
  whole : w'.Whole
  has : ∀ v, w.Has v → w'.Has v
  text? : ∀ v, w.Has v → w'.text? v = w.text? v

namespace Retains

variable {w w' w'' : World}

theorem refl (whole : w.Whole) : w.Retains w := ⟨whole, fun _ has => has, fun _ _ => rfl⟩

theorem trans (first : w.Retains w') (second : w'.Retains w'') : w.Retains w'' where
  whole := second.whole
  has v has := second.has v (first.has v has)
  text? v has := (second.text? v (first.has v has)).trans (first.text? v has)

/-- Units play no part. -/
theorem withForest (whole : w.Whole) (f : Forest) : w.Retains { w with forest := f } where
  whole := ⟨whole.cells, whole.classes, whole.named, whole.inBounds, whole.emptyTuple⟩
  has _ has := has
  text? _ _ := rfl

theorem of_kept (kept : Kept .clear w w') : w.Retains w' where
  whole := kept.sealed_
  has v has := by
    refine ⟨kept.within has.1, fun e k member => ?_⟩
    obtain ⟨info, found⟩ := has.2 e k member
    obtain ⟨members, found⟩ := kept.classes e info found
    exact ⟨_, found⟩
  text? v has := by
    have based : w'.base v = w.base v := by
      refine kept.base (fun i named => ?_) has.2
      subst named
      exact ⟨_, Array.getElem?_eq_getElem has.1.1⟩
    simp only [World.text?, based]

end Retains

end World

/-- How a request comes out: the unit is registered; or it is not, for want of a name, and belongs to
the owner before or after; or it belongs to another one. -/
inductive Request.Outcome (r : Request) (w : World) : Except Fault Unit × World → Prop
  | registered {text : String} {f : Forest} (read : w.text? r.name = some text)
      (claimed : f = w.forest ∧ w.forest.owner? r.child = some r.owner ∨
        f = w.forest.claim r.child r.owner ∧ w.forest.owner? r.child = none) :
      Outcome r w
        (.ok (), { w with forest := f.register r.owner (Text.foldCase text) r.child })
  | unnamed (untext : w.text? r.name = none) (own : w.forest.owner? r.child = some r.owner) :
      Outcome r w (.error (.nameNotText (w.typeName r.name)), w)
  | stranded (stranded : w.Strands r) :
      Outcome r w (.error (.nameNotText (w.typeName r.name)),
        { w with forest := w.forest.claim r.child r.owner })
  | taken {other : UnitId} (apart : other ≠ r.owner) (own : w.forest.owner? r.child = some other)
      {f : Fault} {w' : World} (kept : World.Kept .clear w w') : Outcome r w (.error f, w')

variable {w w' : World} {r : Request}

theorem Request.outcome_run (whole : w.Whole) (has : w.Has r.name) :
    r.Outcome w (outcome r.run w) := by
  simp only [run, attachUnit, outcome_get_bind, Forest.attach]
  cases own : w.forest.owner? r.child with
  | none =>
    cases read : w.text? r.name with
    | none => exact .stranded ⟨read, own⟩
    | some text => exact .registered read (.inr ⟨rfl, own⟩)
  | some other =>
    by_cases same : other = r.owner
    · subst same
      simp only [if_true]
      cases read : w.text? r.name with
      | none => exact .unnamed read own
      | some text => exact .registered read (.inl ⟨rfl, own⟩)
    · simp only [if_neg same, outcome_modify_bind]
      obtain ⟨kept, -⟩ := spares_textOf (V := .clear) has.1 whole
      rw [outcome_bind]
      generalize outcome (textOf r.name) w = shown at kept
      obtain ⟨failed | text, w'⟩ := shown
      · exact .taken same own kept
      · exact .taken same own kept

theorem Request.Outcome.retains {out : Except Fault Unit × World} (whole : w.Whole)
    (came : r.Outcome w out) : w.Retains out.2 := by
  cases came with
  | registered => exact .withForest whole _
  | unnamed => exact .refl whole
  | stranded => exact .withForest whole _
  | taken _ _ kept => exact .of_kept kept

/-- A request is accepted exactly if its name is a text, and the unit is free or belongs to the owner. -/
theorem Request.accepted_iff (whole : w.Whole) (has : w.Has r.name) :
    (outcome r.run w).1 = .ok () ↔ (∃ text, w.text? r.name = some text) ∧
      (w.forest.owner? r.child = none ∨ w.forest.owner? r.child = some r.owner) := by
  have came := r.outcome_run whole has
  generalize outcome r.run w = out at came
  cases came with
  | registered read claimed =>
    refine iff_of_true rfl ⟨⟨_, read⟩, ?_⟩
    exact claimed.symm.imp And.right And.right
  | unnamed untext own => simp [untext]
  | stranded stranded => simp [stranded.1]
  | taken apart own kept => simp [own, apart]

/-- The units after a request, from the units and the name alone. -/
theorem Request.forest_run (whole : w.Whole) (has : w.Has r.name) : (outcome r.run w).2.forest =
    (w.forest.attach r.owner ((w.text? r.name).map Text.foldCase) r.child).2 := by
  have came := r.outcome_run whole has
  generalize outcome r.run w = out at came
  cases came with
  | registered read claimed =>
    obtain ⟨rfl, own⟩ | ⟨rfl, own⟩ := claimed <;> simp [Forest.attach, Forest.attach.finish, own, read]
  | unnamed untext own => simp [Forest.attach, Forest.attach.finish, own, untext]
  | stranded stranded =>
    simp [Forest.attach, Forest.attach.finish, stranded.1, stranded.2]
  | taken apart own kept => simp [Forest.attach, own, apart, kept.forest]

theorem Request.owner?_run (whole : w.Whole) (has : w.Has r.name) {u owner : UnitId}
    (own : w.forest.owner? u = some owner) :
    (outcome r.run w).2.forest.owner? u = some owner := by
  have unclaimed (free : w.forest.owner? r.child = none) :
      (w.forest.claim r.child r.owner).owner? u = some owner := by
    rw [Forest.owner?_claim_of_ne _ _ (by rintro rfl; simp [free] at own), own]
  have came := r.outcome_run whole has
  generalize outcome r.run w = out at came
  cases came with
  | registered read claimed =>
    rw [Forest.owner?_register]
    obtain ⟨rfl, -⟩ | ⟨rfl, free⟩ := claimed
    · exact own
    · exact unclaimed free
  | unnamed => exact own
  | stranded stranded => exact unclaimed stranded.2
  | taken _ _ kept => rwa [kept.forest]

/-! ## Runs of requests -/

namespace World

variable {calls : List Request}

theorem retains_requested (whole : w.Whole) (has : ∀ c ∈ calls, w.Has c.name) :
    w.Retains (w.requested calls) := by
  induction calls generalizing w with
  | nil => exact .refl whole
  | cons c rest ih =>
    obtain ⟨first, later⟩ := List.forall_mem_cons.mp has
    have step := (c.outcome_run whole first).retains whole
    exact step.trans (ih step.whole fun d listed => step.has d.name (later d listed))

/-- A unit never passes to another owner. -/
theorem owner?_requested (whole : w.Whole) (has : ∀ c ∈ calls, w.Has c.name) {u owner : UnitId}
    (own : w.forest.owner? u = some owner) : (w.requested calls).forest.owner? u = some owner := by
  induction calls generalizing w with
  | nil => exact own
  | cons c rest ih =>
    obtain ⟨first, later⟩ := List.forall_mem_cons.mp has
    have step := (c.outcome_run whole first).retains whole
    exact ih step.whole (fun d listed => step.has d.name (later d listed))
      (c.owner?_run whole first own)

/-- Two worlds with the same units and the same names have the same units after the same requests. -/
theorem requested_agree {w₁ w₂ : World} (left : w.Retains w₁) (right : w.Retains w₂)
    (same : w₁.forest = w₂.forest) (has : ∀ c ∈ calls, w.Has c.name) :
    (w₁.requested calls).forest = (w₂.requested calls).forest := by
  induction calls generalizing w₁ w₂ with
  | nil => exact same
  | cons c rest ih =>
    obtain ⟨first, later⟩ := List.forall_mem_cons.mp has
    have has₁ := left.has _ first
    have has₂ := right.has _ first
    refine ih (left.trans ((c.outcome_run left.whole has₁).retains left.whole))
      (right.trans ((c.outcome_run right.whole has₂).retains right.whole)) ?_ later
    rw [c.forest_run left.whole has₁, c.forest_run right.whole has₂, same, left.text? _ first,
      right.text? _ first]

theorem Retains.accepted_iff (retained : w.Retains w') (has : w.Has r.name) :
    (outcome r.run w').1 = .ok () ↔ (∃ text, w.text? r.name = some text) ∧
      (w'.forest.owner? r.child = none ∨ w'.forest.owner? r.child = some r.owner) := by
  rw [r.accepted_iff retained.whole (retained.has _ has), retained.text? _ has]

/-- Requests come out as without one that left the units as they were. -/
theorem Retains.no_trace (retained : w.Retains w') (whole : w.Whole) (same : w'.forest = w.forest)
    (has : ∀ c ∈ calls, w.Has c.name) :
    (w'.requested calls).forest = (w.requested calls).forest ∧
      ∀ next : Request, w.Has next.name →
        ((outcome next.run (w'.requested calls)).1 = .ok () ↔
          (outcome next.run (w.requested calls)).1 = .ok ()) := by
  have agree := requested_agree retained (.refl whole) same has
  refine ⟨agree, fun next named => ?_⟩
  have later := retains_requested retained.whole fun c listed => retained.has _ (has c listed)
  rw [(retained.trans later).accepted_iff named, (retains_requested whole has).accepted_iff named,
    agree]

/-- A unit with an owner is accepted for this owner alone, however many requests come first. -/
theorem Retains.claimed (retained : w.Retains w') {child owner : UnitId}
    (own : w'.forest.owner? child = some owner) (has : ∀ c ∈ calls, w.Has c.name) {next : Request}
    (named : w.Has next.name) (about : next.child = child) :
    (outcome next.run (w'.requested calls)).1 = .ok () ↔
      next.owner = owner ∧ ∃ text, w.text? next.name = some text := by
  have present (c : Request) (listed : c ∈ calls) := retained.has _ (has c listed)
  have kept := owner?_requested retained.whole present own
  have later := retains_requested retained.whole present
  rw [(retained.trans later).accepted_iff named, about, kept]
  simp [and_comm, eq_comm]

/-- A refused request leaves every registry as it is. It leaves no trace at all, so that requests come
out as without it, unless its name is no text and the unit has no owner: then the unit, which any
owner could have had before, is from then on refused to all but the one of this request. -/
theorem refused_request (whole : w.Whole) (has : w.Has r.name) (inside : r.child < w.forest.length)
    {f : Fault} (refused : outcome r.run w = (.error f, w')) :
    (∀ u, w'.forest.subs u = w.forest.subs u) ∧
    (¬ w.Strands r → w'.forest = w.forest ∧
      ∀ calls : List Request, (∀ c ∈ calls, w.Has c.name) →
        (w'.requested calls).forest = (w.requested calls).forest ∧
        ∀ next : Request, w.Has next.name →
          ((outcome next.run (w'.requested calls)).1 = .ok () ↔
            (outcome next.run (w.requested calls)).1 = .ok ())) ∧
    (w.Strands r → f = .nameNotText (w.typeName r.name) ∧
      w'.forest = w.forest.claim r.child r.owner ∧
      ∀ next : Request, w.Has next.name → next.child = r.child →
        ((outcome next.run w).1 = .ok () ↔ ∃ text, w.text? next.name = some text) ∧
        ∀ calls : List Request, (∀ c ∈ calls, w.Has c.name) →
          ((outcome next.run (w'.requested calls)).1 = .ok () ↔
            next.owner = r.owner ∧ ∃ text, w.text? next.name = some text)) := by
  have came := r.outcome_run whole has
  have retained := came.retains whole
  rw [refused] at came retained
  cases came with
  | unnamed untext own =>
    have sound : ¬ w.Strands r := fun stranded => by simp [stranded.2] at own
    exact ⟨fun _ => rfl, fun _ => ⟨rfl, fun calls => retained.no_trace whole rfl⟩,
      fun stranded => absurd stranded sound⟩
  | taken apart own kept =>
    have sound : ¬ w.Strands r := fun stranded => by simp [stranded.2] at own
    refine ⟨fun u => by rw [kept.forest], fun _ => ⟨kept.forest, fun calls => ?_⟩,
      fun stranded => absurd stranded sound⟩
    exact retained.no_trace whole kept.forest
  | stranded stranded =>
    refine ⟨fun u => Forest.subs_claim .., fun sound => absurd stranded sound,
      fun _ => ⟨rfl, rfl, fun next named about => ⟨?_, fun calls listed => ?_⟩⟩⟩
    · rw [next.accepted_iff whole named, about]
      simp [stranded.2]
    · have own := Forest.owner?_claim_self r.owner inside
      exact retained.claimed own listed named about

/-- Three units without owners. -/
def orphans : World := { forest := List.replicate 3 ⟨none, []⟩ }

theorem whole_orphans : orphans.Whole where
  cells i c hc _ := by
    match i with
    | 0 =>
      obtain rfl := Option.some.inj hc
      exact fun v hv => by simp [orphans, Cell.contents] at hv
    | i + 1 => simp [orphans, World.cell?] at hc
  classes i info h := by simp [orphans, World.class?] at h
  named e he := by simp [orphans] at he
  inBounds i hi := hi.elim
  emptyTuple := ⟨by decide, id⟩

/-- A number is no name, and leaves the unit to the owner that it was meant for. -/
theorem refused_request_number :
    orphans.Strands ⟨0, .int 5, 1⟩ ∧
    ∃ w', outcome (Request.run ⟨0, .int 5, 1⟩) orphans = (.error (.nameNotText "int"), w') ∧
      (outcome (Request.run ⟨2, .text "x", 1⟩) orphans).1 = .ok () ∧
      (outcome (Request.run ⟨2, .text "x", 1⟩) w').1 ≠ .ok () := by
  have stranded : orphans.Strands ⟨0, .int 5, 1⟩ := ⟨rfl, rfl⟩
  have refused : outcome (Request.run ⟨0, .int 5, 1⟩) orphans =
      (.error (.nameNotText "int"), { orphans with forest := orphans.forest.claim 1 0 }) := rfl
  have number : orphans.Has (.int 5) := ⟨trivial, nofun⟩
  have text : orphans.Has (.text "x") := ⟨trivial, nofun⟩
  obtain ⟨-, -, half⟩ := @refused_request orphans _ ⟨0, .int 5, 1⟩ whole_orphans number (by decide)
    _ refused
  obtain ⟨-, -, later⟩ := half stranded
  obtain ⟨before, after⟩ := later ⟨2, .text "x", 1⟩ text rfl
  refine ⟨stranded, _, refused, before.mpr ⟨"x", rfl⟩, fun accepted => ?_⟩
  obtain ⟨same, -⟩ := (after [] nofun).mp accepted
  cases same

end World

end TemplateEngine
