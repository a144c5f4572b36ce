import TemplateEngine.Proofs.UnitScope
/-!
Who owns a unit. Units are attached in any order, to themselves and in circles as well, and some
attachments are refused. At any time a registered unit belongs to the unit with the registry, so to
one unit only, and it never passes to another one.
-/
namespace TemplateEngine

/-- A request to put a unit under another one. -/
structure Attachment where
  owner : UnitId
  name : String
  child : UnitId

def Attachment.run (a : Attachment) : M Unit := attachUnit a.owner (.text a.name) a.child

/-- The world after requests were made one after the other, the refused ones among them. -/
def World.attached (w : World) : List Attachment → World
  | [] => w
  | a :: rest => (outcome a.run w).2.attached rest

theorem World.attached_append (calls more : List Attachment) (w : World) :
    w.attached (calls ++ more) = (w.attached calls).attached more := by
  induction calls generalizing w with
  | nil => rfl
  | cons a rest ih => exact ih _

theorem outcome_textOf_text (s : String) (w : World) : outcome (textOf (.text s)) w = (.ok s, w) := by
  have hvalue : outcome (textValueOf (.text s)) w = (.ok (.text s), w) := rfl
  rw [textOf, outcome_bind_ok hvalue]
  rfl

namespace Forest

theorem length_claim (f : Forest) (child owner : UnitId) : (f.claim child owner).length = f.length :=
  List.length_modify ..

theorem length_register (f : Forest) (owner child : UnitId) (name : String) :
    (f.register owner name child).length = f.length :=
  List.length_modify ..

theorem owner?_claim_self {f : Forest} {child : UnitId} (owner : UnitId) (h : child < f.length) :
    (f.claim child owner).owner? child = some owner := by
  simp [owner?, node, claim, List.getD_eq_getElem?_getD, h]

theorem owner?_claim_of_ne (f : Forest) {child u : UnitId} (owner : UnitId) (h : child ≠ u) :
    (f.claim child owner).owner? u = f.owner? u := by
  rw [owner?, node_claim f child owner u h, owner?]

/-- Registries are under folded names, and a registered unit belongs to the unit with the
registry. -/
structure Owned (f : Forest) : Prop where
  registry : ∀ u, Registry (f.subs u)
  owner : ∀ u name child, (name, child) ∈ f.subs u → f.owner? child = some u

theorem subs_fresh (n : Nat) (u : UnitId) : subs (List.replicate n ⟨none, []⟩) u = [] := by
  simp only [subs, node, List.getD_eq_getElem?_getD, List.getElem?_replicate]
  split <;> rfl

theorem owned_fresh (n : Nat) : Owned (List.replicate n ⟨none, []⟩) := by
  refine ⟨fun u => ?_, fun u name child h => by simp [subs_fresh] at h⟩
  rw [subs_fresh]
  exact registry_empty

theorem mem_subs_register {f : Forest} {owner child u c : UnitId} {name key : String}
    (h : (key, c) ∈ (f.register owner name child).subs u) :
    (u = owner ∧ c = child) ∨ (key, c) ∈ f.subs u := by
  by_cases hu : owner = u
  · subst hu
    cases hn : f[owner]? with
    | none =>
      simp only [subs, node, register, List.getD_eq_getElem?_getD, List.getElem?_modify,
        hn] at h ⊢
      exact Or.inr h
    | some n =>
      have hmem : (key, c) ∈ n.subs.insert name child := by
        simpa [subs, node, register, List.getD_eq_getElem?_getD, hn] using h
      refine (Table.mem_of_mem_insert hmem).imp (fun he => ⟨rfl, (Prod.mk.inj he).2⟩) fun hold => ?_
      simpa [subs, node, List.getD_eq_getElem?_getD, hn] using hold
  · rw [subs, node_register f owner child u name hu] at h
    exact Or.inr h

/-- Registering a unit with its owner. -/
theorem Owned.register {f : Forest} (h : Owned f) {owner child : UnitId}
    (howner : f.owner? child = some owner) (name : String) :
    Owned (f.register owner (Text.foldCase name) child) where
  registry := registry_register h.registry owner child name
  owner u key c hc := by
    rw [owner?_register]
    rcases mem_subs_register hc with ⟨rfl, rfl⟩ | hold
    · exact howner
    · exact h.owner u key c hold

/-- A unit without an owner is in no registry yet. -/
theorem Owned.claim {f : Forest} (h : Owned f) {child : UnitId} (owner : UnitId)
    (hfree : f.owner? child = none) : Owned (f.claim child owner) where
  registry u := by
    rw [subs_claim]
    exact h.registry u
  owner u key c hc := by
    rw [subs_claim] at hc
    have hold := h.owner u key c hc
    have hne : child ≠ c := by
      rintro rfl
      simp [hfree] at hold
    rw [owner?_claim_of_ne f owner hne, hold]

end Forest

/-- What an attachment does: it is refused if the unit belongs to another one, and changes nothing
then; otherwise the unit belongs to its owner and is registered there. -/
theorem Attachment.outcome_run (a : Attachment) (w : World) :
    ((∃ other, w.forest.owner? a.child = some other ∧ other ≠ a.owner) ∧
        outcome a.run w = (.error (.alreadyAttached a.name), w)) ∨
      ∃ f : Forest, (f = w.forest ∧ w.forest.owner? a.child = some a.owner ∨
          f = w.forest.claim a.child a.owner ∧ w.forest.owner? a.child = none) ∧
        outcome a.run w =
          (.ok (), { w with forest := f.register a.owner (Text.foldCase a.name) a.child }) := by
  have htext : (w.text? (.text a.name)).map Text.foldCase = some (Text.foldCase a.name) := rfl
  simp only [run, attachUnit, outcome_get_bind, htext, Forest.attach]
  cases howner : w.forest.owner? a.child with
  | none => exact Or.inr ⟨_, Or.inr ⟨rfl, rfl⟩, rfl⟩
  | some other =>
    by_cases he : other = a.owner
    · subst he
      refine Or.inr ⟨_, Or.inl ⟨rfl, rfl⟩, ?_⟩
      simp only [if_true]
      rfl
    · refine Or.inl ⟨⟨other, rfl, he⟩, ?_⟩
      simp only [he, if_false, outcome_modify_bind]
      rw [outcome_bind_ok (outcome_textOf_text a.name w)]
      rfl

namespace World

variable {w : World}

theorem owned_run (h : w.forest.Owned) (a : Attachment) (hchild : a.child < w.forest.length) :
    (outcome a.run w).2.forest.Owned ∧
      (outcome a.run w).2.forest.length = w.forest.length := by
  rcases a.outcome_run w with ⟨-, hrun⟩ | ⟨f, ⟨rfl, howner⟩ | ⟨rfl, hfree⟩, hrun⟩
  · rw [hrun]
    exact ⟨h, rfl⟩
  · rw [hrun]
    exact ⟨h.register howner a.name, Forest.length_register ..⟩
  · rw [hrun]
    have hclaimed := Forest.owner?_claim_self a.owner hchild
    exact ⟨(h.claim a.owner hfree).register hclaimed a.name,
      (Forest.length_register ..).trans (Forest.length_claim ..)⟩

theorem owned_attached (h : w.forest.Owned) {calls : List Attachment}
    (hcalls : ∀ a ∈ calls, a.child < w.forest.length) : (w.attached calls).forest.Owned := by
  induction calls generalizing w with
  | nil => exact h
  | cons a rest ih =>
    rw [List.forall_mem_cons] at hcalls
    obtain ⟨howned, hlength⟩ := owned_run h a hcalls.1
    exact ih howned fun b hb => hlength ▸ hcalls.2 b hb

theorem owner?_run (a : Attachment) {u owner : UnitId} (h : w.forest.owner? u = some owner) :
    (outcome a.run w).2.forest.owner? u = some owner := by
  rcases a.outcome_run w with ⟨-, hrun⟩ | ⟨f, ⟨rfl, -⟩ | ⟨rfl, hfree⟩, hrun⟩
  · rwa [hrun]
  · rw [hrun, Forest.owner?_register]
    exact h
  · have hne : a.child ≠ u := by
      rintro rfl
      simp [hfree] at h
    rw [hrun, Forest.owner?_register, Forest.owner?_claim_of_ne _ _ hne]
    exact h

/-- A unit never passes to another owner. -/
theorem owner?_attached (more : List Attachment) {u owner : UnitId}
    (h : w.forest.owner? u = some owner) : (w.attached more).forest.owner? u = some owner := by
  induction more generalizing w with
  | nil => exact h
  | cons a rest ih => exact ih (owner?_run a h)

/-- After any attachments of fresh units: names are folded, a registered unit has the registry as
that of its siblings, no unit is in the registries of two, and later attachments leave owners as they
are. Another attachment is refused exactly if the unit belongs to another owner, and changes nothing
then. -/
theorem owned_after_attachments {n : Nat} {calls : List Attachment}
    (hfresh : w.forest = List.replicate n ⟨none, []⟩) (hcalls : ∀ a ∈ calls, a.child < n) :
    (∀ u, ∀ key ∈ Table.keys ((w.attached calls).forest.subs u), Text.foldCase key = key) ∧
      (∀ u name child, (name, child) ∈ (w.attached calls).forest.subs u →
        (w.attached calls).forest.owner? child = some u ∧
          (w.attached calls).forest.siblings? child = some ((w.attached calls).forest.subs u)) ∧
      (∀ u u' name name' child, (name, child) ∈ (w.attached calls).forest.subs u →
        (name', child) ∈ (w.attached calls).forest.subs u' → u = u') ∧
      (∀ more u owner, (w.attached calls).forest.owner? u = some owner →
        (w.attached (calls ++ more)).forest.owner? u = some owner) ∧
      ∀ a : Attachment,
        ((∃ e, (outcome a.run (w.attached calls)).1 = .error e) ↔
          ∃ other, (w.attached calls).forest.owner? a.child = some other ∧ other ≠ a.owner) ∧
        ∀ e w', outcome a.run (w.attached calls) = (.error e, w') →
          e = .alreadyAttached a.name ∧ w' = w.attached calls := by
  have howned : (w.attached calls).forest.Owned :=
    owned_attached (hfresh ▸ Forest.owned_fresh n) (by simpa [hfresh] using hcalls)
  refine ⟨fun u => (howned.registry u).folded, fun u name child h => ?_,
    fun u u' name name' child h h' => ?_, fun more u owner h => ?_, fun a => ?_⟩
  · have howner := howned.owner u name child h
    exact ⟨howner, by simp [Forest.siblings?, howner]⟩
  · have howner := (howned.owner u name child h).symm.trans (howned.owner u' name' child h')
    exact Option.some.inj howner
  · rw [attached_append]
    exact owner?_attached more h
  · rcases a.outcome_run (w.attached calls) with ⟨hother, hrun⟩ | ⟨f, hf, hrun⟩
    · rw [hrun]
      refine ⟨⟨fun _ => hother, fun _ => ⟨_, rfl⟩⟩, fun e w' h => ?_⟩
      obtain ⟨he, hw⟩ := Prod.mk.inj h
      exact ⟨(Except.error.inj he).symm, hw.symm⟩
    · rw [hrun]
      refine ⟨⟨by simp, ?_⟩, fun e w' h => by simp at h⟩
      rintro ⟨other, hother, hne⟩
      rcases hf with ⟨-, howner⟩ | ⟨-, hfree⟩
      · exact absurd (Option.some.inj (hother.symm.trans howner)) hne
      · simp [hfree] at hother

/-- A unit is put under another one twice, but not under itself; a third one is put under itself. -/
def circle : List Attachment := [⟨0, "Item", 1⟩, ⟨2, "Self", 2⟩, ⟨1, "Self", 1⟩, ⟨0, "ENTRY", 1⟩]

def encircled : World := attached { forest := List.replicate 3 ⟨none, []⟩ } circle

theorem owned_after_attachments_circle :
    (∀ a ∈ circle, a.child < 3) ∧
      encircled.forest = [⟨none, [("item", 1), ("entry", 1)]⟩, ⟨some 0, []⟩, ⟨some 2, [("self", 2)]⟩] ∧
      outcome (Attachment.run ⟨1, "Self", 1⟩) encircled =
        (.error (.alreadyAttached "Self"), encircled) := by
  have hcalls : ∀ a ∈ circle, a.child < 3 := by simp [circle]
  obtain ⟨-, -, -, -, hrefused⟩ := @owned_after_attachments { forest := List.replicate 3 ⟨none, []⟩ }
    3 circle rfl hcalls
  obtain ⟨hfails, hkept⟩ := hrefused ⟨1, "Self", 1⟩
  obtain ⟨e, he⟩ := hfails.mpr ⟨0, rfl, by decide⟩
  obtain ⟨rfl, hw⟩ := hkept e _ (Prod.ext he rfl)
  exact ⟨hcalls, rfl, Prod.ext he hw⟩

end World

end TemplateEngine
