import TemplateEngine.Proofs.Agreement
/-!
What bodies do with the variables that they are given. A confined body reads them, writes and drops
them, and passes them on as the arguments of a call, but never lets all of them together become a
value; nothing else can get hold of them then. What a body does leaves hidden cells alone as far as
its calls do.
-/
namespace TemplateEngine

mutual

/-- The descriptions of values in an expression. -/
def Expr.recipes : Expr → List Recipe
  | .literal r => [r]
  | .variable _ name => [name]
  | .member _ prop => [prop]
  | .property target prop => target.recipes ++ prop.recipes
  | .extension _ arguments => Expr.allRecipes arguments
  | .map names values => names ++ Expr.allRecipes values
  | .whole _ | .self | .item => []

def Expr.allRecipes : List Expr → List Recipe
  | [] => []
  | e :: rest => e.recipes ++ Expr.allRecipes rest

end

mutual

/-- The descriptions of values in an instruction. -/
def Instruction.recipes : Instruction → List Recipe
  | .text _ => []
  | .write e => e.recipes
  | .call template none => template.recipes
  | .call template (some arguments) => template.recipes ++ arguments.recipes
  | .set _ name e => name :: e.recipes
  | .erase _ name => [name]
  | .ite condition yes no =>
    condition.recipes ++ (Instruction.allRecipes yes ++ Instruction.allRecipes no)
  | .each collection body => collection.recipes ++ Instruction.allRecipes body
  | .guarded body => Instruction.allRecipes body
  | .trace label => [label]

def Instruction.allRecipes : List Instruction → List Recipe
  | [] => []
  | i :: rest => i.recipes ++ Instruction.allRecipes rest

end

/-- The descriptions of values in all bodies of a program. -/
def Program.recipes (p : Program) : List Recipe := p.toList.flatMap Instruction.allRecipes

theorem Program.within_body {A : Set Nat} {p : Program} (h : Within A p.recipes) (u : UnitId) :
    Within A (Instruction.allRecipes (p.getD u [])) := by
  intro r hr
  by_cases hu : u < p.size
  · simp only [Array.getD, hu, dif_pos] at hr
    exact h r (List.mem_flatMap.mpr ⟨_, Array.getElem_mem_toList hu, hr⟩)
  · simp [Array.getD, hu, Instruction.allRecipes] at hr

mutual

/-- Expressions whose values are no variables of the body as a whole. -/
def Expr.Confined : Expr → Prop
  | .literal _ | .variable .. | .self | .item => True
  | .property target prop => target.Confined ∧ prop.Confined
  | .extension _ arguments | .map _ arguments => Expr.AllConfined arguments
  | .member .. | .whole _ => False

def Expr.AllConfined : List Expr → Prop
  | [] => True
  | e :: rest => e.Confined ∧ Expr.AllConfined rest

end

/-- What may be passed as the arguments of a call: also the variables of the body as a whole. -/
def Expr.Passable : Expr → Prop
  | .whole _ => True
  | e => e.Confined

mutual

def Instruction.Confined : Instruction → Prop
  | .text _ | .erase .. | .trace _ => True
  | .write e => e.Confined
  | .call template none => template.Confined
  | .call template (some arguments) => template.Confined ∧ arguments.Passable
  | .set _ _ e => e.Confined
  | .ite condition yes no =>
    condition.Confined ∧ Instruction.AllConfined yes ∧ Instruction.AllConfined no
  | .each collection body => collection.Confined ∧ Instruction.AllConfined body
  | .guarded body => Instruction.AllConfined body

def Instruction.AllConfined : List Instruction → Prop
  | [] => True
  | i :: rest => i.Confined ∧ Instruction.AllConfined rest

end

namespace Render

variable {V : Veil} {s : Stage}

theorem agree_callExtensionWithin (c : Context) (fuel : Nat) {name : Value}
    {arguments : List Value} (hname : Within (V.region s.world) name)
    (h : Within (V.region s.world) arguments) :
    Agree V s (callExtensionWithin c fuel name arguments)
      (callExtensionWithin c fuel name arguments) := by
  induction fuel generalizing s name arguments with
  | zero => exact agree_throw _
  | succ fuel ih =>
    refine (agree_onWorld (spares_findExtension c name)).bind fun s₁ found hs₁ _ => ?_
    refine (agree_onWorld (spares_textOf (hs₁.within hname))).bind fun s₂ shown hs₂ _ => ?_
    have h₂ := (hs₁.trans hs₂).within h
    cases found with
    | none =>
      dsimp only
      split
      · exact agree_throw _
      · exact (agree_log c _ _ _).bind fun _ _ _ _ => agree_pure trivial
    | some e =>
      refine (agree_log c _ _ _).bind fun s₃ _ hs₃ _ => ?_
      have h₃ := hs₃.within h₂
      cases e with
      | join => exact agree_onWorld (Extension.spares_joinElements h₃)
      | count => exact agree_pure trivial
      | echo => exact agree_pure (within_headD h₃)
      | chain =>
        cases arguments with
        | nil => exact agree_throw _
        | cons first rest =>
          rw [within_cons] at h₃
          exact ih h₃.1 h₃.2
      | failing => exact agree_throw _

/-- A map of a frame: free to be changed, and hidden if `P` holds. -/
def Own (V : Veil) (P : Prop) (w : World) (v : Value) : Prop :=
  ∃ i, v = .ref i ∧ w.HoldsScope i ∧ i ∉ V.frozen ∧ (i ∈ V.hidden ↔ P)

variable {P : Prop} {w w' : World} {v : Value} {f : Frame}

theorem Own.isOpen (hv : Own V P w v) : w.Open V v := by
  obtain ⟨i, rfl, hscope, hfree, -⟩ := hv
  exact hscope.isOpen hfree

theorem Own.isMapping (hv : Own V P w v) : w.isMapping v := by
  obtain ⟨i, rfl, ⟨scope, hscope⟩, -⟩ := hv
  simp [World.isMapping, World.mapping?, World.baseCell?_ref_of_bindings hscope]

theorem Own.kept (hv : Own V P w v) (h : World.Kept V w w') : Own V P w' v := by
  obtain ⟨i, rfl, hscope, hfree, hhidden⟩ := hv
  exact ⟨i, rfl, h.holdsScope hscope, hfree, hhidden⟩

/-- A map that is not hidden may be a value among others. -/
theorem Own.within (hv : Own V P w v) (hP : ¬P) : Within (V.region w) v := by
  obtain ⟨i, rfl, ⟨scope, hscope⟩, -, hhidden⟩ := hv
  exact ⟨World.lt_size_of_cell? hscope, fun h => hP (hhidden.mp h)⟩

/-- A frame on maps of its own. -/
structure Placed (V : Veil) (P : Prop) (w : World) (f : Frame) : Prop where
  scope : Own V P w f.scope
  arguments : Own V P w f.arguments
  item : Within (V.region w) f.item

/-- Two new scopes are own maps, if they are hidden where `P` holds. -/
theorem Placed.of_fresh {i j : Nat} (hi : w.HoldsScope i) (hj : w.HoldsScope j)
    (hi' : i ∉ V.hidden) (hj' : j ∉ V.hidden) (u : UnitId) :
    Placed (V.hide {k | (k = i ∨ k = j) ∧ P}) P w ⟨u, .ref i, .ref j, .null⟩ where
  scope := ⟨i, rfl, hi, fun h => hi' (V.frozen_subset h),
    fun h => h.elim And.right fun h => absurd h hi', fun h => Or.inl ⟨Or.inl rfl, h⟩⟩
  arguments := ⟨j, rfl, hj, fun h => hj' (V.frozen_subset h),
    fun h => h.elim And.right fun h => absurd h hj', fun h => Or.inl ⟨Or.inr rfl, h⟩⟩
  item := trivial

theorem Placed.kept (hf : Placed V P w f) (h : World.Kept V w w') : Placed V P w' f :=
  ⟨hf.scope.kept h, hf.arguments.kept h, h.within hf.item⟩

theorem Placed.source (hf : Placed V P w f) (source : Variables) :
    Own V P w (f.source source) := by
  cases source with
  | scope => exact hf.scope
  | arguments => exact hf.arguments

mutual

/-- The values of expressions refer to no hidden cell. Where the maps of the frame are hidden, only
confined expressions are looked at. -/
theorem agree_eval (c : Context) {s : Stage} (hf : Placed V P s.world f) :
    ∀ e : Expr, Within (V.region s.world) e.recipes → (P → e.Confined) →
      Agree V s (eval c f e) (eval c f e)
  | .literal r, hr, _ => by
    rw [eval]
    exact agree_onWorld (spares_make (List.forall_mem_singleton.mp hr))
  | .variable source name, hr, _ => by
    rw [eval]
    have hname : Within (V.region s.world) name := List.forall_mem_singleton.mp hr
    exact agree_onWorld ((spares_make hname).bind fun w₁ key hw₁ _ =>
      Bindings.spares_read ((hf.source source).kept hw₁).isOpen key)
  | .member source prop, hr, hP => by
    rw [eval]
    have hprop : Within (V.region s.world) prop := List.forall_mem_singleton.mp hr
    have hsource := (hf.source source).within hP
    exact agree_onWorld ((spares_make hprop).bind fun w₁ key hw₁ hkey =>
      ObjectModel.spares_resolveProperty c.model (hw₁.within hsource) hkey)
  | .property target prop, hr, hP => by
    rw [eval]
    obtain ⟨htarget, hprop⟩ := List.forall_mem_append.mp hr
    refine (agree_eval c hf target htarget fun h => (hP h).1).bind fun s₁ v hs₁ hv => ?_
    have hprop₁ := hs₁.within (a := prop.recipes) hprop
    refine (agree_eval c (hf.kept hs₁) prop hprop₁ fun h => (hP h).2).bind fun s₂ key hs₂ hkey => ?_
    exact agree_onWorld (ObjectModel.spares_resolveProperty c.model (hs₂.within hv) hkey)
  | .extension name arguments, hr, hP => by
    rw [eval]
    exact (agree_evalAll c hf arguments hr hP).bind fun _ _ _ hvalues =>
      agree_callExtensionWithin c _ trivial hvalues
  | .map names values, hr, hP => by
    rw [eval]
    obtain ⟨hnames, hvalues⟩ := List.forall_mem_append.mp hr
    refine (agree_evalAll c hf values hvalues hP).bind fun s₁ vs hs₁ hvs => agree_onWorld ?_
    refine (spares_makeAll (hs₁.within (a := names) hnames)).bind fun w₂ keys hw₂ hkeys => ?_
    exact (spares_insertEntries (by simp) (within_zip hkeys (hw₂.within hvs))).bind
      fun _ _ _ hentries => spares_alloc (World.within_entries.mpr hentries)
  | .whole source, _, hP => by
    rw [eval]
    exact agree_pure ((hf.source source).within hP)
  | .self, _, _ => by
    rw [eval]
    exact agree_pure trivial
  | .item, _, _ => by
    rw [eval]
    exact agree_pure hf.item

theorem agree_evalAll (c : Context) {s : Stage} (hf : Placed V P s.world f) :
    ∀ es : List Expr, Within (V.region s.world) (Expr.allRecipes es) →
      (P → Expr.AllConfined es) → Agree V s (evalAll c f es) (evalAll c f es)
  | [], _, _ => by
    rw [evalAll]
    exact agree_pure (by simp)
  | e :: rest, hr, hP => by
    rw [evalAll]
    obtain ⟨hfirst, hrest⟩ := List.forall_mem_append.mp hr
    refine (agree_eval c hf e hfirst fun h => (hP h).1).bind fun s₁ v hs₁ hv => ?_
    have hrest₁ := hs₁.within (a := Expr.allRecipes rest) hrest
    refine (agree_evalAll c (hf.kept hs₁) rest hrest₁ fun h => (hP h).2).bind
      fun s₂ vs hs₂ hvs => agree_pure ?_
    rw [within_cons]
    exact ⟨hs₂.within hv, hvs⟩

end

instance : Plain Noted := ⟨⟩

theorem spares_noted {w : World} {b : Value} (hb : w.Open V b) : Spares V w (noted b) :=
  (Bindings.spares_scopeOf hb).bind fun _ _ _ _ => spares_pure (within_map fun _ _ => trivial)

/-- What a body may pass on: a value that refers to no hidden cell, or one of its maps. -/
def Passes (V : Veil) (w : World) (f : Frame) (v : Value) : Prop :=
  Within (V.region w) v ∨ ∃ source, v = f.source source

/-- What is passed on is evaluated alike, and what follows may use that it is fit to be passed. -/
theorem agree_pass {β : Type} [Referring β] (c : Context) {s : Stage} {e : Expr}
    (hf : Placed V P s.world f) (hr : Within (V.region s.world) e.recipes) (hP : P → e.Passable)
    {g g' : Value → Render β}
    (hrest : ∀ s' v, World.Kept V s.world s'.world → Passes V s'.world f v →
      Agree V s' (g v) (g' v)) : Agree V s (eval c f e >>= g) (eval c f e >>= g') := by
  cases e with
  | whole source =>
    rw [eval, pure_bind, pure_bind]
    exact .of_sealed fun hs => hrest s _ (.refl hs) (Or.inr ⟨source, rfl⟩)
  | _ =>
    exact (agree_eval c hf _ hr hP).bind fun s' v hs' hv => hrest s' v hs' (Or.inl hv)

/-- Two ways to call that agree wherever a body may call. -/
def CallsAgree (V : Veil) (s : Stage) (f : Frame) (call call' : Value → Value → Render Unit) :
    Prop :=
  ∀ s' template arguments, World.Kept V s.world s'.world → Within (V.region s'.world) template →
    Passes V s'.world f arguments → Agree V s' (call template arguments) (call' template arguments)

theorem CallsAgree.kept {s s' : Stage} {call call' : Value → Value → Render Unit}
    (hcall : CallsAgree V s f call call') (h : World.Kept V s.world s'.world) :
    CallsAgree V s' f call call' :=
  fun s'' template arguments hs'' => hcall s'' template arguments (h.trans hs'')

mutual

/-- A body whose calls agree agrees: each of its instructions does. -/
theorem agree_perform (c : Context) {call call' : Value → Value → Render Unit} {f : Frame}
    {s : Stage} (hcall : CallsAgree V s f call call') (hf : Placed V P s.world f) :
    ∀ i : Instruction, Within (V.region s.world) i.recipes → (P → i.Confined) →
      Agree V s (perform c call f i) (perform c call' f i)
  | .text text, _, _ => by
    rw [perform, perform]
    exact agree_write text
  | .write e, hr, hP => by
    rw [perform, perform]
    refine (agree_eval c hf e hr hP).bind fun s₁ v hs₁ hv => ?_
    refine (agree_onWorld ((spares_toTemplateText hv).bind fun w₂ t _ _ => spares_get ?_)).bind
      fun _ text _ _ => agree_write text
    split
    · exact spares_pure trivial
    · exact spares_fail _
  | .call template none, hr, hP => by
    rw [perform, perform]
    exact (agree_eval c hf template hr hP).bind fun s₁ v hs₁ hv =>
      hcall s₁ v .null hs₁ hv (Or.inl trivial)
  | .call template (some arguments), hr, hP => by
    rw [perform, perform]
    obtain ⟨htemplate, harguments⟩ := List.forall_mem_append.mp hr
    refine (agree_eval c hf template htemplate fun h => (hP h).1).bind fun s₁ v hs₁ hv => ?_
    have harguments₁ := hs₁.within (a := arguments.recipes) harguments
    exact agree_pass c (hf.kept hs₁) harguments₁ (fun h => (hP h).2) fun s₂ x hs₂ hx =>
      hcall s₂ v x (hs₁.trans hs₂) (hs₂.within hv) hx
  | .set target name e, hr, hP => by
    rw [perform, perform]
    obtain ⟨hname, hvalue⟩ := List.forall_mem_cons.mp hr
    refine (agree_eval c hf e hvalue hP).bind fun s₁ v hs₁ hv => agree_onWorld ?_
    refine (spares_make (hs₁.within hname)).bind fun w₂ key hw₂ hkey => ?_
    obtain ⟨i, hi, hscope, hfree, -⟩ := ((hf.kept hs₁).source target).kept hw₂
    rw [hi]
    exact Bindings.spares_write hscope hfree hkey (hw₂.within hv)
  | .erase target name, hr, _ => by
    rw [perform, perform]
    have hname : Within (V.region s.world) name := List.forall_mem_singleton.mp hr
    refine agree_onWorld ((spares_make hname).bind fun w₁ key hw₁ _ => ?_)
    obtain ⟨i, hi, hscope, hfree, -⟩ := (hf.source target).kept hw₁
    rw [hi]
    exact Bindings.spares_erase hscope hfree
  | .ite condition yes no, hr, hP => by
    rw [perform, perform]
    obtain ⟨hcondition, hbranches⟩ := List.forall_mem_append.mp hr
    obtain ⟨hyes, hno⟩ := List.forall_mem_append.mp hbranches
    refine (agree_eval c hf condition hcondition fun h => (hP h).1).bind fun s₁ v hs₁ _ => ?_
    refine (agree_onWorld (spares_toBoolean v)).bind fun s₂ truth hs₂ _ => ?_
    have hkept := hs₁.trans hs₂
    split
    · exact agree_performAll c (hcall.kept hkept) (hf.kept hkept) yes
        (hkept.within (a := Instruction.allRecipes yes) hyes) fun h => (hP h).2.1
    · exact agree_performAll c (hcall.kept hkept) (hf.kept hkept) no
        (hkept.within (a := Instruction.allRecipes no) hno) fun h => (hP h).2.2
  | .each collection body, hr, hP => by
    rw [perform, perform]
    obtain ⟨hcollection, hbody⟩ := List.forall_mem_append.mp hr
    refine (agree_eval c hf collection hcollection fun h => (hP h).1).bind fun s₁ v hs₁ hv => ?_
    refine (agree_onWorld ?_).bind fun s₂ items hs₂ hitems => ?_
    · exact (ObjectModel.spares_toCollection hv).bind fun _ _ _ hcollection =>
        (spares_ofValue hcollection).bind fun _ _ _ hitems =>
          spares_get (spares_pure ⟨hitems, trivial⟩)
    · refine (agree_visit hitems.1 (fun s₃ i x hs₃ hx => ?_) _ _).bind
        fun _ _ _ _ => agree_pure trivial
      have hkept := (hs₁.trans hs₂).trans hs₃
      have hf' := hf.kept hkept
      exact agree_performAll (f := { f with item := x }) c (hcall.kept hkept)
        ⟨hf'.scope, hf'.arguments, hx⟩ body
        (hkept.within (a := Instruction.allRecipes body) hbody) fun h => (hP h).2
  | .guarded body, hr, hP => by
    rw [perform, perform]
    refine (agree_performAll c hcall hf body hr hP).attempt.bind fun s₁ result _ _ => ?_
    split
    · exact agree_pure trivial
    · split
      · exact agree_write _
      · exact agree_throw _
  | .trace label, hr, _ => by
    rw [perform, perform]
    have hlabel : Within (V.region s.world) label := List.forall_mem_singleton.mp hr
    refine (agree_onWorld (spares_make hlabel)).bind fun s₁ label hs₁ _ => ?_
    have hf₁ := hf.kept hs₁
    exact (agree_onWorld (spares_noted hf₁.scope.isOpen)).bind fun s₂ _ hs₂ _ =>
      (agree_onWorld (spares_noted (hf₁.kept hs₂).arguments.isOpen)).bind fun _ _ _ _ =>
        agree_note _

theorem agree_performAll (c : Context) {call call' : Value → Value → Render Unit} {f : Frame}
    {s : Stage} (hcall : CallsAgree V s f call call') (hf : Placed V P s.world f) :
    ∀ body : List Instruction, Within (V.region s.world) (Instruction.allRecipes body) →
      (P → Instruction.AllConfined body) →
      Agree V s (performAll c call f body) (performAll c call' f body)
  | [], _, _ => by
    rw [performAll, performAll]
    exact agree_pure trivial
  | i :: rest, hr, hP => by
    rw [performAll, performAll]
    obtain ⟨hfirst, hrest⟩ := List.forall_mem_append.mp hr
    exact (agree_perform c hcall hf i hfirst fun h => (hP h).1).bind fun s₁ _ hs₁ _ =>
      agree_performAll c (hcall.kept hs₁) (hf.kept hs₁) rest
        (hs₁.within (a := Instruction.allRecipes rest) hrest) fun h => (hP h).2

end

end Render

end TemplateEngine
