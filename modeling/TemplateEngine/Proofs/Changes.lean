import TemplateEngine.Proofs.Reading
import TemplateEngine.Proofs.Spares.Coercion
/-!
What resolving a property leaves of a container. An accessor may clear, reverse or sort it, or take an
element from it; every other resolution leaves it as it is, and then the order in which properties are
resolved makes no difference.
-/
namespace TemplateEngine

/-- What an accessor leaves of a container. It is read before it is called, which uses up a tag. -/
def World.after (w : World) (c : Cell) (n : String) : Cell :=
  match c, n with
  | .list _, "clear" => .list []
  | .list items, "pop" => .list items.dropLast
  | .list items, "reverse" => .list items.reverse
  | .list items, "sort" =>
    let read := { w with nextTag := w.nextTag + 1 }
    .list (Sorting.sortList (read.lessFrom read.bulk) items).items
  | .array code items, "pop" => .array code items.dropLast
  | .dict fluent entries, "popitem" => .dict fluent entries.dropLast
  | .bindings _, "clear" => .bindings .empty
  | .bindings scope, "popitem" => .bindings ((scope.popFirst?.map Prod.snd).getD scope)
  | c, _ => c

/-- The accessor that a name stands for on a container, if it has neither an entry nor a field of that
name. -/
def World.lastResort? (w : World) (i : Nat) (key : Value) (name : String) : Option String :=
  (w.cell? i).bind fun c =>
    match w.entry c key, c.field name with
    | .ok .null, .null => (findAccessor? w.classes (w.classOf (.ref i)) name).map Prod.fst
    | _, _ => none

/-- A property of a container falls through to an accessor: it is not an index of the container, and
its name, of which the making may change the world, is neither a key nor a field. -/
inductive World.FallsTo (w : World) (i : Nat) (p : Value) : World → String → Prop
  | intro {w₁ : World} {name n : String} (given : p ≠ .null)
    (index : outcome (indexTarget (.ref i) (.ref i) p) w = (.ok .null, w))
    (text : outcome (templateText? p) w = (.ok (some name), w₁))
    (accessor : w₁.lastResort? i p name = some n) : FallsTo w i p w₁ n

theorem World.lastResort?_empty (w : World) (i : Nat) (key : Value) :
    w.lastResort? i key "" = none := by
  unfold World.lastResort?
  cases w.cell? i with
  | none => rfl
  | some c =>
    rw [Option.bind_some]
    split <;> rfl

theorem IsContainer.of_shape {c c' : Cell} {s : Standard} (hs : IsContainer c s)
    (h : c'.shape = c.shape) : IsContainer c' s := by
  cases hs <;> cases c' <;> simp_all [Cell.shape] <;> constructor

variable {w : World} {i : Nat} {c : Cell} {s : Standard} {p : Value}

/-- Accessors that are no mutators leave a container as it is. -/
theorem after_of_not_mutator (hs : IsContainer c s) {n : String} (hn : n ∉ s.mutators) :
    w.after c n = c := by
  unfold World.after
  split <;> cases hs <;> simp_all [Standard.mutators]

/-- A computation leaves a cell with a content. -/
def Leaves {α : Type} (i : Nat) (d : Cell) (w : World) (x : M α) : Prop :=
  (outcome x w).2.cell? i = some d

section

variable {α β : Type} {d : Cell}

theorem leaves_pure (hd : w.cell? i = some d) (a : α) : Leaves i d w (pure a : M α) := hd

theorem leaves_fail (hd : w.cell? i = some d) (f : Fault) : Leaves i d w (fail f : M α) := hd

theorem leaves_bind {x : M α} {k : α → M β} (hx : Leaves i d w x)
    (hk : ∀ a w', w'.cell? i = some d → Leaves i d w' (k a)) : Leaves i d w (x >>= k) := by
  unfold Leaves at *
  rw [outcome_bind]
  split <;> rename_i heq <;> rw [heq] at hx
  · exact hk _ _ hx
  · exact hx

theorem leaves_get {k : World → M α} (h : Leaves i d w (k w)) : Leaves i d w (get >>= k) := h

theorem leaves_liftResult (hd : w.cell? i = some d) (r : Except Fault α) :
    Leaves i d w (liftResult r) := hd

theorem leaves_displayed (hd : w.cell? i = some d) (v : Value) : Leaves i d w (displayed v) := hd

theorem leaves_report (hd : w.cell? i = some d) (level : Severity) (text : String)
    (cause : Option String) : Leaves i d w (report level text cause) := hd

theorem leaves_alloc (hd : w.cell? i = some d) (c : Cell) : Leaves i d w (alloc c) :=
  World.cell?_withCell_of_cell? hd c

theorem leaves_newTuple (hd : w.cell? i = some d) (items : List Value) :
    Leaves i d w (newTuple items) := by
  unfold newTuple
  split
  · exact hd
  · exact leaves_alloc hd _

theorem leaves_asObject (hd : w.cell? i = some d) (v : Value) : Leaves i d w (asObject v) := by
  unfold asObject
  split <;> exact hd

theorem leaves_setCell (hc : w.cell? i = some c) (d : Cell) : Leaves i d w (setCell i d) :=
  World.cell?_rewriteCell_self hc d

theorem leaves_splitLast (whole : String) {items : List α} {kept : List α → Cell}
    (hc : w.cell? i = some (kept items)) :
    Leaves i (kept items.dropLast) w
      (splitLast whole items fun rest => setCell i (kept rest)) := by
  unfold splitLast
  split
  · exact leaves_bind (leaves_setCell hc _) fun _ _ hd => leaves_pure hd _
  · rename_i hnone
    obtain rfl := List.getLast?_eq_none_iff.mp hnone
    exact leaves_fail hc _

theorem leaves_popLast {fluent : Bool} {entries : List (Value × Value)}
    (hc : w.cell? i = some (.dict fluent entries)) :
    Leaves i (.dict fluent entries.dropLast) w
      (callDictRoutine "popitem" (.ref i) i fluent entries []) := by
  cases hlast : entries.getLast? with
  | none =>
    obtain rfl := List.getLast?_eq_none_iff.mp hlast
    exact leaves_fail hc _
  | some last =>
    have hrun : callDictRoutine "popitem" (.ref i) i fluent entries [] = (do
        setCell i (.dict fluent entries.dropLast)
        newTuple [last.1, last.2]) := by simp [callDictRoutine, hlast]
    rw [hrun]
    exact leaves_bind (leaves_setCell hc _) fun _ _ hd => leaves_newTuple hd _

theorem leaves_popFirst {scope : Scope Value Value} (hc : w.cell? i = some (.bindings scope)) :
    Leaves i (.bindings ((scope.popFirst?.map Prod.snd).getD scope)) w
      (callBindingsAccessor "popitem" (.ref i) i scope) := by
  cases hfirst : scope.popFirst? with
  | none =>
    have hrun : callBindingsAccessor "popitem" (.ref i) i scope = fail .emptyTable := by
      simp [callBindingsAccessor, hfirst]
    rw [hrun]
    exact leaves_fail hc _
  | some popped =>
    have hrun : callBindingsAccessor "popitem" (.ref i) i scope = (do
        setCell i (.bindings popped.2)
        newTuple [.text popped.1.1, popped.1.2]) := by simp [callBindingsAccessor, hfirst]
    rw [hrun]
    exact leaves_bind (leaves_setCell hc _) fun _ _ hd => leaves_newTuple hd _

end

section

variable (hc : w.cell? i = some c) (hs : IsContainer c s)

include hc hs

theorem leaves_callAccessor {t : Standard} (ht : t ∈ s :: s.ancestors) {n : String}
    (hn : n ∈ s.accessors) :
    Leaves i (w.after c n) { w with nextTag := w.nextTag + 1 } (callAccessor t n (.ref i) []) := by
  have hread : ({ w with nextTag := w.nextTag + 1 } : World).cell? i = some c := hc
  by_cases htext : n = "__str__"
  · have hkeep : n ∉ s.mutators := by
      subst htext
      cases s <;> decide
    rw [after_of_not_mutator hs hkeep, Leaves, callAccessor, outcome_get_bind, if_pos htext]
    exact leaves_bind (leaves_liftResult hread _) fun _ _ h => leaves_pure h _
  rw [Leaves, outcome_callAccessor_container hread hs ht htext]
  rcases Standard.accessors_of_container (containers_of_class hs) hn
    with hm | htext' | ⟨rfl, rfl⟩ | ⟨rfl, hview⟩
  · cases hs with
    | list items =>
      simp only [Standard.mutators, List.mem_cons, List.not_mem_nil, or_false] at hm
      rcases hm with rfl | rfl | rfl | rfl
      · exact leaves_bind (leaves_setCell hread (.list [])) fun _ _ h => leaves_pure h _
      · exact leaves_splitLast "empty list" hread
      · exact leaves_bind (leaves_setCell hread (.list items.reverse)) fun _ _ h => leaves_pure h _
      · refine leaves_get (leaves_bind (leaves_setCell hread _) fun _ _ h => ?_)
        split
        · exact leaves_fail h _
        · exact leaves_pure h _
    | deque items => simp [Standard.mutators] at hm
    | array code items =>
      obtain rfl := List.mem_singleton.mp hm
      exact leaves_bind (leaves_splitLast "empty array" hread) fun _ _ h => leaves_asObject h _
    | dict entries =>
      obtain rfl := List.mem_singleton.mp hm
      exact leaves_popLast hread
    | fluentMap entries =>
      obtain rfl := List.mem_singleton.mp hm
      exact leaves_popLast hread
    | bindings scope =>
      simp only [Standard.mutators, List.mem_cons, List.not_mem_nil, or_false] at hm
      rcases hm with rfl | rfl
      · exact leaves_bind (leaves_setCell hread (.bindings .empty)) fun _ _ h => leaves_pure h _
      · exact leaves_popFirst hread
  · exact absurd htext' htext
  · cases hs with
    | list items => exact leaves_alloc hread (.list items)
  · cases hs with
    | bindings scope =>
      simp only [List.mem_cons, List.not_mem_nil, or_false] at hview
      rcases hview with rfl | rfl | rfl | rfl <;> exact hread

/-- The line that is logged about a failing accessor is no change of the container. -/
theorem leaves_callNamed {t : Standard} (ht : t ∈ s :: s.ancestors) {n : String}
    (hn : n ∈ s.accessors) (hfound : Classes.findMember? w.classes (.standard s) n =
      some (.standard t, .native t .accessor)) :
    Leaves i (w.after c n) w (callNamed (.ref i) n) := by
  have hcall := leaves_callAccessor hc hs ht hn
  unfold Leaves at hcall ⊢
  rw [outcome_callNamed_container hc hs ht hfound]
  split <;> rename_i heq <;> rw [heq] at hcall
  · exact hcall
  · exact leaves_bind (leaves_displayed hcall _) fun _ _ h =>
      leaves_bind (leaves_report h _ _ _) fun _ _ h => leaves_pure h _

theorem lastResort?_of_container (key : Value) (name : String) :
    w.lastResort? i key name =
      match w.entry c key, c.field name with
      | .ok .null, .null => (findAccessor? w.classes (.standard s) name).map Prod.fst
      | _, _ => none := by
  rw [World.lastResort?, hc, Option.bind_some, (ref_of_container hc hs).2.1]

theorem leaves_resolveName (key : Value) (name : String) :
    Leaves i (((w.lastResort? i key name).map (w.after c)).getD c) w
      (resolveName (.ref i) key name) := by
  rw [Leaves, outcome_resolveName_container hc hs key name, lastResort?_of_container hc hs]
  by_cases hnothing : w.entry c key = .ok .null ∧ c.field name = .null
  · rw [hnothing.1, hnothing.2]
    dsimp only
    rw [outcome_invokeAccessor_container hc hs name]
    cases haccessor : findAccessor? w.classes (.standard s) name with
    | none => exact hc
    | some found =>
      obtain ⟨hn, t, ht, hmember⟩ := accessor_of_standard haccessor
      exact leaves_callNamed hc hs ht hn hmember
  · cases hentry : w.entry c key with
    | error f => exact hc
    | ok x =>
      by_cases hx : x = .null
      · have hfield : c.field name ≠ .null := fun h => hnothing ⟨hx ▸ hentry, h⟩
        cases hf : c.field name <;> simp_all
      · cases x <;> simp_all

theorem leaves_elementOfTarget (index : Int) :
    Leaves i c w (elementOfTarget (.ref i) (.ref i) index) ∧
      StillIfNull w (elementOfTarget (.ref i) (.ref i) index) := by
  unfold Leaves StillIfNull
  rw [outcome_elementOfTarget_container hc hs]
  split
  · exact ⟨hc, fun _ h => (Prod.mk.inj h).2.symm⟩
  · split_ifs
    · exact ⟨hc, fun _ h => (Prod.mk.inj h).2.symm⟩
    · exact ⟨hc, fun _ h => (Prod.mk.inj h).2.symm⟩
    · exact ⟨leaves_asObject hc _, stillIfNull_asObject _⟩

/-- Looking for an index is no change. -/
theorem leaves_indexTarget (p : Value) : Leaves i c w (indexTarget (.ref i) (.ref i) p) := by
  have hindex := still_asIndex (w := w) p
  refine leaves_bind (by rw [Leaves, hindex]; exact hc) fun index w₁ hc₁ => ?_
  cases index with
  | none => exact leaves_pure hc₁ _
  | some index => exact (leaves_elementOfTarget hc₁ hs index).1

/-- Where there is no index, nothing has changed at all. -/
theorem outcome_indexTarget_null {p : Value}
    (h : (outcome (indexTarget (.ref i) (.ref i) p) w).1 = .ok .null) :
    outcome (indexTarget (.ref i) (.ref i) p) w = (.ok .null, w) := by
  have hstill : StillIfNull w (indexTarget (.ref i) (.ref i) p) := by
    refine StillIfNull.bind (still_asIndex p) fun index => ?_
    cases index with
    | none => exact (still_pure _).ifNull
    | some index => exact (leaves_elementOfTarget hc hs index).2
  exact Prod.ext h (hstill _ (Prod.ext h rfl))

section

variable (hw : w.Whole) (hp : w.Holds p)

include hw hp

/-- The text of a property leaves a container of the same class. -/
theorem container_after_text :
    ∃ c₁, Leaves i c₁ w (templateText? p) ∧ IsContainer c₁ s := by
  obtain ⟨c₁, hc₁, hshape⟩ := (spares_templateText? hp hw).1.shape i c hc
  exact ⟨c₁, hc₁, hs.of_shape hshape⟩

/-- A property that falls through to an accessor has the container changed as the accessor does it. -/
theorem leaves_of_fallsTo {w₁ : World} {n : String} (h : w.FallsTo i p w₁ n) :
    ∃ c₁, w₁.cell? i = some c₁ ∧ Leaves i (w₁.after c₁ n) w (resolveProperty (.ref i) p) := by
  obtain ⟨c₁, hc₁, hs₁⟩ := container_after_text hc hs hw hp
  obtain ⟨hgiven, hnone, htext, haccessor⟩ := h
  rename_i name
  rw [Leaves, htext] at hc₁
  have hname : name ≠ "" := fun h => by simp [h, World.lastResort?_empty] at haccessor
  have hrun : outcome (resolveProperty (.ref i) p) w = outcome (resolveName (.ref i) p name) w₁ := by
    simp [outcome_resolveProperty_by_name hc hs hgiven hnone, outcome_withName, htext, hname]
  have hleaves := leaves_resolveName hc₁ hs₁ p name
  rw [haccessor] at hleaves
  exact ⟨c₁, hc₁, by rw [Leaves, hrun]; exact hleaves⟩

omit hw hp in
theorem leaves_of_index (hgiven : p ≠ .null)
    (hfound : (outcome (indexTarget (.ref i) (.ref i) p) w).1 ≠ .ok .null) :
    Leaves i c w (resolveProperty (.ref i) p) := by
  have hsame : outcome (resolveProperty (.ref i) p) w =
      outcome (indexTarget (.ref i) (.ref i) p) w := by
    rw [outcome_resolveProperty_container hc hs hgiven, outcome_orElse]
    split
    · rename_i heq
      exact absurd (by rw [heq]) hfound
    · rfl
  rw [Leaves, hsame]
  exact leaves_indexTarget hc hs p

/-- Any other property leaves the container as it was, or as it is after the text was made. -/
theorem leaves_of_no_mutator (hsafe : ∀ w₁ n, w.FallsTo i p w₁ n → n ∉ s.mutators) :
    Leaves i c w (resolveProperty (.ref i) p) ∨
      ∃ c₁, Leaves i c₁ w (templateText? p) ∧ Leaves i c₁ w (resolveProperty (.ref i) p) := by
  by_cases hgiven : p = .null
  · left
    have hcontent := content?_of_container hc hs
    simpa [Leaves, resolveProperty, World.layers_of_content _ _ hcontent, resolveThrough, hgiven]
      using hc
  by_cases hfound : (outcome (indexTarget (.ref i) (.ref i) p) w).1 = .ok .null
  · obtain ⟨c₁, hc₁, hs₁⟩ := container_after_text hc hs hw hp
    have hindex := outcome_indexTarget_null hc hs hfound
    refine Or.inr ⟨c₁, hc₁, ?_⟩
    rw [Leaves, outcome_resolveProperty_by_name hc hs hgiven hindex, outcome_withName]
    rw [Leaves] at hc₁
    rcases htext : outcome (templateText? p) w with ⟨f | _ | name, w₁⟩ <;> rw [htext] at hc₁
    · exact hc₁
    · exact hc₁
    · dsimp only
      split
      · exact hc₁
      · have hleaves := leaves_resolveName hc₁ hs₁ p name
        cases haccessor : w₁.lastResort? i p name with
        | none => rwa [haccessor] at hleaves
        | some n =>
          have hkeep := hsafe w₁ n (.intro hgiven hindex htext haccessor)
          rw [haccessor, Option.map_some, Option.getD_some, after_of_not_mutator hs₁ hkeep]
            at hleaves
          exact hleaves
  · exact Or.inl (leaves_of_index hc hs hgiven hfound)

end

end

theorem steady_templateText? (hp : IsKey p) : w.Steady (templateText? p) := by
  obtain ⟨r, hr⟩ := settled_templateText? hp
  exact ⟨r, fun w₁ _ => by rw [hr w₁]; exact ⟨rfl, .refl w₁⟩⟩

/-- A property for which a container is only read, whatever was resolved before. -/
structure World.Readable (w : World) (i : Nat) (c : Cell) (s : Standard) (p : Value) : Prop where
  held : w.Holds p
  text : w.Steady (templateText? p)
  -- What nests too deep for the world may not do so for a larger one.
  entry : w.entry c p ≠ .error .nestedTooDeep
  accessor : ∀ w₁ n, w.FallsTo i p w₁ n →
    n ∉ s.mutators ∧ (n = "__str__" → w.display (.ref i) ≠ .error .nestedTooDeep)

theorem reads_resolveProperty (hw : w.Whole) (hc : w.cell? i = some c) (hs : IsContainer c s)
    (h : w.Readable i c s p) : w.Reads (.ref i) (resolveProperty (.ref i) p) := by
  by_cases hgiven : p = .null
  · subst hgiven
    refine .value .null fun w₁ hg => ?_
    have hcontent := content?_of_container (hg.cells i c hc) hs
    simp [resolveProperty, World.layers_of_content _ _ hcontent, resolveThrough]
  refine .congr (.orElse (reads_indexTarget hc hs h.held) fun hnone => ?_)
    fun w₁ hg => outcome_resolveProperty_container (hg.cells i c hc) hs hgiven
  have hindex := outcome_indexTarget_null hc hs hnone
  obtain ⟨r, hr⟩ := h.text
  refine .withName h.text fun name hname => ?_
  refine reads_resolveName hw hc hs h.held h.entry fun hentry hfield n owner haccessor => ?_
  have hg := (hr w (.refl w)).2
  refine h.accessor _ n (.intro hgiven hindex (Prod.ext hname rfl) ?_)
  rw [lastResort?_of_container (hg.cells i c hc) hs, entry_of_grows hw hc hg h.held h.entry, hentry,
    hfield, hg.classes, haccessor]
  rfl

/-- A world with a list in it. -/
def listed : World := { cells := #[.tuple [], .list [.int 3, .int 1]] }

theorem listed_whole : listed.Whole where
  cells i c hc _ := by
    match i with
    | 0 =>
      obtain rfl := Option.some.inj hc
      exact fun v hv => by simp [listed, Cell.contents] at hv
    | 1 =>
      obtain rfl := Option.some.inj hc
      intro v hv
      obtain rfl | rfl : v = .int 3 ∨ v = .int 1 := by simpa [listed, Cell.contents] using hv
      all_goals trivial
    | i + 2 => simp [listed, World.cell?] at hc
  classes i info h := by simp [listed, World.class?] at h
  named e he := by simp [listed] at he
  inBounds i hi := hi.elim
  emptyTuple := ⟨by decide, id⟩

theorem listed_readable {p : Value} (hp : p ∈ [.int 0, .text "copy"]) :
    listed.Readable 1 (.list [.int 3, .int 1]) .list p := by
  simp only [List.mem_cons, List.not_mem_nil, or_false] at hp
  rcases hp with rfl | rfl
  · refine ⟨trivial, steady_templateText? (.int 0), by simp [World.entry], ?_⟩
    rintro w₁ n ⟨-, hindex, -, -⟩
    have hfirst : outcome (indexTarget (.ref 1) (.ref 1) (.int 0)) listed = (.ok (.int 3), listed) :=
      rfl
    simp [hfirst] at hindex
  · refine ⟨trivial, steady_templateText? (.text "copy"), by simp [World.entry], ?_⟩
    rintro w₁ n ⟨-, -, htext, haccessor⟩
    have hcopy : outcome (templateText? (.text "copy")) listed = (.ok (some "copy"), listed) := rfl
    obtain ⟨hname, rfl⟩ := Prod.mk.inj (hcopy.symm.trans htext)
    obtain rfl := Option.some.inj (Except.ok.inj hname)
    obtain rfl : "copy" = n := Option.some.inj haccessor
    exact ⟨by decide, by decide⟩

end TemplateEngine
