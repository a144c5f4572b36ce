import TemplateEngine.Proofs.Keys
import TemplateEngine.Proofs.Indexing
/-!
Resolution through optionals. An optional stands for what it holds, but for two things: a mapping or
a set is given an order after all, and a property that cannot be read is noticed on nothing.
-/
namespace TemplateEngine

namespace World

variable (w : World) (tag : Nat) (content : Value)

theorem layersWithin_ne_nil (fuel : Nat) (v : Value) : w.layersWithin fuel v ≠ [] := by
  cases fuel with
  | zero => simp [layersWithin]
  | succ fuel =>
    unfold layersWithin
    split <;> simp

/-- What is innermost does not depend on what is around it. -/
theorem getLastD_cons_layersWithin (fuel : Nat) (outer v : Value) :
    (outer :: w.layersWithin fuel v).getLastD outer = (w.layersWithin fuel v).getLastD v := by
  obtain ⟨first, rest, layers⟩ := List.exists_cons_of_ne_nil (w.layersWithin_ne_nil fuel v)
  simp only [layers, List.getLastD_cons]

theorem layers_optional :
    w.layers (.optional tag content) = .optional tag content :: w.layers content := by
  have hdepth : w.nesting (.optional tag content) = w.nesting content + 1 := by
    simp only [nesting, Value.depth]
    omega
  rw [layers, hdepth, layersWithin]
  rfl

theorem unwrap_optional : w.unwrap (.optional tag content) = w.unwrap content := by
  obtain ⟨v, rest, hlayers⟩ := List.exists_cons_of_ne_nil (w.layersWithin_ne_nil (w.nesting content) content)
  unfold unwrap
  rw [layers_optional, layers, hlayers]
  simp [List.getLastD]

theorem head_layers (v : Value) : ∃ rest, w.layers v = v :: rest := by
  obtain ⟨n, hn⟩ := w.nesting_eq_succ v
  rw [layers, hn, layersWithin]
  split
  · exact ⟨_, rfl⟩
  · exact ⟨[], rfl⟩

theorem layers_of_content (v : Value) (h : w.content? v = none) : w.layers v = [v] := by
  obtain ⟨n, hn⟩ := w.nesting_eq_succ v
  rw [layers, hn, layersWithin, h]

theorem unwrap_of_content (v : Value) (h : w.content? v = none) : w.unwrap v = v := by
  rw [unwrap, layers_of_content w v h]
  rfl

/-- An optional is neither a mapping nor a set. -/
theorem not_ordered_of_content (v content : Value) (h : w.content? v = some content) :
    (w.isMapping v || w.isSet v) = false := by
  have hbase : ∃ tag, w.base v = .optional tag content := by
    unfold content? at h
    split at h
    · rename_i tag c hbase
      exact ⟨tag, by simpa using Option.some.inj h ▸ hbase⟩
    · simp at h
  obtain ⟨tag, hbase⟩ := hbase
  have hcell : w.baseCell? v = none := by simp [baseCell?, hbase]
  cases v <;> simp_all [isMapping, mapping?, isSet, base]

end World

/-- The element that a number designates in what a target holds, whether that has an order or not. -/
def seek (content p : Value) : M Value := do
  match ← asIndex p with
  | some index => elementOfContent content index
  | none => return .null

variable {w w' : World} {p content target : Value}

theorem IsKey.ne_null (hp : IsKey p) : p ≠ .null := by cases hp <;> simp

/-- A computation that gives nothing is gone on with, and any other is not. -/
theorem outcome_orElse (x next : M Value) (w : World) :
    outcome (do orElse (← x) next) w =
      match outcome x w with
      | (.ok .null, w') => outcome next w'
      | r => r := by
  rw [outcome_bind]
  rcases outcome x w with ⟨f | v, w'⟩
  · rfl
  · by_cases hv : v = .null
    · subst hv
      rfl
    · simp only [orElse, if_neg hv, outcome_pure]
      split
      · rename_i heq
        simp_all
      · rfl

/-- A name is looked for among the entries, the members, the fields and the accessors of a target. -/
theorem outcome_resolveName (key : Value) (name : String) (w : World) :
    outcome (resolveName target key name) w = outcome
      ((if w.isMapping target then getEntry target key else pure .null) >>= fun found =>
        orElse found do
          orElse (← getEnumValue target name) do
            orElse (← getField target name) do
              invokeAccessor target name) w := by
  rw [resolveName, outcome_get_bind]
  cases w.isMapping target <;> rfl

/-- What comes next is given the name of a property, in the world that the making of its text
leaves. -/
theorem outcome_withName (next : String → M Value) (w : World) :
    outcome (withName p next) w =
      match outcome (templateText? p) w with
      | (.ok (some name), w') => if name = "" then (.ok .null, w') else outcome (next name) w'
      | (.ok none, w') => (.ok .null, w')
      | (.error f, w') => (.error f, w') := by
  rw [withName, outcome_bind]
  rcases outcome (templateText? p) w with ⟨_ | _ | name, w'⟩
  · rfl
  · rfl
  · by_cases hname : name = "" <;> simp [hname]

theorem outcome_seek_null (hp : IsKey p) (h : outcome (seek content p) w = (.ok .null, w')) :
    w.Drains content w' ∧ outcome (seek content p) w' = (.ok .null, w') := by
  obtain ⟨r, hr⟩ := settled_asIndex hp
  rcases r with f | _ | index
  · simp [seek, outcome_bind, hr] at h
  · obtain rfl : w = w' := by simpa [seek, outcome_bind, hr] using h
    exact ⟨Or.inl rfl, h⟩
  · have hrun : ∀ w, outcome (seek content p) w = outcome (elementOfContent content index) w := by
      intro w
      simp [seek, outcome_bind, hr]
    rw [hrun] at h ⊢
    exact elementOfContent_null h

theorem outcome_indexTarget (hp : IsKey p)
    (h : (w.isMapping target || w.isSet target) = false) :
    outcome (indexTarget target content p) w = outcome (seek content p) w := by
  obtain ⟨r, hr⟩ := settled_asIndex hp
  obtain ⟨hmapping, hset⟩ := Bool.or_eq_false_iff.mp h
  rcases r with f | _ | index <;>
    simp [indexTarget, seek, outcome_bind, hr, elementOfTarget, hmapping, hset]

theorem outcome_resolveThrough (hp : IsKey p) (ht : target ≠ .null) (inner : List Value) :
    outcome (resolveThrough p content (target :: inner)) w =
      outcome (do orElse (← indexTarget target content p) (withName p fun name =>
        if inner.isEmpty then resolveName target p name else resolveThrough p content inner)) w := by
  simp [resolveThrough, ht, hp.ne_null]

/-- What stands in a layer around another one is looked for once. -/
theorem outcome_resolveThrough_cons (hp : IsKey p) {layer : Value} (hl : layer ≠ .null)
    (hlayer : (w.isMapping layer || w.isSet layer) = false) (ht : target ≠ .null)
    (htarget : (w.isMapping target || w.isSet target) = false) (inner : List Value) :
    outcome (resolveThrough p content (layer :: target :: inner)) w =
      outcome (resolveThrough p content (target :: inner)) w := by
  obtain ⟨r, hr⟩ := settled_templateText? hp
  rw [outcome_resolveThrough hp hl, outcome_resolveThrough hp ht, outcome_orElse, outcome_orElse,
    outcome_indexTarget hp hlayer, outcome_indexTarget hp htarget]
  split
  · rename_i w' hnull
    obtain ⟨hdrains, hagain⟩ := outcome_seek_null hp hnull
    have htarget' : (w'.isMapping target || w'.isSet target) = false := by
      rw [hdrains.isMapping_eq, hdrains.isSet_eq, htarget]
    rcases r with f | _ | name
    · simp [withName, outcome_bind, hr]
    · simp [withName, outcome_bind, hr]
    · by_cases hname : name = ""
      · simp [withName, outcome_bind, hr, hname]
      · have hnext : ∀ next : String → M Value,
            outcome (withName p next) w' = outcome (next name) w' := by
          intro next
          simp [withName, outcome_bind, hr, hname]
        rw [hnext]
        simp only [List.isEmpty_cons, Bool.false_eq_true, if_false]
        rw [outcome_resolveThrough hp ht, outcome_orElse, outcome_indexTarget hp htarget', hagain]
  · rfl

/-- A value within optionals, one for each tag. -/
def wrap : List Nat → Value → Value
  | [], v => v
  | tag :: tags, v => .optional tag (wrap tags v)

/-- Optionals around an optional make no difference. -/
theorem outcome_resolveProperty_optional (hp : IsKey p) (tag : Nat) {v : Value} (hv : v ≠ .null)
    (hordered : (w.isMapping v || w.isSet v) = false) :
    outcome (resolveProperty (.optional tag v) p) w = outcome (resolveProperty v p) w := by
  obtain ⟨rest, hrest⟩ := w.head_layers v
  simp only [resolveProperty, outcome_get_bind, World.unwrap_optional, World.layers_optional, hrest]
  exact outcome_resolveThrough_cons hp (by simp) rfl hv hordered rest

theorem outcome_resolveProperty_wrap (hp : IsKey p) (tag : Nat) (tags : List Nat) (v : Value) :
    ∃ last, outcome (resolveProperty (wrap (tag :: tags) v) p) w =
      outcome (resolveProperty (.optional last v) p) w := by
  induction tags generalizing tag with
  | nil => exact ⟨tag, rfl⟩
  | cons next rest ih =>
    obtain ⟨last, hlast⟩ := ih next
    refine ⟨last, ?_⟩
    rw [← hlast]
    exact outcome_resolveProperty_optional hp tag (by simp [wrap]) rfl

/-- What resolution through an optional gives and resolution of its content does not: an element of
a mapping or a set, which have no order, and the failure of a property that nothing has. -/
inductive Misread (w : World) (p : Value) : Value → Except Fault Value × World → Prop
  | element {v : Value} {index : Int} (hv : (w.isMapping v || w.isSet v) = true)
      (hp : outcome (asIndex p) w = (.ok (some index), w))
      (h : (outcome (elementOfContent v index) w).1 ≠ .ok .null) :
      Misread w p v (outcome (elementOfContent v index) w)
  | index {f : Fault} (hp : outcome (asIndex p) w = (.error f, w)) :
      Misread w p .null (.error f, w)
  | name {index : Option Int} {f : Fault} (hp : outcome (asIndex p) w = (.ok index, w))
      (hname : outcome (templateText? p) w = (.error f, w)) : Misread w p .null (.error f, w)

/-- Through an optional, what an optional holds is asked for an element before its name is. -/
theorem outcome_in_optional (hp : IsKey p) (tag : Nat) {v : Value} (hv : w.content? v = none) :
    outcome (resolveProperty (.optional tag v) p) w =
      outcome (do orElse (← seek v p) (withName p fun _ => resolveThrough p v [v])) w := by
  simp only [resolveProperty, outcome_get_bind, World.unwrap_optional, World.layers_optional,
    World.layers_of_content w v hv, World.unwrap_of_content w v hv]
  rw [outcome_resolveThrough hp (by simp), outcome_orElse, outcome_orElse,
    outcome_indexTarget hp rfl]
  rfl

theorem outcome_without_optional {v : Value} (hv : w.content? v = none) :
    outcome (resolveProperty v p) w = outcome (resolveThrough p v [v]) w := by
  simp only [resolveProperty, outcome_get_bind, World.layers_of_content w v hv,
    World.unwrap_of_content w v hv]

theorem outcome_elementOfContent_nothing (w : World) (index : Int) :
    outcome (elementOfContent .null index) w = (.ok .null, w) := by
  simp [elementOfContent, World.enumClass?, collect, elementAt_nil, asObject, Value.isBare]

theorem outcome_seek_nothing {index : Option Int}
    (h : outcome (asIndex p) w = (.ok index, w)) :
    outcome (seek .null p) w = (.ok .null, w) := by
  cases index <;> simp [seek, outcome_bind, h, outcome_elementOfContent_nothing]

theorem resolveProperty_nothing (hp : IsKey p) (tag : Nat) :
    (∀ r, Misread w p .null r → outcome (resolveProperty (.optional tag .null) p) w = r) ∧
      ((∀ r, ¬ Misread w p .null r) →
        outcome (resolveProperty (.optional tag .null) p) w =
          outcome (resolveProperty .null p) w) := by
  have hcontent : w.content? .null = none := rfl
  rw [outcome_in_optional hp tag hcontent, outcome_orElse]
  refine ⟨fun r h => ?_, fun h => ?_⟩
  · cases h with
    | element hv => simp [World.isMapping, World.mapping?, World.isSet, World.baseCell?,
        World.base] at hv
    | index hindex => simp [seek, outcome_bind, hindex]
    | name hindex hname => simp [outcome_seek_nothing hindex, withName, outcome_bind, hname]
  · obtain ⟨r, hr⟩ := settled_asIndex hp
    cases r with
    | error f => exact absurd (.index (hr w)) (h _)
    | ok index =>
      obtain ⟨t, ht⟩ := settled_templateText? hp
      cases t with
      | error f => exact absurd (.name (hr w) (ht w)) (h _)
      | ok name =>
        rw [outcome_without_optional hcontent, outcome_seek_nothing (hr w)]
        cases name with
        | none => simp [withName, outcome_bind, ht, resolveThrough]
        | some name => by_cases hname : name = "" <;>
            simp [withName, outcome_bind, ht, hname, resolveThrough]

/-- A mapping or a set that is asked itself is asked by name only. -/
theorem outcome_resolveThrough_ordered (hp : IsKey p) {v : Value} (hv : v ≠ .null)
    (hordered : (w.isMapping v || w.isSet v) = true) {index : Option Int}
    (hindex : outcome (asIndex p) w = (.ok index, w)) :
    outcome (resolveThrough p v [v]) w =
      outcome (withName p fun name => resolveName v p name) w := by
  rw [outcome_resolveThrough hp hv, outcome_orElse]
  have hnone : outcome (indexTarget v v p) w = (.ok .null, w) := by
    have hordered' : w.isMapping v = true ∨ w.isSet v = true := by simpa using hordered
    cases index <;> simp [indexTarget, outcome_bind, hindex, elementOfTarget, hordered']
  rw [hnone]
  rfl

theorem resolveProperty_ordered (hp : IsKey p) (tag : Nat) {v : Value} (hv : v ≠ .null)
    (hcontent : w.content? v = none) (hordered : (w.isMapping v || w.isSet v) = true) :
    (∀ r, Misread w p v r → outcome (resolveProperty (.optional tag v) p) w = r) ∧
      ((∀ r, ¬ Misread w p v r) →
        outcome (resolveProperty (.optional tag v) p) w = outcome (resolveProperty v p) w) := by
  rw [outcome_in_optional hp tag hcontent, outcome_orElse, outcome_without_optional hcontent]
  refine ⟨fun r h => ?_, fun h => ?_⟩
  · cases h with
    | element _ hindex hne =>
      rename_i index hordered'
      have hseek : outcome (seek v p) w = outcome (elementOfContent v index) w := by
        simp [seek, outcome_bind, hindex]
      rw [hseek]
      split
      · rename_i w' hnull
        exact absurd (by rw [hnull]) hne
      · rfl
    | index => exact absurd rfl hv
    | name => exact absurd rfl hv
  · obtain ⟨r, hr⟩ := settled_asIndex hp
    obtain ⟨t, ht⟩ := settled_templateText? hp
    -- Both runs go on with the name, in the same world.
    have hgo : ∀ index, outcome (asIndex p) w = (.ok index, w) →
        outcome (withName p fun _ => resolveThrough p v [v]) w =
          outcome (resolveThrough p v [v]) w := by
      intro index hindex
      rw [outcome_resolveThrough_ordered hp hv hordered hindex]
      rcases t with f | _ | name
      · simp [withName, outcome_bind, ht]
      · simp [withName, outcome_bind, ht]
      · by_cases hname : name = ""
        · simp [withName, outcome_bind, ht, hname]
        · simp only [withName, outcome_bind, ht, String.isEmpty_iff, hname, if_false]
          rw [outcome_resolveThrough_ordered hp hv hordered hindex]
          simp [withName, outcome_bind, ht, hname]
    rcases r with f | _ | index
    · simp [seek, outcome_bind, hr, outcome_resolveThrough hp hv, indexTarget]
    · have hseek : outcome (seek v p) w = (.ok .null, w) := by simp [seek, outcome_bind, hr]
      rw [hseek]
      exact hgo none (hr w)
    · have hseek : outcome (seek v p) w = outcome (elementOfContent v index) w := by
        simp [seek, outcome_bind, hr]
      have hnull : (outcome (elementOfContent v index) w).1 = .ok .null := by
        by_contra hne
        exact h _ (.element hordered (hr w) hne)
      obtain ⟨w', hw'⟩ : ∃ w', outcome (elementOfContent v index) w = (.ok .null, w') :=
        ⟨_, Prod.ext hnull rfl⟩
      obtain rfl := (elementOfContent_null hw').1.eq_of_not_ordered hordered
      rw [hseek, hw']
      exact hgo _ (hr _)

/-- Resolving a property on a value within optionals gives what a misreading gives, or else what the
value itself gives. -/
theorem resolveProperty_wrap (hp : IsKey p) (tag : Nat) (tags : List Nat) (v : Value) :
    (∀ r, Misread w p v r → outcome (resolveProperty (wrap (tag :: tags) v) p) w = r) ∧
      ((∀ r, ¬ Misread w p v r) →
        outcome (resolveProperty (wrap (tag :: tags) v) p) w =
          outcome (resolveProperty v p) w) := by
  obtain ⟨last, hlast⟩ := outcome_resolveProperty_wrap hp tag tags v
  rw [hlast]
  by_cases hv : v = .null
  · subst hv
    exact resolveProperty_nothing hp last
  cases hordered : w.isMapping v || w.isSet v with
  | false =>
    refine ⟨fun r h => ?_, fun _ => outcome_resolveProperty_optional hp last hv hordered⟩
    cases h with
    | element hv' => simp [hordered] at hv'
    | index => exact absurd rfl hv
    | name => exact absurd rfl hv
  | true =>
    cases hcontent : w.content? v with
    | none => exact resolveProperty_ordered hp last hv hcontent hordered
    | some c => simp [World.not_ordered_of_content w v c hcontent] at hordered

/-- A world with a mapping in it. -/
def keyed : World := { cells := #[.tuple [], .dict false [(.text "a", .int 1)]] }

/-- The keys of the mapping have no order, but an optional that holds it has a first element. -/
theorem resolveProperty_wrap_mapping :
    keyed.isMapping (.ref 1) = true ∧
      outcome (resolveProperty (wrap [2] (.ref 1)) (.int 0)) keyed = (.ok (.text "a"), keyed) := by
  have helement : outcome (elementOfContent (.ref 1) 0) keyed = (.ok (.text "a"), keyed) := by
    rfl
  have hmisread : Misread keyed (.int 0) (.ref 1) (.ok (.text "a"), keyed) := by
    rw [← helement]
    exact .element rfl rfl (by rw [helement]; simp)
  exact ⟨rfl, (resolveProperty_wrap (.int 0) 2 [] (.ref 1)).1 _ hmisread⟩

end TemplateEngine
