import TemplateEngine.Proofs.BindingsRun
import TemplateEngine.Render.Unit
/-!
The scope of a unit. Units are attached to each other one after the other, under folded names; a
unit sees its own sub-units, else the units beside it, else the global variables.
-/
namespace TemplateEngine

namespace Forest

/-- Forests that come about as units are added and attached, none of which was refused. -/
inductive Built : Forest → Prop
  | empty : Built []
  | added {f : Forest} : Built f → Built (f ++ [⟨none, []⟩])
  | attached {f f' : Forest} {owner child : UnitId} {name : Option String} : Built f →
      f.attach owner (name.map Text.foldCase) child = (.ok (), f') → Built f'

/-- A registry of units under folded names. -/
structure Registry (units : Table String UnitId) : Prop where
  folded : ∀ key ∈ Table.keys units, Text.foldCase key = key
  distinct : (Table.keys units).Nodup

theorem registry_empty : Registry [] := ⟨by simp [Table.keys], by simp [Table.keys]⟩

theorem Registry.insert {units : Table String UnitId} (h : Registry units) (name : String)
    (child : UnitId) : Registry (Table.insert units (Text.foldCase name) child) where
  folded key hkey := by
    rcases (Table.mem_keys_insert units _ key child).mp hkey with rfl | hkey
    · exact Text.foldCase_foldCase name
    · exact h.folded key hkey
  distinct := Table.nodup_keys_insert units _ child h.distinct

theorem registry_register {f : Forest} (h : ∀ u, Registry (f.subs u)) (owner child : UnitId)
    (name : String) (u : UnitId) :
    Registry ((f.register owner (Text.foldCase name) child).subs u) := by
  by_cases hu : owner = u
  · subst hu
    have hsubs := h owner
    cases hn : f[owner]? with
    | none => simpa [subs, node, register, List.getD_eq_getElem?_getD, hn] using hsubs
    | some n =>
      have hn' : Registry n.subs := by
        simpa [subs, node, List.getD_eq_getElem?_getD, hn] using hsubs
      simpa [subs, node, register, List.getD_eq_getElem?_getD, hn] using hn'.insert name child
  · rw [subs, node_register _ _ _ _ _ hu]
    exact h u

/-- An attachment claims the child, unless it is claimed already, and registers it. -/
theorem attach_ok {f f' : Forest} {owner child : UnitId} {name : Option String}
    (h : f.attach owner name child = (.ok (), f')) :
    ∃ text, name = some text ∧
      (f' = f.register owner text child ∨ f' = (f.claim child owner).register owner text child) := by
  cases name with
  | none =>
    unfold attach at h
    split at h
    · split at h <;> simp [attach.finish] at h
    · simp [attach.finish] at h
  | some text =>
    refine ⟨text, rfl, ?_⟩
    unfold attach at h
    split at h
    · split at h
      · exact Or.inl (Prod.mk.inj h).2.symm
      · simp at h
    · exact Or.inr (Prod.mk.inj h).2.symm

/-- The sub-units of every unit are under folded names, one for each name. -/
theorem Built.registry {f : Forest} (h : f.Built) : ∀ u, Registry (f.subs u) := by
  induction h with
  | empty => exact fun u => registry_empty
  | @added f hf ih =>
    intro u
    have hsubs : subs (f ++ [⟨none, []⟩]) u = f.subs u := by
      simp only [subs, node, List.getD_eq_getElem?_getD, List.getElem?_append]
      split
      · rfl
      · rename_i hlt
        rw [List.getElem?_eq_none (Nat.le_of_not_lt hlt)]
        cases u - f.length <;> simp
    exact hsubs ▸ ih u
  | @attached f f' owner child name hf hok ih =>
    obtain ⟨folded, hname, hf'⟩ := attach_ok hok
    obtain ⟨text, -, rfl⟩ := Option.map_eq_some_iff.mp hname
    rcases hf' with rfl | rfl
    · exact registry_register ih owner child text
    · exact registry_register (fun u => (subs_claim f child owner u).symm ▸ ih u) owner child text

theorem Built.registry_siblings {f : Forest} (h : f.Built) (u : UnitId) :
    Registry ((f.siblings? u).getD []) := by
  cases howner : f.owner? u with
  | none => simpa [siblings?, howner] using registry_empty
  | some owner => simpa [siblings?, howner] using h.registry owner

/-- An attachment that does not fail keeps the forest built. -/
theorem Built.attachUnit {w w' : World} {owner child : UnitId} {name : Value}
    (h : w.forest.Built) (hok : outcome (attachUnit owner name child) w = (.ok (), w')) :
    w'.forest.Built := by
  rcases hattach : w.forest.attach owner ((w.text? name).map Text.foldCase) child with
    ⟨result, forest⟩
  simp only [TemplateEngine.attachUnit, outcome_get_bind, hattach, outcome_modify_bind] at hok
  cases result with
  | ok _ =>
    obtain ⟨-, rfl⟩ := Prod.mk.inj hok
    exact .attached h hattach
  | error e =>
    cases e with
    | nameNotText => simp at hok
    | alreadyAttached =>
      rw [outcome_bind] at hok
      split at hok <;> simp at hok

end Forest

/-- The value of the last entry under a folded name. -/
def lastNamed? (entries : List (Name Value × Value)) (key : String) : Option Value :=
  (entries.reverse.find? fun e => e.1.folded == key).map Prod.snd

theorem lastNamed?_cons (e : Name Value × Value) (rest : List (Name Value × Value)) (key : String) :
    lastNamed? (e :: rest) key =
      (lastNamed? rest key).or (if e.1.folded = key then some e.2 else none) := by
  simp only [lastNamed?, List.reverse_cons, List.find?_append, Option.map_or]
  by_cases h : e.1.folded = key <;> simp [h]

namespace Scope

/-- After entries are written, a name means what the last of them under it says, or what it meant
before. -/
theorem get?_insertAll (entries : List (Name Value × Value)) :
    ∀ {s : Scope Value Value} {d : Dictionary Value Value}, s.Shows d → ∀ text,
      (s.insertAll entries).get? text =
        (lastNamed? entries (Text.foldCase text)).or (s.get? text) := by
  induction entries with
  | nil => exact fun _ _ => rfl
  | cons e rest ih =>
    intro s d hs text
    have hinsert := hs.insert e.1 e.2
    have hwritten : (s.insert e.1 e.2).get? text =
        (if e.1.folded = Text.foldCase text then some e.2 else none).or (s.get? text) := by
      rw [hinsert.get?_eq, hs.get?_eq]
      split
      · rename_i hname
        simp [hname, Table.get?_insert_self]
      · rename_i hname
        simp [Table.get?_insert_of_ne _ _ (Ne.symm hname)]
    calc (s.insertAll (e :: rest)).get? text
        = ((s.insert e.1 e.2).insertAll rest).get? text := rfl
      _ = (lastNamed? rest (Text.foldCase text)).or ((s.insert e.1 e.2).get? text) :=
        ih hinsert text
      _ = (lastNamed? (e :: rest) (Text.foldCase text)).or (s.get? text) := by
        rw [hwritten, lastNamed?_cons, Option.or_assoc]

end Scope

namespace Forest

/-- What a unit sees under a folded name: its own sub-unit, else the unit beside it, else the last
global variable. -/
def seen? (f : Forest) (entries : List (Name Value × Value)) (u : UnitId) (key : String) :
    Option Value :=
  ((((f.subs u).get? key).or ((f.siblings? u).bind (Table.get? · key))).map Value.unit).or
    (lastNamed? entries key)

/-- The entries that units under names give to a scope. -/
def named (units : Table String UnitId) : List (Name Value × Value) :=
  units.map fun (name, u) => (⟨name, .text name⟩, .unit u)

/-- The global variables, overlaid by the units beside a unit and by its own ones. -/
def overlaid (f : Forest) (entries : List (Name Value × Value)) (u : UnitId) : Scope Value Value :=
  ((Scope.ofEntries entries).insertAll (named ((f.siblings? u).getD []))).insertAll
    (named (f.subs u))

theorem Registry.lastNamed?_named {units : Table String UnitId} (h : Registry units)
    (key : String) : lastNamed? (named units) key = (units.get? key).map Value.unit := by
  induction units with
  | nil => rfl
  | cons e rest ih =>
    obtain ⟨name, u⟩ := e
    have hdistinct : name ∉ Table.keys rest ∧ (Table.keys rest).Nodup :=
      List.nodup_cons.mp h.distinct
    have hrest : Registry rest :=
      ⟨fun k hk => h.folded k (List.mem_cons_of_mem _ hk), hdistinct.2⟩
    have hname : Text.foldCase name = name := h.folded name List.mem_cons_self
    have hlast : lastNamed? (named ((name, u) :: rest)) key =
        ((Table.get? rest key).map Value.unit).or
          (if name = key then some (.unit u) else none) := by
      rw [named, List.map_cons, lastNamed?_cons, Name.folded, hname]
      exact congrArg (Option.or · _) (ih hrest)
    rw [hlast]
    by_cases hk : name = key
    · subst hk
      simp [Table.get?, (Table.get?_eq_none_iff rest name).mpr hdistinct.1]
    · simp [Table.get?, hk]

/-- The scope of a unit binds every name to what the unit sees under it. -/
theorem Built.get?_overlaid {f : Forest} (h : f.Built) (entries : List (Name Value × Value))
    (u : UnitId) (text : String) :
    (f.overlaid entries u).get? text = f.seen? entries u (Text.foldCase text) := by
  have hglobals : (Scope.ofEntries entries).Shows _ := Scope.shows_empty.insertAll entries
  have hbeside := hglobals.insertAll (named ((f.siblings? u).getD []))
  have hsiblings : Table.get? ((f.siblings? u).getD []) (Text.foldCase text) =
      (f.siblings? u).bind (Table.get? · (Text.foldCase text)) := by
    cases f.siblings? u <;> rfl
  rw [overlaid, Scope.get?_insertAll _ hbeside, Scope.get?_insertAll _ hglobals, Scope.ofEntries,
    Scope.get?_insertAll _ Scope.shows_empty, (h.registry u).lastNamed?_named,
    (h.registry_siblings u).lastNamed?_named, hsiblings, seen?, Option.map_or, Option.or_assoc]
  simp [Scope.get?, Scope.spelling?, Scope.empty, Table.get?]

end Forest

/-- The scope of a unit is a new one, and nothing else changes. -/
theorem outcome_unitScope {w : World} {globals : Value} {entries : List (Name Value × Value)}
    (h : w.starts? globals = some entries) (u : UnitId) :
    outcome (unitScope globals u) w =
      (.ok (.ref w.cells.size), w.withCell (.bindings (w.forest.overlaid entries u))) := by
  have hcell := World.cell?_withCell_self w (.bindings (Scope.ofEntries entries))
  simp only [unitScope, outcome_bind_ok (Bindings.outcome_make h), outcome_get_bind,
    outcome_bind_ok (Bindings.outcome_scopeOf hcell),
    outcome_bind_ok (Bindings.outcome_setScope hcell _), World.withCell_withScope]
  rfl

end TemplateEngine
