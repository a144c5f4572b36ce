import TemplateEngine.Table
/-!
Units and their owners. A unit has named sub-units and at most one owner; the sub-units of its owner
are its siblings.
-/
namespace TemplateEngine

abbrev UnitId := Nat

/-- A unit: the unit that owns it, and its own sub-units under folded names. -/
structure UnitNode where
  owner : Option UnitId
  subs : Table String UnitId
deriving DecidableEq, Repr

/-- All units, by number. -/
abbrev Forest := List UnitNode

/-- Why a unit was not attached. -/
inductive AttachError
  | alreadyAttached
  | nameNotText
deriving DecidableEq, Repr

namespace Forest

def node (f : Forest) (u : UnitId) : UnitNode := f.getD u ⟨none, []⟩

def subs (f : Forest) (u : UnitId) : Table String UnitId := (f.node u).subs

def owner? (f : Forest) (u : UnitId) : Option UnitId := (f.node u).owner

def siblings? (f : Forest) (u : UnitId) : Option (Table String UnitId) :=
  (f.owner? u).map f.subs

def claim (f : Forest) (child owner : UnitId) : Forest :=
  f.modify child fun n => { n with owner := some owner }

theorem node_claim (f : Forest) (child owner u : UnitId) (h : child ≠ u) :
    (f.claim child owner).node u = f.node u := by
  simp [node, claim, List.getD_eq_getElem?_getD, h]

theorem subs_claim (f : Forest) (child owner u : UnitId) :
    (f.claim child owner).subs u = f.subs u := by
  by_cases h : child = u
  · subst h
    cases hn : f[child]? <;> simp [subs, node, claim, List.getD_eq_getElem?_getD, hn]
  · simp [subs, node_claim _ _ _ _ h]

def register (f : Forest) (owner : UnitId) (name : String) (child : UnitId) : Forest :=
  f.modify owner fun n => { n with subs := n.subs.insert name child }

theorem node_register (f : Forest) (owner child u : UnitId) (name : String) (h : owner ≠ u) :
    (f.register owner name child).node u = f.node u := by
  simp [node, register, List.getD_eq_getElem?_getD, h]

theorem owner?_register (f : Forest) (owner child u : UnitId) (name : String) :
    (f.register owner name child).owner? u = f.owner? u := by
  by_cases h : owner = u
  · subst h
    cases hn : f[owner]? <;> simp [owner?, node, register, List.getD_eq_getElem?_getD, hn]
  · simp [owner?, node_register _ _ _ _ _ h]

/-- Attaches `child` to `owner` under a folded name. The owner is set before the name is looked at,
so a name that is no text fails with the owner already set. -/
def attach (f : Forest) (owner : UnitId) (name : Option String) (child : UnitId) :
    Except AttachError Unit × Forest :=
  match f.owner? child with
  | some other =>
    if other = owner then finish f else (.error .alreadyAttached, f)
  | none => finish (f.claim child owner)
where
  finish (f : Forest) : Except AttachError Unit × Forest :=
    match name with
    | some name => (.ok (), f.register owner name child)
    | none => (.error .nameNotText, f)

end Forest

end TemplateEngine
