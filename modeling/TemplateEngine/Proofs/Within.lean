import TemplateEngine.Attributes
import TemplateEngine.Proofs.Cells
import Mathlib.Data.Set.Basic
/-!
What data refer to. Data are within a set of cells when every reference in them is to one of these
cells; a larger set has more data within it, and data within two sets are within what is in both.
-/
namespace TemplateEngine

/-- Data that may hold references to cells. -/
class Referring (α : Type) where
  Within : Set Nat → α → Prop
  meet : ∀ {A B C : Set Nat} {a : α}, A ∩ B ⊆ C → Within A a → Within B a → Within C a

export Referring (Within)

theorem Referring.mono {α : Type} [Referring α] {A B : Set Nat} {a : α} (hAB : A ⊆ B)
    (h : Within A a) : Within B a :=
  meet (fun _ hi => hAB hi.1) h h

/-- Data without any reference. -/
class Plain (α : Type) : Prop where

instance : Plain Unit := ⟨⟩
instance : Plain Bool := ⟨⟩
instance : Plain Nat := ⟨⟩
instance : Plain Int := ⟨⟩
instance : Plain UInt8 := ⟨⟩
instance : Plain String := ⟨⟩
instance : Plain Binary64 := ⟨⟩
instance : Plain ClassId := ⟨⟩

section

variable {α β : Type} {A B : Set Nat}

instance [Plain α] : Referring α where
  Within _ _ := True
  meet _ _ _ := trivial

@[simp] theorem within_plain [Plain α] (a : α) : Within A a := trivial

instance [Referring α] : Referring (List α) where
  Within A l := ∀ a ∈ l, Within A a
  meet hC h h' a ha := Referring.meet hC (h a ha) (h' a ha)

@[simp] theorem within_list [Referring α] (l : List α) : Within A l ↔ ∀ a ∈ l, Within A a := Iff.rfl

theorem within_cons [Referring α] {a : α} {l : List α} :
    Within A (a :: l) ↔ Within A a ∧ Within A l := List.forall_mem_cons

instance [Referring α] : Referring (Option α) where
  Within A o := ∀ a, o = some a → Within A a
  meet hC h h' a ha := Referring.meet hC (h a ha) (h' a ha)

@[simp] theorem within_none [Referring α] : Within A (none : Option α) := by
  intro a ha
  simp at ha

@[simp] theorem within_some [Referring α] (a : α) : Within A (some a) ↔ Within A a :=
  ⟨fun h => h a rfl, fun h _ hb => Option.some.inj hb ▸ h⟩

theorem within_map [Referring β] {l : List α} {f : α → β} (h : ∀ a ∈ l, Within A (f a)) :
    Within A (l.map f) := by
  intro b hb
  obtain ⟨a, ha, rfl⟩ := List.mem_map.mp hb
  exact h a ha

theorem within_optionMap [Referring β] {o : Option α} {f : α → β}
    (h : ∀ a, o = some a → Within A (f a)) : Within A (o.map f) := by
  intro b hb
  obtain ⟨a, ha, rfl⟩ := Option.map_eq_some_iff.mp hb
  exact h a ha

instance [Referring α] [Referring β] : Referring (α × β) where
  Within A p := Within A p.1 ∧ Within A p.2
  meet hC h h' := ⟨Referring.meet hC h.1 h'.1, Referring.meet hC h.2 h'.2⟩

@[simp] theorem within_pair [Referring α] [Referring β] (p : α × β) :
    Within A p ↔ Within A p.1 ∧ Within A p.2 := Iff.rfl

theorem within_ite [Referring α] {p : Prop} [Decidable p] {a b : α} (ha : Within A a)
    (hb : Within A b) : Within A (if p then a else b) := by
  split
  · exact ha
  · exact hb

theorem within_zip [Referring α] [Referring β] {as : List α} {bs : List β} (ha : Within A as)
    (hb : Within A bs) : Within A (as.zip bs) :=
  fun _ he => ⟨ha _ (List.of_mem_zip he).1, hb _ (List.of_mem_zip he).2⟩

/-- A result is within a set when it is a failure or its value is. -/
instance [Referring α] : Referring (Except Fault α) where
  Within A r := ∀ a, r = .ok a → Within A a
  meet hC h h' a ha := Referring.meet hC (h a ha) (h' a ha)

@[simp] theorem within_ok [Referring α] (a : α) : Within A (.ok a : Except Fault α) ↔ Within A a :=
  ⟨fun h => h a rfl, fun h _ hb => Except.ok.inj hb ▸ h⟩

@[simp] theorem within_error [Referring α] (f : Fault) : Within A (.error f : Except Fault α) := by
  intro a ha
  simp at ha

end

section

variable {A B C : Set Nat}

@[simp] def Value.Within (A : Set Nat) : Value → Prop
  | .ref i => i ∈ A
  | .optional _ v | .view _ v | .readOnly _ v | .part _ _ v | .bound _ _ _ v => v.Within A
  | _ => True

theorem Value.Within.meet {v : Value} (hC : A ∩ B ⊆ C) (h : v.Within A) (h' : v.Within B) :
    v.Within C := by
  induction v with
  | ref i => exact hC ⟨h, h'⟩
  | optional _ _ ih | view _ _ ih | readOnly _ _ ih | part _ _ _ ih | bound _ _ _ _ ih =>
    exact ih h h'
  | _ => trivial

instance : Referring Value where
  Within := Value.Within
  meet := Value.Within.meet

@[simp] theorem within_value (v : Value) : Within A v ↔ v.Within A := Iff.rfl

/-- A NaN may be marked; this changes no reference. -/
@[simp] theorem within_marked (mark : Nat) (v : Value) :
    (v.marked mark).Within A ↔ v.Within A := by
  cases v <;> simp [Value.marked]

def Elements.Within (A : Set Nat) : Elements → Prop
  | .list items => TemplateEngine.Within A items
  | .range .. => True

instance : Referring Elements where
  Within := Elements.Within
  meet {_ _ _ e} hC h h' := by
    cases e with
    | list items => exact Referring.meet (a := items) hC h h'
    | range => trivial

theorem within_get? {e : Elements} (h : Within A e) (i : Nat) : Within A (e.get? i) := by
  cases e with
  | list items => exact fun v hv => h v (List.mem_of_getElem? hv)
  | range start stop step =>
    intro v hv
    simp only [Elements.get?] at hv
    split at hv
    · obtain rfl := Option.some.inj hv
      trivial
    · simp at hv

theorem within_toList {e : Elements} (h : Within A e) : Within A e.toList := by
  intro v hv
  obtain ⟨i, hi⟩ := List.mem_iff_getElem?.mp hv
  rw [Elements.getElem?_toList] at hi
  exact within_get? h i v hi

instance : Referring Cell where
  Within A c := Within A c.contents
  meet {_ _ _ c} hC h h' := Referring.meet (a := c.contents) hC h h'

theorem within_cell {c : Cell} : Within A c ↔ ∀ v ∈ c.contents, Within A v := Iff.rfl

instance : Referring (Scope Value Value) where
  Within A s := ∀ e ∈ s.values, Within A e.2
  meet hC h h' e he := Referring.meet hC (h e he) (h' e he)

instance : Referring EnumName where
  Within A n := Within A n.value
  meet {_ _ _ n} hC h h' := Referring.meet (a := n.value) hC h h'

mutual

def Recipe.Within (A : Set Nat) : Recipe → Prop
  | .known v | .number v => v.Within A
  | .collection _ items => Recipe.AllWithin A items
  | .table _ keys values => Recipe.AllWithin A keys ∧ Recipe.AllWithin A values
  | .view r | .optional r => r.Within A
  | .named _ _ values => Recipe.AllWithin A values
  | .object _ _ values base => Recipe.AllWithin A values ∧ Recipe.AllWithin A base
  | _ => True

def Recipe.AllWithin (A : Set Nat) : List Recipe → Prop
  | [] => True
  | r :: rest => r.Within A ∧ Recipe.AllWithin A rest

end

def Action.Within (A : Set Nat) : Action → Prop
  | .give r => r.Within A
  | .lookUp keys values => Recipe.AllWithin A keys ∧ Recipe.AllWithin A values
  | _ => True

def Member.Within (A : Set Nat) : Member → Prop
  | .constant v => v.Within A
  | .computed action => action.Within A
  | .routine r => r.action.Within A
  | _ => True

mutual

theorem Recipe.Within.meet (hC : A ∩ B ⊆ C) : ∀ r : Recipe, r.Within A → r.Within B → r.Within C
  | .known v, h, h' | .number v, h, h' => Value.Within.meet (v := v) hC h h'
  | .collection _ items, h, h' => AllWithin.meet hC items h h'
  | .table _ keys values, h, h' =>
    ⟨AllWithin.meet hC keys h.1 h'.1, AllWithin.meet hC values h.2 h'.2⟩
  | .view r, h, h' | .optional r, h, h' => Within.meet hC r h h'
  | .named _ _ values, h, h' => AllWithin.meet hC values h h'
  | .object _ _ values base, h, h' =>
    ⟨AllWithin.meet hC values h.1 h'.1, AllWithin.meet hC base h.2 h'.2⟩
  | .bytearray _, _, _ | .type _, _, _ | .member .., _, _ | .flags .., _, _ | .accessor .., _, _
  | .unit _, _, _ | .variable _, _, _ => trivial

theorem Recipe.AllWithin.meet (hC : A ∩ B ⊆ C) :
    ∀ rs : List Recipe, Recipe.AllWithin A rs → Recipe.AllWithin B rs → Recipe.AllWithin C rs
  | [], _, _ => trivial
  | r :: rest, h, h' => ⟨Within.meet hC r h.1 h'.1, AllWithin.meet hC rest h.2 h'.2⟩

end

theorem Recipe.AllWithin.mono (hAB : A ⊆ B) (rs : List Recipe) (h : Recipe.AllWithin A rs) :
    Recipe.AllWithin B rs :=
  AllWithin.meet (fun _ hi => hAB hi.1) rs h h

instance : Referring Recipe where
  Within := Recipe.Within
  meet hC h h' := Recipe.Within.meet hC _ h h'

theorem within_recipes {rs : List Recipe} : Recipe.AllWithin A rs ↔ Within A rs := by
  induction rs with
  | nil => simp [Recipe.AllWithin]
  | cons r rest ih =>
    simp only [Recipe.AllWithin, ih, within_list, List.forall_mem_cons]
    rfl

theorem Action.Within.meet {action : Action} (hC : A ∩ B ⊆ C) (h : action.Within A)
    (h' : action.Within B) : action.Within C := by
  cases action with
  | give r => exact Recipe.Within.meet hC r h h'
  | lookUp keys values =>
    exact ⟨Recipe.AllWithin.meet hC keys h.1 h'.1, Recipe.AllWithin.meet hC values h.2 h'.2⟩
  | _ => trivial

instance : Referring Action where
  Within := Action.Within
  meet := Action.Within.meet

instance : Referring Member where
  Within := Member.Within
  meet {_ _ _ m} hC h h' := by
    cases m with
    | constant => exact Value.Within.meet hC h h'
    | computed | routine => exact Action.Within.meet hC h h'
    | _ => trivial

instance : Referring ClassInfo where
  Within A info := (∀ e ∈ info.members, Within A e.2) ∧ Within A info.names
  meet hC h h' :=
    ⟨fun e he => Referring.meet hC (h.1 e he) (h'.1 e he), Referring.meet hC h.2 h'.2⟩

end

end TemplateEngine
