import TemplateEngine.Settings.Config
import TemplateEngine.Proofs.Growth
import TemplateEngine.Proofs.Keys
import TemplateEngine.Proofs.Layers
/-!
The text of settings. A value that was just made of settings is written out as the settings say, in
whatever world it is made and whatever is made after it: it shares no list and no table with anything
else.
-/
namespace TemplateEngine

variable {w w' w'' : World} {v : Value}

/-- A value that stands alone in files and environments. -/
inductive Value.IsScalar : Value → Prop
  | null : IsScalar .null
  | bool (b : Bool) : IsScalar (.bool b)
  | int (n : Int) : IsScalar (.int n)
  | float (x : Binary64) : IsScalar (.float x)
  | text (s : String) : IsScalar (.text s)
  | date (d : Date) : IsScalar (.date d)
  | time (t : TimeOfDay) : IsScalar (.time t)
  | moment (m : Moment) : IsScalar (.moment m)

/-- The display form of a value that refers to nothing. -/
def Value.shown (v : Value) : Except Fault String := World.showWithin {} 1 [] v

/-- The text of a scalar. -/
def Value.scalarText : Value → Except Fault String
  | .text s => .ok s
  | .date d => .ok d.toText
  | .time t => .ok t.toText
  | .moment m => .ok m.toText
  | v => v.shown

namespace Tree

mutual

/-- The display form of settings. -/
def shown : Tree String Value → Except Fault String
  | leaf v => v.shown
  | list items => return "[" ++ (← shownItems items) ++ "]"
  | table entries => return "\x7b" ++ (← shownEntries entries) ++ "\x7d"

def shownItems : List (Tree String Value) → Except Fault String
  | [] => .ok ""
  | [t] => t.shown
  | t :: rest => return (← t.shown) ++ ", " ++ (← shownItems rest)

def shownEntries : List (String × Tree String Value) → Except Fault String
  | [] => .ok ""
  | [(k, t)] => return Text.quoted k ++ ": " ++ (← t.shown)
  | (k, t) :: rest =>
    return Text.quoted k ++ ": " ++ (← t.shown) ++ ", " ++ (← shownEntries rest)

end

/-- The text of settings. -/
def text : Tree String Value → Except Fault String
  | leaf v => v.scalarText
  | t => t.shown

end Tree

/-! ## Scalars -/

theorem showWithin_scalar (h : v.IsScalar) (w : World) (fuel : Nat) (path : List Value) :
    w.showWithin (fuel + 1) path v = v.shown := by
  cases h <;> rfl

theorem Value.IsScalar.marked (h : v.IsScalar) (tag : Nat) : (v.marked tag).IsScalar := by
  cases h <;> first | exact .float _ | constructor

theorem shown_marked (h : v.IsScalar) (tag : Nat) : (v.marked tag).shown = v.shown := by
  cases h with
  | float x => cases x <;> rfl
  | _ => rfl

theorem scalarText_marked (h : v.IsScalar) (tag : Nat) :
    (v.marked tag).scalarText = v.scalarText := by
  cases h with
  | float x => exact shown_marked (.float x) tag
  | _ => rfl

theorem plainText_scalar (h : v.IsScalar) (w : World) : w.plainText v = v.scalarText := by
  cases h <;> rfl

/-! ## Making values -/

namespace World

/-- Whatever is being shown is in cells from some number on. -/
def PathFrom (b : Nat) (path : List Value) : Prop := ∀ x ∈ path, ∃ j, x = .ref j ∧ b ≤ j

theorem PathFrom.mono {b b' : Nat} {path : List Value} (h : PathFrom b' path) (hb : b ≤ b') :
    PathFrom b path := fun x hx => by
  obtain ⟨j, rfl, hj⟩ := h x hx
  exact ⟨j, rfl, hb.trans hj⟩

theorem PathFrom.not_mem {b i : Nat} {path : List Value} (h : PathFrom b path) (hi : i < b) :
    .ref i ∉ path := fun hx => by
  obtain ⟨j, hj, hle⟩ := h _ hx
  cases hj
  omega

theorem PathFrom.cons {i : Nat} {path : List Value} (h : PathFrom (i + 1) path) :
    PathFrom i (.ref i :: path) := by
  intro x hx
  rcases List.mem_cons.mp hx with rfl | hx
  · exact ⟨i, rfl, Nat.le_refl i⟩
  · exact h.mono (Nat.le_succ i) x hx

theorem Grows.size_le (h : w.Grows w') : w.cells.size ≤ w'.cells.size := by
  by_contra short
  have last : w'.cells.size < w.cells.size := by omega
  have there : w.cell? w'.cells.size = some w.cells[w'.cells.size] := Array.getElem?_eq_getElem last
  have found := h.cells _ _ there
  simp [World.cell?] at found

/-- What a value is that stands for settings. -/
def StandsFor (w : World) : Tree String Value → Value → Prop
  | .leaf a, v => ∃ tag, v = a ∨ v = a.marked tag
  | .list _, v => ∃ i items, v = .ref i ∧ w.cell? i = some (.list items)
  | .table _, v => ∃ i entries, v = .ref i ∧ w.cell? i = some (.dict false entries)

/-- Something was made in a world, with new cells only, and is displayed in one way from there on: in
more turns than there are new cells, and along any path that they are not on. -/
structure Displays (w w' : World) (display : World → Nat → List Value → Except Fault String)
    (shown : Except Fault String) : Prop where
  grows : w.Grows w'
  agrees : ∀ w'' fuel path, w'.Grows w'' → PathFrom w'.cells.size path →
    w'.cells.size < w.cells.size + fuel → display w'' fuel path = shown

/-- A new list around what was made. -/
theorem Displays.around {items : World → Nat → List Value → Except Fault String}
    {shown : Except Fault String} (h : Displays w w' items shown) (c : Cell) {left right : String}
    (turn : ∀ w'' n path, w''.cell? w'.cells.size = some c →
      .ref w'.cells.size ∉ path →
      w''.showWithin (n + 1) path (.ref w'.cells.size) = (do
        return left ++ (← items w'' n (.ref w'.cells.size :: path)) ++ right)) :
    Displays w (w'.withCell c)
      (fun w fuel path => w.showWithin fuel path (.ref w'.cells.size))
      (do return left ++ (← shown) ++ right) := by
  refine ⟨h.grows.trans (.withCell w' c), fun w'' fuel path later away room => ?_⟩
  have size : (w'.withCell c).cells.size = w'.cells.size + 1 := by simp [withCell]
  rw [size] at away room
  have grown := h.grows.size_le
  obtain ⟨n, rfl⟩ : ∃ n, fuel = n + 1 := ⟨fuel - 1, by omega⟩
  rw [turn w'' n path (later.cells _ _ (cell?_withCell_self w' c)) (away.not_mem (by omega)),
    h.agrees w'' n _ (.trans (.withCell w' c) later) away.cons (by omega)]

end World

open World

theorem made_scalar {a : Value} (h : a.IsScalar) (w : World) : ∃ v w',
    outcome (asObject a) w = (.ok v, w') ∧ w'.StandsFor (.leaf a) v ∧
      Displays w w' (fun w fuel path => w.showWithin fuel path v) a.shown := by
  by_cases bare : a.isBare = true
  · refine ⟨a.marked w.nextTag, { w with nextTag := w.nextTag + 1 }, by simp [asObject, bare],
      ⟨w.nextTag, .inr rfl⟩, .withTag w, fun w'' fuel path _ _ room => ?_⟩
    obtain ⟨n, rfl⟩ : ∃ n, fuel = n + 1 := ⟨fuel - 1, by dsimp only at room; omega⟩
    exact (showWithin_scalar (h.marked _) w'' n path).trans (shown_marked h _)
  · refine ⟨a, w, by simp [asObject, bare], ⟨0, .inl rfl⟩, .refl w, fun w'' fuel path _ _ room => ?_⟩
    obtain ⟨n, rfl⟩ : ∃ n, fuel = n + 1 := ⟨fuel - 1, by omega⟩
    exact showWithin_scalar h w'' n path

theorem showList_cons (show_ : Value → Except Fault String) (v : Value) (vs : List Value) :
    showList show_ (v :: vs) =
      if vs.isEmpty then show_ v else (do return (← show_ v) ++ ", " ++ (← showList show_ vs)) := by
  cases vs <;> rfl

theorem showEntries_cons (show_ : Value → Except Fault String) (k v : Value)
    (entries : List (Value × Value)) :
    showEntries show_ ((k, v) :: entries) =
      if entries.isEmpty then (do return (← show_ k) ++ ": " ++ (← show_ v))
      else (do
        return (← show_ k) ++ ": " ++ (← show_ v) ++ ", " ++ (← showEntries show_ entries)) := by
  cases entries <;> rfl

namespace Tree

theorem shownItems_cons (t : Tree String Value) (rest : List (Tree String Value)) :
    shownItems (t :: rest) =
      if rest.isEmpty then t.shown else (do return (← t.shown) ++ ", " ++ (← shownItems rest)) := by
  cases rest <;> rfl

theorem shownEntries_cons (k : String) (t : Tree String Value)
    (rest : List (String × Tree String Value)) :
    shownEntries ((k, t) :: rest) =
      if rest.isEmpty then (do return Text.quoted k ++ ": " ++ (← t.shown))
      else (do return Text.quoted k ++ ": " ++ (← t.shown) ++ ", " ++ (← shownEntries rest)) := by
  cases rest <;> rfl

end Tree

mutual

theorem made_toValue : ∀ (t : Tree String Value), t.Proper Value.IsScalar → ∀ w, ∃ v w',
    outcome (Settings.toValue (t.mapKeys Key.text)) w = (.ok v, w') ∧ w'.StandsFor t v ∧
      Displays w w' (fun w fuel path => w.showWithin fuel path v) t.shown
  | .leaf a, h, w => made_scalar h w
  | .list items, h, w => by
    obtain ⟨vs, w₁, made, -, displays⟩ := made_toValues items h w
    refine ⟨.ref w₁.cells.size, w₁.withCell (.list vs), ?_, ⟨_, vs, rfl, cell?_withCell_self w₁ _⟩,
      displays.around _ fun w'' n path there away => ?_⟩
    · rw [Tree.mapKeys, Settings.toValue, outcome_bind_ok made]
      rfl
    · simp [showWithin, there, away]
  | .table entries, h, w => by
    obtain ⟨es, w₁, made, -, displays⟩ := made_toEntries entries h.2 w
    refine ⟨.ref w₁.cells.size, w₁.withCell (.dict false es), ?_,
      ⟨_, es, rfl, cell?_withCell_self w₁ _⟩, displays.around _ fun w'' n path there away => ?_⟩
    · rw [Tree.mapKeys, Settings.toValue, outcome_bind_ok made]
      rfl
    · simp [showWithin, there, away]

theorem made_toValues : ∀ (ts : List (Tree String Value)), Tree.ProperItems Value.IsScalar ts →
    ∀ w, ∃ vs w', outcome (Settings.toValues (Tree.mapKeysList Key.text ts)) w = (.ok vs, w') ∧
      vs.isEmpty = ts.isEmpty ∧
      Displays w w' (fun w fuel path => showList (w.showWithin fuel path) vs) (Tree.shownItems ts)
  | [], _, w => ⟨[], w, rfl, rfl, .refl w, fun _ _ _ _ _ _ => rfl⟩
  | t :: rest, h, w => by
    obtain ⟨v, w₁, made, -, displays⟩ := made_toValue t h.1 w
    obtain ⟨vs, w₂, others, empty, more⟩ := made_toValues rest h.2 w₁
    refine ⟨v :: vs, w₂, ?_, rfl, displays.grows.trans more.grows,
      fun w'' fuel path later away room => ?_⟩
    · rw [Tree.mapKeysList, Settings.toValues, outcome_bind_ok made, outcome_bind_ok others]
      rfl
    · have first := displays.grows.size_le
      have second := more.grows.size_le
      have shown := displays.agrees w'' fuel path (more.grows.trans later) (away.mono second)
        (by omega)
      have showns := more.agrees w'' fuel path later away (by omega)
      rw [showList_cons, Tree.shownItems_cons, empty, shown, showns]

theorem made_toEntries : ∀ (es : List (String × Tree String Value)),
    Tree.ProperEntries Value.IsScalar es → ∀ w, ∃ entries w',
      outcome (Settings.toEntries (Tree.mapKeysEntries Key.text es)) w = (.ok entries, w') ∧
        entries.isEmpty = es.isEmpty ∧
        Displays w w' (fun w fuel path => showEntries (w.showWithin fuel path) entries)
          (Tree.shownEntries es)
  | [], _, w => ⟨[], w, rfl, rfl, .refl w, fun _ _ _ _ _ _ => rfl⟩
  | (k, t) :: rest, h, w => by
    obtain ⟨v, w₁, made, -, displays⟩ := made_toValue t h.1 w
    obtain ⟨entries, w₂, others, empty, more⟩ := made_toEntries rest h.2 w₁
    refine ⟨(.text k, v) :: entries, w₂, ?_, rfl, displays.grows.trans more.grows,
      fun w'' fuel path later away room => ?_⟩
    · rw [Tree.mapKeysEntries, Settings.toEntries, outcome_bind_ok made, outcome_bind_ok others]
      rfl
    · have first := displays.grows.size_le
      have second := more.grows.size_le
      have shown := displays.agrees w'' fuel path (more.grows.trans later) (away.mono second)
        (by omega)
      have showns := more.agrees w'' fuel path later away (by omega)
      obtain ⟨n, rfl⟩ : ∃ n, fuel = n + 1 := ⟨fuel - 1, by omega⟩
      have key : w''.showWithin (n + 1) path (.text k) = .ok (Text.quoted k) := rfl
      rw [showEntries_cons, Tree.shownEntries_cons, empty, key, shown, showns]
      rfl

end

/-! ## Texts -/

/-- A value whose class has a text method of a built-in class is written out in the plain way. -/
theorem outcome_textOf_native {owner : ClassId} {s : Standard} {use : NativeUse}
    (type : ∀ c, v ≠ .type c)
    (found : Classes.findMember? w.classes (w.classOf v) "__str__" = some (owner, .native s use)) :
    outcome (textOf v) w = (w.plainText v, w) := by
  have plain : outcome (textValueOf v) w = ((w.plainText v).map .text, w) := by
    change outcome (textFrom (Dispatch.within 499) v) w = _
    rw [textFrom, outcome_get_bind]
    dsimp only
    split
    · exact absurd rfl (type _)
    · rw [found]
      cases w.plainText v <;> rfl
  rw [textOf, outcome_bind, plain]
  cases w.plainText v <;> rfl

theorem outcome_textOf_scalar (h : v.IsScalar) (w : World) :
    outcome (textOf v) w = (v.scalarText, w) := by
  rw [← plainText_scalar h w]
  cases h <;> exact outcome_textOf_native (by simp) rfl

/-- Lists and plain mappings are written out as they are displayed. -/
theorem outcome_textOf_plain {i : Nat} {c : Cell} (there : w.cell? i = some c)
    (plain : (∃ vs, c = .list vs) ∨ ∃ es, c = .dict false es) :
    outcome (textOf (.ref i)) w = (w.display (.ref i), w) := by
  have found : Classes.findMember? w.classes (w.classOf (.ref i)) "__str__" =
      some (.standard .object, .native .object .accessor) := by
    simp only [World.classOf, there]
    obtain ⟨vs, rfl⟩ | ⟨es, rfl⟩ := plain <;> rfl
  rw [outcome_textOf_native (by simp) found]
  simp only [World.plainText, World.base_ref, there]
  obtain ⟨vs, rfl⟩ | ⟨es, rfl⟩ := plain <;> rfl

/-- Each cell adds to the bound on the nesting. -/
theorem World.size_lt_nesting (w : World) (v : Value) : w.cells.size < w.nesting v := by
  have counted : ∀ (cells : List Cell) (n : Nat),
      n + cells.length ≤ cells.foldl (fun n c => n + c.depth + 1) n := by
    intro cells
    induction cells with
    | nil => exact fun n => Nat.le_refl n
    | cons c rest ih =>
      intro n
      have := ih (n + c.depth + 1)
      simp only [List.foldl_cons, List.length_cons]
      omega
  have := counted w.cells.toList 2
  rw [Array.foldl_toList, Array.length_toList] at this
  unfold nesting bulk
  omega

/-- What was made of settings has their text, there and in every later world. -/
theorem outcome_textOf_made {t : Tree String Value} (proper : t.Proper Value.IsScalar)
    (stands : w'.StandsFor t v)
    (displays : Displays w w' (fun w fuel path => w.showWithin fuel path v) t.shown)
    (later : w'.Grows w'') : outcome (textOf v) w'' = (t.text, w'') := by
  have display : w''.display v = t.shown := displays.agrees w'' _ [] later (by simp [PathFrom]) (by
    have := later.size_le
    have := w''.size_lt_nesting v
    omega)
  cases t with
  | leaf a =>
    have scalar : a.IsScalar := proper
    obtain ⟨tag, rfl | rfl⟩ := stands
    · exact outcome_textOf_scalar scalar w''
    · rw [outcome_textOf_scalar (scalar.marked tag), scalarText_marked scalar]
      rfl
  | list items =>
    obtain ⟨i, vs, rfl, there⟩ := stands
    exact (outcome_textOf_plain (later.cells _ _ there) (.inl ⟨vs, rfl⟩)).trans
      (congrArg (·, w'') display)
  | table entries =>
    obtain ⟨i, es, rfl, there⟩ := stands
    exact (outcome_textOf_plain (later.cells _ _ there) (.inr ⟨es, rfl⟩)).trans
      (congrArg (·, w'') display)

/-! ## Settings with a text -/

/-- A single value that can be written out. -/
def Value.IsPrinted (a : Value) : Prop := a.IsScalar ∧ ∃ s, a.shown = .ok s

theorem Text.readDecimal_lt (digits : List Char) : readDecimal digits < Nat.pow 10 digits.length := by
  have each (c : Char) : (digit? c).getD 0 < 10 := by
    cases found : digit? c with
    | none => decide
    | some d =>
      obtain ⟨first, listed, rfl⟩ := Option.map_eq_some_iff.mp found
      have within := List.find?_some listed
      simp only [Bool.and_eq_true, decide_eq_true_eq] at within
      rw [Option.getD_some]
      omega
  induction digits using List.reverseRecOn with
  | nil => exact Nat.one_pos
  | append_singleton digits c ih =>
    have last := each c
    have step : readDecimal (digits ++ [c]) = readDecimal digits * 10 + (digit? c).getD 0 := by
      simp [readDecimal, ofDigits]
    have grown (n : Nat) : Nat.pow 10 (n + 1) = Nat.pow 10 n * 10 := rfl
    rw [step, List.length_append, List.length_singleton, grown]
    omega

/-- An integer that was read is short enough to be written. -/
theorem isPrinted_of_readInteger {negative : Bool} {digits : List Char} {n : Int}
    (read : readInteger negative digits = .ok n) : (Value.int n).IsPrinted := by
  refine ⟨.int n, Text.writeInt n, ?_⟩
  have shown : (Value.int n).shown = showInt n := rfl
  unfold readInteger at read
  split_ifs at read with long
  cases read
  -- for any bound, so that the power of ten is not computed
  have few (bound : Nat) (short : digits.length ≤ bound) :
      ¬Nat.pow 10 bound ≤ Text.readDecimal digits := by
    have wider := Nat.pow_le_pow_right (by decide : 0 < 10) short
    exact Nat.not_le.mpr ((Text.readDecimal_lt digits).trans_le wider)
  have size : (signed negative (Text.readDecimal digits)).natAbs = Text.readDecimal digits := by
    cases negative <;> simp [signed]
  rw [shown, showInt, size, if_neg (few _ (Nat.le_of_not_lt long))]

namespace Tree

mutual

theorem exists_shown : ∀ t : Tree String Value, t.Proper Value.IsPrinted → ∃ s, t.shown = .ok s
  | .leaf _, h => h.2
  | .list items, h => by
    obtain ⟨s, shown⟩ := exists_shownItems items h
    exact ⟨"[" ++ s ++ "]", by rw [Tree.shown, shown]; rfl⟩
  | .table entries, h => by
    obtain ⟨s, shown⟩ := exists_shownEntries entries h.2
    exact ⟨"\x7b" ++ s ++ "\x7d", by rw [Tree.shown, shown]; rfl⟩

theorem exists_shownItems : ∀ ts : List (Tree String Value), ProperItems Value.IsPrinted ts →
    ∃ s, shownItems ts = .ok s
  | [], _ => ⟨"", rfl⟩
  | t :: rest, h => by
    obtain ⟨first, shown⟩ := exists_shown t h.1
    obtain ⟨later, others⟩ := exists_shownItems rest h.2
    rw [shownItems_cons, shown, others]
    split_ifs
    · exact ⟨_, rfl⟩
    · exact ⟨_, rfl⟩

theorem exists_shownEntries : ∀ es : List (String × Tree String Value),
    ProperEntries Value.IsPrinted es → ∃ s, shownEntries es = .ok s
  | [], _ => ⟨"", rfl⟩
  | (k, t) :: rest, h => by
    obtain ⟨first, shown⟩ := exists_shown t h.1
    obtain ⟨later, others⟩ := exists_shownEntries rest h.2
    rw [shownEntries_cons, shown, others]
    split_ifs
    · exact ⟨_, rfl⟩
    · exact ⟨_, rfl⟩

end

/-- Settings that can be written out have a text. -/
theorem exists_text {t : Tree String Value} (h : t.Proper Value.IsPrinted) : ∃ s, t.text = .ok s := by
  cases t with
  | leaf a =>
    obtain ⟨scalar, shown⟩ := h
    cases scalar with
    | text s => exact ⟨s, rfl⟩
    | date d => exact ⟨d.toText, rfl⟩
    | time t => exact ⟨t.toText, rfl⟩
    | moment m => exact ⟨m.toText, rfl⟩
    | null | bool b | int n | float x => exact shown
  | list items => exact exists_shown _ h
  | table entries => exact exists_shown _ h

end Tree

end TemplateEngine
