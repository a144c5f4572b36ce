import TemplateEngine.Proofs.Outcome
import TemplateEngine.Attributes
/-!
Computations that write no line to the log. Reading, calling and making values is silent, whatever the
code of the classes does: only resolution itself writes.
-/
namespace TemplateEngine

/-- A computation leaves the log as it is, whether it gives something or fails. -/
class Silent {α : Type} (x : M α) : Prop where
  log : ∀ w, (outcome x w).2.log = w.log

namespace Silent

variable {α β : Type}

instance (a : α) : Silent (pure a : M α) := ⟨fun _ => rfl⟩

instance (f : Fault) : Silent (fail f : M α) := ⟨fun _ => rfl⟩

instance : Silent (get : M World) := ⟨fun _ => rfl⟩

theorem bind {x : M α} {f : α → M β} (first : Silent x) (rest : ∀ a, Silent (f a)) :
    Silent (x >>= f) where
  log w := by
    have kept := first.log w
    rw [outcome_bind]
    rcases done : outcome x w with ⟨e | a, w'⟩ <;> rw [done] at kept
    · exact kept
    · exact ((rest a).log w').trans kept

theorem get_bind {f : World → M α} (rest : ∀ w, Silent (f w)) : Silent (get >>= f) :=
  bind inferInstance rest

instance {x : M α} {f : α → M β} [Silent x] [∀ a, Silent (f a)] : Silent (x >>= f) :=
  bind ‹_› fun _ => inferInstance

instance {g : α → β} {x : M α} [Silent x] : Silent (g <$> x) :=
  inferInstanceAs (Silent (x >>= fun a => pure (g a)))

/-- What would follow a failure does not matter. -/
instance (f : Fault) (rest : α → M β) : Silent (fail f >>= rest) := ⟨fun _ => rfl⟩

instance (r : Except Fault α) : Silent (liftResult r) := ⟨fun _ => rfl⟩

instance {x : M α} [silent : Silent x] : Silent (attempt x) := ⟨silent.log⟩

instance : Silent freshTag := ⟨fun _ => rfl⟩

instance (c : Cell) : Silent (alloc c) := ⟨fun _ => rfl⟩

instance (i : Nat) (c : Cell) : Silent (setCell i c) := ⟨fun _ => rfl⟩

instance {p : Prop} [Decidable p] {x y : M α} [Silent x] [Silent y] :
    Silent (if p then x else y) := by
  split <;> assumption

theorem mapM {f : α → M β} (each : ∀ a, Silent (f a)) (as : List α) : Silent (as.mapM f) := by
  induction as with
  | nil => exact inferInstanceAs (Silent (pure []))
  | cons a as ih =>
    rw [List.mapM_cons]
    infer_instance

theorem forM {f : α → M Unit} (each : ∀ a, Silent (f a)) (as : List α) : Silent (as.forM f) := by
  induction as with
  | nil => exact inferInstanceAs (Silent (pure ()))
  | cons a as ih => exact bind (each a) fun _ => ih

end Silent

open Silent

section

variable (v key x : Value) (name : String)

/-! ## Values and elements -/

instance : Silent (asObject v) := by
  unfold asObject
  infer_instance

instance : Silent (newOptional v) := by
  unfold newOptional
  infer_instance

instance (items : List Value) : Silent (newTuple items) := by
  unfold newTuple
  infer_instance

instance (items : List Value) : Silent (newList items) := by
  unfold newList
  infer_instance

instance (items : List Value) : Silent (asObjects items) := mapM inferInstance items

instance (entries : List (Value × Value)) : Silent (newPairs entries) := by
  induction entries with
  | nil => exact inferInstanceAs (Silent (pure []))
  | cons e rest ih =>
    unfold newPairs
    infer_instance

instance (kind : Stream) (rest : List Value) : Silent (lengthHint kind rest) := by
  unfold lengthHint
  split <;> infer_instance

namespace Source

instance (v : Value) : Silent (ofValue v) := by
  induction v with
  | view tag target ih =>
    rw [ofValue]
    exact ih
  | _ =>
    unfold ofValue
    refine get_bind fun w => ?_
    repeat' first | infer_instance | split

variable (s : Source)

instance (turn : Nat) : Silent (s.at? turn) := by
  unfold at?
  split
  · split <;> infer_instance
  · exact get_bind fun w => by split <;> infer_instance
  · exact get_bind fun w => by split <;> infer_instance

instance : Silent s.drain := by
  unfold drain
  split
  · infer_instance
  · exact get_bind fun w => by split <;> infer_instance
  · exact get_bind fun w => by split <;> infer_instance

theorem silent_visit {α : Type} {body : Nat → Value → M α} (each : ∀ turn x, Silent (body turn x))
    (left turn : Nat) : Silent (s.visit id body left turn) := by
  induction left generalizing turn with
  | zero => exact inferInstanceAs (Silent (pure []))
  | succ left ih =>
    unfold visit
    refine .bind (inferInstanceAs (Silent (s.at? turn))) fun found => ?_
    split <;> infer_instance

end Source

instance (s : Source) : Silent (checkLength v s) := by
  unfold checkLength
  split
  · exact get_bind fun w => by split <;> infer_instance
  · infer_instance
  · infer_instance

instance : Silent (iterate v) := by
  unfold iterate
  infer_instance

theorem silent_forEachNumbered {α : Type} {body : Nat → Value → M α}
    (each : ∀ turn x, Silent (body turn x)) : Silent (forEachNumbered v body) :=
  .bind inferInstance fun s => get_bind fun w => s.silent_visit each (s.count w) 0

instance {α : Type} (body : Value → M α) [∀ x, Silent (body x)] : Silent (forEach v body) :=
  silent_forEachNumbered v fun _ => inferInstance

instance : Silent (lengthOf v) := get_bind fun w => by split <;> infer_instance

instance : Silent (isTruthy v) :=
  get_bind fun w => by split <;> first | infer_instance | (split <;> infer_instance)

instance : Silent (displayed v) := by
  unfold displayed
  infer_instance

/-! ## Entries -/

instance : Silent (nameOf key) := by
  unfold nameOf
  infer_instance

instance : Silent (foldName key) := by
  unfold foldName
  infer_instance

instance (entries : List (Value × Value)) : Silent (lookUpEntry entries key) := ⟨fun _ => rfl⟩

instance (entries : List (Value × Value)) : Silent (insertEntry entries key x) := by
  unfold insertEntry
  infer_instance

instance (cell : Nat) : Silent (writeEntry cell key x) :=
  get_bind fun w => by split <;> infer_instance

instance (entries more : List (Value × Value)) : Silent (insertEntries entries more) := by
  induction more generalizing entries with
  | nil => exact inferInstanceAs (Silent (pure entries))
  | cons e rest ih =>
    unfold insertEntries
    infer_instance

instance (items more : List Value) : Silent (insertElements items more) := by
  induction more generalizing items with
  | nil => exact inferInstanceAs (Silent (pure items))
  | cons x rest ih =>
    unfold insertElements
    infer_instance

namespace Bindings

variable (b : Value)

instance : Silent (scopeOf b) := get_bind fun w => by split <;> infer_instance

instance (s : Scope Value Value) : Silent (setScope b s) :=
  get_bind fun w => by split <;> infer_instance

instance : Silent (lookUp? b key) := by
  unfold lookUp?
  infer_instance

instance {α : Type} : Silent (missing key : M α) := by
  unfold missing
  infer_instance

instance : Silent (read b key) := by
  unfold read
  refine .bind inferInstance fun found => ?_
  split <;> infer_instance

instance : Silent (write b key x) := by
  unfold write
  infer_instance

instance (entries : List (Value × Value)) : Silent (writeAll b entries) := by
  induction entries with
  | nil => exact inferInstanceAs (Silent (pure ()))
  | cons e rest ih =>
    unfold writeAll
    infer_instance

instance : Silent (asPair v) := by
  have turns : ∀ s : Source, Silent (s.visit id (fun _ x => pure x) 3 0) := fun s =>
    s.silent_visit (fun _ _ => inferInstance) 3 0
  unfold asPair
  refine .bind inferInstance fun found => ?_
  split
  · refine .bind (turns _) fun items => ?_
    dsimp only
    split <;> infer_instance
  all_goals infer_instance

end Bindings

instance (e : Elements) : Silent (elementOf v e x) := by
  unfold elementOf
  refine get_bind fun w => ?_
  dsimp only
  split
  · infer_instance
  · split
    · infer_instance
    · split <;> infer_instance

instance (entries : List (Value × Value)) : Silent (entryOf v key entries) := by
  unfold entryOf
  refine get_bind fun w => ?_
  split
  · infer_instance
  · refine .bind inferInstance fun found => ?_
    split <;> infer_instance

instance {α : Type} : Silent (refuseElement v : M α) :=
  get_bind fun w => by split <;> infer_instance

instance : Silent (itemOf v key) := by
  unfold itemOf
  refine get_bind fun w => ?_
  dsimp only
  split
  case h_3 => split <;> infer_instance
  all_goals infer_instance

/-! ## Members of built-in classes -/

instance (c : Standard) : Silent (readField c name v) :=
  get_bind fun w => by repeat' first | infer_instance | split

instance (a b : Int) : Silent (newRatio a b) := by
  unfold newRatio
  infer_instance

instance (n : Int) : Silent (callIntAccessor name n) := by
  unfold callIntAccessor
  split <;> infer_instance

instance (s : String) : Silent (callTextAccessor name s) := by
  unfold callTextAccessor
  split <;> infer_instance

instance (b : List UInt8) : Silent (callBytesAccessor name b) := by
  unfold callBytesAccessor
  split <;> first | infer_instance | (split <;> infer_instance)

instance (x : Binary64) : Silent (callFloatAccessor name x) := by
  unfold callFloatAccessor
  split <;> first | infer_instance | (split <;> infer_instance)

instance (d : Decimal) : Silent (callDecimalAccessor name d) := by
  unfold callDecimalAccessor
  split <;> first | infer_instance | (split <;> infer_instance)

instance {α : Type} (whole : String) (items : List α) (keep : List α → M Unit)
    [∀ kept, Silent (keep kept)] : Silent (splitLast whole items keep) := by
  unfold splitLast
  split <;> infer_instance

instance (cell : Nat) (items : List Value) : Silent (callListAccessor name cell items) := by
  unfold callListAccessor
  split
  case h_5 =>
    refine get_bind fun w => .bind inferInstance fun _ => ?_
    split <;> infer_instance
  all_goals infer_instance

instance (cell : Nat) (scope : Scope Value Value) :
    Silent (callBindingsAccessor name v cell scope) := by
  unfold callBindingsAccessor
  split <;> first | infer_instance | (split <;> infer_instance)

instance (cell : Nat) (fluent : Bool) (entries : List (Value × Value)) (arguments : List Value) :
    Silent (callDictRoutine name v cell fluent entries arguments) := by
  unfold callDictRoutine
  split <;> first | infer_instance | (split <;> infer_instance)

instance (c : Standard) (arguments : List Value) : Silent (callAccessor c name v arguments) :=
  get_bind fun w => by repeat' first | infer_instance | split

end

end TemplateEngine
