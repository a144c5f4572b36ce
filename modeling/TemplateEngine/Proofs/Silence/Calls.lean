import TemplateEngine.Proofs.Silence
/-!
Attributes, calls and texts are silent at any depth of nesting, by induction on that depth, and so is
the making of values that they may end in.
-/
namespace TemplateEngine

open Silent

/-- Texts, attributes and calls write no line. -/
class Dispatch.Silent (d : Dispatch) : Prop where
  text : ∀ v, TemplateEngine.Silent (d.text v)
  read : ∀ v name, TemplateEngine.Silent (d.read v name)
  call : ∀ v arguments, TemplateEngine.Silent (d.call v arguments)

section

variable (d : Dispatch) [silent : d.Silent] (v x : Value) (name : String) (c : ClassId)
  (arguments : List Value)

instance : Silent (d.text v) := silent.text v

instance : Silent (d.read v name) := silent.read v name

instance : Silent (d.call v arguments) := silent.call v arguments

instance : Silent (d.readFrom v name) := by
  unfold Dispatch.readFrom
  refine .bind inferInstance fun found => ?_
  split
  · infer_instance
  · exact get_bind fun w => by split <;> infer_instance

instance : Silent (d.has v name) := by
  unfold Dispatch.has
  refine .bind inferInstance fun found => ?_
  split <;> infer_instance

instance : Silent (d.ask v name) := by
  unfold Dispatch.ask
  infer_instance

/-! ## Making values -/

instance (b : Value) : Silent (Bindings.update d b v) :=
  get_bind fun w => by split <;> infer_instance

instance (b : Value) : Silent (Bindings.fill d b v) := get_bind fun w => by split <;> infer_instance

instance (entries : List (Value × Value)) : Silent (Bindings.ofEntries entries) := by
  unfold Bindings.ofEntries
  infer_instance

namespace Construction

instance (shown : String) (s : List Char) : Silent (integerSpelled shown s) := by
  unfold integerSpelled
  split
  · infer_instance
  · split <;> infer_instance

instance : Silent (integerOf v) := get_bind fun w => by repeat' first | infer_instance | split

instance : Silent (nearest? v) := get_bind fun w => by dsimp only; split <;> infer_instance

instance : Silent (realOf v) := by
  unfold realOf
  refine get_bind fun w => ?_
  dsimp only
  split
  · split <;> infer_instance
  · split <;> infer_instance
  · refine .bind inferInstance fun found => ?_
    split <;> infer_instance

instance (i : Nat) : Silent (entryFrom i v) := by
  unfold entryFrom
  refine .bind inferInstance fun found => ?_
  split <;> infer_instance

instance : Silent (newMapping d v) := by
  have written (cell : Nat) (keys : List Value) :
      Silent (keys.forM fun key => do writeEntry cell key (← itemOf v key)) :=
    forM inferInstance keys
  have paired (cell : Nat) : Silent (forEachNumbered v fun i pair => do
      let (key, x) ← entryFrom i pair
      writeEntry cell key x) := silent_forEachNumbered v inferInstance
  unfold newMapping
  refine get_bind fun w => ?_
  dsimp only
  split
  · infer_instance
  · refine .bind inferInstance fun made => .bind inferInstance fun told => ?_
    split
    · refine .bind inferInstance fun keys => .bind inferInstance fun found => ?_
      split <;> infer_instance
    · infer_instance

instance : Silent (plainBase v) := get_bind fun w => by split <;> infer_instance

instance (s : Standard) : Silent (ofStandard d s arguments) := by
  unfold ofStandard
  refine get_bind fun w => ?_
  dsimp only
  split
  case h_14 => split <;> first | infer_instance | (split <;> infer_instance)
  all_goals infer_instance

instance (cls : Nat) : Silent (memberWith cls v) := by
  unfold memberWith
  refine get_bind fun w => ?_
  dsimp only
  split
  · infer_instance
  · refine .bind inferInstance fun found => ?_
    split <;> infer_instance

instance : Silent (construct d c arguments) := by
  unfold construct
  refine get_bind fun w => ?_
  dsimp only
  split
  · infer_instance
  · split
    · split <;> infer_instance
    · split <;> infer_instance

instance (attributes : Table String Value) (argument : Option Value) :
    Silent (newObject d c attributes argument) := by
  unfold newObject
  refine get_bind fun w => ?_
  dsimp only
  refine .bind inferInstance fun made => ?_
  split
  · refine get_bind fun w' => ?_
    split <;> infer_instance
  · infer_instance

end Construction

namespace Packing

instance : Silent (integerIn v) := get_bind fun w => by split <;> infer_instance

instance (code : Char) : Silent (integer code v) := by
  unfold integer
  refine .bind inferInstance fun n => ?_
  split <;> infer_instance

instance (code : Char) : Silent (element code v) := by
  unfold element
  refine get_bind fun w => ?_
  split
  · split <;> infer_instance
  · split
    · refine .bind inferInstance fun found => ?_
      split <;> infer_instance
    · infer_instance

end Packing

instance : Silent (classNamed name) := get_bind fun w => by split <;> infer_instance

instance (info : Nat → ClassInfo) : Silent (addClass info) := ⟨fun _ => rfl⟩

instance (fields : List String) : Silent (newTupleClass name fields) := by
  unfold newTupleClass
  infer_instance

instance (kind : CollectionKind) (items : List Value) : Silent (newCollection kind items) := by
  have packed (code : Char) : Silent (items.mapM (Packing.element code)) := mapM inferInstance items
  unfold newCollection
  split
  all_goals infer_instance

instance (kind : TableKind) (entries : List (Value × Value)) : Silent (newTable kind entries) := by
  unfold newTable
  split <;> infer_instance

instance : Silent (memberNamed c name) := get_bind fun w => by split <;> infer_instance

instance (bits : Nat) : Silent (flagsOf c bits) := get_bind fun w => by split <;> infer_instance

end

mutual

theorem silent_build (d : Dispatch) [d.Silent] : ∀ r : Recipe, Silent (build d r)
  | .known v => inferInstanceAs (Silent (pure v))
  | .number v | .bytearray b | .type name | .member enumeration name | .flags enumeration bits
  | .accessor name owner => by
    unfold build
    infer_instance
  | .unit name | .variable name => by
    unfold build
    exact get_bind fun w => by split <;> infer_instance
  | .collection kind items => by
    have := silent_buildAll d items
    unfold build
    infer_instance
  | .table kind keys values => by
    have := silent_buildAll d keys
    have := silent_buildAll d values
    unfold build
    infer_instance
  | .view inner | .optional inner => by
    have := silent_build d inner
    unfold build
    infer_instance
  | .named label fields values => by
    have := silent_buildAll d values
    unfold build
    infer_instance
  | .object cls names values base => by
    have := silent_buildAll d base
    have := silent_buildAll d values
    unfold build
    infer_instance

theorem silent_buildAll (d : Dispatch) [d.Silent] : ∀ rs : List Recipe, Silent (buildAll d rs)
  | [] => inferInstanceAs (Silent (pure []))
  | r :: rest => by
    have := silent_build d r
    have := silent_buildAll d rest
    unfold buildAll
    infer_instance

end

section

variable (d : Dispatch) [d.Silent] (v x : Value) (name : String) (c : ClassId)
  (arguments : List Value)

instance (r : Recipe) : Silent (build d r) := silent_build d r

instance (rs : List Recipe) : Silent (buildAll d rs) := silent_buildAll d rs

/-! ## Attributes and calls -/

instance : Silent (setMember c name x) := by
  cases c <;> exact ⟨fun _ => rfl⟩

instance : Silent (setAttribute v name x) := by
  unfold setAttribute
  refine get_bind fun w => ?_
  dsimp only
  split
  · infer_instance
  · split
    · split <;> infer_instance
    · infer_instance
  · infer_instance

instance (receiver : Value) : Silent (newBound c name receiver) := by
  unfold newBound
  infer_instance

instance (owner : ClassId) (m : Member) : Silent (memberOfClass c owner name m) := by
  unfold memberOfClass
  split <;> first | infer_instance | (split <;> infer_instance)

instance (owner : ClassId) (m : Member) : Silent (memberOfValue v c owner name m) := by
  unfold memberOfValue
  split <;> first | infer_instance | (split <;> infer_instance)

instance (s : Standard) : Silent (callNative s name arguments) := by
  unfold callNative
  split <;> split <;> infer_instance

instance : Silent (addOne v) := get_bind fun w => by dsimp only; split <;> infer_instance

instance (action : Action) (binding : Binding) : Silent (perform d action binding arguments) := by
  unfold perform
  split <;> infer_instance

instance : Silent (readAttribute d v name) := by
  unfold readAttribute
  refine get_bind fun w => ?_
  dsimp only
  split
  · split <;> infer_instance
  · split
    case h_3 => split <;> infer_instance
    all_goals infer_instance

instance (r : Routine) : Silent (callRoutine d r arguments) := by
  unfold callRoutine
  split <;> infer_instance

instance : Silent (callMember d c name arguments) :=
  get_bind fun w => by dsimp only; split <;> infer_instance

instance : Silent (callValue d v arguments) := by
  unfold callValue
  refine get_bind fun w => ?_
  split
  · infer_instance
  · split <;> infer_instance
  · infer_instance
  · dsimp only
    split <;> infer_instance

instance : Silent (textFrom d v) := by
  have checked (result : Value) : Silent (do
      if ((← get).text? result).isSome then return result
      else fail (.textNotText ((← get).typeInMessages result)) : M Value) := inferInstance
  unfold textFrom
  refine get_bind fun w => ?_
  dsimp only
  split
  · infer_instance
  · split <;> infer_instance

end

theorem silent_within (depth : Nat) : (Dispatch.within depth).Silent := by
  induction depth with
  | zero =>
    exact {
      text := fun _ => inferInstanceAs (Silent (fail _))
      read := fun _ _ => inferInstanceAs (Silent (fail _))
      call := fun _ _ => inferInstanceAs (Silent (fail _)) }
  | succ depth ih =>
    exact {
      text := fun v => inferInstanceAs (Silent (textFrom _ v))
      read := fun v name => inferInstanceAs (Silent (readAttribute _ v name))
      call := fun v arguments => inferInstanceAs (Silent (callValue _ v arguments)) }

instance : Dispatch.full.Silent := silent_within Dispatch.maxDepth

instance (v : Value) (name : String) : Silent (getAttribute v name) :=
  inferInstanceAs (Silent (Dispatch.full.read v name))

instance (v : Value) (arguments : List Value) : Silent (call v arguments) :=
  inferInstanceAs (Silent (Dispatch.full.call v arguments))

end TemplateEngine
