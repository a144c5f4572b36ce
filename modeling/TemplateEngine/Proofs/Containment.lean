import TemplateEngine.Proofs.Failures
import TemplateEngine.Proofs.WrappedRecords
import TemplateEngine.Proofs.Silence.Calls
/-!
Failing code of the classes of a resolved value. What a field or an accessor fails with counts as
nothing, and there is one line about it in the log, or none where reading fails for a missing
attribute. What a record fails with is not kept back, nor what the question fails with whether a value
is one.
-/
namespace TemplateEngine

variable {w w' w₁ w₂ w₃ : World} {v t : Value} {name s n : String} {f : Fault}
  {lines : List LogEntry}

/-! ## Lines about failing code -/

def World.logged (w : World) (line : LogEntry) : World := { w with log := w.log ++ [line] }

def unreadLine (name shown : String) (f : Fault) : LogEntry where
  level := .warning
  text := "Cannot read attribute '" ++ name ++ "' on object " ++ shown
  cause := some f.kindName

def uncalledLine (name shown : String) (f : Fault) : LogEntry where
  level := .warning
  text := "Cannot access method '" ++ name ++ "' on object " ++ shown
  cause := some f.kindName

/-- Reading an attribute fails, and nothing takes its place: without a line if the attribute is
missing, and else with one. -/
inductive SkipsRead (v : Value) (name : String) (w : World) : List LogEntry → World → Prop
  | missing {f : Fault} {w' : World} (failed : outcome (getAttribute v name) w = (.error f, w'))
    (absent : f.isAttributeError = true) : SkipsRead v name w [] w'
  | warned {f : Fault} {shown : String} {w' : World}
    (failed : outcome (getAttribute v name) w = (.error f, w'))
    (present : f.isAttributeError = false) (display : w'.display v = .ok shown) :
    SkipsRead v name w [unreadLine name shown f] (w'.logged (unreadLine name shown f))

/-- Reading or calling an accessor fails, and nothing takes its place. A call leaves a line whatever it
fails with. -/
inductive SkipsAccessor (v : Value) (name : String) (w : World) : List LogEntry → World → Prop
  | read {lines : List LogEntry} {w' : World} (skips : SkipsRead v name w lines w') :
    SkipsAccessor v name w lines w'
  | call {m : Value} {f : Fault} {shown : String} {w₁ w' : World} (given : m ≠ .null)
    (read : outcome (getAttribute v name) w = (.ok (some m), w₁))
    (failed : outcome (call m []) w₁ = (.error f, w')) (display : w'.display v = .ok shown) :
    SkipsAccessor v name w [uncalledLine name shown f] (w'.logged (uncalledLine name shown f))

theorem Silent.log_of {α : Type} {x : M α} [silent : Silent x] {r : Except Fault α}
    (done : outcome x w = (r, w')) : w'.log = w.log := by
  have kept := silent.log w
  rwa [done] at kept

theorem SkipsRead.log (skips : SkipsRead v name w lines w') : w'.log = w.log ++ lines := by
  cases skips with
  | missing failed => rw [Silent.log_of failed, List.append_nil]
  | warned failed => rw [World.logged, Silent.log_of failed]

theorem SkipsAccessor.log (skips : SkipsAccessor v name w lines w') : w'.log = w.log ++ lines := by
  cases skips with
  | read skips => exact skips.log
  | call _ read failed => rw [World.logged, Silent.log_of failed, Silent.log_of read]

/-! ## What failing code counts as -/

theorem outcome_readForTemplate_skips (skips : SkipsRead v name w lines w') :
    outcome (readForTemplate v name) w = (.ok none, w') := by
  cases skips with
  | missing failed absent => simp [readForTemplate, outcome_bind, failed, absent]
  | warned failed present display =>
    simp [readForTemplate, displayed, outcome_bind, failed, present, display, World.logged, unreadLine]

theorem outcome_getField_skips (exposed : w.OpenField v name) (skips : SkipsRead v name w lines w') :
    outcome (getField v name) w = (.ok .null, w') := by
  rw [getField_of_open exposed, outcome_bind_ok (outcome_readForTemplate_skips skips)]
  rfl

theorem outcome_callNamed_skips (skips : SkipsAccessor v name w lines w') :
    outcome (callNamed v name) w = (.ok .null, w') := by
  cases skips with
  | read skips =>
    rw [callNamed, outcome_bind_ok (outcome_readForTemplate_skips skips)]
    rfl
  | @call m f shown w₁ w' given read failed display =>
    have found : outcome (readForTemplate v name) w = (.ok (some m), w₁) := by
      simp [readForTemplate, outcome_bind, read]
    rw [callNamed, outcome_bind_ok found]
    split
    · simp_all
    · simp_all
    · rename_i routine _ present
      obtain rfl := Option.some.inj present
      simp [displayed, outcome_bind, failed, display, World.logged, uncalledLine]

theorem outcome_invokeAccessor_skips (exposed : w.OpenAccessor v name n)
    (skips : SkipsAccessor v n w lines w') :
    outcome (invokeAccessor v name) w = (.ok .null, w') := by
  obtain ⟨given, ⟨owner, found⟩, open_⟩ := exposed
  have named : name ≠ "" := fun h => by simp [h, findAccessor?] at found
  have asked : (decide (v = .null) || name.isEmpty) = false := by simp [given, named]
  have shown : (Classes.publicOwner? w.classes (w.ownerClass v) n).isNone = false := by
    simpa [Option.isSome_iff_ne_none] using open_
  simp only [invokeAccessor, outcome_get_bind, asked, found, shown, Bool.false_eq_true, if_false]
  exact outcome_callNamed_skips skips

/-- A value without an entry and a member is asked for its field and then for its accessor. -/
theorem outcome_resolveName_lacks {key : Value} (lacks : w.Lacks v key name) :
    outcome (resolveName v key name) w =
      outcome (do orElse (← getField v name) (invokeAccessor v name)) w := by
  have unlisted : outcome (if w.isMapping v then getEntry v key else pure .null) w =
      (.ok .null, w) := by
    split
    · exact lacks.entry ‹_›
    · rfl
  rw [outcome_resolveName, outcome_orElse, unlisted]
  dsimp only
  rw [outcome_orElse, lacks.member]

/-! ## Records -/

instance (v : Value) (name : String) : Silent (Record.readable v name) := by
  unfold Record.readable
  refine .bind inferInstance fun found => ?_
  split
  · refine .bind inferInstance fun x => ?_
    split <;> infer_instance
  · infer_instance

instance (v : Value) : Silent (isRecord v) := by
  unfold isRecord
  infer_instance

instance (v name : Value) : Silent (recordProperty v name) := by
  unfold recordProperty callMethod
  infer_instance

namespace ObjectModel

/-- A value gives nothing for a name as a record, or it is none, and the name is resolved as on any
other value. -/
inductive Falls (t : Value) (s : String) (w : World) : World → Prop
  | other {w₁ : World} (test : outcome (isRecord t) w = (.ok false, w₁)) : Falls t s w w₁
  | record {w₁ w₂ : World} (test : outcome (isRecord t) w = (.ok true, w₁))
    (nothing : outcome (recordProperty t (.text s)) w₁ = (.ok .null, w₂)) : Falls t s w w₂

/-- What makes the resolution of a name fail: the question whether the value is a record, the record's
own code, and after them what makes a name fail on any value. -/
inductive Escapes (t : Value) (s : String) (w : World) (f : Fault) : World → Prop
  | test {w' : World} (failed : outcome (isRecord t) w = (.error f, w')) : Escapes t s w f w'
  | record {w₁ w' : World} (test : outcome (isRecord t) w = (.ok true, w₁))
    (failed : outcome (recordProperty t (.text s)) w₁ = (.error f, w')) : Escapes t s w f w'
  | name {w₁ w' : World} (falls : Falls t s w w₁) (named : s ≠ "")
    (fails : NameFails (w₁.unwrap t) (.text s) s w₁ f w') : Escapes t s w f w'

theorem Falls.log (falls : Falls t s w w') : w'.log = w.log := by
  cases falls with
  | other test => exact Silent.log_of test
  | record test nothing => exact (Silent.log_of nothing).trans (Silent.log_of test)

theorem outcome_isRecord_null (w : World) : outcome (isRecord .null) w = (.ok false, w) :=
  outcome_isRecord_missing (by simp) rfl rfl

/-- Without an index, a name is asked of the record that the value is, and then resolved as on any
other value. -/
theorem outcome_resolveProperty_name (t : Value) (s : String) (w : World) :
    outcome (ObjectModel.standard.resolveProperty t (.text s)) w =
      outcome (isRecord t >>= fun record =>
        if record then (do
          orElse (← recordProperty t (.text s)) (TemplateEngine.resolveProperty t (.text s)))
        else TemplateEngine.resolveProperty t (.text s)) w := by
  by_cases given : t = .null
  · subst given
    have nothing : outcome (TemplateEngine.resolveProperty .null (.text s)) w = (.ok .null, w) := by
      rw [TemplateEngine.outcome_resolveProperty_text, w.unwrap_of_content .null rfl,
        outcome_resolveName_null, ite_self]
    rw [outcome_bind_ok (outcome_isRecord_null w), if_neg Bool.false_ne_true, nothing]
    rfl
  · rw [outcome_resolveProperty_text given,
      outcome_inheritedProperty (.text s) given (outcome_toTemplateText_text s w)]

theorem outcome_resolveProperty_falls (falls : Falls t s w w') :
    outcome (ObjectModel.standard.resolveProperty t (.text s)) w =
      outcome (TemplateEngine.resolveProperty t (.text s)) w' := by
  rw [outcome_resolveProperty_name]
  cases falls with
  | other test => rw [outcome_bind_ok test, if_neg Bool.false_ne_true]
  | record test nothing => rw [outcome_bind_ok test, if_pos rfl, outcome_orElse, nothing]

theorem resolveName_text_error_iff :
    outcome (TemplateEngine.resolveProperty t (.text s)) w = (.error f, w') ↔
      s ≠ "" ∧ NameFails (w.unwrap t) (.text s) s w f w' := by
  rw [TemplateEngine.outcome_resolveProperty_text]
  by_cases named : s = ""
  · simp [named]
  · simp [named, resolveName_error_iff]

/-- Resolution fails where its record does, and else as for other values. -/
theorem resolveProperty_text_error_iff :
    outcome (ObjectModel.standard.resolveProperty t (.text s)) w = (.error f, w') ↔
      Escapes t s w f w' := by
  rw [outcome_resolveProperty_name, bind_error_iff]
  constructor
  · rintro (failed | ⟨record, w₁, test, failed⟩)
    · exact .test failed
    · cases record with
      | false =>
        obtain ⟨named, fails⟩ := resolveName_text_error_iff.mp failed
        exact .name (.other test) named fails
      | true =>
        rcases orElse_error_iff.mp failed with failed | ⟨w₂, nothing, failed⟩
        · exact .record test failed
        · obtain ⟨named, fails⟩ := resolveName_text_error_iff.mp failed
          exact .name (.record test nothing) named fails
  · rintro (failed | ⟨test, failed⟩ | ⟨test | ⟨test, nothing⟩, named, fails⟩)
    · exact .inl failed
    · exact .inr ⟨true, _, test, orElse_error_iff.mpr (.inl failed)⟩
    · exact .inr ⟨false, _, test, resolveName_text_error_iff.mpr ⟨named, fails⟩⟩
    · exact .inr ⟨true, _, test, orElse_error_iff.mpr
        (.inr ⟨_, nothing, resolveName_text_error_iff.mpr ⟨named, fails⟩⟩)⟩

/-- A world with a page whose title is computed by failing code, beside an accessor that gives it. -/
def titled : World where
  cells := #[.tuple [], .object 0 [] none]
  classes := #[{
    name := "Page"
    kind := .plain
    bases := [.standard .object]
    order := [.declared 0, .standard .object]
    members := [("title", .computed (.fail "ValueError" "no title")),
      ("getTitle", .routine {
        label := "Page.getTitle"
        binding := .receiver
        params := [⟨"self", .positional, false⟩]
        action := .give (.known (.text "Home")) })]
    annotations := []
    names := []
    fields := none
    closed := false }]

end ObjectModel

end TemplateEngine
