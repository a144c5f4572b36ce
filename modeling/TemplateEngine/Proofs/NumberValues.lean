import TemplateEngine.Proofs.Optionals
import TemplateEngine.Proofs.NumberGrammar
/-!
Values as numbers. A text form stays the same when there is more room for nesting, so that an optional
has the text form of what it holds; the values that are numbers are then those that have one, but for
an optional around a number whose text form is no number.
-/
namespace TemplateEngine

/-! ## More room for nesting -/

/-- The second computation does what the first one does, unless nesting was too deep for that. -/
def Deepens {α : Type} (x y : M α) : Prop :=
  ∀ w, (outcome x w).1 ≠ .error .nestedTooDeep → outcome y w = outcome x w

section
variable {α β : Type}

theorem Deepens.refl (x : M α) : Deepens x x := fun _ _ => rfl

theorem Deepens.bind {x y : M α} {f g : α → M β} (first : Deepens x y)
    (rest : ∀ a, Deepens (f a) (g a)) : Deepens (x >>= f) (y >>= g) := by
  intro w fits
  rw [outcome_bind] at fits
  rw [outcome_bind, outcome_bind]
  have same := first w
  generalize outcome x w = r at fits same
  obtain ⟨failed | a, w'⟩ := r
  · rw [same (by simpa using fits)]
  · rw [same (by simp)]
    exact rest a w' fits

theorem Deepens.bind_left {x y : M α} (first : Deepens x y) (f : α → M β) :
    Deepens (x >>= f) (y >>= f) :=
  first.bind fun a => .refl (f a)

theorem Deepens.bind_right (x : M α) {f g : α → M β} (rest : ∀ a, Deepens (f a) (g a)) :
    Deepens (x >>= f) (x >>= g) :=
  (Deepens.refl x).bind rest

/-- A computation that is turned into a value may only be handed on, with its failure as it is. -/
theorem Deepens.attempt {x y : M α} (first : Deepens x y) {f : Except Fault α → M β}
    (handed : ∀ w, outcome (f (.error .nestedTooDeep)) w = (.error .nestedTooDeep, w)) :
    Deepens (attempt x >>= f) (attempt y >>= f) := by
  intro w fits
  rw [outcome_bind, outcome_attempt] at fits ⊢
  rw [outcome_bind, outcome_attempt]
  have same := first w
  generalize outcome x w = r at fits same
  obtain ⟨r, w'⟩ := r
  by_cases deep : r = .error .nestedTooDeep
  · subst deep
    exact absurd (congrArg Prod.fst (handed w')) fits
  · rw [same deep]

/-- Two runs over the same elements, each turn with more room. -/
theorem deepens_visit {f g : Nat → Value → M α} (each : ∀ turn x, Deepens (f turn x) (g turn x))
    (s : Source) (left turn : Nat) : Deepens (s.visit id f left turn) (s.visit id g left turn) := by
  induction left generalizing turn with
  | zero => exact .refl _
  | succ left ih =>
    refine Deepens.bind_right _ fun found => ?_
    cases found with
    | none => exact .refl _
    | some x => exact (each turn x).bind fun a => (ih (turn + 1)).bind_left _

theorem deepens_forEach {f g : Value → M α} (each : ∀ x, Deepens (f x) (g x)) (v : Value) :
    Deepens (forEach v f) (forEach v g) :=
  Deepens.bind_right _ fun s => Deepens.bind_right _ fun w =>
    deepens_visit (fun _ x => each x) s (s.count w) 0

end

theorem deepens_joinEach {text deeper : Value → M Value} (each : ∀ x, Deepens (text x) (deeper x))
    (sep : String) (collection : Value) :
    Deepens (joinEach sep text collection) (joinEach sep deeper collection) := by
  refine (deepens_forEach (fun x => ?_) collection).bind_left _
  exact (each x).attempt fun w => rfl

/-- The text form of a value stays the same when there is more room for nesting. -/
theorem deepens_toStringWithin {n m : Nat} (more : n ≤ m) (v : Value) :
    Deepens (toStringWithin n v) (toStringWithin m v) := by
  induction n generalizing m v with
  | zero =>
    intro w fits
    exact absurd rfl fits
  | succ n ih =>
    obtain ⟨m, rfl⟩ : ∃ k, m = k + 1 := ⟨m - 1, by omega⟩
    have within : ∀ v, Deepens (toStringWithin n v) (toStringWithin m v) := fun v => ih (by omega) v
    refine Deepens.bind_right _ fun w => ?_
    split
    · exact .refl _
    · exact .refl _
    · exact within _
    · exact .refl _
    · exact .refl _
    · exact .refl _
    · split
      · exact .refl _
      · exact .refl _
      · split
        · exact Deepens.bind_right _ fun items => (deepens_joinEach within _ items).bind_left _
        · exact .refl _

/-! ## The text form of an optional -/

namespace World

variable (w : World)

theorem outcome_toStringWithin_content (n : Nat) {v content : Value}
    (found : w.content? v = some content) (filled : content ≠ .null) :
    outcome (toStringWithin (n + 1) v) w = outcome (toStringWithin n content) w := by
  rw [toStringWithin, outcome_get_bind, found]
  split
  · simp [content?, base] at found
  · rename_i empty
    exact absurd (Option.some.inj empty) filled
  · rename_i inside
    rw [Option.some.inj inside]
  all_goals simp_all

/-- The text form of a value is that of what is inside its first layers, with some room for it. -/
theorem outcome_toStringWithin_last (n : Nat) (v : Value) :
    ∃ m, outcome (toStringWithin n v) w =
      outcome (toStringWithin m ((w.layersWithin n v).getLastD v)) w := by
  induction n generalizing v with
  | zero => exact ⟨0, rfl⟩
  | succ n ih =>
    cases found : w.content? v with
    | none => exact ⟨n + 1, by simp [layersWithin, found]⟩
    | some content =>
      have inner : (w.layersWithin (n + 1) v).getLastD v =
          (w.layersWithin n content).getLastD content := by
        simp only [layersWithin, found, getLastD_cons_layersWithin]
      rw [inner]
      by_cases empty : content = .null
      · subst empty
        have last : (w.layersWithin n .null).getLastD .null = .null := by
          cases n <;> simp [layersWithin, content?, base]
        refine ⟨1, ?_⟩
        rw [last, toStringWithin, outcome_get_bind, found]
        split <;> simp_all [toStringWithin]
      · obtain ⟨m, same⟩ := ih content
        exact ⟨m, (w.outcome_toStringWithin_content n found empty).trans same⟩

theorem outcome_toTemplateText_within (v : Value) :
    ∃ m, outcome (toTemplateText v) w = outcome (toStringWithin m (w.unwrap v)) w :=
  w.outcome_toStringWithin_last (w.nesting v) v

/-- An optional has the text form of what it holds, unless nesting was too deep for one of the two. -/
theorem outcome_toTemplateText_unwrap {v : Value}
    (outer : (outcome (toTemplateText v) w).1 ≠ .error .nestedTooDeep)
    (inner : (outcome (toTemplateText (w.unwrap v)) w).1 ≠ .error .nestedTooDeep) :
    outcome (toTemplateText v) w = outcome (toTemplateText (w.unwrap v)) w := by
  obtain ⟨m, same⟩ := w.outcome_toTemplateText_within v
  rw [same] at outer ⊢
  simp only [toTemplateText, outcome_get_bind] at inner ⊢
  obtain less | less := Nat.le_total m (w.nesting (w.unwrap v))
  · exact (deepens_toStringWithin less _ w outer).symm
  · exact deepens_toStringWithin less _ w inner

/-- A number holds nothing. -/
theorem plain_of_numeric {v : Value} (numeric : w.isNumeric v = true) :
    w.content? v = none ∧ w.isCollection v = false := by
  have unreferred : ∀ i, w.base v ≠ .ref i := by
    intro i based
    simp [isNumeric, based] at numeric
  have celled : w.baseCell? v = none := by
    cases based : w.base v with
    | ref i => exact absurd based (unreferred i)
    | _ => simp [baseCell?, based]
  constructor
  · unfold content?
    unfold isNumeric at numeric
    split at numeric <;> simp_all
  · have untexted : w.text? v = none := by
      unfold text?
      unfold isNumeric at numeric
      split at numeric <;> simp_all
    have streamless : w.stream? v = none := by
      cases v with
      | ref i =>
        cases cell : w.cell? i with
        | none => simp [stream?, cell]
        | some c =>
          cases c with
          | stream kind rest => exact absurd (by simp [base, cell]) (unreferred i)
          | _ => simp [stream?, cell]
      | _ => rfl
    have unlisted : w.sequence? v = none := by
      have unread : ∀ s, w.base v ≠ .text s := fun s based => by
        simp [isNumeric, based] at numeric
      cases v with
      | view => simp [isNumeric, base] at numeric
      | range => simp [isNumeric, base] at numeric
      | brokenTime => simp [isNumeric, base] at numeric
      | bytes => simp [isNumeric, base] at numeric
      | _ =>
        unfold sequence?
        split
        · exact absurd ‹_› (unread _)
        · exact absurd ‹_› (unreferred _)
        · rfl
    cases v with
    | ref i => simp_all [isCollection, isArray, isIterable, isSequence, isMapping, isSet, isIterator,
        mapping?, repeatable?]
    | member e i => simp_all [isCollection, isArray, isIterable, isSequence, isMapping, isSet,
        isIterator, mapping?, repeatable?]
    | _ => simp_all [isCollection, isArray, isIterable, isSequence, isMapping, isSet, isIterator,
        mapping?, repeatable?, isNumeric, base]

/-- A text holds nothing, and is no number. -/
theorem plain_of_text {v : Value} {s : String} (texted : w.text? v = some s) :
    v ≠ .null ∧ w.content? v = none ∧ w.isNumeric v = false := by
  unfold text? at texted
  split at texted
  · next based =>
    refine ⟨?_, by simp [content?, based], by simp [isNumeric, based]⟩
    rintro rfl
    cases based
  · cases texted

/-- The text form of what holds nothing and is no collection is made without going deeper. -/
theorem outcome_toStringWithin_single {v : Value} (contained : w.content? v = none)
    (single : w.isCollection v = false) (n m : Nat) :
    outcome (toStringWithin (n + 1) v) w = outcome (toStringWithin (m + 1) v) w := by
  rw [toStringWithin, toStringWithin, outcome_get_bind, outcome_get_bind, contained]
  split
  case h_7 =>
    split
    · rfl
    · rfl
    · simp only [single, Bool.false_eq_true, if_false]
  case h_3 found => cases found
  all_goals rfl

theorem outcome_toStringWithin_numeric {v : Value} (numeric : w.isNumeric v = true) (n m : Nat) :
    outcome (toStringWithin (n + 1) v) w = outcome (toStringWithin (m + 1) v) w := by
  obtain ⟨contained, single⟩ := w.plain_of_numeric numeric
  exact w.outcome_toStringWithin_single contained single n m

theorem outcome_toTemplateText_numeric {v : Value} (numeric : w.isNumeric (w.unwrap v) = true)
    (outer : (outcome (toTemplateText v) w).1 ≠ .error .nestedTooDeep) :
    outcome (toTemplateText v) w = outcome (toTemplateText (w.unwrap v)) w := by
  obtain ⟨m, same⟩ := w.outcome_toTemplateText_within v
  obtain ⟨n, room⟩ := w.nesting_eq_succ (w.unwrap v)
  rw [same] at outer ⊢
  rw [toTemplateText, outcome_get_bind, room]
  cases m with
  | zero => exact absurd rfl outer
  | succ m => exact w.outcome_toStringWithin_numeric numeric m n

end World

/-! ## The predicate and the coercion -/

/-- An optional around a number whose text form is no number. -/
def World.HidesNumber (w : World) (v : Value) : Prop :=
  w.content? v ≠ none ∧ w.isNumeric (w.unwrap v) = true ∧
    ∀ s, (outcome (templateText? (w.unwrap v)) w).1 = .ok (some s) → createNumber s = .ok none

section
variable {w w' : World} {v x : Value} {found : Option Value}

theorem outcome_numberOfForm_congr (same : outcome (toTemplateText v) w = outcome (toTemplateText x) w) :
    outcome (numberOfForm v) w = outcome (numberOfForm x) w := by
  have texts : outcome (templateText? v) w = outcome (templateText? x) w := by
    rw [templateText?, templateText?, outcome_bind, outcome_bind, same]
  rw [numberOfForm, numberOfForm, outcome_bind, outcome_bind, texts]

theorem fits_of_numberOfForm (read : outcome (numberOfForm v) w = (.ok found, w')) :
    (outcome (toTemplateText v) w).1 ≠ .error .nestedTooDeep := by
  intro deep
  obtain ⟨after, tooDeep⟩ : ∃ after, outcome (toTemplateText v) w = (.error .nestedTooDeep, after) :=
    ⟨_, Prod.ext deep rfl⟩
  rw [numberOfForm, templateText?, bind_assoc, outcome_bind_error tooDeep] at read
  simp at read

/-- The text form of a value has a number exactly if it is of the grammar. -/
theorem numberOfForm_ne_none_iff (read : outcome (numberOfForm v) w = (.ok found, w')) :
    found ≠ none ↔
      ¬ ∀ s, (outcome (templateText? v) w).1 = .ok (some s) → createNumber s = .ok none := by
  rw [numberOfForm, outcome_bind] at read
  generalize outcome (templateText? v) w = form at read ⊢
  obtain ⟨failed | _ | s, after⟩ := form
  · simp at read
  · obtain ⟨rfl, -⟩ := by simpa using read
    simp
  · simp only [numberOfText] at read
    cases number : createNumber s with
    | error e => simp [number] at read
    | ok n =>
      obtain ⟨rfl, -⟩ := by simpa [number] using read
      cases n <;> simp [number]

end

variable {w w₁ w₂ : World} {v : Value} {answer : Bool} {number : Option Value}

theorem isNumber_plain (filled : v ≠ .null) (plain : w.isNumeric v = false)
    (predicate : outcome (isNumber v) w = (.ok answer, w₁)) :
    ∃ found, outcome (numberOfForm v) w = (.ok found, w₁) ∧ answer = found.isSome := by
  rw [isNumber, if_neg filled, outcome_get_bind, plain, if_neg Bool.false_ne_true, outcome_bind]
    at predicate
  generalize outcome (numberOfForm v) w = form at predicate ⊢
  obtain ⟨failed | found, after⟩ := form
  · simp at predicate
  · obtain ⟨rfl, rfl⟩ := by simpa using predicate
    exact ⟨found, rfl, rfl⟩

theorem numberOfForm_null (w : World) : outcome (numberOfForm .null) w = (.ok none, w) := by
  have empty : createNumber "" = .ok none := by decide
  simp [numberOfForm, numberOfText, outcome_bind_ok (outcome_templateText?_null w), empty]

theorem toNumber_plain (coercion : outcome (toNumber v) w = (.ok number, w₂)) :
    (w.unwrap v = .null ∧ number = none) ∨
    (w.isNumeric (w.unwrap v) = true ∧ number = some (w.unwrap v)) ∨
    (w.isNumeric (w.unwrap v) = false ∧ outcome (numberOfForm (w.unwrap v)) w = (.ok number, w₂)) := by
  rw [toNumber, outcome_get_bind] at coercion
  generalize w.unwrap v = x at coercion ⊢
  split at coercion
  · obtain ⟨rfl, -⟩ := by simpa using coercion
    exact .inl ⟨rfl, rfl⟩
  · right
    split_ifs at coercion with numeric
    · obtain ⟨rfl, -⟩ := by simpa using coercion
      exact .inl ⟨numeric, rfl⟩
    · exact .inr ⟨by simpa using numeric, coercion⟩

/-- An optional is a number exactly if the text form of what it holds is one, and has the number that
it holds, or that this text form has. -/
theorem isNumber_optional {content : Value} (held : w.content? v = some content)
    (predicate : outcome (isNumber v) w = (.ok answer, w₁))
    (coercion : outcome (toNumber v) w = (.ok number, w₂)) :
    (answer = true ↔ number ≠ none ∧ ¬ w.HidesNumber v) ∧
      (w.HidesNumber v → number = some (w.unwrap v)) := by
  have filled : v ≠ .null := by
    rintro rfl
    simp [World.content?, World.base] at held
  have plain : w.isNumeric v = false := by
    by_contra numeric
    simp [(w.plain_of_numeric (by simpa using numeric)).1] at held
  obtain ⟨found, read, rfl⟩ := isNumber_plain filled plain predicate
  have outer := fits_of_numberOfForm read
  obtain ⟨empty, rfl⟩ | ⟨numeric, rfl⟩ | ⟨other, inside⟩ := toNumber_plain coercion
  · have inner : (outcome (toTemplateText (w.unwrap v)) w).1 ≠ .error .nestedTooDeep := by
      rw [empty]
      exact fits_of_numberOfForm (numberOfForm_null w)
    have same := outcome_numberOfForm_congr (w.outcome_toTemplateText_unwrap outer inner)
    rw [read, empty, numberOfForm_null] at same
    obtain ⟨rfl, -⟩ := by simpa using same
    simp [World.HidesNumber, empty, World.isNumeric, World.base]
  · have same := outcome_numberOfForm_congr (w.outcome_toTemplateText_numeric numeric outer)
    have number := numberOfForm_ne_none_iff (same.symm.trans read)
    simp [World.HidesNumber, held, numeric, Option.isSome_iff_ne_none, number]
  · have same := outcome_numberOfForm_congr
      (w.outcome_toTemplateText_unwrap outer (fits_of_numberOfForm inside))
    rw [read, inside] at same
    obtain ⟨rfl, -⟩ := by simpa using same
    simp [World.HidesNumber, other, Option.isSome_iff_ne_none]

/-- A value is a number exactly if it has one, whatever its shape and whatever iterators its text form
reads, unless it is an optional around a number whose text form is no number: that one has a number,
and is none. -/
theorem isNumber_iff_toNumber (predicate : outcome (isNumber v) w = (.ok answer, w₁))
    (coercion : outcome (toNumber v) w = (.ok number, w₂)) :
    (answer = true ↔ number ≠ none ∧ ¬ w.HidesNumber v) ∧
      (w.HidesNumber v → number = some (w.unwrap v)) := by
  cases held : w.content? v with
  | some content => exact isNumber_optional held predicate coercion
  | none =>
    have shown : ¬ w.HidesNumber v := fun hidden => hidden.1 held
    refine ⟨?_, fun hidden => absurd hidden shown⟩
    have plain := toNumber_plain coercion
    rw [w.unwrap_of_content v held] at plain
    obtain ⟨rfl, rfl⟩ | ⟨numeric, rfl⟩ | ⟨other, inside⟩ := plain
    · obtain ⟨rfl, -⟩ : answer = false ∧ w = w₁ := by simpa [isNumber] using predicate
      simp
    · have filled : v ≠ .null := by
        rintro rfl
        simp [World.isNumeric, World.base] at numeric
      obtain ⟨rfl, -⟩ : answer = true ∧ w = w₁ := by
        rw [isNumber, if_neg filled, outcome_get_bind, numeric, if_pos rfl] at predicate
        simpa [eq_comm] using predicate
      simp [shown]
    · by_cases filled : v = .null
      · subst filled
        obtain ⟨rfl, -⟩ : answer = false ∧ w = w₁ := by simpa [isNumber] using predicate
        rw [numberOfForm_null] at inside
        obtain ⟨rfl, -⟩ := by simpa using inside
        simp
      · obtain ⟨found, read, rfl⟩ := isNumber_plain filled other predicate
        obtain ⟨rfl, -⟩ := by simpa [read] using inside
        simp [shown, Option.isSome_iff_ne_none]

/-- A wrapped NaN: it has a number, and its text form `nan` is none. -/
theorem isNumber_iff_toNumber_nan :
    outcome (isNumber (.optional 2 (.float (.nan 1)))) {} = (.ok false, {}) ∧
    outcome (toNumber (.optional 2 (.float (.nan 1)))) {} = (.ok (some (.float (.nan 1))), {}) ∧
    World.HidesNumber {} (.optional 2 (.float (.nan 1))) := by
  have predicate : outcome (isNumber (.optional 2 (.float (.nan 1)))) {} = (.ok false, {}) := rfl
  have coercion : outcome (toNumber (.optional 2 (.float (.nan 1)))) {} =
      (.ok (some (.float (.nan 1))), {}) := rfl
  obtain ⟨agrees, -⟩ := isNumber_iff_toNumber predicate coercion
  refine ⟨predicate, coercion, ?_⟩
  by_contra shown
  exact absurd (agrees.mpr ⟨by simp, shown⟩) Bool.false_ne_true

/-! ## Numbers that print none -/

/-- A number of a built-in type whose text has a character that stands in no number. -/
inductive PrintsNone : Value → Prop
  | complex (re im : Binary64) : PrintsNone (.complex re im)
  | nan (mark : Nat) : PrintsNone (.float (.nan mark))
  | infinite (negative : Bool) : PrintsNone (.float (.infinite negative))
  | decimalNaN (signaling negative : Bool) (payload mark : Nat) :
      PrintsNone (.decimal (.nan signaling negative payload mark))
  | decimalInfinite (negative : Bool) : PrintsNone (.decimal (.infinite negative))
  | fraction (q : Ratio) (broken : q.den ≠ 1) : PrintsNone (.fraction q)

theorem mem_complexText (re im : Binary64) : 'j' ∈ (complexText re im).toList := by
  unfold complexText
  split <;> simp

theorem PrintsNone.numeric {v : Value} (none : PrintsNone v) : w.isNumeric v = true := by
  cases none <;> rfl

theorem PrintsNone.isNumber {v : Value} (none : PrintsNone v) :
    (∃ s, IsNumber v s) ∧ ∀ b, v ≠ .bool b := by
  cases none
  case complex => exact ⟨⟨_, .complex ..⟩, by simp⟩
  case nan => exact ⟨⟨_, .float _⟩, by simp⟩
  case infinite => exact ⟨⟨_, .float _⟩, by simp⟩
  case decimalNaN => exact ⟨⟨_, .decimal _⟩, by simp⟩
  case decimalInfinite => exact ⟨⟨_, .decimal _⟩, by simp⟩
  case fraction => exact ⟨⟨_, .fraction _⟩, by simp⟩

theorem ok_of_bind {α β : Type} {x : Except Fault α} {f : α → Except Fault β} {b : β}
    (done : x >>= f = .ok b) : ∃ a, x = .ok a ∧ f a = .ok b := by
  cases x with
  | error e => cases done
  | ok a => exact ⟨a, rfl, done⟩

/-- The text of a fraction has a stroke between two numbers. -/
theorem fraction_printed {q : Ratio} (broken : q.den ≠ 1) {t : String}
    (printed : w.plainText (.fraction q) = .ok t) : ∃ num den : String, num ++ "/" ++ den = t := by
  simp only [World.plainText, if_neg broken] at printed
  obtain ⟨num, -, printed⟩ := ok_of_bind printed
  obtain ⟨den, -, printed⟩ := ok_of_bind printed
  exact ⟨num, den, Except.ok.inj printed⟩

theorem PrintsNone.strange {v : Value} (none : PrintsNone v) {t : String}
    (printed : w.plainText v = .ok t) : ∃ c ∈ t.toList, Literal.isPlain c = false := by
  cases none with
  | complex re im =>
    obtain ⟨n, room⟩ := w.nesting_eq_succ (.complex re im)
    obtain rfl : complexText re im = t := by
      simpa [World.plainText, World.base, World.display, room, World.showWithin] using printed
    exact ⟨'j', mem_complexText re im, by decide⟩
  | nan mark =>
    obtain ⟨n, room⟩ := w.nesting_eq_succ (.float (.nan mark))
    obtain rfl : (Binary64.nan mark).toText = t := by
      simpa [World.plainText, World.base, World.display, room, World.showWithin] using printed
    exact ⟨'n', by change 'n' ∈ "nan".toList; decide, by decide⟩
  | infinite negative =>
    obtain ⟨n, room⟩ := w.nesting_eq_succ (.float (.infinite negative))
    obtain rfl : (Binary64.infinite negative).toText = t := by
      simpa [World.plainText, World.base, World.display, room, World.showWithin] using printed
    exact ⟨'n', by cases negative <;> decide, by decide⟩
  | decimalNaN signaling negative payload mark =>
    obtain rfl : (Decimal.nan signaling negative payload mark).toText = t := by
      simpa [World.plainText] using printed
    refine ⟨'N', ?_, by decide⟩
    cases signaling <;> simp [Decimal.toText]
  | decimalInfinite negative =>
    obtain rfl : (Decimal.infinite negative).toText = t := by
      simpa [World.plainText] using printed
    exact ⟨'I', by simp [Decimal.toText], by decide⟩
  | fraction q broken =>
    obtain ⟨num, den, rfl⟩ := fraction_printed broken printed
    exact ⟨'/', by simp, by decide⟩

/-- Such a number, wrapped, has a number and is none. -/
theorem hidesNumber_of_printsNone {v : Value} (none : PrintsNone v) (tag : Nat) :
    w.HidesNumber (.optional tag v) := by
  obtain ⟨⟨s, number⟩, other⟩ := none.isNumber
  obtain ⟨-, -, -, empty⟩ := isCollection_number number w
  have inside : w.unwrap (.optional tag v) = v := by
    rw [w.unwrap_optional, w.unwrap_of_content v empty]
  refine ⟨by simp [World.content?, World.base], ?_, fun t printed => ?_⟩
  · rw [inside]
    exact none.numeric
  · rw [inside, templateText?, outcome_bind, outcome_toTemplateText_number number other] at printed
    cases text : w.plainText v with
    | error f => simp [text, Except.map] at printed
    | ok shown =>
      obtain rfl : shown = t := by simpa [text, Except.map, World.text?, World.base] using printed
      obtain ⟨c, found, strange⟩ := none.strange text
      exact Literal.createNumber_strange found strange

end TemplateEngine
