import TemplateEngine.Proofs.Encoding
import TemplateEngine.Proofs.IntegerSpellings
import TemplateEngine.Proofs.NumberValues
/-!
The truth of values: what is false, and what cannot be told whether it is. A value is judged by what
its optionals hold, and stays as it is.
-/
namespace TemplateEngine

/-! ## Zeros -/

theorem Ratio.same_zero (x : Ratio) : x.same (.ofInt 0) = x.isZero := by
  simp [same, ofInt, isZero]

theorem Ratio.isZero_scaled {base : Nat} (positive : 0 < base) (a e : Int) :
    (scaled a base e).isZero = (a == 0) := by
  have power : ((Nat.pow base e.natAbs : Nat) : Int) ≠ 0 :=
    Int.natCast_ne_zero.mpr (Nat.pow_pos positive).ne'
  unfold scaled isZero
  split_ifs
  · rfl
  · rw [Bool.eq_iff_iff, beq_iff_eq, beq_iff_eq, Int.mul_eq_zero, or_iff_left power]

theorem Binary64.same_zero (x : Binary64) : x.exact.same (.ratio (.ofInt 0)) = x.isZero := by
  cases x with
  | nan => rfl
  | infinite => rfl
  | finite negative mant exp =>
    rw [exact, Exact.same, Ratio.same_zero, Ratio.isZero_scaled (by decide)]
    cases negative <;> simp [isZero]

theorem Decimal.same_zero (x : Decimal) : x.exact.same (.ratio (.ofInt 0)) = x.isZero := by
  cases x with
  | nan => rfl
  | infinite => rfl
  | finite negative coeff exp =>
    rw [exact, Exact.same, Ratio.same_zero, Ratio.isZero_scaled (by decide)]
    cases negative <;> simp [isZero]

def Numeric.zero : Numeric := .real (.ratio (.ofInt 0))

/-! ## Blank bytes -/

def asciiBlanks : List Char := [' ', '\t', '\n', '\r', '\x0b', '\x0c']

/-- A blank byte is a character of its own. -/
theorem front_of_blank {b : UInt8} (blank : isAsciiBlank b = true) (rest : List UInt8) :
    ∃ c ∈ asciiBlanks, Text.Utf8.front b rest = .char c 1 := by
  have small : b.toNat < 33 := by
    simp only [isAsciiBlank, Bool.or_eq_true, Bool.and_eq_true, beq_iff_eq, decide_eq_true_eq,
      UInt8.le_iff_toNat_le, ← UInt8.toNat_inj, UInt8.reduceToNat] at blank
    omega
  have leads : ∀ n < 33, Text.Utf8.lead? (UInt8.ofNat n) = some (0, 0x80, 0xbf) := by decide
  have listed : ∀ n < 33, isAsciiBlank (UInt8.ofNat n) = true → Char.ofNat n ∈ asciiBlanks := by
    decide
  have lead := leads b.toNat small
  rw [UInt8.ofNat_toNat] at lead
  exact ⟨_, listed b.toNat small (by rwa [UInt8.ofNat_toNat]), by rw [Text.Utf8.front, lead]⟩

theorem blank_of_front {b : UInt8} {rest : List UInt8} {c : Char} {n : Nat}
    (listed : c ∈ asciiBlanks) (read : Text.Utf8.front b rest = .char c n) :
    isAsciiBlank b = true ∧ n = 1 := by
  have short : asciiBlanks.Forall fun c => String.utf8EncodeChar c = [UInt8.ofNat c.toNat] :=
    ⟨rfl, rfl, rfl, rfl, rfl, rfl⟩
  have blank : asciiBlanks.Forall fun c => isAsciiBlank (UInt8.ofNat c.toNat) = true :=
    ⟨rfl, rfl, rfl, rfl, rfl, rfl⟩
  obtain ⟨⟨after, split⟩, length⟩ := Text.Utf8.front_eq_char.mp read
  rw [List.forall_iff_forall_mem.mp short c listed] at split length
  rw [(List.cons.inj split).1]
  exact ⟨List.forall_iff_forall_mem.mp blank c listed, length.symm⟩

/-- Bytes are blank if their text has no other characters than the blanks of ASCII. -/
theorem isBlankBytes_iff (b : List UInt8) :
    isBlankBytes b = true ↔ ∀ c ∈ (Text.Utf8.decodeReplacing b).toList, c ∈ asciiBlanks := by
  rw [Text.Utf8.decodeReplacing, String.toList_ofList]
  induction b with
  | nil => simp [isBlankBytes, Text.Utf8.decodeFrom]
  | cons b rest ih =>
    have split : isBlankBytes (b :: rest) = (isAsciiBlank b && isBlankBytes rest) := rfl
    rw [split, Bool.and_eq_true, Text.Utf8.decodeFrom]
    constructor
    · rintro ⟨blank, more⟩
      obtain ⟨c, listed, read⟩ := front_of_blank blank rest
      rw [read]
      exact List.forall_mem_cons.mpr ⟨listed, ih.mp more⟩
    · intro blank
      cases read : Text.Utf8.front b rest with
      | flawed why n =>
        rw [read] at blank
        exact absurd (blank _ List.mem_cons_self) (by decide)
      | char c n =>
        rw [read] at blank
        obtain ⟨listed, more⟩ := List.forall_mem_cons.mp blank
        obtain ⟨first, rfl⟩ := blank_of_front listed read
        exact ⟨first, ih.mpr more⟩

/-! ## Empty collections -/

/-- The number of elements in a cell that knows it. -/
def Cell.size? : Cell → Option Nat
  | .list items | .tuple items | .deque items | .array _ items | .set _ items | .sized items =>
    some items.length
  | .bytearray bytes => some bytes.length
  | .dict _ entries => some entries.length
  | .bindings scope => some scope.entries.length
  | .stream .. | .bag _ | .blank _ | .object .. => none

/-- A value that knows that it has no elements. -/
inductive World.Vacant (w : World) : Value → Prop
  | text {v : Value} (none : w.text? v = some "") : Vacant w v
  | bytes : Vacant w (.bytes [])
  | range {start stop step : Int} (none : Elements.rangeLength start stop step = 0) :
      Vacant w (.range start stop step)
  | cell {v : Value} {c : Cell} (held : w.baseCell? v = some c) (none : c.size? = some 0) :
      Vacant w v
  | mapping {v : Value} (none : w.mapping? v = some []) : Vacant w v
  | part {tag : Nat} {which : MappingPart} {target : Value} (none : w.mapping? target = some []) :
      Vacant w (.part tag which target)
  | enumeration {c : ClassId} (named : Classes.isEnumeration w.classes c = true)
      (none : w.enumMembers c = []) : Vacant w (.type c)
  | flags {cls : Nat} : Vacant w (.flags cls 0)
  | view {tag : Nat} {target : Value} (behind : Vacant w target) : Vacant w (.view tag target)

namespace World

/-- Only the number zero has no bits. -/
theorem bitCount_eq_zero {n : Nat} : bitCount n = 0 ↔ n = 0 := by
  constructor
  · intro none
    by_contra positive
    have digits := Text.map_digitsOf (by decide : 1 < 2) (by decide) n
    have filled : Text.digitsOf 2 n ≠ [] := fun empty =>
      Nat.toDigits_ne_nil (by rw [← digits, empty, List.map_nil])
    obtain ⟨d, rest, split⟩ := List.exists_cons_of_ne_nil filled
    have first : d ≠ 0 := by
      rintro rfl
      refine @Text.head?_toDigits 2 n (by decide) (by decide) (by omega) ?_
      rw [← digits, split]
      rfl
    rw [bitCount, split, ← List.sum_eq_foldl, List.sum_cons] at none
    omega
  · rintro rfl
    decide

variable {w : World} {v : Value}

theorem size?_of_cell {c : Cell} (held : w.baseCell? v = some c) : w.size? v = c.size? := by
  obtain ⟨i, based, found⟩ := base_of_baseCell? held
  obtain ⟨j, rfl⟩ | ⟨e, k, rfl⟩ := ref_or_member_of_base based <;>
    cases c <;> simp [size?, sequence?, mapping?, repeatable?, baseCell?, based, found, Cell.size?,
      Elements.length, byteItems]

theorem size?_of_text {s : String} (read : w.text? v = some s) : w.size? v = some s.length := by
  have based : w.base v = .text s := by
    unfold text? at read
    split at read
    · rwa [← Option.some.inj read]
    · cases read
  cases v with
  | text | ref | member =>
    simp [size?, sequence?, based, Elements.length, textItems, String.length_toList]
  | _ => cases based

theorem Vacant.size?_eq (empty : w.Vacant v) : w.size? v = some 0 := by
  induction empty with
  | text none => exact size?_of_text none
  | bytes => rfl
  | range none => simp [size?, sequence?, Elements.length, none]
  | cell held none => exact (size?_of_cell held).trans none
  | mapping none => exact size?_of_mapping none
  | @part tag which target none =>
    cases which <;> simp [size?, sequence?, base, mapping?, baseCell?, repeatable?, none]
  | enumeration named none =>
    simp [size?, sequence?, base, mapping?, baseCell?, repeatable?, named, none]
  | flags => rfl
  | view behind ih => exact ih

theorem size?_of_shown (w : World) {v : Value}
    (shown : (∃ tag target, v = .readOnly tag target) ∨ ∃ owner, v = .subUnits owner) :
    w.size? v = (w.mapping? v).map List.length := by
  cases read : w.mapping? v with
  | some entries => exact size?_of_mapping read
  | none =>
    obtain ⟨tag, target, rfl⟩ | ⟨owner, rfl⟩ := shown <;>
      simp [size?, sequence?, base, read, baseCell?, repeatable?]

/-- A reference or a member that is built on neither a text nor a cell has no size. -/
theorem size?_of_unbuilt (built : (∃ i, v = .ref i) ∨ ∃ e i, v = .member e i)
    (untext : w.text? v = none) (unheld : w.baseCell? v = none) : w.size? v = none := by
  have unlisted : w.sequence? v = none := by
    obtain ⟨i, rfl⟩ | ⟨e, i, rfl⟩ := built <;> unfold sequence? <;> split <;>
      simp_all [text?, baseCell?]
  obtain ⟨i, rfl⟩ | ⟨e, i, rfl⟩ := built <;>
    simp [size?, unlisted, mapping?, repeatable?, unheld]

theorem vacant_built (empty : w.size? v = some 0)
    (built : (∃ i, v = .ref i) ∨ ∃ e i, v = .member e i) : w.Vacant v := by
  cases held : w.baseCell? v with
  | some c => exact .cell held ((size?_of_cell held).symm.trans empty)
  | none =>
    cases read : w.text? v with
    | some s =>
      have short := Option.some.inj ((size?_of_text read).symm.trans empty)
      rw [String.length_eq_zero_iff.mp short] at read
      exact .text read
    | none => simp [size?_of_unbuilt built read held] at empty

theorem vacant_of_size? (empty : w.size? v = some 0) : w.Vacant v := by
  induction v with
  | view tag target ih => exact .view (ih empty)
  | flags cls bits =>
    obtain rfl := bitCount_eq_zero.mp (Option.some.inj empty)
    exact .flags
  | ref i => exact vacant_built empty (.inl ⟨i, rfl⟩)
  | member e i => exact vacant_built empty (.inr ⟨e, i, rfl⟩)
  | text s =>
    have short := Option.some.inj ((size?_of_text rfl).symm.trans empty)
    exact .text (congrArg some (String.length_eq_zero_iff.mp short))
  | bytes b =>
    obtain rfl : b = [] := by simpa [size?, sequence?, Elements.length, byteItems] using empty
    exact .bytes
  | range start stop step => exact .range (Option.some.inj empty)
  | type c =>
    have members : Classes.isEnumeration w.classes c = true ∧ w.enumMembers c = [] := by
      simpa [size?, sequence?, base, mapping?, baseCell?, repeatable?] using empty
    exact .enumeration members.1 members.2
  | part tag which target =>
    refine .part ?_
    cases which <;>
      simpa [size?, sequence?, base, mapping?, baseCell?, repeatable?] using empty
  | readOnly tag target =>
    have shown := w.size?_of_shown (.inl ⟨tag, target, rfl⟩)
    exact .mapping (by simpa [shown] using empty)
  | subUnits owner =>
    have shown := w.size?_of_shown (.inr ⟨owner, rfl⟩)
    exact .mapping (by simpa [shown] using empty)
  | _ => simp [size?, sequence?, base, mapping?, baseCell?, repeatable?, BrokenTime.fields,
      Elements.length] at empty

/-! ## Which branch judges a value -/

theorem baseCell?_of_stream {kind : Stream} {rest : List Value}
    (held : w.stream? v = some (kind, rest)) : w.baseCell? v = some (.stream kind rest) := by
  unfold stream? at held
  split at held
  · split at held
    · next found =>
      obtain ⟨rfl, rfl⟩ := by simpa using held
      simp [baseCell?, base, found]
    · cases held
  · cases held

theorem unbuilt_of_numeric (numeric : w.isNumeric v = true) :
    w.text? v = none ∧ w.baseCell? v = none := by
  unfold isNumeric at numeric
  split at numeric
  case h_6 => cases numeric
  all_goals
    rename_i based
    exact ⟨by simp [text?, based], by simp [baseCell?, based]⟩

theorem size?_of_numeric (numeric : w.isNumeric v = true) : w.size? v = none := by
  obtain ⟨untext, unheld⟩ := unbuilt_of_numeric numeric
  cases v with
  | ref i => exact size?_of_unbuilt (.inl ⟨i, rfl⟩) untext unheld
  | member e i => exact size?_of_unbuilt (.inr ⟨e, i, rfl⟩) untext unheld
  | int | float | complex | decimal | fraction =>
    simp [size?, sequence?, base, mapping?, baseCell?, repeatable?]
  | _ => simp [isNumeric, base] at numeric

/-- Of what can be iterated again and again, only a bag has no size. -/
theorem bag_of_repeatable {items : List Value} (unsized : w.size? v = none)
    (read : w.repeatable? v = some items) : w.baseCell? v = some (.bag items) := by
  cases held : w.baseCell? v with
  | some c =>
    have sizeless := (size?_of_cell held).symm.trans unsized
    obtain ⟨i, based, -⟩ := base_of_baseCell? held
    obtain ⟨j, rfl⟩ | ⟨e, k, rfl⟩ := ref_or_member_of_base based <;>
      cases c <;> simp_all [repeatable?, Cell.size?]
  | none =>
    cases v with
    | part tag which target =>
      cases which <;> simp_all [repeatable?, size?, sequence?, base, mapping?]
    | type c => simp_all [repeatable?, size?, sequence?, base, mapping?]
    | flags cls bits => cases unsized
    | _ => simp [repeatable?, held] at read

end World

open World

section Truth
variable {w : World} {v : Value}

theorem outcome_isNonzero {x : Numeric} (numeric : w.isNumeric v = true)
    (read : w.numeric? v = some x) (quiet : w.isSignaling v = false) :
    outcome (w.isNonzero v) w = (.ok !x.same .zero, w) := by
  unfold isNumeric at numeric
  split at numeric <;> rename_i based
  case h_6 => cases numeric
  all_goals
    simp only [numeric?, based, Option.some.injEq] at read
    subst read
    simp only [isNonzero, based, Numeric.same, Numeric.zero]
  · rw [Exact.same, Ratio.same_zero]
    rfl
  · rw [Binary64.same_zero]
    rfl
  · have zero : Ratio.mk 0 1 = .ofInt 0 := rfl
    rw [zero, Binary64.same_zero, Binary64.same_zero]
    rfl
  · simp only [isSignaling, based] at quiet
    rw [Decimal.same_zero, quiet]
    rfl
  · rw [Exact.same, Ratio.same_zero]
    rfl

theorem outcome_isNonzero_signaling (held : w.isSignaling v = true) :
    outcome (w.isNonzero v) w = (.error (.decimal .invalidOperation), w) := by
  unfold isSignaling at held
  split at held
  · next based => simp [isNonzero, based, held]
  · cases held

theorem outcome_truthOfContent_number (numeric : w.isNumeric v = true) :
    outcome (truthOfContent v) w = outcome (w.isNonzero v) w := by
  rw [truthOfContent, outcome_get_bind]
  split
  · cases numeric
  · cases numeric
  · rw [if_pos numeric]

theorem outcome_lengthOf_sized {n : Nat} (sized : w.size? v = some n) :
    outcome (lengthOf v) w = (if n < maxLength then .ok n else .error .lengthTooLarge, w) := by
  rw [lengthOf, outcome_get_bind, sized]
  dsimp only
  split_ifs <;> rfl

theorem outcome_lengthOf_unsized (unsized : w.size? v = none) :
    outcome (lengthOf v) w = (.error (.noLength (w.typeInMessages (behindViews v))), w) := by
  rw [lengthOf, outcome_get_bind, unsized]
  rfl

section Plain
variable (other : w.isNumeric v = false)
include other

theorem outcome_truthOfContent_text {s : String} (read : w.text? v = some s) :
    outcome (truthOfContent v) w = (.ok !isBlankText s, w) := by
  rw [truthOfContent, outcome_get_bind]
  split
  · cases read
  · cases read
  · simp only [other, Bool.false_eq_true, if_false, read, outcome_pure]

variable (untext : w.text? v = none)
include untext

theorem outcome_truthOfContent_bytes {b : List UInt8} (read : w.bytes? v = some b) :
    outcome (truthOfContent v) w = (.ok !isBlankBytes b, w) := by
  rw [truthOfContent, outcome_get_bind]
  split
  · cases read
  · cases read
  · simp only [other, Bool.false_eq_true, if_false, untext, read, outcome_pure]

variable (unspelled : w.bytes? v = none)
include unspelled

theorem outcome_truthOfContent_sized {n : Nat} (sized : w.size? v = some n) :
    outcome (truthOfContent v) w =
      (if n < maxLength then .ok (decide (0 < n)) else .error .lengthTooLarge, w) := by
  rw [truthOfContent, outcome_get_bind]
  split
  · cases sized
  · cases sized
  · simp only [other, Bool.false_eq_true, if_false, untext, unspelled, sized, outcome_bind,
      outcome_lengthOf_sized sized]
    split_ifs <;> rfl

variable (unsized : w.size? v = none)
include unsized

theorem outcome_truthOfContent_view {tag : Nat} {target : Value} (shown : v = .view tag target) :
    outcome (truthOfContent v) w =
      (.error (.noLength (w.typeInMessages (behindViews target))), w) := by
  subst shown
  simp only [truthOfContent, outcome_get_bind, other, Bool.false_eq_true, if_false, untext,
    unspelled, unsized]
  rw [outcome_bind_error (outcome_lengthOf_unsized unsized), behindViews]

theorem outcome_truthOfContent_stream {kind : Stream} {rest : List Value}
    (held : w.stream? v = some (kind, rest)) :
    outcome (truthOfContent v) w =
      outcome (do return decide (0 < (← lengthHint kind rest).getD 1)) w := by
  cases v with
  | ref i =>
    simp only [truthOfContent, outcome_get_bind, other, Bool.false_eq_true, if_false, untext,
      unspelled, unsized, held]
  | _ => cases held

theorem outcome_truthOfContent_other (filled : v ≠ .null) (untrue : ∀ b, v ≠ .bool b)
    (unshown : ∀ tag target, v ≠ .view tag target) (unread : w.stream? v = none) :
    outcome (truthOfContent v) w = (.ok ((w.repeatable? v).all (!·.isEmpty)), w) := by
  rw [truthOfContent, outcome_get_bind]
  split
  · exact absurd rfl filled
  · exact absurd rfl (untrue _)
  · simp only [other, Bool.false_eq_true, if_false, untext, unspelled]
    split
    · next sized => simp [unsized] at sized
    · exact absurd rfl (unshown _ _)
    · simp only [unread, outcome_pure]

end Plain

end Truth

/-! ## What is false -/

namespace World

/-- A value that is false, and no optional: nothing, false, a zero of any type, a blank text, and what
is empty or tells that nothing is left of it. -/
inductive Falsy (w : World) : Value → Prop
  | nothing : Falsy w .null
  | untrue : Falsy w (.bool false)
  | zero {v : Value} {x : Numeric} (numeric : w.isNumeric v = true) (read : w.numeric? v = some x)
      (same : x.same .zero = true) : Falsy w v
  | blankText {v : Value} {s : String} (read : w.text? v = some s)
      (blank : ∀ c ∈ s.toList, Text.isBlank c = true) : Falsy w v
  /-- The text of the bytes is blank, and has no other blanks than those of ASCII. -/
  | blankBytes {v : Value} {b : List UInt8} (read : w.bytes? v = some b)
      (blank : ∀ c ∈ (Text.Utf8.decodeReplacing b).toList, c ∈ asciiBlanks) : Falsy w v
  | vacant {v : Value} (untext : w.isText v = false) (empty : w.Vacant v) : Falsy w v
  | bag {v : Value} (held : w.baseCell? v = some (.bag [])) : Falsy w v
  | drained {v : Value} (held : w.stream? v = some (.list, [])) : Falsy w v
  | hinted {v : Value} {rest : List Value} (held : w.stream? v = some (.hinted (some 0), rest)) :
      Falsy w v

/-- A value, no optional, whose truth cannot be told, and why: a number that signals, a collection that
is too long or a view of something without a length, and an iterator that tells nonsense. -/
inductive Untold (w : World) : Value → Fault → Prop
  | signaling {v : Value} (held : w.isSignaling v = true) : Untold w v (.decimal .invalidOperation)
  | tooLong {v : Value} {n : Nat} (untext : w.isText v = false) (sized : w.size? v = some n)
      (long : maxLength ≤ n) : Untold w v .lengthTooLarge
  | lengthless {tag : Nat} {target : Value} (unsized : w.size? target = none) :
      Untold w (.view tag target) (.noLength (w.typeInMessages (behindViews target)))
  | longHint {v : Value} {n : Int} {rest : List Value}
      (held : w.stream? v = some (.hinted (some n), rest))
      (long : n < -(maxLength : Int) ∨ (maxLength : Int) ≤ n) : Untold w v .lengthTooLarge
  | negativeHint {v : Value} {n : Int} {rest : List Value}
      (held : w.stream? v = some (.hinted (some n), rest))
      (small : -(maxLength : Int) ≤ n ∧ n < 0) : Untold w v .negativeHint

variable {w : World} {v : Value}

theorem isText_eq_false : w.isText v = false ↔ w.text? v = none ∧ w.bytes? v = none := by
  simp [isText]

theorem same_zero_of_signaling {x : Numeric} (held : w.isSignaling v = true)
    (read : w.numeric? v = some x) : x.same .zero = false := by
  unfold isSignaling at held
  split at held
  · next d based =>
    simp only [numeric?, based, Option.some.injEq] at read
    subst read
    cases d with
    | nan => rfl
    | _ => cases held
  · cases held

/-- What is built on a cell other than a byte string is judged by the cell. -/
theorem plain_of_cell {c : Cell} (held : w.baseCell? v = some c) (unspelled : ∀ b, c ≠ .bytearray b) :
    w.isNumeric v = false ∧ w.text? v = none ∧ w.bytes? v = none := by
  obtain ⟨i, based, found⟩ := base_of_baseCell? held
  refine ⟨by simp [isNumeric, based], by simp [text?, based], ?_⟩
  cases c <;> simp_all [bytes?]

theorem plain_of_bytes {b : List UInt8} (read : w.bytes? v = some b) :
    w.isNumeric v = false ∧ w.text? v = none := by
  unfold bytes? at read
  split at read
  · next based => exact ⟨by simp [isNumeric, based], by simp [text?, based]⟩
  · next based => exact ⟨by simp [isNumeric, based], by simp [text?, based]⟩
  · cases read

theorem unnumbered_of_size {n : Nat} (sized : w.size? v = some n) : w.isNumeric v = false := by
  by_contra numeric
  simp [size?_of_numeric (Bool.eq_true_of_not_eq_false numeric)] at sized

theorem outcome_of_stream {kind : Stream} {rest : List Value}
    (held : w.stream? v = some (kind, rest)) : outcome (truthOfContent v) w =
      outcome (do return decide (0 < (← lengthHint kind rest).getD 1)) w := by
  have built := baseCell?_of_stream held
  obtain ⟨other, untext, unspelled⟩ := plain_of_cell built (by simp)
  exact outcome_truthOfContent_stream other untext unspelled (size?_of_cell built) held

theorem Falsy.outcome_eq (falsy : w.Falsy v) : outcome (truthOfContent v) w = (.ok false, w) := by
  cases falsy with
  | nothing => rfl
  | untrue => rfl
  | zero numeric read same =>
    have quiet : w.isSignaling v = false := by
      by_contra loud
      simp [same_zero_of_signaling (Bool.eq_true_of_not_eq_false loud) read] at same
    rw [outcome_truthOfContent_number numeric, outcome_isNonzero numeric read quiet, same]
    rfl
  | blankText read blank =>
    rw [outcome_truthOfContent_text (w.plain_of_text read).2.2 read, isBlankText,
      List.all_eq_true.mpr blank]
    rfl
  | blankBytes read blank =>
    obtain ⟨other, untext⟩ := plain_of_bytes read
    rw [outcome_truthOfContent_bytes other untext read, (isBlankBytes_iff _).mpr blank]
    rfl
  | vacant plain empty =>
    obtain ⟨untext, unspelled⟩ := isText_eq_false.mp plain
    have sized := empty.size?_eq
    exact outcome_truthOfContent_sized (unnumbered_of_size sized) untext unspelled sized
  | bag held =>
    obtain ⟨other, untext, unspelled⟩ := plain_of_cell held (by simp)
    have unread : w.stream? v = none := Option.eq_none_iff_forall_ne_some.mpr fun _ read => by
      cases held.symm.trans (baseCell?_of_stream read)
    have judged := outcome_truthOfContent_other other untext unspelled (size?_of_cell held)
    obtain ⟨i, based, -⟩ := base_of_baseCell? held
    obtain ⟨j, rfl⟩ | ⟨e, k, rfl⟩ := ref_or_member_of_base based <;>
      simp [judged (by simp) (by simp) (by simp) unread, repeatable?, held]
  | drained held => rw [outcome_of_stream held]; rfl
  | hinted held => rw [outcome_of_stream held]; rfl

theorem Untold.outcome_eq {f : Fault} (untold : w.Untold v f) :
    outcome (truthOfContent v) w = (.error f, w) := by
  cases untold with
  | signaling held =>
    have numeric : w.isNumeric v = true := by
      unfold isSignaling at held
      split at held
      · next based => simp [isNumeric, based]
      · cases held
    rw [outcome_truthOfContent_number numeric, outcome_isNonzero_signaling held]
  | tooLong plain sized long =>
    obtain ⟨untext, unspelled⟩ := isText_eq_false.mp plain
    rw [outcome_truthOfContent_sized (unnumbered_of_size sized) untext unspelled sized,
      if_neg (by omega)]
  | @lengthless tag target unsized =>
    exact @outcome_truthOfContent_view w (.view tag target) rfl rfl rfl unsized tag target rfl
  | longHint held long =>
    rw [outcome_of_stream held]
    simp [lengthHint, long]
  | @negativeHint _ n _ held small =>
    have fits : ¬ (n < -(maxLength : Int) ∨ (maxLength : Int) ≤ n) := by omega
    rw [outcome_of_stream held]
    simp [lengthHint, fits, small.2]

/-- A value that is false, or whose truth cannot be told, or that is true. -/
def Judged (w : World) (v : Value) : Prop :=
  w.Falsy v ∨ (∃ f, w.Untold v f) ∨ outcome (truthOfContent v) w = (.ok true, w)

theorem judged_number (numeric : w.isNumeric v = true) : w.Judged v := by
  cases loud : w.isSignaling v with
  | true => exact .inr (.inl ⟨_, .signaling loud⟩)
  | false =>
    obtain ⟨x, read⟩ : ∃ x, w.numeric? v = some x := by
      unfold isNumeric at numeric
      split at numeric
      case h_6 => cases numeric
      all_goals
        rename_i based
        exact ⟨_, by rw [numeric?, based]⟩
    cases same : x.same .zero with
    | true => exact .inl (.zero numeric read same)
    | false =>
      refine .inr (.inr ?_)
      rw [outcome_truthOfContent_number numeric, outcome_isNonzero numeric read loud, same]
      rfl

theorem judged_stream {kind : Stream} {rest : List Value} (held : w.stream? v = some (kind, rest)) :
    w.Judged v := by
  have judged := outcome_of_stream held
  match kind, rest with
  | .list, [] => exact .inl (.drained held)
  | .list, x :: rest =>
    refine .inr (.inr (judged.trans ?_))
    simp [lengthHint]
  | .generator, _ => exact .inr (.inr (judged.trans rfl))
  | .hinted none, _ => exact .inr (.inr (judged.trans rfl))
  | .hinted (some n), rest =>
    by_cases long : n < -(maxLength : Int) ∨ (maxLength : Int) ≤ n
    · exact .inr (.inl ⟨_, .longHint held long⟩)
    · obtain negative | rfl | positive : n < 0 ∨ n = 0 ∨ 0 < n := by omega
      · exact .inr (.inl ⟨_, .negativeHint held ⟨by omega, negative⟩⟩)
      · exact .inl (.hinted held)
      · refine .inr (.inr (judged.trans ?_))
        have unsigned : ¬ n < 0 := by omega
        simp [lengthHint, long, unsigned, positive]

theorem judged_unsized (unsized : w.size? v = none)
    (read : outcome (truthOfContent v) w = (.ok ((w.repeatable? v).all (!·.isEmpty)), w)) :
    w.Judged v := by
  cases found : w.repeatable? v with
  | none =>
    rw [found] at read
    exact .inr (.inr read)
  | some items =>
    rw [found] at read
    cases items with
    | nil => exact .inl (.bag (bag_of_repeatable unsized found))
    | cons x rest => exact .inr (.inr read)

/-- Every value that is not false and whose truth can be told is true. -/
theorem judged (w : World) (v : Value) : w.Judged v := by
  by_cases numeric : w.isNumeric v = true
  · exact judged_number numeric
  have other : w.isNumeric v = false := by simpa using numeric
  cases read : w.text? v with
  | some s =>
    cases blank : isBlankText s with
    | true => exact .inl (.blankText read (List.all_eq_true.mp blank))
    | false =>
      refine .inr (.inr ?_)
      rw [outcome_truthOfContent_text other read, blank]
      rfl
  | none =>
  cases spelled : w.bytes? v with
  | some b =>
    cases blank : isBlankBytes b with
    | true => exact .inl (.blankBytes spelled ((isBlankBytes_iff b).mp blank))
    | false =>
      refine .inr (.inr ?_)
      rw [outcome_truthOfContent_bytes other read spelled, blank]
      rfl
  | none =>
  have plain := isText_eq_false.mpr ⟨read, spelled⟩
  cases sized : w.size? v with
  | some n =>
    by_cases fits : n < maxLength
    · obtain rfl | positive := Nat.eq_zero_or_pos n
      · exact .inl (.vacant plain (vacant_of_size? sized))
      · refine .inr (.inr ?_)
        rw [outcome_truthOfContent_sized other read spelled sized, if_pos fits,
          decide_eq_true positive]
    · exact .inr (.inl ⟨_, .tooLong plain sized (by omega)⟩)
  | none =>
  cases held : w.stream? v with
  | some stream => exact judged_stream held
  | none =>
    have shapeless := outcome_truthOfContent_other other read spelled sized
    cases v with
    | null => exact .inl .nothing
    | bool b =>
      cases b with
      | false => exact .inl .untrue
      | true => exact .inr (.inr rfl)
    | view tag target => exact .inr (.inl ⟨_, .lengthless sized⟩)
    | _ => exact judged_unsized sized (shapeless nofun nofun nofun held)

end World

/-- A value is false exactly if what its optionals hold is, and fails to have a truth only where that
cannot be told. It stays as it is, and so does an iterator. -/
theorem toBoolean_told (w : World) (v : Value) : ∃ result, outcome (toBoolean v) w = (result, w) ∧
    (result = .ok false ↔ w.Falsy (w.unwrap v)) ∧
    ∀ f, result = .error f ↔ w.Untold (w.unwrap v) f := by
  have content : outcome (toBoolean v) w = outcome (truthOfContent (w.unwrap v)) w := by
    rw [toBoolean, outcome_get_bind]
  rw [content]
  obtain falsy | ⟨f, untold⟩ | true := w.judged (w.unwrap v)
  · refine ⟨_, falsy.outcome_eq, iff_of_true rfl falsy, fun f => ⟨nofun, fun untold => ?_⟩⟩
    cases falsy.outcome_eq.symm.trans untold.outcome_eq
  · refine ⟨_, untold.outcome_eq, ⟨nofun, fun falsy => ?_⟩, fun g => ⟨?_, fun other => ?_⟩⟩
    · cases falsy.outcome_eq.symm.trans untold.outcome_eq
    · rintro ⟨⟩
      exact untold
    · exact congrArg Prod.fst (untold.outcome_eq.symm.trans other.outcome_eq)
  · refine ⟨_, true, ⟨nofun, fun falsy => ?_⟩, fun f => ⟨nofun, fun untold => ?_⟩⟩
    · cases true.symm.trans falsy.outcome_eq
    · cases true.symm.trans untold.outcome_eq

/-- A number that signals is neither true nor false. -/
example : (outcome (toBoolean (.decimal (.nan true false 0 0))) {}).1 =
    .error (.decimal .invalidOperation) := rfl

end TemplateEngine
