import TemplateEngine.Proofs.ElementsAt
import TemplateEngine.Proofs.Leaves
/-!
The text of a tree of sequences and optionals. However its leaves are nested and wrapped, the text is
that of the leaves between commas, where what is empty counts as a leaf without a text.
-/
namespace TemplateEngine

/-! ## Joining what was joined -/

theorem join_append {a b : List String} (first : a ≠ []) (rest : b ≠ []) (sep : String) :
    Text.join sep (a ++ b) = Text.join sep a ++ sep ++ Text.join sep b := by
  have cons : ∀ (s : String) {parts : List String}, parts ≠ [] →
      Text.join sep (s :: parts) = s ++ sep ++ Text.join sep parts := by
    intro s parts more
    cases parts with
    | nil => exact absurd rfl more
    | cons t others => rfl
  induction a with
  | nil => exact absurd rfl first
  | cons s others ih =>
    cases others with
    | nil => exact cons s rest
    | cons t others =>
      rw [List.cons_append, cons s (by simp), ih (by simp), cons s (by simp)]
      simp only [String.append_assoc]

theorem join_flatMap {α : Type} {l : List α} {parts : α → List String}
    (each : ∀ a ∈ l, parts a ≠ []) (sep : String) :
    Text.join sep (l.map fun a => Text.join sep (parts a)) = Text.join sep (l.flatMap parts) := by
  induction l with
  | nil => rfl
  | cons a rest ih =>
    obtain ⟨here, others⟩ := List.forall_mem_cons.mp each
    cases rest with
    | nil => simp [Text.join]
    | cons b rest =>
      have more : (b :: rest).flatMap parts ≠ [] := by
        simp [others b (by simp)]
      rw [List.flatMap_cons, join_append here more, ← ih others]
      rfl

/-! ## Trees and their leaves -/

theorem Elements.get_of_lt {e : Elements} {i : Nat} (room : i < e.length) :
    ∃ x, e.get? i = some x := by
  rw [← e.length_toList] at room
  exact ⟨e.toList[i], by rw [← e.getElem?_toList, List.getElem?_eq_getElem room]⟩

namespace World

/-- The texts of the leaves in the parts of a value, one part after the other. What has no parts
counts as a leaf without a text. -/
def leavesOf (n : Nat) (parts : Nat → List String) : List String :=
  if n = 0 then [""] else (List.range n).flatMap parts

/-- A value is a finite tree of lists, tuples, arrays, ranges, deques, views and optionals, and its
leaves have these texts from left to right. -/
inductive Leaves (w : World) : Value → List String → Prop
  | leaf {v : Value} {s : String} (single : w.content? v = none) (plain : w.isCollection v = false)
    (lasts : w.Lasts v s) : Leaves w v [s]
  | empty {v : Value} (nothing : w.content? v = some .null) : Leaves w v [""]
  | node {v : Value} {e : Elements} (parts : Nat → List String) (made : w.parts? v = some e)
    (filled : w.content? v ≠ some .null) (each : ∀ i x, e.get? i = some x → Leaves w x (parts i)) :
    Leaves w v (leavesOf e.length parts)

variable {w w' : World} {v x y : Value} {e : Elements} {texts : List String}

theorem Leaves.ne_nil (tree : w.Leaves v texts) : texts ≠ [] := by
  induction tree with
  | leaf | empty => simp
  | @node v e parts made filled each ih =>
    unfold leavesOf
    split_ifs with none
    · simp
    · obtain ⟨x, first⟩ := Elements.get_of_lt (Nat.pos_of_ne_zero none)
      simp only [ne_eq, List.flatMap_eq_nil_iff, List.mem_range]
      exact fun all => ih 0 x first (all 0 (by omega))

/-- A sequence is a collection, and neither a text nor anything else that is written out at once. -/
theorem plain_of_parts (made : w.parts? v = some e) (single : w.content? v = none) :
    v ≠ .null ∧ (∀ b, v ≠ .bool b) ∧ (∀ c k, v ≠ .member c k) ∧ (∀ c b, v ≠ .flags c b) ∧
      w.text? v = none ∧ w.bytes? v = none ∧ w.isCollection v = true := by
  obtain ⟨tag, target, rfl, listed⟩ | ⟨start, stop, step, rfl, rfl⟩ | ⟨i, j, items, rfl,
      based, held, rfl⟩ := shape_of_parts made single
  · simp [text?, bytes?, isCollection, isText, isMapping, mapping?, baseCell?, base, isIterable,
      isSequence]
  · simp [text?, bytes?, isCollection, isText, isMapping, mapping?, baseCell?, base, isIterable,
      isSequence, sequence?]
  · obtain held | held | held | ⟨code, held⟩ := held <;>
      simp [text?, bytes?, isCollection, isText, isMapping, mapping?, baseCell?, based, held,
        isIterable, isSequence, sequence?]

/-- The way down a tree comes to an end. -/
theorem Leaves.finite (tree : w.Leaves v texts) : Acc w.Inside v := by
  induction tree with
  | @leaf v s single plain _ =>
    refine ⟨_, fun x part => ?_⟩
    obtain ⟨e, i, made, -⟩ := part
    obtain ⟨-, -, -, -, -, -, collection⟩ := plain_of_parts made single
    simp [plain] at collection
  | @empty v nothing =>
    refine ⟨_, fun x part => ?_⟩
    obtain ⟨e, i, made, member⟩ := part
    obtain rfl := parts_of_content nothing made
    obtain rfl : x = .null := by cases i <;> simp_all [Elements.get?]
    refine ⟨_, fun y part => ?_⟩
    obtain ⟨e, i, made, -⟩ := part
    cases made
  | @node v e parts made _ _ ih =>
    refine ⟨_, fun x part => ?_⟩
    obtain ⟨e', i, made', member⟩ := part
    obtain rfl := Option.some.inj (made.symm.trans made')
    exact ih i x member

end World

/-! ## Elements that are read again -/

/-- A value, or a number that was marked as an object of its own. -/
def Value.Remarks (x y : Value) : Prop := y = x ∨ x.isBare = true ∧ ∃ m, y = x.marked m

theorem Value.Remarks.trans {x y z : Value} (first : x.Remarks y) (second : y.Remarks z) :
    x.Remarks z := by
  obtain rfl | ⟨bare, m, rfl⟩ := first
  · exact second
  · obtain rfl | ⟨-, n, rfl⟩ := second
    · exact .inr ⟨bare, m, rfl⟩
    · exact .inr ⟨bare, n, World.marked_marked x m n⟩

theorem World.Marks.remarks {w : World} {x y : Value} (marks : w.Marks x y) : x.Remarks y := by
  cases marks with
  | known => exact .inl rfl
  | bare bare => exact .inr ⟨bare, _, rfl⟩

section Reading
variable {w w' : World} {v x y : Value} {e : Elements} {i n : Nat}

/-- A sequence is read turn by turn as it is, or it is a list. -/
def World.Gives (w : World) (s : Source) (e : Elements) : Prop :=
  s = .fixed e ∨ ∃ j items, s = .live j ∧ w.cell? j = some (.list items) ∧ e = .list items

theorem source_of_elements (listed : w.sequence? v = some e) :
    ∃ s, outcome (Source.ofValue v) w = (.ok s, w) ∧ w.Gives s e := by
  have flat : ∀ v : Value, (∀ tag target, v ≠ .view tag target) → w.sequence? v = some e →
      ∃ s, outcome (Source.ofValue v) w = (.ok s, w) ∧ w.Gives s e := by
    intro v flat listed
    by_cases unlisted : ∀ items, w.baseCell? v ≠ some (.list items)
    · exact ⟨_, World.source_of_sequence flat unlisted listed, .inl rfl⟩
    · obtain ⟨items, held⟩ : ∃ items, w.baseCell? v = some (.list items) := by
        simpa using unlisted
      obtain ⟨j, based, found⟩ := World.base_of_baseCell? held
      obtain rfl := Option.some.inj (listed.symm.trans (World.sequence?_of_list held))
      refine ⟨.live j, ?_, .inr ⟨j, items, rfl, found, rfl⟩⟩
      rw [Source.ofValue.eq_2 _ flat, outcome_get_bind, held, based]
      rfl
  induction v with
  | view tag target ih => exact ih listed
  | _ => exact flat _ (by simp) listed

theorem World.Gives.count {s : Source} (gives : w.Gives s e) : s.count w = e.length := by
  obtain rfl | ⟨j, items, rfl, held, rfl⟩ := gives
  · rfl
  · simp [Source.count, held, Elements.length]

theorem World.Gives.later {s : Source} (gives : w.Gives s e) (grown : w.Grows w') :
    w'.Gives s e := by
  obtain rfl | ⟨j, items, rfl, held, rfl⟩ := gives
  · exact .inl rfl
  · exact .inr ⟨j, items, rfl, grown.cells j _ held, rfl⟩

theorem outcome_at? {s : Source} (gives : w.Gives s e) (part : e.get? i = some x) :
    ∃ y n, outcome (s.at? i) w = (.ok (some y), w.mark n) ∧ x.Remarks y := by
  obtain rfl | ⟨j, items, rfl, held, rfl⟩ := gives
  · obtain ⟨y, n, made, marks⟩ := outcome_asObject x w
    exact ⟨y, n, by rw [Source.at?, part, outcome_map, made], marks.remarks⟩
  · refine ⟨x, 0, ?_, .inl rfl⟩
    rw [Source.at?, outcome_get_bind, held]
    exact congrArg (fun found => (Except.ok found, w)) part

/-- A sequence with these elements is made, of which some numbers may be marked. -/
def World.Makes (w : World) (made : M Value) (e : Elements) : Prop :=
  ∃ c w₁ e₁, outcome made w = (.ok c, w₁) ∧ w.Grows w₁ ∧ w₁.sequence? c = some e₁ ∧
    e₁.length = e.length ∧ ∀ i y, e₁.get? i = some y → ∃ x, e.get? i = some x ∧ x.Remarks y

theorem makes_of_itself (gathered : outcome (collect v) w = (.ok .itself, w))
    (listed : w.sequence? v = some e) : w.Makes (sequenceOfContent v) e := by
  refine ⟨v, w, e, ?_, .refl w, listed, rfl, fun i x part => ⟨x, part, .inl rfl⟩⟩
  rw [sequenceOfContent, outcome_bind_ok gathered]
  rfl

theorem makes_of_viewed (gathered : outcome (collect v) w = (.ok .viewed, w))
    (listed : w.sequence? v = some e) : w.Makes (sequenceOfContent v) e := by
  refine ⟨.view w.nextTag v, w.mark 1, e, ?_, .mark w 1, ?_, rfl, fun i x part => ⟨x, part, .inl rfl⟩⟩
  · rw [sequenceOfContent, outcome_bind_ok gathered]
    rfl
  · rw [World.sequence?, World.sequence?_mark, listed]

theorem makes_of_copied (blank : w.cell? 0 = some (.tuple [])) {code : Char} {items : List Value}
    (array : w.baseCell? v = some (.array code items)) (short : items.length < maxLength)
    (gathered : outcome (collect v) w = (.ok .copied, w)) :
    w.Makes (sequenceOfContent v) (.list items) := by
  obtain ⟨ys, n, marks, copied⟩ := outcome_sequenceOfContent_copied array short gathered
  obtain ⟨k, w₁, tupled, there, adds⟩ := outcome_newTuple (w := w.mark n) blank ys
  refine ⟨.ref k, w₁, .list ys, copied.trans tupled, (World.Grows.mark w n).trans ?_, ?_,
    marks.length_eq.symm, fun i y part => ?_⟩
  · obtain rfl | ⟨c, rfl⟩ := adds
    · exact .refl _
    · exact .withCell _ c
  · simp [World.sequence?, World.base_ref, there, Cell.base?]
  · obtain ⟨-, missing⟩ | ⟨x, z, found, also, same⟩ := World.forall₂_getElem? marks i
    · cases part.symm.trans missing
    · obtain rfl := Option.some.inj (also.symm.trans part)
      exact ⟨x, found, same.remarks⟩

/-- Lists, deques and ranges are viewed, arrays are copied, and tuples and views stay. -/
theorem makes_of_parts (blank : w.cell? 0 = some (.tuple [])) (made : w.parts? v = some e)
    (single : w.content? v = none)
    (short : ∀ code items, w.baseCell? v = some (.array code items) → items.length < maxLength) :
    w.Makes (toCollection v) e := by
  suffices content : w.Makes (sequenceOfContent v) e by
    have same : outcome (toCollection v) w = outcome (sequenceOfContent v) w := by
      rw [toCollection, outcome_get_bind, World.unwrap_of_content w v single]
    simpa only [World.Makes, same] using content
  obtain ⟨tag, target, rfl, listed⟩ | ⟨start, stop, step, rfl, rfl⟩ | ⟨i, j, items, rfl,
      based, held, rfl⟩ := World.shape_of_parts made single
  · exact makes_of_itself rfl listed
  · exact makes_of_viewed rfl rfl
  · have found : w.baseCell? (.ref i) = w.cell? j := by rw [World.baseCell?, based]
    obtain held | held | held | ⟨code, held⟩ := held
    · exact makes_of_viewed (by simp [collect, World.isTuple, World.isArray, World.isText,
        World.text?, World.bytes?, World.isSequence, World.sequence?, found, based, held])
        (by simp [World.sequence?, based, held])
    · exact makes_of_itself (by simp [collect, World.isTuple, found, held])
        (by simp [World.sequence?, based, held])
    · exact makes_of_viewed (by simp [collect, World.isTuple, World.isArray, World.isText,
        World.text?, World.bytes?, World.isSequence, World.sequence?, found, based, held])
        (by simp [World.sequence?, based, held])
    · have array := found.trans held
      exact makes_of_copied blank array (short code items array)
        (by simp [collect, World.isTuple, World.isArray, array])

end Reading

/-! ## The texts of all elements -/

section Joining
variable {w w₁ : World} {e : Elements} (say : Nat → String)

/-- Where each element has a text, a run over the elements gives all texts in order. -/
theorem outcome_visit_texts {s : Source} (body : Nat → Value → M Value) (gives : w.Gives s e)
    (each : ∀ i x, e.get? i = some x → ∀ y, x.Remarks y → ∀ w₁, w.Grows w₁ → ∃ t w₂,
      outcome (body i y) w₁ = (.ok t, w₂) ∧ w₁.Grows w₂ ∧ w₂.text? t = some (say i))
    (left turn : Nat) (grown : w.Grows w₁) (room : turn + left = e.length) :
    ∃ ts w₂, outcome (s.visit id body left turn) w₁ = (.ok ts, w₂) ∧ w₁.Grows w₂ ∧
      ts.map w₂.text? = (List.range' turn left).map fun i => some (say i) := by
  induction left generalizing turn w₁ with
  | zero => exact ⟨[], w₁, rfl, .refl w₁, rfl⟩
  | succ left ih =>
    obtain ⟨x, part⟩ := Elements.get_of_lt (e := e) (i := turn) (by omega)
    obtain ⟨y, n, read, same⟩ := outcome_at? (gives.later grown) part
    have marked := World.Grows.mark w₁ n
    obtain ⟨t, w₂, made, later, texted⟩ := each turn x part y same _ (grown.trans marked)
    have passed := marked.trans later
    obtain ⟨ts, w₃, others, last, texts⟩ := ih (turn + 1) (grown.trans passed) (by omega)
    refine ⟨t :: ts, w₃, ?_, passed.trans last, ?_⟩
    · rw [Source.visit, outcome_bind_ok (show outcome (id (s.at? turn)) w₁ = _ from read)]
      exact (outcome_bind_ok made _).trans (outcome_bind_ok others _)
    · rw [List.map_cons, texts, List.range'_succ, List.map_cons, last.text texted]

theorem outcome_joinTexts {texts : List Value} {parts : List String} (sep : String)
    (read : texts.map w.text? = parts.map some) :
    outcome (joinTexts sep texts) w = (.ok (Text.join sep parts), w) := by
  have each : ∀ k, outcome ((texts.zipIdx k).mapM fun item => charactersAt w item.1 item.2) w =
      (.ok parts, w) := by
    induction texts generalizing parts with
    | nil =>
      obtain rfl : parts = [] := List.map_eq_nil_iff.mp read.symm
      exact fun k => rfl
    | cons t rest ih =>
      intro k
      obtain ⟨s, others, rfl⟩ : ∃ s others, parts = s :: others := by
        cases parts with
        | nil => cases read
        | cons s others => exact ⟨s, others, rfl⟩
      obtain ⟨texted, later⟩ := List.cons.inj read
      have first : outcome (charactersAt w t k) w = (.ok s, w) := by
        rw [charactersAt, texted, outcome_pure]
      rw [List.zipIdx_cons, List.mapM_cons]
      exact (outcome_bind_ok first _).trans (outcome_bind_ok (ih later (k + 1)) _)
  rw [joinTexts_eq, outcome_get_bind]
  exact outcome_bind_ok (each 0) _

/-- The texts of the elements of a sequence are joined. -/
theorem outcome_joinEach {c : Value} (text : Value → M Value) (sep : String)
    (listed : w.sequence? c = some e)
    (each : ∀ i x, e.get? i = some x → ∀ y, x.Remarks y → ∀ w₁, w.Grows w₁ → ∃ t w₂,
      outcome (text y) w₁ = (.ok t, w₂) ∧ w₁.Grows w₂ ∧ w₂.text? t = some (say i)) :
    ∃ w₂, w.Grows w₂ ∧ outcome (joinEach sep text c) w =
      (.ok (Text.join sep ((List.range e.length).map say)), w₂) := by
  obtain ⟨s, sourced, gives⟩ := source_of_elements listed
  obtain ⟨ts, w₂, read, grown, texts⟩ := outcome_visit_texts say (fun _ => textInside text) gives
    (fun i x part y same w₁ grown => by
      obtain ⟨t, w₂, made, later, texted⟩ := each i x part y same w₁ grown
      refine ⟨t, w₂, ?_, later, texted⟩
      rw [outcome_textInside, made]
      rfl)
    e.length 0 (.refl w) (Nat.zero_add _)
  refine ⟨w₂, grown, ?_⟩
  have joined : outcome (joinTexts sep ts) w₂ =
      (.ok (Text.join sep ((List.range e.length).map say)), w₂) := by
    refine outcome_joinTexts sep ?_
    rw [texts, List.range_eq_range', List.map_map]
    rfl
  have counted : s.count w = e.length := gives.count
  have elements : outcome (forEach c (textInside text)) w = (.ok ts, w₂) := by
    rw [forEach, forEachNumbered, outcome_bind_ok sourced, outcome_get_bind, counted]
    exact read
  rw [joinEach_eq]
  exact (outcome_bind_ok elements _).trans joined

end Joining

/-! ## The text of a tree -/

section Trees
variable {w w' : World} {v x y : Value} {texts : List String} {s : String} {n : Nat}

/-- What holds something is no number. -/
theorem remarks_of_content {content : Value} (held : w.content? v = some content)
    (same : v.Remarks y) : y = v := by
  obtain rfl | ⟨bare, -⟩ := same
  · rfl
  · obtain ⟨tag, rfl⟩ | ⟨i, _, _, _, rfl, -⟩ | ⟨cls, k, rfl⟩ := World.shape_of_content held <;>
      cases bare

theorem remarks_of_parts {e : Elements} (made : w.parts? v = some e) (same : v.Remarks y) :
    y = v := by
  obtain rfl | ⟨bare, -⟩ := same
  · rfl
  · cases v <;> first | cases bare | cases made

theorem outcome_toStringWithin_empty (nothing : w.content? v = some .null) (n : Nat) :
    outcome (toStringWithin (n + 1) v) w = (.ok (.text ""), w) := by
  rw [toStringWithin, outcome_get_bind, nothing]
  split <;> simp_all

/-- A sequence is written out as its elements between commas. -/
theorem outcome_toStringWithin_sequence {e : Elements} (made : w.parts? v = some e)
    (single : w.content? v = none) (n : Nat) :
    outcome (toStringWithin (n + 1) v) w = outcome (do
      return .text (← joinEach "," (toStringWithin n) (← toCollection v))) w := by
  obtain ⟨given, truthless, unmember, unflagged, untexted, unpacked, collection⟩ :=
    World.plain_of_parts made single
  rw [toStringWithin, outcome_get_bind, single]
  split
  case h_7 => simp only [untexted, unpacked, collection, if_true]
  all_goals simp_all

/-- The texts of parts that were joined are joined as the leaves are. -/
theorem join_leavesOf {e : Elements} {parts : Nat → List String}
    (each : ∀ i x, e.get? i = some x → w.Leaves x (parts i)) (sep : String) :
    Text.join sep ((List.range e.length).map fun i => Text.join sep (parts i)) =
      Text.join sep (World.leavesOf e.length parts) := by
  unfold World.leavesOf
  split_ifs with none
  · rw [none]
    rfl
  · refine join_flatMap (fun i listed => ?_) sep
    obtain ⟨x, part⟩ := Elements.get_of_lt (List.mem_range.mp listed)
    exact (each i x part).ne_nil

/-- With this room, the text form of a value is this text in all later worlds, also when it is a number
that was marked, and making it changes nothing that was there. -/
def World.Tells (w : World) (n : Nat) (v : Value) (s : String) : Prop :=
  ∀ w' y, w.Grows w' → v.Remarks y → ∃ t w'', outcome (toStringWithin n y) w' = (.ok t, w'') ∧
    w'.Grows w'' ∧ w''.text? t = some s

theorem tells_of_lasts (whole : w.Whole) (held : w.Holds v) (single : w.content? v = none)
    (plain : w.isCollection v = false) (lasts : w.Lasts v s) (n : Nat) : w.Tells (n + 1) v s := by
  intro w' y grown same
  obtain ⟨t, w'', made, later, texted⟩ := lasts w' grown
  refine ⟨t, w'', ?_, later, texted⟩
  obtain rfl | ⟨bare, m, rfl⟩ := same
  · obtain ⟨k, room⟩ := w'.nesting_eq_succ y
    rw [← made, toTemplateText, outcome_get_bind, room]
    exact w'.outcome_toStringWithin_single ((grown.content? held).trans single)
      ((grown.isCollection whole held).trans plain) n k
  · rw [outcome_toStringWithin_marked bare n m, made]

theorem tells_of_nothing (held : w.Holds v) (nothing : w.content? v = some .null) (n : Nat) :
    w.Tells (n + 1) v "" := by
  intro w' y grown same
  obtain rfl := remarks_of_content nothing same
  exact ⟨_, w', outcome_toStringWithin_empty ((grown.content? held).trans nothing) n, .refl w', rfl⟩

/-- An optional says what its content says. -/
theorem tells_of_content {inner : Value} (held : w.Holds v) (content : w.content? v = some inner)
    (filled : inner ≠ .null) (told : w.Tells n inner s) : w.Tells (n + 1) v s := by
  intro w' y grown same
  obtain rfl := remarks_of_content content same
  rw [w'.outcome_toStringWithin_content n ((grown.content? held).trans content) filled]
  exact told w' inner grown (.inl rfl)

/-- A sequence says what its elements say, between commas. -/
theorem tells_of_parts {e : Elements} {say : Nat → String} (whole : w.Whole) (held : w.Holds v)
    (blank : w.cell? 0 = some (.tuple []))
    (arrays : ∀ i code items, w.cell? i = some (.array code items) → items.length < maxLength)
    (made : w.parts? v = some e) (single : w.content? v = none)
    (told : ∀ i x, e.get? i = some x → w.Tells n x (say i)) :
    w.Tells (n + 1) v (Text.join "," ((List.range e.length).map say)) := by
  intro w' y grown same
  obtain rfl := remarks_of_parts made same
  have made' := (grown.parts? whole held).trans made
  have single' := (grown.content? held).trans single
  have short : ∀ code items, w'.baseCell? y = some (.array code items) →
      items.length < maxLength := by
    intro code items array
    rw [grown.baseCell? whole held] at array
    obtain ⟨i, -, found⟩ := World.base_of_baseCell? array
    exact arrays i code items found
  obtain ⟨c, w₁, e₁, gathered, after, listed, length, elements⟩ :=
    makes_of_parts (grown.cells 0 _ blank) made' single' short
  obtain ⟨w₂, last, joined⟩ := outcome_joinEach say (toStringWithin n) "," listed
    (fun i z member z' same w₂ later => by
      obtain ⟨x, part, marked⟩ := elements i z member
      exact told i x part w₂ z' ((grown.trans after).trans later) (marked.trans same))
  refine ⟨.text (Text.join "," ((List.range e₁.length).map say)), w₂, ?_, after.trans last, ?_⟩
  · rw [outcome_toStringWithin_sequence made' single']
    exact (outcome_bind_ok gathered _).trans (outcome_bind_ok joined _)
  · rw [length]
    rfl

/-- With enough room, a tree says what its leaves say. -/
theorem tells_of_leaves (whole : w.Whole) (blank : w.cell? 0 = some (.tuple []))
    (arrays : ∀ i code items, w.cell? i = some (.array code items) → items.length < maxLength)
    (tree : w.Leaves v texts) :
    ∀ {n}, w.Holds v → w.Fits v n → w.Tells n v (Text.join "," texts) := by
  induction tree with
  | @leaf v s single plain lasts =>
    intro n held fits
    obtain ⟨n, rfl⟩ := Nat.exists_eq_add_one.mpr fits.pos
    exact tells_of_lasts whole held single plain lasts n
  | @empty v nothing =>
    intro n held fits
    obtain ⟨n, rfl⟩ := Nat.exists_eq_add_one.mpr fits.pos
    exact tells_of_nothing held nothing n
  | @node v e parts made filled each ih =>
    intro n held fits
    obtain ⟨n, rfl⟩ := Nat.exists_eq_add_one.mpr fits.pos
    have inner : ∀ i x, e.get? i = some x → w.Tells n x (Text.join "," (parts i)) := by
      intro i x part
      have inside : w.Inside x v := ⟨e, i, made, part⟩
      exact ih i x part (inside.held whole held) (fits.of_part (each i x part).finite inside)
    cases content : w.content? v with
    | some x =>
      obtain rfl := World.parts_of_content content made
      have given : x ≠ .null := by
        rintro rfl
        exact filled content
      simpa [World.leavesOf, Elements.length] using
        tells_of_content held content given (inner 0 x rfl)
    | none =>
      rw [← join_leavesOf each]
      exact tells_of_parts whole held blank arrays made content inner

/-- The text of a tree is that of its leaves between commas. Neither how the leaves are nested nor
what wraps them shows in it. -/
theorem toTemplateText_of_leaves (whole : w.Whole) (held : w.Holds v)
    (blank : w.cell? 0 = some (.tuple []))
    (arrays : ∀ i code items, w.cell? i = some (.array code items) → items.length < maxLength)
    (tree : w.Leaves v texts) :
    ∃ t w', outcome (toTemplateText v) w = (.ok t, w') ∧ w.Grows w' ∧
      w'.text? t = some (Text.join "," texts) := by
  rw [toTemplateText, outcome_get_bind]
  exact tells_of_leaves whole blank arrays tree held (w.fits_nesting v) w v (.refl w) (.inl rfl)

/-- A list of a truth value, of an empty optional, and of a tuple of a text and an empty range. -/
def nested : World where
  cells := #[.tuple [], .list [.bool true, .emptyOptional, .ref 2], .tuple [.text "a", .range 0 0 1]]

theorem whole_nested : nested.Whole where
  cells i c hc _ := by
    have room : 2 ∈ Veil.clear.region nested := ⟨by decide, id⟩
    rcases i with _ | _ | _ | i
    · obtain rfl := Option.some.inj hc
      exact fun v hv => by cases hv
    · obtain rfl := Option.some.inj hc
      exact List.forall_mem_cons.mpr ⟨trivial, List.forall_mem_cons.mpr
        ⟨trivial, List.forall_mem_singleton.mpr room⟩⟩
    · obtain rfl := Option.some.inj hc
      exact List.forall_mem_cons.mpr ⟨trivial, List.forall_mem_singleton.mpr trivial⟩
    · simp [nested, World.cell?] at hc
  classes i info h := by simp [nested, World.class?] at h
  named e he := by simp [nested] at he
  inBounds i hi := hi.elim
  emptyTuple := ⟨by decide, id⟩

theorem leaves_nested : nested.Leaves (.optional 3 (.ref 1)) ["true", "", "a", ""] := by
  have leaf : ∀ {v : Value} {s : String}, nested.Holds v → nested.content? v = none →
      nested.isCollection v = false → nested.Uncoded v →
      (outcome (toTemplateText v) nested).1 = .ok (.text s) → nested.Leaves v [s] :=
    fun held single plain uncoded made =>
      .leaf single plain (World.lasts_of_uncoded whole_nested held single plain uncoded made rfl)
  have flag : nested.Leaves (.bool true) ["true"] :=
    leaf trivial rfl rfl (fun owner m found => by cases found; exact ⟨_, _, rfl⟩) rfl
  have text : nested.Leaves (.text "a") ["a"] :=
    leaf trivial rfl rfl (fun owner m found => by cases found; exact ⟨_, _, rfl⟩) rfl
  have tuple : nested.Leaves (.ref 2) ["a", ""] :=
    .node (e := .list [.text "a", .range 0 0 1]) (fun i => if i = 0 then ["a"] else [""])
      rfl (by decide) fun
        | 0, _, rfl => text
        | 1, _, rfl => .node (e := .range 0 0 1) (fun _ => []) rfl (by decide) nofun
  have list : nested.Leaves (.ref 1) ["true", "", "a", ""] :=
    .node (e := .list [.bool true, .emptyOptional, .ref 2])
      (fun i => if i = 0 then ["true"] else if i = 1 then [""] else ["a", ""])
      rfl (by decide) fun
        | 0, _, rfl => flag
        | 1, _, rfl => .empty rfl
        | 2, _, rfl => tuple
  exact .node (e := .list [.ref 1]) (fun _ => ["true", "", "a", ""]) rfl (by decide) fun
    | 0, _, rfl => list

/-- All that is empty counts. -/
theorem toTemplateText_of_leaves_nested :
    nested.Leaves (.optional 3 (.ref 1)) ["true", "", "a", ""] ∧
      ∃ t w', outcome (toTemplateText (.optional 3 (.ref 1))) nested = (.ok t, w') ∧
        nested.Grows w' ∧ w'.text? t = some "true,,a," := by
  have passed : nested.Holds (Value.ref 1) := ⟨by decide, id⟩
  have short : ∀ i code items, nested.cell? i = some (.array code items) → items.length < maxLength
    | 0, _, _, held | 1, _, _, held | 2, _, _, held | _ + 3, _, _, held => by cases held
  exact ⟨leaves_nested,
    toTemplateText_of_leaves (v := .optional 3 (.ref 1)) whole_nested passed rfl short leaves_nested⟩

end Trees

end TemplateEngine
