import TemplateEngine.Proofs.Growth
import TemplateEngine.Proofs.Spares.Entries
/-!
Equality, hashing and display when there is more room for nesting. Each result stays the same in a
larger world and at a greater depth, unless nesting was too deep for it.
-/
namespace TemplateEngine

theorem within_append {α : Type} [Referring α] {A : Set Nat} {l l' : List α} :
    Within A (l ++ l') ↔ Within A l ∧ Within A l' := List.forall_mem_append

/-- A result is the same as another one, or nesting was too deep for that. -/
def Deeper {α : Type} (r r' : Except Fault α) : Prop := r ≠ .error .nestedTooDeep → r' = r

section

variable {α β : Type}

theorem Deeper.refl (r : Except Fault α) : Deeper r r := fun _ => rfl

theorem deeper_tooDeep (r : Except Fault α) : Deeper (.error .nestedTooDeep) r :=
  fun h => absurd rfl h

theorem Deeper.bind {r r' : Except Fault α} {k k' : α → Except Fault β} (hr : Deeper r r')
    (hk : ∀ a, r = .ok a → Deeper (k a) (k' a)) : Deeper (r >>= k) (r' >>= k') := by
  intro h
  cases r with
  | error f =>
    rw [hr fun hf => h (by rw [hf]; rfl)]
    rfl
  | ok a =>
    rw [hr (by simp)]
    exact hk a rfl h

theorem Deeper.map {r r' : Except Fault α} (hr : Deeper r r') (g : α → Except Fault β) :
    Deeper (r >>= g) (r' >>= g) :=
  hr.bind fun _ _ => .refl _

end

section

variable {A : Set Nat} {same same' : Value → Value → Except Fault Bool}
  (hsame : ∀ a b, Within A a → Within A b → Deeper (same a b) (same' a b))

include hsame

theorem deeper_allAgree {xs ys : List Value} (hxs : Within A xs) (hys : Within A ys) :
    Deeper (allAgree same xs ys) (allAgree same' xs ys) := by
  induction xs generalizing ys with
  | nil => cases ys <;> exact .refl _
  | cons x xs ih =>
    cases ys with
    | nil => exact .refl _
    | cons y ys =>
      obtain ⟨hx, hxs⟩ := within_cons.mp hxs
      obtain ⟨hy, hys⟩ := within_cons.mp hys
      refine (hsame x y hx hy).bind fun found _ => ?_
      cases found
      · exact .refl _
      · exact ih hxs hys

theorem deeper_entryFor {key : Value} (hkey : Within A key) {entries : List (Value × Value)}
    (h : Within A entries) : Deeper (entryFor same key entries) (entryFor same' key entries) := by
  induction entries with
  | nil => exact .refl _
  | cons e rest ih =>
    obtain ⟨he, hrest⟩ := within_cons.mp h
    refine (hsame e.1 key he.1 hkey).bind fun found _ => ?_
    cases found
    · exact ih hrest
    · exact .refl _

theorem deeper_entriesAgree {others entries : List (Value × Value)} (hothers : Within A others)
    (h : Within A entries) :
    Deeper (entriesAgree same others entries) (entriesAgree same' others entries) := by
  induction entries with
  | nil => exact .refl _
  | cons e rest ih =>
    obtain ⟨he, hrest⟩ := within_cons.mp h
    refine (deeper_entryFor hsame he.1 hothers).bind fun found hfound => ?_
    cases found with
    | none => exact .refl _
    | some x =>
      have hx : Within A x := within_entryFor hothers _ hfound x rfl
      refine (hsame e.2 x he.2 hx).bind fun found _ => ?_
      cases found
      · exact .refl _
      · exact ih hrest

theorem deeper_both {k k' x x' : Value} (hk : Within A k) (hk' : Within A k') (hx : Within A x)
    (hx' : Within A x') :
    Deeper (do if ← same k k' then same x x' else return false)
      (do if ← same' k k' then same' x x' else return false) := by
  refine (hsame k k' hk hk').bind fun found _ => ?_
  cases found
  · exact .refl _
  · exact hsame x x' hx hx'

end

namespace World

variable {w w' : World}

theorem deeper_allHashable {A : Set Nat} {hash hash' : Value → Except Fault Unit}
    (h : ∀ v, Within A v → Deeper (hash v) (hash' v)) {vs : List Value} (hvs : Within A vs) :
    Deeper (allHashable hash vs) (allHashable hash' vs) := by
  induction vs with
  | nil => exact .refl _
  | cons v rest ih =>
    obtain ⟨hv, hrest⟩ := within_cons.mp hvs
    exact (h v hv).bind fun _ _ => ih hrest

section

variable (hg : w.Grows w') (hw : w.Whole)

include hg hw

theorem Grows.viewSays (equal : Value → Value → Except Fault Bool) {target other : Value}
    (htarget : w.Holds target) (hother : w.Holds other) :
    w'.viewSays equal target other = w.viewSays equal target other := by
  have htarget' := within_behindViews htarget
  have hother' := within_behindViews hother
  cases other with
  | view tag inner =>
    have hinner : w.Holds inner := hother
    simp only [World.viewSays, hg.isSequence hw hinner, hg.isText hw hinner, hg.size? hw htarget,
      hg.size? hw hinner, hg.typeInMessages htarget', hg.typeInMessages (within_behindViews hinner),
      hg.members? hw htarget', hg.members? hw (within_behindViews hinner)]
  | _ =>
    simp only [World.viewSays, hg.isSequence hw hother, hg.isText hw hother, hg.size? hw htarget,
      hg.size? hw hother, hg.typeInMessages htarget', hg.typeInMessages hother',
      hg.members? hw htarget', hg.members? hw hother']

theorem deeper_hashWithin {n m : Nat} (hnm : n ≤ m) {v : Value} (hv : w.Holds v) :
    Deeper (w.hashWithin n v) (w'.hashWithin m v) := by
  induction n generalizing m v with
  | zero => exact deeper_tooDeep _
  | succ n ih =>
    obtain ⟨m, rfl⟩ : ∃ k, m = k + 1 := ⟨m - 1, by omega⟩
    simp only [hashWithin, hg.base hv, hg.baseCell? hw hv, hg.typeInMessages hv]
    split
    · rename_i x hbase
      exact ih (Nat.le_of_succ_le_succ hnm) (hw.optional_of_base hv hbase)
    all_goals try exact .refl _
    split
    · rename_i items hcell
      exact deeper_allHashable (fun x hx => ih (Nat.le_of_succ_le_succ hnm) hx)
        (hw.contents hv hcell)
    all_goals exact .refl _

theorem deeper_hash {v : Value} (hv : w.Holds v) : Deeper (w.hash v) (w'.hash v) :=
  deeper_hashWithin hg hw (hg.nesting_le v) hv

section

variable {same same' : Value → Value → Except Fault Bool}
  (hsame : ∀ a b, w.Holds a → w.Holds b → Deeper (same a b) (same' a b))

include hsame

theorem deeper_someValue {others : List Element} (hothers : w.Holds others) {v : Value}
    (hv : w.Holds v) :
    Deeper (isAmong.someValue w same others v) (isAmong.someValue w' same' others v) := by
  induction others with
  | nil => exact .refl _
  | cons e rest ih =>
    obtain ⟨he, hrest⟩ := within_cons.mp hothers
    cases e with
    | value y =>
      refine (hsame y v he hv).bind fun found _ => ?_
      cases found
      · exact ih hrest
      · exact .refl _
    | pair k x =>
      simp only [isAmong.someValue, hg.asTwo? hw hv]
      split
      · rename_i k' x' htwo
        obtain ⟨hk', hx'⟩ := hw.asTwo? hv _ htwo
        refine (deeper_both hsame he.1 hk' he.2 hx').bind fun found _ => ?_
        cases found
        · exact ih hrest
        · exact .refl _
      · exact .refl _

theorem deeper_somePair {others : List Element} (hothers : w.Holds others) {k x : Value}
    (hk : w.Holds k) (hx : w.Holds x) :
    Deeper (isAmong.somePair w same others k x) (isAmong.somePair w' same' others k x) := by
  induction others with
  | nil => exact .refl _
  | cons e rest ih =>
    obtain ⟨he, hrest⟩ := within_cons.mp hothers
    cases e with
    | value y =>
      have hy : w.Holds y := he
      simp only [isAmong.somePair, hg.asTwo? hw hy]
      split
      · rename_i k' x' htwo
        obtain ⟨hk', hx'⟩ := hw.asTwo? hy _ htwo
        refine (deeper_both hsame hk' hk hx' hx).bind fun found _ => ?_
        cases found
        · exact ih hrest
        · exact .refl _
      · exact ih hrest
    | pair k' x' =>
      refine (hsame k' k he.1 hk).bind fun found _ => ?_
      cases found
      · exact ih hrest
      · exact hsame x' x he.2 hx

theorem deeper_isAmong {others : List Element} (hothers : w.Holds others) {e : Element}
    (he : w.Holds e) : Deeper (w.isAmong same others e) (w'.isAmong same' others e) := by
  cases e with
  | value v => exact deeper_someValue hg hw hsame hothers he
  | pair k x =>
    have hpair := deeper_somePair hg hw hsame hothers he.1 he.2
    unfold isAmong
    dsimp only
    split
    · exact (deeper_hash hg hw he.1).bind fun _ _ => (deeper_hash hg hw he.2).bind fun _ _ => hpair
    · exact hpair

theorem deeper_holds {set : Value} (hset : w.Holds set) {elements : List Element}
    (helements : w.Holds elements) {e : Element} (he : w.Holds e) :
    Deeper (w.holds same set elements e) (w'.holds same' set elements e) := by
  unfold holds
  rw [hg.shownScope? hw hset]
  split
  · have hv : w.Holds (Element.value _) := he
    rw [hg.nameText hv]
    exact .refl _
  · exact .refl _
  · rename_i which scope e hscope _ _
    rw [hg.inTwo hw he]
    refine Deeper.bind (.refl _) fun kx hkx => ?_
    obtain ⟨hk, hx⟩ := hw.inTwo he kx hkx
    simp only [hg.nameText hk]
    refine Deeper.bind (.refl _) fun text _ => ?_
    split
    · rename_i y hy
      exact hsame y kx.2 (Scope.within_get? (hw.shownScope? hset hscope) text y hy) hx
    · exact .refl _
  · exact deeper_isAmong hg hw hsame helements he

theorem deeper_holdsAll {set : Value} (hset : w.Holds set) {elements others : List Element}
    (helements : w.Holds elements) (hothers : w.Holds others) :
    Deeper (w.holdsAll same set elements others) (w'.holdsAll same' set elements others) := by
  induction others with
  | nil => exact .refl _
  | cons e rest ih =>
    obtain ⟨he, hrest⟩ := within_cons.mp hothers
    refine (deeper_holds hg hw hsame hset helements he).bind fun found _ => ?_
    cases found
    · exact .refl _
    · exact ih hrest

theorem deeper_viewSays {target other : Value} (htarget : w.Holds target) (hother : w.Holds other) :
    Deeper (w.viewSays same target other) (w'.viewSays same' target other) := by
  rw [hg.viewSays hw same' htarget hother]
  unfold viewSays
  dsimp only
  split
  all_goals
    split
    · exact .refl _
    split
    · exact .refl _
    · exact .refl _
    split
    · exact .refl _
    split
    · exact .refl _
    split
    · rename_i xs ys hxs hys
      have hxs := hw.members? (within_behindViews htarget) xs hxs
      have hys := hw.members? (within_behindViews hother) ys hys
      exact (deeper_allAgree hsame hxs hys).map _
    · exact .refl _

end

theorem deeper_equalWithin {n m : Nat} (hnm : n ≤ m) {a b : Value} (ha : w.Holds a)
    (hb : w.Holds b) : Deeper (w.equalWithin n a b) (w'.equalWithin m a b) := by
  induction n generalizing m a b with
  | zero => exact deeper_tooDeep _
  | succ n ih =>
    obtain ⟨m, rfl⟩ : ∃ k, m = k + 1 := ⟨m - 1, by omega⟩
    have hequal : ∀ x y, w.Holds x → w.Holds y →
        Deeper (w.equalWithin n x y) (w'.equalWithin m x y) :=
      fun x y hx hy => ih (Nat.le_of_succ_le_succ hnm) hx hy
    have hsame : ∀ x y, w.Holds x → w.Holds y →
        Deeper (if x.identical y then .ok true else w.equalWithin n x y)
          (if x.identical y then .ok true else w'.equalWithin m x y) := by
      intro x y hx hy
      split
      · exact .refl _
      · exact hequal x y hx hy
    simp only [equalWithin, sameNumber, hg.numeric? ha, hg.numeric? hb, hg.isSignaling ha,
      hg.isSignaling hb, hg.text? ha, hg.text? hb, hg.comparedOctets? hw ha hb,
      hg.setElements? hw ha, hg.setElements? hw hb, hg.askingRank hw ha, hg.askingRank hw hb,
      hg.base ha, hg.base hb, hg.classOf ha, hg.classOf hb, hg.mapping? hw ha,
      hg.mapping? hw hb, hg.baseCell? hw ha, hg.baseCell? hw hb]
    split
    · exact .refl _
    split
    · exact .refl _
    split
    · exact .refl _
    split
    · rename_i xs ys hxs hys
      have hxs := hw.setElements? ha xs hxs
      have hys := hw.setElements? hb ys hys
      split
      · exact .refl _
      split
      · exact deeper_holdsAll hg hw hsame ha hxs hys
      · exact deeper_holdsAll hg hw hsame hb hys hxs
    split
    case h_1 x _ y hx hy =>
      split
      · exact hsame x y (hw.optional_of_base ha hx) (hw.optional_of_base hb hy)
      · exact .refl _
    case h_8 x hx =>
      have hx := hw.view_of_base ha hx
      refine (deeper_viewSays hg hw hequal hx (hw.base hb)).bind fun answer _ => ?_
      cases answer with
      | some answer => exact .refl _
      | none =>
        dsimp only
        split
        · rename_i y hy
          exact (deeper_viewSays hg hw hequal (hw.view_of_base hb hy) ha).map _
        · exact .refl _
    case h_9 y hy _ =>
      exact (deeper_viewSays hg hw hequal (hw.view_of_base hb hy) (hw.base ha)).map _
    case h_11 =>
      split
      · rename_i xs ys hxs hys
        have hxs := hw.mapping? (hw.open_of_within ha) xs hxs
        have hys := hw.mapping? (hw.open_of_within hb) ys hys
        split
        · exact deeper_entriesAgree hsame hys hxs
        · exact .refl _
      split
      case h_5 xs hxs _ =>
        split
        · exact deeper_allAgree hsame (hw.contents ha hxs) (within_map fun _ _ => trivial)
        · exact .refl _
      case h_6 ys _ hys =>
        split
        · exact deeper_allAgree hsame (within_map fun _ _ => trivial) (hw.contents hb hys)
        · exact .refl _
      case h_7 => exact .refl _
      all_goals
        rename_i hxs hys
        have hxs := hw.contents ha hxs
        have hys := hw.contents hb hys
        split
        · exact deeper_allAgree hsame hxs hys
        · exact .refl _
    all_goals exact .refl _

theorem deeper_agreeFrom {n m : Nat} (hnm : n ≤ m) {a b : Value} (ha : w.Holds a)
    (hb : w.Holds b) : Deeper (w.agreeFrom n a b) (w'.agreeFrom m a b) := by
  unfold agreeFrom
  split
  · exact .refl _
  · exact deeper_equalWithin hg hw (by omega) ha hb

/-- What is found under a key among entries. -/
theorem deeper_lookUp {entries : List (Value × Value)} (h : w.Holds entries) {key : Value}
    (hkey : w.Holds key) :
    Deeper (do w.hash key; entryFor (w.agreeFrom w.bulk) key entries)
      (do w'.hash key; entryFor (w'.agreeFrom w'.bulk) key entries) :=
  (deeper_hash hg hw hkey).bind fun _ _ =>
    deeper_entryFor (fun _ _ ha hb => deeper_agreeFrom hg hw hg.bulk_le ha hb) hkey h

end

section

variable {A : Set Nat} {shown shown' : Value → Except Fault String}
  (hshown : ∀ v, Within A v → Deeper (shown v) (shown' v))

include hshown

theorem deeper_showList {vs : List Value} (h : Within A vs) :
    Deeper (showList shown vs) (showList shown' vs) := by
  fun_induction showList shown vs with
  | case1 => exact .refl _
  | case2 x => exact hshown x (within_cons.mp h).1
  | case3 x xs hne ih =>
    obtain ⟨hx, hxs⟩ := within_cons.mp h
    rw [showList.eq_3 _ _ _ hne]
    exact (hshown x hx).bind fun _ _ => (ih hxs).map _

theorem deeper_showEntries {entries : List (Value × Value)} (h : Within A entries) :
    Deeper (showEntries shown entries) (showEntries shown' entries) := by
  fun_induction showEntries shown entries with
  | case1 => exact .refl _
  | case2 k v =>
    obtain ⟨⟨hk, hv⟩, -⟩ := within_cons.mp h
    exact (hshown k hk).bind fun _ _ => (hshown v hv).map _
  | case3 k v rest hne ih =>
    obtain ⟨⟨hk, hv⟩, hrest⟩ := within_cons.mp h
    rw [showEntries.eq_3 _ _ _ _ hne]
    exact (hshown k hk).bind fun _ _ => (hshown v hv).bind fun _ _ => (ih hrest).map _

theorem deeper_showFields {fields : List (String × Value)} (h : Within A fields) :
    Deeper (showFields shown fields) (showFields shown' fields) := by
  fun_induction showFields shown fields with
  | case1 => exact .refl _
  | case2 k v =>
    obtain ⟨⟨-, hv⟩, -⟩ := within_cons.mp h
    exact (hshown v hv).map _
  | case3 k v rest hne ih =>
    obtain ⟨⟨-, hv⟩, hrest⟩ := within_cons.mp h
    rw [showFields.eq_3 _ _ _ _ hne]
    exact (hshown v hv).bind fun _ _ => (ih hrest).map _

theorem deeper_showPairs {entries : List (Value × Value)} (h : Within A entries) :
    Deeper (entries.mapM (showPair shown)) (entries.mapM (showPair shown')) := by
  induction entries with
  | nil => exact .refl _
  | cons e rest ih =>
    obtain ⟨⟨hk, hv⟩, hrest⟩ := within_cons.mp h
    simp only [List.mapM_cons]
    refine Deeper.bind ?_ fun _ _ => (ih hrest).map _
    exact (hshown e.1 hk).bind fun _ _ => (hshown e.2 hv).map _

end

section

variable (hg : w.Grows w') (hw : w.Whole)

include hg hw

section

variable {n m : Nat}
  (hinner : ∀ path x, w.Holds x → Deeper (w.showWithin n path x) (w'.showWithin m path x))

include hinner

theorem deeper_showPart (path : List Value) {tag : Nat} {which : MappingPart} {target : Value}
    (htarget : w.Holds target) :
    Deeper (w.showWithin (n + 1) path (.part tag which target))
      (w'.showWithin (m + 1) path (.part tag which target)) := by
  have hnested := hinner (.part tag which target :: path)
  have hentries := hw.entries (hw.open_of_within htarget)
  simp only [showWithin, hg.baseCell? hw htarget, hg.mapping? hw htarget]
  split
  · exact (hinner path target htarget).map _
  · exact (hinner path target htarget).map _
  · exact (hinner path target htarget).map _
  split
  · exact .refl _
  split
  · exact (deeper_showList hnested (within_map fun e he => (hentries e he).1)).map _
  · exact (deeper_showList hnested (within_map fun e he => (hentries e he).2)).map _
  · exact (deeper_showPairs hnested hentries).map _

theorem deeper_showRef (path : List Value) {i : Nat} (hv : w.Holds (Value.ref i)) :
    Deeper (w.showWithin (n + 1) path (.ref i)) (w'.showWithin (m + 1) path (.ref i)) := by
  have hnested := hinner (.ref i :: path)
  have hcontents : ∀ {c : Cell}, w.cell? i = some c → w.Holds c.contents :=
    fun hc => hw.visible hv hc
  simp only [showWithin, hg.cell?_eq hv, hg.class?_eq]
  split
  case h_1 => exact .refl _
  case h_2 items hc | h_4 items hc =>
    split
    · exact .refl _
    · exact (deeper_showList hnested (hcontents hc)).map _
  case h_3 items hc =>
    split
    · exact .refl _
    split
    · exact (hnested _ (hcontents hc _ List.mem_cons_self)).map _
    · exact (deeper_showList hnested (hcontents hc)).map _
  case h_5 code items hc =>
    split
    · exact .refl _
    split
    · exact .refl _
    · exact (deeper_showList hnested (hcontents hc)).map _
  case h_6 frozen items hc =>
    split
    · split
      · exact .refl _
      · exact (deeper_showList hnested (hcontents hc)).map _
    · split
      · exact .refl _
      · exact (deeper_showList hnested (hcontents hc)).map _
  case h_7 => exact .refl _
  case h_8 fluent entries hc =>
    split
    · exact .refl _
    · exact (deeper_showEntries hnested (within_entries.mp (hw.visible hv hc))).map _
  case h_9 scope hc =>
    split
    · exact .refl _
    · have hstored := Scope.within_stored (within_bindings.mp (hw.visible hv hc))
      exact (deeper_showEntries hnested (within_map fun e he => hstored e he)).map _
  case h_10 cls attributes base hc =>
    have hbase : w.Holds base.toList := (within_append.mp (hcontents hc)).2
    simp only [qualifiedName, hg.classes]
    split
    · rename_i tag x
      split
      · exact .refl _
      · exact (hnested x (hbase (.optional tag x) (by simp))).map _
    · rename_i info b _ _
      have hb : w.Holds b := hbase b (by simp)
      rw [hg.baseCell? hw hb]
      split
      · rename_i fields items _ hitems
        have hfields : w.Holds (fields.zip items) :=
          fun e he => ⟨trivial, hw.contents hb hitems _ (List.of_mem_zip he).2⟩
        exact (deeper_showFields hnested hfields).map _
      · exact hnested b hb
    · exact .refl _
  all_goals
    simp only [qualifiedName, hg.classOf hv, hg.classes]
    exact .refl _

end

theorem deeper_showWithin {n m : Nat} (hnm : n ≤ m) (path : List Value) {v : Value}
    (hv : w.Holds v) : Deeper (w.showWithin n path v) (w'.showWithin m path v) := by
  induction n generalizing m path v with
  | zero => exact deeper_tooDeep _
  | succ n ih =>
    obtain ⟨m, rfl⟩ : ∃ k, m = k + 1 := ⟨m - 1, by omega⟩
    have hinner : ∀ path x, w.Holds x → Deeper (w.showWithin n path x) (w'.showWithin m path x) :=
      fun path x hx => ih (Nat.le_of_succ_le_succ hnm) path hx
    cases v with
    | null | bool | int | float | complex | decimal | fraction | text | bytes | range | date | time
    | moment | instant | brokenTime => exact .refl _
    | type | accessor | unbound | unit =>
      simp only [showWithin, showClass, showUnbound, qualifiedName, hg.classes, hg.classOf hv]
      exact .refl _
    | flags e bits =>
      simp only [showWithin, hg.flagName?, hg.classes]
      exact .refl _
    | member e i =>
      simp only [showWithin, hg.memberName?, hg.classes]
      split
      · rename_i name hname
        exact (hinner path name.value (hw.memberName? hname)).map _
      · exact .refl _
    | optional tag x =>
      simp only [showWithin]
      split
      · exact .refl _
      · exact (hinner (.optional tag x :: path) x hv).map _
    | view tag x | readOnly tag x => exact (hinner path x hv).map _
    | bound tag owner name receiver =>
      simp only [showWithin, routineLabel, qualifiedName, hg.classes]
      exact (hinner path receiver hv).map _
    | subUnits owner =>
      simp only [showWithin, hg.forest]
      refine (deeper_showEntries (hinner path) ?_).map _
      exact within_map (l := w.forest.subs owner) fun _ _ => ⟨trivial, trivial⟩
    | part tag which target => exact deeper_showPart hg hw hinner path hv
    | ref i => exact deeper_showRef hg hw hinner path hv

theorem deeper_display {v : Value} (hv : w.Holds v) : Deeper (w.display v) (w'.display v) :=
  deeper_showWithin hg hw (hg.nesting_le v) [] hv

end

end World

end TemplateEngine
