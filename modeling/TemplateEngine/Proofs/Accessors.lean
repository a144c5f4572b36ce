import TemplateEngine.Proofs.Containers
import TemplateEngine.Proofs.Containment
/-!
Which functions count as accessors. A call through the instance hands over the receiver, unless the
function is static, so the test leaves the first positional parameter to the receiver. A method that
has no such parameter passes the test as well if it may do without all others: then the call has no
place for the receiver and is refused, and the spellings that follow are not tried.
-/
namespace TemplateEngine

/-- Where a kind of parameters stands in a signature. -/
def ParamKind.place : ParamKind → Nat
  | .positionalOnly => 0
  | .positional => 1
  | .rest => 2
  | .keywordOnly => 3
  | .keywords => 4

namespace Routine

/-- The parameters stand in the order of their kinds, as in every signature. -/
def Ordered (r : Routine) : Prop := r.params.Pairwise fun p q => p.kind.place ≤ q.kind.place

/-- The number of arguments in a call through the instance that adds none. -/
def handed (r : Routine) : Nat := if r.binding = .static then 0 else 1

/-- A call through the instance without arguments fits the parameters. -/
def Binds (r : Routine) : Prop := r.misfit? r.handed = none

/-- A method without a place for its receiver, all whose parameters may be left out. -/
structure Selfless (r : Routine) : Prop where
  handed : r.binding ≠ .static
  placeless : r.positional = []
  closed : r.takesRest = false
  optional : ∀ p ∈ r.params, p.kind = .keywordOnly → p.hasDefault = true

variable {r : Routine}

theorem length_given (r : Routine) (v : Value) (c : ClassId) :
    (r.given v c []).length = r.handed := by
  unfold given handed
  cases r.binding <;> rfl

theorem misfit?_eq_none_iff (given : Nat) :
    r.misfit? given = none ↔
      (given ≤ r.positional.length ∨ r.takesRest = true) ∧
        (∀ p ∈ r.positional.drop given, p.hasDefault = true) ∧
        ∀ p ∈ r.params, p.kind = .keywordOnly → p.hasDefault = true := by
  have many : (decide (r.positional.length < given) && !r.takesRest) = false ↔
      given ≤ r.positional.length ∨ r.takesRest = true := by
    rw [Bool.and_eq_false_iff, decide_eq_false_iff_not, not_lt, Bool.not_eq_false']
  unfold misfit?
  dsimp only
  split
  · rename_i excess
    simp [← many, excess]
  · rename_i excess
    rw [Bool.not_eq_true, many] at excess
    split
    · rename_i missing
      simp only [reduceCtorEq, false_iff, not_and]
      exact fun _ filled => absurd missing (by simpa [List.filter_eq_nil_iff] using filled)
    · rename_i filled
      split
      · rename_i missing
        simp only [reduceCtorEq, false_iff, not_and]
        exact fun _ _ optional => absurd missing (by simpa [List.filter_eq_nil_iff] using optional)
      · rename_i optional
        simp only [true_iff]
        exact ⟨excess, by simpa [List.filter_eq_nil_iff] using filled,
          by simpa [List.filter_eq_nil_iff] using optional⟩

/-- Parameters may be left out if those that take an argument have defaults. -/
theorem all_optional_iff (ps : List Param) :
    (ps.all fun p => p.hasDefault || p.kind = .rest || p.kind = .keywords) = true ↔
      (∀ p ∈ ps.filter fun p => p.kind = .positional ∨ p.kind = .positionalOnly,
        p.hasDefault = true) ∧
      ∀ p ∈ ps, p.kind = .keywordOnly → p.hasDefault = true := by
  simp only [List.all_eq_true, List.mem_filter, Bool.or_eq_true, decide_eq_true_eq, and_imp]
  constructor
  · refine fun all => ⟨fun p mem kind => ?_, fun p mem kind => ?_⟩
    · rcases kind with kind | kind <;> simpa [kind] using all p mem
    · simpa [kind] using all p mem
  · rintro ⟨positional, keywords⟩ p mem
    cases kind : p.kind with
    | positional => simp [positional p mem (.inl kind)]
    | positionalOnly => simp [positional p mem (.inr kind)]
    | keywordOnly => simp [keywords p mem kind]
    | rest | keywords => simp

/-- After a parameter that is not positional there is no positional one. -/
theorem Ordered.positional_eq_nil {p : Param} {ps : List Param} (ordered : r.Ordered)
    (params : r.params = p :: ps) (other : ¬(p.kind = .positional ∨ p.kind = .positionalOnly)) :
    r.positional = [] := by
  rw [Ordered, params] at ordered
  have later : 2 ≤ p.kind.place := by
    revert other
    cases p.kind <;> simp [ParamKind.place]
  rw [positional, params, List.filter_eq_nil_iff]
  intro q mem kind
  have place : 2 ≤ q.kind.place := by
    rcases List.mem_cons.mp mem with rfl | tail
    · exact later
    · exact later.trans ((List.pairwise_cons.mp ordered).1 q tail)
  rcases of_decide_eq_true kind with kind | kind <;> simp [kind, ParamKind.place] at place

theorem binds_of_placeless (handed : r.binding ≠ .static) (placeless : r.positional = []) :
    r.Binds ↔ r.takesRest = true ∧ ∀ p ∈ r.params, p.kind = .keywordOnly → p.hasDefault = true := by
  simp [Binds, Routine.handed, handed, misfit?_eq_none_iff, placeless]

/-- The test accepts the functions that a call without arguments fits, and besides them the methods
that have no place for their receiver. -/
theorem needsNothing_iff (ordered : r.Ordered) : r.needsNothing = true ↔ r.Binds ∨ r.Selfless := by
  by_cases static : r.binding = .static
  · have handed : ¬ r.Selfless := fun selfless => selfless.handed static
    simp only [needsNothing, if_pos static, all_optional_iff, handed, or_false, Binds,
      Routine.handed, misfit?_eq_none_iff, Nat.zero_le, true_or, true_and, List.drop_zero]
    rfl
  have placeless (unplaced : r.positional = []) (test : r.needsNothing = true ↔
      ∀ p ∈ r.params, p.kind = .keywordOnly → p.hasDefault = true) :
      r.needsNothing = true ↔ r.Binds ∨ r.Selfless := by
    rw [test, binds_of_placeless static unplaced]
    constructor
    · intro optional
      cases rest : r.takesRest with
      | true => exact .inl ⟨rfl, optional⟩
      | false => exact .inr ⟨static, unplaced, rest, optional⟩
    · rintro (⟨-, optional⟩ | selfless)
      exacts [optional, selfless.optional]
  cases params : r.params with
  | nil => exact placeless (by simp [positional, params]) (by simp [needsNothing, static, params])
  | cons p ps =>
    by_cases kind : p.kind = .positional ∨ p.kind = .positionalOnly
    · have first : r.positional =
          p :: ps.filter fun p => p.kind = .positional ∨ p.kind = .positionalOnly := by
        rw [positional, params, List.filter_cons_of_pos (by simpa using kind)]
      have placed : ¬ r.Selfless := fun selfless => by
        simpa [first] using selfless.placeless
      have named : p.kind ≠ .keywordOnly := by
        rcases kind with kind | kind <;> simp [kind]
      simp only [needsNothing, if_neg static, params, if_pos kind, all_optional_iff, placed,
        or_false, Binds, Routine.handed, misfit?_eq_none_iff, first, List.length_cons,
        Nat.le_add_left, true_or, true_and, List.drop_succ_cons, List.drop_zero,
        List.forall_mem_cons, named, false_imp_iff]
    · have unplaced := ordered.positional_eq_nil params kind
      refine placeless unplaced ?_
      rw [positional, params] at unplaced
      simp only [needsNothing, if_neg static, params, if_neg kind, all_optional_iff, unplaced,
        List.not_mem_nil, false_imp_iff, implies_true, true_and]

/-- The call of a method without a place for its receiver is refused. -/
theorem Selfless.misfit? (selfless : r.Selfless) :
    r.misfit? r.handed = some (.tooManyArguments r.label 0 0 1) := by
  have handed : r.handed = 1 := if_neg selfless.handed
  simp [Routine.misfit?, handed, selfless.placeless, selfless.closed]

theorem Selfless.not_binds (selfless : r.Selfless) : ¬ r.Binds := by
  simp [Binds, selfless.misfit?]

/-- A call that fits runs the body. -/
theorem callRoutine_of_binds (binds : r.Binds) (d : Dispatch) (v : Value) (c : ClassId) :
    callRoutine d r (r.given v c []) = perform d r.action r.binding (r.given v c []) := by
  rw [callRoutine, length_given, binds]

theorem callRoutine_of_selfless (selfless : r.Selfless) (d : Dispatch) (v : Value) (c : ClassId) :
    callRoutine d r (r.given v c []) = fail (.tooManyArguments r.label 0 0 1) := by
  rw [callRoutine, length_given, selfless.misfit?]

end Routine

/-! ## The first spelling that decides -/

section
variable {cs : Classes} {c owner : ClassId} {name n : String} {r : Routine}

theorem accessorAt?_eq_some_iff {spelling : String} :
    accessorAt? cs c spelling = some (n, owner) ↔
      n = spelling ∧ (isPrivate spelling = false ∨ spelling = "__str__") ∧
        ∃ m, Classes.findMember? cs c spelling = some (owner, m) ∧ m.isRoutine = true ∧
          m.needsNothing = true := by
  unfold accessorAt?
  by_cases hidden : (isPrivate spelling && spelling != "__str__") = true
  · obtain ⟨private_, other⟩ : isPrivate spelling = true ∧ spelling ≠ "__str__" := by
      simpa using hidden
    simp [private_, other]
  have open_ : isPrivate spelling = false ∨ spelling = "__str__" := by
    by_cases text : spelling = "__str__"
    · exact .inr text
    · exact .inl (by simpa [text] using hidden)
  rw [if_neg hidden]
  constructor
  · intro accepted
    split at accepted
    · rename_i owner' m found
      split at accepted
      · rename_i callable
        obtain ⟨rfl, rfl⟩ := Prod.mk.inj (Option.some.inj accepted)
        exact ⟨rfl, open_, m, found, Bool.and_eq_true_iff.mp callable⟩
      · simp at accepted
    · simp at accepted
  · rintro ⟨rfl, -, m, found, routine, free⟩
    simp [found, routine, free]

/-- What the root class defines goes by no name but that of the text method. -/
theorem allowed_of_accessorAt? (found : accessorAt? cs c n = some (n, owner)) :
    isAccessorAllowed n owner = true := by
  obtain ⟨-, -, m, member, -⟩ := accessorAt?_eq_some_iff.mp found
  obtain ⟨c', -, own⟩ := List.exists_of_findSome?_eq_some member
  obtain ⟨m', own, same⟩ := Option.map_eq_some_iff.mp own
  obtain ⟨rfl, -⟩ := Prod.mk.inj same
  by_cases root : c' = .standard .object
  · subst root
    have text : n = "__str__" := by
      by_contra other
      simp [Classes.ownMember?, Standard.members, Standard.hasOwnText, Standard.publicMembers,
        List.lookup_cons, beq_eq_false_iff_ne.mpr other] at own
    simp [isAccessorAllowed, text]
  · simp [isAccessorAllowed, root]

/-- The first spelling in their order that names an accessor decides. -/
theorem findAccessor?_eq_some_iff :
    findAccessor? cs c name = some (n, owner) ↔
      name ≠ "" ∧ ∃ before after, accessorSpellings name = before ++ n :: after ∧
        accessorAt? cs c n = some (n, owner) ∧ ∀ m ∈ before, accessorAt? cs c m = none := by
  by_cases named : name = ""
  · simp [findAccessor?, named]
  simp only [findAccessor?, String.isEmpty_iff, named, if_false, Option.filter_eq_some_iff,
    List.findSome?_eq_some_iff, ne_eq, not_false_eq_true, true_and]
  constructor
  · rintro ⟨⟨before, spelling, after, split, found, earlier⟩, -⟩
    obtain ⟨rfl, -⟩ := accessorAt?_eq_some_iff.mp found
    exact ⟨before, after, split, found, earlier⟩
  · rintro ⟨before, after, split, found, earlier⟩
    exact ⟨⟨before, n, after, split, found, earlier⟩, allowed_of_accessorAt? found⟩

end

/-! ## Calls through an instance -/

/-- The result of a call for a template: a failure is reported and gives nothing. -/
def settled (v : Value) (spelling : String) (x : M Value) : M Value := do
  match ← attempt x with
  | .ok result => return result
  | .error f =>
    report .warning
      ("Cannot access method '" ++ spelling ++ "' on object " ++ (← displayed v)) (some f.kindName)
    return .null

section
variable {w w₁ : World} {v m : Value} {name n : String} {owner : ClassId} {r : Routine}

theorem outcome_callNamed_read (given : m ≠ .null)
    (read : outcome (getAttribute v n) w = (.ok (some m), w₁)) :
    outcome (callNamed v n) w = outcome (settled v n (call m [])) w₁ := by
  have found : outcome (readForTemplate v n) w = (.ok (some m), w₁) := by
    simp [readForTemplate, outcome_bind, read]
  rw [callNamed, outcome_bind_ok found]
  split
  · simp_all
  · simp_all
  · rename_i method _ present
    obtain rfl := Option.some.inj present
    rfl

/-- The classes of a value, which is no enumeration class, define a function under a name. -/
structure World.Method (w : World) (v : Value) (n : String) (owner : ClassId) (r : Routine) :
    Prop where
  unlisted : w.enumClass? v = none
  found : Classes.findMember? w.classes (w.classOf v) n = some (owner, .routine r)
  ordered : r.Ordered

namespace World.Method

theorem ownerClass (method : w.Method v n owner r) : w.ownerClass v = w.classOf v := by
  simp [World.ownerClass, method.unlisted]

/-- Built-in classes define no functions of this kind. -/
theorem classOf_ne (method : w.Method v n owner r) (s : Standard) : w.classOf v ≠ .standard s := by
  intro standard
  have found := method.found
  rw [standard] at found
  obtain ⟨_, _, _, _, member, _⟩ := findMember?_standard found
  cases member

theorem ne_null (method : w.Method v n owner r) : v ≠ .null :=
  fun null => method.classOf_ne .none (by rw [null]; rfl)

theorem ne_type (method : w.Method v n owner r) (c : ClassId) : v ≠ .type c := by
  rintro rfl
  have standard : ∃ s, w.classOf (.type c) = .standard s := by
    unfold classOf
    dsimp only
    split
    · exact ⟨_, rfl⟩
    · split <;> exact ⟨_, rfl⟩
  obtain ⟨s, standard⟩ := standard
  exact method.classOf_ne s standard

/-- The class that a function is found in is a declared one, and defines it. -/
theorem own (method : w.Method v n owner r) :
    (∀ s, owner ≠ .standard s) ∧ Classes.ownMember? w.classes owner n = some (.routine r) := by
  obtain ⟨c, -, own⟩ := List.exists_of_findSome?_eq_some method.found
  obtain ⟨m, own, same⟩ := Option.map_eq_some_iff.mp own
  obtain ⟨rfl, rfl⟩ := Prod.mk.inj same
  refine ⟨?_, own⟩
  rintro s rfl
  obtain ⟨use, -, member⟩ := Option.map_eq_some_iff.mp own
  cases member

/-- An attribute of the value itself is read in place of a function of its classes. -/
theorem outcome_getAttribute_own (method : w.Method v n owner r) {x : Value}
    (kept : (w.ownAttributes v).get? n = some x) :
    outcome (getAttribute v n) w = (.ok (some x), w) := by
  change outcome (readAttribute (.within 499) v n) w = _
  rw [outcome_readAttribute_found _ method.ne_type method.found rfl]
  simp [kept]

/-- A function is read bound to what it is called with, and its call runs its body unless it refuses
the arguments. -/
theorem outcome_call (method : w.Method v n owner r) (free : (w.ownAttributes v).get? n = none) :
    ∃ m, m ≠ .null ∧ outcome (getAttribute v n) w = (.ok (some m), w.mark r.handed) ∧
      outcome (call m []) (w.mark r.handed) =
        outcome (callRoutine (.within 499) r (r.given v (w.classOf v) [])) (w.mark r.handed) := by
  obtain ⟨declared, own⟩ := method.own
  have read : outcome (getAttribute v n) w =
      outcome (memberOfValue v (w.classOf v) owner n (.routine r)) w := by
    change outcome (readAttribute (.within 499) v n) w = _
    rw [outcome_readAttribute_found _ method.ne_type method.found rfl]
    simp [free]
  have called (arguments : List Value) (tags : Nat) :
      outcome (callMember (.within 499) owner n arguments) (w.mark tags) =
        outcome (callRoutine (.within 499) r arguments) (w.mark tags) := by
    have own' : Classes.ownMember? (w.mark tags).classes owner n = some (.routine r) := own
    simp only [callMember, outcome_get_bind, own']
  rw [read]
  cases binding : r.binding with
  | receiver =>
    have handed : r.handed = 1 := by simp [Routine.handed, binding]
    refine ⟨.bound w.nextTag owner n v, Value.noConfusion, ?_, ?_⟩
    · simp only [memberOfValue, binding, handed]
      rfl
    · simp only [Routine.given, binding, ← called]
      rfl
  | onClass =>
    have handed : r.handed = 1 := by simp [Routine.handed, binding]
    refine ⟨.bound w.nextTag owner n (.type (w.classOf v)), Value.noConfusion, ?_, ?_⟩
    · simp only [memberOfValue, binding, handed]
      rfl
    · simp only [Routine.given, binding, ← called]
      rfl
  | static =>
    have handed : r.handed = 0 := by simp [Routine.handed, binding]
    refine ⟨.unbound owner n, Value.noConfusion, ?_, ?_⟩
    · simp only [memberOfValue, binding, handed]
      rfl
    · simp only [Routine.given, binding, ← called]
      cases owner with
      | standard s => exact absurd rfl (declared s)
      | declared i => rfl

/-- The accessor that is found for a name and exposed is called as the template's own call. -/
theorem outcome_invokeAccessor (method : w.Method v n owner r)
    (free : (w.ownAttributes v).get? n = none)
    (found : findAccessor? w.classes (w.ownerClass v) name = some (n, owner))
    (exposed : Classes.publicOwner? w.classes (w.ownerClass v) n ≠ none) :
    outcome (invokeAccessor v name) w =
      outcome (settled v n (callRoutine (.within 499) r (r.given v (w.classOf v) [])))
        (w.mark r.handed) := by
  have asked : (decide (v = .null) || name.isEmpty) = false := by
    simp [method.ne_null, (findAccessor?_eq_some_iff.mp found).1]
  have shown : (Classes.publicOwner? w.classes (w.ownerClass v) n).isNone = false := by
    simpa [Option.isSome_iff_ne_none] using exposed
  obtain ⟨m, given, read, call⟩ := method.outcome_call free
  simp only [invokeAccessor, outcome_get_bind, asked, found, shown, Bool.false_eq_true, if_false]
  rw [outcome_callNamed_read given read, settled, settled, outcome_bind, outcome_bind,
    outcome_attempt, outcome_attempt, call]

end World.Method

end

/-- Which function is the accessor of a name: under the first of the spellings where a call through
the instance fits the parameters, or where a method has no place for its receiver and needs nothing
else. The two exclude each other. In the first case reading the accessor for a template runs its
body. In the second the call is refused, and later spellings are not tried. Either way an attribute
of the value itself is read in place of the function. -/
theorem accessor_selection (w : World) (v : Value) :
    (∀ n owner r, w.Method v n owner r →
      (accessorAt? w.classes (w.ownerClass v) n = some (n, owner) ↔
        (isPrivate n = false ∨ n = "__str__") ∧ (r.Binds ∨ r.Selfless)) ∧
      ¬ (r.Binds ∧ r.Selfless)) ∧
    (∀ name n owner, findAccessor? w.classes (w.ownerClass v) name = some (n, owner) ↔
      name ≠ "" ∧ ∃ before after, accessorSpellings name = before ++ n :: after ∧
        accessorAt? w.classes (w.ownerClass v) n = some (n, owner) ∧
        ∀ m ∈ before, accessorAt? w.classes (w.ownerClass v) m = none) ∧
    ∀ n owner r, w.Method v n owner r →
      (∀ x, (w.ownAttributes v).get? n = some x →
        outcome (getAttribute v n) w = (.ok (some x), w)) ∧
      ((w.ownAttributes v).get? n = none →
        ∃ m, outcome (getAttribute v n) w = (.ok (some m), w.mark r.handed) ∧
          (r.Binds →
            outcome (call m []) (w.mark r.handed) =
              outcome (perform (.within 499) r.action r.binding (r.given v (w.classOf v) []))
                (w.mark r.handed)) ∧
          (r.Selfless →
            outcome (call m []) (w.mark r.handed) =
              (.error (.tooManyArguments r.label 0 0 1), w.mark r.handed)) ∧
          ∀ name, findAccessor? w.classes (w.ownerClass v) name = some (n, owner) →
            Classes.publicOwner? w.classes (w.ownerClass v) n ≠ none →
            (r.Binds →
              outcome (invokeAccessor v name) w =
                outcome (settled v n (perform (.within 499) r.action r.binding
                  (r.given v (w.classOf v) []))) (w.mark r.handed)) ∧
            (r.Selfless →
              outcome (invokeAccessor v name) w =
                outcome (settled v n (fail (.tooManyArguments r.label 0 0 1)))
                  (w.mark r.handed))) := by
  refine ⟨fun n owner r method => ⟨?_, fun both => both.2.not_binds both.1⟩,
    fun name n owner => findAccessor?_eq_some_iff,
    fun n owner r method => ⟨fun x => method.outcome_getAttribute_own, fun free => ?_⟩⟩
  · rw [← Routine.needsNothing_iff method.ordered, method.ownerClass, accessorAt?_eq_some_iff]
    simp [method.found, Member.isRoutine, Member.needsNothing]
  · obtain ⟨m, -, read, called⟩ := method.outcome_call free
    refine ⟨m, read, fun binds => ?_, fun selfless => ?_, fun name found exposed =>
      ⟨fun binds => ?_, fun selfless => ?_⟩⟩
    · rw [called, Routine.callRoutine_of_binds binds]
    · rw [called, Routine.callRoutine_of_selfless selfless]
      rfl
    · rw [method.outcome_invokeAccessor free found exposed, Routine.callRoutine_of_binds binds]
    · rw [method.outcome_invokeAccessor free found exposed,
        Routine.callRoutine_of_selfless selfless]

def Routine.getter (label : String) (params : List Param) (price : Int) : Routine where
  label := label
  binding := .receiver
  params := params
  action := .give (.known (.int price))

/-- A class whose first accessor has no place for its receiver, and an instance of it. -/
def oddShop : World where
  cells := #[.tuple [], .object 0 [] none]
  classes := #[{
    name := "Odd"
    kind := .plain
    bases := [.standard .object]
    order := [.declared 0, .standard .object]
    members := [("price", .routine (.getter "Odd.price" [] 1)),
      ("getPrice", .routine (.getter "Odd.getPrice" [⟨"self", .positional, false⟩] 2))]
    annotations := []
    names := []
    fields := none
    closed := false }]

/-- The price is not given, although the second spelling would give it. -/
theorem accessor_selection_oddShop :
    findAccessor? oddShop.classes (oddShop.ownerClass (.ref 1)) "price" =
        some ("price", .declared 0) ∧
      (outcome (invokeAccessor (.ref 1) "price") oddShop).1 = .ok .null ∧
      (outcome (invokeAccessor (.ref 1) "price") oddShop).2.log = [uncalledLine "price" "<Odd>"
        (.tooManyArguments "Odd.price" 0 0 1)] ∧
      (outcome (invokeAccessor (.ref 1) "getPrice") oddShop).1 = .ok (.int 2) := by
  have price : oddShop.Method (.ref 1) "price" (.declared 0) (.getter "Odd.price" [] 1) :=
    ⟨rfl, rfl, .nil⟩
  have getPrice : oddShop.Method (.ref 1) "getPrice" (.declared 0)
      (.getter "Odd.getPrice" [⟨"self", .positional, false⟩] 2) :=
    ⟨rfl, rfl, by simp [Routine.Ordered, Routine.getter]⟩
  have selfless : (Routine.getter "Odd.price" [] 1).Selfless := ⟨nofun, rfl, rfl, nofun⟩
  obtain ⟨-, -, calls⟩ := accessor_selection oddShop (.ref 1)
  obtain ⟨m, -, -, -, first⟩ := (calls _ _ _ price).2 rfl
  obtain ⟨m', -, -, -, second⟩ := (calls _ _ _ getPrice).2 rfl
  have found : findAccessor? oddShop.classes (oddShop.ownerClass (.ref 1)) "price" =
      some ("price", .declared 0) := by decide
  refine ⟨found, ?_⟩
  rw [(first "price" found (by decide)).2 selfless,
    (second "getPrice" (by decide) (by decide)).1 rfl]
  exact ⟨rfl, rfl, rfl⟩

end TemplateEngine
