import TemplateEngine.Proofs.Plays
/-!
Programs with values written down in them: their bodies write texts, and call units and other values.
What such a program writes, and how it ends, can be told without running it.
-/
namespace TemplateEngine

/-- The value that is written down as an expression: any value, or a unit by its name. -/
def Expr.value? (w : World) : Expr → Option Value
  | .literal (.known v) => some v
  | .literal (.unit name) => (w.unitNames.get? name).map .unit
  | _ => none

/-- Arguments of a call that are written down, if there are any. -/
inductive Expr.Written (w : World) : Option Expr → Prop
  | none : Written w none
  | items {items : List (String × Value)} {es : List Expr}
      (values : List.Forall₂ (fun e v => Expr.value? w e = some v) es (items.map Prod.snd))
      (distinct : (Table.keys items).Nodup) (room : items.length < maxLength)
      (held : w.Holds items) : Written w (some (.map (items.map fun e => .known (.text e.1)) es))

/-- A text is written, or a value with a lasting text; a unit is called, or a value whose text form
exists, which code makes only if the value is no text. -/
inductive Instruction.Written (m : ObjectModel) (w : World) : Instruction → Prop
  | text (s : String) : Written m w (.text s)
  | write {e : Expr} {v : Value} {s : String} (value : e.value? w = some v) (held : w.Holds v)
      (lasts : w.Lasts v s) : Written m w (.write e)
  | unit {template : Expr} {given : Option Expr} {u : UnitId}
      (value : template.value? w = some (.unit u)) (arguments : Expr.Written w given) :
      Written m w (.call template given)
  | value {template : Expr} {given : Option Expr} {v : Value} {shown : String}
      (value : template.value? w = some v) (arguments : Expr.Written w given)
      (other : ∀ u, v ≠ .unit u) (held : w.Holds v)
      (native : (w.text? v).isSome → w.Unscripted v)
      (made : (outcome (shownTarget m v) w).1 = .ok shown) : Written m w (.call template given)

def Program.Written (m : ObjectModel) (w : World) (p : Program) : Prop :=
  ∀ u, ∀ i ∈ p.getD u [], i.Written m w

/-- What the message of a refused call shows, if its text can be made. -/
def shownText (m : ObjectModel) (w : World) (v : Value) : String :=
  match (outcome (shownTarget m v) w).1 with
  | .ok shown => shown
  | .error _ => ""

/-- What is written for a value, if its text can be made. -/
def writtenText (w : World) (v : Value) : String :=
  match outcome (toTemplateText v) w with
  | (.ok t, w') => (w'.text? t).getD ""
  | (.error _, _) => ""

/-- What is written one after the other, and how it ends. -/
structure Script where
  pieces : List String
  ending : Ending

/-- What comes after something, unless that is cut off. -/
def Script.andThen : Script → Script → Script
  | ⟨played, .finished⟩, next => ⟨played ++ next.pieces, next.ending⟩
  | cut, _ => cut

/-- The script of a body, given those of the units that it calls. -/
def Body.script (m : ObjectModel) (w : World) (callee : UnitId → Script) : Body → Script
  | [] => ⟨[], .finished⟩
  | .text s :: rest => .andThen ⟨[s], .finished⟩ (script m w callee rest)
  | .write e :: rest =>
    .andThen ⟨((e.value? w).map (writtenText w)).toList, .finished⟩ (script m w callee rest)
  | .call template _ :: rest =>
    match template.value? w with
    | some (.unit u) => (callee u).andThen (script m w callee rest)
    | some v => ⟨[], .refused (CallFailureKind.ofTarget m w v) (shownText m w v) (· = v)⟩
    | none => script m w callee rest
  | _ :: rest => script m w callee rest

/-- The script of a unit that is called where calls may be nested to a depth. -/
def Program.script (m : ObjectModel) (w : World) (p : Program) : Nat → UnitId → Script
  | 0, _ => ⟨[], .tooDeep⟩
  | n + 1, u => Body.script m w (script m w p n) (p.getD u [])

namespace Render

variable {c : Context} {p : Program} {w : World} {globals : List (Name Value × Value)} {n : Nat}

theorem reads_written {e : Expr} {v : Value} (value : e.value? w = some v) (E : Setting) :
    E.Reads w (eval c · e) fun a _ => a = v := by
  unfold Expr.value? at value
  split at value
  · obtain rfl := Option.some.inj value
    exact Setting.reads_literal _
  · obtain ⟨u, named, rfl⟩ := Option.map_eq_some_iff.mp value
    exact Setting.reads_unit named
  · cases value

theorem supplies_written (c : Context) (globals : List (Name Value × Value)) {given : Option Expr}
    (written : Expr.Written w given) : ∃ items, ∀ (E : Setting) (u : UnitId), E.Reads w (evalGiven c · given) fun v w' =>
      w'.Holds v ∧ w'.Supplies globals u (.ofCall w.forest globals u items) v := by
  cases written with
  | none => exact ⟨[], fun _ _ => Setting.supplies_none⟩
  | @items items es values distinct room held =>
    exact ⟨items, fun E u => Setting.supplies_map items
      (values.imp fun _ _ value => reads_written value E) distinct room held⟩

variable {callee : UnitId → Script}

/-- A body plays its script, if calls of units play that of their callees. -/
theorem plays_body (whole : w.Whole)
    (calls : ∀ (E : Setting) (template : Expr) (u : UnitId) (given : Option Expr) (rest : Body)
      (next : Script), template.value? w = some (.unit u) → Expr.Written w given →
      Plays c p w globals n E rest next.pieces next.ending →
      Plays c p w globals n E (.call template given :: rest) ((callee u).andThen next).pieces
        ((callee u).andThen next).ending)
    (E : Setting) {body : Body} (written : ∀ i ∈ body, i.Written c.model w) :
    Plays c p w globals n E body (body.script c.model w callee).pieces
      (body.script c.model w callee).ending := by
  induction body with
  | nil => exact .done
  | cons i rest ih =>
    obtain ⟨first, later⟩ := List.forall_mem_cons.mp written
    cases first with
    | text s => exact .text (ih later)
    | @write e v s value held lasts =>
      obtain ⟨t, w', made, -, texted⟩ := lasts w (.refl w)
      have same : writtenText w v = s := by simp [writtenText, made, texted]
      simp only [Body.script, value, Option.map_some, same]
      refine .write ((reads_written value E).mono ?_) (ih later)
      rintro _ w' grown - rfl
      exact ⟨grown.holds held, fun _ more => lasts _ (grown.trans more)⟩
    | @unit template given u value arguments =>
      simp only [Body.script, value]
      exact calls E template u given rest _ value arguments (ih later)
    | @value template given v shown value arguments other held native made =>
      obtain ⟨items, supplied⟩ := supplies_written c globals arguments
      have shows : shownText c.model w v = shown := by simp [shownText, made]
      have same : Body.script c.model w callee (.call template given :: rest) =
          ⟨[], .refused (CallFailureKind.ofTarget c.model w v) shown (· = v)⟩ := by
        rw [Body.script, value, ← shows]
        cases v with
        | unit u => exact absurd rfl (other u)
        | _ => rfl
      have rejects : w.Rejects c.model (· = v) (CallFailureKind.ofTarget c.model w v) shown v :=
        World.rejects_of_unscripted whole held rfl other native made
      rw [same]
      exact .refused
        ((reads_written value E).mono fun a w' grown _ same => same ▸ rejects.later grown)
        ((supplied E 0).mono fun _ _ _ _ _ => trivial)

/-- A program with values written down plays its scripts. -/
theorem plays_script (whole : w.Whole) (written : p.Written c.model w) :
    ∀ (n : Nat) (E : Setting) (u : UnitId), Plays c p w globals n E (p.getD u [])
      (p.script c.model w (n + 1) u).pieces (p.script c.model w (n + 1) u).ending := by
  intro n
  -- The induction is on the depth: a callee has less of it.
  induction n with
  | zero =>
    refine fun E u => plays_body whole
      (fun E template u given rest next value arguments _ => ?_) E (written u)
    obtain ⟨items, supplied⟩ := supplies_written c globals arguments
    exact .deep (reads_written value E) (supplied E u)
  | succ n ih =>
    refine fun E u => plays_body whole
      (fun E template u given rest next value arguments later => ?_) E (written u)
    obtain ⟨items, supplied⟩ := supplies_written c globals arguments
    have inner := ih (.ofCall w.forest globals u items) u
    cases ended : (p.script c.model w (n + 1) u) with
    | mk played ending =>
      rw [ended] at inner
      cases ending with
      | finished => exact .called (reads_written value E) (supplied E u) inner later
      | refused | tooDeep => exact .broken (reads_written value E) (supplied E u) inner nofun

end Render

end TemplateEngine
