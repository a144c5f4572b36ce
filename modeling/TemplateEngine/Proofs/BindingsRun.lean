import TemplateEngine.Proofs.BindingsStep
import TemplateEngine.Proofs.Mappings
/-!
Runs of operations on a scope value, from its construction on: each reply, the failing ones
included, is the one that a dictionary gives.
-/
namespace TemplateEngine

namespace World

/-- The entries as named ones, if all keys are texts. -/
def named? (w : World) : List (Value × Value) → Option (List (Name Value × Value))
  | [] => some []
  | (key, v) :: rest => do return (⟨← w.text? key, key⟩, v) :: (← named? w rest)

/-- What a new scope is made of: nothing, the variables of another scope in order of storage, or the
entries of a mapping whose keys are texts. -/
def starts? (w : World) : Value → Option (List (Name Value × Value))
  | .null => some []
  | source =>
    match w.baseCell? source with
    | some (.bindings s) => some s.stored
    | _ => (w.mapping? source).bind w.named?

end World

namespace Dictionary

/-- The dictionary with the given entries, written in order. -/
def writeNamed (d : Dictionary Value Value) (entries : List (Name Value × Value)) :
    Dictionary Value Value :=
  entries.foldl (fun d (name, v) => Table.insert d name.folded (name.given, v)) d

end Dictionary

namespace Bindings

/-- A run of operations gives what a dictionary replies, whatever else happens between two
operations, as long as the cell of the scope stays what it is. -/
def Follows (b : Nat) : Option Cell → Dictionary Value Value → List Operation → Prop
  | _, _, [] => True
  | cell, d, op :: rest => ∀ w : World, w.cell? b = cell → op.Reads w →
    (Dictionary.perform w d op).1.Matches (outcome (op.perform (.ref b)) w).2
        (outcome (op.perform (.ref b)) w).1 ∧
      Follows b ((outcome (op.perform (.ref b)) w).2.cell? b) (Dictionary.perform w d op).2 rest

theorem follows_of_shows {b : Nat} (ops : List Operation) :
    ∀ {s : Scope Value Value} {d : Dictionary Value Value}, s.Shows d →
      Follows b (some (.bindings s)) d ops := by
  induction ops with
  | nil => exact fun _ => trivial
  | cons op rest ih =>
    intro s d hs w hcell hop
    obtain ⟨hreply, s', hcell', hs'⟩ := does_perform ⟨s, hcell, hs⟩ op hop
    refine ⟨hreply, ?_⟩
    rw [hcell']
    exact ih hs'

end Bindings

theorem Scope.Shows.insertAll (entries : List (Name Value × Value)) :
    ∀ {s : Scope Value Value} {d : Dictionary Value Value}, s.Shows d →
      (s.insertAll entries).Shows (d.writeNamed entries) := by
  induction entries with
  | nil => exact fun hs => hs
  | cons entry rest ih => exact fun hs => ih (hs.insert entry.1 entry.2)

namespace World

variable {w : World} {b : Nat} {s : Scope Value Value}

/-- What is neither null nor a scope is a mapping whose keys are texts. -/
theorem starts?_of_mapping {source : Value} {entries : List (Name Value × Value)}
    (hnull : source = .null → False)
    (hnotScope : ∀ s : Scope Value Value, w.baseCell? source = some (.bindings s) → False)
    (h : w.starts? source = some entries) :
    ∃ mapped, w.mapping? source = some mapped ∧ w.named? mapped = some entries := by
  rw [starts?.eq_2 _ _ hnull] at h
  split at h
  · rename_i s hs
    exact absurd hs (hnotScope s)
  · exact Option.bind_eq_some_iff.mp h

/-- The cell of what a new scope is made of is there. -/
theorem lt_size_of_starts? {source : Value} {entries : List (Name Value × Value)} {i : Nat}
    (h : w.starts? source = some entries) (hi : w.store? source = some i) : i < w.cells.size := by
  fun_cases World.starts? w source with
  | case1 => simp [store?, base] at hi
  | case2 source hnull scope hscope => exact lt_size_of_baseCell? hscope hi
  | case3 source hnull hnotScope =>
    obtain ⟨mapped, hmapped, -⟩ := starts?_of_mapping hnull hnotScope h
    exact lt_size_of_mapping? hmapped hi

theorem named?_withCell (w : World) (s : Scope Value Value) (entries : List (Value × Value)) :
    (w.withCell (.bindings s)).named? entries = w.named? entries := by
  induction entries with
  | nil => rfl
  | cons entry rest ih => simp only [named?, text?_withCell, ih]

theorem named?_withScope (h : w.cell? b = some (.bindings s)) (s' : Scope Value Value)
    (entries : List (Value × Value)) : (w.withScope b s').named? entries = w.named? entries := by
  induction entries with
  | nil => rfl
  | cons entry rest ih => simp only [named?, text?_withScope h, ih]

theorem withScope_self (h : w.cell? b = some (.bindings s)) : w.withScope b s = w :=
  rewriteCell_self h

theorem withScope_withScope (w : World) (b : Nat) (s s' : Scope Value Value) :
    (w.withScope b s).withScope b s' = w.withScope b s' := by
  simp [withScope, rewriteCell]

theorem withCell_withScope (w : World) (s s' : Scope Value Value) :
    (w.withCell (.bindings s)).withScope w.cells.size s' = w.withCell (.bindings s') := by
  have hcells : (w.cells.push (.bindings s)).setIfInBounds w.cells.size (.bindings s') =
      w.cells.push (.bindings s') := by
    apply Array.ext_getElem?
    intro i
    by_cases hi : w.cells.size = i
    · subst hi
      simp
    · simp [Array.getElem?_push, hi, Ne.symm hi]
  simp only [withScope, rewriteCell, withCell, hcells]

end World

namespace Bindings

variable {w : World} {source : Value} {entries : List (Name Value × Value)}

/-- Entries whose keys are texts are written into a scope, and nothing else changes. -/
theorem outcome_writeAll {b : Nat} {given : List (Value × Value)} :
    ∀ {w : World} {s : Scope Value Value} {entries : List (Name Value × Value)},
      w.cell? b = some (.bindings s) → w.named? given = some entries →
      outcome (writeAll (.ref b) given) w = (.ok (), w.withScope b (s.insertAll entries)) := by
  induction given with
  | nil =>
    intro w s entries hcell h
    obtain rfl : entries = [] := by simpa [World.named?, eq_comm] using h
    rw [writeAll, outcome_pure, Scope.insertAll, List.foldl_nil, World.withScope_self hcell]
  | cons entry rest ih =>
    obtain ⟨key, v⟩ := entry
    intro w s entries hcell h
    cases ht : w.text? key with
    | none => simp [World.named?, ht] at h
    | some text =>
      cases hrest : w.named? rest with
      | none => simp [World.named?, ht, hrest] at h
      | some tail =>
        obtain rfl : (⟨text, key⟩, v) :: tail = entries := by simpa [World.named?, ht, hrest] using h
        have hwritten := ih (World.cell?_withScope_self hcell _)
          ((World.named?_withScope hcell (s.insert ⟨text, key⟩ v) rest).trans hrest)
        rw [writeAll, outcome_bind_ok (outcome_write hcell ht v), hwritten,
          World.withScope_withScope]
        rfl

/-- A new scope is filled with the entries of its source. -/
theorem outcome_fill (h : w.starts? source = some entries) :
    outcome (fill Dispatch.full (.ref w.cells.size) source) (w.withCell (.bindings .empty)) =
      (.ok (), w.withCell (.bindings (.ofEntries entries))) := by
  have hcell := World.cell?_withCell_self w (.bindings Scope.empty)
  rw [fill, outcome_get_bind]
  fun_cases World.starts? w source with
  | case1 =>
    obtain rfl : entries = [] := by simpa [World.starts?, eq_comm] using h
    simp [World.baseCell?, World.base, isTruthy, Scope.ofEntries, Scope.insertAll]
  | case2 source hnull scope hscope =>
    obtain rfl : scope.stored = entries := by simpa [World.starts?, hscope] using h
    simp only [World.baseCell?_withCell .empty hscope, outcome_setScope hcell,
      World.withCell_withScope, Scope.copy]
  | case3 source hnull hnotScope =>
    obtain ⟨mapped, hmapped, hnamed⟩ := World.starts?_of_mapping hnull hnotScope h
    have hmapped' := World.mapping?_withCell .empty source hmapped
    have htruthy := World.outcome_isTruthy_of_mapping hmapped'
    have hwrite := outcome_writeAll hcell ((World.named?_withCell w _ mapped).trans hnamed)
    rw [World.withCell_withScope] at hwrite
    have hupdate : outcome (update Dispatch.full (.ref w.cells.size) source)
        (w.withCell (.bindings .empty)) = (.ok (), w.withCell (.bindings (.ofEntries entries))) := by
      simp only [update, outcome_get_bind, hmapped', hwrite]
      rfl
    split
    · exact absurd ‹_› (World.baseCell?_withCell_ne_bindings hmapped hnotScope .empty _)
    · rw [outcome_bind_ok htruthy]
      cases mapped with
      | nil =>
        obtain rfl : entries = [] := by simpa [World.named?, eq_comm] using hnamed
        rfl
      | cons entry rest => simpa using hupdate

/-- A new scope holds the entries that it is made of, and nothing else changes. -/
theorem outcome_make (h : w.starts? source = some entries) :
    outcome (make Dispatch.full source) w =
      (.ok (.ref w.cells.size), w.withCell (.bindings (.ofEntries entries))) := by
  have halloc : outcome (alloc (.bindings .empty)) w =
      (.ok (.ref w.cells.size), w.withCell (.bindings .empty)) := rfl
  rw [make, outcome_bind_ok halloc, outcome_bind_ok (outcome_fill h), outcome_pure]

/-- A mapping in which two keys differ in case only. -/
def recased : World :=
  { cells := #[.tuple [], .dict false [(.text "Title", .int 1), (.text "TITLE", .int 2)]] }

end Bindings

end TemplateEngine
