import TemplateEngine.Table
/-!
Settings as trees: tables of settings by key, lists, and single values. Later layers are merged over
earlier ones.
-/
namespace TemplateEngine

inductive Tree (κ α : Type)
  | leaf (a : α)
  | list (items : List (Tree κ α))
  | table (entries : List (κ × Tree κ α))

namespace Tree

variable {κ κ' α : Type}

/-- The entries of a table; anything else has none. -/
def entries : Tree κ α → Table κ (Tree κ α)
  | table entries => entries
  | _ => []

mutual

def mapKeys (f : κ → κ') : Tree κ α → Tree κ' α
  | leaf a => leaf a
  | list items => list (mapKeysList f items)
  | table entries => table (mapKeysEntries f entries)

def mapKeysList (f : κ → κ') : List (Tree κ α) → List (Tree κ' α)
  | [] => []
  | t :: rest => t.mapKeys f :: mapKeysList f rest

def mapKeysEntries (f : κ → κ') : Table κ (Tree κ α) → Table κ' (Tree κ' α)
  | [] => []
  | (k, t) :: rest => (f k, t.mapKeys f) :: mapKeysEntries f rest

end

variable [BEq κ]

/-- What stands at a path. -/
def get? : Tree κ α → List κ → Option (Tree κ α)
  | t, [] => some t
  | t, k :: path => (Table.get? t.entries k).bind (get? · path)

mutual

/-- Lays a tree over another one: two tables are merged, anything else is replaced. -/
def merge (base : Tree κ α) : Tree κ α → Tree κ α
  | table later => match base with
    | table entries => table (mergeEntries entries later)
    | _ => table later
  | later => later

/-- Lays entries over others; new keys come last. -/
def mergeEntries (base : Table κ (Tree κ α)) : Table κ (Tree κ α) → Table κ (Tree κ α)
  | [] => base
  | (k, later) :: rest =>
    let merged := match Table.get? base k with
      | some earlier => earlier.merge later
      | none => later
    mergeEntries (Table.insert base k merged) rest

end

/-- Writes a tree at a path. Tables are made on the way, also in place of what is no table. -/
def setAt (entries : Table κ (Tree κ α)) (key : κ) (path : List κ) (t : Tree κ α) :
    Table κ (Tree κ α) :=
  match path with
  | [] => Table.insert entries key t
  | next :: path =>
    let inner := ((Table.get? entries key).map Tree.entries).getD []
    Table.insert entries key (table (setAt inner next path t))

/-- Writes a tree at a path into a tree. -/
def set (base : Tree κ α) : List κ → Tree κ α → Tree κ α
  | [], t => t
  | key :: path, t => table (setAt base.entries key path t)

end Tree

end TemplateEngine
