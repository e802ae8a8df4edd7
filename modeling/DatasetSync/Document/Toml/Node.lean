import DatasetSync.Document.Tree

/-!
# Tables under construction

A TOML text builds its tables piece by piece, by headers and by dotted names.  What may still be
added to a table depends on how it came about, so a table under construction remembers its origin.
-/

namespace DatasetSync.Toml

/-- How a table came about. -/
inductive Origin where
  /-- By its own header, or written out in place. -/
  | header
  /-- As part of the path in a header. -/
  | implied
  /-- As part of a dotted name. -/
  | dotted
  deriving DecidableEq, Repr, Inhabited

/-- A part of a document under construction. -/
inductive Node where
  /-- A finished value. -/
  | leaf (tree : Tree)
  | table (origin : Origin) (entries : List (String × Node))
  /-- Tables under a repeated header, the latest last. -/
  | tables (items : List Node)
  deriving Repr, Inhabited

namespace Node

/-- A table that was begun by a header. -/
def begun : Node := .table .header []

def replace (entries : List (String × Node)) (name : String) (node : Node) :
    List (String × Node) :=
  entries.map fun (other, old) => if other = name then (name, node) else (other, old)

/--
Change the node at the end of a path.  Tables that are missing on the way come about with the given
origin; a dotted name does not reach into a table with a header.
-/
def update (origin : Origin) : List String → (Node → Option Node) → Node → Option Node
  | [], act, node => act node
  | name :: rest, act, .table own entries =>
      match entries.lookup name with
      | none => do
          let child ← update origin rest act (.table origin [])
          return .table own (entries ++ [(name, child)])
      | some (.table childOrigin childEntries) =>
          if origin = .dotted ∧ childOrigin = .header then none
          else do
            let child ← update origin rest act (.table childOrigin childEntries)
            return .table own (replace entries name child)
      | some (.tables items) => do
          let latest ← items.getLast?
          let latest ← update origin rest act latest
          return .table own (replace entries name (.tables (items.dropLast ++ [latest])))
      | some (.leaf _) => none
  | _ :: _, _, _ => none

/-- Add an entry to a table that has none of this name yet. -/
def add (name : String) (child : Node) : Node → Option Node
  | .table origin entries =>
      if (entries.lookup name).isSome then none
      else some (.table origin (entries ++ [(name, child)]))
  | _ => none

def insert (path : List String) (name : String) (value : Tree) : Node → Option Node :=
  update .dotted path fun
    | .table origin entries =>
        if path ≠ [] ∧ origin ≠ .dotted then none
        else add name (.leaf value) (.table origin entries)
    | _ => none

/-- Begin a table by its header; only a table that was implied before can still get one. -/
def begin (path : List String) (name : String) : Node → Option Node :=
  update .implied path fun
    | .table origin entries =>
        match entries.lookup name with
        | none => some (.table origin (entries ++ [(name, begun)]))
        | some (.table .implied children) =>
            some (.table origin (replace entries name (.table .header children)))
        | some _ => none
    | _ => none

/-- Begin one more table under a repeated header. -/
def beginAnother (path : List String) (name : String) : Node → Option Node :=
  update .implied path fun
    | .table origin entries =>
        match entries.lookup name with
        | none => some (.table origin (entries ++ [(name, .tables [begun])]))
        | some (.tables items) =>
            some (.table origin (replace entries name (.tables (items ++ [begun]))))
        | some _ => none
    | _ => none

mutual

def toTree : Node → Tree
  | .leaf tree => tree
  | .table _ entries => .table (entriesToTrees entries)
  | .tables items => .list (itemsToTrees items)

def entriesToTrees : List (String × Node) → List (String × Tree)
  | [] => []
  | (name, node) :: rest => (name, toTree node) :: entriesToTrees rest

def itemsToTrees : List Node → List Tree
  | [] => []
  | node :: rest => toTree node :: itemsToTrees rest

end

end Node

end DatasetSync.Toml
