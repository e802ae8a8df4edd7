import DatasetSync.Proofs.Document.Toml.Lines

/-!
# Building a document from its lines

The lines of a document come in the order in which its tables are entered, so each line changes the
table that was begun last.  What stands around that table stays as it is, which is said by putting
the table back into its surroundings.
-/

namespace DatasetSync.Toml

open Node

/-! ## The latest table -/

section Entries

variable {name : String} {before : List (String × Node)}

theorem lookup_concat (fresh : before.lookup name = none) (node : Node) :
    (before ++ [(name, node)]).lookup name = some node := by
  rw [List.lookup_append, fresh]
  simp

theorem replace_concat (fresh : before.lookup name = none) (old node : Node) :
    replace (before ++ [(name, old)]) name node = before ++ [(name, node)] := by
  induction before with
  | nil => simp [replace]
  | cons entry before ih =>
      obtain ⟨other, value⟩ := entry
      rw [List.lookup_cons] at fresh
      split at fresh
      next => cases fresh
      next apart =>
        have differs : other ≠ name := by
          rintro rfl
          simp at apart
        have rest := ih fresh
        unfold replace at rest ⊢
        rw [List.cons_append, List.map_cons, rest]
        simp [differs]

end Entries

/--
The surroundings of the table at the end of a path, if every table on the path is the one that was
begun last.
-/
inductive Focus : List String → (Node → Node) → Prop where
  | here : Focus [] id
  | table {path : List String} {plug : Node → Node} {name : String}
      {before : List (String × Node)} (origin : Origin) (fresh : before.lookup name = none)
      (inner : Focus path plug) :
      Focus (name :: path) fun node => .table origin (before ++ [(name, plug node)])
  | tables {path : List String} {plug : Node → Node} {name : String}
      {before : List (String × Node)} (origin : Origin) (fresh : before.lookup name = none)
      (earlier : List Node) (inner : Focus path plug) :
      Focus (name :: path) fun node =>
        .table origin (before ++ [(name, .tables (earlier ++ [plug node]))])

namespace Focus

variable {path : List String} {plug : Node → Node}

theorem isTable (focus : Focus path plug) (origin : Origin) (entries : List (String × Node)) :
    ∃ outer others, plug (.table origin entries) = .table outer others := by
  cases focus with
  | here => exact ⟨origin, entries, rfl⟩
  | table outer => exact ⟨outer, _, rfl⟩
  | tables outer => exact ⟨outer, _, rfl⟩

/-- A change at the end of the path is a change of the latest table. -/
theorem update (focus : Focus path plug) (act : Node → Option Node) (origin : Origin)
    (entries : List (String × Node)) :
    Node.update .implied path act (plug (.table origin entries)) =
      (act (.table origin entries)).map plug := by
  induction focus with
  | here => simp [Node.update]
  | @table path plug name before outer fresh inner ih =>
      -- The update looks at the node it goes through, which has to be seen to be a table.
      obtain ⟨own, others, shape⟩ := inner.isTable origin entries
      rw [shape] at ih
      simp only [Node.update, lookup_concat fresh, shape]
      rw [if_neg (by simp), ih]
      cases act (.table origin entries) with
      | none => rfl
      | some node => simp [replace_concat fresh]
  | @tables path plug name before outer fresh earlier inner ih =>
      simp only [Node.update, lookup_concat fresh, List.getLast?_concat]
      rw [Option.bind_eq_bind, Option.bind_some, ih]
      cases act (.table origin entries) with
      | none => rfl
      | some node => simp [replace_concat fresh]

variable {name : String} {before : List (String × Node)}

/-- A table that is begun inside the latest one is then the latest. -/
theorem enter (focus : Focus path plug) (origin : Origin) (fresh : before.lookup name = none) :
    Focus (path ++ [name]) fun node => plug (.table origin (before ++ [(name, node)])) := by
  induction focus with
  | here => exact .table origin fresh .here
  | table outer others inner ih => exact .table outer others ih
  | tables outer others earlier inner ih => exact .tables outer others earlier ih

theorem enterAnother (focus : Focus path plug) (origin : Origin)
    (fresh : before.lookup name = none) (earlier : List Node) :
    Focus (path ++ [name]) fun node =>
      plug (.table origin (before ++ [(name, .tables (earlier ++ [node]))])) := by
  induction focus with
  | here => exact .tables origin fresh earlier .here
  | table outer others inner ih => exact .table outer others ih
  | tables outer others items inner ih => exact .tables outer others items ih

end Focus

/-! ## Lines -/

/-- The lines lead from one document under construction to another. -/
def Builds (said : List Line) (root : Node) (current : List String) (after : Node)
    (latest : List String) : Prop :=
  ∀ rest, build root current (said ++ rest) = build after latest rest

namespace Builds

variable {said others : List Line} {root middle after : Node} {current between latest : List String}

theorem nil (root : Node) (current : List String) : Builds [] root current root current :=
  fun _ => rfl

theorem append (first : Builds said root current middle between)
    (second : Builds others middle between after latest) :
    Builds (said ++ others) root current after latest := by
  intro rest
  rw [List.append_assoc, first, second]

end Builds

section Steps

variable {path : List String} {plug : Node → Node} {name : String}
  {before : List (String × Node)}

theorem Focus.entry (focus : Focus path plug) (origin : Origin)
    (fresh : before.lookup name = none) (tree : Tree) :
    Builds [.entry [] name tree] (plug (.table origin before)) path
      (plug (.table origin (before ++ [(name, .leaf tree)]))) path := by
  intro rest
  rw [List.cons_append, List.nil_append, build, focus.update]
  simp [Node.insert, Node.update, add, fresh]

theorem Focus.header (focus : Focus path plug) (origin : Origin)
    (fresh : before.lookup name = none) (current : List String) :
    Builds [.header path name] (plug (.table origin before)) current
      (plug (.table origin (before ++ [(name, begun)]))) (path ++ [name]) := by
  intro rest
  rw [List.cons_append, List.nil_append, build, begin, focus.update]
  simp [fresh]

theorem Focus.firstHeader (focus : Focus path plug) (origin : Origin)
    (fresh : before.lookup name = none) (current : List String) :
    Builds [.anotherHeader path name] (plug (.table origin before)) current
      (plug (.table origin (before ++ [(name, .tables [begun])]))) (path ++ [name]) := by
  intro rest
  rw [List.cons_append, List.nil_append, build, beginAnother, focus.update]
  simp [fresh]

theorem Focus.anotherHeader (focus : Focus path plug) (origin : Origin)
    (fresh : before.lookup name = none) (items : List Node) (current : List String) :
    Builds [.anotherHeader path name] (plug (.table origin (before ++ [(name, .tables items)])))
      current (plug (.table origin (before ++ [(name, .tables (items ++ [begun]))])))
      (path ++ [name]) := by
  intro rest
  rw [List.cons_append, List.nil_append, build, beginAnother, focus.update]
  simp [lookup_concat fresh, replace_concat fresh]

end Steps

/-! ## Blank lines -/

theorem build_congr {first second : List Line}
    (same : ∀ root current, build root current first = build root current second)
    (said : List Line) (root : Node) (current : List String) :
    build root current (said ++ first) = build root current (said ++ second) := by
  induction said generalizing root current with
  | nil => exact same root current
  | cons line said ih => cases line <;> simp only [List.cons_append, build, ih]

/-- Blank lines between sections do not count. -/
theorem build_intercalate (sections : List (List Line)) (root : Node) (current : List String) :
    build root current ([.blank].intercalate sections) = build root current sections.flatten := by
  induction sections generalizing root current with
  | nil => rfl
  | cons said sections ih =>
      cases sections with
      | nil => simp
      | cons next sections =>
          rw [List.intercalate_cons_cons, List.flatten_cons, List.append_assoc]
          have same (root : Node) (current : List String) :
              build root current ([.blank] ++ [.blank].intercalate (next :: sections)) =
                build root current (next :: sections).flatten := ih root current
          exact build_congr same said root current

end DatasetSync.Toml
