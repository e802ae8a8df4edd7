import DatasetSync.Config.Codec
import DatasetSync.Proofs.Document.Json
import DatasetSync.Proofs.Document.Toml.Pages

/-!
# Documents with parts left out

Any set of entries may be taken out of a document, at any depth.  What is left can still be written
and read back, and a field that was taken out reads as its default while the other fields read as
before.
-/

namespace DatasetSync

/-! ## Taking entries out -/

/-- One step from a tree to a tree in it. -/
inductive Crumb where
  | key (name : String)
  | item (index : Nat)
  deriving DecidableEq, Repr

/-- A set of places in a tree, each given by the steps that lead to it. -/
abbrev Removal := List Crumb → Bool

namespace Removal

def nothing : Removal := fun _ => false

def drops (removed : Removal) (name : String) : Bool :=
  removed [.key name]

def under (removed : Removal) (crumb : Crumb) : Removal := fun path =>
  removed (crumb :: path)

end Removal

namespace Tree

mutual

def prune (removed : Removal) : Tree → Tree
  | .list items => .list (pruneItems removed 0 items)
  | .table entries => .table (pruneEntries removed entries)
  | tree => tree

def pruneItems (removed : Removal) (index : Nat) : List Tree → List Tree
  | [] => []
  | item :: rest =>
      prune (removed.under (.item index)) item :: pruneItems removed (index + 1) rest

def pruneEntries (removed : Removal) : List (String × Tree) → List (String × Tree)
  | [] => []
  | (name, tree) :: rest =>
      if removed.drops name then pruneEntries removed rest
      else (name, prune (removed.under (.key name)) tree) :: pruneEntries removed rest

end

theorem pruneItems_eq (removed : Removal) (index : Nat) (items : List Tree) :
    pruneItems removed index items =
      items.mapIdx fun place item => prune (removed.under (.item (index + place))) item := by
  induction items generalizing index with
  | nil => rfl
  | cons item items ih =>
      rw [pruneItems, ih, List.mapIdx_cons]
      simp only [Nat.add_assoc, Nat.add_comm 1, Nat.add_zero]

section Entries

variable (removed : Removal) {entries : List (String × Tree)}

theorem lookup_pruneEntries (name : String) :
    (pruneEntries removed entries).lookup name =
      if removed.drops name then none
      else (entries.lookup name).map (prune (removed.under (.key name))) := by
  induction entries with
  | nil => simp [pruneEntries]
  | cons entry entries ih =>
      obtain ⟨other, tree⟩ := entry
      rw [pruneEntries]
      by_cases same : name = other
      · subst same
        cases dropped : removed.drops name with
        | true => simpa [dropped] using ih
        | false => simp
      · have apart : (name == other) = false := beq_eq_false_iff_ne.mpr same
        split <;> simp only [List.lookup_cons, apart, ih]

theorem map_fst_pruneEntries :
    ((pruneEntries removed entries).map Prod.fst).Sublist (entries.map Prod.fst) := by
  induction entries with
  | nil => exact .slnil
  | cons entry entries ih =>
      obtain ⟨name, tree⟩ := entry
      rw [pruneEntries]
      split
      · exact ih.cons _
      · exact ih.cons_cons _

theorem mem_pruneEntries {entry : String × Tree} (member : entry ∈ pruneEntries removed entries) :
    ∃ tree, (entry.1, tree) ∈ entries ∧ entry.2 = prune (removed.under (.key entry.1)) tree := by
  induction entries with
  | nil => cases member
  | cons first entries ih =>
      obtain ⟨name, tree⟩ := first
      rw [pruneEntries] at member
      have later (member : entry ∈ pruneEntries removed entries) :
          ∃ tree', (entry.1, tree') ∈ (name, tree) :: entries ∧
            entry.2 = prune (removed.under (.key entry.1)) tree' := by
        obtain ⟨tree', there, same⟩ := ih member
        exact ⟨tree', List.mem_cons_of_mem _ there, same⟩
      split at member
      · exact later member
      · rcases List.mem_cons.mp member with rfl | member
        · exact ⟨tree, List.mem_cons_self, rfl⟩
        · exact later member

end Entries

theorem mem_pruneItems {removed : Removal} {items : List Tree} {item : Tree}
    (member : item ∈ pruneItems removed 0 items) :
    ∃ place tree, tree ∈ items ∧ item = prune (removed.under (.item place)) tree := by
  rw [pruneItems_eq] at member
  obtain ⟨place, there, rfl⟩ := List.mem_mapIdx.mp member
  exact ⟨0 + place, items[place], List.getElem_mem there, rfl⟩

theorem prune_nothing {tree : Tree} (native : tree.Native) : tree.prune .nothing = tree := by
  induction native with
  | null => rfl
  | bool value => rfl
  | integer value => rfl
  | text value => rfl
  | @list items each ih =>
      have same (index : Nat) : pruneItems .nothing index items = items := by
        clear each
        induction items generalizing index with
        | nil => rfl
        | cons item items rest =>
            have first : item.prune (Removal.nothing.under (.item index)) = item :=
              ih item List.mem_cons_self
            rw [pruneItems, first,
              rest fun other member => ih other (List.mem_cons_of_mem _ member)]
      rw [prune, same]
  | @table entries each ih =>
      have same : pruneEntries .nothing entries = entries := by
        clear each
        induction entries with
        | nil => rfl
        | cons entry entries rest =>
            obtain ⟨name, tree⟩ := entry
            have stays : ¬ Removal.nothing.drops name = true := Bool.false_ne_true
            have first : tree.prune (Removal.nothing.under (.key name)) = tree :=
              ih (name, tree) List.mem_cons_self
            rw [pruneEntries, if_neg stays, first,
              rest fun other member => ih other (List.mem_cons_of_mem _ member)]
      rw [prune, same]

theorem prune_ne_null {tree : Tree} (present : tree ≠ .null) (removed : Removal) :
    tree.prune removed ≠ .null := by
  cases tree with
  | null => exact (present rfl).elim
  | list items =>
      rw [prune]
      exact nofun
  | table entries =>
      rw [prune]
      exact nofun
  | _ => exact nofun

end Tree

namespace Toml

theorem Plain.prune {room : Int → Prop} {depth : Nat} {tree : Tree}
    (fits : Plain room depth tree) (removed : Removal) : Plain room depth (tree.prune removed) := by
  induction fits generalizing removed with
  | bool depth value => exact .bool depth value
  | integer depth fits => exact .integer depth fits
  | text depth value => exact .text depth value
  | list each ih =>
      rw [Tree.prune]
      refine .list fun item member => ?_
      obtain ⟨place, tree, there, rfl⟩ := Tree.mem_pruneItems member
      exact ih tree there _

theorem isTable_prune (tree : Tree) (removed : Removal) :
    isTable (tree.prune removed) = isTable tree := by
  cases tree <;> rfl

theorem Named.prune {entries : List (String × Tree)} (named : Named entries) (removed : Removal) :
    Named (Tree.pruneEntries removed entries) := by
  constructor
  · intro entry member
    obtain ⟨tree, there, _⟩ := Tree.mem_pruneEntries removed member
    exact named.bare (entry.1, tree) there
  · exact named.distinct.sublist (Tree.map_fst_pruneEntries removed)

theorem Writable.prune {room : Int → Prop} {depth : Nat} {tree : Tree}
    (writable : Writable room depth tree) (removed : Removal) :
    Writable room depth (tree.prune removed) := by
  induction writable generalizing removed with
  | null depth => exact .null depth
  | plain depth fits => exact .plain depth (fits.prune removed)
  | table named each ih =>
      rw [Tree.prune]
      refine .table (named.prune removed) fun entry member => ?_
      obtain ⟨tree, there, same⟩ := Tree.mem_pruneEntries removed member
      rw [same]
      exact ih _ there _
  | @tables depth items something tables each ih =>
      rw [Tree.prune]
      refine .tables ?_ ?_ fun item member => ?_
      · obtain ⟨item, items, rfl⟩ := List.exists_cons_of_ne_nil something
        exact List.cons_ne_nil _ _
      · refine List.all_eq_true.mpr fun item member => ?_
        obtain ⟨place, tree, there, rfl⟩ := Tree.mem_pruneItems member
        rw [isTable_prune]
        exact List.all_eq_true.mp tables tree there
      · obtain ⟨place, tree, there, rfl⟩ := Tree.mem_pruneItems member
        exact ih tree there _

theorem Plain.native {room : Int → Prop} {depth : Nat} {tree : Tree}
    (fits : Plain room depth tree) : tree.Native := by
  induction fits with
  | bool depth value => exact .bool value
  | @integer depth value fits => exact .integer value
  | text depth value => exact .text value
  | list each ih => exact .list ih

/-- What can be written in this format holds nothing foreign. -/
theorem Writable.native {room : Int → Prop} {depth : Nat} {tree : Tree}
    (writable : Writable room depth tree) : tree.Native := by
  induction writable with
  | null depth => exact .null
  | plain depth fits => exact fits.native
  | table named each ih => exact .table ih
  | tables something tables each ih => exact .list ih

/-! ## What a text keeps -/

/-- What a text keeps of a value in a table. -/
def present? : Tree → Option Tree
  | .null => none
  | tree => some (kept tree)

theorem present?_of_ne {tree : Tree} (present : tree ≠ .null) :
    present? tree = some (kept tree) := by
  cases tree with
  | null => exact (present rfl).elim
  | _ => rfl

section Kept

variable {entries : List (String × Tree)}

theorem lookup_keptWhere (distinct : (entries.map Prod.fst).Nodup) (titled : Bool)
    (name : String) :
    (keptWhere titled entries).lookup name =
      (entries.lookup name).bind fun tree =>
        if hasHeader tree = titled then present? tree else none := by
  induction entries with
  | nil => rfl
  | cons entry entries ih =>
      obtain ⟨other, tree⟩ := entry
      have rest := ih (List.nodup_cons.mp distinct).2
      by_cases same : name = other
      · subst same
        have none_later : entries.lookup name = none :=
          List.lookup_eq_none_iff.mpr fun entry member =>
            bne_iff_ne.mpr (names_apart distinct entry member).symm
        rw [none_later] at rest
        rw [List.lookup_cons_self, Option.bind_some]
        by_cases absent : tree = .null
        · rw [absent, keptWhere_null, rest]
          split <;> rfl
        · rw [keptWhere_cons name entries absent, present?_of_ne absent]
          split
          · exact List.lookup_cons_self
          · exact rest
      · have apart : (name == other) = false := beq_eq_false_iff_ne.mpr same
        have later : ((other, tree) :: entries).lookup name = entries.lookup name := by
          rw [List.lookup_cons, apart]
        rw [later, ← rest]
        by_cases absent : tree = .null
        · rw [absent, keptWhere_null]
        · rw [keptWhere_cons other entries absent]
          split
          · rw [List.lookup_cons, apart]
          · rfl

theorem lookup_kept (distinct : (entries.map Prod.fst).Nodup) (name : String) :
    (keptWhere false entries ++ keptWhere true entries).lookup name =
      (entries.lookup name).bind present? := by
  rw [List.lookup_append, lookup_keptWhere distinct, lookup_keptWhere distinct]
  cases entries.lookup name with
  | none => rfl
  | some tree => cases titled : hasHeader tree <;> simp [titled]

/-- No name occurs more often than before. -/
theorem countP_keptWhere (test : String → Bool) (entries : List (String × Tree)) :
    (keptWhere false entries).countP (fun entry => test entry.1) +
        (keptWhere true entries).countP (fun entry => test entry.1) ≤
      entries.countP fun entry => test entry.1 := by
  induction entries with
  | nil => exact Nat.le_refl _
  | cons entry entries ih =>
      obtain ⟨name, tree⟩ := entry
      rw [List.countP_cons]
      by_cases absent : tree = .null
      · rw [absent, keptWhere_null, keptWhere_null]
        omega
      · rw [keptWhere_cons name entries absent, keptWhere_cons name entries absent]
        cases hasHeader tree with
        | false =>
            rw [if_pos rfl, if_neg (by decide), List.countP_cons]
            dsimp only
            omega
        | true =>
            rw [if_neg (by decide), if_pos rfl, List.countP_cons]
            dsimp only
            omega

end Kept

end Toml

/-! ## Reading what is left -/

namespace Format

/-- What a text of the format keeps of a tree. -/
def retained : Format → Tree → Tree
  | .toml, tree => Toml.kept tree
  | .json, tree => tree

def retainedEntries : Format → List (String × Tree) → List (String × Tree)
  | .toml, entries => Toml.keptWhere false entries ++ Toml.keptWhere true entries
  | .json, entries => entries

def present? : Format → Tree → Option Tree
  | .toml, tree => Toml.present? tree
  | .json, tree => some tree

variable (format : Format)

theorem retained_table (entries : List (String × Tree)) :
    format.retained (.table entries) = .table (format.retainedEntries entries) := by
  cases format with
  | toml => rw [retained, Toml.kept, retainedEntries]
  | json => rfl

theorem retained_list (items : List Tree) :
    format.retained (.list items) = .list (items.map format.retained) := by
  cases format with
  | toml =>
      rw [retained, Toml.kept, Toml.keptItems_eq]
      rfl
  | json => exact congrArg Tree.list (List.map_id items).symm

theorem present?_of_ne {tree : Tree} (present : tree ≠ .null) :
    format.present? tree = some (format.retained tree) := by
  cases format with
  | toml => exact Toml.present?_of_ne present
  | json => rfl

variable {entries : List (String × Tree)}

theorem lookup_retainedEntries (distinct : (entries.map Prod.fst).Nodup) (name : String) :
    (format.retainedEntries entries).lookup name =
      (entries.lookup name).bind format.present? := by
  cases format with
  | toml => exact Toml.lookup_kept distinct name
  | json => cases there : entries.lookup name <;> simp [retainedEntries, there, present?]

theorem countP_retainedEntries (distinct : (entries.map Prod.fst).Nodup) (name : String) :
    (format.retainedEntries entries).countP (·.1 == name) ≤ 1 := by
  have once : entries.countP (·.1 == name) ≤ 1 := by
    have counted := List.nodup_iff_count_le_one.mp distinct name
    rwa [List.count_eq_countP, List.countP_map] at counted
  cases format with
  | toml =>
      rw [retainedEntries, List.countP_append]
      exact Nat.le_trans (Toml.countP_keptWhere (· == name) entries) once
  | json => exact once

end Format

namespace Decode

theorem checkOnce_eq {entries : Fields} (once : ∀ name, entries.countP (·.1 == name) ≤ 1)
    (names : List String) : checkOnce entries names = .ok () := by
  induction names with
  | nil => rfl
  | cons name names ih => rw [checkOnce, if_neg (Nat.not_lt.mpr (once name)), ih]

/-- The fields of a record that are left, as a text of the format gives them. -/
def left (format : Format) (removed : Removal) (entries : List (String × Tree)) : Fields :=
  format.retainedEntries (Tree.pruneEntries removed entries)

section Left

variable (format : Format) (removed : Removal) {entries : List (String × Tree)}
  (distinct : (entries.map Prod.fst).Nodup)

include distinct

theorem fields_left (names : List String) :
    fields format names (format.retained ((Tree.table entries).prune removed)) =
      .ok (left format removed entries) := by
  have fewer := distinct.sublist (Tree.map_fst_pruneEntries removed)
  rw [Tree.prune, Format.retained_table, fields,
    checkOnce_eq (format.countP_retainedEntries fewer)]
  rfl

theorem lookup_left (name : String) :
    (left format removed entries).lookup name =
      if removed.drops name then none
      else (entries.lookup name).bind fun tree =>
        format.present? (tree.prune (removed.under (.key name))) := by
  have fewer := distinct.sublist (Tree.map_fst_pruneEntries removed)
  rw [left, Format.lookup_retainedEntries format fewer, Tree.lookup_pruneEntries]
  split
  · rfl
  · rw [Option.bind_map]
    rfl

variable {α : Type} {name : String} {tree : Tree} {decode : Tree → Except Problem α} {value : α}

/-- A field reads as its default if it was taken out, and as its value otherwise. -/
theorem field_left
    (reads : decode (format.retained (tree.prune (removed.under (.key name)))) = .ok value)
    (there : entries.lookup name = some tree) (present : tree ≠ .null) (default : α) :
    field (left format removed entries) name decode default =
      .ok (if removed.drops name then default else value) := by
  rw [field, lookup_left format removed distinct]
  cases removed.drops name with
  | true => rfl
  | false =>
      rw [if_neg Bool.false_ne_true, there, Option.bind_some,
        format.present?_of_ne (Tree.prune_ne_null present _)]
      exact reads

theorem required_left
    (reads : decode (format.retained (tree.prune (removed.under (.key name)))) = .ok value)
    (there : entries.lookup name = some tree) (present : tree ≠ .null)
    (stays : removed.drops name = false) :
    required (left format removed entries) name decode = .ok value := by
  rw [required, lookup_left format removed distinct, stays, if_neg Bool.false_ne_true, there,
    Option.bind_some, format.present?_of_ne (Tree.prune_ne_null present _)]
  exact reads

/-- A text that may be absent is absent if it was taken out, and as before otherwise. -/
theorem field_option_left {given : Option String}
    (there : entries.lookup name = some ((given.map Tree.text).getD .null)) :
    field (left format removed entries) name (option text) none =
      .ok (if removed.drops name then none else given) := by
  cases given with
  | some content =>
      refine field_left format removed distinct ?_ there nofun none
      cases format <;> rfl
  | none =>
      rw [field, lookup_left format removed distinct]
      cases removed.drops name with
      | true => rfl
      | false =>
          rw [if_neg Bool.false_ne_true, there]
          cases format <;> rfl

end Left

end Decode

end DatasetSync
