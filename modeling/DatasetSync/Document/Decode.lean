import DatasetSync.Document.Tree

/-!
# Reading values out of documents

A record is written as a table or as the list of its fields in order.  Fields that are left out take
their defaults; fields that are unknown do not matter; a field may not be given twice.  The formats
differ in whether a list may go on after the last field.
-/

namespace DatasetSync.Decode

variable {α : Type}

/-- The greatest number that fits into 64 bits, plus one. -/
def wordLimit : Nat := UInt64.size

def text : Tree → Except Problem String
  | .text value => .ok value
  | _ => .error (.expected "a string")

def bool : Tree → Except Problem Bool
  | .bool value => .ok value
  | _ => .error (.expected "a boolean")

def word : Tree → Except Problem Nat
  | .integer value =>
      if 0 ≤ value ∧ value < wordLimit then .ok value.toNat else .error .outOfRange
  | _ => .error (.expected "an integer")

def option (decode : Tree → Except Problem α) : Tree → Except Problem (Option α)
  | .null => .ok none
  | tree => (decode tree).map some

def list (decode : Tree → Except Problem α) : Tree → Except Problem (List α)
  | .list items => items.mapM decode
  | _ => .error (.expected "a list")

/-- The word of a variant: alone, or as the name of nothing in particular. -/
def variantWord (format : Format) : Tree → Except Problem String
  | .text word => .ok word
  | .table [(word, nothing)] =>
      if format.isNothing nothing then .ok word else .error (.expected "a variant")
  | _ => .error (.expected "a variant")

def variant (format : Format) (find? : String → Option α) (tree : Tree) : Except Problem α := do
  let word ← variantWord format tree
  match find? word with
  | some value => return value
  | none => throw (.unknownVariant word)

abbrev Fields := List (String × Tree)

def checkOnce (entries : Fields) : List String → Except Problem Unit
  | [] => .ok ()
  | name :: rest =>
      if 1 < entries.countP (·.1 == name) then .error (.repeatedField name)
      else checkOnce entries rest

def fields (format : Format) (names : List String) : Tree → Except Problem Fields
  | .table entries => (checkOnce entries names).map fun _ => entries
  | .list items =>
      if names.length < items.length && !format.toleratesSurplus then .error .surplusItems
      else .ok (names.zip items)
  | _ => .error (.expected "a table")

/-- A field that takes a default when it is left out. -/
def field (given : Fields) (name : String) (decode : Tree → Except Problem α) (default : α) :
    Except Problem α :=
  match given.lookup name with
  | some tree => decode tree
  | none => .ok default

/-- A field that has to be given. -/
def required (given : Fields) (name : String) (decode : Tree → Except Problem α) :
    Except Problem α :=
  match given.lookup name with
  | some tree => decode tree
  | none => .error (.missingField name)

end DatasetSync.Decode
