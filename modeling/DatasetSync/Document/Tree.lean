/-!
# Documents

A document is a tree of named values, whatever text it is written in.  Two formats are known.
-/

namespace DatasetSync

/-- A tree of named values. -/
inductive Tree where
  | null
  | bool (value : Bool)
  | integer (value : Int)
  /-- A value of a kind that no document of this library uses, such as a number with a fraction. -/
  | foreign
  | text (value : String)
  | list (items : List Tree)
  /-- Entries in the order they were written; a name may occur again. -/
  | table (entries : List (String × Tree))
  deriving Repr, Inhabited

inductive Format where
  | toml
  | json
  deriving DecidableEq, Repr, Inhabited

namespace Format

def name : Format → String
  | .toml => "Toml"
  | .json => "Json"

/--
A tree that stands for nothing in particular, where only the name in front of it counts.  One format
has a word for that, the other uses something empty.
-/
def isNothing : Format → Tree → Bool
  | .json, .null => true
  | .toml, .list items => items.isEmpty
  | .toml, .table entries => entries.isEmpty
  | _, _ => false

/-- The list of a record's fields may go on after the last field. -/
def toleratesSurplus : Format → Bool
  | .toml => true
  | .json => false

end Format

/-- Why a text is not a document, or a document not of the expected shape. -/
inductive Problem where
  | malformed (format : Format)
  | expected (what : String)
  | unknownVariant (word : String)
  | missingField (name : String)
  | repeatedField (name : String)
  | surplusItems
  | outOfRange
  deriving DecidableEq, Repr, Inhabited

namespace Problem

def message : Problem → String
  | .malformed format => s!"not a well-formed {format.name} text"
  | .expected what => s!"expected {what}"
  | .unknownVariant word => s!"unknown variant '{word}'"
  | .missingField name => s!"missing field '{name}'"
  | .repeatedField name => s!"duplicate field '{name}'"
  | .surplusItems => "too many items"
  | .outOfRange => "number out of range"

end Problem

end DatasetSync
