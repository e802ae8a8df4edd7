import DatasetSync.Document.Tree
import DatasetSync.Text.Digits

/-!
# Writing JSON

Compact text without any blanks, and indented text with one item a line.  Only quotes, backslashes
and control characters are escaped.
-/

namespace DatasetSync.Json

def hexDigit (value : Nat) : Char :=
  Nat.digitChar value

def character (c : Char) : String :=
  match c with
  | '"' => "\\\""
  | '\\' => "\\\\"
  | '\n' => "\\n"
  | '\r' => "\\r"
  | '\t' => "\\t"
  | '\x08' => "\\b"
  | '\x0c' => "\\f"
  | _ =>
      if c.toNat < 0x20 then
        "\\u00" ++ String.ofList [hexDigit (c.toNat / 16), hexDigit (c.toNat % 16)]
      else
        String.singleton c

def string (text : String) : String :=
  "\"" ++ String.join (text.toList.map character) ++ "\""

mutual

def compact : Tree → String
  | .null | .foreign => "null"
  | .bool value => toString value
  | .integer value => toString value
  | .text value => string value
  | .list items => "[" ++ ",".intercalate (compactItems items) ++ "]"
  | .table entries => "\x7b" ++ ",".intercalate (compactEntries entries) ++ "\x7d"

def compactItems : List Tree → List String
  | [] => []
  | item :: rest => compact item :: compactItems rest

def compactEntries : List (String × Tree) → List String
  | [] => []
  | (name, value) :: rest => (string name ++ ":" ++ compact value) :: compactEntries rest

end

def indent (depth : Nat) : String :=
  String.ofList (List.replicate (2 * depth) ' ')

/-- Lines between two marks, each with the blanks of its depth; nothing between means one line. -/
def block (opening closing : String) (depth : Nat) (lines : List String) : String :=
  if lines.isEmpty then opening ++ closing
  else
    opening ++ "\n" ++ ",\n".intercalate (lines.map (indent (depth + 1) ++ ·)) ++ "\n" ++
      indent depth ++ closing

mutual

def indented (depth : Nat) : Tree → String
  | .null | .foreign => "null"
  | .bool value => toString value
  | .integer value => toString value
  | .text value => string value
  | .list items => block "[" "]" depth (indentedItems (depth + 1) items)
  | .table entries => block "\x7b" "\x7d" depth (indentedEntries (depth + 1) entries)

def indentedItems (depth : Nat) : List Tree → List String
  | [] => []
  | item :: rest => indented depth item :: indentedItems depth rest

def indentedEntries (depth : Nat) : List (String × Tree) → List String
  | [] => []
  | (name, value) :: rest =>
      (string name ++ ": " ++ indented depth value) :: indentedEntries depth rest

end

def pretty (tree : Tree) : String :=
  indented 0 tree

end DatasetSync.Json
