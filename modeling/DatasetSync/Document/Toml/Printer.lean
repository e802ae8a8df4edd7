import DatasetSync.Document.Tree
import DatasetSync.Text.Digits

/-!
# Writing TOML

The plain values of a table stand under its header in the order of the document, and tables and
lists of tables follow under headers of their own.  Absent values are left out.  A string is written
in the first form that can hold it, from the plainest on.
-/

namespace DatasetSync.Toml

/-! ## Strings -/

/-- A character that can only be written as an escape. -/
def isControl (c : Char) : Bool :=
  (c.toNat < 0x20 || c.toNat == 0x7f) && c != '\t'

/-- The quote occurs three times in a row. -/
def hasTriple (quote : Char) : List Char → Bool
  | first :: second :: third :: rest =>
      (first == quote && second == quote && third == quote) ||
        hasTriple quote (second :: third :: rest)
  | _ => false

/-- The text needs no escape between double quotes. -/
def fitsBasic (text : List Char) : Bool :=
  text.all fun c => !isControl c && c != '\\' && c != '"'

def fitsLiteral (text : List Char) : Bool :=
  text.all fun c => !isControl c && c != '\''

/-- The text needs no escape between three double quotes. -/
def fitsMultilineBasic (text : List Char) : Bool :=
  text.all (fun c => (!isControl c || c == '\n') && c != '\\') && !hasTriple '"' text

def fitsMultilineLiteral (text : List Char) : Bool :=
  text.all (fun c => !isControl c || c == '\n') && !hasTriple '\'' text

/-- A number in base sixteen to four digits, with capital letters. -/
def codePoint (number : Nat) : List Char :=
  let digits := (Nat.toDigits 16 number).map Char.toUpper
  List.replicate (4 - digits.length) '0' ++ digits

/-- A character that is neither a quote nor a newline, inside double quotes. -/
def escaped (c : Char) : List Char :=
  if c = '\t' then ['\\', 't']
  else if c = '\x08' then ['\\', 'b']
  else if c = '\x0c' then ['\\', 'f']
  else if c = '\r' then ['\\', 'r']
  else if c = '\\' then ['\\', '\\']
  else if isControl c then ['\\', 'u'] ++ codePoint c.toNat
  else [c]

def basicContent : List Char → List Char
  | [] => []
  | c :: rest =>
      (if c = '"' then ['\\', '"'] else if c = '\n' then ['\\', 'n'] else escaped c) ++
        basicContent rest

/-- A text between three double quotes; `quotes` of them came just before without an escape. -/
def multilineContent (quotes : Nat) : List Char → List Char
  | [] => []
  | c :: rest =>
      if c = '"' then
        if quotes < 2 then c :: multilineContent (quotes + 1) rest
        else ['\\', '"'] ++ multilineContent 0 rest
      else if c = '\n' then
        c :: multilineContent 0 rest
      else
        escaped c ++ multilineContent 0 rest

/-- Content between marks; a text of several lines starts on a line of its own. -/
def delimited (mark : String) (text content : List Char) : List Char :=
  let start := if 1 < mark.length && text.contains '\n' then ['\n'] else []
  mark.toList ++ start ++ content ++ mark.toList

/-- A string in the first form that can hold it. -/
def quotedChars (text : List Char) : List Char :=
  if fitsBasic text then delimited "\"" text (basicContent text)
  else if fitsLiteral text then delimited "'" text text
  else if fitsMultilineBasic text then delimited "\"\"\"" text (multilineContent 0 text)
  else if fitsMultilineLiteral text then delimited "'''" text text
  else if text.contains '\n' then delimited "\"\"\"" text (multilineContent 0 text)
  else delimited "\"" text (basicContent text)

def quoted (text : String) : String :=
  String.ofList (quotedChars text.toList)

/-! ## Plain values -/

def isBareName (name : String) : Bool :=
  !name.isEmpty &&
    name.toList.all fun c => c.isAlphanum || c == '_' || c == '-'

def nameText (name : String) : String :=
  if isBareName name then name else quoted name

def integerText (value : Int) : Except Problem String :=
  if -0x8000000000000000 ≤ value ∧ value < 0x8000000000000000 then .ok (toString value)
  else .error .outOfRange

/-- The items of a list: two or more stand on lines of their own. -/
def listText : List String → String
  | [] => "[]"
  | [item] => "[" ++ item ++ "]"
  | items => "[\n" ++ String.join (items.map fun item => "    " ++ item ++ ",\n") ++ "]"

def inlineText : List String → String
  | [] => "\x7b\x7d"
  | entries => "\x7b " ++ ", ".intercalate entries ++ " \x7d"

mutual

/-- A value that stands in one place. -/
def plain : Tree → Except Problem String
  | .null | .foreign => .error (.expected "a value the format can hold")
  | .bool value => .ok (toString value)
  | .integer value => integerText value
  | .text value => .ok (quoted value)
  | .list items => (plainItems items).map listText
  | .table entries => (plainEntries entries).map inlineText

def plainItems : List Tree → Except Problem (List String)
  | [] => .ok []
  | item :: rest => do
      let item ← plain item
      return item :: (← plainItems rest)

def plainEntries : List (String × Tree) → Except Problem (List String)
  | [] => .ok []
  | (name, value) :: rest => do
      let value ← plain value
      return (nameText name ++ " = " ++ value) :: (← plainEntries rest)

end

/-! ## Tables under headers -/

def isTable : Tree → Bool
  | .table _ => true
  | _ => false

/-- The value has headers of its own: a table, or a list of one or more tables. -/
def hasHeader : Tree → Bool
  | .table _ => true
  | .list items => !items.isEmpty && items.all isTable
  | _ => false

def plainLines : List (String × Tree) → Except Problem String
  | [] => .ok ""
  | (_, .null) :: rest => plainLines rest
  | (name, value) :: rest =>
      if hasHeader value then plainLines rest
      else do
        let value ← plain value
        return nameText name ++ " = " ++ value ++ "\n" ++ (← plainLines rest)

def pathText (path : List String) : String :=
  ".".intercalate (path.map nameText)

mutual

/-- The sections of a value with headers: the header of a table and what stands under it. -/
def sections (path : List String) (repeated : Bool) : Tree → Except Problem (List String)
  | .table entries => do
      let name := pathText path
      let header := if repeated then "[[" ++ name ++ "]]\n" else "[" ++ name ++ "]\n"
      let lines ← plainLines entries
      return (header ++ lines) :: (← entrySections path entries)
  | .list items => itemSections path items
  | _ => .ok []

def itemSections (path : List String) : List Tree → Except Problem (List String)
  | [] => .ok []
  | item :: rest => do
      let first ← sections path true item
      return first ++ (← itemSections path rest)

def entrySections (path : List String) : List (String × Tree) → Except Problem (List String)
  | [] => .ok []
  | (name, value) :: rest => do
      let first ← if hasHeader value then sections (path ++ [name]) false value else .ok []
      return first ++ (← entrySections path rest)

end

/-- The text of a document, which is a table; a blank line stands between two sections. -/
def print : Tree → Except Problem String
  | .table entries => do
      let lines ← plainLines entries
      let rest ← entrySections [] entries
      return "\n".intercalate (if lines.isEmpty then rest else lines :: rest)
  | _ => .error (.expected "a table")

end DatasetSync.Toml
