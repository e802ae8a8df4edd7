import DatasetSync.Document.Tree
import DatasetSync.Text.Digits
import DatasetSync.Text.Reader

/-!
# Reading JSON

The text format of RFC 8259, without any extension.  An integer is a number without fraction and
exponent; minus zero is none.  A string that holds half of a surrogate pair, and a table with such a
name in it, can be skipped but not used.
-/

namespace DatasetSync.Json

open Text

/-- A part of a string: a character, or a 16-bit unit that was written as a number. -/
inductive Piece where
  | char (value : Char)
  | unit (value : Nat)
  deriving DecidableEq, Repr, Inhabited

def isSpace (c : Char) : Bool :=
  c == ' ' || c == '\t' || c == '\n' || c == '\r'

def spaces : Reader Unit := do
  let _ ← Reader.takeWhile isSpace

/-- A character that stands for itself in a string. -/
def isPlain (c : Char) : Bool :=
  c != '"' && c != '\\' && 0x20 ≤ c.toNat

/-- The unit after `\u`: four digits in base sixteen. -/
def unit : Reader Piece := do
  let a ← Reader.satisfy isHexadecimal
  let b ← Reader.satisfy isHexadecimal
  let c ← Reader.satisfy isHexadecimal
  let d ← Reader.satisfy isHexadecimal
  return .unit (numberFrom 16 [a, b, c, d])

def escape : Reader Piece := do
  match ← Reader.any with
  | '"' => return .char '"'
  | '\\' => return .char '\\'
  | '/' => return .char '/'
  | 'b' => return .char '\x08'
  | 'f' => return .char '\x0c'
  | 'n' => return .char '\n'
  | 'r' => return .char '\r'
  | 't' => return .char '\t'
  | 'u' => unit
  | _ => failure

def piece : Reader Piece :=
  (do Reader.char '\\'; escape) <|> (do return .char (← Reader.satisfy isPlain))

def isHigh (value : Nat) : Bool :=
  0xd800 ≤ value && value < 0xdc00

def isLow (value : Nat) : Bool :=
  0xdc00 ≤ value && value < 0xe000

/-- The characters that parts make up, if every unit of a pair has its other half. -/
def assemble? : List Piece → Option (List Char)
  | [] => some []
  | .char c :: rest => (assemble? rest).map (c :: ·)
  | .unit high :: .unit low :: rest =>
      if isHigh high then
        if isLow low then
          let code := 0x10000 + (high - 0xd800) * 0x400 + (low - 0xdc00)
          (assemble? rest).map (Char.ofNat code :: ·)
        else
          none
      else if isLow high then none
      else (assemble? (.unit low :: rest)).map (Char.ofNat high :: ·)
  | .unit value :: rest =>
      if isHigh value || isLow value then none
      else (assemble? rest).map (Char.ofNat value :: ·)

def pieces : Reader (List Piece) := do
  Reader.char '"'
  let parts ← Reader.many piece
  Reader.char '"'
  return parts

def stringValue : Reader Tree := do
  match assemble? (← pieces) with
  | some characters => return .text (String.ofList characters)
  | none => return .foreign

/-- A string as a name; none if it holds half of a pair. -/
def name : Reader (Option String) := do
  return (assemble? (← pieces)).map String.ofList

def digits : Reader (List Char) := do
  match ← Reader.takeWhile1 isDecimal with
  | '0' :: _ :: _ => failure
  | taken => return taken

def fraction : Reader Unit := do
  Reader.char '.'
  let _ ← Reader.takeWhile1 isDecimal

def exponent : Reader Unit := do
  let _ ← Reader.satisfy fun c => c == 'e' || c == 'E'
  let _ ← Reader.optional (Reader.satisfy fun c => c == '+' || c == '-')
  let _ ← Reader.takeWhile1 isDecimal

def number : Reader Tree := do
  let minus ← Reader.optional (Reader.char '-')
  let whole := numberFrom 10 (← digits)
  let part ← Reader.optional fraction
  let power ← Reader.optional exponent
  if part.isSome || power.isSome then return .foreign
  else if minus.isNone then return .integer whole
  else if whole = 0 then return .foreign
  else return .integer (-whole)

/-- Items with commas between them and blanks around them. -/
def commaSeparated {α : Type} (item : Reader α) : Reader (List α) :=
  Reader.sepBy1 (do let value ← item; spaces; return value) (do Reader.char ','; spaces)

def bracketed {α : Type} (opening closing : Char) (item : Reader α) : Reader (List α) := do
  Reader.char opening
  spaces
  let items ← Reader.optional (commaSeparated item)
  Reader.char closing
  return items.getD []

def entry (value : Reader Tree) : Reader (Option (String × Tree)) := do
  let label ← name
  spaces
  Reader.char ':'
  spaces
  let tree ← value
  return label.map (·, tree)

/-- The table with these entries, if all of their names can be used. -/
def table (entries : List (Option (String × Tree))) : Tree :=
  match entries.mapM id with
  | some entries => .table entries
  | none => .foreign

/-- A value in which others are nested at most `depth` times. -/
def value : (depth : Nat) → Reader Tree
  | 0 => failure
  | depth + 1 => do
      match ← Reader.peek? with
      | some '"' => stringValue
      | some '[' => return .list (← bracketed '[' ']' (value depth))
      | some '\x7b' => return table (← bracketed '\x7b' '\x7d' (entry (value depth)))
      | some 't' => Reader.word "true"; return .bool true
      | some 'f' => Reader.word "false"; return .bool false
      | some 'n' => Reader.word "null"; return .null
      | _ => number

def document (depth : Nat) : Reader Tree := do
  spaces
  let tree ← value depth
  spaces
  Reader.finish
  return tree

/-- Read a document.  Nesting never goes deeper than the text is long. -/
def parse (text : String) : Except Problem Tree :=
  match (document (text.length + 1)).run? text with
  | some tree => .ok tree
  | none => .error (.malformed .json)

end DatasetSync.Json
