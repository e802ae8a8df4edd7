import DatasetSync.Calendar
import DatasetSync.Document.Toml.Node
import DatasetSync.Text.Reader

/-!
# Reading TOML

Version 1.0 of the format.  Integers have 64 bits and a sign, values are nested less than eighty
times, and a dotted name has less than eighty parts.  Points in time are recognised, but no document
of this library uses them: they read as a table with one name that nobody asks for.
-/

namespace DatasetSync.Toml

open Text

/-! ## Blanks, comments and lines -/

def isSpace (c : Char) : Bool :=
  c == ' ' || c == '\t'

def spaces : Reader Unit := do
  let _ ← Reader.takeWhile isSpace

def newline : Reader Unit :=
  Reader.char '\n' <|> Reader.word "\r\n"

/-- A character that needs no escape, apart from quotes and backslashes. -/
def isPlain (c : Char) : Bool :=
  c == '\t' || (0x20 ≤ c.toNat && c.toNat != 0x7f)

def comment : Reader Unit := do
  Reader.char '#'
  let _ ← Reader.takeWhile isPlain

def lineEnd : Reader Unit := do
  spaces
  let _ ← Reader.optional comment
  newline <|> Reader.finish

/-- Blanks, comments and line ends inside a list. -/
def gap : Reader Unit := do
  spaces
  let _ ← Reader.many (do let _ ← Reader.optional comment; newline; spaces)

/-! ## Strings -/

/-- A character given by its number in base sixteen, with a fixed number of digits. -/
def numbered (width : Nat) : Reader Char := fun text =>
  let digits := text.take width
  let code := numberFrom 16 digits
  if digits.length = width ∧ digits.all isHexadecimal ∧ code.isValidChar then
    some (Char.ofNat code, text.drop width)
  else
    none

def escape : Reader Char := do
  match ← Reader.any with
  | 'b' => return '\x08'
  | 't' => return '\t'
  | 'n' => return '\n'
  | 'f' => return '\x0c'
  | 'r' => return '\r'
  | '"' => return '"'
  | '\\' => return '\\'
  | 'u' => numbered 4
  | 'U' => numbered 8
  | _ => failure

def basicString : Reader (List Char) := do
  Reader.char '"'
  let content ← Reader.many
    ((do Reader.char '\\'; escape) <|>
      Reader.satisfy fun c => isPlain c && c != '"' && c != '\\')
  Reader.char '"'
  return content

def literalString : Reader (List Char) := do
  Reader.char '\''
  let content ← Reader.takeWhile fun c => isPlain c && c != '\''
  Reader.char '\''
  return content

/-- A backslash at the end of a line, which takes all blanks up to the next text away. -/
def continuation : Reader (List Char) := do
  Reader.char '\\'
  spaces
  newline
  let _ ← Reader.many (newline <|> (do let _ ← Reader.satisfy isSpace))
  return []

/-- At most two quotes that do not end a string of several lines. -/
def innerQuotes (quote : Char) : Reader (List Char) := fun text =>
  let quotes := text.takeWhile (· == quote)
  if 0 < quotes.length ∧ quotes.length ≤ 2 then some (quotes, text.drop quotes.length) else none

/-- The three quotes that end a string of several lines, after at most two that belong to it. -/
def closingQuotes (quote : Char) : Reader (List Char) := fun text =>
  let quotes := text.takeWhile (· == quote)
  if 3 ≤ quotes.length ∧ quotes.length ≤ 5 then
    some (quotes.drop 3, text.drop quotes.length)
  else
    none

def innerNewline : Reader (List Char) := do
  newline
  return ['\n']

/-- A string of several lines: parts between three quotes on each side. -/
def multiline (quote : Char) (part : Reader (List Char)) : Reader (List Char) := do
  Reader.chars [quote, quote, quote]
  let _ ← Reader.optional newline
  let parts ← Reader.many (part <|> innerNewline <|> innerQuotes quote)
  let last ← closingQuotes quote
  return parts.flatten ++ last

def multilineBasic : Reader (List Char) :=
  multiline '"'
    (Reader.takeWhile1 (fun c => isPlain c && c != '"' && c != '\\') <|> continuation <|>
      (do Reader.char '\\'; return [← escape]))

def multilineLiteral : Reader (List Char) :=
  multiline '\'' (Reader.takeWhile1 fun c => isPlain c && c != '\'')

def string : Reader Tree := do
  let content ← multilineBasic <|> basicString <|> multilineLiteral <|> literalString
  return .text (String.ofList content)

/-! ## Numbers and times -/

/-- Digits of a class, with single underscores between them. -/
def digitsOf (isDigit : Char → Bool) : Reader (List Char) := do
  let first ← Reader.satisfy isDigit
  let rest ← Reader.many (do
    let _ ← Reader.optional (Reader.char '_')
    Reader.satisfy isDigit)
  return first :: rest

def integerLimit : Nat := 0x8000000000000000

def fitting (value : Int) : Reader Tree :=
  if -(integerLimit : Int) ≤ value ∧ value < integerLimit then return .integer value else failure

def based (mark : String) (base : Nat) (isDigit : Char → Bool) : Reader Tree := do
  Reader.word mark
  let digits ← digitsOf isDigit
  fitting (numberFrom base digits)

def sign : Reader Bool := do
  let mark ← Reader.satisfy fun c => c == '+' || c == '-'
  return mark == '-'

def decimalDigits : Reader (List Char) := do
  match ← digitsOf isDecimal with
  | '0' :: _ :: _ => failure
  | digits => return digits

def decimalInteger : Reader Tree := do
  let minus ← Reader.optional sign
  let digits ← decimalDigits
  let value : Int := numberFrom 10 digits
  fitting (if minus = some true then -value else value)

def integer : Reader Tree :=
  based "0x" 16 isHexadecimal <|> based "0o" 8 (fun c => '0' ≤ c && c ≤ '7') <|>
    based "0b" 2 (fun c => c == '0' || c == '1') <|> decimalInteger

def fraction : Reader (List Char) := do
  Reader.char '.'
  digitsOf isDecimal

def exponent : Reader Int := do
  let _ ← Reader.satisfy fun c => c == 'e' || c == 'E'
  let minus ← Reader.optional sign
  let value : Int := numberFrom 10 (← digitsOf isDecimal)
  return if minus = some true then -value else value

/--
A number made of digits and a power of ten is finite in double precision: it lies below the midpoint
between the greatest double and the next power of two.
-/
def isFinite (digits : List Char) (power : Int) : Bool :=
  let significant := digits.dropWhile (· == '0')
  if significant.isEmpty then true
  else
    let magnitude := (significant.length : Int) + power
    if magnitude ≤ 308 then true
    else if 310 ≤ magnitude then false
    else
      let scaled := numberFrom 10 significant
      let limit := Nat.pow 2 1024 - Nat.pow 2 970
      if 0 ≤ power then scaled * Nat.pow 10 power.toNat < limit
      else scaled < limit * Nat.pow 10 power.natAbs

/-- A number with a fraction or an exponent.  One that is too great must have a minus sign. -/
def floating : Reader Tree := do
  let minus ← Reader.optional sign
  let whole ← decimalDigits
  let part ← Reader.optional fraction
  let power ← Reader.optional exponent
  let digits := whole ++ part.getD []
  let scale := power.getD 0 - (part.getD []).length
  if part.isNone && power.isNone then failure
  else if minus = some true || isFinite digits scale then return .foreign
  else failure

/-- A number that is none or has no bound. -/
def specialFloat : Reader Tree := do
  let _ ← Reader.optional sign
  Reader.word "inf" <|> Reader.word "nan"
  return .foreign

def pair (limit : Nat) : Reader Nat := fun text => do
  let (value, rest) ← Timestamp.readPair? text
  if value ≤ limit then some (value, rest) else none

def date : Reader Unit := do
  let century ← pair 99
  let year ← pair 99
  Reader.char '-'
  let month ← pair 12
  Reader.char '-'
  let day ← pair 31
  let date : CalendarDate := ⟨(century * 100 + year : Nat), month, day⟩
  if date.isValid then return () else failure

def time : Reader Unit := do
  let _ ← pair 23
  Reader.char ':'
  let _ ← pair 59
  Reader.char ':'
  let _ ← pair 60
  let _ ← Reader.optional (do Reader.char '.'; Reader.takeWhile1 isDecimal)

def offset : Reader Unit :=
  (do let _ ← Reader.satisfy fun c => c == 'Z' || c == 'z') <|> (do
    let _ ← sign
    let _ ← pair 23
    Reader.char ':'
    let _ ← pair 59)

/-- A day, a time of day, or both, with or without an offset. -/
def moment : Reader Tree := do
  (do
    date
    let _ ← Reader.optional (do
      let _ ← Reader.satisfy fun c => c == 'T' || c == 't' || c == ' '
      time
      Reader.optional offset)) <|> time
  return .table [("date-time", .foreign)]

def endsWord (c : Char) : Bool :=
  !(c.isAlphanum || c == '_' || c == '-' || c == '+' || c == '.' || c == ':')

/-- A reader whose result is not followed by more of the same word. -/
def whole (reader : Reader Tree) : Reader Tree := do
  let tree ← reader
  match ← Reader.peek? with
  | some c => if endsWord c then return tree else failure
  | none => return tree

/-! ## Names and values -/

def depthLimit : Nat := 80

def isBare (c : Char) : Bool :=
  ('a' ≤ c && c ≤ 'z') || ('A' ≤ c && c ≤ 'Z') || isDecimal c || c == '_' || c == '-'

def simpleName : Reader String := do
  let content ← Reader.takeWhile1 isBare <|> basicString <|> literalString
  return String.ofList content

/-- A dotted name: the path in front, and the last part. -/
def dottedName : Reader (List String × String) := do
  spaces
  let parts ← Reader.sepBy1 (do let part ← simpleName; spaces; return part)
    (do Reader.char '.'; spaces)
  match parts.getLast? with
  | some last => if parts.length < depthLimit then return (parts.dropLast, last) else failure
  | none => failure

/-- The items of a list, with an optional comma at the end. -/
def listItems (value : Reader Tree) : Reader (List Tree) := do
  Reader.char '['
  gap
  let items ← Reader.optional (do
    let items ← Reader.sepBy1 (do let item ← value; gap; return item) (do Reader.char ','; gap)
    let _ ← Reader.optional (do Reader.char ','; gap)
    return items)
  Reader.char ']'
  return items.getD []

def entry (value : Reader Tree) : Reader ((List String × String) × Tree) := do
  let name ← dottedName
  Reader.char '='
  spaces
  let tree ← value
  spaces
  return (name, tree)

def inlineEntries (value : Reader Tree) : Reader (List ((List String × String) × Tree)) := do
  Reader.char '\x7b'
  spaces
  let entries ← Reader.optional (Reader.sepBy1 (entry value) (Reader.char ','))
  Reader.char '\x7d'
  return entries.getD []

def insertAll (node : Node) : List ((List String × String) × Tree) → Option Node
  | [] => some node
  | ((path, name), tree) :: rest => do
      let node ← node.insert path name tree
      insertAll node rest

def scalar : Reader Tree := do
  match ← Reader.peek? with
  | some '"' | some '\'' => string
  | some 't' => whole (do Reader.word "true"; return .bool true)
  | some 'f' => whole (do Reader.word "false"; return .bool false)
  | _ => whole moment <|> whole floating <|> whole integer <|> whole specialFloat

def inlineTable (value : Reader Tree) : Reader Tree := do
  match insertAll Node.begun (← inlineEntries value) with
  | some node => return node.toTree
  | none => failure

def value : (depth : Nat) → Reader Tree
  | 0 => scalar
  | depth + 1 => do
      match ← Reader.peek? with
      | some '[' => return .list (← listItems (value depth))
      | some '\x7b' => inlineTable (value depth)
      | _ => scalar

/-! ## Documents -/

inductive Line where
  | blank
  | header (path : List String) (name : String)
  | anotherHeader (path : List String) (name : String)
  | entry (path : List String) (name : String) (value : Tree)
  deriving Repr, Inhabited

def statement : Reader Line := do
  match ← Reader.peek? with
  | some '[' =>
      (do
        Reader.word "[["
        let (path, name) ← dottedName
        Reader.word "]]"
        return .anotherHeader path name) <|>
      (do
        Reader.char '['
        let (path, name) ← dottedName
        Reader.char ']'
        return .header path name)
  | some '#' | some '\n' | some '\r' | none => return .blank
  | _ =>
      let ((path, name), tree) ← entry (value (depthLimit - 1))
      return .entry path name tree

def line : Reader Line := do
  spaces
  let said ← statement
  lineEnd
  return said

def lines : Reader (List Line) := do
  let _ ← Reader.optional (Reader.char '\ufeff')
  let all ← Reader.many line
  Reader.finish
  return all

/-- Build the document line by line; entries go to the table of the latest header. -/
def build (root : Node) (current : List String) : List Line → Option Node
  | [] => some root
  | .blank :: rest => build root current rest
  | .header path name :: rest => do
      let root ← root.begin path name
      build root (path ++ [name]) rest
  | .anotherHeader path name :: rest => do
      let root ← root.beginAnother path name
      build root (path ++ [name]) rest
  | .entry path name tree :: rest => do
      let root ← root.update .implied current (Node.insert path name tree)
      build root current rest

def parse (text : String) : Except Problem Tree :=
  match lines.run? text with
  | none => .error (.malformed .toml)
  | some said =>
      match build Node.begun [] said with
      | some root => .ok root.toTree
      | none => .error (.malformed .toml)

end DatasetSync.Toml
