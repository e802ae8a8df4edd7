import DatasetSync.Note
import DatasetSync.Pattern
import DatasetSync.Text.Cut

/-!
# Note filters

Which notes are shown is said in a text such as `info,exsync=debug`: rules with commas between them.
A rule is a level for all notes, or for those whose source starts with a name.  Brackets confine it
to a span, and braces inside them to notes with a field, or with a field whose value matches a
pattern, as in `exsync[span{module=pattern}]=info`.  The most specific rule about a note decides,
and of equal ones the last.  A note that no rule is about is not shown.
-/

namespace DatasetSync

/-- A field that a note must have. -/
structure FieldRule where
  name : String
  /-- The pattern its value must match, if the value matters. -/
  pattern : Option String
  deriving DecidableEq, Repr, Inhabited

/-- How much is shown of some notes. -/
structure NoteRule where
  /-- What the path of the source starts with; none for all sources. -/
  target : Option String := none
  /-- The span the notes are written in; none if that does not matter. -/
  span : Option String := none
  /-- A field the notes have; none if that does not matter. -/
  field : Option FieldRule := none
  /-- How much is shown, from nothing at zero to everything at five. -/
  detail : Nat := 5
  deriving DecidableEq, Repr, Inhabited

abbrev NoteFilter := List NoteRule

/-- Why a text says nothing about which notes to show. -/
inductive FilterProblem where
  /-- A rule has not the form of one. -/
  | malformed
  /-- A part of a rule would begin or end inside a character. -/
  | torn
  deriving DecidableEq, Repr, Inhabited

/-! ## Reading -/

/--
A place in the text of a rule: a character, and the number of bytes in front of it.  Blanks around a
rule are neither looked at nor counted.  But parts are taken by these numbers from the text with its
blanks, and so each part begins and ends earlier by as many bytes as there are blanks in front.
-/
structure RulePlace where
  offset : Nat
  character : Char
  deriving DecidableEq, Repr, Inhabited

namespace RulePlace

def ofCharacters (offset : Nat) : List Char → List RulePlace
  | [] => []
  | first :: rest => ⟨offset, first⟩ :: ofCharacters (offset + first.utf8Size) rest

def ofText (text : List Char) : List RulePlace :=
  ofCharacters 0 (Text.trim text)

/-- The first place with one of the marks, and the places behind it. -/
def find (marks : List Char) (places : List RulePlace) :
    Except FilterProblem (RulePlace × List RulePlace) :=
  match places.dropWhile fun place => !marks.contains place.character with
  | mark :: rest => .ok (mark, rest)
  | [] => .error .malformed

end RulePlace

namespace FieldRule

def numberWords : List String := ["inf", "infinity", "nan"]

/-- The text is an exponent, or empty. -/
def isExponent (text : List Char) : Bool :=
  match text with
  | [] => true
  | 'e' :: sign :: rest | 'E' :: sign :: rest =>
      let digits := if sign = '+' ∨ sign = '-' then rest else sign :: rest
      (Text.readDecimal? digits).isSome
  | _ => false

/-- The text is a number without a sign: digits, with a point among them or beside them. -/
def isUnsigned (text : List Char) : Bool :=
  let whole := text.takeWhile Text.isDecimal
  match text.drop whole.length with
  | '.' :: rest =>
      let fraction := rest.takeWhile Text.isDecimal
      !(whole.isEmpty && fraction.isEmpty) && isExponent (rest.drop fraction.length)
  | rest => !whole.isEmpty && isExponent rest

def isNumber (text : List Char) : Bool :=
  let unsigned := match text with
    | '+' :: rest | '-' :: rest => rest
    | rest => rest
  numberWords.contains (String.ofList (unsigned.map Char.toLower)) || isUnsigned unsigned

/-- Read a field: a name, or a name and a value with a sign of equality between them. -/
def ofText (text : String) : Except FilterProblem FieldRule :=
  if text.isEmpty then .error .malformed
  else
    match Text.splitAt '=' text.toList with
    | name :: value :: _ =>
        if isNumber value || Pattern.isSound value then
          .ok ⟨String.ofList name, some (String.ofList value)⟩
        else
          .error .malformed
    | _ => .ok ⟨text, none⟩

end FieldRule

namespace NoteRule

def levelWords : List (String × Nat) :=
  [("off", 0), ("error", 1), ("warn", 2), ("info", 3), ("debug", 4), ("trace", 5)]

def readNumber? (text : List Char) : Option Nat :=
  match text with
  | '+' :: digits => Text.readDecimal? digits
  | digits => Text.readDecimal? digits

def readDetail? (text : String) : Option Nat :=
  match levelWords.lookup (text.map Char.toLower) with
  | some detail => some detail
  | none => (readNumber? text.toList).filter (· ≤ 5)

def startsName (c : Char) : Bool :=
  c == '-' || c == ':' || c == '_' || Text.isAlphanumeric c

variable (text : List Char)

def part (start stop : Nat) : Except FilterProblem String :=
  match Text.slice? text start stop with
  | some part => .ok (String.ofList part)
  | none => .error .torn

/-- Read how much is shown, from a number of bytes to the end; no text means everything. -/
def withLevel (rule : NoteRule) (start : Nat) : Except FilterProblem NoteRule := do
  let word ← part text start (String.ofList text).utf8ByteSize
  if word.isEmpty then return { rule with detail := 5 }
  else
    match readDetail? word with
    | some detail => return { rule with detail }
    | none => throw .malformed

/-- Read what follows the brackets: nothing, or a level. -/
def afterBrackets (rule : NoteRule) : List RulePlace → Except FilterProblem NoteRule
  | [] => return rule
  | mark :: _ =>
      if mark.character = '=' then withLevel text rule (mark.offset + 1) else .error .malformed

/-- Read what follows an opening brace: a field, and the marks that close it. -/
def inBraces (rule : NoteRule) (start : Nat) (places : List RulePlace) :
    Except FilterProblem NoteRule := do
  let (closing, rest) ← RulePlace.find ['\x7d'] places
  let field ← FieldRule.ofText (← part text start closing.offset)
  match rest with
  | mark :: rest =>
      if mark.character = ']' then afterBrackets text { rule with field := some field } rest
      else throw .malformed
  | [] => throw .malformed

/-- Read what follows an opening bracket: the name of a span, or none in front of a brace. -/
def inBrackets (rule : NoteRule) (start : Nat) (places : List RulePlace) :
    Except FilterProblem NoteRule := do
  let (mark, rest) ← RulePlace.find [']', '\x7b'] places
  let name ← part text start mark.offset
  if mark.character = ']' then
    afterBrackets text { rule with span := some name } rest
  else
    let span := if name.isEmpty then none else some name
    inBraces text { rule with span } (mark.offset + 1) rest

/-- Read a rule that is a name alone: a level or, if it is none, a target. -/
def nameAlone : NoteRule :=
  let name := String.ofList text
  match readDetail? name with
  | some detail => { detail }
  | none => { target := some name }

def withName (places : List RulePlace) : Except FilterProblem NoteRule :=
  match RulePlace.find ['=', '['] places with
  | .error _ => return nameAlone text
  | .ok (mark, rest) => do
      let rule : NoteRule := { target := some (← part text 0 mark.offset) }
      if mark.character = '[' then inBrackets text rule (mark.offset + 1) rest
      else withLevel text rule (mark.offset + 1)

def ofText : Except FilterProblem NoteRule :=
  match RulePlace.ofText text with
  | [] => .error .malformed
  | first :: rest =>
      if first.character = '[' then inBrackets text {} 1 rest
      else if startsName first.character then withName text (first :: rest)
      else .error .malformed

/-! ## Choosing -/

/-- The rule is about a note.  No note lies in a span, and no value of a field is looked at. -/
def isAbout (rule : NoteRule) (note : Note) : Bool :=
  let fits := match rule.target with
    | none => true
    | some target => target.toList.isPrefixOf note.source.target.toList
  let has := match rule.field with
    | none => true
    | some field => field.pattern.isNone && note.fieldNames.contains field.name
  fits && rule.span.isNone && has

/-- How specific a rule is: by the length of its target, then by the field it asks for. -/
def weight (rule : NoteRule) : Nat × String :=
  ((rule.target.map (·.utf8ByteSize + 1)).getD 0, (rule.field.map (·.name)).getD "")

/-- The other rule decides where both are about a note. -/
def yieldsTo (rule other : NoteRule) : Bool :=
  rule.weight.1 < other.weight.1 ||
    (rule.weight.1 == other.weight.1 && rule.weight.2 ≤ other.weight.2)

end NoteRule

namespace NoteFilter

/-- Errors only, which is what an empty text means. -/
def errorsOnly : NoteFilter := [{ detail := 1 }]

def standard : NoteFilter := [{ detail := 3 }, { target := some "exsync", detail := 4 }]

def ofText (text : String) : Except FilterProblem NoteFilter :=
  match (Text.splitAt ',' text.toList).filter (· ≠ []) with
  | [] => return errorsOnly
  | parts => parts.mapM NoteRule.ofText

def deciding? (filter : NoteFilter) (note : Note) : Option NoteRule :=
  (filter.filter (·.isAbout note)).foldl
    (fun best rule =>
      match best with
      | none => some rule
      | some best => if best.yieldsTo rule then some rule else some best) none

def shows (filter : NoteFilter) (note : Note) : Bool :=
  match filter.deciding? note with
  | none => false
  | some rule => note.severity.detail ≤ rule.detail

end NoteFilter

end DatasetSync
