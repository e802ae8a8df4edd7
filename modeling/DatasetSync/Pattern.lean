import DatasetSync.Pattern.CharacterClass
import DatasetSync.Text.Alphanumeric

/-!
# Patterns

The forms of patterns: alternatives, sequences, repetitions, groups and switches.  Reading a pattern
answers how deep it is nested, and a pattern is sound if it can be read and is not nested too deep.
A count of repetitions stands in braces; these end the place where patterns are written, and so a
brace cannot open here.
-/

namespace DatasetSync.Pattern

def depthLimit : Nat := 250

structure Element where
  /-- How deep it is nested. -/
  depth : Nat
  /-- A repetition can follow. -/
  repeats : Bool
  deriving DecidableEq, Repr, Inhabited

def sequenceDepth (elements : List Element) : Nat :=
  besideDepth (elements.map Element.depth)

/-! ## Switches and names of groups -/

def switchLetters : List Char :=
  ['i', 'm', 's', 'U', 'u', 'R', 'x']

/-- Switches are written one letter once, with at most one hyphen, and not at the end. -/
def areSwitches (letters : List Char) : Bool :=
  letters.all (fun letter => letter == '-' || switchLetters.contains letter) &&
    letters.eraseDups.length == letters.length && letters.getLast? != some '-'

def Mode.switch (mode : Mode) (letter : Char) (on : Bool) : Mode :=
  match letter with
  | 'i' => { mode with ignoresCase := on }
  | 'u' => { mode with ofCharacters := on }
  | 'x' => { mode with spaced := on }
  | _ => mode

/-- A mode after switches; those behind the hyphen are turned off. -/
def Mode.switchAll (mode : Mode) (letters : List Char) : Mode :=
  let on := letters.takeWhile (· ≠ '-')
  let off := letters.drop on.length
  off.foldl (·.switch · false) (on.foldl (·.switch · true) mode)

def isNameCharacter (c : Char) : Bool :=
  c == '_' || c == '.' || c == '[' || c == ']' || Text.isAlphanumeric c

def startsGroupName (c : Char) : Bool :=
  c == '_' || Text.isAlphabetic c

/-- The name of a group, which no group before has. -/
def groupName : PatternReader Unit := do
  let name ← PatternReader.takeWhile isNameCharacter
  PatternReader.char '>'
  let progress ← get
  if name.head?.any startsGroupName && !progress.names.contains (String.ofList name) then
    set { progress with names := String.ofList name :: progress.names }
  else
    failure

/-- Switches; says whether a group follows in which they hold. -/
def switches : PatternReader Bool := do
  let letters ← PatternReader.takeWhile fun c => c ≠ ':' && c ≠ ')'
  if !areSwitches letters then failure
  PatternReader.setMode ((← PatternReader.mode).switchAll letters)
  match ← PatternReader.any with
  | ':' => return true
  | _ => if letters.isEmpty then failure else return false

/-- What can follow an opening parenthesis; says whether it begins a group. -/
def groupStart : PatternReader Bool := do
  PatternReader.char '('
  spaces
  if ← PatternReader.skips "?P<" then
    groupName
    return true
  else if ← PatternReader.skips "?<" then
    groupName
    return true
  else if ← PatternReader.skips "?" then
    switches
  else
    return true

/-- A group around something, or switches for what follows. -/
def group (inside : PatternReader Nat) : PatternReader Element := do
  let mode ← PatternReader.mode
  if ← groupStart then
    let depth ← inside
    PatternReader.char ')'
    PatternReader.setMode mode
    return ⟨depth + 1, true⟩
  else
    return ⟨0, false⟩

/-! ## Sequences and alternatives -/

def primitive : PatternReader Element := do
  let mode ← PatternReader.mode
  let allowed := match ← PatternReader.any with
    | '.' => mode.ofCharacters
    | '^' | '$' => true
    | c => (Primitive.literal c).isAllowed mode
  if allowed then return ⟨0, true⟩ else failure

def escaped : PatternReader Element := do
  PatternReader.char '\\'
  if (← escape).isAllowed (← PatternReader.mode) then return ⟨0, true⟩ else failure

def repetition (elements : List Element) : PatternReader (List Element) := do
  match elements with
  | ⟨depth, true⟩ :: others =>
      let _ ← PatternReader.any
      let _ ← PatternReader.skips "?"
      return ⟨depth + 1, true⟩ :: others
  | _ => failure

/--
Alternatives up to a closing parenthesis or the end.  The nesting of the alternatives so far and the
elements of the present one, the last one first, are given.
-/
def alternatives :
    (fuel : Nat) → (before : List Nat) → (elements : List Element) → PatternReader Nat
  | 0, _, _ => failure
  | fuel + 1, before, elements => do
      spaces
      match ← PatternReader.peek? with
      | none | some ')' => return besideDepth (sequenceDepth elements :: before)
      | some '|' =>
          PatternReader.char '|'
          alternatives fuel (sequenceDepth elements :: before) []
      | some '(' =>
          let element ← group (alternatives fuel [] [])
          alternatives fuel before (element :: elements)
      | some '[' =>
          let depth ← characterClass
          alternatives fuel before (⟨depth, true⟩ :: elements)
      | some '*' | some '+' | some '?' =>
          alternatives fuel before (← repetition elements)
      | some '\x7b' => failure
      | some '\\' =>
          let element ← escaped
          alternatives fuel before (element :: elements)
      | some _ =>
          let element ← primitive
          alternatives fuel before (element :: elements)

/-- How deep a pattern is nested, if it can be read. -/
def depth? (text : List Char) : Option Nat :=
  match alternatives (text.length + 1) [] [] { rest := text } with
  | some (depth, progress) => if progress.rest.isEmpty then some depth else none
  | none => none

def isSound (text : List Char) : Bool :=
  (depth? text).any (· ≤ depthLimit)

end DatasetSync.Pattern
