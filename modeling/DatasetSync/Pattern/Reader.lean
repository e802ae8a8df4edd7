import DatasetSync.Text.Blank

/-!
# Reading patterns

A pattern is a regular expression.  It is read from left to right; switches in it change how what
follows is read, and groups in it can have names.
-/

namespace DatasetSync.Pattern

/-- How a pattern is read at some place. -/
structure Mode where
  /-- Upper and lower case count as the same. -/
  ignoresCase : Bool := false
  /-- The pattern speaks of characters, and not of bytes. -/
  ofCharacters : Bool := true
  /-- Blanks and comments mean nothing. -/
  spaced : Bool := false
  deriving DecidableEq, Repr, Inhabited

structure Progress where
  /-- What is still to be read. -/
  rest : List Char
  mode : Mode := {}
  /-- The names of the groups so far. -/
  names : List String := []
  deriving DecidableEq, Repr, Inhabited

/-- Takes something off the front of a pattern, or refuses it. -/
abbrev PatternReader (α : Type) := StateT Progress Option α

namespace PatternReader

def mode : PatternReader Mode :=
  return (← get).mode

def setMode (mode : Mode) : PatternReader Unit :=
  modify fun progress => { progress with mode }

def peek? : PatternReader (Option Char) :=
  return (← get).rest.head?

def any : PatternReader Char := do
  let progress ← get
  match progress.rest with
  | [] => failure
  | first :: rest =>
      set { progress with rest }
      return first

def char (expected : Char) : PatternReader Unit := do
  if (← any) ≠ expected then failure

/-- Skip a given word if it is next, and say whether it was. -/
def skips (word : String) : PatternReader Bool := do
  let progress ← get
  if word.toList.isPrefixOf progress.rest then
    set { progress with rest := progress.rest.drop word.length }
    return true
  else
    return false

def takeWhile (test : Char → Bool) : PatternReader (List Char) := do
  let progress ← get
  set { progress with rest := progress.rest.dropWhile test }
  return progress.rest.takeWhile test

end PatternReader

def withoutSpaces (inComment : Bool) : List Char → List Char
  | [] => []
  | first :: rest =>
      if inComment then withoutSpaces (first ≠ '\n') rest
      else if first = '#' then withoutSpaces true rest
      else if Text.isBlank first then withoutSpaces false rest
      else first :: rest

/-- Skip blanks and comments where they mean nothing. -/
def spaces : PatternReader Unit := do
  if (← PatternReader.mode).spaced then
    modify fun progress => { progress with rest := withoutSpaces false progress.rest }

end DatasetSync.Pattern
