/-!
# Readers

A reader takes something off the front of a text, or refuses.  Readers are combined in sequence and
as alternatives; a refused alternative leaves the text as it was.  A reader is repeated at most once
for each character of the text, so every combined reader ends.
-/

namespace DatasetSync.Text

/-- Takes a value off the front of a text. -/
abbrev Reader (α : Type) := StateT (List Char) Option α

namespace Reader

variable {α β : Type}

def peek? : Reader (Option Char) := fun text =>
  some (text.head?, text)

def any : Reader Char
  | [] => none
  | first :: rest => some (first, rest)

def satisfy (test : Char → Bool) : Reader Char
  | [] => none
  | first :: rest => if test first then some (first, rest) else none

def char (expected : Char) : Reader Unit := fun text =>
  (satisfy (· == expected) text).map fun (_, rest) => ((), rest)

def chars : List Char → Reader Unit
  | [] => pure ()
  | first :: rest => do
      char first
      chars rest

def word (expected : String) : Reader Unit :=
  chars expected.toList

def takeWhile (test : Char → Bool) : Reader (List Char) := fun text =>
  some (text.takeWhile test, text.dropWhile test)

def takeWhile1 (test : Char → Bool) : Reader (List Char) := do
  let taken ← takeWhile test
  if taken.isEmpty then failure else return taken

def finish : Reader Unit
  | [] => some ((), [])
  | _ :: _ => none

def optional (reader : Reader α) : Reader (Option α) := fun text =>
  match reader text with
  | some (value, rest) => some (some value, rest)
  | none => some (none, text)

/--
The results of a reader that is repeated until it refuses or nothing is left, at most once for each
character of a given text.
-/
def repeated (reader : Reader α) : (bound text : List Char) → List α × List Char
  | _ :: bound, first :: rest =>
      match reader (first :: rest) with
      | none => ([], first :: rest)
      | some (value, rest) =>
          let (values, last) := repeated reader bound rest
          (value :: values, last)
  | _, text => ([], text)

/-- Repeat a reader, which is to take something each time, until it refuses or nothing is left. -/
def many (reader : Reader α) : Reader (List α) := fun text =>
  some (repeated reader text text)

def sepBy1 (reader : Reader α) (between : Reader β) : Reader (List α) := do
  let first ← reader
  let rest ← many (do let _ ← between; reader)
  return first :: rest

def run? (reader : Reader α) (text : String) : Option α :=
  match reader text.toList with
  | some (value, []) => some value
  | _ => none

end Reader

end DatasetSync.Text
