import DatasetSync.Document.Tree
import DatasetSync.Text.Blank

/-!
# Paths

A path is a text with names between slashes.  Repeated slashes count as one, and a dot alone stands
for the directory it is in.
-/

namespace DatasetSync.Path

def isAbsolute (path : String) : Bool :=
  path.toList.head? == some '/'

def endsInSlash (path : String) : Bool :=
  path.toList.getLast? == some '/'

def names (path : String) : List String :=
  ((Text.splitAt '/' path.toList).filter (· ≠ [])).map String.ofList

/-- The names that lead somewhere else. -/
def steps (path : String) : List String :=
  (names path).filter (· ≠ ".")

/-- A path inside a directory; one that starts at the root stays what it is. -/
def join (directory name : String) : String :=
  if isAbsolute name then name
  else if directory = "" ∨ endsInSlash directory then directory ++ name
  else directory ++ "/" ++ name

/--
The characters of a path, the last one first, without slashes and dots at the end that lead nowhere.
-/
def trimEnd : List Char → List Char
  | ['/'] => ['/']
  | '/' :: rest => trimEnd rest
  | '.' :: '/' :: rest => trimEnd ('/' :: rest)
  | path => path

/-- The directory a path lies in, unless there is no name to take away. -/
def parent? (path : String) : Option String :=
  match trimEnd path.toList.reverse with
  | [] | ['/'] => none
  | path => some (String.ofList (trimEnd (path.dropWhile (· ≠ '/'))).reverse)

/-- At most so many of the directories a path lies in, the nearest first. -/
def ancestorsUpTo : Nat → String → List String
  | 0, _ => []
  | count + 1, path =>
      match parent? path with
      | none => []
      | some parent => parent :: ancestorsUpTo count parent

def ancestors (path : String) : List String :=
  (ancestorsUpTo path.length path).filter fun parent => (parent? parent).isSome

/-- What follows the last dot of a name that does not start with it. -/
def extensionOf? (name : String) : Option String :=
  let reversed := name.toList.reverse
  let ending := reversed.takeWhile (· ≠ '.')
  match reversed.drop ending.length with
  | '.' :: _ :: _ => if name = ".." then none else some (String.ofList ending.reverse)
  | _ => none

def extension? (path : String) : Option String :=
  (steps path).getLast?.bind extensionOf?

/-- No file system takes the path, because of a character that ends names in it. -/
def holdsTerminator (path : String) : Bool :=
  path.toList.contains '\x00'

end DatasetSync.Path

namespace DatasetSync.Format

/-- The format of a file, by the extension of its name. -/
def ofPath (path : String) : Format :=
  match Path.extension? path with
  | some ending => if ending.map Char.toLower = "json" then .json else .toml
  | none => .toml

end DatasetSync.Format
