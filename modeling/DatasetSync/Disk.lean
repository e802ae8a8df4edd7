import DatasetSync.Path

/-!
# Disks

What this library asks of a file system, and the creation of whole chains of directories.
-/

namespace DatasetSync

/-- Why a file system refuses. -/
inductive DiskError where
  | noSuchFile
  | alreadyThere
  | notDirectory
  | isDirectory
  /-- A name, or the whole path, is longer than any may be. -/
  | nameTooLong
  /-- The path holds the character that ends names. -/
  | terminatorInName
  /-- The file is no text. -/
  | notText
  | other (reason : String)
  deriving DecidableEq, Repr, Inhabited

namespace DiskError

def message : DiskError → String
  | .noSuchFile => "No such file or directory (os error 2)"
  | .alreadyThere => "File exists (os error 17)"
  | .notDirectory => "Not a directory (os error 20)"
  | .isDirectory => "Is a directory (os error 21)"
  | .nameTooLong => "File name too long (os error 36)"
  | .terminatorInName => "file name contained an unexpected NUL byte"
  | .notText => "stream did not contain valid UTF-8"
  | .other reason => reason

end DiskError

class Disk (m : Type → Type) where
  /-- The text of a file. -/
  read : String → m (Except DiskError String)
  /-- Replace the text of a file, or make one. -/
  write : String → String → m (Except DiskError Unit)
  /-- Add a text to the end of a file, or make one. -/
  append : String → String → m (Except DiskError Unit)
  /-- Make one directory. -/
  makeDirectory : String → m (Except DiskError Unit)
  /-- Something is there. -/
  isThere : String → m Bool
  /-- A directory is there. -/
  isDirectory : String → m Bool

namespace Disk

variable {m : Type → Type} [Monad m] [Disk m]

/-- A directory that could not be made is no failure if there is one already. -/
def settle (path : String) (answer : Except DiskError Unit) : m (Except DiskError Unit) :=
  match answer with
  | .ok _ => return .ok ()
  | .error error => return if ← isDirectory path then .ok () else .error error

/-- Make a directory.  If the one it lies in is missing, that is made first. -/
def makeChain (path : String) : (ancestors : List String) → m (Except DiskError Unit)
  | [] => do settle path (← makeDirectory path)
  | parent :: above => do
      match ← makeDirectory path with
      | .error .noSuchFile =>
          match ← makeChain parent above with
          | .ok _ => settle path (← makeDirectory path)
          | .error error => return .error error
      | answer => settle path answer

def makeDirectories (path : String) : m (Except DiskError Unit) :=
  if (Path.parent? path).isNone then return .ok ()
  else makeChain path (Path.ancestors path)

end Disk

end DatasetSync
