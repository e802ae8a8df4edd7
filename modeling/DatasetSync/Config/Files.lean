import DatasetSync.Config.Codec
import DatasetSync.Disk
import DatasetSync.Note
import DatasetSync.Trail

/-!
# Configuration files

Reading and writing configurations on a disk.  The extension of a file decides its format.
-/

namespace DatasetSync.Config

variable {m : Type → Type} [Monad m] [Disk m]

def load (path : String) : m (Except Error Config) := do
  match ← Disk.read path with
  | .error error =>
      return .error
        (.config s!"Failed to read config file {Inspect.quoted path}: {error.message}")
  | .ok text =>
      return (ofText (Format.ofPath path) text).mapError
        (.within s!"Failed to parse config file {Inspect.quoted path}")

def fallbackNote (error : Error) : Note where
  severity := .warn
  source := .config
  text := s!"Failed to load config, using defaults: {error.message}"

/-- Read the configuration in a file; if that fails, the standard one has to do. -/
def loadOrStandard (path : String) : m (Trail Note Config) := do
  match ← load path with
  | .ok config => return pure config
  | .error error => return ⟨standard, [fallbackNote error]⟩

def directory (configHome : Option String) : Option String :=
  configHome.map (Path.join · applicationName)

def standardPath (configHome : Option String) : Option String :=
  (directory configHome).map (Path.join · fileName)

/-- Read the standard configuration file; if there is none, the standard configuration counts. -/
def loadStandard (configHome : Option String) : m (Except Error Config) :=
  match standardPath configHome with
  | none => return .ok standard
  | some path => do
      if ← Disk.isThere path then load path else return .ok standard

def makeParent (path : String) : m (Except Error Unit) :=
  match Path.parent? path with
  | none => return .ok ()
  | some parent => do
      if parent = "" then return .ok ()
      else if ← Disk.isThere parent then return .ok ()
      else return (← Disk.makeDirectories parent).mapError fun error => .io error.message

def store (path text : String) : m (Except Error Unit) := do
  return (← Disk.write path text).mapError fun error =>
    .config s!"Failed to write config file {Inspect.quoted path}: {error.message}"

/-- Check a configuration and write it to a file, whose directory is made first. -/
def save (config : Config) (path : String) : m (Except Error Unit) :=
  match config.validate with
  | .error error => return .error error
  | .ok _ => do
      match ← makeParent path with
      | .error error => return .error error
      | .ok _ =>
          match config.toText (Format.ofPath path) with
          | .error error => return .error error
          | .ok text => store path text

def ensureDirectory (configHome : Option String) : m (Except Error String) :=
  match directory configHome with
  | none => return .error (.config "Could not determine config directory")
  | some path => do
      if ← Disk.isThere path then return .ok path
      else
        match ← Disk.makeDirectories path with
        | .ok _ => return .ok path
        | .error error =>
            return .error (.config s!"Failed to create config directory: {error.message}")

end DatasetSync.Config
