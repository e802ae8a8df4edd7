import DatasetSync.Error
import DatasetSync.Log.Level

/-!
# Log filters

A filter decides which records of which modules go out.  It names a level, a mask and up to twenty
modules that are silenced, and says whether records that pass are repeated on the console.
-/

namespace DatasetSync.Log

def maxExcluded : Nat := 20

def maxModuleName : Nat := 35

def validateModuleName (name : String) : Except Error Unit :=
  if name = "" then
    .error (.invalidName "module name is empty")
  else if maxModuleName < name.length then
    .error (.invalidName s!"module name '{name}' is longer than {maxModuleName} characters")
  else
    .ok ()

/-- Which records go out. -/
structure Filter where
  level : Level
  mask : Mask
  echo : Bool
  excluded : List String
  deriving DecidableEq, Repr

namespace Filter

/-- Successes and what is more important, of the application and the system. -/
def standard : Filter := ⟨.success, Mask.user.union Mask.system, false, []⟩

instance : Inhabited Filter := ⟨standard⟩

def validateNames : List String → Except Error Unit
  | [] => .ok ()
  | name :: rest => do
      validateModuleName name
      validateNames rest

def validate (filter : Filter) : Except Error Unit :=
  if maxExcluded < filter.excluded.length then
    .error (.config
      s!"at most {maxExcluded} excluded modules allowed, got {filter.excluded.length}")
  else
    validateNames filter.excluded

def isExcluded (filter : Filter) (moduleName : String) : Bool :=
  filter.excluded.contains moduleName

def allows (filter : Filter) (moduleName : String) (level : Level) (mask : Mask) : Bool :=
  level.rank ≤ filter.level.rank && (mask.isAlways || mask.intersects filter.mask) &&
    !filter.isExcluded moduleName

def inspect (filter : Filter) : String :=
  Inspect.record "LogFilterConfig"
    [("level", filter.level.name), ("type_mask", filter.mask.inspect),
      ("console_echo", toString filter.echo),
      ("excluded_module_names", Inspect.list (filter.excluded.map Inspect.quoted))]

end Filter

end DatasetSync.Log
