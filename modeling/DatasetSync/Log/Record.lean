import DatasetSync.Calendar
import DatasetSync.Log.Filter

/-!
# Log records

One message of one module, cut to a bounded length.
-/

namespace DatasetSync.Log

def maxMessage : Nat := 256

/-- One message of one module. -/
structure Record where
  moduleName : String
  level : Level
  mask : Mask
  message : String
  time : Timestamp
  deriving DecidableEq, Repr, Inhabited

namespace Record

/-- The first characters of a text, as many as a message may have. -/
def cut (message : String) : String :=
  String.ofList (message.toList.take maxMessage)

/-- A record of a message, which is cut if it is too long. -/
def new (moduleName : String) (level : Level) (mask : Mask) (message : String)
    (time : Timestamp) : Record :=
  ⟨moduleName, level, mask, cut message, time⟩

def line (record : Record) : String :=
  s!"[{record.level.label}] {record.moduleName}: {record.message}"

def text (record : Record) : String :=
  s!"{record.time.shortText} {record.line}"

end Record

def Filter.passes (filter : Filter) (record : Record) : Bool :=
  filter.allows record.moduleName record.level record.mask

end DatasetSync.Log
