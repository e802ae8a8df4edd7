import DatasetSync.Document.Decode
import DatasetSync.Log.Record

/-!
# Basic values in documents

States, directions, codes and levels are words, a mask is a text, and filters and records are
tables.  Each value has the tree it is written as and the reading of such a tree.
-/

namespace DatasetSync

namespace ConnectionState

def toTree (state : ConnectionState) : Tree := .text state.name

def ofTree (format : Format) : Tree → Except Problem ConnectionState :=
  Decode.variant format ofName?

end ConnectionState

namespace Direction

def toTree (direction : Direction) : Tree := .text direction.keyword

def ofTree (format : Format) : Tree → Except Problem Direction :=
  Decode.variant format ofKeyword?

end Direction

namespace ErrorCode

def toTree (code : ErrorCode) : Tree := .text code.name

def ofTree (format : Format) : Tree → Except Problem ErrorCode :=
  Decode.variant format ofName?

end ErrorCode

namespace Timestamp

def toTree (time : Timestamp) : Tree := .text time.text

def ofTree (tree : Tree) : Except Problem Timestamp := do
  match ofText? (← Decode.text tree) with
  | some time => return time
  | none => throw (.expected "a point in time")

end Timestamp

namespace Log

namespace Level

def toTree (level : Level) : Tree := .text level.keyword

def ofTree (format : Format) : Tree → Except Problem Level :=
  Decode.variant format ofKeyword?

end Level

namespace Mask

def toTree (mask : Mask) : Tree := .text mask.text

def ofTree (tree : Tree) : Except Problem Mask := do
  match ofText? (← Decode.text tree) with
  | some mask => return mask
  | none => throw (.expected "names of kinds with bars between them")

end Mask

namespace Filter

def toTree (filter : Filter) : Tree :=
  .table [("level", filter.level.toTree), ("type_mask", filter.mask.toTree),
    ("console_echo", .bool filter.echo),
    ("excluded_module_names", .list (filter.excluded.map .text))]

/-- Read a filter; what is left out is as in the standard filter. -/
def ofTree (format : Format) (tree : Tree) : Except Problem Filter := do
  let given ← Decode.fields format
    ["level", "type_mask", "console_echo", "excluded_module_names"] tree
  let level ← Decode.field given "level" (Level.ofTree format) standard.level
  let mask ← Decode.field given "type_mask" Mask.ofTree standard.mask
  let echo ← Decode.field given "console_echo" Decode.bool standard.echo
  let excluded ←
    Decode.field given "excluded_module_names" (Decode.list Decode.text) standard.excluded
  return ⟨level, mask, echo, excluded⟩

end Filter

namespace Record

def toTree (record : Record) : Tree :=
  .table [("module", .text record.moduleName), ("level", record.level.toTree),
    ("type_mask", record.mask.toTree), ("message", .text record.message),
    ("timestamp", record.time.toTree)]

/-- Read a record, of which nothing may be left out. -/
def ofTree (format : Format) (tree : Tree) : Except Problem Record := do
  let given ← Decode.fields format ["module", "level", "type_mask", "message", "timestamp"] tree
  let moduleName ← Decode.required given "module" Decode.text
  let level ← Decode.required given "level" (Level.ofTree format)
  let mask ← Decode.required given "type_mask" Mask.ofTree
  let message ← Decode.required given "message" Decode.text
  let time ← Decode.required given "timestamp" Timestamp.ofTree
  return ⟨moduleName, level, mask, message, time⟩

end Record

end Log

end DatasetSync
