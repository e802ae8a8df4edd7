import DatasetSync.Config
import DatasetSync.Document.Codec
import DatasetSync.Document.Json.Parser
import DatasetSync.Document.Json.Printer
import DatasetSync.Document.Toml.Parser
import DatasetSync.Document.Toml.Printer

/-!
# Configurations as documents

The tree of each part of a configuration and the reading of such a tree, and whole configurations as
text in either format.
-/

namespace DatasetSync

namespace ChannelConfig

def fieldNames : List String :=
  ["name", "direction", "byte_size", "buffered", "buffer_capacity"]

def toTree (channel : ChannelConfig) : Tree :=
  .table [("name", .text channel.name), ("direction", channel.direction.toTree),
    ("byte_size", .integer channel.byteSize), ("buffered", .bool channel.buffered),
    ("buffer_capacity", .integer channel.bufferCapacity)]

/-- Read a channel, of which name and size may not be left out. -/
def ofTree (format : Format) (tree : Tree) : Except Problem ChannelConfig := do
  let given ← Decode.fields format fieldNames tree
  let name ← Decode.required given "name" Decode.text
  let direction ← Decode.field given "direction" (Direction.ofTree format) .publish
  let byteSize ← Decode.required given "byte_size" Decode.word
  let buffered ← Decode.field given "buffered" Decode.bool false
  let bufferCapacity ←
    Decode.field given "buffer_capacity" Decode.word Ring.standardCapacity
  return { name, direction, byteSize, buffered, bufferCapacity }

end ChannelConfig

namespace LinkConfig

def toTree (link : LinkConfig) : Tree :=
  .table [("instance_name", .text link.instanceName),
    ("alias", (link.aliasName.map Tree.text).getD .null),
    ("channels", .list (link.channels.map ChannelConfig.toTree))]

def ofTree (format : Format) (tree : Tree) : Except Problem LinkConfig := do
  let given ← Decode.fields format ["instance_name", "alias", "channels"] tree
  let standard : LinkConfig := {}
  let instanceName ← Decode.field given "instance_name" Decode.text standard.instanceName
  let aliasName ← Decode.field given "alias" (Decode.option Decode.text) standard.aliasName
  let channels ←
    Decode.field given "channels" (Decode.list (ChannelConfig.ofTree format)) standard.channels
  return { instanceName, aliasName, channels }

end LinkConfig

namespace CycleConfig

def toTree (cycle : CycleConfig) : Tree :=
  .table [("cycle_time_ms", .integer cycle.milliseconds)]

def ofTree (format : Format) (tree : Tree) : Except Problem CycleConfig := do
  let given ← Decode.fields format ["cycle_time_ms"] tree
  let standard : CycleConfig := {}
  let milliseconds ← Decode.field given "cycle_time_ms" Decode.word standard.milliseconds
  return { milliseconds }

end CycleConfig

namespace LogConfig

def toTree (log : LogConfig) : Tree :=
  .table [("module_name", .text log.moduleName),
    ("log_dir", (log.directory.map Tree.text).getD .null),
    ("default_filter", log.filter.toTree)]

def ofTree (format : Format) (tree : Tree) : Except Problem LogConfig := do
  let given ← Decode.fields format ["module_name", "log_dir", "default_filter"] tree
  let standard : LogConfig := {}
  let moduleName ← Decode.field given "module_name" Decode.text standard.moduleName
  let directory ← Decode.field given "log_dir" (Decode.option Decode.text) standard.directory
  let filter ← Decode.field given "default_filter" (Log.Filter.ofTree format) standard.filter
  return { moduleName, directory, filter }

end LogConfig

def Format.parse : Format → String → Except Problem Tree
  | .toml, text => Toml.parse text
  | .json, text => Json.parse text

def Format.print : Format → Tree → Except Problem String
  | .toml, tree => Toml.print tree
  | .json, tree => .ok (Json.pretty tree)

def Problem.error (problem : Problem) : Error :=
  .serialization problem.message

namespace Config

def toTree (config : Config) : Tree :=
  .table [("link", config.link.toTree), ("driver", config.cycle.toTree),
    ("log", config.log.toTree)]

/-- Read a configuration without checking it. -/
def ofTree (format : Format) (tree : Tree) : Except Problem Config := do
  let given ← Decode.fields format ["link", "driver", "log"] tree
  let link ← Decode.field given "link" (LinkConfig.ofTree format) standard.link
  let cycle ← Decode.field given "driver" (CycleConfig.ofTree format) standard.cycle
  let log ← Decode.field given "log" (LogConfig.ofTree format) standard.log
  return { link, cycle, log }

def ofText (format : Format) (text : String) : Except Error Config := do
  let config ← ((format.parse text).bind (ofTree format)).mapError Problem.error
  config.validate
  return config

def toText (format : Format) (config : Config) : Except Error String :=
  (format.print config.toTree).mapError Problem.error

end Config

end DatasetSync
