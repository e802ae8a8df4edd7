import DatasetSync.Channel.Spec
import DatasetSync.Log.Filter

/-!
# Configuration

What is set up before a link runs: the link and its channels, the length of a cycle, and the log.
Whatever is not said has a standard value.  A configuration is checked as a whole before it is used.
-/

namespace DatasetSync

structure ChannelConfig where
  name : String
  direction : Direction := .publish
  byteSize : Nat
  buffered : Bool := false
  bufferCapacity : Nat := Ring.standardCapacity
  deriving DecidableEq, Repr, Inhabited

/-- The description of the channel; a capacity counts only if the channel is buffered. -/
def ChannelConfig.spec (channel : ChannelConfig) : ChannelSpec where
  name := channel.name
  direction := channel.direction
  byteSize := channel.byteSize
  capacity := if channel.buffered then some channel.bufferCapacity else none

structure LinkConfig where
  instanceName : String := "exsync_0"
  aliasName : Option String := none
  channels : List ChannelConfig := []
  deriving DecidableEq, Repr, Inhabited

namespace LinkConfig

/-- The channels are valid one by one, and no name occurs again after the names already seen. -/
def validateChannels (instanceName : String) (seen : List String) :
    List ChannelConfig → Except Error Unit
  | [] => .ok ()
  | channel :: rest => do
      channel.spec.validate
      if seen.contains channel.name then
        throw (.config s!"duplicate channel name '{channel.name}' in link '{instanceName}'")
      validateChannels instanceName (channel.name :: seen) rest

def validate (config : LinkConfig) : Except Error Unit :=
  if config.instanceName = "" then
    .error (.invalidName "link instance name is empty")
  else
    validateChannels config.instanceName [] config.channels

/-- The sizes of the blocks that the channels are made of, in the order they are made. -/
def blocks (config : LinkConfig) : List Nat :=
  config.channels.flatMap fun channel => channel.spec.blocks

end LinkConfig

structure CycleConfig where
  milliseconds : Nat := 10
  deriving DecidableEq, Repr, Inhabited

def CycleConfig.microseconds (config : CycleConfig) : Nat :=
  config.milliseconds * 1000

structure LogConfig where
  moduleName : String := "exsync"
  /-- Where log files go, if they are written at all. -/
  directory : Option String := none
  filter : Log.Filter := Log.Filter.standard
  deriving DecidableEq, Repr, Inhabited

def LogConfig.validate (config : LogConfig) : Except Error Unit := do
  Log.validateModuleName config.moduleName
  config.filter.validate

structure Config where
  link : LinkConfig := {}
  cycle : CycleConfig := {}
  log : LogConfig := {}
  deriving DecidableEq, Repr, Inhabited

namespace Config

def standard : Config := {}

def validate (config : Config) : Except Error Unit := do
  config.link.validate
  if config.cycle.milliseconds = 0 then
    throw (.config "cycle_time_ms must be positive")
  config.log.validate

def applicationName : String := "dev.hxyulin.exsync"

def fileName : String := "exsync.toml"

end Config

end DatasetSync
