import DatasetSync.Transport

/-!
# Effects of a link

Besides its answer, an operation of a link has effects: it calls on the transport, tells its owner
about events, and writes notes.
-/

namespace DatasetSync

/-- What a link tells its owner. -/
inductive LinkEvent where
  | linkStateChanged (state : ConnectionState) (fault : Option Fault)
  | channelStateChanged (channel : ChannelId) (state : ConnectionState) (fault : Option Fault)
  | channelUpdated (channel : ChannelId) (latency : Int)
  | channelPublished (channel : ChannelId) (buffer : SendBuffer)
  | channelDelivered (channel : ChannelId) (buffer : SendBuffer)
  | bufferOverflow (channel : ChannelId) (dropped : Nat)
  deriving DecidableEq, Repr, Inhabited

namespace LinkEvent

def channel? : LinkEvent → Option ChannelId
  | .linkStateChanged _ _ => none
  | .channelStateChanged channel _ _ => some channel
  | .channelUpdated channel _ => some channel
  | .channelPublished channel _ => some channel
  | .channelDelivered channel _ => some channel
  | .bufferOverflow channel _ => some channel

end LinkEvent

/-- Where a link and its channels stand. -/
structure Overview where
  link : ConnectionState
  channels : List ConnectionState
  deriving DecidableEq, Repr, Inhabited

/-- A request that reached the transport, and whether it was granted. -/
inductive Call where
  | register (linkName : String) (granted : Bool)
  | promote (session : Session) (granted : Bool)
  | send (session : Session) (channel : ChannelId) (payload : List UInt8) (granted : Bool)
  | poll (session : Session) (events : Nat)
  | deregister (session : Session)
  deriving DecidableEq, Repr, Inhabited

/-- Something an operation does besides answering. -/
inductive Effect where
  | call (request : Call)
  /-- The owner hears of an event, while everything stands as in `scene`. -/
  | event (news : LinkEvent) (scene : Overview)
  | note (line : Note)
  deriving DecidableEq, Repr

namespace Effect

def call? : Effect → Option Call
  | .call request => some request
  | _ => none

def event? : Effect → Option LinkEvent
  | .event news _ => some news
  | _ => none

def note? : Effect → Option Note
  | .note line => some line
  | _ => none

end Effect

end DatasetSync
