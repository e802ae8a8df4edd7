import DatasetSync.Channel
import DatasetSync.Note
import DatasetSync.Trail

/-!
# Transports

A transport carries the datasets of one link.  It registers the link with its channels, sends
payloads, and hands back what came in when it is polled.  Channels are described in order, and the
place of a channel in that order is how every event refers to it.
-/

namespace DatasetSync

/-- The handle of a registration. -/
abbrev Session := Nat

namespace Session

def label (session : Session) : String :=
  s!"session-{session}"

def inspect (session : Session) : String :=
  s!"SessionHandle({session})"

end Session

structure Descriptor where
  id : ChannelId
  name : String
  byteSize : Nat
  direction : Direction
  deriving DecidableEq, Repr, Inhabited

def Channel.descriptor (channel : Channel) : Descriptor :=
  ⟨channel.id, channel.name, channel.byteSize, channel.direction⟩

inductive InboundEvent where
  /-- The peer sent a value. -/
  | channelUpdated (channel : ChannelId) (payload : List UInt8) (sent : Nettime)
  /-- A value of ours was taken over for sending. -/
  | publishAcknowledged (channel : ChannelId) (buffer : SendBuffer)
  /-- A value of ours arrived. -/
  | deliveryAcknowledged (channel : ChannelId) (buffer : SendBuffer)
  /-- A channel moved to a state. -/
  | channelStateChanged (channel : ChannelId) (state : ConnectionState) (fault : Option Fault)
  /-- The link moved to a state. -/
  | linkStateChanged (state : ConnectionState) (fault : Option Fault)
  deriving DecidableEq, Repr, Inhabited

namespace InboundEvent

def channel? : InboundEvent → Option ChannelId
  | .channelUpdated channel _ _ => some channel
  | .publishAcknowledged channel _ => some channel
  | .deliveryAcknowledged channel _ => some channel
  | .channelStateChanged channel _ _ => some channel
  | .linkStateChanged _ _ => none

def inspect : InboundEvent → String
  | .channelUpdated channel payload sent =>
      Inspect.record "ChannelUpdated"
        [("channel", ChannelId.inspect channel), ("bytes", Inspect.bytes payload),
          ("send_nettime", toString sent.toInt)]
  | .publishAcknowledged channel buffer =>
      Inspect.record "ChannelPublishAck"
        [("channel", ChannelId.inspect channel), ("send_buffer", buffer.inspect)]
  | .deliveryAcknowledged channel buffer =>
      Inspect.record "ChannelDeliveredAck"
        [("channel", ChannelId.inspect channel), ("send_buffer", buffer.inspect)]
  | .channelStateChanged channel state fault =>
      Inspect.record "ChannelStateChanged"
        [("channel", ChannelId.inspect channel), ("state", state.name),
          ("error", Inspect.option (fault.map Fault.inspect))]
  | .linkStateChanged state fault =>
      Inspect.record "LinkStateChanged"
        [("state", state.name), ("error", Inspect.option (fault.map Fault.inspect))]

end InboundEvent

/-- What a link needs of the thing that carries its datasets. -/
class Transport (T : Type) where
  /-- Open a session for a link and its channels. -/
  register : T → String → List Descriptor → Trail Note (T × Except Fault Session)
  /-- Ask for promotion to operational. -/
  promote : T → Session → Trail Note (T × Except Fault Unit)
  /-- Send a payload on a channel. -/
  send : T → Session → ChannelId → List UInt8 → Trail Note (T × Except Fault Unit)
  /-- Fetch everything that came in. -/
  poll : T → Session → Trail Note (T × List InboundEvent)
  /-- Close a session. -/
  deregister : T → Session → Trail Note T
  /-- The present time on the network clock. -/
  nettime : T → Nettime

/-- Counts of what went over a transport. -/
structure Traffic where
  sent : Nat
  failed : Nat
  bytes : Nat
  polled : Nat
  deriving DecidableEq, Repr, Inhabited

namespace Traffic

def none : Traffic := ⟨0, 0, 0, 0⟩

def recordSend (traffic : Traffic) (size : Nat) : Traffic :=
  { traffic with sent := traffic.sent + 1, bytes := traffic.bytes + size }

def recordFailure (traffic : Traffic) : Traffic :=
  { traffic with failed := traffic.failed + 1 }

def recordPoll (traffic : Traffic) (events : Nat) : Traffic :=
  { traffic with polled := traffic.polled + events }

/-- The share of payloads that could be sent, in percent; all of them when there was none. -/
def successRate (traffic : Traffic) : Float :=
  let attempts := traffic.sent + traffic.failed
  if attempts = 0 then 100.0
  else Float.ofNat traffic.sent / Float.ofNat attempts * 100.0

end Traffic

end DatasetSync
