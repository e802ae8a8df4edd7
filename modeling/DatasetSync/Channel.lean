import DatasetSync.Channel.Spec
import DatasetSync.Dataset
import DatasetSync.Latency

/-!
# Channels

A channel is one named dataset of a link.  It has a connection state and a last fault of its own,
the latest value, and counters.  A buffered channel keeps received samples in a ring instead of
replacing its value.

Aborted is left only by starting over, and no transition leads from disconnected straight to
operational.
-/

namespace DatasetSync

/-- The place of a channel in its link. -/
abbrev ChannelId := Nat

namespace ChannelId

def label (id : ChannelId) : String :=
  s!"#{id}"

def inspect (id : ChannelId) : String :=
  s!"ChannelId({id})"

end ChannelId

/-- How full the transport's buffer for a channel is. -/
structure SendBuffer where
  size : Nat
  free : Nat
  used : Nat
  deriving DecidableEq, Repr, Inhabited

namespace SendBuffer

def unknown : SendBuffer := ⟨0, 0, 0⟩

def inspect (buffer : SendBuffer) : String :=
  Inspect.record "SendBufferInfo"
    [("size", toString buffer.size), ("free", toString buffer.free),
      ("used", toString buffer.used)]

end SendBuffer

/-- One dataset of a link with everything known about it. -/
structure Channel where
  id : ChannelId
  name : String
  direction : Direction
  state : ConnectionState
  lastError : Option Fault
  value : Dataset
  nettime : Nettime
  updated : Bool
  buffer : Option (Ring Sample)
  sendBuffer : SendBuffer
  published : Nat
  delivered : Nat
  latency : Latency
  deriving DecidableEq, Repr

inductive Reception where
  /-- It is the new value or waits in the ring. -/
  | accepted (latency : Int)
  /-- The ring was full. -/
  | overflowed (dropped : Nat)
  deriving DecidableEq, Repr

namespace Channel

/-- A disconnected channel of zeros, if its description is valid and it can be addressed. -/
def new (id : ChannelId) (spec : ChannelSpec) : Except Obstacle Channel := do
  spec.validate.mapError .refused
  let buffer ← spec.capacity.mapM (Ring.new Sample.slotSize)
  let value ← Dataset.new spec.byteSize
  return {
    id
    name := spec.name
    direction := spec.direction
    state := .disconnected
    lastError := none
    value
    nettime := 0
    updated := false
    buffer
    sendBuffer := SendBuffer.unknown
    published := 0
    delivered := 0
    latency := Latency.fresh }

def byteSize (channel : Channel) : Nat :=
  channel.value.size

def isBuffered (channel : Channel) : Bool :=
  channel.buffer.isSome

def pending (channel : Channel) : Nat :=
  (channel.buffer.map Ring.pending).getD 0

def overflows (channel : Channel) : Nat :=
  (channel.buffer.map Ring.overflows).getD 0

def notBuffered (channel : Channel) : Error :=
  .notAllowed s!"channel '{channel.name}' is not buffered"

def popInto (channel : Channel) (destination : Sample) : Channel × Sample × Except Error Unit :=
  match channel.buffer with
  | none => (channel, destination, .error channel.notBuffered)
  | some ring =>
      let (ring, sample, answer) := ring.popInto destination
      ({ channel with buffer := some ring }, sample, answer)

def pop (channel : Channel) : Channel × Except Error Sample :=
  let (channel, sample, answer) := channel.popInto default
  (channel, answer.map fun _ => sample)

/-- Whether a value came in since the last look. -/
def takeUpdated (channel : Channel) : Bool × Channel :=
  (channel.updated, { channel with updated := false })

/-- A payload may be sent: it fits, the direction allows it, and the channel is connected. -/
def checkPublish (channel : Channel) (payload : List UInt8) : Except Error Unit := do
  channel.value.check payload
  if !channel.direction.canPublish then
    throw (.notAllowed s!"channel '{channel.name}' is subscribe-only")
  if !channel.state.isConnected then
    throw (.notReady s!"channel '{channel.name}' is {channel.state.name}")

def recordPublished (channel : Channel) (payload : List UInt8) : Except Error Channel :=
  (channel.value.set payload).map fun value =>
    { channel with value, published := channel.published + 1 }

def recordSendBuffer (channel : Channel) (info : SendBuffer) (delivered : Bool) : Channel :=
  { channel with
    sendBuffer := info
    delivered := if delivered then channel.delivered + 1 else channel.delivered }

def setOperational (channel : Channel) : Except Error Channel :=
  if channel.state = .connected then
    .ok { channel with state := .operational }
  else
    .error (.badState "set channel operational" channel.state)

/-- The moves a transport may announce between the states other than aborted. -/
def mayMove : ConnectionState → ConnectionState → Bool
  | .disconnected, .connected => true
  | .connected, .operational => true
  | .operational, .connected => true
  | .connected, .disconnected => true
  | .operational, .disconnected => true
  | _, _ => false

/-- The fault of an abortion that came without one. -/
def abortedByTransport : Fault :=
  ⟨.system, "channel aborted by transport"⟩

/--
Follow an announced move.  Any state may become aborted and aborted never moves on; staying in place
is no move and takes no fault in.
-/
def transition (channel : Channel) (state : ConnectionState) (fault : Option Fault) :
    Except Error (Option Channel) :=
  if state = .aborted then
    .ok (some { channel with state, lastError := some (fault.getD abortedByTransport) })
  else if channel.state = .aborted then
    .error (.badState "change channel state" channel.state)
  else if channel.state = state then
    .ok none
  else if mayMove channel.state state then
    .ok (some { channel with state, lastError := fault <|> channel.lastError })
  else
    .error (.badState "change channel state" channel.state)

def travelTime (sent now : Nettime) : Int :=
  (now - sent).toInt

/-- Put a payload that fits where received values go. -/
def store (channel : Channel) (payload : List UInt8) (sent : Nettime) (latency : Int) :
    Channel × Reception :=
  match channel.buffer with
  | some ring =>
      match ring.push ⟨payload, sent⟩ with
      | (ring, .ok _) =>
          ({ channel with buffer := some ring, latency := channel.latency.record latency },
            .accepted latency)
      | (ring, .error _) =>
          ({ channel with buffer := some ring }, .overflowed ring.overflows)
  | none =>
      ({ channel with
          value := ⟨payload⟩
          nettime := sent
          updated := true
          latency := channel.latency.record latency }, .accepted latency)

/-- Take a received payload in.  One of the wrong size is refused and remembered as a fault. -/
def receive (channel : Channel) (payload : List UInt8) (sent now : Nettime) :
    Channel × Except Error Reception :=
  if !channel.direction.canSubscribe then
    (channel, .error (.notAllowed s!"channel '{channel.name}' is publish-only"))
  else
    match channel.value.check payload with
    | .error error =>
        ({ channel with lastError := some ⟨.badDatasetSize, error.message⟩ }, .error error)
    | .ok _ =>
        let (channel, reception) := channel.store payload sent (travelTime sent now)
        (channel, .ok reception)

def reset (channel : Channel) : Channel :=
  { channel with state := .disconnected }

/-- Forget what belongs to the last session: state, fault, flag, acknowledgements and samples. -/
def prepare (channel : Channel) : Channel :=
  { channel with
    state := .disconnected
    lastError := none
    updated := false
    sendBuffer := SendBuffer.unknown
    buffer := channel.buffer.map Ring.clear }

def inspect (channel : Channel) : String :=
  Inspect.record "Channel"
    [("id", ChannelId.inspect channel.id),
      ("name", Inspect.quoted channel.name),
      ("direction", channel.direction.name),
      ("state", channel.state.name),
      ("last_error", Inspect.option (channel.lastError.map Fault.inspect)),
      ("value", channel.value.inspect),
      ("nettime", toString channel.nettime.toInt),
      ("updated", toString channel.updated),
      ("buffer", Inspect.option (channel.buffer.map (Ring.inspect Sample.inspect))),
      ("send_buffer", channel.sendBuffer.inspect),
      ("published_count", toString channel.published),
      ("delivered_count", toString channel.delivered),
      ("latency", channel.latency.inspect)]

end Channel

end DatasetSync
