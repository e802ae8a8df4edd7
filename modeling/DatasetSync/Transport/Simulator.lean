import DatasetSync.Transport

/-!
# The simulated transport

A transport without a wire, together with the peer at its far end.  By default it acknowledges
registration, promotion and every payload the way a healthy server would.  The peer can inject any
event, set the network clock, make the next request of a kind fail, and look at what was sent.

Acknowledgements come before injected events when the transport is polled, and nothing that belongs
to a session is delivered after its end.
-/

namespace DatasetSync

/-- A payload that was put on the wire. -/
structure Frame where
  session : Session
  channel : ChannelId
  payload : List UInt8
  deriving DecidableEq, Repr, Inhabited

structure Registration where
  session : Session
  linkName : String
  channels : List Descriptor
  deriving DecidableEq, Repr, Inhabited

/-- A transport and its peer, in memory. -/
structure Simulator where
  /-- Requests are acknowledged without the peer's doing. -/
  acknowledges : Bool := true
  clock : Nettime := 0
  session : Option Session := none
  nextSession : Session := 1
  /-- Acknowledgements not yet fetched. -/
  acknowledgements : List InboundEvent := []
  /-- Events of the peer not yet fetched. -/
  injected : List InboundEvent := []
  failRegister : Option Fault := none
  failPromote : Option Fault := none
  failSend : Option Fault := none
  frames : List Frame := []
  registrations : List Registration := []
  deregistrations : Nat := 0
  traffic : Traffic := Traffic.none
  deriving DecidableEq, Repr

namespace Simulator

instance : Inhabited Simulator := ⟨{}⟩

def bufferSize : Nat := 32

def bufferInUse : SendBuffer := ⟨bufferSize, bufferSize - 1, 1⟩

def bufferFree : SendBuffer := ⟨bufferSize, bufferSize, 0⟩

/-- Queue acknowledgements, unless the peer has to send them itself. -/
def acknowledge (sim : Simulator) (events : List InboundEvent) : Simulator :=
  if sim.acknowledges then { sim with acknowledgements := sim.acknowledgements ++ events } else sim

def unknownSession (session : Session) : Fault :=
  ⟨.badLinkHandle, s!"{session.label} is not registered"⟩

/-- The events that confirm a registration: the link first, then each channel. -/
def registered (channels : List Descriptor) : List InboundEvent :=
  .linkStateChanged .connected none ::
    channels.map fun descriptor => .channelStateChanged descriptor.id .connected none

def openSession (sim : Simulator) (linkName : String) (channels : List Descriptor) : Simulator :=
  { sim with
    session := some sim.nextSession
    nextSession := sim.nextSession + 1
    acknowledgements := if sim.acknowledges then registered channels else []
    registrations := sim.registrations ++ [⟨sim.nextSession, linkName, channels⟩] }

/-- Open a session, unless the peer refuses or one is open. -/
def register (sim : Simulator) (linkName : String) (channels : List Descriptor) :
    Trail Note (Simulator × Except Fault Session) :=
  match sim.failRegister with
  | some fault => pure ({ sim with failRegister := none }, .error fault)
  | none =>
      match sim.session with
      | some session =>
          pure (sim, .error ⟨.notAllowed, s!"{session.label} is still registered"⟩)
      | none => do
          let session := sim.nextSession
          Trail.mark {
            severity := .debug, source := .transport
            text := s!"Mock transport registered {linkName} as {session.label}" }
          return (sim.openSession linkName channels, .ok session)

def promote (sim : Simulator) (session : Session) : Simulator × Except Fault Unit :=
  if sim.session ≠ some session then
    (sim, .error (unknownSession session))
  else
    match sim.failPromote with
    | some fault => ({ sim with failPromote := none }, .error fault)
    | none => (sim.acknowledge [.linkStateChanged .operational none], .ok ())

def send (sim : Simulator) (session : Session) (channel : ChannelId) (payload : List UInt8) :
    Simulator × Except Fault Unit :=
  if sim.session ≠ some session then
    (sim, .error (unknownSession session))
  else
    match sim.failSend with
    | some fault =>
        ({ sim with failSend := none, traffic := sim.traffic.recordFailure }, .error fault)
    | none =>
        let sim : Simulator := { sim with
          frames := sim.frames ++ [⟨session, channel, payload⟩]
          traffic := sim.traffic.recordSend payload.length }
        (sim.acknowledge [.publishAcknowledged channel bufferInUse,
          .deliveryAcknowledged channel bufferFree], .ok ())

def poll (sim : Simulator) (session : Session) : Simulator × List InboundEvent :=
  if sim.session ≠ some session then
    (sim, [])
  else
    let events := sim.acknowledgements ++ sim.injected
    ({ sim with
        acknowledgements := []
        injected := []
        traffic := sim.traffic.recordPoll events.length }, events)

/-- Close the open session and drop what was meant for it. -/
def deregister (sim : Simulator) (session : Session) : Trail Note Simulator :=
  if sim.session ≠ some session then
    pure sim
  else do
    Trail.mark {
      severity := .debug, source := .transport
      text := s!"Mock transport deregistered {session.label}" }
    return { sim with
      session := none
      acknowledgements := []
      injected := []
      deregistrations := sim.deregistrations + 1 }

instance : Transport Simulator where
  register := register
  promote sim session := pure (sim.promote session)
  send sim session channel payload := pure (sim.send session channel payload)
  poll sim session := pure (sim.poll session)
  deregister := deregister
  nettime := clock

/-! ## What the peer can do -/

def inject (sim : Simulator) (event : InboundEvent) : Simulator :=
  { sim with injected := sim.injected ++ [event] }

def updateAt (sim : Simulator) (channel : ChannelId) (payload : List UInt8) (sent : Nettime) :
    Simulator :=
  sim.inject (.channelUpdated channel payload sent)

def update (sim : Simulator) (channel : ChannelId) (payload : List UInt8) : Simulator :=
  sim.updateAt channel payload sim.clock

def abortLink (sim : Simulator) (fault : Fault) : Simulator :=
  sim.inject (.linkStateChanged .aborted (some fault))

def abortChannel (sim : Simulator) (channel : ChannelId) (fault : Fault) : Simulator :=
  sim.inject (.channelStateChanged channel .aborted (some fault))

def takeFrames (sim : Simulator) : List Frame × Simulator :=
  (sim.frames, { sim with frames := [] })

def takeRegistrations (sim : Simulator) : List Registration × Simulator :=
  (sim.registrations, { sim with registrations := [] })

end Simulator

end DatasetSync
