import DatasetSync.Transport.Simulator

/-!
# Requests to the simulated transport

What a request puts on the wire, what it does to the session that is open, and which faults it can
meet.  As long as the handle is the open one, a request fails only because the peer made it fail.
-/

namespace DatasetSync

def payloadsOn (id : ChannelId) (frames : List Frame) : List (List UInt8) :=
  (frames.filter (·.channel == id)).map Frame.payload

theorem payloadsOn_append (id : ChannelId) (earlier later : List Frame) :
    payloadsOn id (earlier ++ later) = payloadsOn id earlier ++ payloadsOn id later := by
  rw [payloadsOn, List.filter_append, List.map_append]
  rfl

inductive PeerAction where
  | inject (event : InboundEvent)
  | setClock (now : Nettime)
  | acknowledge (automatically : Bool)
  | failRegister (fault : Fault)
  | failPromote (fault : Fault)
  | failSend (fault : Fault)
  | takeFrames
  | takeRegistrations

def PeerAction.act (sim : Simulator) : PeerAction → Simulator
  | .inject event => sim.inject event
  | .setClock now => { sim with clock := now }
  | .acknowledge automatically => { sim with acknowledges := automatically }
  | .failRegister fault => { sim with failRegister := some fault }
  | .failPromote fault => { sim with failPromote := some fault }
  | .failSend fault => { sim with failSend := some fault }
  | .takeFrames => sim.takeFrames.2
  | .takeRegistrations => sim.takeRegistrations.2

namespace Simulator

variable {sim after : Simulator} {session : Session}

/-- Nothing was put on the wire and no session was opened. -/
structure Silent (sim after : Simulator) : Prop where
  frames : after.frames = sim.frames
  nextSession : after.nextSession = sim.nextSession

theorem acknowledge_silent (sim : Simulator) (events : List InboundEvent) :
    sim.Silent (sim.acknowledge events) := by
  unfold acknowledge
  split <;> exact ⟨rfl, rfl⟩

theorem register_granted {linkName : String} {channels : List Descriptor}
    (answer : (Transport.register sim linkName channels).value = (after, .ok session)) :
    after.frames = sim.frames ∧ session = sim.nextSession ∧
      after.nextSession = sim.nextSession + 1 := by
  change (sim.register linkName channels).value = _ at answer
  unfold register at answer
  split at answer
  · cases answer
  · split at answer
    · cases answer
    · cases answer
      exact ⟨rfl, rfl, rfl⟩

theorem register_refused {linkName : String} {channels : List Descriptor} {fault : Fault}
    (answer : (Transport.register sim linkName channels).value = (after, .error fault)) :
    sim.Silent after := by
  change (sim.register linkName channels).value = _ at answer
  unfold register at answer
  split at answer
  · cases answer
    exact ⟨rfl, rfl⟩
  · split at answer
    · cases answer
      exact ⟨rfl, rfl⟩
    · cases answer

theorem promote_silent (sim : Simulator) (session : Session) :
    sim.Silent (Transport.promote sim session).value.1 := by
  change sim.Silent (sim.promote session).1
  unfold promote
  split
  · exact ⟨rfl, rfl⟩
  · split
    · exact ⟨rfl, rfl⟩
    · exact sim.acknowledge_silent _

theorem send_granted {id : ChannelId} {payload : List UInt8}
    (answer : (Transport.send sim session id payload).value = (after, .ok ())) :
    after.frames = sim.frames ++ [⟨session, id, payload⟩] ∧
      after.nextSession = sim.nextSession := by
  change sim.send session id payload = _ at answer
  unfold send at answer
  split at answer
  · cases answer
  · split at answer
    · cases answer
    · have silent := acknowledge_silent { sim with
        frames := sim.frames ++ [⟨session, id, payload⟩]
        traffic := sim.traffic.recordSend payload.length }
        [.publishAcknowledged id bufferInUse, .deliveryAcknowledged id bufferFree]
      cases answer
      exact ⟨silent.frames, silent.nextSession⟩

theorem send_refused {id : ChannelId} {payload : List UInt8} {fault : Fault}
    (answer : (Transport.send sim session id payload).value = (after, .error fault)) :
    sim.Silent after := by
  change sim.send session id payload = _ at answer
  unfold send at answer
  split at answer
  · cases answer
    exact ⟨rfl, rfl⟩
  · split at answer
    · cases answer
      exact ⟨rfl, rfl⟩
    · cases answer

theorem poll_silent (sim : Simulator) (session : Session) :
    sim.Silent (Transport.poll sim session).value.1 := by
  change sim.Silent (sim.poll session).1
  unfold poll
  split <;> exact ⟨rfl, rfl⟩

theorem deregister_silent (sim : Simulator) (session : Session) :
    sim.Silent (Transport.deregister sim session).value := by
  change sim.Silent (sim.deregister session).value
  unfold deregister
  split <;> exact ⟨rfl, rfl⟩

/-! ## Sessions -/

/-- No session was opened or ended. -/
structure SameSessions (sim after : Simulator) : Prop where
  session : after.session = sim.session
  nextSession : after.nextSession = sim.nextSession
  deregistrations : after.deregistrations = sim.deregistrations

theorem acknowledge_sameSessions (sim : Simulator) (events : List InboundEvent) :
    sim.SameSessions (sim.acknowledge events) := by
  unfold acknowledge
  split <;> exact ⟨rfl, rfl, rfl⟩

theorem register_opens {linkName : String} {channels : List Descriptor}
    (answer : (Transport.register sim linkName channels).value = (after, .ok session)) :
    after.session = some sim.nextSession ∧ after.deregistrations = sim.deregistrations := by
  change (sim.register linkName channels).value = _ at answer
  unfold register at answer
  split at answer
  · cases answer
  · split at answer
    · cases answer
    · cases answer
      exact ⟨rfl, rfl⟩

/-- With no session open, registering fails only because the peer made it fail. -/
theorem register_fault {linkName : String} {channels : List Descriptor} {fault : Fault}
    (closed : sim.session = none)
    (answer : (Transport.register sim linkName channels).value = (after, .error fault)) :
    sim.SameSessions after ∧ sim.failRegister = some fault := by
  change (sim.register linkName channels).value = _ at answer
  unfold register at answer
  split at answer
  · rename_i programmed
    cases answer
    exact ⟨⟨rfl, rfl, rfl⟩, programmed⟩
  · split at answer
    · rename_i still
      cases closed.symm.trans still
    · cases answer

theorem promote_sameSessions (sim : Simulator) (session : Session) :
    sim.SameSessions (Transport.promote sim session).value.1 := by
  change sim.SameSessions (sim.promote session).1
  unfold promote
  split
  · exact ⟨rfl, rfl, rfl⟩
  · split
    · exact ⟨rfl, rfl, rfl⟩
    · exact sim.acknowledge_sameSessions _

/-- With its session open, promotion fails only because the peer made it fail. -/
theorem promote_fault {fault : Fault} (opened : sim.session = some session)
    (answer : (Transport.promote sim session).value = (after, .error fault)) :
    sim.failPromote = some fault := by
  change sim.promote session = _ at answer
  unfold promote at answer
  rw [if_neg (not_not_intro opened)] at answer
  split at answer
  · rename_i programmed
    cases answer
    exact programmed
  · cases answer

theorem send_sameSessions (sim : Simulator) (session : Session) (id : ChannelId)
    (payload : List UInt8) :
    sim.SameSessions (Transport.send sim session id payload).value.1 := by
  change sim.SameSessions (sim.send session id payload).1
  unfold send
  split
  · exact ⟨rfl, rfl, rfl⟩
  · split
    · exact ⟨rfl, rfl, rfl⟩
    · have same := acknowledge_sameSessions { sim with
        frames := sim.frames ++ [⟨session, id, payload⟩]
        traffic := sim.traffic.recordSend payload.length }
        [.publishAcknowledged id bufferInUse, .deliveryAcknowledged id bufferFree]
      exact ⟨same.session, same.nextSession, same.deregistrations⟩

/-- With its session open, sending fails only because the peer made it fail. -/
theorem send_fault {id : ChannelId} {payload : List UInt8} {fault : Fault}
    (opened : sim.session = some session)
    (answer : (Transport.send sim session id payload).value = (after, .error fault)) :
    sim.failSend = some fault := by
  change sim.send session id payload = _ at answer
  unfold send at answer
  rw [if_neg (not_not_intro opened)] at answer
  split at answer
  · rename_i programmed
    cases answer
    exact programmed
  · cases answer

theorem poll_sameSessions (sim : Simulator) (session : Session) :
    sim.SameSessions (Transport.poll sim session).value.1 := by
  change sim.SameSessions (sim.poll session).1
  unfold poll
  split <;> exact ⟨rfl, rfl, rfl⟩

theorem deregister_ends (opened : sim.session = some session) :
    let after := (Transport.deregister sim session).value
    after.session = none ∧ after.nextSession = sim.nextSession ∧
      after.deregistrations = sim.deregistrations + 1 := by
  intro after
  have value : after = (sim.deregister session).value := rfl
  rw [value, deregister, if_neg (not_not_intro opened)]
  exact ⟨rfl, rfl, rfl⟩

/-! ## Traffic -/

/-- No payload was sent and none was refused.  The frames that were sent may have been fetched. -/
structure SameTraffic (sim after : Simulator) : Prop where
  frames : after.frames = sim.frames ∨ after.frames = []
  sent : after.traffic.sent = sim.traffic.sent
  bytes : after.traffic.bytes = sim.traffic.bytes
  failed : after.traffic.failed = sim.traffic.failed

theorem SameTraffic.refl (sim : Simulator) : sim.SameTraffic sim :=
  ⟨.inl rfl, rfl, rfl, rfl⟩

theorem acknowledge_sameTraffic (sim : Simulator) (events : List InboundEvent) :
    sim.SameTraffic (sim.acknowledge events) := by
  unfold acknowledge
  split <;> exact ⟨.inl rfl, rfl, rfl, rfl⟩

theorem register_sameTraffic (sim : Simulator) (linkName : String) (channels : List Descriptor) :
    sim.SameTraffic (Transport.register sim linkName channels).value.1 := by
  change sim.SameTraffic (sim.register linkName channels).value.1
  unfold register
  split
  · exact ⟨.inl rfl, rfl, rfl, rfl⟩
  · split <;> exact ⟨.inl rfl, rfl, rfl, rfl⟩

theorem promote_sameTraffic (sim : Simulator) (session : Session) :
    sim.SameTraffic (Transport.promote sim session).value.1 := by
  change sim.SameTraffic (sim.promote session).1
  unfold promote
  split
  · exact .refl sim
  · split
    · exact ⟨.inl rfl, rfl, rfl, rfl⟩
    · exact sim.acknowledge_sameTraffic _

theorem poll_sameTraffic (sim : Simulator) (session : Session) :
    sim.SameTraffic (Transport.poll sim session).value.1 := by
  change sim.SameTraffic (sim.poll session).1
  unfold poll
  split <;> exact ⟨.inl rfl, rfl, rfl, rfl⟩

theorem deregister_sameTraffic (sim : Simulator) (session : Session) :
    sim.SameTraffic (Transport.deregister sim session).value := by
  change sim.SameTraffic (sim.deregister session).value
  unfold deregister
  split <;> exact ⟨.inl rfl, rfl, rfl, rfl⟩

/-- A payload that is sent is counted with its size. -/
theorem send_counted {id : ChannelId} {payload : List UInt8}
    (answer : (Transport.send sim session id payload).value = (after, .ok ())) :
    after.traffic.sent = sim.traffic.sent + 1 ∧
      after.traffic.bytes = sim.traffic.bytes + payload.length ∧
      after.traffic.failed = sim.traffic.failed := by
  change sim.send session id payload = _ at answer
  unfold send at answer
  split at answer
  · cases answer
  · split at answer
    · cases answer
    · have same := acknowledge_sameTraffic { sim with
        frames := sim.frames ++ [⟨session, id, payload⟩]
        traffic := sim.traffic.recordSend payload.length }
        [.publishAcknowledged id bufferInUse, .deliveryAcknowledged id bufferFree]
      cases answer
      exact ⟨same.sent, same.bytes, same.failed⟩

/-- With its session open, a payload that is refused is counted as a failure. -/
theorem send_failure_counted {id : ChannelId} {payload : List UInt8} {fault : Fault}
    (opened : sim.session = some session)
    (answer : (Transport.send sim session id payload).value = (after, .error fault)) :
    after.traffic.sent = sim.traffic.sent ∧ after.traffic.bytes = sim.traffic.bytes ∧
      after.traffic.failed = sim.traffic.failed + 1 := by
  change sim.send session id payload = _ at answer
  unfold send at answer
  rw [if_neg (not_not_intro opened)] at answer
  split at answer
  · cases answer
    exact ⟨rfl, rfl, rfl⟩
  · cases answer

/-! ## Events that wait -/

def waiting (sim : Simulator) : List InboundEvent :=
  sim.acknowledgements ++ sim.injected

def emptied (sim : Simulator) : Simulator :=
  { sim with
    acknowledgements := []
    injected := []
    traffic := sim.traffic.recordPoll sim.waiting.length }

theorem poll_opened (opened : sim.session = some session) :
    (Transport.poll sim session).value = (sim.emptied, sim.waiting) := by
  change sim.poll session = _
  simp [poll, opened, emptied, waiting]

end Simulator

/-- The peer opens and ends no session. -/
theorem PeerAction.act_sameSessions (action : PeerAction) (sim : Simulator) :
    sim.SameSessions (action.act sim) := by
  cases action <;> exact ⟨rfl, rfl, rfl⟩

/-- The peer sends no payload in our name; it fetches all frames or none. -/
theorem PeerAction.act_sameTraffic (action : PeerAction) (sim : Simulator) :
    sim.SameTraffic (action.act sim) := by
  cases action with
  | takeFrames => exact ⟨.inr rfl, rfl, rfl, rfl⟩
  | inject event => exact ⟨.inl rfl, rfl, rfl, rfl⟩
  | setClock now => exact ⟨.inl rfl, rfl, rfl, rfl⟩
  | acknowledge automatically => exact ⟨.inl rfl, rfl, rfl, rfl⟩
  | failRegister fault => exact ⟨.inl rfl, rfl, rfl, rfl⟩
  | failPromote fault => exact ⟨.inl rfl, rfl, rfl, rfl⟩
  | failSend fault => exact ⟨.inl rfl, rfl, rfl, rfl⟩
  | takeRegistrations => exact ⟨.inl rfl, rfl, rfl, rfl⟩

end DatasetSync
