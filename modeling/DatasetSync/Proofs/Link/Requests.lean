import DatasetSync.Link.Session
import DatasetSync.Proofs.Channel
import DatasetSync.Proofs.Link.Events

/-!
# What the requests of a link come to

One statement for each operation that calls on the transport: the link after it, its answer and the
calls made, for everything the transport may answer.
-/

namespace DatasetSync

namespace Link

variable {T α : Type}

/-! ## Sessions -/

section Sessions

variable [Transport T]

@[simp] theorem value_request (asked : Trail Note α) (call : α → Call) :
    (request asked call).value = asked.value := rfl

@[simp] theorem calls_request (asked : Trail Note α) (call : α → Call) :
    (request asked call).calls = [call asked.value] := by
  simp [request]

def refusedBy (link : Link T) (transport : T) (fault : Fault) : Link T :=
  { link with transport, state := .aborted, lastError := some fault }

/-- A session can be opened: the link is disconnected and has none. -/
def MayConnect (link : Link T) : Prop :=
  link.state = .disconnected ∧ link.session = none

def MayDisconnect (link : Link T) : Prop :=
  link.state ≠ .disconnected ∨ link.session ≠ none

instance (link : Link T) : Decidable link.MayConnect :=
  inferInstanceAs (Decidable (link.state = .disconnected ∧ link.session = none))

instance (link : Link T) : Decidable link.MayDisconnect :=
  inferInstanceAs (Decidable (link.state ≠ .disconnected ∨ link.session ≠ none))

/-- What opening a session comes to: the link after it, the answer and the requests made. -/
inductive Connecting (link : Link T) : Link T → Except Error Unit → List Call → Prop where
  | refused (shut : ¬ link.MayConnect) :
      Connecting link link (.error (.badState "connect" link.state)) []
  | opened {transport : T} {session : Session} (may : link.MayConnect)
      (answer : (Transport.register link.transport link.instanceName
        (link.prepare.channels.map Channel.descriptor)).value = (transport, .ok session)) :
      Connecting link { link.prepare with transport, session := some session } (.ok ())
        [.register link.instanceName true]
  | failed {transport : T} {fault : Fault} (may : link.MayConnect)
      (answer : (Transport.register link.transport link.instanceName
        (link.prepare.channels.map Channel.descriptor)).value = (transport, .error fault)) :
      Connecting link (link.prepare.refusedBy transport fault) (.error (.transportAborted fault))
        [.register link.instanceName false]

theorem register_opened {link : Link T} {transport : T} {session : Session}
    (answer : (Transport.register link.transport link.instanceName
      (link.channels.map Channel.descriptor)).value = (transport, .ok session)) :
    link.register.value = ({ link with transport, session := some session }, .ok ()) ∧
      link.register.calls = [.register link.instanceName true] := by
  refine ⟨?_, ?_⟩
  · simp only [register, Trail.value_bind, value_request, answer]
    rfl
  · simp [register, answer, Except.isOk, Except.toBool]

theorem register_failed {link : Link T} {transport : T} {fault : Fault}
    (answer : (Transport.register link.transport link.instanceName
      (link.channels.map Channel.descriptor)).value = (transport, .error fault)) :
    link.register.value = (link.refusedBy transport fault, .error (.transportAborted fault)) ∧
      link.register.calls = [.register link.instanceName false] := by
  refine ⟨?_, ?_⟩
  · simp only [register, Trail.value_bind, value_request, answer]
    rfl
  · simp [register, abort, answer, Except.isOk, Except.toBool]

theorem connect_cases (link : Link T) :
    Connecting link link.connect.value.1 link.connect.value.2 link.connect.calls := by
  unfold connect
  by_cases shut : link.state ≠ .disconnected ∨ link.isOpen
  · rw [if_pos shut]
    apply Connecting.refused
    rintro ⟨state, session⟩
    simp [state, isOpen, session] at shut
  · rw [if_neg shut]
    have may : link.MayConnect := by
      simpa [MayConnect, isOpen] using shut
    rcases answer : (Transport.register link.transport link.instanceName
      (link.prepare.channels.map Channel.descriptor)).value with ⟨transport, fault | session⟩
    · obtain ⟨value, calls⟩ : link.prepare.register.value = _ ∧ link.prepare.register.calls = _ :=
        register_failed answer
      rw [value, calls]
      exact .failed may answer
    · obtain ⟨value, calls⟩ : link.prepare.register.value = _ ∧ link.prepare.register.calls = _ :=
        register_opened answer
      rw [value, calls]
      exact .opened may answer

inductive Promoting (link : Link T) : Link T → Except Error Unit → List Call → Prop where
  | refused (unfit : link.state ≠ .connected ∨ link.session = none) :
      Promoting link link (.error (.badState "set operational" link.state)) []
  | asked {transport : T} {session : Session} (connected : link.state = .connected)
      (opened : link.session = some session)
      (answer : (Transport.promote link.transport session).value = (transport, .ok ())) :
      Promoting link { link with transport } (.ok ()) [.promote session true]
  | failed {transport : T} {session : Session} {fault : Fault} (connected : link.state = .connected)
      (opened : link.session = some session)
      (answer : (Transport.promote link.transport session).value = (transport, .error fault)) :
      Promoting link (link.refusedBy transport fault) (.error (.transportAborted fault))
        [.promote session false]

theorem setOperational_cases (link : Link T) :
    Promoting link link.setOperational.value.1 link.setOperational.value.2
      link.setOperational.calls := by
  unfold setOperational
  cases opened : link.session with
  | none => exact .refused (.inr opened)
  | some session =>
      by_cases connected : link.state = .connected
      · rcases answer : (Transport.promote link.transport session).value with
          ⟨transport, fault | granted⟩
        · have value : (link.promote session).value =
              (link.refusedBy transport fault, .error (.transportAborted fault)) := by
            simp only [promote, Trail.value_bind, value_request, answer]
            rfl
          have calls : (link.promote session).calls = [.promote session false] := by
            simp [promote, abort, answer, Except.isOk, Except.toBool]
          simp only [if_pos connected, value, calls]
          exact .failed connected opened answer
        · have value : (link.promote session).value = ({ link with transport }, .ok ()) := by
            simp only [promote, Trail.value_bind, value_request, answer]
            rfl
          have calls : (link.promote session).calls = [.promote session true] := by
            simp [promote, answer, Except.isOk, Except.toBool]
          simp only [if_pos connected, value, calls]
          exact .asked connected opened answer
      · simp only [if_neg connected]
        exact .refused (.inl connected)

/-- The transport decides what a request for promotion comes to. -/
theorem Promoting.unique {link first second : Link T} {answer told : Except Error Unit}
    {calls requests : List Call} (left : Promoting link first answer calls)
    (right : Promoting link second told requests) :
    first = second ∧ answer = told ∧ calls = requests := by
  have fit {session : Session} (connected : link.state = .connected)
      (opened : link.session = some session) :
      ¬ (link.state ≠ .connected ∨ link.session = none) := by
    rintro (unconnected | closed)
    · exact unconnected connected
    · cases opened.symm.trans closed
  cases left with
  | refused unfit =>
      cases right with
      | refused _ => exact ⟨rfl, rfl, rfl⟩
      | asked connected opened _ => exact (fit connected opened unfit).elim
      | failed connected opened _ => exact (fit connected opened unfit).elim
  | asked connected opened granted =>
      cases right with
      | refused unfit => exact (fit connected opened unfit).elim
      | asked _ same again =>
          cases opened.symm.trans same
          cases granted.symm.trans again
          exact ⟨rfl, rfl, rfl⟩
      | failed _ same refused =>
          cases opened.symm.trans same
          cases granted.symm.trans refused
  | failed connected opened refused =>
      cases right with
      | refused unfit => exact (fit connected opened unfit).elim
      | asked _ same granted =>
          cases opened.symm.trans same
          cases refused.symm.trans granted
      | failed _ same again =>
          cases opened.symm.trans same
          cases refused.symm.trans again
          exact ⟨rfl, rfl, rfl⟩

def closedTransport (link : Link T) : T :=
  match link.session with
  | none => link.transport
  | some session => (Transport.deregister link.transport session).value

theorem close_eq (link : Link T) :
    link.close.value = { link with transport := link.closedTransport, session := none } ∧
      link.close.calls = link.session.toList.map Call.deregister := by
  unfold close closedTransport
  cases opened : link.session with
  | none => simp [← opened]
  | some session =>
      refine ⟨rfl, ?_⟩
      simp

def ended (link : Link T) : Link T :=
  { link with
    transport := link.closedTransport
    session := none
    state := .disconnected
    connectedOnce := false
    channels := link.channels.map Channel.reset }

inductive Disconnecting (link : Link T) : Link T → Except Error Unit → List Call → Prop where
  | refused (nothing : ¬ link.MayDisconnect) :
      Disconnecting link link (.error (.badState "disconnect" link.state)) []
  | closed (may : link.MayDisconnect) :
      Disconnecting link link.ended (.ok ()) (link.session.toList.map Call.deregister)

theorem disconnect_cases (link : Link T) :
    Disconnecting link link.disconnect.value.1 link.disconnect.value.2 link.disconnect.calls := by
  unfold disconnect
  by_cases nothing : link.state = .disconnected ∧ (!link.isOpen) = true
  · rw [if_pos nothing]
    apply Disconnecting.refused
    rintro (state | session)
    · exact state nothing.1
    · simp [isOpen] at nothing
      exact session nothing.2
  · rw [if_neg nothing]
    have may : link.MayDisconnect := by
      simp [isOpen] at nothing
      by_cases state : link.state = .disconnected
      · exact .inr (nothing state)
      · exact .inl state
    obtain ⟨value, calls⟩ := link.close_eq
    simp only [Trail.value_bind, Trail.value_pure, Trail.calls_bind, value, calls]
    simpa [ended, mapChannels] using Disconnecting.closed may

end Sessions

end Link

/-! ## Publishing -/

namespace Link

variable {T : Type} [Transport T]

inductive Publishing (link : Link T) (id : ChannelId) (payload : List UInt8) :
    Link T → Except Error Unit → List Call → Prop where
  | refused {error : Error} (harmless : error.kind ≠ .transportAborted)
      (waits : ∀ channel, link.channels[id]? = some channel → channel.Takes payload →
        error.kind = .notReady ∧ (link.session = none ∨ link.state.isConnected = false)) :
      Publishing link id payload link (.error error) []
  | failed {channel : Channel} {session : Session} {transport : T} {fault : Fault}
      (found : link.channels[id]? = some channel) (takes : channel.Takes payload)
      (opened : link.session = some session) (connected : link.state.isConnected = true)
      (answer : (Transport.send link.transport session id payload).value =
        (transport, .error fault)) :
      Publishing link id payload (link.refusedBy transport fault)
        (.error (.transportAborted fault)) [.send session id payload false]
  | sent {channel : Channel} {session : Session} {transport : T}
      (found : link.channels[id]? = some channel) (takes : channel.Takes payload)
      (opened : link.session = some session) (connected : link.state.isConnected = true)
      (answer : (Transport.send link.transport session id payload).value = (transport, .ok ())) :
      Publishing link id payload ({ link with transport }.setChannel id (channel.sentOn payload))
        (.ok ()) [.send session id payload true]

theorem sendOn_cases {link : Link T} {id : ChannelId} {payload : List UInt8} {channel : Channel}
    {session : Session} (found : link.channels[id]? = some channel)
    (takes : channel.Takes payload) (opened : link.session = some session)
    (connected : link.state.isConnected = true) :
    Publishing link id payload (link.sendOn session id channel payload).value.1
      (link.sendOn session id channel payload).value.2
      (link.sendOn session id channel payload).calls := by
  have recorded := Channel.recordPublished_eq takes.fits
  rcases answer : (Transport.send link.transport session id payload).value with
    ⟨transport, fault | granted⟩
  · have value : (link.sendOn session id channel payload).value =
        (link.refusedBy transport fault, .error (.transportAborted fault)) := by
      simp only [sendOn, Trail.value_bind, value_request, answer]
      rfl
    have calls : (link.sendOn session id channel payload).calls =
        [.send session id payload false] := by
      simp [sendOn, abort, answer, Except.isOk, Except.toBool]
    rw [value, calls]
    exact .failed found takes opened connected answer
  · have value : (link.sendOn session id channel payload).value =
        ({ link with transport }.setChannel id (channel.sentOn payload), .ok ()) := by
      simp only [sendOn, Trail.value_bind, value_request, answer, recorded]
      rfl
    have calls : (link.sendOn session id channel payload).calls =
        [.send session id payload true] := by
      simp [sendOn, answer, recorded, Except.isOk, Except.toBool]
    rw [value, calls]
    exact .sent found takes opened connected answer

theorem publish_cases (link : Link T) (id : ChannelId) (payload : List UInt8) :
    Publishing link id payload (link.publish id payload).value.1
      (link.publish id payload).value.2 (link.publish id payload).calls := by
  unfold publish channel
  cases found : link.channels[id]? with
  | none =>
      apply Publishing.refused
      · simp [noSuchChannel, Error.kind]
      · intro channel there
        rw [found] at there
        cases there
  | some channel =>
      have only (other : Channel) (there : link.channels[id]? = some other) : other = channel := by
        rw [found] at there
        cases there
        rfl
      cases checked : channel.checkPublish payload with
      | error error =>
          obtain ⟨harmless, unfit⟩ := Channel.not_takes_of_checkPublish checked
          simp only [checked]
          refine .refused harmless (fun other there takes => ?_)
          rw [only other there] at takes
          exact (unfit takes).elim
      | ok done =>
          have takes := Channel.takes_of_checkPublish checked
          have late : link.notConnected.kind = .notReady := rfl
          cases opened : link.session with
          | none =>
              simp only [checked]
              exact .refused (by rw [late]; decide) (fun _ _ _ => ⟨late, .inl opened⟩)
          | some session =>
              simp only [checked]
              cases connected : link.state.isConnected with
              | false =>
                  exact .refused (by rw [late]; decide) (fun _ _ _ => ⟨late, .inr connected⟩)
              | true => exact sendOn_cases found takes opened connected

/-- What was sent was allowed. -/
theorem Publishing.takes {link after : Link T} {id : ChannelId} {payload : List UInt8}
    {answer : Except Error Unit} {calls : List Call} {channel : Channel}
    (outcome : Publishing link id payload after answer calls) (granted : answer.isOk = true)
    (found : link.channels[id]? = some channel) : channel.Takes payload := by
  cases outcome with
  | refused harmless waits => cases granted
  | failed there takes opened connected answer => cases granted
  | sent there takes opened connected answer =>
      cases found.symm.trans there
      exact takes

/-! ## Polling -/

/-- With no session there is nothing to fetch. -/
theorem process_closed {link : Link T} (closed : link.session = none) :
    link.process.value.1 = link ∧ link.process.calls = [] := by
  unfold process
  rw [closed]
  exact ⟨rfl, rfl⟩

/-- With a session open, what the transport hands over is applied in order. -/
theorem process_opened {link : Link T} {session : Session} {transport : T}
    {events : List InboundEvent} (opened : link.session = some session)
    (answer : (Transport.poll link.transport session).value = (transport, events)) :
    link.process.value.1 =
        events.foldl (fun link event => (link.dispatch event).value.1) { link with transport } ∧
      link.process.calls = [.poll session events.length] := by
  obtain ⟨value, calls⟩ := dispatchAll_value { link with transport } events
  unfold process
  rw [opened] at value calls ⊢
  simp only [Trail.value_bind, value_request, Trail.calls_bind, calls_request, answer]
  rw [← value, calls]
  refine ⟨?_, ?_⟩
  · split <;> rfl
  · split <;> rfl

end Link

end DatasetSync
