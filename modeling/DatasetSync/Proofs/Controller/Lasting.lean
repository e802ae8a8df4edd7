import DatasetSync.Proofs.Controller.Uptake

/-!
# What lasts through every cycle

A controller gets at its transport only by the five requests.  So whatever none of them changes is
not changed by a cycle either.  On the simulated transport, what lasts is that every session which
was registered has been deregistered, except for the one that is open.
-/

namespace DatasetSync

/-- No request makes untrue what holds of a transport. -/
structure Transport.Lasting {T : Type} [Transport T] (holds : T → Prop) : Prop where
  register {transport : T} (before : holds transport) (linkName : String)
    (channels : List Descriptor) : holds (Transport.register transport linkName channels).value.1
  promote {transport : T} (before : holds transport) (session : Session) :
    holds (Transport.promote transport session).value.1
  send {transport : T} (before : holds transport) (session : Session) (id : ChannelId)
    (payload : List UInt8) : holds (Transport.send transport session id payload).value.1
  poll {transport : T} (before : holds transport) (session : Session) :
    holds (Transport.poll transport session).value.1
  deregister {transport : T} (before : holds transport) (session : Session) :
    holds (Transport.deregister transport session).value

open Transport (Lasting)

variable {T L : Type} [Transport T] {holds : T → Prop}

/-! ## Links -/

namespace Link

variable {link after : Link T} {answer : Except Error Unit} {calls : List Call}

theorem Connecting.lasting (lasting : Lasting holds) (outcome : Connecting link after answer calls)
    (before : holds link.transport) : holds after.transport := by
  have registered := lasting.register before link.instanceName
    (link.prepare.channels.map Channel.descriptor)
  cases outcome with
  | refused shut => exact before
  | opened may granted =>
      rw [granted] at registered
      exact registered
  | failed may refused =>
      rw [refused] at registered
      exact registered

theorem Promoting.lasting (lasting : Lasting holds) (outcome : Promoting link after answer calls)
    (before : holds link.transport) : holds after.transport := by
  cases outcome with
  | refused unfit => exact before
  | @asked _ session connected opened granted =>
      have promoted := lasting.promote before session
      rw [granted] at promoted
      exact promoted
  | @failed _ session _ connected opened refused =>
      have promoted := lasting.promote before session
      rw [refused] at promoted
      exact promoted

theorem Publishing.lasting (lasting : Lasting holds) {id : ChannelId} {payload : List UInt8}
    (outcome : Publishing link id payload after answer calls) (before : holds link.transport) :
    holds after.transport := by
  cases outcome with
  | refused harmless waits => exact before
  | @failed _ session _ _ found takes opened connected refused =>
      have sent := lasting.send before session id payload
      rw [refused] at sent
      exact sent
  | @sent _ session _ found takes opened connected granted =>
      have sent := lasting.send before session id payload
      rw [granted] at sent
      exact sent

theorem Disconnecting.lasting (lasting : Lasting holds)
    (outcome : Disconnecting link after answer calls) (before : holds link.transport) :
    holds after.transport := by
  cases outcome with
  | refused nothing => exact before
  | closed may =>
      change holds link.closedTransport
      unfold closedTransport
      cases link.session with
      | none => exact before
      | some session => exact lasting.deregister before session

theorem process_lasting (lasting : Lasting holds) (before : holds link.transport) :
    holds link.process.value.1.transport := by
  cases opened : link.session with
  | none =>
      rw [(process_closed opened).1]
      exact before
  | some session =>
      obtain ⟨value, _⟩ := process_opened opened rfl
      obtain ⟨_, transport⟩ := events_frame
        { link with transport := (Transport.poll link.transport session).value.1 }
        (Transport.poll link.transport session).value.2
      rw [value, transport]
      exact lasting.poll before session

/-- What lasts through the requests to the transport lasts through those to the link. -/
theorem Operation.Driven.lasting (lasting : Lasting holds) {operation : Operation T}
    (driven : operation.Driven) {link : Link T} (before : holds link.transport) :
    holds (operation.run link).transport := by
  cases driven with
  | connect => exact link.connect_cases.lasting lasting before
  | setOperational => exact link.setOperational_cases.lasting lasting before
  | disconnect => exact link.disconnect_cases.lasting lasting before
  | publish id payload => exact (link.publish_cases id payload).lasting lasting before
  | takeUpdated id =>
      change holds (link.takeUpdated id).1.transport
      rw [takeUpdated_link, changeChannel_frame]
      exact before
  | process => exact process_lasting lasting before

end Link

/-- What lasts through the requests lasts through a cycle. -/
theorem Controller.cycle_lasting [Log.Logger L] {controller : Controller T L}
    (lasting : Lasting holds) (before : holds controller.link.transport) (enable go : Bool) :
    holds (controller.cycle enable go).value.link.transport :=
  (controller.cycle_drives enable go).link.invariant (holds ·.transport)
    (fun driven _ => driven.lasting lasting) before

/-! ## The simulated transport -/

namespace Simulator

/-- Every session that was registered has been deregistered, but for the one that is open. -/
def Settled (sim : Simulator) : Prop :=
  sim.registrations.length = sim.deregistrations + sim.session.toList.length

theorem Settled.congr {sim after : Simulator} (settled : sim.Settled)
    (registrations : after.registrations = sim.registrations)
    (deregistrations : after.deregistrations = sim.deregistrations)
    (session : after.session = sim.session) : after.Settled := by
  rw [Settled, registrations, deregistrations, session]
  exact settled

theorem Settled.acknowledge {sim : Simulator} (settled : sim.Settled)
    (events : List InboundEvent) : (sim.acknowledge events).Settled := by
  unfold Simulator.acknowledge
  split
  · exact settled.congr rfl rfl rfl
  · exact settled

theorem settled_lasting : Lasting Settled := by
  refine ⟨fun {sim} settled linkName channels => ?_, fun {sim} settled session => ?_,
    fun {sim} settled session id payload => ?_, fun {sim} settled session => ?_,
    fun {sim} settled session => ?_⟩
  · change (sim.register linkName channels).value.1.Settled
    unfold register
    split
    · exact settled.congr rfl rfl rfl
    · split
      · exact settled
      · rename_i closed
        rw [Settled, closed] at settled
        change (sim.registrations ++ [_]).length = sim.deregistrations + 1
        rw [List.length_append, settled]
        rfl
  · change (sim.promote session).1.Settled
    unfold promote
    split
    · exact settled
    · split
      · exact settled.congr rfl rfl rfl
      · exact settled.acknowledge _
  · change (sim.send session id payload).1.Settled
    unfold send
    split
    · exact settled
    · split
      · exact settled.congr rfl rfl rfl
      · refine Settled.acknowledge ?_ _
        exact settled.congr rfl rfl rfl
  · change (sim.poll session).1.Settled
    unfold poll
    split
    · exact settled
    · exact settled.congr rfl rfl rfl
  · change (sim.deregister session).value.Settled
    unfold deregister
    split
    · exact settled
    · rename_i opened
      rw [Settled, not_not.mp opened] at settled
      exact settled

end Simulator

end DatasetSync
