import DatasetSync.Proofs.Controller.Upkeep
import DatasetSync.Proofs.Transport.Simulator

/-!
# The simulated wire

Over the simulated transport, the frames on the wire are the granted requests to send, and sessions
are numbered in the order in which they are opened.  An old session is left for good once its link
is aborted.
-/

namespace DatasetSync

/-! ## What an operation of the link does to the wire -/

namespace Link

/-- The session of a link is still the same one, and then an abort is final, or it is a new one with
a higher number. -/
structure Succeeds (link after : Link Simulator) : Prop where
  next_le : link.transport.nextSession ≤ after.transport.nextSession
  session {current : Session} (opened : after.session = some current) :
    link.session = some current ∧ (link.state = .aborted → after.state = .aborted) ∨
      link.transport.nextSession ≤ current ∧ current < after.transport.nextSession

namespace Succeeds

variable {link middle after : Link Simulator}

/-- The session stays. -/
theorem same (next : after.transport.nextSession = link.transport.nextSession)
    (session : after.session = link.session)
    (state : link.state = .aborted → after.state = .aborted) : link.Succeeds after := by
  refine ⟨Nat.le_of_eq next.symm, fun opened => ?_⟩
  rw [session] at opened
  exact .inl ⟨opened, state⟩

theorem trans (first : link.Succeeds middle) (second : middle.Succeeds after) :
    link.Succeeds after := by
  refine ⟨Nat.le_trans first.next_le second.next_le, fun opened => ?_⟩
  rcases second.session opened with ⟨kept, final⟩ | ⟨above, below⟩
  · rcases first.session kept with ⟨same, before⟩ | ⟨above, below⟩
    · exact .inl ⟨same, final ∘ before⟩
    · exact .inr ⟨above, Nat.lt_of_lt_of_le below second.next_le⟩
  · exact .inr ⟨Nat.le_trans first.next_le above, below⟩

end Succeeds

/-- A link over the simulated wire before and after some requests. -/
structure Advances (link after : Link Simulator) (calls : List Call) : Prop where
  frames : after.transport.frames = link.transport.frames ++ framesOf calls
  succeeds : link.Succeeds after

namespace Advances

variable {link middle after : Link Simulator} {early late calls : List Call}

theorem refl (link : Link Simulator) : link.Advances link [] :=
  ⟨(List.append_nil _).symm, .same rfl rfl id⟩

theorem trans (first : link.Advances middle early) (second : middle.Advances after late) :
    link.Advances after (early ++ late) := by
  refine ⟨?_, first.succeeds.trans second.succeeds⟩
  rw [second.frames, first.frames, framesOf_append, List.append_assoc]

/-- The session stays and the wire is not used. -/
theorem silent (silent : link.transport.Silent after.transport)
    (session : after.session = link.session)
    (state : link.state = .aborted → after.state = .aborted) (unsent : framesOf calls = []) :
    link.Advances after calls := by
  refine ⟨?_, .same silent.nextSession session state⟩
  rw [silent.frames, unsent, List.append_nil]

end Advances

variable {link after : Link Simulator} {calls : List Call} {answer : Except Error Unit}

theorem Connecting.advances (outcome : Connecting link after answer calls) :
    link.Advances after calls := by
  cases outcome with
  | refused shut => exact .refl link
  | opened may granted =>
      obtain ⟨frames, number, next⟩ := Simulator.register_granted granted
      refine ⟨?_, ?_, fun opened => .inr ?_⟩
      · change _ = link.transport.frames ++ []
        rw [List.append_nil]
        exact frames
      · rw [next]
        exact Nat.le_succ _
      · cases opened
        rw [number, next]
        exact ⟨Nat.le_refl _, Nat.lt_succ_self _⟩
  | failed may refused => exact .silent (Simulator.register_refused refused) rfl (fun _ => rfl) rfl

theorem Promoting.advances (outcome : Promoting link after answer calls) :
    link.Advances after calls := by
  cases outcome with
  | refused unfit => exact .refl link
  | @asked _ session connected opened granted =>
      have silent := link.transport.promote_silent session
      rw [granted] at silent
      exact .silent silent rfl id rfl
  | @failed _ session _ connected opened refused =>
      have silent := link.transport.promote_silent session
      rw [refused] at silent
      exact .silent silent rfl (fun _ => rfl) rfl

theorem Disconnecting.advances (outcome : Disconnecting link after answer calls) :
    link.Advances after calls := by
  cases outcome with
  | refused nothing => exact .refl link
  | closed may =>
      have silent : link.transport.Silent link.closedTransport := by
        unfold closedTransport
        cases link.session with
        | none => exact ⟨rfl, rfl⟩
        | some session => exact link.transport.deregister_silent session
      refine ⟨?_, Nat.le_of_eq silent.nextSession.symm, fun opened => ?_⟩
      · have unsent : framesOf (link.session.toList.map Call.deregister) = [] := by
          cases link.session <;> rfl
        rw [unsent, List.append_nil]
        exact silent.frames
      · cases opened

theorem Publishing.advances {id : ChannelId} {payload : List UInt8}
    (outcome : Publishing link id payload after answer calls) : link.Advances after calls := by
  cases outcome with
  | refused harmless waits => exact .refl link
  | failed found takes opened connected refused =>
      exact .silent (Simulator.send_refused refused) rfl (fun _ => rfl) rfl
  | sent found takes opened connected granted =>
      obtain ⟨frames, next⟩ := Simulator.send_granted granted
      exact ⟨frames, .same next rfl fun down => down⟩

theorem events_advances (link : Link Simulator) (events : List InboundEvent) :
    link.Advances (events.foldl (fun link event => (link.dispatch event).value.1) link) [] := by
  induction events generalizing link with
  | nil => exact .refl link
  | cons event rest ih =>
      have dispatched := (link.dispatch_spec event).1
      have first : link.Advances (link.dispatch event).value.1 [] := by
        refine .silent ?_ dispatched.session (fun aborted => ?_) rfl
        · rw [dispatched.transport]
          exact ⟨rfl, rfl⟩
        · rw [dispatched.state, aborted, stateAfter_aborted]
      exact first.trans (ih _)

theorem process_advances (link : Link Simulator) :
    link.Advances link.process.value.1 link.process.calls := by
  cases opened : link.session with
  | none =>
      rw [(process_closed opened).1, (process_closed opened).2]
      exact .refl link
  | some session =>
      obtain ⟨value, calls⟩ := process_opened opened rfl
      rw [value, calls]
      have polled : link.Advances
          { link with transport := (Transport.poll link.transport session).value.1 }
          [.poll session (Transport.poll link.transport session).value.2.length] :=
        .silent (link.transport.poll_silent session) rfl id rfl
      exact polled.trans (events_advances _ _)

end Link

/-! ## What a cycle does to the wire -/

namespace Controller

variable {L : Type} {controller after : Controller Simulator L} {calls : List Call}

theorem Sending.advances {ids : List ChannelId} (sending : Sending controller ids after calls) :
    controller.link.Advances after.link calls := by
  induction sending with
  | done controller => exact .refl controller.link
  | unchanged same next ih => exact ih
  | waits change closed next ih => exact ih
  | stopped change outcome final stands =>
      rw [stands.link_eq]
      exact outcome.advances
  | sent change outcome next ih => exact outcome.advances.trans ih

section Cycles

variable [Log.Logger L]

theorem exchange_advances (controller : Controller Simulator L) :
    controller.link.Advances controller.exchange.value.link controller.exchange.calls := by
  obtain ⟨base, keeps, value, asked⟩ := controller.exchange_eq
  have processed : controller.link.Advances base.link controller.link.process.calls := by
    rw [keeps.link_eq]
    exact controller.link.process_advances
  have copied : base.link.Advances base.copySubscriptions.link [] := by
    rw [base.copySubscriptions_rests.link]
    exact .silent ⟨rfl, rfl⟩ rfl id rfl
  have sent : base.copySubscriptions.link.Advances base.flush.value.link base.flush.calls :=
    (base.copySubscriptions.publishChanges_sending _).advances
  obtain ⟨phase, _, stands⟩ := base.flush.value.concluded_stands
  rw [value, asked, stands.link_eq]
  exact processed.trans (copied.trans sent)

theorem Running.advances {go : Bool}
    (outcome : Running controller go after calls) :
    controller.link.Advances after.link calls := by
  cases outcome with
  | @exchanged ready early prepared =>
      have first : controller.link.Advances ready.link early := by
        cases prepared with
        | promoted phase started connected outcome => exact outcome.advances
        | halted waits => exact .refl _
        | waiting phase started unconnected => exact .refl _
        | operational phase started top => exact .refl _
        | running phase started => exact .refl _
      exact first.trans ready.exchange_advances
  | refused phase started connected outcome stands =>
      rw [stands.link_eq]
      exact outcome.advances

theorem cycle_advances (controller : Controller Simulator L) (enable go : Bool) :
    controller.link.Advances (controller.cycle enable go).value.link
      (controller.cycle enable go).calls := by
  have outcome := controller.cycle_cases enable go
  generalize (controller.cycle enable go).value = after,
    (controller.cycle enable go).calls = calls at outcome ⊢
  cases outcome with
  | idle phase stands =>
      rw [stands.link_eq]
      exact .refl _
  | waited enabled phase stands =>
      rw [stands.link_eq]
      exact .refl _
  | connected enabled phase outcome stands =>
      rw [stands.link_eq]
      exact outcome.advances
  | ran enabled phase begins outcome keeps =>
      have ran := outcome.advances
      rw [begins.link_eq, ← keeps.link_eq] at ran
      exact ran
  | ended phase due outcome stands =>
      rw [stands.link_eq]
      exact outcome.advances

end Cycles

end Controller

end DatasetSync
