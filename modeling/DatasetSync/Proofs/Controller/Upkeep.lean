import DatasetSync.Proofs.Controller.Flush

/-!
# What a cycle keeps in order

From one cycle to the next a controller keeps its slots sound, has seen everything that came in, and
is at rest only with a link that is.  A cycle that leaves the link connected has sent everything
that was due.
-/

namespace DatasetSync

def Phase.AtRest (phase : Phase) : Prop :=
  phase = .idle ∨ phase = .connecting ∨ phase = .teardownWait

theorem Phase.not_atRest {phase : Phase}
    (busy : phase = .waitStart ∨ phase = .running ∨ phase = .teardown) : ¬ phase.AtRest := by
  rcases busy with rfl | rfl | rfl <;> rintro (impossible | impossible | impossible) <;>
    cases impossible

/-! ## Receiving -/

/-- A slot before and after inbound events.  The controller's own values are not touched, and the
channel stays what it is. -/
structure Slot.Receives (slot after : Slot) : Prop where
  value : after.value = slot.value
  held : after.held = slot.held
  direction : after.channel.direction = slot.channel.direction
  byteSize : after.channel.byteSize = slot.channel.byteSize
  buffered : after.channel.isBuffered = slot.channel.isBuffered

namespace Slot.Receives

variable {slot middle after : Slot}

theorem trans (first : slot.Receives middle) (second : middle.Receives after) :
    slot.Receives after :=
  ⟨second.value.trans first.value, second.held.trans first.held,
    second.direction.trans first.direction, second.byteSize.trans first.byteSize,
    second.buffered.trans first.buffered⟩

theorem sameData {channel : Channel} (same : slot.channel.SameData channel) :
    slot.Receives (slot.onChannel fun _ => channel) := by
  refine ⟨rfl, rfl, same.direction, same.byteSize, ?_⟩
  change channel.buffer.isSome = slot.channel.buffer.isSome
  rw [same.buffer]

theorem received {channel : Channel} {payload : List UInt8} {sent now : Nettime}
    {answer : Except Error Reception}
    (outcome : Channel.Receiving slot.channel payload sent now channel answer) :
    slot.Receives (slot.onChannel fun _ => channel) := by
  cases outcome with
  | unwanted deaf => exact sameData (.refl _)
  | misfit wanted misfits => exact sameData ⟨rfl, rfl, rfl, rfl, rfl⟩
  | replaced wanted fits single => exact ⟨rfl, rfl, rfl, fits, rfl⟩
  | queued wanted fits buffered room =>
      refine ⟨rfl, rfl, rfl, rfl, ?_⟩
      rw [Channel.isBuffered, Channel.isBuffered, buffered]
      rfl
  | overflowed wanted fits buffered full =>
      refine ⟨rfl, rfl, rfl, rfl, ?_⟩
      rw [Channel.isBuffered, Channel.isBuffered, buffered]
      rfl

theorem onEvent (slot : Slot) (id : ChannelId) (link : ConnectionState) (now : Nettime)
    (event : InboundEvent) : slot.Receives (slot.onChannel (·.onEvent id link now event)) := by
  rcases event.silent_or_update id with silent | ⟨payload, sent, rfl⟩
  · exact sameData (Channel.onEvent_sameData silent slot.channel link now)
  · simp only [onChannel, Channel.onEvent, if_true, Channel.onUpdate]
    split
    · exact received (slot.channel.receive_cases payload sent now)
    · exact sameData (.refl _)

/-- Where a channel only publishes, inbound events leave nothing to be copied. -/
theorem copied (receives : slot.Receives after) (sound : after.Sound)
    (deaf : slot.channel.direction.canSubscribe = false) : slot.Follows [] after.copied := by
  rw [← receives.direction] at deaf
  have kept : after.copied = after := by
    refine if_pos ?_
    rw [(sound.deaf deaf).2, Bool.not_false, Bool.or_true]
  rw [kept]
  exact .quiet receives.direction receives.byteSize receives.held

end Slot.Receives

namespace Controller

variable {T L : Type}

/-- What polling does to a controller: inbound events reach its slots, and its session stays. -/
structure Polled (controller after : Controller T L) : Prop where
  sound : controller.Sound → after.Sound
  receives {id : ChannelId} {slot : Slot} (found : controller.slot? id = some slot) :
    ∃ last, after.slot? id = some last ∧ slot.Receives last
  session : after.link.session = controller.link.session
  aborted : controller.link.state = .aborted → after.link.state = .aborted

theorem Polled.trans {controller middle after : Controller T L} (first : controller.Polled middle)
    (second : middle.Polled after) : controller.Polled after := by
  refine ⟨second.sound ∘ first.sound, fun found => ?_, second.session.trans first.session,
    second.aborted ∘ first.aborted⟩
  obtain ⟨slot, there, received⟩ := first.receives found
  obtain ⟨last, beside, more⟩ := second.receives there
  exact ⟨last, beside, received.trans more⟩

/-- The record of errors and the logger do not see what comes in. -/
theorem Polled.keeps {controller middle after : Controller T L} (polled : controller.Polled middle)
    (keeps : middle.Keeps after) : controller.Polled after := by
  have channels := congrArg Link.channels keeps.link_eq
  refine ⟨fun sound => ?_, fun {id slot} found => ?_, ?_, ?_⟩
  · exact (polled.sound sound).congr channels keeps.image_eq keeps.shadow_eq
  · rw [slot?_congr channels keeps.image_eq keeps.shadow_eq]
    exact polled.receives found
  · rw [keeps.link_eq]
    exact polled.session
  · rw [keeps.link_eq]
    exact polled.aborted

/-- A change of the transport alone is not seen. -/
theorem polled_transport (controller : Controller T L) (transport : T) :
    controller.Polled { controller with link := { controller.link with transport } } := by
  refine ⟨fun sound => sound.congr rfl rfl rfl, fun {id slot} found => ⟨slot, ?_, ?_⟩, rfl, id⟩
  · exact (slot?_congr rfl rfl rfl id).trans found
  · exact .sameData (.refl _)

/-! ## What a cycle leaves behind -/

/-- Nothing that came in is left behind, a connected link has a session, and a controller at rest
has a link at rest. -/
structure Ordered (controller : Controller T L) : Prop where
  sound : controller.Sound
  seen : controller.Seen
  session : controller.link.session = none → controller.link.state.isConnected = false
  rest : controller.phase.AtRest → controller.link.MayConnect

/-- What a cycle leaves behind, with the requests it made. -/
structure Cycled (controller after : Controller T L) (calls : List Call) : Prop where
  ordered : after.Ordered
  settled (connected : after.link.state.isConnected = true) {id : ChannelId} {slot : Slot}
    (found : after.slot? id = some slot) : ¬ slot.Changed
  follows {id : ChannelId} {slot : Slot} (found : controller.slot? id = some slot)
    (deaf : slot.channel.direction.canSubscribe = false) :
    ∃ last, after.slot? id = some last ∧ slot.Follows (payloadsOn id (framesOf calls)) last
  refused {session : Session} {id : ChannelId} {payload : List UInt8}
    (inside : Call.send session id payload false ∈ calls) :
    after.link.state = .aborted ∧ after.link.session = some session ∧
      ∃ slot, after.slot? id = some slot ∧ slot.value.bytes = payload ∧ slot.Changed
  sessions {frame : Frame} (inside : frame ∈ framesOf calls) :
    controller.link.session = some frame.session ∧ controller.link.state ≠ .aborted

def Unsent (calls : List Call) : Prop :=
  ∀ session id payload granted, Call.send session id payload granted ∉ calls

theorem unsent_nil : Unsent [] :=
  fun _ _ _ _ => List.not_mem_nil

theorem unsent_singleton {call : Call}
    (other : ∀ session id payload granted, Call.send session id payload granted ≠ call) :
    Unsent [call] :=
  fun _ _ _ _ inside => other _ _ _ _ (List.mem_singleton.mp inside)

theorem Unsent.frames {calls : List Call} (unsent : Unsent calls) : framesOf calls = [] := by
  refine List.filterMap_eq_nil_iff.mpr fun call inside => ?_
  cases call with
  | send session id payload granted => exact (unsent session id payload granted inside).elim
  | register name granted => rfl
  | promote session granted => rfl
  | poll session events => rfl
  | deregister session => rfl

/-- A slot that keeps what it has while its channel changes. -/
structure Carries (slot after : Slot) : Prop where
  sound : after.Sound
  seen : after.Seen
  follows : slot.Follows [] after

theorem carries_sameData {slot : Slot} {channel : Channel} (sound : slot.Sound) (seen : slot.Seen)
    (same : slot.channel.SameData channel) : Carries slot (slot.onChannel fun _ => channel) := by
  refine ⟨sound.sameData same, ?_, .quiet same.direction same.byteSize rfl⟩
  intro single
  change channel.updated = false
  rw [same.updated]
  exact seen (same.buffer.symm.trans single)

theorem carries_prepare {slot : Slot} (sound : slot.Sound) (seen : slot.Seen) :
    Carries slot (slot.onChannel Channel.prepare) :=
  ⟨sound.prepare seen, fun _ => rfl, .quiet rfl rfl rfl⟩

/-- A cycle that exchanges nothing and does not leave the link connected. -/
theorem Cycled.of_link {controller after : Controller T L} {link : Link T} {phase : Phase}
    {active : Bool} {calls : List Call} {change : ChannelId → Channel → Channel}
    (ordered : controller.Ordered)
    (stands : after.Stands link controller.image controller.shadow phase active)
    (channels : ∀ id : ChannelId,
      link.channels[id]? = controller.link.channels[id]?.map (change id))
    (carries : ∀ id slot, slot.Sound → slot.Seen → Carries slot (slot.onChannel (change id)))
    (down : link.state.isConnected = false)
    (rest : phase.AtRest → link.MayConnect)
    (unsent : Unsent calls) : Cycled controller after calls := by
  have maps := controller.maps_link channels
  have slots (id : ChannelId) : after.slot? id =
      (controller.slot? id).map fun slot => slot.onChannel (change id) := by
    rw [← maps.slots]
    exact slot?_congr (by rw [stands.link_eq]) (by rw [stands.image_eq])
      (by rw [stands.shadow_eq]) id
  have carried {id : ChannelId} {last : Slot} (found : after.slot? id = some last) :
      ∃ slot, Carries slot last := by
    rw [slots] at found
    obtain ⟨slot, there, rfl⟩ := Option.map_eq_some_iff.mp found
    exact ⟨slot, carries id slot (ordered.sound.slots there) (ordered.seen id slot there)⟩
  have aligned : after.Aligned := by
    have kept := maps.aligned ordered.sound.aligned
    intro id
    rw [stands.link_eq, stands.image_eq, stands.shadow_eq]
    exact kept id
  refine ⟨⟨⟨aligned, fun found => ?_⟩, fun id slot found => ?_, fun _ => ?_, ?_⟩, ?_, ?_, ?_, ?_⟩
  · exact (carried found).choose_spec.sound
  · exact (carried found).choose_spec.seen
  · rw [stands.link_eq]
    exact down
  · rw [stands.phase_eq, stands.link_eq]
    exact rest
  · intro connected
    rw [stands.link_eq, down] at connected
    cases connected
  · intro id slot found _
    refine ⟨_, (slots id).trans (congrArg _ found), ?_⟩
    rw [unsent.frames]
    exact (carries id slot (ordered.sound.slots found) (ordered.seen id slot found)).follows
  · intro session id payload inside
    exact (unsent _ _ _ _ inside).elim
  · intro frame inside
    rw [unsent.frames] at inside
    cases inside

/-- Nothing happens to a link at rest. -/
theorem cycled_resting {controller after : Controller T L} {phase : Phase} {active : Bool}
    (ordered : controller.Ordered)
    (stands : after.Stands controller.link controller.image controller.shadow phase active)
    (rest : controller.link.MayConnect) : Cycled controller after [] := by
  refine .of_link ordered stands (fun id => Option.map_id'.symm)
    (fun id slot sound seen => carries_sameData sound seen (.refl _)) ?_ (fun _ => rest) unsent_nil
  rw [rest.1]
  rfl

/-- Only the phase has changed, and not to one at rest. -/
theorem Ordered.stands {controller after : Controller T L} {phase : Phase} {active : Bool}
    (ordered : controller.Ordered)
    (stands : after.Stands controller.link controller.image controller.shadow phase active)
    (rests : phase.AtRest → controller.phase.AtRest) : after.Ordered := by
  have channels := congrArg Link.channels stands.link_eq
  refine ⟨ordered.sound.congr channels stands.image_eq stands.shadow_eq, fun id slot found => ?_,
    ?_, ?_⟩
  · rw [slot?_congr channels stands.image_eq stands.shadow_eq] at found
    exact ordered.seen id slot found
  · rw [stands.link_eq]
    exact ordered.session
  · rw [stands.link_eq, stands.phase_eq]
    exact ordered.rest ∘ rests

theorem Cycled.stands {controller middle after : Controller T L} {phase : Phase} {active : Bool}
    {calls : List Call} (cycled : Cycled controller middle calls)
    (stands : after.Stands middle.link middle.image middle.shadow phase active)
    (rests : phase.AtRest → middle.phase.AtRest) : Cycled controller after calls := by
  have slots := slot?_congr (congrArg Link.channels stands.link_eq) stands.image_eq stands.shadow_eq
  refine ⟨cycled.ordered.stands stands rests, ?_, ?_, ?_, cycled.sessions⟩
  · simp only [stands.link_eq, slots]
    exact cycled.settled
  · simp only [slots]
    exact cycled.follows
  · simp only [stands.link_eq, slots]
    exact cycled.refused

/-- A controller with the same slots, in the same session and with its link in the same state. -/
structure Alike (controller after : Controller T L) : Prop where
  channels : after.link.channels = controller.link.channels
  image : after.image = controller.image
  shadow : after.shadow = controller.shadow
  session : after.link.session = controller.link.session
  state : after.link.state = controller.link.state

theorem Alike.slots {controller after : Controller T L} (alike : controller.Alike after) :
    ∀ id, after.slot? id = controller.slot? id :=
  slot?_congr alike.channels alike.image alike.shadow

theorem Alike.sound {controller after : Controller T L} (alike : controller.Alike after)
    (sound : controller.Sound) : after.Sound :=
  sound.congr alike.channels alike.image alike.shadow

/-- What comes before an exchange sends nothing. -/
theorem Cycled.prepend {controller ready after : Controller T L} {early late : List Call}
    (cycled : Cycled ready after late) (alike : controller.Alike ready) (unsent : Unsent early) :
    Cycled controller after (early ++ late) := by
  have frames : framesOf (early ++ late) = framesOf late := by
    rw [framesOf_append, unsent.frames]
    rfl
  refine ⟨cycled.ordered, cycled.settled, ?_, ?_, ?_⟩
  · rw [frames]
    intro id slot found deaf
    rw [← alike.slots] at found
    exact cycled.follows found deaf
  · intro current id payload inside
    exact cycled.refused ((List.mem_append.mp inside).resolve_left (unsent _ _ _ _))
  · rw [frames, ← alike.session, ← alike.state]
    exact cycled.sessions

/-- What copying and sending come to. -/
structure Flushed (controller after : Controller T L) (calls : List Call) : Prop where
  sound : after.Sound
  seen : after.Seen
  phase : after.phase = controller.phase
  session : after.link.session = controller.link.session
  state : after.link.state = controller.link.state ∨ after.link.state = .aborted
  settled (opened : controller.link.session ≠ none)
    (connected : after.link.state.isConnected = true) {id : ChannelId} {slot : Slot}
    (found : after.slot? id = some slot) : ¬ slot.Changed
  follows {id : ChannelId} {slot : Slot} (found : controller.slot? id = some slot) :
    ∃ last, after.slot? id = some last ∧
      slot.copied.Follows (payloadsOn id (framesOf calls)) last
  refused {session : Session} {id : ChannelId} {payload : List UInt8}
    (inside : Call.send session id payload false ∈ calls) :
    after.link.state = .aborted ∧ after.link.session = some session ∧
      ∃ slot, after.slot? id = some slot ∧ slot.value.bytes = payload ∧ slot.Changed
  sessions {frame : Frame} (inside : frame ∈ framesOf calls) :
    controller.link.session = some frame.session ∧ controller.link.state.isConnected = true

/-- Polling, copying and sending, one after the other. -/
theorem Flushed.cycled {controller middle after : Controller T L} {calls : List Call}
    (flushed : Flushed middle after calls) (polled : controller.Polled middle)
    (sound : middle.Sound)
    (coupled : middle.link.session = none → middle.link.state.isConnected = false)
    (busy : ¬ middle.phase.AtRest) : Cycled controller after calls := by
  have down (closed : middle.link.session = none) : after.link.state.isConnected = false := by
    rcases flushed.state with same | aborted
    · rw [same]
      exact coupled closed
    · rw [aborted]
      rfl
  refine ⟨⟨flushed.sound, flushed.seen, ?_, ?_⟩, fun connected id slot found => ?_,
    fun {id slot} found deaf => ?_, flushed.refused, fun inside => ?_⟩
  · rw [flushed.session]
    exact down
  · rw [flushed.phase]
    exact fun rests => (busy rests).elim
  · refine flushed.settled (fun closed => ?_) connected found
    rw [down closed] at connected
    cases connected
  · obtain ⟨received, there, receives⟩ := polled.receives found
    obtain ⟨last, beside, follows⟩ := flushed.follows there
    exact ⟨last, beside, (receives.copied (sound.slots there) deaf).trans follows⟩
  · obtain ⟨opened, connected⟩ := flushed.sessions inside
    refine ⟨polled.session.symm.trans opened, fun aborted => ?_⟩
    rw [polled.aborted aborted] at connected
    cases connected

section Cycles

variable [Transport T]

/-! ## Polling -/

theorem polled_dispatch (controller : Controller T L) (event : InboundEvent) :
    controller.Polled { controller with link := (controller.link.dispatch event).value.1 } := by
  have dispatched := (controller.link.dispatch_spec event).1
  have maps := controller.maps_link dispatched.channels
  refine ⟨fun sound => maps.sound sound fun id slot _ fine => fine.onEvent id _ _ event,
    fun found => ?_, dispatched.session, fun aborted => ?_⟩
  · rename_i id slot
    refine ⟨_, (maps.slots id).trans (congrArg _ found), .onEvent slot id _ _ event⟩
  · change (controller.link.dispatch event).value.1.state = .aborted
    rw [dispatched.state, aborted, Link.stateAfter_aborted]

theorem polled_events (controller : Controller T L) (events : List InboundEvent) :
    controller.Polled { controller with
      link := events.foldl (fun link event => (link.dispatch event).value.1) controller.link } := by
  induction events generalizing controller with
  | nil => exact controller.polled_transport controller.link.transport
  | cons event rest ih =>
      have first := controller.polled_dispatch event
      exact first.trans (ih { controller with link := (controller.link.dispatch event).value.1 })

/-- Without a session there is nothing to poll. -/
theorem process_polled (controller : Controller T L) :
    controller.Polled { controller with link := controller.link.process.value.1 } ∧
      (controller.link.session = none → controller.link.process.value.1 = controller.link) := by
  cases opened : controller.link.session with
  | none =>
      have same := (Link.process_closed opened).1
      rw [same]
      exact ⟨controller.polled_transport controller.link.transport, fun _ => rfl⟩
  | some session =>
      rw [(Link.process_opened opened rfl).1]
      refine ⟨(controller.polled_transport _).trans (polled_events _ _), fun closed => ?_⟩
      cases closed

theorem process_unsent (link : Link T) : Unsent link.process.calls := by
  intro session id payload granted inside
  cases opened : link.session with
  | none =>
      rw [(Link.process_closed opened).2] at inside
      cases inside
  | some current =>
      rw [(Link.process_opened opened rfl).2] at inside
      cases List.mem_singleton.mp inside

/-! ## Exchanging -/

section Exchange

variable [Log.Logger L]

/-- An exchange fetches what came in, copies it and sends what changed. -/
theorem exchange_parts {controller : Controller T L} (sound : controller.Sound) :
    ∃ base sent calls, Keeps { controller with link := controller.link.process.value.1 } base ∧
      base.Rests base.copySubscriptions ∧
      Flushing base.copySubscriptions (List.range base.copySubscriptions.image.size) sent calls ∧
      controller.exchange.value = sent.concluded ∧
      controller.exchange.calls = controller.link.process.calls ++ calls := by
  obtain ⟨base, keeps, value, calls⟩ := controller.exchange_eq
  obtain ⟨polled, _⟩ := controller.process_polled
  have baseSound : base.Sound := (polled.keeps keeps).sound sound
  have copiedSound := (copySubscriptions_maps baseSound).sound baseSound fun _ _ _ fine =>
    fine.copied.1
  exact ⟨base, _, _, keeps, base.copySubscriptions_rests, publishChanges_cases copiedSound _, value,
    calls⟩

theorem flush_flushed {controller : Controller T L} (sound : controller.Sound) :
    Flushed controller controller.flush.value controller.flush.calls := by
  have maps := copySubscriptions_maps sound
  have rests := controller.copySubscriptions_rests
  have copiedSound := maps.sound sound fun _ _ _ fine => fine.copied.1
  have copiedSeen : controller.copySubscriptions.Seen := by
    intro id slot found
    rw [maps.slots] at found
    obtain ⟨earlier, there, rfl⟩ := Option.map_eq_some_iff.mp found
    exact (sound.slots there).copied.2
  have flushing : Flushing _ _ controller.flush.value controller.flush.calls :=
    publishChanges_cases copiedSound _
  have remains := flushing.remains
  have session : controller.copySubscriptions.link.session = controller.link.session := by
    rw [rests.link]
  have state : controller.copySubscriptions.link.state = controller.link.state := by
    rw [rests.link]
  refine ⟨flushing.sound copiedSound, flushing.seen copiedSound copiedSeen,
    remains.phase.trans rests.phase, remains.session.trans session, ?_, ?_, ?_, flushing.refused,
    ?_⟩
  · rw [← state]
    exact remains.state
  · intro opened connected id slot found
    rw [← session] at opened
    refine flushing.unchanged_after copiedSound opened connected (.inl ?_) slot found
    -- The image is as long after sending as before, so every slot was looked at.
    rw [← remains.image]
    exact List.mem_range.mpr (List.getElem?_eq_some_iff.mp (slot?_eq_some.mp found).2.1).1
  · intro id slot found
    refine flushing.follows copiedSound ?_
    rw [maps.slots, found, Option.map_some]
  · intro frame inside
    rw [← session, ← state]
    exact flushing.sessions inside

theorem exchange_cycled {controller : Controller T L} (sound : controller.Sound)
    (coupled : controller.link.session = none → controller.link.state.isConnected = false)
    (busy : ¬ controller.phase.AtRest) :
    Cycled controller controller.exchange.value controller.exchange.calls := by
  obtain ⟨base, keeps, value, calls⟩ := controller.exchange_eq
  obtain ⟨processed, shut⟩ := controller.process_polled
  have polled := processed.keeps keeps
  have coupled' (closed : base.link.session = none) : base.link.state.isConnected = false := by
    rw [polled.session] at closed
    rw [keeps.link_eq]
    change controller.link.process.value.1.state.isConnected = false
    rw [shut closed]
    exact coupled closed
  have busy' : ¬ base.phase.AtRest := by
    rw [keeps.phase_eq]
    exact busy
  have flushed := flush_flushed (polled.sound sound)
  have cycled := flushed.cycled polled (polled.sound sound) coupled' busy'
  obtain ⟨phase, reached, stands⟩ := base.flush.value.concluded_stands
  rw [value, calls]
  refine (cycled.stands stands ?_).prepend ⟨rfl, rfl, rfl, rfl, rfl⟩
    (process_unsent controller.link)
  rcases reached with same | torn
  · rw [same]
    exact fun rests => rests
  · exact fun rests => absurd rests (Phase.not_atRest (.inr (.inr torn)))

end Exchange

/-! ## Every cycle -/

theorem Ready.alike {controller ready : Controller T L} {go : Bool} {calls : List Call}
    (prepared : Ready controller go ready calls) :
    controller.Alike ready ∧ ¬ ready.phase.AtRest ∧ Unsent calls := by
  cases prepared with
  | halted waits => exact ⟨⟨rfl, rfl, rfl, rfl, rfl⟩, Phase.not_atRest (.inl rfl), unsent_nil⟩
  | waiting phase started unconnected =>
      exact ⟨⟨rfl, rfl, rfl, rfl, rfl⟩, Phase.not_atRest (.inl phase), unsent_nil⟩
  | promoted phase started connected outcome =>
      cases outcome with
      | asked up opened answer =>
          exact ⟨⟨rfl, rfl, rfl, rfl, rfl⟩, Phase.not_atRest (.inr (.inl rfl)),
            unsent_singleton nofun⟩
  | operational phase started top =>
      exact ⟨⟨rfl, rfl, rfl, rfl, rfl⟩, Phase.not_atRest (.inr (.inl rfl)), unsent_nil⟩
  | running phase started =>
      exact ⟨⟨rfl, rfl, rfl, rfl, rfl⟩, Phase.not_atRest (.inr (.inl phase)), unsent_nil⟩

theorem Running.cycled [Log.Logger L] {controller after : Controller T L} {go : Bool}
    {calls : List Call} (ordered : controller.Ordered)
    (outcome : Running controller go after calls) : Cycled controller after calls := by
  cases outcome with
  | exchanged prepared =>
      obtain ⟨alike, busy, unsent⟩ := prepared.alike
      refine .prepend (exchange_cycled ?_ ?_ busy) alike unsent
      · exact alike.sound ordered.sound
      · rw [alike.session, alike.state]
        exact ordered.session
  | refused phase started connected outcome stands =>
      cases outcome with
      | refused unfit =>
          have closed := unfit.resolve_left (not_not_intro connected)
          have down := ordered.session closed
          rw [connected] at down
          cases down
      | failed up opened answer =>
          refine .of_link ordered stands (fun id => Option.map_id'.symm)
            (fun id slot sound seen => carries_sameData sound seen (.refl _)) rfl
            (fun rests => absurd rests (Phase.not_atRest (.inr (.inr rfl))))
            (unsent_singleton nofun)

/-- Asking for a session empties the rings and leaves everything else. -/
theorem cycled_connecting {controller after : Controller T L} {link : Link T}
    {answer : Except Error Unit} {calls : List Call} (ordered : controller.Ordered)
    (rest : controller.link.MayConnect)
    (outcome : Link.Connecting controller.link link answer calls)
    (stands : after.Stands link controller.image controller.shadow
      (if answer.isOk then .waitStart else .teardown) true) : Cycled controller after calls := by
  cases outcome with
  | refused shut => exact (shut rest).elim
  | opened may answer =>
      refine .of_link ordered stands (fun id => List.getElem?_map) (fun _ _ => carries_prepare) ?_
        (fun rests => absurd rests (Phase.not_atRest (.inl rfl))) (unsent_singleton nofun)
      change controller.link.state.isConnected = false
      rw [may.1]
      rfl
  | failed may answer =>
      exact .of_link ordered stands (fun id => List.getElem?_map) (fun _ _ => carries_prepare) rfl
        (fun rests => absurd rests (Phase.not_atRest (.inr (.inr rfl)))) (unsent_singleton nofun)

/-- After the end of a session the link is at rest. -/
theorem cycled_disconnecting {controller after : Controller T L} {link : Link T} {phase : Phase}
    {answer : Except Error Unit} {calls : List Call} (ordered : controller.Ordered)
    (outcome : Link.Disconnecting controller.link link answer calls)
    (stands : after.Stands link controller.image controller.shadow phase false) :
    Cycled controller after calls := by
  cases outcome with
  | refused nothing =>
      have down : controller.link.state = .disconnected := by
        by_contra up
        exact nothing (.inl up)
      have closed : controller.link.session = none := by
        by_contra opened
        exact nothing (.inr opened)
      exact cycled_resting ordered stands ⟨down, closed⟩
  | closed may =>
      refine .of_link ordered stands (fun id => List.getElem?_map)
        (fun id slot sound seen => carries_sameData sound seen ⟨rfl, rfl, rfl, rfl, rfl⟩)
        rfl (fun _ => ⟨rfl, rfl⟩) ?_
      intro _ _ _ _ inside
      obtain ⟨session, _, impossible⟩ := List.mem_map.mp inside
      cases impossible

theorem cycle_cycled [Log.Logger L] {controller : Controller T L} (ordered : controller.Ordered)
    (enable go : Bool) :
    Cycled controller (controller.cycle enable go).value (controller.cycle enable go).calls := by
  have outcome := controller.cycle_cases enable go
  generalize (controller.cycle enable go).value = after,
    (controller.cycle enable go).calls = calls at outcome ⊢
  cases outcome with
  | idle phase stands => exact cycled_resting ordered stands (ordered.rest (.inl phase))
  | waited enabled phase stands =>
      exact cycled_resting ordered stands (ordered.rest (.inr (.inr phase)))
  | connected enabled phase outcome stands =>
      exact cycled_connecting ordered (ordered.rest (.inr (.inl phase))) outcome stands
  | ran enabled phase begins outcome keeps =>
      have cycled := (outcome.cycled (ordered.stands begins id)).stands keeps id
      exact cycled.prepend ⟨congrArg Link.channels begins.link_eq, begins.image_eq,
        begins.shadow_eq, congrArg Link.session begins.link_eq,
        congrArg Link.state begins.link_eq⟩ unsent_nil
  | ended phase due outcome stands => exact cycled_disconnecting ordered outcome stands

end Cycles

end Controller

end DatasetSync
