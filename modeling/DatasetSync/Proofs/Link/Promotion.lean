import DatasetSync.Proofs.Link.History

/-!
# Promotion goes from the top down

A channel is operational only under a link that is, or that was when it was aborted.  The link and
each of its channels become operational in the dispatch of one event and from nowhere but connected.
-/

namespace DatasetSync

namespace Channel

theorem Receiving.state_eq {channel after : Channel} {payload : List UInt8} {sent now : Nettime}
    {answer : Except Error Reception} (received : Receiving channel payload sent now after answer) :
    after.state = channel.state := by
  cases received <;> rfl

theorem onUpdate_state (channel : Channel) (payload : List UInt8) (sent now : Nettime) :
    (channel.onUpdate payload sent now).state = channel.state := by
  unfold onUpdate
  split
  · exact (channel.receive_cases payload sent now).state_eq
  · rfl

/-- A channel's own announcement promotes it only under an operational link. -/
theorem onState_operational {channel : Channel} {link announced : ConnectionState}
    {fault : Option Fault} (up : (channel.onState link announced fault).state = .operational) :
    channel.state = .operational ∨ channel.state = .connected ∧ link = .operational := by
  unfold onState at up
  split at up
  · split at up
    · rename_i top
      unfold Link.promoteChannel at up
      split at up
      · exact .inr ⟨‹_›, top⟩
      · exact .inl up
    · exact .inl up
  · split at up
    · rename_i other _ after moved
      obtain ⟨lastError, rfl⟩ := Channel.transition_moved moved
      exact (other up).elim
    · exact .inl up

/-- The link's announcement promotes connected channels together with the link. -/
theorem onLinkState_operational {channel : Channel} {link announced : ConnectionState}
    (below : channel.state = .operational → link = .operational ∨ link = .aborted)
    (up : (channel.onLinkState link announced).state = .operational) :
    (Link.followed link announced = .operational ∨ Link.followed link announced = .aborted) ∧
      (channel.state = .operational ∨ channel.state = .connected) := by
  cases link <;> cases announced <;> cases state : channel.state <;>
    simp_all [onLinkState, Link.promoteChannel, Link.demoteChannel, reset, Link.followed]

/-- An event leaves a channel operational only below a link that is operational or aborted. -/
theorem onEvent_operational {channel : Channel} {id : ChannelId} {link : ConnectionState}
    {now : Nettime} {event : InboundEvent}
    (below : channel.state = .operational → link = .operational ∨ link = .aborted)
    (up : (channel.onEvent id link now event).state = .operational) :
    (Link.stateAfter link event = .operational ∨ Link.stateAfter link event = .aborted) ∧
      (channel.state = .operational ∨ channel.state = .connected) := by
  cases event with
  | linkStateChanged announced fault => exact onLinkState_operational below up
  | channelStateChanged target announced fault =>
      simp only [onEvent] at up
      split at up
      · rcases onState_operational up with already | ⟨connected, top⟩
        · exact ⟨below already, .inl already⟩
        · exact ⟨.inl top, .inr connected⟩
      · exact ⟨below up, .inl up⟩
  | channelUpdated target payload sent =>
      simp only [onEvent] at up
      split at up
      · rw [onUpdate_state] at up
        exact ⟨below up, .inl up⟩
      · exact ⟨below up, .inl up⟩
  | publishAcknowledged target buffer =>
      simp only [onEvent] at up
      split at up <;> exact ⟨below up, .inl up⟩
  | deliveryAcknowledged target buffer =>
      simp only [onEvent] at up
      split at up <;> exact ⟨below up, .inl up⟩

end Channel

namespace Link

variable {T : Type}

/-- A connected link knows that it was connected. -/
def Informed (link : Link T) : Prop :=
  link.state.isConnected = true → link.connectedOnce = true

/-- No part of the link is ahead of what is above it. -/
structure TopDown (link : Link T) : Prop where
  channels {id : ChannelId} {channel : Channel} (found : link.channels[id]? = some channel)
    (up : channel.state = .operational) : link.state = .operational ∨ link.state = .aborted
  connectedOnce : link.state.isConnected = true → link.connectedOnce = true

/-! ## Requests promote nothing -/

/-- The link stands where it stood, is aborted, or has ended with its channels. -/
inductive Standing (link after : Link T) : Prop where
  | kept (state : after.state = link.state)
      (connectedOnce : after.state.isConnected = true → after.connectedOnce = link.connectedOnce)
  | aborted (state : after.state = .aborted)
  | ended (state : after.state = .disconnected)
      (channels : ∀ channel ∈ after.channels, channel.state = .disconnected)

theorem Adding.standing {link after : Link T} {spec : ChannelSpec}
    {answer : Except Obstacle ChannelId} (outcome : Adding link spec after answer) :
    Standing link after := by
  cases outcome <;> exact .kept rfl fun _ => rfl

theorem standing_changeChannel (link : Link T) (target : ChannelId)
    (change : Channel → Channel) : Standing link (link.changeChannel target change) := by
  rw [changeChannel_frame]
  exact .kept rfl fun _ => rfl

section Runs

variable [Transport T]

theorem Connecting.standing {link after : Link T} {answer : Except Error Unit} {calls : List Call}
    (outcome : Connecting link after answer calls) : Standing link after := by
  cases outcome with
  | refused shut => exact .kept rfl fun _ => rfl
  | opened may answer =>
      refine .kept rfl fun connected => ?_
      change link.state.isConnected = true at connected
      rw [may.1] at connected
      cases connected
  | failed may answer => exact .aborted rfl

theorem Promoting.standing {link after : Link T} {answer : Except Error Unit} {calls : List Call}
    (outcome : Promoting link after answer calls) : Standing link after := by
  cases outcome with
  | refused unfit => exact .kept rfl fun _ => rfl
  | asked connected opened answer => exact .kept rfl fun _ => rfl
  | failed connected opened answer => exact .aborted rfl

theorem Disconnecting.standing {link after : Link T} {answer : Except Error Unit}
    {calls : List Call} (outcome : Disconnecting link after answer calls) :
    Standing link after := by
  cases outcome with
  | refused nothing => exact .kept rfl fun _ => rfl
  | closed may =>
      refine .ended rfl fun channel inside => ?_
      obtain ⟨earlier, _, rfl⟩ := List.mem_map.mp inside
      rfl

theorem Publishing.standing {link after : Link T} {id : ChannelId} {payload : List UInt8}
    {answer : Except Error Unit} {calls : List Call}
    (outcome : Publishing link id payload after answer calls) : Standing link after := by
  cases outcome with
  | refused harmless waits => exact .kept rfl fun _ => rfl
  | failed found takes opened connected answer => exact .aborted rfl
  | sent found takes opened connected answer => exact .kept rfl fun _ => rfl

/-- A step that applies no event promotes no link. -/
theorem Step.standing (link : Link T) (step : Step T) :
    (∃ event, step = .dispatch event) ∨ Standing link (step.run link) := by
  cases step with
  | addChannel spec => exact .inr (addChannel_cases link spec).standing
  | connect => exact .inr (connect_cases link).standing
  | setOperational => exact .inr (setOperational_cases link).standing
  | disconnect => exact .inr (disconnect_cases link).standing
  | publish id payload => exact .inr (publish_cases link id payload).standing
  | popInto id destination =>
      refine .inr ?_
      simp only [Step.run, popInto_link]
      exact standing_changeChannel link id _
  | takeUpdated id =>
      refine .inr ?_
      simp only [Step.run, takeUpdated_link]
      exact standing_changeChannel link id _
  | dispatch event => exact .inl ⟨event, rfl⟩
  | meanwhile change => exact .inr (.kept rfl fun _ => rfl)

/-- A step that applies no event promotes no channel. -/
theorem Step.act_operational {link : Link T} {step : Step T} {id : ChannelId} {channel : Channel}
    (quiet : ¬ ∃ event, step = .dispatch event)
    (up : (step.act link id channel).state = .operational) : channel.state = .operational := by
  cases step with
  | addChannel spec => exact up
  | connect =>
      simp only [Step.act] at up
      split at up
      · cases up
      · exact up
  | setOperational => exact up
  | disconnect =>
      simp only [Step.act] at up
      split at up
      · cases up
      · exact up
  | publish target payload =>
      simp only [Step.act] at up
      split at up <;> exact up
  | popInto target destination =>
      simp only [Step.act] at up
      split at up <;> exact up
  | takeUpdated target =>
      simp only [Step.act] at up
      split at up <;> exact up
  | dispatch event => exact (quiet ⟨event, rfl⟩).elim
  | meanwhile change => exact up

/-- A channel that is operational after a step was there before it. -/
theorem Step.operational_before {link : Link T} {step : Step T} {id : ChannelId}
    {channel : Channel} (found : (step.run link).channels[id]? = some channel)
    (up : channel.state = .operational) :
    ∃ earlier, link.channels[id]? = some earlier ∧ step.act link id earlier = channel := by
  rcases run_channels link step id with kept | ⟨spec, added, _, _, _, made, there⟩
  · rw [kept] at found
    exact Option.map_eq_some_iff.mp found
  · rw [there] at found
    cases found
    rw [(Channel.made_of_new made).state_eq] at up
    cases up

/-! ## Every step -/

/-- The link and its channels become operational in the dispatch of one event, and only from
connected. -/
structure Moment.Promotes (moment : Moment T) : Prop where
  link : moment.after.state = .operational → moment.before.state = .operational ∨
    moment.before.state = .connected ∧ ∃ event, moment.step = .dispatch event
  channels {id : ChannelId} {channel : Channel} (found : moment.after.channels[id]? = some channel)
    (up : channel.state = .operational) : ∃ earlier, moment.before.channels[id]? = some earlier ∧
      (earlier.state = .operational ∨
        earlier.state = .connected ∧ ∃ event, moment.step = .dispatch event)

/-- A link becomes operational in an event only if the event found it connected. -/
theorem stateAfter_operational {state : ConnectionState} {event : InboundEvent}
    (up : stateAfter state event = .operational) : state = .operational ∨ state = .connected := by
  cases event with
  | linkStateChanged announced fault =>
      cases state <;> cases announced <;> simp_all [stateAfter, followed]
  | channelStateChanged target announced fault => exact .inl up
  | channelUpdated target payload sent => exact .inl up
  | publishAcknowledged target buffer => exact .inl up
  | deliveryAcknowledged target buffer => exact .inl up

/-- An event that leaves a link connected found it connected or connects it now. -/
theorem stateAfter_connected {state : ConnectionState} {event : InboundEvent}
    (connected : (stateAfter state event).isConnected = true) :
    state.isConnected = true ∨ state = .disconnected ∧ stateAfter state event = .connected := by
  cases event with
  | linkStateChanged announced fault =>
      cases state <;> cases announced <;>
        simp_all [stateAfter, followed, ConnectionState.isConnected]
  | channelStateChanged target announced fault => exact .inl connected
  | channelUpdated target payload sent => exact .inl connected
  | publishAcknowledged target buffer => exact .inl connected
  | deliveryAcknowledged target buffer => exact .inl connected

/-- A link that an event leaves connected knows that it was connected. -/
theorem Dispatched.informed {link after : Link T} {event : InboundEvent}
    (dispatched : Dispatched link event after)
    (informed : link.state.isConnected = true → link.connectedOnce = true)
    (connected : after.state.isConnected = true) : after.connectedOnce = true := by
  rw [dispatched.connectedOnce]
  rw [dispatched.state] at connected ⊢
  rcases stateAfter_connected connected with already | ⟨fresh, now⟩
  · rw [informed already, Bool.true_or]
  · rw [now, fresh, Bool.or_eq_true]
    exact .inr rfl

theorem TopDown.dispatch {link : Link T} (sound : link.TopDown) (event : InboundEvent) :
    (Step.run link (.dispatch event)).TopDown ∧ (Moment.mk link (.dispatch event)).Promotes := by
  have dispatched := (dispatch_spec link event).1
  have state := dispatched.state
  refine ⟨⟨fun found up => ?_, dispatched.informed sound.connectedOnce⟩,
    ⟨fun up => ?_, fun found up => ?_⟩⟩
  · obtain ⟨earlier, there, rfl⟩ := Step.operational_before found up
    have above := (Channel.onEvent_operational (sound.channels there) up).1
    rwa [← state] at above
  · change (link.dispatch event).value.1.state = .operational at up
    rw [state] at up
    exact (stateAfter_operational up).imp id fun connected => ⟨connected, event, rfl⟩
  · obtain ⟨earlier, there, rfl⟩ := Step.operational_before found up
    have before := (Channel.onEvent_operational (sound.channels there) up).2
    exact ⟨earlier, there, before.imp id fun connected => ⟨connected, event, rfl⟩⟩

/-- A step that applies no event keeps the order and promotes nothing. -/
theorem TopDown.request {link : Link T} (sound : link.TopDown) {step : Step T}
    (quiet : ¬ ∃ event, step = .dispatch event) (standing : Standing link (step.run link)) :
    (step.run link).TopDown ∧ (Moment.mk link step).Promotes := by
  have before {id : ChannelId} {channel : Channel}
      (found : (step.run link).channels[id]? = some channel) (up : channel.state = .operational) :
      ∃ earlier, link.channels[id]? = some earlier ∧ earlier.state = .operational := by
    obtain ⟨earlier, there, rfl⟩ := Step.operational_before found up
    exact ⟨earlier, there, Step.act_operational quiet up⟩
  have channels {id : ChannelId} {channel : Channel}
      (found : (Moment.mk link step).after.channels[id]? = some channel)
      (up : channel.state = .operational) : ∃ earlier, link.channels[id]? = some earlier ∧
        (earlier.state = .operational ∨
          earlier.state = .connected ∧ ∃ event, step = .dispatch event) := by
    obtain ⟨earlier, there, already⟩ := before found up
    exact ⟨earlier, there, .inl already⟩
  cases standing with
  | kept state connectedOnce =>
      refine ⟨⟨fun found up => ?_, fun connected => ?_⟩, ⟨fun up => ?_, channels⟩⟩
      · obtain ⟨earlier, there, already⟩ := before found up
        rw [state]
        exact sound.channels there already
      · rw [connectedOnce connected]
        rw [state] at connected
        exact sound.connectedOnce connected
      · exact .inl (state.symm.trans up)
  | aborted state =>
      refine ⟨⟨fun found up => .inr state, fun connected => ?_⟩, ⟨fun up => ?_, channels⟩⟩
      · rw [state] at connected
        cases connected
      · cases state.symm.trans up
  | ended state reset =>
      refine ⟨⟨fun found up => ?_, fun connected => ?_⟩, ⟨fun up => ?_, channels⟩⟩
      · rw [reset _ (List.mem_of_getElem? found)] at up
        cases up
      · rw [state] at connected
        cases connected
      · cases state.symm.trans up

theorem TopDown.step {link : Link T} (sound : link.TopDown) (step : Step T) :
    (step.run link).TopDown ∧ (Moment.mk link step).Promotes := by
  by_cases applied : ∃ event, step = .dispatch event
  · obtain ⟨event, rfl⟩ := applied
    exact sound.dispatch event
  · exact sound.request applied ((step.standing link).resolve_left applied)

/-- Whatever happens to a new link, in every state it passes through no channel is operational
unless the link is operational or aborted, a connected link knows that it was connected, and both
the link and its channels become operational only in the dispatch of an event that found them
connected. -/
theorem promotion_goes_top_down (instanceName : String) (aliasName : Option String) (transport : T)
    (operations : List (Operation T)) :
    let start := Link.fresh instanceName aliasName transport
    (start.run operations).TopDown ∧
      ∀ moment ∈ start.history operations, moment.before.TopDown ∧ moment.Promotes := by
  intro start
  have initial : start.TopDown := by
    refine ⟨fun found _ => ?_, fun connected => ?_⟩
    · cases found
    · cases connected
  have reached := reaches_run start operations
  have sound {past : List (Moment T)} {link : Link T} (reached : Reaches start past link) :
      link.TopDown := reached.invariant initial fun _ sound step => (sound.step step).1
  refine ⟨sound reached, fun moment inside => ?_⟩
  obtain ⟨earlier, before⟩ := reached.of_mem inside
  exact ⟨sound before, ((sound before).step moment.step).2⟩

end Runs

end Link

end DatasetSync
