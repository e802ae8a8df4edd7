import DatasetSync.Link.Dispatch
import DatasetSync.Proofs.Channel
import DatasetSync.Proofs.Entries

/-!
# What inbound events do to a link

An inbound event is read channel by channel: what becomes of one channel depends on that channel,
the state of the link, the time and the event alone.  No event makes a link call on its transport.
-/

namespace DatasetSync

namespace Trail

variable {α β : Type}

def calls (trail : Trail Effect α) : List Call :=
  trail.marks.filterMap Effect.call?

@[simp] theorem calls_pure (value : α) : (pure value : Trail Effect α).calls = [] := rfl

@[simp] theorem calls_bind (first : Trail Effect α) (next : α → Trail Effect β) :
    (first >>= next).calls = first.calls ++ (next first.value).calls :=
  List.filterMap_append

@[simp] theorem calls_call (request : Call) : (mark (Effect.call request)).calls = [request] := rfl

@[simp] theorem calls_notes (trail : Trail Note α) : (trail.relabel Effect.note).calls = [] := by
  simp [calls, List.filterMap_map, Function.comp_def, Effect.call?]

end Trail

/-- An event that is about no channel is about the link. -/
theorem InboundEvent.eq_linkStateChanged {event : InboundEvent} (general : event.channel? = none) :
    ∃ announced fault, event = .linkStateChanged announced fault := by
  cases event with
  | linkStateChanged announced fault => exact ⟨announced, fault, rfl⟩
  | channelStateChanged target announced fault => cases general
  | channelUpdated target payload sent => cases general
  | publishAcknowledged target buffer => cases general
  | deliveryAcknowledged target buffer => cases general

/-- An event is no update for a channel, or it is one. -/
theorem InboundEvent.silent_or_update (id : ChannelId) (event : InboundEvent) :
    (∀ payload sent, event ≠ .channelUpdated id payload sent) ∨
      ∃ payload sent, event = .channelUpdated id payload sent := by
  by_cases update : ∃ payload sent, event = .channelUpdated id payload sent
  · exact .inr update
  · exact .inl fun payload sent same => update ⟨payload, sent, same⟩

/-! ## Inbound events, channel by channel -/

namespace Channel

def onLinkState (channel : Channel) (link announced : ConnectionState) : Channel :=
  match link, announced with
  | .connected, .operational => Link.promoteChannel channel
  | .operational, .connected => Link.demoteChannel channel
  | .connected, .disconnected => channel.reset
  | .operational, .disconnected => channel.reset
  | _, _ => channel

def onState (channel : Channel) (link announced : ConnectionState) (fault : Option Fault) :
    Channel :=
  if announced = .operational then
    if link = .operational then Link.promoteChannel channel else channel
  else
    match channel.transition announced fault with
    | .ok (some moved) => moved
    | _ => channel

def onUpdate (channel : Channel) (payload : List UInt8) (sent now : Nettime) : Channel :=
  if channel.state.isConnected then (channel.receive payload sent now).1 else channel

def onEvent (channel : Channel) (id : ChannelId) (link : ConnectionState) (now : Nettime) :
    InboundEvent → Channel
  | .linkStateChanged announced _ => channel.onLinkState link announced
  | .channelStateChanged target announced fault =>
      if target = id then channel.onState link announced fault else channel
  | .channelUpdated target payload sent =>
      if target = id then channel.onUpdate payload sent now else channel
  | .publishAcknowledged target buffer =>
      if target = id then channel.recordSendBuffer buffer false else channel
  | .deliveryAcknowledged target buffer =>
      if target = id then channel.recordSendBuffer buffer true else channel

/-- An event for another channel leaves a channel alone. -/
theorem onEvent_of_ne {event : InboundEvent} {target id : ChannelId}
    (concerned : event.channel? = some target) (apart : target ≠ id) (channel : Channel)
    (link : ConnectionState) (now : Nettime) : channel.onEvent id link now event = channel := by
  cases event with
  | linkStateChanged announced fault => cases concerned
  | channelStateChanged _ announced fault =>
      cases concerned
      exact if_neg apart
  | channelUpdated _ payload sent =>
      cases concerned
      exact if_neg apart
  | publishAcknowledged _ buffer =>
      cases concerned
      exact if_neg apart
  | deliveryAcknowledged _ buffer =>
      cases concerned
      exact if_neg apart

/-- An announced state of the link changes where a channel stands, and nothing else of it. -/
theorem onLinkState_moves (channel : Channel) (link announced : ConnectionState) :
    ∃ state, channel.onLinkState link announced = { channel with state } := by
  unfold onLinkState Link.promoteChannel Link.demoteChannel
  split
  · split <;> exact ⟨_, rfl⟩
  · split <;> exact ⟨_, rfl⟩
  · exact ⟨_, rfl⟩
  · exact ⟨_, rfl⟩
  · exact ⟨_, rfl⟩

/-- An announced state of its own changes where a channel stands and why. -/
theorem onState_moves (channel : Channel) (link announced : ConnectionState)
    (fault : Option Fault) :
    ∃ state lastError, channel.onState link announced fault =
      { channel with state, lastError } := by
  unfold onState Link.promoteChannel
  split
  · split
    · split <;> exact ⟨_, _, rfl⟩
    · exact ⟨_, _, rfl⟩
  · split
    · rename_i moved
      obtain ⟨lastError, rfl⟩ := transition_moved moved
      exact ⟨_, _, rfl⟩
    · exact ⟨_, _, rfl⟩

/-- Apart from a received value, an event changes where a channel stands and what is known of its
acknowledgements. -/
theorem onEvent_moves {event : InboundEvent} {id : ChannelId}
    (silent : ∀ payload sent, event ≠ .channelUpdated id payload sent) (channel : Channel)
    (link : ConnectionState) (now : Nettime) :
    ∃ state lastError sendBuffer delivered, channel.onEvent id link now event =
      { channel with state, lastError, sendBuffer, delivered } := by
  cases event with
  | linkStateChanged announced fault =>
      obtain ⟨state, moved⟩ := channel.onLinkState_moves link announced
      exact ⟨state, _, _, _, moved⟩
  | channelStateChanged target announced fault =>
      simp only [onEvent]
      split
      · obtain ⟨state, lastError, moved⟩ := channel.onState_moves link announced fault
        exact ⟨state, lastError, _, _, moved⟩
      · exact ⟨_, _, _, _, rfl⟩
  | channelUpdated target payload sent =>
      have apart : target ≠ id := by
        rintro rfl
        exact silent payload sent rfl
      rw [onEvent_of_ne rfl apart]
      exact ⟨_, _, _, _, rfl⟩
  | publishAcknowledged target buffer =>
      simp only [onEvent]
      split <;> exact ⟨_, _, _, _, rfl⟩
  | deliveryAcknowledged target buffer =>
      simp only [onEvent]
      split <;> exact ⟨_, _, _, _, rfl⟩

/-- An event moves a channel or brings it a value. -/
theorem onEvent_cases (channel : Channel) (id : ChannelId) (link : ConnectionState)
    (now : Nettime) (event : InboundEvent) :
    (∃ state lastError sendBuffer delivered, channel.onEvent id link now event =
        { channel with state, lastError, sendBuffer, delivered }) ∨
      ∃ payload sent answer,
        Receiving channel payload sent now (channel.onEvent id link now event) answer := by
  rcases event.silent_or_update id with silent | ⟨payload, sent, rfl⟩
  · exact .inl (onEvent_moves silent channel link now)
  · simp only [onEvent, onUpdate, if_true]
    split
    · exact .inr ⟨payload, sent, _, channel.receive_cases payload sent now⟩
    · exact .inl ⟨_, _, _, _, rfl⟩

/-- Only a received value changes what a channel holds. -/
theorem onEvent_sameData {event : InboundEvent} {id : ChannelId}
    (silent : ∀ payload sent, event ≠ .channelUpdated id payload sent) (channel : Channel)
    (link : ConnectionState) (now : Nettime) :
    channel.SameData (channel.onEvent id link now event) := by
  obtain ⟨state, lastError, sendBuffer, delivered, moved⟩ :=
    onEvent_moves silent channel link now
  rw [moved]
  exact ⟨rfl, rfl, rfl, rfl, rfl⟩

end Channel

namespace Link

variable {T α : Type}

@[simp] theorem calls_report (link : Link T) (occasion : LinkReport) :
    (link.report occasion).calls = [] := rfl

@[simp] theorem calls_emit (link : Link T) (event : LinkEvent) : (link.emit event).calls = [] := rfl

def followed : ConnectionState → ConnectionState → ConnectionState
  | _, .aborted => .aborted
  | .aborted, _ => .aborted
  | .disconnected, .operational => .disconnected
  | _, announced => announced

def stateAfter (state : ConnectionState) : InboundEvent → ConnectionState
  | .linkStateChanged announced _ => followed state announced
  | _ => state

theorem stateAfter_of_channel {event : InboundEvent} {target : ChannelId}
    (concerned : event.channel? = some target) (state : ConnectionState) :
    stateAfter state event = state := by
  cases event <;> first | rfl | cases concerned

/-- An aborted link stays aborted, whatever comes in. -/
theorem stateAfter_aborted (event : InboundEvent) :
    stateAfter .aborted event = .aborted := by
  cases event with
  | linkStateChanged announced fault => cases announced <;> rfl
  | channelStateChanged target announced fault => rfl
  | channelUpdated target payload sent => rfl
  | publishAcknowledged target buffer => rfl
  | deliveryAcknowledged target buffer => rfl

def ofBuilt (built : Except Obstacle (Link T)) (whole : built.toOption.isSome = true) : Link T :=
  built.toOption.get whole

/-- What an inbound event does to a link. -/
structure Dispatched [Transport T] (link : Link T) (event : InboundEvent) (after : Link T) :
    Prop where
  channels (id : ChannelId) : after.channels[id]? =
    link.channels[id]?.map (·.onEvent id link.state link.nettime event)
  state : after.state = stateAfter link.state event
  connectedOnce : after.connectedOnce =
    (link.connectedOnce || link.state == .disconnected && after.state == .connected)
  session : after.session = link.session
  transport : after.transport = link.transport
  instanceName : after.instanceName = link.instanceName

theorem setChannel_self {link : Link T} {id : ChannelId} {channel : Channel}
    (found : link.channels[id]? = some channel) : link.setChannel id channel = link := by
  rw [setChannel, set_eq_self found]

theorem getElem?_setChannel {link : Link T} {target : ChannelId} {channel : Channel}
    (found : link.channels[target]? = some channel) (change : Channel → Channel)
    (id : ChannelId) :
    (link.setChannel target (change channel)).channels[id]? =
      link.channels[id]?.map fun channel => if target = id then change channel else channel :=
  getElem?_set_eq_map found change id

theorem calls_followLinkState (link : Link T) (announced : ConnectionState)
    (fault : Option Fault) : (link.followLinkState announced fault).calls = [] := by
  cases state : link.state <;> cases announced <;>
    simp [followLinkState, state, followAbort, settle, dropConnection]

theorem settleChannel_value (link : Link T) (id : ChannelId) (channel : Channel)
    (fault : Option Fault) :
    (link.settleChannel id channel fault).value = link.setChannel id channel ∧
      (link.settleChannel id channel fault).calls = [] := by
  unfold settleChannel
  split <;> exact ⟨rfl, rfl⟩

theorem followPromotion_value {link : Link T} {id : ChannelId} {channel : Channel}
    (found : link.channels[id]? = some channel) (fault : Option Fault) :
    (link.followPromotion id channel fault).value =
        link.setChannel id
          (if link.state = .operational then promoteChannel channel else channel) ∧
      (link.followPromotion id channel fault).calls = [] := by
  unfold followPromotion promoteChannel Channel.setOperational
  by_cases top : link.state = .operational
  · rw [if_neg (not_not_intro top), if_pos top]
    by_cases connected : channel.state = .connected
    · simp only [if_pos connected]
      exact settleChannel_value _ _ _ _
    · simp only [if_neg connected]
      exact ⟨(setChannel_self found).symm, rfl⟩
  · rw [if_pos top, if_neg top]
    exact ⟨(setChannel_self found).symm, rfl⟩

theorem followChannelState_value {link : Link T} {id : ChannelId} {channel : Channel}
    (found : link.channels[id]? = some channel) (announced : ConnectionState)
    (fault : Option Fault) :
    (link.followChannelState id channel announced fault).value =
        link.setChannel id (channel.onState link.state announced fault) ∧
      (link.followChannelState id channel announced fault).calls = [] := by
  unfold followChannelState Channel.onState
  by_cases promotion : announced = .operational
  · rw [if_pos promotion, if_pos promotion]
    exact followPromotion_value found fault
  · rw [if_neg promotion, if_neg promotion]
    cases moved : channel.transition announced fault with
    | error error => exact ⟨(setChannel_self found).symm, rfl⟩
    | ok change =>
        cases change with
        | none => exact ⟨(setChannel_self found).symm, rfl⟩
        | some after => exact settleChannel_value _ _ _ _

section Dispatch

variable [Transport T]

theorem receive_value {link : Link T} {id : ChannelId} {channel : Channel}
    (found : link.channels[id]? = some channel) (payload : List UInt8) (sent : Nettime) :
    (link.receive id channel payload sent).value.1 =
        link.setChannel id (channel.onUpdate payload sent link.nettime) ∧
      (link.receive id channel payload sent).calls = [] := by
  unfold receive Channel.onUpdate
  cases connected : channel.state.isConnected with
  | false => exact ⟨(setChannel_self found).symm, rfl⟩
  | true =>
      simp only [Bool.not_true, Bool.false_eq_true, ↓reduceIte]
      rcases channel.receive payload sent link.nettime with ⟨after, error | reception⟩
      · exact ⟨rfl, rfl⟩
      · cases reception <;> exact ⟨rfl, rfl⟩

theorem dispatched_linkState (link : Link T) (announced : ConnectionState)
    (fault : Option Fault) :
    Dispatched link (.linkStateChanged announced fault)
      (link.followLinkState announced fault).value := by
  refine ⟨fun id => ?_, ?_, ?_, ?_, ?_, ?_⟩
  all_goals
    cases state : link.state <;> cases announced <;>
      simp [followLinkState, state, stateAfter, followed, Channel.onEvent, Channel.onLinkState,
        followAbort, settle, dropConnection, mapChannels]

/-- An event for a channel changes this one only. -/
theorem dispatched_setChannel {link : Link T} {event : InboundEvent} {id : ChannelId}
    {channel : Channel} (concerned : event.channel? = some id)
    (found : link.channels[id]? = some channel) :
    Dispatched link event
      (link.setChannel id (channel.onEvent id link.state link.nettime event)) := by
  refine ⟨fun other => ?_, (stateAfter_of_channel concerned _).symm, ?_, rfl, rfl, rfl⟩
  · rw [getElem?_setChannel found (·.onEvent id link.state link.nettime event)]
    apply Option.map_congr
    intro unconcerned _
    by_cases same : id = other
    · rw [if_pos same, same]
    · rw [if_neg same, Channel.onEvent_of_ne concerned same]
  · cases state : link.state <;> simp [setChannel, state]

/-- An event for a channel that the link does not have changes nothing. -/
theorem dispatched_missing {link : Link T} {event : InboundEvent} {id : ChannelId}
    (concerned : event.channel? = some id) (missing : link.channels[id]? = none) :
    Dispatched link event link := by
  refine ⟨fun other => ?_, (stateAfter_of_channel concerned _).symm, ?_, rfl, rfl, rfl⟩
  · cases found : link.channels[other]? with
    | none => rfl
    | some unconcerned =>
        have apart : id ≠ other := by
          intro same
          rw [same, found] at missing
          cases missing
        rw [Option.map_some, Channel.onEvent_of_ne concerned apart]
  · cases link.state <;> simp

/-- The general shape of an event for a channel: it acts on the channel, if there is one. -/
theorem dispatched_onChannel {link : Link T} (event : InboundEvent) {id : ChannelId}
    (concerned : event.channel? = some id)
    (act : Channel → Trail Effect (Outcome T Unit))
    (acts : ∀ channel, link.channels[id]? = some channel →
      (act channel).value.1 =
          link.setChannel id (channel.onEvent id link.state link.nettime event) ∧
        (act channel).calls = []) :
    Dispatched link event (link.onChannel id act).value.1 ∧ (link.onChannel id act).calls = [] := by
  unfold onChannel
  cases found : link.channels[id]? with
  | none => exact ⟨dispatched_missing concerned found, rfl⟩
  | some channel =>
      obtain ⟨value, calls⟩ := acts channel found
      refine ⟨?_, calls⟩
      change Dispatched link event (act channel).value.1
      rw [value]
      exact dispatched_setChannel concerned found

/-- Applying an event changes the link as `Dispatched` says, without a request to the transport. -/
theorem dispatch_spec (link : Link T) (event : InboundEvent) :
    Dispatched link event (link.dispatch event).value.1 ∧ (link.dispatch event).calls = [] := by
  cases event with
  | linkStateChanged announced fault =>
      refine ⟨dispatched_linkState link announced fault, ?_⟩
      simp [dispatch, calls_followLinkState]
  | channelStateChanged id announced fault =>
      apply dispatched_onChannel (.channelStateChanged id announced fault) rfl
      intro channel found
      obtain ⟨value, calls⟩ := followChannelState_value found announced fault
      refine ⟨?_, by simp [calls]⟩
      simp only [Trail.value_bind, Trail.value_pure, value, Channel.onEvent, if_true]
  | channelUpdated id payload sent =>
      apply dispatched_onChannel (.channelUpdated id payload sent) rfl
      intro channel found
      obtain ⟨value, calls⟩ := receive_value found payload sent
      refine ⟨?_, calls⟩
      simp only [value, Channel.onEvent, if_true]
  | publishAcknowledged id buffer =>
      apply dispatched_onChannel (.publishAcknowledged id buffer) rfl
      intro channel found
      refine ⟨?_, rfl⟩
      simp only [Trail.value_bind, Trail.value_pure, Channel.onEvent, if_true]
  | deliveryAcknowledged id buffer =>
      apply dispatched_onChannel (.deliveryAcknowledged id buffer) rfl
      intro channel found
      refine ⟨?_, rfl⟩
      simp only [Trail.value_bind, Trail.value_pure, Channel.onEvent, if_true]

/-- An event for a channel changes nothing of the link but its channels. -/
theorem dispatch_frame {link : Link T} {event : InboundEvent} {id : ChannelId}
    (concerned : event.channel? = some id) :
    (link.dispatch event).value.1 =
      { link with channels := (link.dispatch event).value.1.channels } := by
  have frame (act : Channel → Trail Effect (Outcome T Unit))
      (acts : ∀ channel, link.channels[id]? = some channel →
        ∃ later, (act channel).value.1 = link.setChannel id later) :
      (link.onChannel id act).value.1 =
        { link with channels := (link.onChannel id act).value.1.channels } := by
    unfold onChannel
    cases found : link.channels[id]? with
    | none => rfl
    | some channel =>
        obtain ⟨later, value⟩ := acts channel found
        simp only [value]
        rfl
  cases event with
  | linkStateChanged announced fault => cases concerned
  | channelStateChanged target announced fault =>
      cases concerned
      exact frame _ fun channel found => ⟨_, (followChannelState_value found announced fault).1⟩
  | channelUpdated target payload sent =>
      cases concerned
      exact frame _ fun channel found => ⟨_, (receive_value found payload sent).1⟩
  | publishAcknowledged target buffer =>
      cases concerned
      exact frame _ fun channel found => ⟨_, rfl⟩
  | deliveryAcknowledged target buffer =>
      cases concerned
      exact frame _ fun channel found => ⟨_, rfl⟩

/-- No batch of events changes the session or the transport. -/
theorem events_frame (link : Link T) (events : List InboundEvent) :
    let after := events.foldl (fun link event => (link.dispatch event).value.1) link
    after.session = link.session ∧ after.transport = link.transport := by
  induction events generalizing link with
  | nil => exact ⟨rfl, rfl⟩
  | cons event rest ih =>
      have dispatched := (dispatch_spec link event).1
      obtain ⟨session, transport⟩ := ih (link.dispatch event).value.1
      exact ⟨session.trans dispatched.session, transport.trans dispatched.transport⟩

/-- A batch of events is one event after the other, whatever becomes of each. -/
theorem dispatchAll_value (link : Link T) (events : List InboundEvent) :
    (link.dispatchAll events).value.1 =
        events.foldl (fun link event => (link.dispatch event).value.1) link ∧
      (link.dispatchAll events).calls = [] := by
  induction events generalizing link with
  | nil => exact ⟨rfl, rfl⟩
  | cons event rest ih =>
      obtain ⟨value, calls⟩ := ih (link.dispatch event).value.1
      have first := (dispatch_spec link event).2
      rw [dispatchAll, List.foldl_cons, ← value]
      rcases answered : link.dispatch event with ⟨⟨after, answer⟩, marks⟩
      rw [answered] at first calls
      cases answer with
      | ok done =>
          refine ⟨rfl, ?_⟩
          rw [Trail.calls_bind, first]
          exact calls
      | error error =>
          refine ⟨rfl, ?_⟩
          rw [Trail.calls_bind, first]
          simpa using calls

end Dispatch

end Link

end DatasetSync
