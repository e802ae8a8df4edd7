import DatasetSync.Proofs.Link.Failures

/-!
# Batches with bad events in them

An inbound event fails when its channel is not there, when its channel only publishes, or when it
brings a value of the wrong size.  The last of these is remembered as a fault of the channel; apart
from that a failing event leaves no trace.  Nothing that a link does with later events depends on
the faults of its channels, so a batch does what it does without its failing events.
-/

namespace DatasetSync

namespace Channel

def blamed (channel : Channel) (blame : Option Fault) : Channel :=
  { channel with lastError := blame }

/-! ## A channel does not look at its fault -/

theorem onLinkState_blamed (channel : Channel) (blame : Option Fault)
    (link announced : ConnectionState) :
    (channel.blamed blame).onLinkState link announced =
      (channel.onLinkState link announced).blamed blame := by
  unfold onLinkState Link.promoteChannel Link.demoteChannel
  split
  · by_cases connected : channel.state = .connected <;> simp [blamed, connected]
  · by_cases operational : channel.state = .operational <;> simp [blamed, operational]
  · rfl
  · rfl
  · rfl

theorem setOperational_blamed (channel : Channel) (blame : Option Fault) :
    (channel.blamed blame).setOperational = channel.setOperational.map (·.blamed blame) := by
  unfold setOperational
  by_cases connected : channel.state = .connected <;> simp [blamed, connected, Except.map]

theorem transition_blamed (channel : Channel) (blame : Option Fault)
    (announced : ConnectionState) (fault : Option Fault) :
    ∃ later, (channel.blamed blame).transition announced fault =
      (channel.transition announced fault).map (Option.map (·.blamed later)) := by
  by_cases abortion : announced = .aborted
  · refine ⟨some (fault.getD abortedByTransport), ?_⟩
    simp [transition, blamed, abortion, Except.map]
  · refine ⟨fault <|> blame, ?_⟩
    by_cases final : channel.state = .aborted
    · simp [transition, blamed, final, abortion, Except.map]
    · by_cases same : channel.state = announced
      · simp [transition, blamed, abortion, same, Except.map]
      · cases may : mayMove channel.state announced <;>
          simp [transition, blamed, abortion, final, same, may, Except.map]

theorem onState_blamed (channel : Channel) (blame : Option Fault)
    (link announced : ConnectionState) (fault : Option Fault) :
    ∃ later, (channel.blamed blame).onState link announced fault =
      (channel.onState link announced fault).blamed later := by
  unfold onState
  by_cases promotion : announced = .operational
  · simp only [if_pos promotion]
    by_cases top : link = .operational
    · simp only [if_pos top]
      exact ⟨blame, channel.onLinkState_blamed blame .connected .operational⟩
    · simp only [if_neg top]
      exact ⟨blame, rfl⟩
  · simp only [if_neg promotion]
    obtain ⟨later, moved⟩ := channel.transition_blamed blame announced fault
    rw [moved]
    rcases channel.transition announced fault with error | change
    · exact ⟨blame, rfl⟩
    · cases change with
      | none => exact ⟨blame, rfl⟩
      | some after => exact ⟨later, rfl⟩

theorem store_blamed (channel : Channel) (blame : Option Fault) (payload : List UInt8)
    (sent : Nettime) (latency : Int) :
    (channel.blamed blame).store payload sent latency =
      ((channel.store payload sent latency).1.blamed blame,
        (channel.store payload sent latency).2) := by
  unfold store
  cases buffered : channel.buffer with
  | none => simp [blamed, buffered]
  | some ring =>
      rcases pushed : ring.push ⟨payload, sent⟩ with ⟨after, error | done⟩ <;>
        simp [blamed, buffered, pushed]

/-! ## Values that are refused -/

theorem receive_blamed (channel : Channel) (blame : Option Fault) (payload : List UInt8)
    (sent now : Nettime) :
    ∃ later, (channel.blamed blame).receive payload sent now =
      ((channel.receive payload sent now).1.blamed later,
        (channel.receive payload sent now).2) := by
  cases wanted : channel.direction.canSubscribe with
  | false =>
      have deaf : (channel.blamed blame).direction.canSubscribe = false := wanted
      refine ⟨blame, ?_⟩
      rw [receive_deaf wanted, receive_deaf deaf]
      rfl
  | true =>
      have still : (channel.blamed blame).direction.canSubscribe = true := wanted
      by_cases fits : payload.length = channel.byteSize
      · refine ⟨blame, ?_⟩
        rw [receive_fitting wanted fits, receive_fitting still fits, store_blamed]
      · refine ⟨some ⟨.badDatasetSize,
          (Error.badDatasetSize channel.byteSize payload.length).message⟩, ?_⟩
        rw [receive_misfit wanted fits, receive_misfit still fits]
        rfl

theorem onUpdate_blamed (channel : Channel) (blame : Option Fault) (payload : List UInt8)
    (sent now : Nettime) :
    ∃ later, (channel.blamed blame).onUpdate payload sent now =
      (channel.onUpdate payload sent now).blamed later := by
  have same : (channel.blamed blame).state = channel.state := rfl
  obtain ⟨later, received⟩ := channel.receive_blamed blame payload sent now
  unfold onUpdate
  rw [same, received]
  split
  · exact ⟨later, rfl⟩
  · exact ⟨blame, rfl⟩

theorem onEvent_blamed (channel : Channel) (blame : Option Fault) (id : ChannelId)
    (link : ConnectionState) (now : Nettime) (event : InboundEvent) :
    ∃ later, (channel.blamed blame).onEvent id link now event =
      (channel.onEvent id link now event).blamed later := by
  cases event with
  | linkStateChanged announced fault =>
      exact ⟨blame, channel.onLinkState_blamed blame link announced⟩
  | channelStateChanged target announced fault =>
      simp only [onEvent]
      split
      · exact channel.onState_blamed blame link announced fault
      · exact ⟨blame, rfl⟩
  | channelUpdated target payload sent =>
      simp only [onEvent]
      split
      · exact channel.onUpdate_blamed blame payload sent now
      · exact ⟨blame, rfl⟩
  | publishAcknowledged target buffer =>
      simp only [onEvent]
      split <;> exact ⟨blame, rfl⟩
  | deliveryAcknowledged target buffer =>
      simp only [onEvent]
      split <;> exact ⟨blame, rfl⟩

end Channel

namespace Link

variable {T : Type}

section Transport

variable [Transport T]

/-! ## Events that fail -/

/-- An event that fails, and why. -/
inductive Failing (link : Link T) : InboundEvent → Error → Prop where
  | unknown {event : InboundEvent} {id : ChannelId} (concerned : event.channel? = some id)
      (missing : link.channels[id]? = none) : Failing link event (noSuchChannel id)
  | unwanted {id : ChannelId} {channel : Channel} {payload : List UInt8} {sent : Nettime}
      (found : link.channels[id]? = some channel) (connected : channel.state.isConnected = true)
      (deaf : channel.direction.canSubscribe = false) :
      Failing link (.channelUpdated id payload sent)
        (.notAllowed s!"channel '{channel.name}' is publish-only")
  | misfit {id : ChannelId} {channel : Channel} {payload : List UInt8} {sent : Nettime}
      (found : link.channels[id]? = some channel) (connected : channel.state.isConnected = true)
      (wanted : channel.direction.canSubscribe = true)
      (misfits : payload.length ≠ channel.byteSize) :
      Failing link (.channelUpdated id payload sent)
        (.badDatasetSize channel.byteSize payload.length)

/-- What a failing event leaves behind: a value of the wrong size is remembered as a fault of its
channel. -/
def Unharmed (link after : Link T) (event : InboundEvent) (error : Error) : Prop :=
  (error.kind ≠ .badDatasetSize → after = link) ∧
    (error.kind = .badDatasetSize → ∃ id payload sent channel,
      event = .channelUpdated id payload sent ∧ link.channels[id]? = some channel ∧
        after = link.setChannel id
          { channel with lastError := some ⟨.badDatasetSize, error.message⟩ })

/-- An event for a channel that is not there is refused. -/
theorem dispatch_missing {link : Link T} {event : InboundEvent} {id : ChannelId}
    (concerned : event.channel? = some id) (missing : link.channels[id]? = none) :
    (link.dispatch event).value = (link, .error (noSuchChannel id)) ∧
      (link.dispatch event).told = [] := by
  cases event with
  | linkStateChanged announced fault => cases concerned
  | channelStateChanged target announced fault =>
      cases concerned
      simp [dispatch, onChannel, missing]
  | channelUpdated target payload sent =>
      cases concerned
      simp [dispatch, onChannel, missing]
  | publishAcknowledged target buffer =>
      cases concerned
      simp [dispatch, onChannel, missing]
  | deliveryAcknowledged target buffer =>
      cases concerned
      simp [dispatch, onChannel, missing]

/-- A value that its channel refuses. -/
theorem dispatch_refused {link : Link T} {id : ChannelId} {channel after : Channel}
    {payload : List UInt8} {sent : Nettime} {error : Error}
    (found : link.channels[id]? = some channel) (connected : channel.state.isConnected = true)
    (refused : channel.receive payload sent link.nettime = (after, .error error)) :
    (link.dispatch (.channelUpdated id payload sent)).value =
        (link.setChannel id after, .error error) ∧
      (link.dispatch (.channelUpdated id payload sent)).told = [] := by
  simp [dispatch, onChannel, found, receive, connected, refused]

/-- A failing event fails for the reason given, tells nothing and does no harm. -/
theorem Failing.dispatch {link : Link T} {event : InboundEvent} {error : Error}
    (failing : Failing link event error) :
    (link.dispatch event).value.2 = .error error ∧ (link.dispatch event).told = [] ∧
      link.Unharmed (link.dispatch event).value.1 event error := by
  cases failing with
  | unknown concerned missing =>
      obtain ⟨value, told⟩ := dispatch_missing concerned missing
      rw [value]
      refine ⟨rfl, told, fun _ => rfl, ?_⟩
      intro misfit
      cases misfit
  | unwanted found connected deaf =>
      obtain ⟨value, told⟩ := dispatch_refused found connected (Channel.receive_deaf deaf _ _ _)
      rw [value]
      refine ⟨rfl, told, fun _ => setChannel_self found, ?_⟩
      intro misfit
      cases misfit
  | misfit found connected wanted misfits =>
      obtain ⟨value, told⟩ :=
        dispatch_refused found connected (Channel.receive_misfit wanted misfits _ _)
      rw [value]
      refine ⟨rfl, told, ?_, fun _ => ⟨_, _, _, _, rfl, found, rfl⟩⟩
      intro other
      exact absurd rfl other

/-- A value fails or is taken. -/
theorem failing_or_received {link : Link T} {id : ChannelId} {channel : Channel}
    (found : link.channels[id]? = some channel) (payload : List UInt8) (sent : Nettime) :
    (∃ error, Failing link (.channelUpdated id payload sent) error) ∨
      (link.dispatch (.channelUpdated id payload sent)).value.2 = .ok () := by
  cases connected : channel.state.isConnected with
  | false =>
      right
      simp [dispatch, onChannel, found, receive, connected]
  | true =>
      cases wanted : channel.direction.canSubscribe with
      | false => exact .inl ⟨_, .unwanted found connected wanted⟩
      | true =>
          by_cases fits : payload.length = channel.byteSize
          · right
            have taken := Channel.receive_fitting wanted fits sent link.nettime
            rcases stored : channel.store payload sent (Channel.travelTime sent link.nettime)
              with ⟨after, reception⟩
            cases reception <;>
              simp [dispatch, onChannel, found, receive, connected, taken, stored]
          · exact .inl ⟨_, .misfit found connected wanted fits⟩

/-- An event fails for one of the three reasons or not at all. -/
theorem failing_or_ok (link : Link T) (event : InboundEvent) :
    (∃ error, Failing link event error) ∨ (link.dispatch event).value.2 = .ok () := by
  cases concerned : event.channel? with
  | none =>
      obtain ⟨announced, fault, rfl⟩ := InboundEvent.eq_linkStateChanged concerned
      exact .inr rfl
  | some id =>
      cases found : link.channels[id]? with
      | none => exact .inl ⟨_, .unknown concerned found⟩
      | some channel =>
          cases event with
          | linkStateChanged announced fault => cases concerned
          | channelStateChanged target announced fault =>
              cases concerned
              right
              simp [dispatch, onChannel, found]
          | channelUpdated target payload sent =>
              cases concerned
              exact failing_or_received found payload sent
          | publishAcknowledged target buffer =>
              cases concerned
              right
              simp [dispatch, onChannel, found]
          | deliveryAcknowledged target buffer =>
              cases concerned
              right
              simp [dispatch, onChannel, found]

theorem failing_of_error {link : Link T} {event : InboundEvent} {error : Error}
    (failed : (link.dispatch event).value.2 = .error error) : Failing link event error := by
  rcases link.failing_or_ok event with ⟨cause, failing⟩ | taken
  · cases failing.dispatch.1.symm.trans failed
    exact failing
  · cases taken.symm.trans failed

/-! ## Links that differ in faults of their channels -/

/-- Two links are alike but for their transports and for the faults of some channels. -/
structure AlikeBut (blamed : ChannelId → Prop) (left right : Link T) : Prop where
  frame : right = { left with transport := right.transport, channels := right.channels }
  nettime : right.nettime = left.nettime
  channels (id : ChannelId) : right.channels[id]? = left.channels[id]? ∨
    blamed id ∧ ∃ blame, right.channels[id]? = left.channels[id]?.map (·.blamed blame)

namespace AlikeBut

variable {blamed further : ChannelId → Prop} {left right : Link T}

theorem refl (blamed : ChannelId → Prop) (link : Link T) : AlikeBut blamed link link :=
  ⟨rfl, rfl, fun _ => .inl rfl⟩

theorem mono (alike : AlikeBut blamed left right) (more : ∀ id, blamed id → further id) :
    AlikeBut further left right :=
  ⟨alike.frame, alike.nettime, fun id => (alike.channels id).imp_right (And.imp_left (more id))⟩

theorem state (alike : AlikeBut blamed left right) : right.state = left.state := by
  rw [alike.frame]

/-- What is found under an identifier differs in its fault at most. -/
theorem found (alike : AlikeBut blamed left right) (id : ChannelId) :
    ∃ blame, right.channels[id]? = left.channels[id]?.map (·.blamed blame) := by
  rcases alike.channels id with same | ⟨-, blame, differs⟩
  · cases here : left.channels[id]? with
    | none => exact ⟨none, same.trans here⟩
    | some channel => exact ⟨channel.lastError, same.trans here⟩
  · exact ⟨blame, differs⟩

theorem trans {middle : Link T} (first : AlikeBut blamed left middle)
    (second : AlikeBut further middle right) :
    AlikeBut (fun id => blamed id ∨ further id) left right := by
  constructor
  · rw [second.frame]
    exact congrArg (fun link : Link T =>
      { link with transport := right.transport, channels := right.channels }) first.frame
  · exact second.nettime.trans first.nettime
  · intro id
    rcases second.channels id with same | ⟨marked, -⟩
    · rw [same]
      exact (first.channels id).imp_right (And.imp_left .inl)
    · obtain ⟨blame, here⟩ := first.found id
      obtain ⟨other, there⟩ := second.found id
      refine .inr ⟨.inr marked, other, ?_⟩
      rw [there, here, Option.map_map]
      rfl

/-- An event keeps the channels alike. -/
theorem dispatch_channels (alike : AlikeBut blamed left right) (event : InboundEvent)
    (id : ChannelId) :
    (right.dispatch event).value.1.channels[id]? = (left.dispatch event).value.1.channels[id]? ∨
      blamed id ∧ ∃ blame, (right.dispatch event).value.1.channels[id]? =
        (left.dispatch event).value.1.channels[id]?.map (·.blamed blame) := by
  rw [(right.dispatch_spec event).1.channels, (left.dispatch_spec event).1.channels, alike.state,
    alike.nettime]
  rcases alike.channels id with same | ⟨marked, blame, differs⟩
  · rw [same]
    exact .inl rfl
  · rw [differs]
    cases left.channels[id]? with
    | none => exact .inl rfl
    | some channel =>
        obtain ⟨later, moved⟩ := channel.onEvent_blamed blame id left.state left.nettime event
        exact .inr ⟨marked, later, congrArg some moved⟩

/-- An announced state of the link does the same to both. -/
theorem followLinkState (alike : AlikeBut blamed left right) (announced : ConnectionState)
    (fault : Option Fault) :
    (right.followLinkState announced fault).value =
        { (left.followLinkState announced fault).value with
          transport := (right.followLinkState announced fault).value.transport
          channels := (right.followLinkState announced fault).value.channels } ∧
      (right.followLinkState announced fault).told =
        (left.followLinkState announced fault).told := by
  rw [alike.frame]
  cases standing : left.state <;> cases announced <;>
    simp [Link.followLinkState, followAbort, settle, dropConnection, mapChannels, standing]

/-- The same is told of an announced state of a channel, whatever its fault. -/
theorem followChannelState_told (alike : AlikeBut blamed left right) (id : ChannelId)
    (channel : Channel) (blame : Option Fault) (announced : ConnectionState)
    (fault : Option Fault) :
    (right.followChannelState id (channel.blamed blame) announced fault).told =
      (left.followChannelState id channel announced fault).told := by
  unfold followChannelState followPromotion
  by_cases promotion : announced = .operational
  · simp only [if_pos promotion, alike.state, Channel.setOperational_blamed]
    split
    · rfl
    · cases channel.setOperational with
      | error error => rfl
      | ok moved => simp [Except.map, settleChannel_told, Channel.blamed]
  · obtain ⟨later, moves⟩ := channel.transition_blamed blame announced fault
    simp only [if_neg promotion, moves]
    rcases channel.transition announced fault with error | change
    · rfl
    · cases change with
      | none => rfl
      | some moved => simp [Except.map, settleChannel_told, Channel.blamed]

/-- A value gets the same answer, and the same is told of it, whatever the fault of its channel. -/
theorem receive (alike : AlikeBut blamed left right) (id : ChannelId) (channel : Channel)
    (blame : Option Fault) (payload : List UInt8) (sent : Nettime) :
    (right.receive id (channel.blamed blame) payload sent).value.2 =
        (left.receive id channel payload sent).value.2 ∧
      (right.receive id (channel.blamed blame) payload sent).told =
        (left.receive id channel payload sent).told := by
  have same : (channel.blamed blame).state = channel.state := rfl
  obtain ⟨later, received⟩ := channel.receive_blamed blame payload sent left.nettime
  unfold Link.receive
  rw [same, alike.nettime, received]
  cases channel.state.isConnected with
  | false => exact ⟨rfl, rfl⟩
  | true =>
      rcases channel.receive payload sent left.nettime with ⟨after, error | reception⟩
      · exact ⟨rfl, rfl⟩
      · cases reception <;> exact ⟨rfl, rfl⟩

/-- An event for a channel gets the same answer, and the same is told of it. -/
theorem dispatch_answer (alike : AlikeBut blamed left right) {event : InboundEvent}
    {id : ChannelId} (concerned : event.channel? = some id) :
    (right.dispatch event).value.2 = (left.dispatch event).value.2 ∧
      (right.dispatch event).told = (left.dispatch event).told := by
  obtain ⟨blame, there⟩ := alike.found id
  cases here : left.channels[id]? with
  | none =>
      rw [here, Option.map_none] at there
      have leftwards := (Failing.unknown concerned here).dispatch
      have rightwards := (Failing.unknown concerned there).dispatch
      exact ⟨rightwards.1.trans leftwards.1.symm, rightwards.2.1.trans leftwards.2.1.symm⟩
  | some channel =>
      rw [here, Option.map_some] at there
      cases event with
      | linkStateChanged announced fault => cases concerned
      | channelStateChanged target announced fault =>
          cases concerned
          have told := alike.followChannelState_told id channel blame announced fault
          simp [Link.dispatch, onChannel, here, there, told]
      | channelUpdated target payload sent =>
          cases concerned
          obtain ⟨answer, told⟩ := alike.receive id channel blame payload sent
          simp [Link.dispatch, onChannel, here, there, answer, told]
      | publishAcknowledged target buffer =>
          cases concerned
          simp [Link.dispatch, onChannel, here, there]
      | deliveryAcknowledged target buffer =>
          cases concerned
          simp [Link.dispatch, onChannel, here, there]

/-- An event does the same to links that are alike. -/
theorem dispatch (alike : AlikeBut blamed left right) (event : InboundEvent) :
    AlikeBut blamed (left.dispatch event).value.1 (right.dispatch event).value.1 ∧
      (right.dispatch event).value.2 = (left.dispatch event).value.2 ∧
      (right.dispatch event).told = (left.dispatch event).told := by
  have time : (right.dispatch event).value.1.nettime = (left.dispatch event).value.1.nettime := by
    rw [(right.dispatch_spec event).1.nettime, (left.dispatch_spec event).1.nettime, alike.nettime]
  have channels := alike.dispatch_channels event
  cases concerned : event.channel? with
  | none =>
      obtain ⟨announced, fault, rfl⟩ := InboundEvent.eq_linkStateChanged concerned
      obtain ⟨frame, told⟩ := alike.followLinkState announced fault
      exact ⟨⟨frame, time, channels⟩, rfl, by simp [Link.dispatch, told]⟩
  | some id =>
      have leftwards : (left.dispatch event).value.1 = _ := dispatch_frame concerned
      have rightwards : (right.dispatch event).value.1 = _ := dispatch_frame concerned
      refine ⟨⟨?_, time, channels⟩, alike.dispatch_answer concerned⟩
      rw [leftwards, rightwards]
      exact congrArg (fun link : Link T =>
        { link with channels := (right.dispatch event).value.1.channels }) alike.frame

end AlikeBut

/-! ## Batches -/

/-- An event and the link it comes to. -/
structure Arrival (T : Type) where
  link : Link T
  event : InboundEvent

namespace Arrival

def after (arrival : Arrival T) : Link T :=
  (arrival.link.dispatch arrival.event).value.1

def told (arrival : Arrival T) : List LinkEvent :=
  (arrival.link.dispatch arrival.event).told

def error? (arrival : Arrival T) : Option Error :=
  match (arrival.link.dispatch arrival.event).value.2 with
  | .ok _ => none
  | .error error => some error

def Blames (arrival : Arrival T) (id : ChannelId) : Prop :=
  ∃ payload sent error, arrival.event = .channelUpdated id payload sent ∧
    arrival.error? = some error ∧ error.kind = .badDatasetSize

theorem error?_eq_some {arrival : Arrival T} {error : Error} :
    arrival.error? = some error ↔ Failing arrival.link arrival.event error := by
  constructor
  · intro failed
    apply failing_of_error
    unfold error? at failed
    split at failed
    · cases failed
    · cases failed
      assumption
  · intro failing
    rw [error?, failing.dispatch.1]

/-- After a failing event the link is what it was, but for the fault of a channel that it blames. -/
theorem alikeBut {arrival : Arrival T} {error : Error} (failed : arrival.error? = some error) :
    AlikeBut arrival.Blames arrival.after arrival.link := by
  obtain ⟨-, -, harmless, remembered⟩ := (error?_eq_some.mp failed).dispatch
  by_cases misfit : error.kind = .badDatasetSize
  · obtain ⟨id, payload, sent, channel, update, found, after⟩ := remembered misfit
    unfold Arrival.after
    rw [after]
    refine ⟨rfl, rfl, fun other => ?_⟩
    have marked := getElem?_setChannel found
      (fun channel => { channel with lastError := some ⟨.badDatasetSize, error.message⟩ }) other
    by_cases same : id = other
    · subst same
      refine .inr ⟨⟨payload, sent, error, update, failed, misfit⟩, channel.lastError, ?_⟩
      rw [marked, found]
      simp [Channel.blamed]
    · rw [marked]
      simp [same]
  · rw [Arrival.after, harmless misfit]
    exact .refl _ _

end Arrival

/-- The events of a batch, each with the link it comes to. -/
def incoming (link : Link T) : List InboundEvent → List (Arrival T)
  | [] => []
  | event :: rest => ⟨link, event⟩ :: (link.dispatch event).value.1.incoming rest

def sound (link : Link T) (events : List InboundEvent) : List InboundEvent :=
  ((link.incoming events).filter (·.error?.isNone)).map Arrival.event

theorem sound_cons_ok {link : Link T} {event : InboundEvent}
    (taken : (Arrival.mk link event).error? = none) (rest : List InboundEvent) :
    link.sound (event :: rest) = event :: (link.dispatch event).value.1.sound rest := by
  simp [sound, incoming, taken]

theorem sound_cons_error {link : Link T} {event : InboundEvent} {error : Error}
    (failed : (Arrival.mk link event).error? = some error) (rest : List InboundEvent) :
    link.sound (event :: rest) = (link.dispatch event).value.1.sound rest := by
  simp [sound, incoming, failed]

/-- A batch does to a link what its sound events do to a link that is alike, and none of these
fails. -/
theorem AlikeBut.feed_sound {blamed : ChannelId → Prop} {left right : Link T}
    (alike : AlikeBut blamed left right) (events : List InboundEvent) :
    AlikeBut (fun id => blamed id ∨ ∃ arrival ∈ left.incoming events, arrival.Blames id)
        (left.feed events).value (right.feed (left.sound events)).value ∧
      (right.feed (left.sound events)).told = (left.feed events).told ∧
      ∀ arrival ∈ right.incoming (left.sound events), arrival.error? = none := by
  induction events generalizing blamed left right with
  | nil => exact ⟨alike.mono fun _ => .inl, rfl, by simp [sound, incoming]⟩
  | cons event rest ih =>
      rw [feed_cons_value, feed_cons_told]
      cases outcome : (Arrival.mk left event).error? with
      | none =>
          -- Both links take the same step.
          obtain ⟨still, answer, told⟩ := alike.dispatch event
          obtain ⟨alikeLater, toldLater, sound⟩ := ih still
          have taken : (Arrival.mk right event).error? = none := by
            rw [← outcome, Arrival.error?, Arrival.error?, answer]
          rw [sound_cons_ok outcome, feed_cons_value, feed_cons_told, told, toldLater]
          refine ⟨alikeLater.mono fun id => ?_, rfl, ?_⟩
          · rintro (marked | ⟨arrival, inside, blames⟩)
            · exact .inl marked
            · exact .inr ⟨arrival, List.mem_cons_of_mem _ inside, blames⟩
          · intro arrival inside
            rcases List.mem_cons.mp inside with rfl | later
            · exact taken
            · exact sound arrival later
      | some error =>
          -- The right link stays where it is, and the left one hardly moves.
          have unharmed : AlikeBut _ (left.dispatch event).value.1 right :=
            (Arrival.alikeBut outcome).trans alike
          have silent : (left.dispatch event).told = [] :=
            (Arrival.error?_eq_some.mp outcome).dispatch.2.1
          obtain ⟨alikeLater, toldLater, sound⟩ := ih unharmed
          rw [sound_cons_error outcome, toldLater, silent, List.nil_append]
          refine ⟨alikeLater.mono fun id => ?_, rfl, sound⟩
          rintro ((blames | marked) | ⟨arrival, inside, blames⟩)
          · exact .inr ⟨_, List.mem_cons_self, blames⟩
          · exact .inl marked
          · exact .inr ⟨arrival, List.mem_cons_of_mem _ inside, blames⟩

/-- Events do not reach the transport. -/
theorem feed_transport (link : Link T) (events : List InboundEvent) :
    (link.feed events).value.transport = link.transport := by
  induction events generalizing link with
  | nil => rfl
  | cons event rest ih =>
      rw [feed_cons_value, ih]
      exact (dispatch_spec link event).1.transport

/-- A batch is one event after the other, and its first failure is kept. -/
theorem dispatchAll_eq (link : Link T) (events : List InboundEvent) :
    (link.dispatchAll events).value =
        ((link.feed events).value, (link.incoming events).findSome? Arrival.error?) ∧
      (link.dispatchAll events).told = (link.feed events).told := by
  induction events generalizing link with
  | nil => exact ⟨rfl, rfl⟩
  | cons event rest ih =>
      rw [feed_cons_value, feed_cons_told, incoming, List.findSome?_cons, Arrival.error?,
        dispatchAll, Trail.told_bind]
      rcases link.dispatch event with ⟨⟨after, error | done⟩, marks⟩
      · obtain ⟨value, told⟩ := ih after
        have fed := congrArg Prod.fst value
        exact ⟨Prod.ext fed rfl, by simp [told]⟩
      · obtain ⟨value, told⟩ := ih after
        exact ⟨value, congrArg _ told⟩

/-- With a session open, a batch is fetched and applied in order; the answer is its first failure,
or its length. -/
theorem process_batch {link : Link T} {session : Session} {transport : T}
    {events : List InboundEvent} (opened : link.session = some session)
    (polled : (Transport.poll link.transport session).value = (transport, events)) :
    link.process.value.1 = ({ link with transport }.feed events).value ∧
      link.process.told = ({ link with transport }.feed events).told ∧
      link.process.value.2 =
        (({ link with transport }.incoming events).findSome? Arrival.error?).elim
          (.ok events.length) .error := by
  obtain ⟨value, told⟩ := dispatchAll_eq { link with transport } events
  unfold process
  split
  · rename_i closed
    cases opened.symm.trans closed
  · rename_i other found
    cases opened.symm.trans found
    simp only [Trail.value_bind, Trail.told_bind, value_request, told_request, polled, value, told]
    cases first : ({ link with transport }.incoming events).findSome? Arrival.error? with
    | none => simp
    | some error => simp

/-- One bad event does not spoil a batch.  All events are applied in order and the first failure is
the answer; an event that fails, for one of three reasons, tells nothing and leaves the link alone
but for the fault of a channel that got a value of the wrong size.  So the batch without its failing
events does the same, but for these faults. -/
theorem bad_events_do_not_spoil_a_batch {link : Link T} {session : Session} {transport : T}
    {events : List InboundEvent} (opened : link.session = some session)
    (polled : (Transport.poll link.transport session).value = (transport, events)) :
    let begun : Link T := { link with transport }
    let blamed := fun id => ∃ arrival ∈ begun.incoming events, arrival.Blames id
    (link.process.value.1 = (begun.feed events).value ∧
      link.process.told = (begun.feed events).told ∧
      link.process.value.2 =
        ((begun.incoming events).findSome? Arrival.error?).elim (.ok events.length) .error) ∧
    (∀ arrival ∈ begun.incoming events, ∀ error,
      (arrival.error? = some error ↔ Failing arrival.link arrival.event error) ∧
      (arrival.error? = some error →
        arrival.told = [] ∧ arrival.link.Unharmed arrival.after arrival.event error)) ∧
    ((∀ arrival ∈ begun.incoming (begun.sound events), arrival.error? = none) ∧
      (begun.feed (begun.sound events)).told = link.process.told ∧
      (begun.feed (begun.sound events)).value.transport = link.process.value.1.transport ∧
      AlikeBut blamed link.process.value.1 (begun.feed (begun.sound events)).value) ∧
    ∀ clean cleared : T,
      (Transport.poll clean session).value = (cleared, begun.sound events) →
      Transport.nettime cleared = Transport.nettime transport →
      let other : Link T := { link with transport := clean }
      other.process.value.2 = .ok (begun.sound events).length ∧
        other.process.told = link.process.told ∧ other.process.value.1.transport = cleared ∧
        AlikeBut blamed link.process.value.1 other.process.value.1 := by
  intro begun blamed
  obtain ⟨value, told, answer⟩ := process_batch opened polled
  have without {other : Link T} (alike : AlikeBut (fun _ => False) begun other) :
      AlikeBut blamed link.process.value.1 (other.feed (begun.sound events)).value ∧
        (other.feed (begun.sound events)).told = link.process.told ∧
        ∀ arrival ∈ other.incoming (begun.sound events), arrival.error? = none := by
    rw [value, told]
    obtain ⟨still, same, sound⟩ := alike.feed_sound events
    exact ⟨still.mono fun _ either => either.resolve_left not_false, same, sound⟩
  refine ⟨⟨value, told, answer⟩, ?_, ?_, ?_⟩
  · intro arrival _ error
    refine ⟨Arrival.error?_eq_some, fun failed => ?_⟩
    exact (Arrival.error?_eq_some.mp failed).dispatch.2
  · obtain ⟨still, same, sound⟩ := without (.refl _ begun)
    refine ⟨sound, same, ?_, still⟩
    rw [value, feed_transport, feed_transport]
  · intro clean cleared handed time other
    have alike : AlikeBut (fun _ => False) begun { other with transport := cleared } :=
      ⟨rfl, time, fun _ => .inl rfl⟩
    obtain ⟨still, same, sound⟩ := without alike
    have ready : other.session = some session := opened
    obtain ⟨value, told, answer⟩ := process_batch ready handed
    rw [value, told, answer, List.findSome?_eq_none_iff.mpr sound]
    exact ⟨rfl, same, feed_transport _ _, still⟩

end Transport

/-- A connected link with a channel for both directions, one that queues what it receives and one
that only publishes. -/
def threeLanes : Link Simulator :=
  let line := ofBuilt ((new "line" {}).addChannels
    [⟨"near", .both, 1, none⟩, ⟨"far", .subscribe, 2, some 3⟩, ⟨"out", .publish, 1, none⟩]) rfl
  line.connect.value.1.process.value.1

def visited (events : List InboundEvent) : Link Simulator :=
  { threeLanes with transport := events.foldl Simulator.inject threeLanes.transport }

/-- Values for each channel.  The second is too short, the third is for no channel and the fourth is
for the channel that does not receive.  The last but one has the wrong size as well, but its channel
is disconnected by then. -/
def mixedBag : List InboundEvent :=
  [.channelUpdated 0 [5] 6, .channelUpdated 1 [9] 4, .channelUpdated 7 [1] 6,
    .channelUpdated 2 [1] 6, .channelStateChanged 0 .disconnected none,
    .channelUpdated 0 [1, 2] 6, .channelUpdated 1 [3, 4] 7]

/-- The same without the three that fail. -/
def sortedBag : List InboundEvent :=
  [.channelUpdated 0 [5] 6, .channelStateChanged 0 .disconnected none,
    .channelUpdated 0 [1, 2] 6, .channelUpdated 1 [3, 4] 7]

theorem three_bad_values_are_passed_by :
    let begun := { visited mixedBag with transport := ((visited mixedBag).transport.poll 1).1 }
    (visited mixedBag).session = some 1 ∧ begun.sound mixedBag = sortedBag ∧
      (visited mixedBag).process.value.2 = .error (.badDatasetSize 2 1) ∧
      (visited sortedBag).process.value.2 = .ok 4 ∧
      (visited sortedBag).process.told = (visited mixedBag).process.told ∧
      (visited sortedBag).process.value.1.channels[1]? ≠
        (visited mixedBag).process.value.1.channels[1]? ∧
      AlikeBut (fun id => ∃ arrival ∈ begun.incoming mixedBag, arrival.Blames id)
        (visited mixedBag).process.value.1 (visited sortedBag).process.value.1 := by
  intro begun
  have opened : (visited mixedBag).session = some 1 := by decide +kernel
  have polled : (Transport.poll (visited mixedBag).transport 1).value =
      (((visited mixedBag).transport.poll 1).1, mixedBag) := Prod.ext rfl (by decide +kernel)
  have sound : begun.sound mixedBag = sortedBag := by decide +kernel
  have cleared : (Transport.poll (visited sortedBag).transport 1).value =
      (((visited sortedBag).transport.poll 1).1, begun.sound mixedBag) :=
    Prod.ext rfl (by decide +kernel)
  obtain ⟨⟨-, -, answer⟩, -, -, without⟩ := bad_events_do_not_spoil_a_batch opened polled
  obtain ⟨passed, told, -, alike⟩ := without (visited sortedBag).transport _ cleared rfl
  refine ⟨opened, sound, answer.trans (by decide +kernel), passed.trans (by decide +kernel), told,
    by decide +kernel, alike⟩

end Link

end DatasetSync
