import DatasetSync.Proofs.Link.Events
import DatasetSync.Transport.Simulator

/-!
# Channels keep to themselves

Two links may differ in many channels and still agree on one.  An event for another channel is not
noticed there, and every other event does the same to both links.  So what becomes of a channel, and
what its owner hears about it, is settled by the events for the link and for this channel, whatever
else comes in between.
-/

namespace DatasetSync

/-- What is about the link or about a channel matters to this channel. -/
def matters (id : ChannelId) (about : Option ChannelId) : Bool :=
  about == none || about == some id

def InboundEvent.concerns (id : ChannelId) (event : InboundEvent) : Bool :=
  matters id event.channel?

def LinkEvent.concerns (id : ChannelId) (event : LinkEvent) : Bool :=
  matters id event.channel?

theorem matters_eq_false {id target : ChannelId} (apart : target ≠ id) :
    matters id (some target) = false := by
  simp [matters, apart]

/-- An event is about another channel, about the link, or about this channel. -/
theorem InboundEvent.concerns_cases (id : ChannelId) (event : InboundEvent) :
    (∃ target, event.channel? = some target ∧ target ≠ id ∧ event.concerns id = false) ∨
      (event.channel? = none ∨ event.channel? = some id) ∧ event.concerns id = true := by
  unfold concerns
  cases event.channel? with
  | none => exact .inr ⟨.inl rfl, rfl⟩
  | some target =>
      by_cases apart : target = id
      · subst apart
        exact .inr ⟨.inr rfl, by simp [matters]⟩
      · exact .inl ⟨target, rfl, apart, matters_eq_false apart⟩

/-- What is told about one channel does not matter to another. -/
theorem LinkEvent.filter_concerns {id target : ChannelId} {told : List LinkEvent}
    (about : ∀ event ∈ told, event.channel? = some target) (apart : target ≠ id) :
    told.filter (·.concerns id) = [] := by
  apply List.filter_eq_nil_iff.mpr
  intro event inside
  rw [concerns, about event inside, matters_eq_false apart]
  exact Bool.false_ne_true

namespace Trail

variable {α β : Type}

def told (trail : Trail Effect α) : List LinkEvent :=
  trail.marks.filterMap Effect.event?

@[simp] theorem told_pure (value : α) : (pure value : Trail Effect α).told = [] := rfl

@[simp] theorem told_bind (first : Trail Effect α) (next : α → Trail Effect β) :
    (first >>= next).told = first.told ++ (next first.value).told :=
  List.filterMap_append

end Trail

namespace Link

variable {T : Type}

@[simp] theorem told_report (link : Link T) (occasion : LinkReport) :
    (link.report occasion).told = [] := rfl

@[simp] theorem told_emit (link : Link T) (event : LinkEvent) :
    (link.emit event).told = [event] := rfl

/-! ## What is told about an event -/

/-- Among the links in question an action tells the same, and all of it about one channel. -/
def TellsAlike {α : Type} (id : ChannelId) (among : Link T → Prop)
    (act : Link T → Trail Effect α) : Prop :=
  ∃ told : List LinkEvent, (∀ event ∈ told, event.channel? = some id) ∧
    ∀ link, among link → (act link).told = told

namespace TellsAlike

variable {α : Type} {id : ChannelId} {among : Link T → Prop} {act : Link T → Trail Effect α}

theorem silent (tells : ∀ link, among link → (act link).told = []) : TellsAlike id among act :=
  ⟨[], by simp, tells⟩

theorem single (event : LinkEvent) (about : event.channel? = some id)
    (tells : ∀ link, among link → (act link).told = [event]) : TellsAlike id among act :=
  ⟨[event], by simpa using about, tells⟩

/-- More may be known of the links, and more may be done, as long as nothing else is told. -/
theorem mono {β : Type} {fewer : Link T → Prop} {other : Link T → Trail Effect β}
    (alike : TellsAlike id among act) (known : ∀ link, fewer link → among link)
    (same : ∀ link, fewer link → (other link).told = (act link).told) :
    TellsAlike id fewer other := by
  obtain ⟨told, about, tells⟩ := alike
  exact ⟨told, about, fun link inside => (same link inside).trans (tells link (known link inside))⟩

end TellsAlike

theorem settleChannel_told (link : Link T) (id : ChannelId) (channel : Channel)
    (fault : Option Fault) :
    (link.settleChannel id channel fault).told =
      [.channelStateChanged id channel.state fault] := by
  unfold settleChannel
  split <;> simp

/-- What is told about an announced state of a channel is read off this channel and the state of the
link. -/
theorem followChannelState_told (state : ConnectionState) (id : ChannelId) (channel : Channel)
    (announced : ConnectionState) (fault : Option Fault) :
    TellsAlike id (fun link : Link T => link.state = state)
      (·.followChannelState id channel announced fault) := by
  by_cases promotion : announced = .operational
  · by_cases top : state = .operational
    · cases promoted : channel.setOperational with
      | ok moved =>
          refine .single (.channelStateChanged id moved.state fault) rfl fun link same => ?_
          simp [followChannelState, followPromotion, promotion, same, top, promoted,
            settleChannel_told]
      | error error =>
          refine .silent fun link same => ?_
          simp [followChannelState, followPromotion, promotion, same, top, promoted]
    · refine .silent fun link same => ?_
      simp [followChannelState, followPromotion, promotion, same, top]
  · cases moves : channel.transition announced fault with
    | error error =>
        refine .silent fun link same => ?_
        simp [followChannelState, promotion, moves]
    | ok change =>
        cases change with
        | none =>
            refine .silent fun link same => ?_
            simp [followChannelState, promotion, moves]
        | some moved =>
            refine .single (.channelStateChanged id moved.state fault) rfl fun link same => ?_
            simp [followChannelState, promotion, moves, settleChannel_told]

section Transport

variable [Transport T]

/-- What is told about a received value is read off its channel and the time. -/
theorem receive_told (now : Nettime) (id : ChannelId) (channel : Channel) (payload : List UInt8)
    (sent : Nettime) :
    TellsAlike id (fun link : Link T => link.nettime = now)
      (·.receive id channel payload sent) := by
  cases connected : channel.state.isConnected with
  | false =>
      refine .silent fun link same => ?_
      simp [receive, connected]
  | true =>
      rcases received : channel.receive payload sent now with ⟨taken, error | reception⟩
      · refine .silent fun link same => ?_
        simp [receive, connected, same, received]
      · cases reception with
        | accepted latency =>
            refine .single (.channelUpdated id latency) rfl fun link same => ?_
            simp [receive, connected, same, received]
        | overflowed dropped =>
            refine .single (.bufferOverflow id dropped) rfl fun link same => ?_
            simp [receive, connected, same, received]

/-- What is told about an event for a channel is about this channel, and is read off it, the state
of the link and the time. -/
theorem dispatch_told {event : InboundEvent} {id : ChannelId}
    (concerned : event.channel? = some id) (state : ConnectionState) (found : Option Channel)
    (now : Nettime) :
    TellsAlike id
      (fun link : Link T =>
        link.state = state ∧ link.channels[id]? = found ∧ link.nettime = now)
      (·.dispatch event) := by
  cases found with
  | none =>
      refine .silent fun link known => ?_
      cases event <;> cases concerned <;> simp [dispatch, onChannel, known.2.1]
  | some channel =>
      cases event with
      | linkStateChanged announced fault => cases concerned
      | channelStateChanged target announced fault =>
          cases concerned
          refine (followChannelState_told state id channel announced fault).mono
            (fun link known => known.1) fun link known => ?_
          simp [dispatch, onChannel, known.2.1]
      | channelUpdated target payload sent =>
          cases concerned
          refine (receive_told now id channel payload sent).mono
            (fun link known => known.2.2) fun link known => ?_
          simp [dispatch, onChannel, known.2.1]
      | publishAcknowledged target buffer =>
          cases concerned
          refine .single (.channelPublished id buffer) rfl fun link known => ?_
          simp [dispatch, onChannel, known.2.1]
      | deliveryAcknowledged target buffer =>
          cases concerned
          refine .single (.channelDelivered id buffer) rfl fun link known => ?_
          simp [dispatch, onChannel, known.2.1]

/-- An event takes no time. -/
theorem Dispatched.nettime {link after : Link T} {event : InboundEvent}
    (dispatched : link.Dispatched event after) : after.nettime = link.nettime :=
  congrArg Transport.nettime dispatched.transport

/-- A link does not remember the faults of its channels as its own. -/
theorem dispatch_lastError {event : InboundEvent} {id : ChannelId}
    (concerned : event.channel? = some id) (link : Link T) :
    (link.dispatch event).value.1.lastError = link.lastError := by
  rw [dispatch_frame concerned]

/-! ## Links that agree on a channel -/

/-- Two links agree on themselves, on a channel and on the time. -/
structure AgreeOn (id : ChannelId) (left right : Link T) : Prop where
  state : left.state = right.state
  lastError : left.lastError = right.lastError
  channel : left.channels[id]? = right.channels[id]?
  nettime : left.nettime = right.nettime

namespace AgreeOn

variable {id : ChannelId} {left middle right : Link T}

theorem refl (id : ChannelId) (link : Link T) : AgreeOn id link link :=
  ⟨rfl, rfl, rfl, rfl⟩

theorem symm (agree : AgreeOn id left right) : AgreeOn id right left :=
  ⟨agree.state.symm, agree.lastError.symm, agree.channel.symm, agree.nettime.symm⟩

theorem trans (first : AgreeOn id left middle) (second : AgreeOn id middle right) :
    AgreeOn id left right :=
  ⟨first.state.trans second.state, first.lastError.trans second.lastError,
    first.channel.trans second.channel, first.nettime.trans second.nettime⟩

end AgreeOn

variable {id : ChannelId} {left right : Link T}

/-- An event for another channel is not noticed. -/
theorem agreeOn_dispatch {event : InboundEvent} {target : ChannelId}
    (concerned : event.channel? = some target) (apart : target ≠ id) (link : Link T) :
    AgreeOn id (link.dispatch event).value.1 link ∧
      (link.dispatch event).told.filter (·.concerns id) = [] := by
  have dispatched := (link.dispatch_spec event).1
  constructor
  · constructor
    · rw [dispatched.state, stateAfter_of_channel concerned]
    · exact dispatch_lastError concerned link
    · simp [dispatched.channels, Channel.onEvent_of_ne concerned apart]
    · exact dispatched.nettime
  · obtain ⟨told, about, tells⟩ := dispatch_told (T := T) concerned link.state
      link.channels[target]? link.nettime
    rw [tells link ⟨rfl, rfl, rfl⟩]
    exact LinkEvent.filter_concerns about apart

/-- An announced state of the link does the same to the memory of both links, and the same is told
of it. -/
theorem AgreeOn.followLinkState (agree : AgreeOn id left right) (announced : ConnectionState)
    (fault : Option Fault) :
    (left.followLinkState announced fault).value.lastError =
        (right.followLinkState announced fault).value.lastError ∧
      (left.followLinkState announced fault).told =
        (right.followLinkState announced fault).told := by
  have sameState := agree.state
  have sameError := agree.lastError
  cases standing : left.state <;> rw [standing] at sameState <;> cases announced <;>
    simp [Link.followLinkState, followAbort, settle, dropConnection, mapChannels, standing,
      ← sameState, sameError]

/-- An event that matters to a channel does the same to links that agree on it. -/
theorem AgreeOn.dispatch (agree : AgreeOn id left right) {event : InboundEvent}
    (concerns : event.channel? = none ∨ event.channel? = some id) :
    AgreeOn id (left.dispatch event).value.1 (right.dispatch event).value.1 ∧
      (left.dispatch event).told = (right.dispatch event).told := by
  have leftwards := (left.dispatch_spec event).1
  have rightwards := (right.dispatch_spec event).1
  have state : (left.dispatch event).value.1.state = (right.dispatch event).value.1.state := by
    rw [leftwards.state, rightwards.state, agree.state]
  have channel : (left.dispatch event).value.1.channels[id]? =
      (right.dispatch event).value.1.channels[id]? := by
    rw [leftwards.channels, rightwards.channels, agree.channel, agree.state, agree.nettime]
  have time : (left.dispatch event).value.1.nettime = (right.dispatch event).value.1.nettime := by
    rw [leftwards.nettime, rightwards.nettime, agree.nettime]
  rcases concerns with general | concerned
  · obtain ⟨announced, fault, rfl⟩ := InboundEvent.eq_linkStateChanged general
    obtain ⟨lastError, told⟩ := agree.followLinkState announced fault
    exact ⟨⟨state, lastError, channel, time⟩, by simp [Link.dispatch, told]⟩
  · have lastError : (left.dispatch event).value.1.lastError =
        (right.dispatch event).value.1.lastError := by
      rw [dispatch_lastError concerned, dispatch_lastError concerned, agree.lastError]
    obtain ⟨told, -, tells⟩ := dispatch_told (T := T) concerned right.state
      right.channels[id]? right.nettime
    refine ⟨⟨state, lastError, channel, time⟩, ?_⟩
    rw [tells left ⟨agree.state, agree.channel, agree.nettime⟩, tells right ⟨rfl, rfl, rfl⟩]

/-! ## Many events -/

/-- Apply events in order, whatever each of them is answered. -/
def feed (link : Link T) : List InboundEvent → Trail Effect (Link T)
  | [] => return link
  | event :: rest => do
      let (after, _) ← link.dispatch event
      after.feed rest

theorem feed_cons_value (link : Link T) (event : InboundEvent) (rest : List InboundEvent) :
    (link.feed (event :: rest)).value = ((link.dispatch event).value.1.feed rest).value := rfl

theorem feed_cons_told (link : Link T) (event : InboundEvent) (rest : List InboundEvent) :
    (link.feed (event :: rest)).told =
      (link.dispatch event).told ++ ((link.dispatch event).value.1.feed rest).told := by
  rw [feed, Trail.told_bind]

theorem feed_append_value (link : Link T) (early late : List InboundEvent) :
    (link.feed (early ++ late)).value = ((link.feed early).value.feed late).value := by
  induction early generalizing link with
  | nil => rfl
  | cons event rest ih =>
      rw [List.cons_append, feed_cons_value, feed_cons_value]
      exact ih _

/-- All events do to a channel what the events that matter to it do. -/
theorem AgreeOn.feed_filter (agree : AgreeOn id left right) (events : List InboundEvent) :
    AgreeOn id (left.feed events).value (right.feed (events.filter (·.concerns id))).value ∧
      (left.feed events).told.filter (·.concerns id) =
        (right.feed (events.filter (·.concerns id))).told.filter (·.concerns id) := by
  induction events generalizing left right with
  | nil => exact ⟨agree, rfl⟩
  | cons event rest ih =>
      rw [feed_cons_value, feed_cons_told, List.filter_append]
      rcases event.concerns_cases id with
        ⟨target, about, apart, unconcerned⟩ | ⟨concerned, matters⟩
      · -- The event is passed by on the right, and the left link is as before.
        obtain ⟨unnoticed, silent⟩ := agreeOn_dispatch about apart left
        rw [List.filter_cons_of_neg (by simp [unconcerned]), silent, List.nil_append]
        exact ih (unnoticed.trans agree)
      · -- Both links take the same step.
        obtain ⟨still, told⟩ := agree.dispatch concerned
        obtain ⟨agreed, same⟩ := ih still
        rw [List.filter_cons_of_pos matters, feed_cons_value, feed_cons_told, List.filter_append,
          told, same]
        exact ⟨agreed, rfl⟩

/-- Two events for channels change nothing of the link but its channels. -/
theorem dispatch_dispatch_frame {link : Link T} {first second : InboundEvent}
    {here there : ChannelId} (one : first.channel? = some here)
    (other : second.channel? = some there) :
    ((link.dispatch first).value.1.dispatch second).value.1 =
      { link with channels := ((link.dispatch first).value.1.dispatch second).value.1.channels } :=
  (dispatch_frame other).trans
    (congrArg (fun between : Link T =>
      { between with
        channels := ((link.dispatch first).value.1.dispatch second).value.1.channels })
      (dispatch_frame one))

/-- Events for different channels may come in either order. -/
theorem dispatch_comm {first second : InboundEvent} {here there : ChannelId}
    (one : first.channel? = some here) (other : second.channel? = some there)
    (apart : here ≠ there) (link : Link T) :
    ((link.dispatch first).value.1.dispatch second).value.1 =
      ((link.dispatch second).value.1.dispatch first).value.1 := by
  have early := (link.dispatch_spec first).1
  have late := (link.dispatch_spec second).1
  have thenSecond := ((link.dispatch first).value.1.dispatch_spec second).1
  have thenFirst := ((link.dispatch second).value.1.dispatch_spec first).1
  have channels : ((link.dispatch first).value.1.dispatch second).value.1.channels =
      ((link.dispatch second).value.1.dispatch first).value.1.channels := by
    apply List.ext_getElem?
    intro id
    rw [thenSecond.channels, early.channels, thenFirst.channels, late.channels, early.state,
      late.state, stateAfter_of_channel one, stateAfter_of_channel other, early.nettime,
      late.nettime, Option.map_map, Option.map_map]
    apply Option.map_congr
    intro channel _
    -- At most one of the two events is for this channel.
    by_cases mine : here = id
    · have unconcerned : there ≠ id := fun same => apart (mine.trans same.symm)
      simp only [Function.comp_apply, Channel.onEvent_of_ne other unconcerned]
    · simp only [Function.comp_apply, Channel.onEvent_of_ne one mine]
  rw [dispatch_dispatch_frame one other, dispatch_dispatch_frame other one, channels]

/-- What becomes of a channel and what the owner hears about it and the link is settled by the
events for the link and for this channel, and events for different channels may change places. -/
theorem channels_do_not_interfere (link : Link T) (id : ChannelId) (left right : List InboundEvent)
    (agree : left.filter (·.concerns id) = right.filter (·.concerns id)) :
    (link.feed left).value.state = (link.feed right).value.state ∧
      (link.feed left).value.lastError = (link.feed right).value.lastError ∧
      (link.feed left).value.channels[id]? = (link.feed right).value.channels[id]? ∧
      (link.feed left).told.filter (·.concerns id) =
        (link.feed right).told.filter (·.concerns id) ∧
      ∀ (early late : List InboundEvent) (first second : InboundEvent) (here there : ChannelId),
        first.channel? = some here → second.channel? = some there → here ≠ there →
          (link.feed (early ++ first :: second :: late)).value =
            (link.feed (early ++ second :: first :: late)).value := by
  obtain ⟨leftwards, leftTold⟩ := (AgreeOn.refl id link).feed_filter left
  obtain ⟨rightwards, rightTold⟩ := (AgreeOn.refl id link).feed_filter right
  rw [agree] at leftwards leftTold
  have agreed := leftwards.trans rightwards.symm
  refine ⟨agreed.state, agreed.lastError, agreed.channel, leftTold.trans rightTold.symm, ?_⟩
  intro early late first second here there one other apart
  rw [feed_append_value, feed_append_value, feed_cons_value, feed_cons_value, feed_cons_value,
    feed_cons_value, dispatch_comm one other apart]

end Transport

def twoLanes : Link Simulator :=
  ofBuilt ((new "line" {}).addChannels
    [⟨"near", .both, 1, none⟩, ⟨"far", .both, 2, some 3⟩]) rfl

def nearLane : List InboundEvent :=
  [.linkStateChanged .connected none, .channelStateChanged 0 .connected none,
    .channelUpdated 0 [5] 6, .linkStateChanged .operational none]

/-- In between, the far channel gets a value of a wrong size and aborts, and a value comes in for a
channel that is not there. -/
def bothLanes : List InboundEvent :=
  [.channelStateChanged 1 .aborted none, .linkStateChanged .connected none,
    .channelStateChanged 1 .connected none, .channelUpdated 1 [9] 4,
    .channelStateChanged 0 .connected none, .channelUpdated 7 [1] 6,
    .channelStateChanged 1 .aborted (some ⟨.system, "far end"⟩), .channelUpdated 0 [5] 6,
    .linkStateChanged .operational none]

theorem near_lane_does_not_see_the_far_one :
    bothLanes.filter (·.concerns 0) = nearLane.filter (·.concerns 0) ∧
      (twoLanes.feed bothLanes).value.channels[1]? ≠ (twoLanes.feed nearLane).value.channels[1]? ∧
      (twoLanes.feed bothLanes).value.channels[0]? = (twoLanes.feed nearLane).value.channels[0]? ∧
      (twoLanes.feed bothLanes).told.filter (·.concerns 0) =
        [.linkStateChanged .connected none, .channelStateChanged 0 .connected none,
          .channelUpdated 0 (-6), .linkStateChanged .operational none] ∧
      (twoLanes.feed [.channelStateChanged 1 .connected none, .channelUpdated 0 [5] 6]).value =
        (twoLanes.feed
          [.channelUpdated 0 [5] 6, .channelStateChanged 1 .connected none]).value := by
  have general (left right : List InboundEvent) := channels_do_not_interfere twoLanes 0 left right
  have agree : bothLanes.filter (·.concerns 0) = nearLane.filter (·.concerns 0) := by decide
  obtain ⟨-, -, near, told, swap⟩ := general bothLanes nearLane agree
  refine ⟨agree, by decide +kernel, near, told.trans (by decide +kernel), ?_⟩
  exact swap [] [] _ _ 1 0 rfl rfl (by decide)

end Link

end DatasetSync
