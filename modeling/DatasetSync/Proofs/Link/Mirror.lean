import DatasetSync.Proofs.Link.Promotion
import DatasetSync.Transport.Simulator

/-!
# The owner's picture of a link

An owner who hears every event of a link can keep a picture of it: where the link stands, and where
each of its channels does.  A state of the link stands for what it does to the channels, so that one
event may move many of them in the picture.  The picture is right at every event, and between
operations.
-/

namespace DatasetSync

def ConnectionState.below (link channel : ConnectionState) : ConnectionState :=
  match link, channel with
  | .operational, .connected => .operational
  | .connected, .operational => .connected
  | .disconnected, _ => .disconnected
  | _, channel => channel

/-- What an owner gets to know: an event, with the scene in which it is told, or that a channel was
added as asked. -/
inductive News where
  | event (told : LinkEvent) (scene : Overview)
  | added

namespace Overview

def initial : Overview :=
  ⟨.disconnected, []⟩

def follow (picture : Overview) : LinkEvent → Overview
  | .linkStateChanged state _ => ⟨state, picture.channels.map state.below⟩
  | .channelStateChanged channel state _ =>
      { picture with channels := picture.channels.set channel state }
  | .channelUpdated _ _ => picture
  | .channelPublished _ _ => picture
  | .channelDelivered _ _ => picture
  | .bufferOverflow _ _ => picture

/-- An abort of the link moves no channel. -/
theorem follow_aborted (picture : Overview) (fault : Option Fault) :
    picture.follow (.linkStateChanged .aborted fault) = { picture with link := .aborted } := by
  have still : picture.channels.map ConnectionState.aborted.below = picture.channels :=
    List.map_id _
  rw [follow, still]

/-- The picture after a piece of news.  The scene is not looked at, and a new channel is
disconnected. -/
def learn (picture : Overview) : News → Overview
  | .event told _ => picture.follow told
  | .added => { picture with channels := picture.channels ++ [.disconnected] }

/-- News that lead from one picture to another, each event told in the scene it leads to. -/
inductive Traces : Overview → List News → Overview → Prop where
  | done (picture : Overview) : Traces picture [] picture
  | event {picture last : Overview} {rest : List News} (told : LinkEvent)
      (next : Traces (picture.follow told) rest last) :
      Traces picture (.event told (picture.follow told) :: rest) last
  | added {picture last : Overview} {rest : List News}
      (next : Traces (picture.learn .added) rest last) : Traces picture (.added :: rest) last

namespace Traces

variable {picture middle last : Overview} {early late : List News}

theorem trans (first : Traces picture early middle) (second : Traces middle late last) :
    Traces picture (early ++ late) last := by
  induction first with
  | done picture => exact second
  | event told next ih => exact .event told (ih second)
  | added next ih => exact .added (ih second)

/-- A single event, told in the scene it leads to. -/
theorem single {told : LinkEvent} {scene : Overview} (same : picture.follow told = scene) :
    Traces picture [.event told scene] scene := by
  subst same
  exact .event told (.done _)

theorem foldl_eq (traces : Traces picture early last) : early.foldl learn picture = last := by
  induction traces with
  | done picture => rfl
  | event told next ih => exact ih
  | added next ih => exact ih

/-- Every event on the way leads to the scene it was told in. -/
theorem scene_eq {told : LinkEvent} {scene : Overview}
    (traces : Traces picture (early ++ .event told scene :: late) last) :
    (early.foldl learn picture).follow told = scene := by
  induction early generalizing picture with
  | nil =>
      cases traces
      rfl
  | cons news rest ih =>
      cases traces with
      | event other next => exact ih next
      | added next => exact ih next

end Traces

end Overview

/-! ## What a trail tells the owner -/

def Effect.news? : Effect → Option News
  | .event told scene => some (.event told scene)
  | _ => none

namespace Trail

variable {α β : Type}

def news (trail : Trail Effect α) : List News :=
  trail.marks.filterMap Effect.news?

@[simp] theorem news_pure (value : α) : (pure value : Trail Effect α).news = [] := rfl

@[simp] theorem news_bind (first : Trail Effect α) (next : α → Trail Effect β) :
    (first >>= next).news = first.news ++ (next first.value).news :=
  List.filterMap_append

end Trail

namespace Link

variable {T α : Type}

@[simp] theorem news_report (link : Link T) (occasion : LinkReport) :
    (link.report occasion).news = [] := rfl

@[simp] theorem news_emit (link : Link T) (event : LinkEvent) :
    (link.emit event).news = [.event event link.overview] := rfl

@[simp] theorem news_request (asked : Trail Note α) (call : α → Call) :
    (request asked call).news = [] := by
  simp [request, Trail.news, List.filterMap_map, Function.comp_def, Effect.news?]

/-! ## Overviews of changed links -/

theorem overview_setChannel (link : Link T) (id : ChannelId) (channel : Channel) :
    (link.setChannel id channel).overview =
      { link.overview with channels := link.overview.channels.set id channel.state } := by
  simp [overview, setChannel, List.map_set]

/-- A channel that stands where it stood does not show. -/
theorem overview_setChannel_same {link : Link T} {id : ChannelId} {channel after : Channel}
    (found : link.channels[id]? = some channel) (same : after.state = channel.state) :
    (link.setChannel id after).overview = link.overview := by
  have there : link.overview.channels[id]? = some after.state := by
    rw [overview, List.getElem?_map, found, same]
    rfl
  rw [overview_setChannel, set_eq_self there]

theorem overview_changeChannel (link : Link T) (id : ChannelId) {change : Channel → Channel}
    (same : ∀ channel, (change channel).state = channel.state) :
    (link.changeChannel id change).overview = link.overview := by
  unfold changeChannel
  cases found : link.channels[id]? with
  | none => rfl
  | some channel => exact overview_setChannel_same found (same channel)

/-- The link moves, and every channel as the move says. -/
theorem overview_moved (link : Link T) (state : ConnectionState) {change : Channel → Channel}
    (fault : Option Fault)
    (below : ∀ channel ∈ link.channels, (change channel).state = state.below channel.state) :
    link.overview.follow (.linkStateChanged state fault) =
      ({ link with state }.mapChannels change).overview := by
  simp only [Overview.follow, overview, mapChannels, List.map_map, Overview.mk.injEq, true_and,
    List.map_inj_left, Function.comp_apply]
  intro channel inside
  exact (below channel inside).symm

/-! ## Inbound events -/

/-- A link whose picture can be kept: promotion went from the top down, and without a session all
channels are disconnected. -/
structure Plain (link : Link T) : Prop where
  topDown : link.TopDown
  quiet : link.session = none → ∀ state ∈ link.overview.channels, state = .disconnected

/-- What an operation tells leads from the overview before it to the one after it. -/
def Tells (link after : Link T) (news : List News) : Prop :=
  Overview.Traces link.overview news after.overview

theorem tells_nothing {link after : Link T} (same : after.overview = link.overview) :
    Tells link after [] := by
  unfold Tells
  rw [same]
  exact .done _

theorem settle_tells {link moved : Link T} (before : ConnectionState) {fault : Option Fault}
    (follows : link.overview.follow (.linkStateChanged moved.state fault) = moved.overview) :
    Tells link (moved.settle before fault).value (moved.settle before fault).news :=
  Overview.Traces.single follows

theorem followAbort_tells (link : Link T) (fault : Option Fault) :
    Tells link (link.followAbort fault).value (link.followAbort fault).news :=
  Overview.Traces.single (link.overview.follow_aborted fault)

theorem followLinkState_tells {link : Link T} (sound : link.TopDown) (announced : ConnectionState)
    (fault : Option Fault) :
    Tells link (link.followLinkState announced fault).value
      (link.followLinkState announced fault).news := by
  have promoted (channel : Channel) :
      (promoteChannel channel).state = ConnectionState.operational.below channel.state := by
    unfold promoteChannel
    cases state : channel.state <;> simp [state, ConnectionState.below]
  have demoted (channel : Channel) :
      (demoteChannel channel).state = ConnectionState.connected.below channel.state := by
    unfold demoteChannel
    cases state : channel.state <;> simp [state, ConnectionState.below]
  have dropped : Tells link (link.dropConnection fault).value (link.dropConnection fault).news :=
    settle_tells link.state (link.overview_moved .disconnected fault fun _ _ => rfl)
  unfold followLinkState
  cases state : link.state with
  | disconnected =>
      cases announced with
      | disconnected => exact tells_nothing rfl
      | connected =>
          -- No channel is ahead of a disconnected link, so none falls back when it connects.
          have level : ∀ channel ∈ link.channels,
              channel.state = ConnectionState.connected.below channel.state := by
            intro channel inside
            obtain ⟨id, found⟩ := List.mem_iff_getElem?.mp inside
            cases up : channel.state with
            | operational =>
                have above := sound.channels found up
                rw [state] at above
                rcases above with impossible | impossible <;> cases impossible
            | disconnected => rfl
            | connected => rfl
            | aborted => rfl
          have follows := link.overview_moved .connected fault level
          rw [mapChannels, List.map_id'] at follows
          exact settle_tells .disconnected follows
      | operational => exact tells_nothing rfl
      | aborted => exact link.followAbort_tells fault
  | connected =>
      cases announced with
      | disconnected => exact dropped
      | connected => exact tells_nothing rfl
      | operational =>
          exact settle_tells .connected
            (link.overview_moved .operational fault fun channel _ => promoted channel)
      | aborted => exact link.followAbort_tells fault
  | operational =>
      cases announced with
      | disconnected => exact dropped
      | connected =>
          exact settle_tells .operational
            (link.overview_moved .connected fault fun channel _ => demoted channel)
      | operational => exact tells_nothing rfl
      | aborted => exact link.followAbort_tells fault
  | aborted =>
      cases announced with
      | aborted => exact link.followAbort_tells fault
      | disconnected => exact tells_nothing rfl
      | connected => exact tells_nothing rfl
      | operational => exact tells_nothing rfl

theorem settleChannel_tells (link : Link T) (id : ChannelId) (channel : Channel)
    (fault : Option Fault) :
    Tells link (link.settleChannel id channel fault).value
      (link.settleChannel id channel fault).news := by
  have follows : link.overview.follow (.channelStateChanged id channel.state fault) =
      (link.setChannel id channel).overview := (link.overview_setChannel id channel).symm
  unfold settleChannel
  split <;> exact Overview.Traces.single follows

theorem followChannelState_tells (link : Link T) (id : ChannelId) (channel : Channel)
    (announced : ConnectionState) (fault : Option Fault) :
    Tells link (link.followChannelState id channel announced fault).value
      (link.followChannelState id channel announced fault).news := by
  unfold followChannelState followPromotion
  split
  · split
    · exact tells_nothing rfl
    · cases channel.setOperational with
      | ok promoted => exact link.settleChannel_tells id promoted fault
      | error error => exact tells_nothing rfl
  · cases channel.transition announced fault with
    | error error => exact tells_nothing rfl
    | ok change =>
        cases change with
        | none => exact tells_nothing rfl
        | some moved => exact link.settleChannel_tells id moved fault

/-- An event for a channel that the link does not have tells nothing. -/
theorem onChannel_tells {link : Link T} {id : ChannelId}
    {act : Channel → Trail Effect (Outcome T Unit)}
    (acts : ∀ channel, link.channels[id]? = some channel →
      Tells link (act channel).value.1 (act channel).news) :
    Tells link (link.onChannel id act).value.1 (link.onChannel id act).news := by
  unfold onChannel
  cases found : link.channels[id]? with
  | none => exact tells_nothing rfl
  | some channel => exact acts channel found

theorem abort_tells {link stopped : Link T}
    (same : stopped.overview.channels = link.overview.channels) (fault : Fault) :
    Tells link (stopped.abort fault : Trail Effect (Outcome T Unit)).value.1
      (stopped.abort fault : Trail Effect (Outcome T Unit)).news := by
  refine Overview.Traces.single ?_
  rw [Overview.follow_aborted, ← same]
  rfl

/-- Without a session all channels are disconnected already, so preparing them shows nothing. -/
theorem Plain.prepare {link : Link T} (plain : link.Plain) (closed : link.session = none) :
    link.prepare.overview = link.overview := by
  have states : link.prepare.overview.channels = link.overview.channels := by
    refine List.ext_getElem? fun id => ?_
    cases found : link.channels[id]? with
    | none => simp [overview, Link.prepare, found]
    | some channel =>
        have down := plain.quiet closed channel.state
          (List.mem_map_of_mem (List.mem_of_getElem? found))
        simp [overview, Link.prepare, found, Channel.prepare, down]
  exact congrArg (Overview.mk link.state) states

section Dispatch

variable [Transport T]

theorem receive_tells {link : Link T} {id : ChannelId} {channel : Channel}
    (found : link.channels[id]? = some channel) (payload : List UInt8) (sent : Nettime) :
    Tells link (link.receive id channel payload sent).value.1
      (link.receive id channel payload sent).news := by
  have same : (link.setChannel id (channel.receive payload sent link.nettime).1).overview =
      link.overview :=
    overview_setChannel_same found (channel.receive_cases payload sent link.nettime).state_eq
  unfold receive
  split
  · exact tells_nothing rfl
  · rcases received : channel.receive payload sent link.nettime with ⟨after, error | reception⟩
    · rw [received] at same
      exact tells_nothing same
    · rw [received] at same
      cases reception with
      | accepted latency => exact Overview.Traces.single same.symm
      | overflowed dropped => exact Overview.Traces.single same.symm

theorem dispatch_tells {link : Link T} (sound : link.TopDown) (event : InboundEvent) :
    Tells link (link.dispatch event).value.1 (link.dispatch event).news := by
  unfold dispatch
  rw [Trail.value_bind, Trail.news_bind, news_report, List.nil_append]
  cases event with
  | linkStateChanged announced fault =>
      rw [Trail.news_bind, Trail.news_pure, List.append_nil]
      exact followLinkState_tells sound announced fault
  | channelStateChanged id announced fault =>
      refine onChannel_tells fun channel found => ?_
      rw [Trail.news_bind, Trail.news_pure, List.append_nil]
      exact link.followChannelState_tells id channel announced fault
  | channelUpdated id payload sent =>
      exact onChannel_tells fun channel found => receive_tells found payload sent
  | publishAcknowledged id buffer =>
      refine onChannel_tells fun channel found => Overview.Traces.single (Eq.symm ?_)
      apply overview_setChannel_same found
      rfl
  | deliveryAcknowledged id buffer =>
      refine onChannel_tells fun channel found => Overview.Traces.single (Eq.symm ?_)
      apply overview_setChannel_same found
      rfl

/-- In a session, an event leaves a link whose picture can be kept. -/
theorem Plain.dispatch {link : Link T} (plain : link.Plain) (opened : link.session ≠ none)
    (event : InboundEvent) :
    (link.dispatch event).value.1.Plain ∧ (link.dispatch event).value.1.session ≠ none := by
  have session := (link.dispatch_spec event).1.session
  refine ⟨⟨(plain.topDown.dispatch event).1, fun closed => ?_⟩, ?_⟩
  · exact absurd (session.symm.trans closed) opened
  · rw [session]
    exact opened

/-- A batch of events tells what its events tell, one after the other. -/
theorem dispatchAll_tells {link : Link T} (plain : link.Plain) (opened : link.session ≠ none)
    (events : List InboundEvent) :
    Tells link (link.dispatchAll events).value.1 (link.dispatchAll events).news ∧
      (link.dispatchAll events).value.1.Plain := by
  induction events generalizing link with
  | nil => exact ⟨tells_nothing rfl, plain⟩
  | cons event rest ih =>
      have first := dispatch_tells plain.topDown event
      obtain ⟨stays, still⟩ := plain.dispatch opened event
      obtain ⟨later, last⟩ := ih stays still
      have both := first.trans later
      rw [dispatchAll, Trail.value_bind, Trail.news_bind]
      rcases answered : (link.dispatch event).value with ⟨after, answer⟩
      rw [answered] at both last
      cases answer with
      | ok done => exact ⟨both, last⟩
      | error error =>
          refine ⟨?_, last⟩
          rw [Trail.news_bind, news_report, Trail.news_bind, Trail.news_pure, List.append_nil]
          exact both

/-! ## Operations -/

theorem connect_tells {link : Link T} (plain : link.Plain) :
    Tells link link.connect.value.1 link.connect.news := by
  unfold connect
  split
  · exact tells_nothing rfl
  · rename_i may
    have closed : link.session = none := by
      simpa [isOpen] using fun opened => may (.inr opened)
    have same := plain.prepare closed
    unfold register
    rw [Trail.value_bind, Trail.news_bind, news_request, value_request, List.nil_append]
    rcases (Transport.register link.prepare.transport link.prepare.instanceName
      (link.prepare.channels.map Channel.descriptor)).value with ⟨transport, fault | session⟩
    · exact abort_tells (congrArg Overview.channels same) fault
    · exact tells_nothing same

theorem setOperational_tells (link : Link T) :
    Tells link link.setOperational.value.1 link.setOperational.news := by
  unfold setOperational
  split
  · rename_i session opened
    split
    · unfold promote
      simp only [Trail.value_bind, Trail.news_bind, news_report, news_request, value_request,
        List.nil_append]
      rcases (Transport.promote link.transport session).value with ⟨transport, fault | granted⟩
      · exact abort_tells rfl fault
      · exact tells_nothing rfl
    · exact tells_nothing rfl
  · exact tells_nothing rfl

theorem publish_tells (link : Link T) (id : ChannelId) (payload : List UInt8) :
    Tells link (link.publish id payload).value.1 (link.publish id payload).news := by
  unfold publish channel
  cases found : link.channels[id]? with
  | none => exact tells_nothing rfl
  | some channel =>
      dsimp only
      cases checked : channel.checkPublish payload with
      | error error => exact tells_nothing rfl
      | ok done =>
          have recorded :=
            Channel.recordPublished_eq (Channel.takes_of_checkPublish checked).fits
          cases opened : link.session with
          | none => exact tells_nothing rfl
          | some session =>
              dsimp only
              split
              · unfold sendOn
                simp only [Trail.value_bind, Trail.news_bind, news_request, value_request,
                  List.nil_append]
                rcases (Transport.send link.transport session id payload).value with
                  ⟨transport, fault | granted⟩
                · exact abort_tells rfl fault
                · simp only [recorded]
                  exact tells_nothing (overview_setChannel_same found rfl)
              · exact tells_nothing rfl

theorem disconnect_tells (link : Link T) :
    Tells link link.disconnect.value.1 link.disconnect.news := by
  unfold disconnect
  split
  · exact tells_nothing rfl
  · have channels : link.close.value.channels = link.channels := by
      unfold close
      cases link.session <;> rfl
    have unheard : link.close.news = [] := by
      unfold close
      cases link.session <;> simp
    simp only [Trail.value_bind, Trail.value_pure, Trail.news_bind, Trail.news_pure, news_report,
      news_emit, unheard, List.nil_append, List.append_nil]
    refine Overview.Traces.single ?_
    simp [Overview.follow, overview, mapChannels, channels, ConnectionState.below, Channel.reset]

theorem process_tells {link : Link T} (plain : link.Plain) :
    Tells link link.process.value.1 link.process.news ∧ link.process.value.1.Plain := by
  unfold process
  cases opened : link.session with
  | none => exact ⟨tells_nothing rfl, plain⟩
  | some session =>
      simp only [Trail.value_bind, Trail.news_bind, news_request, value_request, List.nil_append]
      generalize (Transport.poll link.transport session).value = polled
      obtain ⟨transport, events⟩ := polled
      have fetched : ({ link with transport } : Link T).Plain :=
        ⟨⟨plain.topDown.channels, plain.topDown.connectedOnce⟩, plain.quiet⟩
      have inside : ({ link with transport } : Link T).session ≠ none := by
        change link.session ≠ none
        rw [opened]
        exact Option.some_ne_none session
      obtain ⟨tells, stays⟩ := dispatchAll_tells fetched inside events
      rw [opened] at tells stays
      split <;>
        · rw [Trail.news_pure, List.append_nil]
          exact ⟨tells, stays⟩

end Dispatch

/-! ## Runs -/

/-- An accepted channel stands at the end of the table and is disconnected. -/
theorem overview_added {link : Link T} {spec : ChannelSpec} {id : ChannelId} {channel : Channel}
    (made : Channel.new id spec = .ok channel) :
    ({ link with channels := link.channels ++ [channel] } : Link T).overview
      = link.overview.learn .added := by
  have down := (Channel.made_of_new made).state_eq
  simp [overview, Overview.learn, down]

/-- Where neither the session nor the states have changed, a link without a session is still at
rest. -/
theorem Plain.quiet_of_same {link after : Link T} (plain : link.Plain)
    (session : after.session = link.session)
    (same : after.overview.channels = link.overview.channels) (closed : after.session = none) :
    ∀ state ∈ after.overview.channels, state = .disconnected := by
  rw [same]
  exact plain.quiet (session.symm.trans closed)

theorem Plain.quiet_addChannel {link : Link T} (plain : link.Plain) (spec : ChannelSpec)
    (closed : (link.addChannel spec).1.session = none) :
    ∀ state ∈ (link.addChannel spec).1.overview.channels, state = .disconnected := by
  have outcome := link.addChannel_cases spec
  revert closed
  generalize (link.addChannel spec).1 = after, (link.addChannel spec).2 = answer at outcome
  intro closed
  cases outcome with
  | refused barred => exact plain.quiet closed
  | added before free made =>
      intro state inside
      rw [overview, List.map_append] at inside
      rcases List.mem_append.mp inside with old | new
      · exact plain.quiet before state old
      · rw [List.mem_singleton.mp new]
        exact (Channel.made_of_new made).state_eq

section Runs

variable [Transport T]

def Step.news (link : Link T) : Step T → List News
  | .addChannel spec =>
      match (link.addChannel spec).2 with
      | .ok _ => [.added]
      | .error _ => []
  | .connect => link.connect.news
  | .setOperational => link.setOperational.news
  | .disconnect => link.disconnect.news
  | .publish id payload => (link.publish id payload).news
  | .popInto _ _ => []
  | .takeUpdated _ => []
  | .dispatch event => (link.dispatch event).news
  | .meanwhile _ => []

def Operation.news (link : Link T) : Operation T → List News
  | .single step => step.news link
  | .process => link.process.news

/-- What the owner gets to know while operations are run in order. -/
def newsOf (link : Link T) : List (Operation T) → List News
  | [] => []
  | operation :: rest => operation.news link ++ newsOf (operation.run link) rest

/-- An operation applies no event, or a session is open. -/
def Operation.inSession (link : Link T) : Operation T → Bool
  | .single (.dispatch _) => link.isOpen
  | _ => true

def hearsInSession (link : Link T) : List (Operation T) → Bool
  | [] => true
  | operation :: rest => operation.inSession link && hearsInSession (operation.run link) rest

theorem overview_popInto (link : Link T) (id : ChannelId) (destination : Sample) :
    (Step.run link (.popInto id destination)).overview = link.overview := by
  rw [Step.run, popInto_link]
  exact link.overview_changeChannel id fun _ => rfl

theorem overview_takeUpdated (link : Link T) (id : ChannelId) :
    (Step.run link (.takeUpdated id)).overview = link.overview := by
  rw [Step.run, takeUpdated_link]
  exact link.overview_changeChannel id fun _ => rfl

theorem addChannel_tells (link : Link T) (spec : ChannelSpec) :
    Tells link (Step.run link (.addChannel spec)) (Step.news link (.addChannel spec)) := by
  change Tells link (link.addChannel spec).1 (match (link.addChannel spec).2 with
    | .ok _ => [.added]
    | .error _ => [])
  have outcome := link.addChannel_cases spec
  generalize (link.addChannel spec).1 = after, (link.addChannel spec).2 = answer at outcome
  cases outcome with
  | refused barred => exact tells_nothing rfl
  | added closed free made =>
      change Overview.Traces link.overview [.added] _
      rw [overview_added made]
      exact .added (.done _)

theorem Plain.quiet_connect {link after : Link T} {answer : Except Error Unit} {calls : List Call}
    (plain : link.Plain) (outcome : Connecting link after answer calls)
    (closed : after.session = none) : ∀ state ∈ after.overview.channels, state = .disconnected := by
  cases outcome with
  | refused shut => exact plain.quiet closed
  | opened may answer => cases closed
  | failed may answer =>
      have same := congrArg Overview.channels (plain.prepare may.2)
      exact plain.quiet_of_same rfl same closed

theorem Plain.quiet_disconnect {link after : Link T} {answer : Except Error Unit}
    {calls : List Call} (plain : link.Plain) (outcome : Disconnecting link after answer calls)
    (closed : after.session = none) : ∀ state ∈ after.overview.channels, state = .disconnected := by
  cases outcome with
  | refused nothing => exact plain.quiet closed
  | closed may =>
      intro state inside
      obtain ⟨channel, there, rfl⟩ := List.mem_map.mp inside
      obtain ⟨before, _, rfl⟩ := List.mem_map.mp there
      rfl

theorem Plain.quiet_setOperational {link after : Link T} {answer : Except Error Unit}
    {calls : List Call} (plain : link.Plain) (outcome : Promoting link after answer calls)
    (closed : after.session = none) : ∀ state ∈ after.overview.channels, state = .disconnected := by
  cases outcome with
  | refused unfit => exact plain.quiet closed
  | asked connected opened answer => exact plain.quiet closed
  | failed connected opened answer => exact plain.quiet closed

theorem Plain.quiet_publish {link after : Link T} {id : ChannelId} {payload : List UInt8}
    {answer : Except Error Unit} {calls : List Call} (plain : link.Plain)
    (outcome : Publishing link id payload after answer calls) (closed : after.session = none) :
    ∀ state ∈ after.overview.channels, state = .disconnected := by
  cases outcome with
  | refused harmless waits => exact plain.quiet closed
  | failed found takes opened connected answer => cases opened.symm.trans closed
  | sent found takes opened connected answer => cases opened.symm.trans closed

/-- Without a session nothing moves a channel. -/
theorem Plain.quiet_step {link : Link T} (plain : link.Plain) (step : Step T)
    (inSession : (Operation.single step).inSession link = true)
    (closed : (step.run link).session = none) :
    ∀ state ∈ (step.run link).overview.channels, state = .disconnected := by
  cases step with
  | addChannel spec => exact plain.quiet_addChannel spec closed
  | connect => exact plain.quiet_connect link.connect_cases closed
  | setOperational => exact plain.quiet_setOperational link.setOperational_cases closed
  | disconnect => exact plain.quiet_disconnect link.disconnect_cases closed
  | publish id payload => exact plain.quiet_publish (link.publish_cases id payload) closed
  | popInto id destination =>
      have same := congrArg Overview.channels (link.overview_popInto id destination)
      refine plain.quiet_of_same ?_ same closed
      rw [Step.run, popInto_link, changeChannel_frame]
  | takeUpdated id =>
      have same := congrArg Overview.channels (link.overview_takeUpdated id)
      refine plain.quiet_of_same ?_ same closed
      rw [Step.run, takeUpdated_link, changeChannel_frame]
  | dispatch event =>
      have opened : link.session ≠ none := Option.isSome_iff_ne_none.mp inSession
      exact (plain.dispatch opened event).1.quiet closed
  | meanwhile change => exact plain.quiet closed

theorem Plain.step {link : Link T} (plain : link.Plain) (step : Step T)
    (inSession : (Operation.single step).inSession link = true) : (step.run link).Plain :=
  ⟨(plain.topDown.step step).1, plain.quiet_step step inSession⟩

/-- A step tells everything it does to the states. -/
theorem Step.tells {link : Link T} (plain : link.Plain) (step : Step T) :
    Tells link (step.run link) (step.news link) := by
  cases step with
  | addChannel spec => exact link.addChannel_tells spec
  | connect => exact connect_tells plain
  | setOperational => exact link.setOperational_tells
  | disconnect => exact link.disconnect_tells
  | publish id payload => exact link.publish_tells id payload
  | popInto id destination => exact tells_nothing (link.overview_popInto id destination)
  | takeUpdated id => exact tells_nothing (link.overview_takeUpdated id)
  | dispatch event => exact dispatch_tells plain.topDown event
  | meanwhile change => exact tells_nothing rfl

/-- An operation tells everything it does to the states. -/
theorem Operation.tells {link : Link T} (plain : link.Plain) (operation : Operation T)
    (inSession : operation.inSession link = true) :
    Tells link (operation.run link) (operation.news link) ∧ (operation.run link).Plain := by
  cases operation with
  | single step => exact ⟨step.tells plain, plain.step step inSession⟩
  | process => exact process_tells plain

/-- A run tells everything it does to the states. -/
theorem run_tells {link : Link T} (plain : link.Plain) {operations : List (Operation T)}
    (inSession : link.hearsInSession operations = true) :
    Tells link (link.run operations) (link.newsOf operations) := by
  induction operations generalizing link with
  | nil => exact tells_nothing rfl
  | cons operation rest ih =>
      obtain ⟨now, later⟩ := Bool.and_eq_true_iff.mp inSession
      obtain ⟨first, stays⟩ := operation.tells plain now
      exact first.trans (ih stays later)

theorem hearsInSession_left {link : Link T} {early late : List (Operation T)}
    (inSession : link.hearsInSession (early ++ late) = true) :
    link.hearsInSession early = true := by
  induction early generalizing link with
  | nil => rfl
  | cons operation rest ih =>
      obtain ⟨now, later⟩ := Bool.and_eq_true_iff.mp inSession
      exact Bool.and_eq_true_iff.mpr ⟨now, ih later⟩

/-- An owner who hears all events of a new link can tell where it and its channels stand, as long as
events are applied in sessions only: each event leads from the picture before it to the states at
the moment it is told, and after every operation the picture shows the states as they are. -/
theorem owner_keeps_an_exact_picture (instanceName : String) (aliasName : Option String)
    (transport : T) (operations : List (Operation T))
    (inSession : (Link.fresh instanceName aliasName transport).hearsInSession operations = true) :
    let start := Link.fresh instanceName aliasName transport
    (∀ early told scene late, start.newsOf operations = early ++ .event told scene :: late →
      (early.foldl Overview.learn .initial).follow told = scene) ∧
      ∀ early late, operations = early ++ late →
        (start.newsOf early).foldl Overview.learn .initial = (start.run early).overview := by
  intro start
  have plain : start.Plain := by
    refine ⟨⟨fun found _ => ?_, fun connected => ?_⟩, fun _ state inside => ?_⟩
    · cases found
    · cases connected
    · cases inside
  constructor
  · intro early told scene late shape
    have traces := run_tells plain inSession
    rw [Tells, shape] at traces
    exact traces.scene_eq
  · rintro early late rfl
    exact (run_tells plain (hearsInSession_left inSession)).foldl_eq

end Runs

/-- Two channels come up with their link; one is aborted, and the link falls back. -/
def upAndBack : List (Operation Simulator) :=
  [.single (.addChannel ⟨"setpoint", .publish, 1, none⟩),
    .single (.addChannel ⟨"feedback", .subscribe, 1, none⟩), .single .connect, .process,
    .single .setOperational, .process, .single (.dispatch (.channelStateChanged 1 .aborted none)),
    .single (.dispatch (.linkStateChanged .connected none))]

theorem picture_of_a_link_that_falls_back :
    (Link.fresh "line" none ({} : Simulator)).hearsInSession upAndBack = true ∧
      ((Link.fresh "line" none ({} : Simulator)).newsOf upAndBack).foldl Overview.learn .initial =
        ⟨.connected, [.connected, .aborted]⟩ := by
  have inSession : (Link.fresh "line" none ({} : Simulator)).hearsInSession upAndBack = true := by
    decide +kernel
  obtain ⟨_, exactly⟩ :=
    owner_keeps_an_exact_picture "line" none ({} : Simulator) upAndBack inSession
  have last := exactly upAndBack [] (List.append_nil _).symm
  refine ⟨inSession, last.trans ?_⟩
  decide +kernel

end Link

end DatasetSync
