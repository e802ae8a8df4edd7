import DatasetSync.Proofs.Link.Promotion
import DatasetSync.Proofs.Link.Table

/-!
# Batches of events

A link answers every event that is about its table, and a batch of such events is fetched without an
error.  Updates and receipts leave the link and its channels where they stand.  The events that
confirm a registration take a link up with all of its channels, and so does a promotion.
-/

namespace DatasetSync

namespace InboundEvent

def moves : InboundEvent → Bool
  | .linkStateChanged _ _ => true
  | .channelStateChanged _ _ _ => true
  | _ => false

/-- The event is about the link or a channel of the table, and an update has the size that was
announced and is for a channel that can subscribe. -/
def Expected (table : List Descriptor) : InboundEvent → Prop
  | .linkStateChanged _ _ => True
  | .channelStateChanged id _ _ => id < table.length
  | .channelUpdated id payload _ => ∃ entry, table[id]? = some entry ∧
      payload.length = entry.byteSize ∧ entry.direction.canSubscribe = true
  | .publishAcknowledged id _ => id < table.length
  | .deliveryAcknowledged id _ => id < table.length

instance (table : List Descriptor) (event : InboundEvent) : Decidable (event.Expected table) :=
  match event with
  | .linkStateChanged _ _ => inferInstanceAs (Decidable True)
  | .channelStateChanged id _ _ | .publishAcknowledged id _ | .deliveryAcknowledged id _ =>
      inferInstanceAs (Decidable (id < table.length))
  | .channelUpdated id payload _ => inferInstanceAs (Decidable (∃ entry ∈ table[id]?,
      payload.length = entry.byteSize ∧ entry.direction.canSubscribe = true))

end InboundEvent

/-- Updates and receipts leave a channel where it stands. -/
theorem Channel.onEvent_state {event : InboundEvent} (still : event.moves = false)
    (channel : Channel) (id : ChannelId) (link : ConnectionState) (now : Nettime) :
    (channel.onEvent id link now event).state = channel.state := by
  cases event with
  | linkStateChanged announced fault => cases still
  | channelStateChanged target announced fault => cases still
  | channelUpdated target payload sent =>
      rw [onEvent]
      split
      · exact channel.onUpdate_state payload sent now
      · rfl
  | publishAcknowledged target buffer =>
      rw [onEvent]
      split <;> rfl
  | deliveryAcknowledged target buffer =>
      rw [onEvent]
      split <;> rfl

/-- A channel that is down or connected follows the news that it is connected. -/
theorem Channel.onState_connected {channel : Channel}
    (low : channel.state = .disconnected ∨ channel.state = .connected) (link : ConnectionState) :
    (channel.onState link .connected none).state = .connected := by
  rcases low with down | up
  · simp [onState, transition, down, mayMove]
  · simp [onState, transition, up]

namespace Link

variable {T : Type}

theorem lt_table {link : Link T} {id : ChannelId} (known : id < link.table.length) :
    ∃ channel, link.channels[id]? = some channel := by
  rw [table, List.length_map] at known
  exact ⟨_, List.getElem?_eq_getElem known⟩

section Answers

variable [Transport T]

/-! ## Answers -/

theorem receive_answered {link : Link T} {id : ChannelId} {channel : Channel}
    {payload : List UInt8} (fits : payload.length = channel.byteSize)
    (wanted : channel.direction.canSubscribe = true) (sent : Nettime) :
    (link.receive id channel payload sent).value.2 = .ok () := by
  unfold receive
  split
  · rfl
  · have outcome := channel.receive_cases payload sent link.nettime
    rcases received : channel.receive payload sent link.nettime with ⟨after, error | reception⟩
    · rw [received] at outcome
      cases outcome with
      | unwanted deaf => cases wanted.symm.trans deaf
      | misfit _ misfits => exact (misfits fits).elim
    · cases reception <;> rfl

/-- An event that is about the table is answered without an error. -/
theorem dispatch_answered {link : Link T} {event : InboundEvent}
    (expected : event.Expected link.table) : (link.dispatch event).value.2 = .ok () := by
  cases event with
  | linkStateChanged announced fault => rfl
  | channelStateChanged id announced fault =>
      obtain ⟨channel, found⟩ := lt_table expected
      simp [dispatch, onChannel, found]
  | channelUpdated id payload sent =>
      obtain ⟨entry, there, fits, wanted⟩ := expected
      obtain ⟨channel, found⟩ := lt_table (List.getElem?_eq_some_iff.mp there).1
      cases (table_eq_some found).symm.trans there
      simp [dispatch, onChannel, found, receive_answered fits wanted sent]
  | publishAcknowledged id buffer =>
      obtain ⟨channel, found⟩ := lt_table expected
      simp [dispatch, onChannel, found]
  | deliveryAcknowledged id buffer =>
      obtain ⟨channel, found⟩ := lt_table expected
      simp [dispatch, onChannel, found]

theorem dispatch_table (link : Link T) (event : InboundEvent) :
    (link.dispatch event).value.1.table = link.table :=
  Step.table_run (nofun : ∀ spec, Step.dispatch event ≠ .addChannel spec)

/-- A batch of events about the table is applied without an error. -/
theorem dispatchAll_answered {link : Link T} {events : List InboundEvent}
    (expected : ∀ event ∈ events, event.Expected link.table) :
    (link.dispatchAll events).value.2 = none := by
  induction events generalizing link with
  | nil => rfl
  | cons event rest ih =>
      rw [List.forall_mem_cons] at expected
      have answered := dispatch_answered expected.1
      have same := link.dispatch_table event
      rw [← same] at expected
      have later := ih expected.2
      rw [dispatchAll]
      rcases applied : link.dispatch event with ⟨⟨after, answer⟩, marks⟩
      rw [applied] at answered later
      cases answered
      exact later

/-- Fetching a batch of events about the table does not fail. -/
theorem process_answered {link : Link T} {session : Session} (opened : link.session = some session)
    (expected : ∀ event ∈ (Transport.poll link.transport session).value.2,
      event.Expected link.table) :
    ∃ count, link.process.value.2 = .ok count := by
  rcases polled : (Transport.poll link.transport session).value with ⟨transport, events⟩
  rw [polled] at expected
  have unfailed : ({ link with transport }.dispatchAll events).value.2 = none :=
    dispatchAll_answered expected
  refine ⟨events.length, ?_⟩
  rw [opened] at unfailed
  simp [process, opened, polled, unfailed]

end Answers

/-! ## Levels -/

/-- The link and all of its channels stand at one state. -/
structure Level (link : Link T) (state : ConnectionState) : Prop where
  top : link.state = state
  channels {id : ChannelId} {channel : Channel} (found : link.channels[id]? = some channel) :
    channel.state = state

section Levels

variable [Transport T]

/-- Updates and receipts leave a link and its channels where they stand. -/
theorem Level.exchange {link : Link T} {state : ConnectionState} (level : link.Level state)
    {event : InboundEvent} (still : event.moves = false) :
    (link.dispatch event).value.1.Level state := by
  have dispatched := (link.dispatch_spec event).1
  constructor
  · rw [dispatched.state, level.top]
    cases event with
    | linkStateChanged announced fault => cases still
    | channelStateChanged target announced fault => cases still
    | channelUpdated target payload sent => rfl
    | publishAcknowledged target buffer => rfl
    | deliveryAcknowledged target buffer => rfl
  · intro id channel found
    rw [dispatched.channels] at found
    obtain ⟨before, there, rfl⟩ := Option.map_eq_some_iff.mp found
    rw [Channel.onEvent_state still]
    exact level.channels there

def applied (link : Link T) (events : List InboundEvent) : Link T :=
  events.foldl (fun link event => (link.dispatch event).value.1) link

theorem applied_append (link : Link T) (early late : List InboundEvent) :
    link.applied (early ++ late) = (link.applied early).applied late :=
  List.foldl_append

/-- A batch of events changes neither the name of a link nor its session nor its transport. -/
theorem applied_frame (link : Link T) (events : List InboundEvent) :
    (link.applied events).instanceName = link.instanceName ∧
      (link.applied events).session = link.session ∧
      (link.applied events).transport = link.transport := by
  induction events generalizing link with
  | nil => exact ⟨rfl, rfl, rfl⟩
  | cons event rest ih =>
      have dispatched := (link.dispatch_spec event).1
      obtain ⟨instanceName, session, transport⟩ := ih (link.dispatch event).value.1
      exact ⟨instanceName.trans dispatched.instanceName, session.trans dispatched.session,
        transport.trans dispatched.transport⟩

theorem Level.exchanges {link : Link T} {state : ConnectionState} (level : link.Level state)
    {events : List InboundEvent} (still : ∀ event ∈ events, event.moves = false) :
    (link.applied events).Level state := by
  induction events generalizing link with
  | nil => exact level
  | cons event rest ih =>
      rw [List.forall_mem_cons] at still
      exact ih (level.exchange still.1) still.2

/-- A promotion takes a connected link up with all of its channels. -/
theorem Level.promote {link : Link T} (level : link.Level .connected) :
    (link.dispatch (.linkStateChanged .operational none)).value.1.Level .operational := by
  have dispatched := (link.dispatch_spec (.linkStateChanged .operational none)).1
  constructor
  · rw [dispatched.state, level.top]
    rfl
  · intro id channel found
    rw [dispatched.channels] at found
    obtain ⟨before, there, rfl⟩ := Option.map_eq_some_iff.mp found
    rw [level.top]
    exact congrArg Channel.state (if_pos (level.channels there))

/-- Channels that are told to be connected are, and those that were before stay so. -/
theorem connected_channels {link : Link T} {targets : List ChannelId}
    (low : ∀ (id : ChannelId) channel, link.channels[id]? = some channel →
      channel.state = .disconnected ∨ channel.state = .connected)
    (others : ∀ (id : ChannelId) channel, link.channels[id]? = some channel → id ∉ targets →
      channel.state = .connected) :
    let after := link.applied (targets.map fun id => .channelStateChanged id .connected none)
    after.state = link.state ∧ ∀ (id : ChannelId) channel, after.channels[id]? = some channel →
      channel.state = .connected := by
  induction targets generalizing link with
  | nil => exact ⟨rfl, fun id channel found => others id channel found List.not_mem_nil⟩
  | cons target rest ih =>
      have dispatched := (link.dispatch_spec (.channelStateChanged target .connected none)).1
      have told {id : ChannelId} {before : Channel} (found : link.channels[id]? = some before) :
          (before.onEvent id link.state link.nettime
            (.channelStateChanged target .connected none)).state =
            if target = id then .connected else before.state := by
        rw [Channel.onEvent]
        split
        · exact Channel.onState_connected (low id before found) link.state
        · rfl
      obtain ⟨state, channels⟩ := ih (by
        intro id channel found
        rw [dispatched.channels] at found
        obtain ⟨before, there, rfl⟩ := Option.map_eq_some_iff.mp found
        rw [told there]
        split
        · exact .inr rfl
        · exact low id before there) (by
        intro id channel found spared
        rw [dispatched.channels] at found
        obtain ⟨before, there, rfl⟩ := Option.map_eq_some_iff.mp found
        rw [told there]
        split
        · rfl
        · rename_i apart
          refine others id before there fun inside => ?_
          exact spared ((List.mem_cons.mp inside).resolve_left (Ne.symm apart)))
      exact ⟨state.trans dispatched.state, channels⟩

end Levels

/-- The events that confirm a registration take a link up with all of its channels. -/
theorem Level.register {link : Link Simulator} (level : link.Level .disconnected)
    (sound : SoundTable link.table) :
    (link.applied (Simulator.registered link.table)).Level .connected := by
  have dispatched := (link.dispatch_spec (.linkStateChanged .connected none)).1
  let linked := (link.dispatch (.linkStateChanged .connected none)).value.1
  have down {id : ChannelId} {channel : Channel} (found : linked.channels[id]? = some channel) :
      channel.state = .disconnected := by
    rw [dispatched.channels] at found
    obtain ⟨before, there, rfl⟩ := Option.map_eq_some_iff.mp found
    rw [level.top]
    exact level.channels there
  have others (id : ChannelId) (channel : Channel) (found : linked.channels[id]? = some channel)
      (missing : id ∉ link.table.map Descriptor.id) : channel.state = .connected := by
    -- Every place of the table is told, so there are no others.
    have there : linked.table[id]? = some channel.descriptor := table_eq_some found
    rw [link.dispatch_table (.linkStateChanged .connected none)] at there
    refine (missing (List.mem_map.mpr ⟨channel.descriptor, List.mem_of_getElem? there, ?_⟩)).elim
    exact sound.place there
  obtain ⟨state, channels⟩ := connected_channels (fun _ _ found => .inl (down found)) others
  have shape : link.applied (Simulator.registered link.table) = linked.applied
      ((link.table.map Descriptor.id).map fun id => .channelStateChanged id .connected none) := by
    rw [Simulator.registered, List.map_map]
    rfl
  rw [shape]
  refine ⟨?_, fun found => channels _ _ found⟩
  rw [state, dispatched.state, level.top]
  rfl

end Link

end DatasetSync
