import DatasetSync.Proofs.Link.Promotion
import DatasetSync.Transport.Simulator

/-!
# Aborted until disconnected

An abort is final for the link that suffered it: nothing but disconnecting leads out of it, and on
the way there nothing is asked of the transport except for what came in.  Whatever is aborted, the
link or one of its channels, holds the fault that explains it.

A channel can be aborted on its own.  It then starts over with the next session, or when the
connection of its link is lost.
-/

namespace DatasetSync

namespace Channel

def Explained (channel : Channel) : Prop :=
  channel.state = .aborted → channel.lastError ≠ none

/-- A channel that followed an announcement has its fault, if it is aborted now. -/
theorem transition_explained {channel after : Channel} {announced : ConnectionState}
    {fault : Option Fault} (moved : channel.transition announced fault = .ok (some after)) :
    after.Explained := by
  intro aborted
  have state : after.state = announced := by
    obtain ⟨lastError, rfl⟩ := transition_moved moved
    rfl
  rw [transition, if_pos (state.symm.trans aborted)] at moved
  cases moved
  exact Option.some_ne_none _

/-- An aborted channel takes no values in. -/
theorem onUpdate_of_aborted {channel : Channel} (aborted : channel.state = .aborted)
    (payload : List UInt8) (sent now : Nettime) :
    channel.onUpdate payload sent now = channel := by
  unfold onUpdate
  rw [aborted]
  rfl

/-- An aborted channel follows no announcement of its own but another abort. -/
theorem onState_of_aborted {channel : Channel} (aborted : channel.state = .aborted)
    (link announced : ConnectionState) (fault : Option Fault) :
    (channel.onState link announced fault).state = .aborted := by
  unfold onState
  split
  · split
    · simp [Link.promoteChannel, aborted]
    · exact aborted
  · by_cases again : announced = .aborted
    · simp [transition, again]
    · simp [transition, again, aborted]

theorem Explained.onState {channel : Channel} (explained : channel.Explained)
    (link announced : ConnectionState) (fault : Option Fault) :
    (channel.onState link announced fault).Explained := by
  unfold Channel.onState
  split
  · split
    · intro aborted
      unfold Link.promoteChannel at aborted ⊢
      split at aborted
      · cases aborted
      · rw [if_neg ‹_›]
        exact explained aborted
    · exact explained
  · split
    · rename_i moved
      exact transition_explained moved
    · exact explained

theorem Explained.onLinkState {channel : Channel} (explained : channel.Explained)
    (link announced : ConnectionState) : (channel.onLinkState link announced).Explained := by
  cases link <;> cases announced <;> cases state : channel.state <;>
    simp_all [Explained, Channel.onLinkState, Link.promoteChannel, Link.demoteChannel, reset]

/-- Whatever comes in, an aborted channel holds a fault. -/
theorem Explained.onEvent {channel : Channel} (explained : channel.Explained) (id : ChannelId)
    (link : ConnectionState) (now : Nettime) (event : InboundEvent) :
    (channel.onEvent id link now event).Explained := by
  cases event with
  | linkStateChanged announced fault => exact explained.onLinkState link announced
  | channelStateChanged target announced fault =>
      simp only [Channel.onEvent]
      split
      · exact explained.onState link announced fault
      · exact explained
  | channelUpdated target payload sent =>
      simp only [Channel.onEvent]
      split
      · intro aborted
        rw [onUpdate_state] at aborted
        rw [onUpdate_of_aborted aborted]
        exact explained aborted
      · exact explained
  | publishAcknowledged target buffer =>
      simp only [Channel.onEvent]
      split <;> exact explained
  | deliveryAcknowledged target buffer =>
      simp only [Channel.onEvent]
      split <;> exact explained

/-- No event leads an aborted channel out of this state except for the loss of the connection. -/
theorem onEvent_of_aborted {channel : Channel} (aborted : channel.state = .aborted)
    (id : ChannelId) (link : ConnectionState) (now : Nettime) (event : InboundEvent) :
    (channel.onEvent id link now event).state = .aborted ∨
      link.isConnected = true ∧ Link.stateAfter link event = .disconnected := by
  cases event with
  | linkStateChanged announced fault =>
      cases link <;> cases announced <;>
        simp [onEvent, onLinkState, Link.promoteChannel, Link.demoteChannel, aborted,
          Link.stateAfter, Link.followed, ConnectionState.isConnected]
  | channelStateChanged target announced fault =>
      simp only [onEvent]
      split
      · exact .inl (onState_of_aborted aborted link announced fault)
      · exact .inl aborted
  | channelUpdated target payload sent =>
      simp only [onEvent]
      split
      · rw [onUpdate_state]
        exact .inl aborted
      · exact .inl aborted
  | publishAcknowledged target buffer =>
      simp only [onEvent]
      split <;> exact .inl aborted
  | deliveryAcknowledged target buffer =>
      simp only [onEvent]
      split <;> exact .inl aborted

end Channel

namespace Link

variable {T : Type}

/-- An aborted link holds a fault. -/
def KnowsFault (link : Link T) : Prop :=
  link.state = .aborted → link.lastError ≠ none

/-- Whatever is aborted, the link or a channel, holds a fault. -/
structure Explained (link : Link T) : Prop where
  knows : link.KnowsFault
  channels {id : ChannelId} {channel : Channel} (found : link.channels[id]? = some channel) :
    channel.Explained

/-! ## The fault of the link -/

theorem KnowsFault.followLinkState {link : Link T} (knows : link.KnowsFault)
    (announced : ConnectionState) (fault : Option Fault) :
    (link.followLinkState announced fault).value.KnowsFault := by
  cases state : link.state <;> cases announced <;>
    simp_all [KnowsFault, Link.followLinkState, followAbort, settle, dropConnection, mapChannels]

theorem KnowsFault.changeChannel {link : Link T} (knows : link.KnowsFault) (target : ChannelId)
    (change : Channel → Channel) : (link.changeChannel target change).KnowsFault := by
  rw [changeChannel_frame]
  exact knows

theorem Adding.knowsFault {link after : Link T} {spec : ChannelSpec}
    {answer : Except Obstacle ChannelId} (outcome : Adding link spec after answer)
    (knows : link.KnowsFault) : after.KnowsFault := by
  cases outcome <;> exact knows

theorem Adding.state_eq {link after : Link T} {spec : ChannelSpec}
    {answer : Except Obstacle ChannelId} (outcome : Adding link spec after answer) :
    after.state = link.state := by
  cases outcome <;> rfl

section Runs

variable [Transport T]

theorem KnowsFault.dispatch {link : Link T} (knows : link.KnowsFault) (event : InboundEvent) :
    (link.dispatch event).value.1.KnowsFault := by
  cases concerned : event.channel? with
  | none =>
      obtain ⟨announced, fault, rfl⟩ := InboundEvent.eq_linkStateChanged concerned
      exact knows.followLinkState announced fault
  | some target =>
      rw [dispatch_frame concerned]
      exact knows

theorem Connecting.knowsFault {link after : Link T} {answer : Except Error Unit}
    {calls : List Call} (outcome : Connecting link after answer calls) (knows : link.KnowsFault) :
    after.KnowsFault := by
  cases outcome with
  | refused shut => exact knows
  | opened may answer =>
      intro aborted
      cases may.1.symm.trans aborted
  | failed may answer => exact fun _ => Option.some_ne_none _

theorem Promoting.knowsFault {link after : Link T} {answer : Except Error Unit}
    {calls : List Call} (outcome : Promoting link after answer calls) (knows : link.KnowsFault) :
    after.KnowsFault := by
  cases outcome with
  | refused unfit => exact knows
  | asked connected opened answer => exact knows
  | failed connected opened answer => exact fun _ => Option.some_ne_none _

theorem Disconnecting.knowsFault {link after : Link T} {answer : Except Error Unit}
    {calls : List Call} (outcome : Disconnecting link after answer calls)
    (knows : link.KnowsFault) : after.KnowsFault := by
  cases outcome with
  | refused nothing => exact knows
  | closed may =>
      intro aborted
      cases aborted

theorem Publishing.knowsFault {link after : Link T} {id : ChannelId} {payload : List UInt8}
    {answer : Except Error Unit} {calls : List Call}
    (outcome : Publishing link id payload after answer calls) (knows : link.KnowsFault) :
    after.KnowsFault := by
  cases outcome with
  | refused harmless waits => exact knows
  | failed found takes opened connected answer => exact fun _ => Option.some_ne_none _
  | sent found takes opened connected answer => exact knows

/-- A step aborts the link only with a fault, and the fault is not lost before the state is. -/
theorem KnowsFault.step {link : Link T} (knows : link.KnowsFault) (step : Step T) :
    (step.run link).KnowsFault := by
  cases step with
  | addChannel spec => exact (link.addChannel_cases spec).knowsFault knows
  | connect => exact link.connect_cases.knowsFault knows
  | setOperational => exact link.setOperational_cases.knowsFault knows
  | disconnect => exact link.disconnect_cases.knowsFault knows
  | publish id payload => exact (link.publish_cases id payload).knowsFault knows
  | popInto id destination =>
      rw [Step.run, popInto_link]
      exact knows.changeChannel id _
  | takeUpdated id =>
      rw [Step.run, takeUpdated_link]
      exact knows.changeChannel id _
  | dispatch event => exact knows.dispatch event
  | meanwhile change => exact knows

/-! ## The faults of the channels -/

theorem Step.act_explained {channel : Channel} (explained : channel.Explained) (link : Link T)
    (id : ChannelId) (step : Step T) : (step.act link id channel).Explained := by
  cases step with
  | addChannel spec => exact explained
  | connect =>
      simp only [Step.act]
      split
      · intro aborted
        cases aborted
      · exact explained
  | setOperational => exact explained
  | disconnect =>
      simp only [Step.act]
      split
      · intro aborted
        cases aborted
      · exact explained
  | publish target payload =>
      simp only [Step.act]
      split <;> exact explained
  | popInto target destination =>
      simp only [Step.act]
      split <;> exact explained
  | takeUpdated target =>
      simp only [Step.act]
      split <;> exact explained
  | dispatch event => exact explained.onEvent id _ _ event
  | meanwhile change => exact explained

theorem Explained.step {link : Link T} (explained : link.Explained) (step : Step T) :
    (step.run link).Explained := by
  refine ⟨explained.knows.step step, fun {id channel} found => ?_⟩
  rcases run_channels link step id with kept | ⟨spec, added, _, _, _, made, there⟩
  · rw [kept] at found
    obtain ⟨earlier, before, rfl⟩ := Option.map_eq_some_iff.mp found
    exact step.act_explained (explained.channels before) link id
  · cases there.symm.trans found
    intro aborted
    rw [(Channel.made_of_new made).state_eq] at aborted
    cases aborted

/-! ## Ways out -/

/-- An aborted link opens no session and asks for none. -/
theorem Connecting.of_aborted {link after : Link T} {answer : Except Error Unit}
    {calls : List Call} (outcome : Connecting link after answer calls)
    (aborted : link.state = .aborted) : after = link ∧ calls = [] := by
  cases outcome with
  | refused shut => exact ⟨rfl, rfl⟩
  | opened may answer => cases may.1.symm.trans aborted
  | failed may answer => cases may.1.symm.trans aborted

/-- An aborted link does not ask for promotion. -/
theorem Promoting.of_aborted {link after : Link T} {answer : Except Error Unit}
    {calls : List Call} (outcome : Promoting link after answer calls)
    (aborted : link.state = .aborted) : after = link ∧ calls = [] := by
  cases outcome with
  | refused unfit => exact ⟨rfl, rfl⟩
  | asked connected opened answer => cases connected.symm.trans aborted
  | failed connected opened answer => cases connected.symm.trans aborted

/-- An aborted link sends nothing. -/
theorem Publishing.of_aborted {link after : Link T} {id : ChannelId} {payload : List UInt8}
    {answer : Except Error Unit} {calls : List Call}
    (outcome : Publishing link id payload after answer calls) (aborted : link.state = .aborted) :
    after = link ∧ calls = [] := by
  cases outcome with
  | refused harmless waits => exact ⟨rfl, rfl⟩
  | failed found takes opened connected answer =>
      rw [aborted] at connected
      cases connected
  | sent found takes opened connected answer =>
      rw [aborted] at connected
      cases connected

/-- An aborted link stays aborted in every step but disconnecting. -/
theorem Step.aborted_stays {link : Link T} (aborted : link.state = .aborted) {step : Step T}
    (other : step ≠ .disconnect) : (step.run link).state = .aborted := by
  cases step with
  | addChannel spec => exact (link.addChannel_cases spec).state_eq.trans aborted
  | connect => rw [Step.run, (link.connect_cases.of_aborted aborted).1, aborted]
  | setOperational => rw [Step.run, (link.setOperational_cases.of_aborted aborted).1, aborted]
  | disconnect => exact (other rfl).elim
  | publish id payload =>
      rw [Step.run, ((link.publish_cases id payload).of_aborted aborted).1, aborted]
  | popInto id destination =>
      rw [Step.run, popInto_link, changeChannel_frame]
      exact aborted
  | takeUpdated id =>
      rw [Step.run, takeUpdated_link, changeChannel_frame]
      exact aborted
  | dispatch event =>
      rw [Step.run, (link.dispatch_spec event).1.state, aborted, stateAfter_aborted]
  | meanwhile change => exact aborted

/-- The same for a series of steps. -/
theorem aborted_stays_in_steps {link : Link T} (aborted : link.state = .aborted)
    {steps : List (Step T)} (other : .disconnect ∉ steps) :
    (runSteps link steps).state = .aborted := by
  induction steps generalizing link with
  | nil => exact aborted
  | cons step rest ih =>
      rw [List.mem_cons, not_or] at other
      exact ih (Step.aborted_stays aborted (Ne.symm other.1)) other.2

theorem Operation.disconnect_mem_steps {link : Link T} {operation : Operation T}
    (inside : .disconnect ∈ operation.steps link) : operation = .single .disconnect := by
  cases operation with
  | single step =>
      cases List.mem_singleton.mp inside
      rfl
  | process =>
      simp only [Operation.steps] at inside
      split at inside
      · cases inside
      · simp at inside

/-- Until it is disconnected, an aborted link asks the transport for what came in and for nothing
else. -/
theorem Operation.aborted_asks_nothing {link : Link T} (aborted : link.state = .aborted)
    {operation : Operation T} (other : operation ≠ .single .disconnect) :
    ∀ call ∈ operation.calls link, ∃ session events, call = .poll session events := by
  intro call asked
  cases operation with
  | process =>
      cases opened : link.session with
      | none =>
          rw [Operation.calls, (process_closed opened).2] at asked
          cases asked
      | some session =>
          rw [Operation.calls, (process_opened opened rfl).2] at asked
          exact ⟨session, _, List.mem_singleton.mp asked⟩
  | single step =>
      cases step with
      | connect =>
          obtain ⟨_, unasked⟩ := link.connect_cases.of_aborted aborted
          rw [Operation.calls, Step.calls, unasked] at asked
          cases asked
      | setOperational =>
          obtain ⟨_, unasked⟩ := link.setOperational_cases.of_aborted aborted
          rw [Operation.calls, Step.calls, unasked] at asked
          cases asked
      | publish id payload =>
          obtain ⟨_, unasked⟩ := (link.publish_cases id payload).of_aborted aborted
          rw [Operation.calls, Step.calls, unasked] at asked
          cases asked
      | dispatch event =>
          rw [Operation.calls, Step.calls, (link.dispatch_spec event).2] at asked
          cases asked
      | disconnect => exact (other rfl).elim
      | addChannel spec => cases asked
      | popInto id destination => cases asked
      | takeUpdated id => cases asked
      | meanwhile change => cases asked

/-- Operations other than disconnecting leave an aborted link aborted and silent. -/
theorem aborted_until_disconnected {link : Link T} (aborted : link.state = .aborted)
    {operations : List (Operation T)} (other : .single .disconnect ∉ operations) :
    (link.run operations).state = .aborted ∧
      ∀ call ∈ link.callsOf operations, ∃ session events, call = .poll session events := by
  induction operations generalizing link with
  | nil =>
      refine ⟨aborted, fun call asked => ?_⟩
      cases asked
  | cons operation rest ih =>
      rw [List.mem_cons, not_or] at other
      have stays : (operation.run link).state = .aborted := by
        rw [operation.run_eq]
        refine aborted_stays_in_steps aborted fun inside => ?_
        exact other.1 (Operation.disconnect_mem_steps inside).symm
      obtain ⟨state, silent⟩ := ih stays other.2
      refine ⟨state, fun call asked => ?_⟩
      rcases List.mem_append.mp asked with now | later
      · exact Operation.aborted_asks_nothing aborted (Ne.symm other.1) call now
      · exact silent call later

/-- The only ways out of an abort, for the link and for a channel. -/
structure Moment.KeepsAborts (moment : Moment T) : Prop where
  link : moment.before.state = .aborted → moment.step ≠ .disconnect →
    moment.after.state = .aborted
  channels {id : ChannelId} {channel : Channel}
    (found : moment.before.channels[id]? = some channel) (aborted : channel.state = .aborted) :
    ∃ later, moment.after.channels[id]? = some later ∧
      (later.state = .aborted ∨ moment.step = .disconnect ∨
        moment.step = .connect ∧ moment.before.MayConnect ∨
        moment.before.state.isConnected = true ∧ moment.after.state = .disconnected)

/-- A channel of the table is there after every step, as the step made it. -/
theorem run_channel {link : Link T} {id : ChannelId} {channel : Channel}
    (found : link.channels[id]? = some channel) (step : Step T) :
    (step.run link).channels[id]? = some (step.act link id channel) := by
  rcases run_channels link step id with kept | ⟨spec, added, _, _, last, _, _⟩
  · rw [kept, found, Option.map_some]
  · rw [last, List.getElem?_eq_none (Nat.le_refl _)] at found
    cases found

theorem Step.keepsAborts (link : Link T) (step : Step T) :
    (Moment.mk link step).KeepsAborts := by
  refine ⟨fun aborted other => Step.aborted_stays aborted other,
    fun {id channel} found aborted => ⟨_, run_channel found step, ?_⟩⟩
  cases step with
  | addChannel spec => exact .inl aborted
  | connect =>
      by_cases may : link.MayConnect
      · exact .inr (.inr (.inl ⟨rfl, may⟩))
      · rw [Step.act, if_neg may]
        exact .inl aborted
  | setOperational => exact .inl aborted
  | disconnect => exact .inr (.inl rfl)
  | publish target payload =>
      simp only [Step.act]
      split <;> exact .inl aborted
  | popInto target destination =>
      simp only [Step.act]
      split <;> exact .inl aborted
  | takeUpdated target =>
      simp only [Step.act]
      split <;> exact .inl aborted
  | dispatch event =>
      rcases Channel.onEvent_of_aborted aborted id link.state link.nettime event with
        stays | ⟨connected, lost⟩
      · exact .inl stays
      · refine .inr (.inr (.inr ⟨connected, ?_⟩))
        exact (link.dispatch_spec event).1.state.trans lost
  | meanwhile change => exact .inl aborted

/-- Whatever happens to a new link, whatever is aborted holds a fault, at every moment.  An aborted
link stays aborted until it is disconnected, and until then it asks its transport for what came in
and for nothing else.  An aborted channel stays aborted until the link is disconnected, opens
a session or loses its connection. -/
theorem abort_lasts_until_disconnect (instanceName : String) (aliasName : Option String)
    (transport : T) (operations : List (Operation T)) :
    let start := Link.fresh instanceName aliasName transport
    (start.run operations).Explained ∧
      (∀ moment ∈ start.history operations, moment.before.Explained ∧ moment.KeepsAborts) ∧
      ((start.run operations).state = .aborted → ∀ later : List (Operation T),
        .single .disconnect ∉ later →
          (start.run (operations ++ later)).state = .aborted ∧
            ∀ call ∈ (start.run operations).callsOf later,
              ∃ session events, call = .poll session events) := by
  intro start
  have initial : start.Explained := by
    refine ⟨fun aborted => ?_, fun found => ?_⟩
    · cases aborted
    · cases found
  have reached := reaches_run start operations
  have explained {past : List (Moment T)} {link : Link T} (reached : Reaches start past link) :
      link.Explained := reached.invariant initial fun _ explained step => explained.step step
  refine ⟨explained reached, fun moment inside => ?_, fun aborted later other => ?_⟩
  · obtain ⟨earlier, before⟩ := reached.of_mem inside
    exact ⟨explained before, moment.step.keepsAborts moment.before⟩
  · rw [run_append]
    exact aborted_until_disconnected aborted other

end Runs

/-- A line comes up, and its peer aborts the channel and then the link. -/
def cutLine : List (Operation Simulator) :=
  [.single (.addChannel ⟨"setpoint", .publish, 1, none⟩), .single .connect, .process,
    .single .setOperational, .process,
    .single (.meanwhile fun sim => sim.abortChannel 0 Channel.abortedByTransport),
    .single (.meanwhile fun sim => sim.abortLink abortedByTransport), .process]

/-- Everything that an owner might try next, and a peer that announces a connection. -/
def vainAttempts : List (Operation Simulator) :=
  [.single .connect, .single .setOperational, .single (.publish 0 [7]),
    .single (.meanwhile fun sim => sim.inject (.linkStateChanged .connected none)), .process,
    .single (.dispatch (.linkStateChanged .disconnected none)),
    .single (.addChannel ⟨"feedback", .subscribe, 1, none⟩), .single (.takeUpdated 0)]

theorem cut_line_stays_silent :
    let cut := (Link.fresh "line" none ({} : Simulator)).run cutLine
    cut.state = .aborted ∧ cut.lastError ≠ none ∧ .single .disconnect ∉ vainAttempts ∧
      (cut.run vainAttempts).state = .aborted ∧
      ∀ call ∈ cut.callsOf vainAttempts, ∃ session events, call = .poll session events := by
  intro cut
  obtain ⟨explained, _, stays⟩ := abort_lasts_until_disconnect "line" none ({} : Simulator) cutLine
  have aborted : cut.state = .aborted := by decide +kernel
  have other : .single .disconnect ∉ vainAttempts := by simp [vainAttempts]
  obtain ⟨state, silent⟩ := stays aborted vainAttempts other
  rw [run_append] at state
  exact ⟨aborted, explained.knows aborted, other, state, silent⟩

end Link

end DatasetSync
