import DatasetSync.Proofs.Latency
import DatasetSync.Proofs.Link.Failures
import DatasetSync.Proofs.Link.Latest
import DatasetSync.Proofs.Link.Mirror

/-!
# True travel times

A clock of 32 bits forgets how often it has wrapped, but a difference of two of its readings does
not depend on that: it is the true difference, as long as this one fits into 32 bits itself.

What a link tells its owner of an update and what the channel puts on record is such a difference.
It is followed here from a single update to everything that may happen to a link, in which the clock
wraps as often as it likes.
-/

namespace DatasetSync

/-! ## Times and readings -/

/-- What a clock of 32 bits shows at a time in microseconds, however often it wrapped before. -/
def Nettime.reading (time : Int) : Nettime :=
  Int32.ofInt time

namespace Channel

/-- Wrapping loses nothing of a difference that is short itself. -/
theorem travelTime_reading {sent received : Int} (short : Latency.Short (received - sent)) :
    travelTime (Nettime.reading sent) (Nettime.reading received) = received - sent := by
  obtain ⟨low, high⟩ := short
  calc travelTime (Nettime.reading sent) (Nettime.reading received)
      _ = (Int32.ofInt received - Int32.ofInt sent).toInt := rfl
      _ = (Int32.ofInt (received - sent)).toInt := by rw [Int32.ofInt_sub]
      _ = received - sent := Int32.toInt_ofInt_of_le low high

-- Half a turn is too much: the difference comes out with the other sign.
example : travelTime (Nettime.reading 0) (Nettime.reading 0x80000000) = -0x80000000 := by
  decide

/-- A channel accepts an update: data may flow, and the payload is taken in. -/
def Accepts (channel : Channel) (payload : List UInt8) : Prop :=
  channel.state.isConnected = true ∧ channel.Admits payload

instance (channel : Channel) (payload : List UInt8) : Decidable (channel.Accepts payload) :=
  inferInstanceAs (Decidable (_ ∧ _))

/-- Nothing but an update that is accepted goes into the figures. -/
theorem onUpdate_latency (channel : Channel) (payload : List UInt8) (sent now : Nettime) :
    (channel.onUpdate payload sent now).latency =
      if channel.Accepts payload then channel.latency.record (travelTime sent now)
      else channel.latency := by
  unfold onUpdate
  cases connected : channel.state.isConnected with
  | false => simp [Accepts, connected]
  | true => simp [Accepts, connected, receive_latency]

end Channel

/-! ## What is told of latencies -/

def LinkEvent.latency? (id : ChannelId) : LinkEvent → Option Int
  | .channelUpdated target latency => if target = id then some latency else none
  | _ => none

def News.latency? (id : ChannelId) : News → Option Int
  | .event told _ => told.latency? id
  | .added => none

namespace Trail

variable {α β : Type}

def latencies (id : ChannelId) (trail : Trail Effect α) : List Int :=
  trail.told.filterMap (LinkEvent.latency? id)

@[simp] theorem latencies_pure (id : ChannelId) (value : α) :
    (pure value : Trail Effect α).latencies id = [] := rfl

@[simp] theorem latencies_bind (id : ChannelId) (first : Trail Effect α)
    (next : α → Trail Effect β) :
    (first >>= next).latencies id = first.latencies id ++ (next first.value).latencies id := by
  rw [latencies, told_bind, List.filterMap_append]
  rfl

theorem filterMap_news (id : ChannelId) (trail : Trail Effect α) :
    trail.news.filterMap (News.latency? id) = trail.latencies id := by
  rw [news, latencies, told, List.filterMap_filterMap, List.filterMap_filterMap]
  congr 1
  funext effect
  cases effect <;> rfl

end Trail

namespace Link

variable {T α : Type}

@[simp] theorem latencies_report (id : ChannelId) (link : Link T) (occasion : LinkReport) :
    (link.report occasion).latencies id = [] := rfl

@[simp] theorem latencies_request (id : ChannelId) (asked : Trail Note α) (call : α → Call) :
    (request asked call).latencies id = [] := by
  rw [Trail.latencies, told_request, List.filterMap_nil]

theorem followLinkState_latencies (id : ChannelId) (link : Link T) (announced : ConnectionState)
    (fault : Option Fault) : (link.followLinkState announced fault).latencies id = [] := by
  cases state : link.state <;> cases announced <;> simp only [followLinkState, state] <;> rfl

theorem followChannelState_latencies (id target : ChannelId) (link : Link T) (channel : Channel)
    (announced : ConnectionState) (fault : Option Fault) :
    (link.followChannelState target channel announced fault).latencies id = [] := by
  have settled (channel : Channel) :
      (link.settleChannel target channel fault).latencies id = [] := by
    rw [Trail.latencies, settleChannel_told]
    rfl
  unfold followChannelState followPromotion
  split
  · split
    · rfl
    · cases channel.setOperational with
      | ok promoted => exact settled promoted
      | error error => rfl
  · cases channel.transition announced fault with
    | error error => rfl
    | ok change =>
        cases change with
        | none => rfl
        | some moved => exact settled moved

theorem onChannel_latencies {id target : ChannelId} {link : Link T}
    {act : Channel → Trail Effect (Outcome T Unit)}
    (untold : ∀ channel, (act channel).latencies id = []) :
    (link.onChannel target act).latencies id = [] := by
  unfold onChannel
  cases link.channels[target]? with
  | none => rfl
  | some channel => exact untold channel

section Requests

variable [Transport T]

theorem connect_latencies (id : ChannelId) (link : Link T) : link.connect.latencies id = [] := by
  unfold connect
  split
  · rfl
  · unfold register
    rw [Trail.latencies_bind, latencies_request, value_request, List.nil_append]
    rcases (Transport.register link.prepare.transport link.prepare.instanceName
      (link.prepare.channels.map Channel.descriptor)).value with ⟨transport, fault | session⟩
    · rfl
    · rfl

theorem setOperational_latencies (id : ChannelId) (link : Link T) :
    link.setOperational.latencies id = [] := by
  unfold setOperational
  split
  · rename_i session opened
    split
    · unfold promote
      simp only [Trail.latencies_bind, latencies_report, latencies_request, value_request,
        List.nil_append]
      rcases (Transport.promote link.transport session).value with ⟨transport, fault | granted⟩
      · rfl
      · rfl
    · rfl
  · rfl

theorem disconnect_latencies (id : ChannelId) (link : Link T) :
    link.disconnect.latencies id = [] := by
  have closed : link.close.latencies id = [] := by
    unfold close
    cases link.session <;> simp
  unfold disconnect
  split
  · rfl
  · rw [Trail.latencies_bind, closed]
    rfl

theorem publish_latencies (id target : ChannelId) (link : Link T) (payload : List UInt8) :
    (link.publish target payload).latencies id = [] := by
  unfold publish
  cases link.channel target with
  | error error => rfl
  | ok channel =>
      dsimp only
      split
      · rfl
      · rename_i session _ _
        split
        · unfold sendOn
          rw [Trail.latencies_bind, latencies_request, value_request, List.nil_append]
          rcases (Transport.send link.transport session target payload).value with
            ⟨transport, fault | granted⟩
          · rfl
          · cases channel.recordPublished payload <;> rfl
        · rfl
      · rfl

/-! ## One update -/

/-- An update that is accepted is answered well and told with its travel time. -/
theorem receive_accepted {channel : Channel} {payload : List UInt8}
    (accepts : channel.Accepts payload) (link : Link T) (id : ChannelId) (sent : Nettime) :
    let travelTime := Channel.travelTime sent link.nettime
    (link.receive id channel payload sent).value.2 = .ok () ∧
      (link.receive id channel payload sent).told = [.channelUpdated id travelTime] := by
  obtain ⟨connected, admits⟩ := accepts
  rcases (channel.receive_cases payload sent link.nettime).admits_or with
    ⟨_, answer, _⟩ | ⟨refused, _⟩
  · rcases received : channel.receive payload sent link.nettime with ⟨after, told⟩
    rw [received] at answer
    subst answer
    simp [receive, connected, received]
  · exact absurd admits refused

/-- Of an update that is not accepted no latency is told. -/
theorem receive_unaccepted {channel : Channel} {payload : List UInt8}
    (refused : ¬ channel.Accepts payload) (link : Link T) (id target : ChannelId)
    (sent : Nettime) : (link.receive target channel payload sent).latencies id = [] := by
  unfold receive
  cases connected : channel.state.isConnected with
  | false => rfl
  | true =>
      rcases (channel.receive_cases payload sent link.nettime).admits_or with
        ⟨admits, _⟩ | ⟨_, unaccepted, _⟩
      · exact absurd ⟨connected, admits⟩ refused
      · rcases received : channel.receive payload sent link.nettime with ⟨after, error | reception⟩
        · rfl
        · cases reception with
          | accepted latency => exact absurd (congrArg Prod.snd received) (unaccepted latency)
          | overflowed dropped => rfl

/-- An update that is accepted is told with its travel time, which goes on record. -/
theorem dispatch_accepted {link : Link T} {id : ChannelId} {channel : Channel}
    {payload : List UInt8} (found : link.channels[id]? = some channel)
    (accepts : channel.Accepts payload) (sent : Nettime) :
    let travelTime := Channel.travelTime sent link.nettime
    let applied := link.dispatch (.channelUpdated id payload sent)
    applied.value.2 = .ok () ∧ applied.told = [.channelUpdated id travelTime] ∧
      ∃ after, applied.value.1.channels[id]? = some after ∧
        after.latency = channel.latency.record travelTime := by
  intro travelTime applied
  obtain ⟨answer, told⟩ := receive_accepted accepts link id sent
  refine ⟨?_, ?_, channel.onUpdate payload sent link.nettime, ?_, ?_⟩
  · simp [applied, dispatch, onChannel, found, answer]
  · simp [applied, dispatch, onChannel, found, told, travelTime]
  · rw [dispatch_update found,
      getElem?_setChannel found (·.onUpdate payload sent link.nettime), found]
    simp
  · rw [Channel.onUpdate_latency, if_pos accepts]

theorem receive_latencies (id target : ChannelId) (link : Link T) (channel : Channel)
    (payload : List UInt8) (sent : Nettime) :
    (link.receive target channel payload sent).latencies id =
      if target = id ∧ channel.Accepts payload then [Channel.travelTime sent link.nettime]
      else [] := by
  by_cases accepts : channel.Accepts payload
  · rw [Trail.latencies, (receive_accepted accepts link target sent).2]
    by_cases same : target = id <;> simp [LinkEvent.latency?, same, accepts]
  · rw [receive_unaccepted accepts, if_neg (accepts ·.2)]

end Requests

/-! ## One moment -/

def Moment.stamp? (id : ChannelId) (moment : Moment T) : Option Nettime :=
  match moment.step, moment.before.channels[id]? with
  | .dispatch (.channelUpdated target payload sent), some channel =>
      if target = id ∧ channel.Accepts payload then some sent else none
  | _, _ => none

theorem Moment.stamp?_eq_none {moment : Moment T} {id : ChannelId}
    (silent : ∀ payload sent, moment.step ≠ .dispatch (.channelUpdated id payload sent)) :
    moment.stamp? id = none := by
  unfold stamp?
  split
  · rename_i target payload sent channel step there
    refine if_neg ?_
    rintro ⟨rfl, _⟩
    exact silent payload sent step
  · rfl

theorem Moment.stamp?_missing {moment : Moment T} {id : ChannelId}
    (missing : moment.before.channels[id]? = none) : moment.stamp? id = none := by
  simp [stamp?, missing]

theorem Moment.stamp?_update {link : Link T} {id : ChannelId} {channel : Channel}
    (found : link.channels[id]? = some channel) (payload : List UInt8) (sent : Nettime) :
    (Moment.mk link (.dispatch (.channelUpdated id payload sent))).stamp? id =
      if channel.Accepts payload then some sent else none := by
  simp [stamp?, found]

section Moments

variable [Transport T]

/-- The travel time of an update that channel `id` accepts, as the clock has it. -/
def Moment.measured? (id : ChannelId) (moment : Moment T) : Option Int :=
  (moment.stamp? id).map (Channel.travelTime · moment.before.nettime)

/-- An update tells the latency that is measured. -/
theorem update_latencies (id target : ChannelId) (link : Link T) (payload : List UInt8)
    (sent : Nettime) :
    (link.dispatch (.channelUpdated target payload sent)).latencies id =
      ((Moment.mk link (.dispatch (.channelUpdated target payload sent))).measured? id).toList := by
  by_cases same : target = id
  · subst same
    cases found : link.channels[target]? with
    | none =>
        rw [Moment.measured?, Moment.stamp?_missing found]
        simp [dispatch, onChannel, found]
    | some channel =>
        rw [Moment.measured?, Moment.stamp?_update found]
        simp only [dispatch, onChannel, found, Trail.latencies_bind, latencies_report,
          List.nil_append, receive_latencies, true_and]
        split <;> rfl
  · have silent : (Moment.mk link (.dispatch (.channelUpdated target payload sent))).stamp? id =
        none := by
      refine Moment.stamp?_eq_none fun other stamp step => ?_
      cases step
      exact same rfl
    rw [Moment.measured?, silent]
    refine onChannel_latencies fun channel => ?_
    rw [receive_latencies, if_neg (same ·.1)]

/-- An event tells the latency that is measured, and no other. -/
theorem dispatch_latencies (id : ChannelId) (link : Link T) (event : InboundEvent) :
    (link.dispatch event).latencies id =
      ((Moment.mk link (.dispatch event)).measured? id).toList := by
  cases event with
  | linkStateChanged announced fault =>
      simp only [dispatch, Trail.latencies_bind, latencies_report, followLinkState_latencies,
        Trail.latencies_pure]
      rfl
  | channelStateChanged target announced fault =>
      refine onChannel_latencies fun channel => ?_
      rw [Trail.latencies_bind, followChannelState_latencies]
      rfl
  | channelUpdated target payload sent => exact update_latencies id target link payload sent
  | publishAcknowledged target buffer => exact onChannel_latencies fun channel => rfl
  | deliveryAcknowledged target buffer => exact onChannel_latencies fun channel => rfl

/-- A step tells the latency that is measured, and no other. -/
theorem Step.latencies (id : ChannelId) (link : Link T) (step : Step T) :
    (step.news link).filterMap (News.latency? id) =
      ((Moment.mk link step).measured? id).toList := by
  cases step with
  | addChannel spec =>
      rw [Step.news]
      split <;> rfl
  | connect => exact (Trail.filterMap_news id _).trans (link.connect_latencies id)
  | setOperational => exact (Trail.filterMap_news id _).trans (link.setOperational_latencies id)
  | disconnect => exact (Trail.filterMap_news id _).trans (link.disconnect_latencies id)
  | publish target payload =>
      exact (Trail.filterMap_news id _).trans (link.publish_latencies id target payload)
  | popInto target destination => rfl
  | takeUpdated target => rfl
  | dispatch event => exact (Trail.filterMap_news id _).trans (link.dispatch_latencies id event)
  | meanwhile change => rfl

/-- A step puts the latency on record that is measured, and no other. -/
theorem Step.act_latency {link : Link T} {id : ChannelId} {channel : Channel}
    (found : link.channels[id]? = some channel) (step : Step T) :
    (step.act link id channel).latency =
      ((Moment.mk link step).measured? id).elim channel.latency channel.latency.record := by
  cases step with
  | addChannel spec => rfl
  | connect =>
      rw [Step.act]
      split <;> rfl
  | setOperational => rfl
  | disconnect =>
      rw [Step.act]
      split <;> rfl
  | publish target payload =>
      rw [Step.act]
      split <;> rfl
  | popInto target destination =>
      rw [Step.act]
      split <;> rfl
  | takeUpdated target =>
      rw [Step.act]
      split <;> rfl
  | dispatch event =>
      rcases event.silent_or_update id with silent | ⟨payload, sent, rfl⟩
      · have unstamped : (Moment.mk link (.dispatch event)).stamp? id = none := by
          refine Moment.stamp?_eq_none fun payload sent step => ?_
          exact silent payload sent (Step.dispatch.inj step)
        rw [Moment.measured?, unstamped]
        exact (Channel.onEvent_sameData silent channel link.state link.nettime).latency
      · rw [Step.act, Channel.onEvent, if_pos rfl, Channel.onUpdate_latency, Moment.measured?,
          Moment.stamp?_update found]
        split <;> rfl
  | meanwhile change => rfl

/-! ## Whole histories -/

/-- The latencies of a batch are told one after the other. -/
theorem dispatchAll_latencies (id : ChannelId) (link : Link T) (events : List InboundEvent) :
    (link.dispatchAll events).latencies id =
      (moments link (events.map .dispatch)).filterMap (Moment.measured? id) := by
  induction events generalizing link with
  | nil => rfl
  | cons event rest ih =>
      have told : (link.dispatchAll (event :: rest)).latencies id =
          (link.dispatch event).latencies id ++
            ((link.dispatch event).value.1.dispatchAll rest).latencies id := by
        rw [dispatchAll, Trail.latencies_bind]
        rcases link.dispatch event with ⟨⟨after, error | done⟩, marks⟩
        · simp
        · rfl
      rw [told, dispatch_latencies, ih, List.map_cons, moments, List.filterMap_cons]
      cases (Moment.mk link (.dispatch event)).measured? id <;> rfl

/-- An operation tells the latencies that are measured, and no others. -/
theorem Operation.latencies (id : ChannelId) (link : Link T) (operation : Operation T) :
    (operation.news link).filterMap (News.latency? id) =
      (moments link (operation.steps link)).filterMap (Moment.measured? id) := by
  cases operation with
  | single step =>
      rw [Operation.news, Operation.steps, step.latencies, moments, moments, List.filterMap_cons]
      cases (Moment.mk link step).measured? id <;> rfl
  | process =>
      refine (Trail.filterMap_news id _).trans ?_
      unfold Link.process Operation.steps
      cases opened : link.session with
      | none => rfl
      | some session =>
          simp only [Trail.latencies_bind, latencies_request, value_request, List.nil_append]
          rcases (Transport.poll link.transport session).value with ⟨transport, events⟩
          -- Fetching changes the transport, at which nothing is measured; then comes the batch.
          rw [← opened]
          have batch := dispatchAll_latencies id { link with transport } events
          split <;>
            · rw [Trail.latencies_pure, List.append_nil]
              exact batch

theorem newsOf_latencies (id : ChannelId) (link : Link T) (operations : List (Operation T)) :
    (link.newsOf operations).filterMap (News.latency? id) =
      (link.history operations).filterMap (Moment.measured? id) := by
  induction operations generalizing link with
  | nil => rfl
  | cons operation rest ih =>
      rw [newsOf, history, List.filterMap_append, List.filterMap_append, operation.latencies, ih]

/-- The figures of a channel are those of what was measured since it was made. -/
theorem Reaches.measures {start link : Link T} {past : List (Moment T)} {id : ChannelId}
    {channel : Channel} (reached : Reaches start past link)
    (made : ∀ (id : ChannelId) channel, start.channels[id]? = some channel →
      ∃ spec, Channel.Made id spec channel)
    (found : link.channels[id]? = some channel) :
    channel.latency.Measures (past.filterMap (Moment.measured? id)) := by
  induction reached generalizing channel with
  | refl =>
      obtain ⟨spec, new⟩ := made id channel found
      rw [new.latency_eq]
      exact Latency.fresh_measures
  | @tail past link before step ih =>
      rcases run_channels link step id with kept | ⟨spec, _, _, _, last, new, there⟩
      · rw [kept] at found
        obtain ⟨earlier, was, rfl⟩ := Option.map_eq_some_iff.mp found
        have measures := ih was
        rw [filterMap_concat, Step.act_latency was, Moment.measured?]
        cases (Moment.mk link step).stamp? id with
        | none => simpa using measures
        | some stamp => exact measures.record (Channel.travelTime_short _ _)
      · -- The channel is new, so nothing was ever measured on it.
        cases there.symm.trans found
        have nothing : (past ++ [Moment.mk link step]).filterMap (Moment.measured? id) = [] := by
          refine List.filterMap_eq_nil_iff.mpr fun moment inside => ?_
          have missing := before.missing_added last step moment inside
          rw [Moment.measured?, Moment.stamp?_missing missing]
          rfl
        rw [nothing, (Channel.made_of_new new).latency_eq]
        exact Latency.fresh_measures

/-! ## True times -/

/-- A moment with its true times: when it comes and, for an update, when this was sent. -/
structure Timed (T : Type) where
  moment : Moment T
  now : Int
  sent : Int

namespace Timed

/-- Where channel `id` accepts an update, the clock and the stamp show the true times, and these are
at most half a turn of the clock apart. -/
def Shown (id : ChannelId) (timed : Timed T) : Prop :=
  ∀ stamp ∈ timed.moment.stamp? id,
    timed.moment.before.nettime = Nettime.reading timed.now ∧
      stamp = Nettime.reading timed.sent ∧ Latency.Short (timed.now - timed.sent)

-- Only the stamp is looked at; there are too many readings to go through all of them.
instance (id : ChannelId) (timed : Timed T) : Decidable (timed.Shown id) :=
  (timed.moment.stamp? id).decidableForallMem

def travel? (id : ChannelId) (timed : Timed T) : Option Int :=
  (timed.moment.stamp? id).map fun _ => timed.now - timed.sent

/-- What is measured is the true travel time. -/
theorem Shown.measured?_eq {id : ChannelId} {timed : Timed T} (shown : timed.Shown id) :
    timed.moment.measured? id = timed.travel? id := by
  unfold Moment.measured? travel?
  cases stamped : timed.moment.stamp? id with
  | none => rfl
  | some stamp =>
      obtain ⟨clock, rfl, short⟩ := shown stamp stamped
      rw [Option.map_some, Option.map_some, clock, Channel.travelTime_reading short]

theorem filterMap_measured? {id : ChannelId} {past : List (Timed T)}
    (shown : ∀ timed ∈ past, timed.Shown id) :
    (past.map Timed.moment).filterMap (Moment.measured? id) = past.filterMap (travel? id) := by
  rw [List.filterMap_map]
  exact List.filterMap_congr fun timed inside => (shown timed inside).measured?_eq

end Timed

/-- An update that a channel accepts, without a ring or with room in it, is told and put on record
with its true travel time, whatever the times at which it was sent and received: the clock has to
show the one and the stamp the other, and they are at most half a turn of the clock apart.  So in
everything that may happen to a link, the latencies that its owner hears of for a channel are the
true travel times of the updates that this channel accepted, in order, and the channel's figures are
those of the same. -/
theorem latencies_are_true_across_the_wrap :
    (∀ (link : Link T) (id : ChannelId) (channel : Channel) (payload : List UInt8)
        (sent received : Int), link.channels[id]? = some channel → channel.Accepts payload →
        link.nettime = Nettime.reading received →
        -0x80000000 ≤ received - sent → received - sent < 0x80000000 →
        let applied := link.dispatch (.channelUpdated id payload (Nettime.reading sent))
        applied.value.2 = .ok () ∧ applied.told = [.channelUpdated id (received - sent)] ∧
          ∃ after, applied.value.1.channels[id]? = some after ∧
            after.latency = channel.latency.record (received - sent)) ∧
      ∀ (start : Link T) (operations : List (Operation T)) (past : List (Timed T))
        (id : ChannelId), start.Origin → past.map Timed.moment = start.history operations →
        (∀ timed ∈ past, timed.Shown id) →
        let latencies := past.filterMap (Timed.travel? id)
        (start.newsOf operations).filterMap (News.latency? id) = latencies ∧
          ∀ channel, (start.run operations).channels[id]? = some channel →
            channel.latency.Measures latencies := by
  constructor
  · intro link id channel payload sent received found accepts clock low high
    have right := Channel.travelTime_reading ⟨low, high⟩
    have accepted := dispatch_accepted found accepts (Nettime.reading sent)
    rw [clock, right] at accepted
    exact accepted
  · intro start operations past id origin same shown
    have measured := Timed.filterMap_measured? shown
    rw [same] at measured
    refine ⟨(start.newsOf_latencies id operations).trans measured, fun channel found => ?_⟩
    rw [← measured]
    exact (reaches_run start operations).measures (fun _ _ => origin.made) found

end Moments

/-- The clock has wrapped many times and goes past its turn.  Two updates that were sent before come
in, then one from a sender whose clock is ahead, and one for which there is no room. -/
def pastTheTurn : List (Operation Simulator) :=
  [.single (.addChannel ⟨"value", .subscribe, 1, none⟩),
    .single (.addChannel ⟨"samples", .subscribe, 1, some 2⟩), .single .connect, .process,
    .single (.meanwhile fun sim => { sim with clock := Nettime.reading 32212254730 }),
    .single (.dispatch (.channelUpdated 0 [1] (Nettime.reading 32212254715))),
    .single (.dispatch (.channelUpdated 0 [2] (Nettime.reading 32212254715))),
    .single (.dispatch (.channelUpdated 1 [3] (Nettime.reading 32212254737))),
    .single (.dispatch (.channelUpdated 1 [4] (Nettime.reading 32212254737)))]

theorem latencies_past_the_turn :
    let start := fresh "line" none ({} : Simulator)
    let link := start.run pastTheTurn
    (start.newsOf pastTheTurn).filterMap (News.latency? 0) = [15, 15] ∧
      (start.newsOf pastTheTurn).filterMap (News.latency? 1) = [-7] ∧
      (∃ channel, link.channels[1]? = some channel ∧ channel.latency.Measures [-7]) ∧
      ∃ channel, link.channels[0]? = some channel ∧ channel.Accepts [5] ∧
        (link.dispatch (.channelUpdated 0 [5] (Nettime.reading 34359738378))).told =
          [.channelUpdated 0 (-2147483648)] := by
  intro start link
  obtain ⟨single, whole⟩ := latencies_are_true_across_the_wrap (T := Simulator)
  -- All updates of a channel are sent at one time, so every moment may be given the same times.
  let timed (sent : Int) : List (Timed Simulator) :=
    (start.history pastTheTurn).map fun moment => ⟨moment, 32212254730, sent⟩
  have moments (sent : Int) : (timed sent).map Timed.moment = start.history pastTheTurn := by
    rw [List.map_map]
    exact List.map_id _
  have origin : start.Origin := .new "line" none ({} : Simulator)
  obtain ⟨heard, _⟩ := whole start pastTheTurn (timed 32212254715) 0 origin (moments _)
    (by decide +kernel)
  obtain ⟨ahead, measures⟩ := whole start pastTheTurn (timed 32212254737) 1 origin (moments _)
    (by decide +kernel)
  have behind : (timed 32212254715).filterMap (Timed.travel? 0) = [15, 15] := by decide +kernel
  have sampled : (timed 32212254737).filterMap (Timed.travel? 1) = [-7] := by decide +kernel
  rw [behind] at heard
  rw [sampled] at ahead measures
  have there : link.channels[1]?.isSome = true := by decide +kernel
  obtain ⟨samples, found⟩ := Option.isSome_iff_exists.mp there
  have ready : (link.channels[0]?.filter (·.Accepts [5])).isSome = true := by decide +kernel
  obtain ⟨value, kept⟩ := Option.isSome_iff_exists.mp ready
  obtain ⟨here, accepting⟩ := Option.filter_eq_some_iff.mp kept
  have accepts : value.Accepts [5] := of_decide_eq_true accepting
  obtain ⟨_, told, _⟩ := single link 0 value [5] 34359738378 32212254730 here accepts
    (by decide +kernel) (by decide) (by decide)
  exact ⟨heard, ahead, ⟨samples, found, measures samples found⟩, value, here, accepts, told⟩

end Link

end DatasetSync
