import DatasetSync.Proofs.Controller.World
import DatasetSync.Proofs.Link.Latest

/-!
# What comes in shows in the image

In one cycle several updates may come in on a channel, and the link may be gone before the cycle is
over.  The image shows the last of them all the same, and it changes for no other reason: not for a
channel with a ring, and not in a cycle that fetches nothing.
-/

namespace DatasetSync

def Call.fetches : Call → Bool
  | .poll _ _ => true
  | _ => false

namespace Link

variable {T : Type} [Transport T]

/-- The updates that channel `id` takes in when the link fetches events. -/
def arrivals (link : Link T) (id : ChannelId) : List Sample :=
  (link.history [.process]).filterMap (Moment.arrival? id)

/-- Fetching is a matter of the transport and of inbound events. -/
theorem step_of_process {link : Link T} {moment : Moment T}
    (inside : moment ∈ link.history [.process]) :
    (∃ change, moment.step = .meanwhile change) ∨ ∃ event, moment.step = .dispatch event := by
  rw [history, history, List.append_nil] at inside
  have step := step_mem_of_mem_moments inside
  rw [Operation.steps] at step
  split at step
  · cases step
  · rcases List.mem_cons.mp step with fetched | handed
    · exact .inl ⟨_, fetched⟩
    · obtain ⟨event, _, same⟩ := List.mem_map.mp handed
      exact .inr ⟨event, same.symm⟩

/-- The owner does not look while events are fetched. -/
theorem sinceLooked_process (link : Link T) (id : ChannelId) :
    sinceLooked id (link.history [.process]) = link.history [.process] := by
  refine List.rtakeWhile_eq_self_iff.mpr fun moment inside => ?_
  rcases step_of_process inside with ⟨change, step⟩ | ⟨event, step⟩ <;>
    simp [Moment.connects, Moment.looks, step]

/-- Nothing is sent while events are fetched. -/
theorem exchanged_process (link : Link T) (id : ChannelId) :
    (link.history [.process]).filterMap (Moment.exchanged? id) =
      (link.arrivals id).map Sample.bytes := by
  rw [arrivals, List.map_filterMap]
  refine List.filterMap_congr fun moment inside => ?_
  have unsent : moment.published? id = none := by
    rcases step_of_process inside with ⟨change, step⟩ | ⟨event, step⟩ <;>
      simp [Moment.published?, step]
  rw [Moment.exchanged?, unsent]
  rfl

/-- A channel with one slot is left with the last update that it took in. -/
theorem process_latest {link : Link T} {id : ChannelId} {channel : Channel}
    (found : link.channels[id]? = some channel) (single : channel.buffer = none)
    (unseen : channel.updated = false) :
    ∃ after, link.process.value.1.channels[id]? = some after ∧ after.buffer = none ∧
      (after.updated = true ↔ link.arrivals id ≠ []) ∧
      after.value.bytes =
        ((link.arrivals id).getLast?.map Sample.bytes).getD channel.value.bytes := by
  obtain ⟨after, there, latest⟩ := (reaches_run link [.process]).latest found single unseen
  refine ⟨after, there, latest.single, ?_, ?_⟩
  · rw [latest.updated, sinceLooked_process]
    rfl
  · rw [latest.value, exchanged_process, List.getLast?_map]

end Link

/-- The value that a channel takes over when it took in `arrivals`.  With a ring the task is left to
ask for it. -/
def Channel.takenOver? (channel : Channel) (arrivals : List Sample) : Option (List UInt8) :=
  if channel.isBuffered then none else arrivals.getLast?.map Sample.bytes

theorem Channel.takenOver?_nil (channel : Channel) : channel.takenOver? [] = none :=
  ite_self none

namespace Controller

variable {T L : Type} [Transport T]

/-- The link as it is when a cycle fetches events, if the cycle does so.  Running begins with a
promotion, and where that is refused nothing is fetched. -/
def fetching? (controller : Controller T L) (enable go : Bool) : Option (Link T) :=
  if enable = false then none
  else
    match controller.phase with
    | .waitStart =>
        if go = true ∧ controller.link.state = .connected then
          if controller.link.setOperational.value.2.isOk then
            some controller.link.setOperational.value.1
          else none
        else some controller.link
    | .running => some controller.link
    | .idle | .connecting | .teardown | .teardownWait => none

def arrivals (controller : Controller T L) (enable go : Bool) (id : ChannelId) : List Sample :=
  (controller.fetching? enable go).elim [] (·.arrivals id)

/-- What a cycle takes into the image and the shadow, if it fetches events from `source`. -/
structure Intake (controller after : Controller T L) (source : Option (Link T))
    (calls : List Call) : Prop where
  fetches : calls.filter Call.fetches = source.elim [] (·.process.calls)
  image {id : ChannelId} {slot : Slot} (found : controller.slot? id = some slot) :
    after.image.get id =
      .ok ((slot.channel.takenOver? (source.elim [] (·.arrivals id))).getD slot.value.bytes)
  sourced {id : ChannelId} {slot : Slot} (found : controller.slot? id = some slot) :
    ∃ last, after.slot? id = some last ∧
      slot.Sourced (payloadsOn id (framesOf calls))
        (slot.channel.takenOver? (source.elim [] (·.arrivals id))).toList last

theorem Intake.nothing {controller after : Controller T L} {calls : List Call}
    {link : Link T} {phase : Phase} {active : Bool}
    (stands : after.Stands link controller.image controller.shadow phase active)
    (directions : link.channels.map Channel.direction =
      controller.link.channels.map Channel.direction)
    (unfetched : calls.filter Call.fetches = []) : Intake controller after none calls := by
  refine ⟨unfetched, fun {id slot} found => ?_, fun {id slot} found => ?_⟩
  · rw [stands.image_eq, Option.elim_none, Channel.takenOver?_nil]
    exact Image.get_eq (slot?_eq_some.mp found).2.1
  · obtain ⟨owner, value, held⟩ := slot?_eq_some.mp found
    have there : (link.channels.map Channel.direction)[id]? = some slot.channel.direction := by
      rw [directions, List.getElem?_map, owner]
      rfl
    rw [List.getElem?_map] at there
    obtain ⟨channel, beside, direction⟩ := Option.map_eq_some_iff.mp there
    refine ⟨⟨channel, slot.value, slot.held⟩, slot?_eq_some.mpr ?_, .quiet direction rfl⟩
    rw [stands.link_eq, stands.image_eq, stands.shadow_eq]
    exact ⟨beside, value, held⟩

theorem Intake.congr {controller ready last after : Controller T L} {source : Option (Link T)}
    {early late : List Call} (intake : Intake ready last source late)
    (alike : controller.Alike ready) (unfetched : early.filter Call.fetches = [])
    (unsent : Unsent early) (keeps : last.Keeps after) :
    Intake controller after source (early ++ late) := by
  refine ⟨?_, ?_, ?_⟩
  · rw [List.filter_append, unfetched]
    exact intake.fetches
  · intro id slot found
    rw [← alike.slots] at found
    rw [keeps.image_eq]
    exact intake.image found
  · intro id slot found
    rw [← alike.slots] at found
    rw [framesOf_append, unsent.frames,
      slot?_congr (congrArg Link.channels keeps.link_eq) keeps.image_eq keeps.shadow_eq]
    exact intake.sourced found

/-! ## One exchange -/

/-- Sending fetches nothing. -/
theorem Flushing.unfetched {controller after : Controller T L} {ids : List ChannelId}
    {calls : List Call} (flushing : Flushing controller ids after calls) :
    calls.filter Call.fetches = [] := by
  induction flushing with
  | done controller => rfl
  | unchanged same next ih => exact ih
  | waits closed next ih => exact ih
  | failed found changed opened connected answer stands => rfl
  | sent found changed opened connected answer next ih => exact ih

theorem process_fetches (link : Link T) :
    link.process.calls.filter Call.fetches = link.process.calls := by
  cases opened : link.session with
  | none =>
      rw [(Link.process_closed opened).2]
      rfl
  | some session =>
      rw [(Link.process_opened opened rfl).2]
      rfl

structure Copies (slot : Slot) (arrivals : List Sample) (after : Slot) : Prop where
  value : after.value.bytes = (slot.channel.takenOver? arrivals).getD slot.value.bytes
  sourced : slot.Sourced [] (slot.channel.takenOver? arrivals).toList after

namespace Copies

variable {slot received : Slot} {arrivals : List Sample}

theorem of_unread (receives : slot.Receives received)
    (unread : (received.channel.isBuffered || !received.channel.updated) = true)
    (nothing : slot.channel.takenOver? arrivals = none) : Copies slot arrivals received.copied := by
  have kept : received.copied = received := if_pos unread
  rw [kept]
  refine ⟨?_, .quiet receives.direction receives.held⟩
  rw [nothing, receives.value]
  rfl

theorem of_updated (receives : slot.Receives received) {sample : Sample}
    (taken : slot.channel.takenOver? arrivals = some sample.bytes)
    (single : slot.channel.isBuffered = false) (updated : received.channel.updated = true)
    (shows : received.channel.value.bytes = sample.bytes) :
    Copies slot arrivals received.copied := by
  obtain ⟨value, held⟩ := Slot.copied_of_updated (receives.buffered.trans single) updated
  rw [← value] at shows held
  refine ⟨?_, ?_, ?_⟩
  · rw [taken]
    exact shows
  · rw [received.copied_channel]
    exact receives.direction
  · rw [taken]
    rcases held with copied | kept
    · rw [copied]
      exact .inr (.inr (List.mem_singleton.mpr shows))
    · rw [kept, receives.held]
      exact .inl rfl

end Copies

/-- Copying brings the last update of each channel with one slot into the image, and into the shadow
where there is one to keep. -/
theorem process_copies {controller base : Controller T L} (seen : controller.Seen)
    (keeps : Keeps { controller with link := controller.link.process.value.1 } base)
    {id : ChannelId} {slot : Slot} (found : controller.slot? id = some slot) :
    ∃ received, base.slot? id = some received ∧
      Copies slot (controller.link.arrivals id) received.copied := by
  obtain ⟨received, there, receives⟩ := (controller.process_polled.1.keeps keeps).receives found
  refine ⟨received, there, ?_⟩
  cases ring : slot.channel.isBuffered with
  | true =>
      refine .of_unread receives ?_ (if_pos ring)
      rw [receives.buffered, ring]
      rfl
  | false =>
      have bare := Channel.isBuffered_eq_false.mp ring
      have taken : slot.channel.takenOver? (controller.link.arrivals id) =
          (controller.link.arrivals id).getLast?.map Sample.bytes := by
        rw [Channel.takenOver?, ring]
        rfl
      obtain ⟨after, beside, _, updated, bytes⟩ :=
        Link.process_latest (slot?_eq_some.mp found).1 bare (seen id slot found bare)
      have owner := (slot?_eq_some.mp there).1
      rw [keeps.link_eq] at owner
      cases beside.symm.trans owner
      cases last : (controller.link.arrivals id).getLast? with
      | none =>
          have nothing : controller.link.arrivals id = [] := List.getLast?_eq_none_iff.mp last
          have unread : received.channel.updated = false :=
            Bool.eq_false_iff.mpr fun read => updated.mp read nothing
          rw [last] at taken
          refine .of_unread receives ?_ taken
          rw [unread, Bool.not_false, Bool.or_true]
      | some sample =>
          rw [last] at taken bytes
          refine .of_updated receives taken ring (updated.mpr fun nothing => ?_) bytes
          rw [nothing] at last
          cases last

section Exchange

variable [Log.Logger L]

/-- What an exchange takes over stays in the image, and what is sent afterwards goes into the
shadow. -/
theorem exchange_intake {controller : Controller T L} (sound : controller.Sound)
    (seen : controller.Seen) :
    Intake controller controller.exchange.value (some controller.link)
      controller.exchange.calls := by
  obtain ⟨base, sent, calls, keeps, _, flushing, value, requests⟩ := exchange_parts sound
  have baseSound := (controller.process_polled.1.keeps keeps).sound sound
  have copied := copySubscriptions_maps baseSound
  have slots {id : ChannelId} {received : Slot} (there : base.slot? id = some received) :
      base.copySubscriptions.slot? id = some received.copied := by
    rw [copied.slots, there, Option.map_some]
  obtain ⟨_, _, stands⟩ := sent.concluded_stands
  refine ⟨?_, fun {id slot} found => ?_, fun {id slot} found => ?_⟩
  · rw [requests, List.filter_append, flushing.unfetched, List.append_nil]
    exact process_fetches controller.link
  · obtain ⟨received, there, copies⟩ := process_copies seen keeps found
    rw [value, stands.image_eq, flushing.remains.image]
    refine (Image.get_eq (slot?_eq_some.mp (slots there)).2.1).trans ?_
    exact congrArg Except.ok copies.value
  · obtain ⟨received, there, copies⟩ := process_copies seen keeps found
    obtain ⟨last, beside, follows⟩ := flushing.follows
      (copied.sound baseSound fun _ _ _ fine => fine.copied.1) (slots there)
    have whole := copies.sourced.trans (.of_follows follows)
    rw [List.append_nil, List.nil_append] at whole
    refine ⟨last, ?_, ?_⟩
    · rw [value, slot?_congr (congrArg Link.channels stands.link_eq) stands.image_eq
        stands.shadow_eq]
      exact beside
    · rw [requests, framesOf_append, (process_unsent controller.link).frames]
      exact whole

end Exchange

/-! ## One cycle -/

/-- A controller that is ready to exchange values fetches from the link it then has. -/
theorem Ready.fetching {controller ready : Controller T L} {go : Bool} {calls : List Call}
    (prepared : Ready controller go ready calls)
    (busy : controller.phase = .waitStart ∨ controller.phase = .running) :
    controller.fetching? true go = some ready.link ∧ calls.filter Call.fetches = [] := by
  unfold fetching?
  rw [if_neg Bool.false_ne_true.symm]
  cases prepared with
  | halted waits =>
      subst waits
      rcases busy with phase | phase <;> simp [phase, enter]
  | waiting phase started unconnected =>
      have apart : controller.link.state ≠ .connected := by
        intro connected
        rw [connected] at unconnected
        cases unconnected
      simp [phase, apart]
  | promoted phase started connected outcome =>
      obtain ⟨same, granted, _⟩ := controller.link.setOperational_cases.unique outcome
      refine ⟨?_, ?_⟩
      · simp [phase, started, connected, same, granted, Except.isOk, Except.toBool]
      · cases outcome
        rfl
  | operational phase started top => simp [phase, top, enter]
  | running phase started => simp [phase]

section Cycles

variable [Log.Logger L]

theorem Running.intake {controller after : Controller T L} {go : Bool} {calls : List Call}
    (ordered : controller.Ordered)
    (busy : controller.phase = .waitStart ∨ controller.phase = .running)
    (outcome : Running controller go after calls) :
    Intake controller after (controller.fetching? true go) calls := by
  cases outcome with
  | exchanged prepared =>
      obtain ⟨alike, _, unsent⟩ := prepared.alike
      obtain ⟨source, unfetched⟩ := prepared.fetching busy
      rw [source]
      refine (exchange_intake (alike.sound ordered.sound) ?_).congr alike unfetched unsent (.refl _)
      exact fun id slot found => ordered.seen id slot ((alike.slots id).symm.trans found)
  | refused phase started connected outcome stands =>
      obtain ⟨_, refused, _⟩ := controller.link.setOperational_cases.unique outcome
      have source : controller.fetching? true go = none := by
        simp [fetching?, phase, started, connected, refused, Except.isOk, Except.toBool]
      rw [source]
      refine .nothing stands ?_ ?_
      · cases outcome <;> rfl
      · cases outcome <;> rfl

/-- A cycle shows what it takes in, and nothing else. -/
theorem cycle_intake {controller : Controller T L} (ordered : controller.Ordered)
    (enable go : Bool) :
    Intake controller (controller.cycle enable go).value (controller.fetching? enable go)
      (controller.cycle enable go).calls := by
  have outcome := controller.cycle_cases enable go
  generalize (controller.cycle enable go).value = after,
    (controller.cycle enable go).calls = calls at outcome ⊢
  cases outcome with
  | idle phase stands =>
      have source : controller.fetching? enable go = none := by
        simp [fetching?, phase]
      rw [source]
      exact .nothing stands rfl rfl
  | waited enabled phase stands =>
      have source : controller.fetching? enable go = none := by
        simp [fetching?, phase]
      rw [source]
      exact .nothing stands rfl rfl
  | connected enabled phase outcome stands =>
      have source : controller.fetching? enable go = none := by
        simp [fetching?, phase]
      rw [source]
      refine .nothing stands ?_ ?_
      · have prepared := List.map_map (l := controller.link.channels) (f := Channel.prepare)
          (g := Channel.direction)
        cases outcome with
        | refused shut => rfl
        | opened may answer => exact prepared
        | failed may answer => exact prepared
      · cases outcome <;> rfl
  | @ran begun ran _ _ enabled phase begins outcome keeps =>
      have source : controller.fetching? enable go = begun.fetching? true go := by
        rw [fetching?, fetching?, enabled, begins.phase_eq, begins.link_eq]
      rw [source]
      have intake := outcome.intake (ordered.stands begins id) (begins.phase_eq ▸ phase)
      refine intake.congr ?_ List.filter_nil unsent_nil keeps
      exact ⟨congrArg Link.channels begins.link_eq, begins.image_eq, begins.shadow_eq,
        congrArg Link.session begins.link_eq, congrArg Link.state begins.link_eq⟩
  | ended phase due outcome stands =>
      have source : controller.fetching? enable go = none := by
        rcases due with torn | disabled
        · simp [fetching?, torn]
        · simp [fetching?, disabled]
      rw [source]
      refine .nothing stands ?_ ?_
      · cases outcome with
        | refused nothing => rfl
        | closed may => exact List.map_map
      · cases outcome with
        | refused nothing => rfl
        | closed may => cases controller.link.session <;> rfl

end Cycles

end Controller

namespace World

variable {L : Type} [Log.Logger L]

/-- Over every run from a new link, whatever the task and the peer do, a cycle leaves no update
unseen: the image shows the last update that a channel without a ring took in, also if the link was
lost or aborted after it.  Where none was taken in, and for every channel with a ring, it shows what
it showed.  What a cycle takes in is what its requests for events bring. -/
theorem image_shows_every_last_update {instanceName : String} {aliasName : Option String}
    {specs : List ChannelSpec} {link : Link Simulator} (logger : Option L)
    (built : (Link.fresh instanceName aliasName {}).addChannels specs = .ok link)
    (inputs : List Input) (enable go : Bool) :
    let before := ((start link logger).run inputs).value.controller
    let after := (before.cycle enable go).value
    (before.cycle enable go).calls.filter Call.fetches =
        (before.fetching? enable go).elim [] (·.process.calls) ∧
      (∀ id channel, after.link.channel id = .ok channel → channel.isBuffered = false →
        channel.updated = false) ∧
      ∀ id channel, before.link.channel id = .ok channel →
        (channel.isBuffered = false → after.image.get id =
          (before.arrivals enable go id).getLast?.elim (before.image.get id) (.ok ·.bytes)) ∧
        (channel.isBuffered = true → after.image.get id = before.image.get id) := by
  intro before after
  have ordered : before.Ordered :=
    (run_steps (start_ordered logger built).1 inputs).ordered
  have intake := Controller.cycle_intake ordered enable go
  refine ⟨intake.fetches, ?_, ?_⟩
  · intro id channel found single
    have later := (Controller.cycle_cycled ordered enable go).ordered
    obtain ⟨slot, there, rfl, _⟩ := Controller.slot_of_channel later.sound.aligned found
    exact later.seen id slot there (Channel.isBuffered_eq_false.mp single)
  · intro id channel found
    obtain ⟨slot, there, rfl, image, _⟩ :=
      Controller.slot_of_channel ordered.sound.aligned found
    rw [image]
    refine ⟨fun single => ?_, fun ring => ?_⟩
    · rw [intake.image there, Channel.takenOver?, single]
      change Except.ok (((before.arrivals enable go id).getLast?.map Sample.bytes).getD _) = _
      cases (before.arrivals enable go id).getLast? <;> rfl
    · rw [intake.image there, Channel.takenOver?, ring]
      rfl

def listening : Link Simulator :=
  Link.ofBuilt ((Link.fresh "line" none {}).addChannels
    [⟨"mode", .both, 1, none⟩, ⟨"samples", .subscribe, 1, some 3⟩]) rfl

/-- The peer sends on both channels, drops the link, and sends once more. -/
def droppedTalk : List Input :=
  [.cycle true true, .cycle true true, .cycle true true, .cycle true true,
    .peer (.inject (.channelUpdated 0 [5] 0)), .peer (.inject (.channelUpdated 0 [6] 0)),
    .peer (.inject (.channelUpdated 1 [7] 0)), .peer (.inject (.channelUpdated 0 [8, 8] 0)),
    .peer (.inject (.linkStateChanged .disconnected none)),
    .peer (.inject (.channelUpdated 0 [9] 0))]

theorem dropped_link_leaves_its_last_update :
    let before := ((start listening (none : Option Log.Station)).run droppedTalk).value.controller
    let after := (before.cycle true true).value
    (Link.fresh "line" none {}).addChannels
        [⟨"mode", .both, 1, none⟩, ⟨"samples", .subscribe, 1, some 3⟩] = .ok listening ∧
      after.link.state = .disconnected ∧
      before.arrivals true true 0 = [⟨[5], 0⟩, ⟨[6], 0⟩] ∧ after.image.get 0 = .ok [6] ∧
      before.arrivals true true 1 = [⟨[7], 0⟩] ∧ after.image.get 1 = .ok [0] := by
  have built : (Link.fresh "line" none {}).addChannels
      [⟨"mode", .both, 1, none⟩, ⟨"samples", .subscribe, 1, some 3⟩] = .ok listening := rfl
  -- The argument is for any inputs, so that only its premises are evaluated.
  have general (inputs : List Input) :
      let before := ((start listening (none : Option Log.Station)).run inputs).value.controller
      before.arrivals true true 0 = [⟨[5], 0⟩, ⟨[6], 0⟩] →
      before.link.channels[0]?.map Channel.isBuffered = some false →
      before.link.channels[1]?.map Channel.isBuffered = some true →
      before.image.get 1 = .ok [0] →
      (before.cycle true true).value.image.get 0 = .ok [6] ∧
        (before.cycle true true).value.image.get 1 = .ok [0] := by
    intro before arrived first second zero
    obtain ⟨_, _, images⟩ :=
      image_shows_every_last_update (none : Option Log.Station) built inputs true true
    obtain ⟨mode, found, single⟩ := Option.map_eq_some_iff.mp first
    obtain ⟨samples, there, ring⟩ := Option.map_eq_some_iff.mp second
    have shown := (images 0 mode (Link.channel_eq_ok.mpr found)).1 single
    have kept := (images 1 samples (Link.channel_eq_ok.mpr there)).2 ring
    rw [arrived] at shown
    exact ⟨shown, kept.trans zero⟩
  obtain ⟨shown, kept⟩ := general droppedTalk (by decide +kernel) (by decide +kernel)
    (by decide +kernel) (by decide +kernel)
  exact ⟨built, by decide +kernel, by decide +kernel, shown, by decide +kernel, kept⟩

end World

end DatasetSync
