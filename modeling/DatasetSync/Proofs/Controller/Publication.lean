import DatasetSync.Proofs.Controller.Provenance

/-!
# Values are published when they change, and only then

The shadow of a controller stands for what the peer last had of each channel.  This is what it means
over whole runs, through failures, aborts and any number of sessions.
-/

namespace DatasetSync

namespace Controller

variable {T L : Type}

/-- The shadow holds the value of every channel that can publish and has no ring. -/
def Mirrors (controller : Controller T L) : Prop :=
  ∀ id channel, controller.link.channel id = .ok channel → channel.isBuffered = false →
    channel.direction.canPublish = true → controller.shadow.get id = .ok channel.value.bytes

/-- Everything that may be sent now is what the shadow holds. -/
def UpToDate (controller : Controller T L) : Prop :=
  ∀ id channel, controller.link.channel id = .ok channel → channel.direction.canPublish = true →
    channel.state.isConnected = true →
    ∃ value, controller.image.get id = .ok value ∧ controller.shadow.get id = .ok value

theorem Ordered.mirrors {controller : Controller T L} (ordered : controller.Ordered) :
    controller.Mirrors := by
  intro id channel found unbuffered publishable
  obtain ⟨slot, there, rfl, _, shadow⟩ := slot_of_channel ordered.sound.aligned found
  have single : slot.channel.buffer = none :=
    Option.isNone_iff_eq_none.mp (Option.isSome_eq_false_iff.mp unbuffered)
  have seen := ordered.seen id slot there single
  rw [shadow, (ordered.sound.slots there).shown single publishable seen]

theorem Cycled.upToDate {controller after : Controller T L} {calls : List Call}
    (cycled : Cycled controller after calls) (connected : after.link.state.isConnected = true) :
    after.UpToDate := by
  intro id channel found publishable up
  obtain ⟨slot, there, rfl, image, shadow⟩ := slot_of_channel cycled.ordered.sound.aligned found
  have same : slot.value = slot.held := by
    by_contra differs
    exact cycled.settled connected there ⟨publishable, up, differs⟩
  refine ⟨slot.value.bytes, image, ?_⟩
  rw [shadow, same]

end Controller

namespace World

variable {L : Type}

/-- A payload is in the image, and both the link and the channel are connected. -/
structure Shows (world : World L) (id : ChannelId) (payload : List UInt8) : Prop where
  link : world.controller.link.state.isConnected = true
  channel : ∃ channel, world.controller.link.channel id = .ok channel ∧
    channel.state.isConnected = true
  image : world.controller.image.get id = .ok payload

theorem mem_payloadsOn {id : ChannelId} {payload : List UInt8} {frames : List Frame}
    (inside : payload ∈ payloadsOn id frames) :
    ∃ frame ∈ frames, frame.channel = id ∧ frame.payload = payload := by
  obtain ⟨frame, there, same⟩ := List.mem_map.mp inside
  obtain ⟨member, channel⟩ := List.mem_filter.mp there
  exact ⟨frame, member, eq_of_beq channel, same⟩

def Numbered (world : World L) : Prop :=
  ∀ session, world.controller.link.session = some session →
    session < world.controller.link.transport.nextSession

theorem Numbered.steps {world after : World L} {calls : List Call} (numbered : world.Numbered)
    (steps : world.Steps after calls) : after.Numbered := by
  intro session opened
  rcases steps.succeeds.session opened with ⟨same, _⟩ | ⟨_, below⟩
  · exact Nat.lt_of_lt_of_le (numbered session same) steps.succeeds.next_le
  · exact below

section Runs

variable [Log.Logger L]

/-! ## What goes out on one channel -/

/-- On a channel that only publishes, every payload differs from the one before, and the first one
has a byte that is not zero. -/
theorem payloads_change {link : Link Simulator} {logger : Option L}
    (ordered : (start link logger).controller.Ordered) (unsent : (start link logger).frames = [])
    (inputs : List Input) {id : ChannelId} {channel : Channel}
    (found : link.channel id = .ok channel) (deaf : channel.direction.canSubscribe = false) :
    let payloads := payloadsOn id ((start link logger).run inputs).value.frames
    payloads.IsChain (· ≠ ·) ∧ ∀ first, payloads.head? = some first → ∃ byte ∈ first, byte ≠ 0 := by
  intro payloads
  have sent : payloads = payloadsOn id (framesOf ((start link logger).run inputs).calls) := by
    change payloadsOn id (World.frames _) = _
    rw [(run_steps ordered inputs).frames, unsent]
    rfl
  obtain ⟨slot, there, rfl, _⟩ := Controller.slot_of_channel ordered.sound.aligned found
  obtain ⟨last, _, follows⟩ := run_follows ordered inputs there deaf
  have fits := follows.fits
  have chain := follows.changes.isChain
  rw [← sent] at fits chain
  refine ⟨chain.of_cons, fun first head => ?_⟩
  obtain ⟨rest, shape⟩ := List.head?_eq_some_iff.mp head
  rw [shape] at fits chain
  have zeros := (Controller.slot?_new link logger id).symm.trans there
  obtain ⟨owner, _, rfl⟩ := Option.map_eq_some_iff.mp zeros
  by_contra zero
  push Not at zero
  refine (List.isChain_cons_cons.mp chain).1 (List.eq_replicate_iff.mpr ⟨?_, zero⟩).symm
  exact fits first List.mem_cons_self

/-! ## What could not be sent -/

/-- What the image shows at the end of a cycle is in the shadow, so the peer has it. -/
theorem Shows.held {world : World L} (ordered : world.controller.Ordered) {enable go : Bool}
    {id : ChannelId} {payload : List UInt8} {slot : Slot}
    (shows : (world.step (.cycle enable go)).value.Shows id payload)
    (found : (world.step (.cycle enable go)).value.controller.slot? id = some slot)
    (publishable : slot.channel.direction.canPublish = true) : slot.held.bytes = payload := by
  have cycled := Controller.cycle_cycled ordered enable go
  obtain ⟨channel, owner, up⟩ := shows.channel
  obtain ⟨other, there, rfl, image, shadow⟩ :=
    Controller.slot_of_channel cycled.ordered.sound.aligned owner
  cases found.symm.trans there
  obtain ⟨value, shown, held⟩ := cycled.upToDate shows.link id _ owner publishable up
  cases shows.image.symm.trans shown
  cases shadow.symm.trans held
  rfl

/-- The session in which a value could not be sent is over. -/
theorem over_of_refused {world : World L} (ordered : world.controller.Ordered)
    (numbered : world.Numbered) {enable go : Bool} {session : Session} {id : ChannelId}
    {payload : List UInt8}
    (refused : Call.send session id payload false ∈ (world.step (.cycle enable go)).calls) :
    (world.step (.cycle enable go)).value.Over session ∧
      ∃ slot, (world.step (.cycle enable go)).value.controller.slot? id = some slot ∧
        slot.channel.direction.canPublish = true ∧ slot.held.bytes ≠ payload := by
  have numbered := numbered.steps (step_steps ordered (.cycle enable go))
  rw [step, Trail.calls_bind, Trail.calls_pure, List.append_nil] at refused
  obtain ⟨aborted, opened, slot, found, rfl, changed⟩ :=
    (Controller.cycle_cycled ordered enable go).refused refused
  refine ⟨⟨numbered session opened, fun _ => .inr aborted⟩, slot, found, changed.publishable, ?_⟩
  exact fun same => changed.differs (congrArg Dataset.mk same.symm)

/-- A value that the shadow lacks and the image shows at the end of some cycle was sent before, and
not in a session that was over, or it was taken over from the peer. -/
theorem sourced_when_shown {world : World L} (ordered : world.controller.Ordered)
    {session : Session} (finished : world.Over session) {id : ChannelId} {slot : Slot}
    {payload : List UInt8} (found : world.controller.slot? id = some slot)
    (publishable : slot.channel.direction.canPublish = true) (unsent : slot.held.bytes ≠ payload)
    {inputs : List Input} {enable go : Bool}
    (shows : (world.run (inputs ++ [.cycle enable go])).value.Shows id payload) :
    (∃ frame ∈ framesOf (world.run (inputs ++ [.cycle enable go])).calls,
      frame.channel = id ∧ frame.payload = payload ∧ session < frame.session) ∨
    slot.channel.direction = .both ∧
      payload ∈ world.takenOver id (inputs ++ [.cycle enable go]) := by
  -- At the end of a cycle the shadow has what the image shows.
  have held {last : Slot}
      (there : (world.run (inputs ++ [.cycle enable go])).value.controller.slot? id = some last)
      (direction : last.channel.direction = slot.channel.direction) :
      last.held.bytes = payload := by
    rw [← direction] at publishable
    rw [(run_append world inputs _).1] at shows there
    exact Shows.held (run_steps ordered inputs).ordered shows there publishable
  have sent (inside : payload ∈
      payloadsOn id (framesOf (world.run (inputs ++ [.cycle enable go])).calls)) :
      ∃ frame ∈ framesOf (world.run (inputs ++ [.cycle enable go])).calls,
        frame.channel = id ∧ frame.payload = payload ∧ session < frame.session := by
    obtain ⟨frame, among, channel, same⟩ := mem_payloadsOn inside
    exact ⟨frame, among, channel, same, finished.run_frames ordered among⟩
  cases hears : slot.channel.direction.canSubscribe with
  | false =>
      obtain ⟨last, there, follows⟩ :=
        run_follows ordered (inputs ++ [.cycle enable go]) found hears
      have changes := follows.changes
      rw [held there follows.direction] at changes
      exact .inl (sent (changes.last_mem unsent))
  | true =>
      obtain ⟨last, there, sourced⟩ := run_sourced ordered (inputs ++ [.cycle enable go]) found
      have both : slot.channel.direction = .both := by
        cases direction : slot.channel.direction with
        | both => rfl
        | publish =>
            rw [direction] at hears
            cases hears
        | subscribe =>
            rw [direction] at publishable
            cases publishable
      have source := sourced.held
      rw [held there sourced.direction] at source
      rcases source with same | inside | inside
      · exact (unsent same.symm).elim
      · exact .inl (sent inside)
      · exact .inr ⟨both, inside⟩

/-! ## Whole runs -/

/-- Over every run from a new link, whatever the task and the peer do: at the end of a cycle the
shadow holds the value of each channel it mirrors, and with a link that is connected all that may be
sent has been sent; a channel that only publishes never sends one payload twice in a row, nor zeros
first; and a value that could not be sent goes out in a later session if the image then shows it,
unless the channel is open both ways and has taken this very value over from the peer, who has sent
it. -/
theorem publishes_exactly_what_changed (instanceName : String) (aliasName : Option String)
    (specs : List ChannelSpec) (logger : Option L) {link : Link Simulator}
    (built : (Link.fresh instanceName aliasName {}).addChannels specs = .ok link)
    (inputs : List Input) :
    let world := ((start link logger).run inputs).value
    (∀ enable go, let after := (world.step (.cycle enable go)).value.controller
      after.Mirrors ∧ (after.link.state.isConnected = true → after.UpToDate)) ∧
    (∀ id channel, link.channel id = .ok channel → channel.direction = .publish →
      (payloadsOn id world.frames).IsChain (· ≠ ·) ∧
        ∀ first, (payloadsOn id world.frames).head? = some first → ∃ byte ∈ first, byte ≠ 0) ∧
    ∀ enable go session id payload,
      .send session id payload false ∈ (world.step (.cycle enable go)).calls →
      let failed := (world.step (.cycle enable go)).value
      ∀ channel later enable go, failed.controller.link.channel id = .ok channel →
        let resumed := failed.run (later ++ [.cycle enable go])
        resumed.value.Shows id payload →
        (∃ frame ∈ resumed.value.frames.drop failed.frames.length,
          frame.channel = id ∧ frame.payload = payload ∧ session < frame.session) ∨
        channel.direction = .both ∧
          payload ∈ failed.takenOver id (later ++ [.cycle enable go]) ∧
          ∃ sent, .peer (.inject (.channelUpdated id payload sent)) ∈ inputs ++ later := by
  obtain ⟨fresh, closed, unsent⟩ := start_ordered logger built
  have steps := run_steps fresh inputs
  have ordered := steps.ordered
  intro world
  refine ⟨fun enable go => ?_, fun id channel found only => ?_, ?_⟩
  · have cycled := Controller.cycle_cycled ordered enable go
    exact ⟨cycled.ordered.mirrors, cycled.upToDate⟩
  · have deaf : channel.direction.canSubscribe = false := by
      rw [only]
      rfl
    exact payloads_change fresh unsent inputs found deaf
  · intro enable go session id payload refused failed channel later enable' go' owner resumed shows
    have numbered : (start link logger).Numbered := by
      intro current opened
      cases closed.symm.trans opened
    obtain ⟨finished, slot, found, publishable, lacking⟩ :=
      over_of_refused ordered (numbered.steps steps) refused
    have still := (step_steps ordered (.cycle enable go)).ordered
    obtain ⟨other, there, rfl, _⟩ := Controller.slot_of_channel still.sound.aligned owner
    cases found.symm.trans there
    refine (sourced_when_shown still finished found publishable lacking shows).imp ?_ ?_
    · rintro ⟨frame, inside, sent⟩
      refine ⟨frame, ?_, sent⟩
      rw [(run_steps still _).frames, List.drop_left]
      exact inside
    · rintro ⟨both, taken⟩
      have within : payload ∈
          ((start link logger).run (inputs ++ [.cycle enable go])).value.takenOver id
            (later ++ [.cycle enable' go']) := by
        rw [(run_append (start link logger) inputs [.cycle enable go]).1]
        exact taken
      obtain ⟨sent, inside⟩ := sent_by_peer logger built within
      exact ⟨both, taken, sent, by simpa using inside⟩

end Runs

def oneWay : Link Simulator :=
  Link.ofBuilt ((Link.fresh "line" none {}).addChannels [⟨"setpoint", .publish, 1, none⟩]) rfl

/-- The first session sends one value, and the next one is going to fail. -/
def untilFailure : List Input :=
  [.cycle true true, .setImage 0 [3], .cycle true true, .cycle true true, .cycle true true,
    .setImage 0 [5], .peer (.failSend ⟨.systemSocket, "line down"⟩)]

theorem second_session_sends_the_refused_value :
    let world := ((start oneWay (none : Option Log.Station)).run untilFailure).value
    let failed := (world.step (.cycle true true)).value
    let reopening : List Input :=
      [.cycle true true, .cycle false true, .cycle true true, .cycle true true]
    let resumed := failed.run (reopening ++ [.cycle true true])
    (Link.fresh "line" none {}).addChannels [⟨"setpoint", .publish, 1, none⟩] = .ok oneWay ∧
      .send 1 0 [5] false ∈ (world.step (.cycle true true)).calls ∧
      failed.frames = [⟨1, 0, [3]⟩] ∧ resumed.value.Shows 0 [5] ∧
      ∃ frame ∈ resumed.value.frames.drop failed.frames.length,
        frame.channel = 0 ∧ frame.payload = [5] ∧ 1 < frame.session := by
  intro world failed reopening resumed
  have built : (Link.fresh "line" none {}).addChannels [⟨"setpoint", .publish, 1, none⟩] =
      .ok oneWay := rfl
  have refused : .send 1 0 [5] false ∈ (world.step (.cycle true true)).calls := by decide +kernel
  have before : failed.controller.link.channels[0]?.map (·.direction) = some .publish := by
    decide +kernel
  have after : resumed.value.controller.link.channels[0]?.map (·.state.isConnected) =
      some true := by
    decide +kernel
  obtain ⟨channel, owner, only⟩ := Option.map_eq_some_iff.mp before
  obtain ⟨last, there, up⟩ := Option.map_eq_some_iff.mp after
  have shows : resumed.value.Shows 0 [5] :=
    ⟨by decide +kernel, ⟨last, Link.channel_eq_ok.mpr there, up⟩, by decide +kernel⟩
  have apart : channel.direction ≠ .both := by
    rw [only]
    exact nofun
  obtain ⟨_, _, again⟩ := publishes_exactly_what_changed "line" none _
    (none : Option Log.Station) built untilFailure
  exact ⟨built, refused, by decide +kernel, shows,
    (again true true 1 0 [5] refused channel reopening true true (Link.channel_eq_ok.mpr owner)
      shows).resolve_right fun taken => apart taken.1⟩

def bothWays : Link Simulator :=
  Link.ofBuilt ((Link.fresh "line" none {}).addChannels [⟨"mode", .both, 1, none⟩]) rfl

/-- The first session fails to send a value, and the peer sends the same one in the next. -/
theorem value_of_the_peer_is_not_sent_back :
    let opening : List Input :=
      [.cycle true true, .cycle true true, .cycle true true, .cycle true true, .setImage 0 [5],
        .peer (.failSend ⟨.systemSocket, "line down"⟩)]
    let world := ((start bothWays (none : Option Log.Station)).run opening).value
    let failed := (world.step (.cycle true true)).value
    let later : List Input :=
      [.cycle true true, .cycle false true, .cycle true true, .cycle true true,
        .peer (.inject (.channelUpdated 0 [5] 0))]
    let resumed := failed.run (later ++ [.cycle true true])
    (Link.fresh "line" none {}).addChannels [⟨"mode", .both, 1, none⟩] = .ok bothWays ∧
      .send 1 0 [5] false ∈ (world.step (.cycle true true)).calls ∧
      failed.controller.image.get 0 = .ok [5] ∧ resumed.value.Shows 0 [5] ∧
      ¬ ∃ frame ∈ resumed.value.frames.drop failed.frames.length,
        frame.channel = 0 ∧ frame.payload = [5] ∧ 1 < frame.session := by
  intro opening world failed later resumed
  have after : resumed.value.controller.link.channels[0]?.map (·.state.isConnected) =
      some true := by
    decide +kernel
  obtain ⟨last, there, up⟩ := Option.map_eq_some_iff.mp after
  have shows : resumed.value.Shows 0 [5] :=
    ⟨by decide +kernel, ⟨last, Link.channel_eq_ok.mpr there, up⟩, by decide +kernel⟩
  exact ⟨rfl, by decide +kernel, by decide +kernel, shows, by decide +kernel⟩

end World

end DatasetSync
