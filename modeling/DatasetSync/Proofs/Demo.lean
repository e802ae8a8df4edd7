import DatasetSync.Demo
import DatasetSync.Proofs.Controller.Lasting
import DatasetSync.Proofs.Controller.Startup
import DatasetSync.Proofs.Controller.Uptake
import DatasetSync.Proofs.Link.Abort

/-!
# The demonstration goes well

The peer of the demonstration is a healthy one: what it sends fits the channel it is sent on, and it
makes nothing fail.  So the controller passes through its stages as with every such peer.  The task
asks only for samples of channels that are buffered, and writes only values that fit, so that it is
never refused either.
-/

namespace DatasetSync

/-- A channel stays where it is, and keeps its ring or the lack of one. -/
theorem Link.Reaches.channel_kept {T : Type} [Transport T] {link after : Link T}
    {past : List (Link.Moment T)} (reached : Link.Reaches link past after) {id : ChannelId}
    {channel : Channel} (found : link.channels[id]? = some channel) :
    ∃ later, after.channels[id]? = some later ∧ later.isBuffered = channel.isBuffered := by
  induction reached with
  | refl => exact ⟨channel, found, rfl⟩
  | @tail past middle before step ih =>
      obtain ⟨later, there, same⟩ := ih
      exact ⟨_, run_channel there step, (step.act_isBuffered middle id later).trans same⟩

namespace Controller

/-! ## What the task asks for is granted -/

section Granted

variable {T L : Type} [Transport T] {controller : Controller T L} {id : ChannelId}
  {channel : Channel}

omit [Transport T] in
/-- A controller in order has a value for each channel of its link. -/
theorem Sound.inside (sound : controller.Sound)
    (found : controller.link.channels[id]? = some channel) : id < controller.image.size := by
  obtain ⟨slot, there, rfl⟩ := sound.aligned.slot found
  obtain ⟨_, value, _⟩ := slot?_eq_some.mp there
  exact (List.getElem?_eq_some_iff.mp value).1

/-- A value that fits can be written. -/
theorem Fitted.setImage (fitted : controller.Fitted) (inside : id < controller.image.size)
    (found : controller.link.channels[id]? = some channel) {payload : List UInt8}
    (fits : payload.length = channel.byteSize) :
    controller.setImage id payload = .ok (controller.written id payload) := by
  obtain ⟨⟨value, there, size⟩, _⟩ := fitted.value inside found
  have written : controller.setImage id payload = _ :=
    congrArg (Except.map _) (Image.set_eq there (fits.trans size.symm))
  rw [Controller.written, written]
  rfl

/-- Whoever asks a buffered channel for a sample is answered, whether there is one or not. -/
theorem Fitted.updateBuffered_answered (fitted : controller.Fitted)
    (inside : id < controller.image.size) (found : controller.link.channels[id]? = some channel)
    (buffered : channel.isBuffered = true) :
    ∃ status, (controller.updateBuffered id true).2 = .ok status := by
  obtain ⟨ring, there⟩ := Option.isSome_iff_exists.mp buffered
  obtain ⟨wellFormed, fits⟩ := fitted.ring found there
  unfold Controller.updateBuffered Link.channel
  simp only [found, buffered, Bool.not_true, Bool.false_eq_true, ↓reduceIte]
  cases front : channel.samples with
  | nil =>
      rw [Channel.pop_empty there wellFormed front]
      exact ⟨_, rfl⟩
  | cons sample rest =>
      rw [Channel.pop_front there wellFormed front]
      have shown := fitted.showSample found (fits sample rest front)
      rw [if_pos inside] at shown
      exact ⟨_, congrArg Prod.snd shown⟩

end Granted

/-- An idle controller has nothing to do that could fail. -/
theorem cycle_idle_errors {T L : Type} [Transport T] [Log.Logger L] {controller : Controller T L}
    (phase : controller.phase = .idle) (enable go : Bool) :
    (controller.cycle enable go).value.errors = (false, controller.lastError) := by
  rw [cycle, Trail.value_bind, processLog_errors]
  simp only [phase, advance, bne_self_eq_false, Bool.and_false, Bool.false_eq_true, ↓reduceIte]
  cases enable <;> rfl

/-! ## A controller that fares well -/

/-- After a number of cycles with a healthy peer a controller is at the stage that belongs to the
number, everything about it is in order, and its sessions are accounted for. -/
structure Fares {L : Type} (table : List Descriptor) (name : String) (count : Nat)
    (controller : Controller Simulator L) : Prop where
  announced : SoundTable table
  inStep : controller.InStep
  fitted : controller.Fitted
  account : ∃ given calls, Link.Ledger given calls controller.link ∧
    Stage table name controller count (askedOf calls)
  settled : controller.link.transport.Settled

variable {L : Type} {table : List Descriptor} {name : String} {count : Nat}
  {controller : Controller Simulator L}

/-- One session was opened as soon as there were two cycles. -/
theorem Stage.opens {calls : List Call}
    (stage : Stage table name controller count (askedOf calls)) :
    calls.countP Call.opens = if 2 ≤ count then 1 else 0 := by
  have same : calls.countP Call.opens = (askedOf calls).countP Call.opens := by
    rw [askedOf, List.countP_filter]
    refine List.countP_congr fun call _ => ?_
    cases call <;> simp [Call.opens, Call.exchanges]
  rw [same]
  generalize askedOf calls = asked at stage
  cases stage with
  | idle tended phase => rfl
  | connecting tended phase => rfl
  | registered tended phase opened level confirmed => rfl
  | connected phase up => rfl
  | running count phase up => exact (if_pos (by omega)).symm

/-- Where the link stands after a number of cycles with a healthy peer. -/
def stateAfter : Nat → ConnectionState
  | 0 | 1 | 2 => .disconnected
  | 3 => .connected
  | _ + 4 => .operational

theorem Stage.state {asked : List Call} (stage : Stage table name controller count asked)
    (ordered : controller.Ordered) : controller.link.state = stateAfter count := by
  cases stage with
  | idle tended phase => exact (ordered.rest (.inl phase)).1
  | connecting tended phase => exact (ordered.rest (.inr (.inl phase))).1
  | registered tended phase opened level confirmed => exact level.top
  | connected phase up => exact up.level.top
  | running count phase up => exact up.level.top

/-- A cycle in which the controller is disabled opens no session. -/
theorem disabled_ledger [Log.Logger L] {given : List Session} {earlier : List Call}
    (ledger : Link.Ledger given earlier controller.link) (go : Bool) :
    Link.Ledger given (earlier ++ (controller.cycle false go).calls)
      (controller.cycle false go).value.link := by
  have outcome := controller.cycle_cases false go
  generalize (controller.cycle false go).value = after,
    (controller.cycle false go).calls = calls at outcome ⊢
  cases outcome with
  | idle phase stands =>
      rw [List.append_nil, stands.link_eq]
      exact ledger
  | waited enabled => cases enabled
  | connected enabled => cases enabled
  | ran enabled => cases enabled
  | ended phase due outcome stands =>
      rw [stands.link_eq]
      exact ledger.disconnect outcome

namespace Fares

theorem state (fares : controller.Fares table name count) :
    controller.link.state = stateAfter count := by
  obtain ⟨given, calls, _, stage⟩ := fares.account
  exact stage.state fares.inStep.ordered

theorem unaborted (fares : controller.Fares table name count) :
    controller.status.aborted = false := by
  change (controller.link.state == .aborted) = false
  rw [fares.state]
  fun_cases stateAfter count <;> rfl

theorem operational (fares : controller.Fares table name count) (enough : 4 ≤ count) :
    controller.status.operational = true := by
  obtain ⟨more, rfl⟩ := Nat.exists_eq_add_of_le' enough
  change (controller.link.state == .operational) = true
  rw [fares.state]
  rfl

theorem errors (fares : controller.Fares table name count) : controller.errors = (false, none) := by
  obtain ⟨given, calls, _, stage⟩ := fares.account
  exact stage.tended.errors

theorem table_eq (fares : controller.Fares table name count) : controller.link.table = table := by
  obtain ⟨given, calls, _, stage⟩ := fares.account
  exact stage.tended.announced

/-- Whatever is logged, the controller fares the same. -/
theorem logged (fares : controller.Fares table name count) (logger : Option L) :
    Fares table name count { controller with logger } := by
  obtain ⟨ordered, coupled, informed⟩ := fares.inStep
  obtain ⟨given, calls, ledger, stage⟩ := fares.account
  refine ⟨fares.announced, ⟨⟨ordered.sound.congr rfl rfl rfl, ordered.seen, ordered.session,
    ordered.rest⟩, coupled.stands ⟨rfl, rfl, rfl, rfl, rfl⟩, informed⟩,
    fares.fitted.evolves ⟨⟨[], .refl⟩, rfl, rfl⟩, ⟨given, calls, ledger, ?_⟩, fares.settled⟩
  exact stage.near (.refl table _) rfl rfl

variable [Log.Logger L]

/-- Only a peer that fetches the registrations takes them off the count. -/
theorem settled_turn (fares : controller.Fares table name count) {input : Input}
    (counted : input ≠ .peer .takeRegistrations) :
    (controller.turn input.turn).link.transport.Settled := by
  cases input with
  | cycle enable go => exact cycle_lasting Simulator.settled_lasting fares.settled enable go
  | setImage id payload =>
      change (controller.written id payload).link.transport.Settled
      rw [written_link]
      exact fares.settled
  | updateBuffered id update =>
      change (controller.updateBuffered id update).1.link.transport.Settled
      rw [updateBuffered_frame]
      exact fares.settled
  | peer action =>
      cases action with
      | takeRegistrations => exact absurd rfl counted
      | _ => exact fares.settled.congr rfl rfl rfl

/-- A cycle leads a controller on, and whatever else happens with a healthy peer leaves it where it
is. -/
theorem turn (fares : controller.Fares table name count) {input : Input}
    (healthy : input.Healthy table) (counted : input ≠ .peer .takeRegistrations) :
    (controller.turn input.turn).Fares table name (count + [input].countP Input.isCycle) := by
  let world : World L := ⟨controller, []⟩
  have same : (world.step input).value.controller = controller.turn input.turn :=
    world.step_controller input
  have ordered : world.controller.Ordered := fares.inStep.ordered
  obtain ⟨given, calls, ledger, stage⟩ := fares.account
  obtain ⟨new, kept⟩ := World.step_ledger ordered ledger input
  have next := World.step_stage stage ordered fares.announced healthy
  rw [same] at kept next
  refine ⟨fares.announced, fares.inStep.turn input.turn,
    fares.fitted.evolves (controller.turn_evolves input.turn), ⟨_, _, kept, ?_⟩,
    fares.settled_turn counted⟩
  rw [askedOf_append]
  exact next

/-- The cycle in which the controller is disabled ends the session there is, and finds no error. -/
theorem disabled (fares : controller.Fares table name count) (go : Bool) :
    let after := (controller.cycle false go).value
    after.link.AtRest ∧ after.errors = (false, none) ∧
      after.link.transport.registrations.length = (if 2 ≤ count then 1 else 0) ∧
      after.link.transport.deregistrations = if 2 ≤ count then 1 else 0 := by
  intro after
  have rest : after.link.AtRest :=
    ((fares.inStep.turn (.cycle false go)).coupled.resting (.inl (controller.cycle_disabled go))).1
  have settled : after.link.transport.Settled :=
    cycle_lasting Simulator.settled_lasting fares.settled false go
  have known : controller.lastError = none := congrArg Prod.snd fares.errors
  have errors : after.errors = (false, none) := by
    rw [← known]
    by_cases idle : controller.phase = .idle
    · exact cycle_idle_errors idle false go
    · exact cycle_teardown_errors (.inr ⟨rfl, idle⟩) go
  obtain ⟨given, earlier, ledger, stage⟩ := fares.account
  have closing : Link.Ledger given _ after.link := disabled_ledger ledger go
  have opened : given.length = if 2 ≤ count then 1 else 0 := ledger.granted.symm.trans stage.opens
  -- Without a session, both counts are the number of sessions that were ever given out.
  have balance := closing.balance
  rw [rest.session, opened] at balance
  rw [Simulator.Settled, closing.agrees, rest.session] at settled
  exact ⟨rest, errors, settled.trans balance.symm, balance.symm⟩

end Fares

end Controller

/-! ## What the peer sends -/

namespace Demo

open Controller (Fares)

variable {table : List Descriptor} {name : String} {count : Nat} {demo : Demo}

theorem length_counterBytes (value size : Nat) : (counterBytes value size).length = size := by
  simp [counterBytes]

/-- Nobody is fed but who can receive. -/
theorem canSubscribe_of_feedCount {number offset : Nat} {channel : Channel}
    (fed : offset < feedCount number channel) : channel.direction.canSubscribe = true := by
  cases wanted : channel.direction.canSubscribe with
  | true => rfl
  | false => simp [feedCount, wanted] at fed

def visited (controller : Controller Simulator Log.Station) (sim : Simulator) :
    Controller Simulator Log.Station :=
  { controller with link := { controller.link with transport := sim } }

section Feeding

variable {controller : Controller Simulator Log.Station} {sim : Simulator}

/-- Values of the size that was announced do no harm. -/
theorem fares_feedChannel (fares : (visited controller sim).Fares table name count) (number : Nat)
    {channel : Channel} (announced : channel.descriptor ∈ table) :
    (visited controller (feedChannel number sim channel)).Fares table name count := by
  obtain ⟨place, found⟩ := List.mem_iff_getElem?.mp announced
  have own : channel.id = place := fares.announced.place found
  rw [← own] at found
  unfold feedChannel
  have within : ∀ offset ∈ List.range (feedCount number channel),
      offset < feedCount number channel := fun _ => List.mem_range.mp
  generalize List.range (feedCount number channel) = offsets at within
  induction offsets generalizing sim with
  | nil => exact fares
  | cons offset rest ih =>
      rw [List.forall_mem_cons] at within
      refine ih ?_ within.2
      have harmless : Input.Healthy table (.peer (.inject (.channelUpdated channel.id
          (counterBytes (number + offset) channel.byteSize) (sim.clock - valueAge)))) :=
        ⟨⟨channel.descriptor, found, length_counterBytes _ _,
          canSubscribe_of_feedCount within.1⟩, rfl⟩
      exact fares.turn harmless nofun

theorem fares_feedAll (fares : (visited controller sim).Fares table name count) (number : Nat)
    {channels : List Channel} (announced : ∀ channel ∈ channels, channel.descriptor ∈ table) :
    (visited controller (channels.foldl (feedChannel number) sim)).Fares table name count := by
  induction channels generalizing sim with
  | nil => exact fares
  | cons channel rest ih =>
      rw [List.forall_mem_cons] at announced
      exact ih (fares_feedChannel fares number announced.1) announced.2

end Feeding

/-- What the peer does in a cycle does no harm. -/
theorem fares_feed (fares : demo.controller.Fares table name count) (number : Nat) :
    (demo.feed number).controller.Fares table name count := by
  have announced : ∀ channel ∈ demo.controller.link.channels, channel.descriptor ∈ table := by
    intro channel inside
    rw [← fares.table_eq]
    exact List.mem_map_of_mem inside
  let clock := demo.controller.link.transport.clock + cycleStep
  have onwards : Input.Healthy table (.peer (.setClock clock)) := trivial
  have begun : (visited demo.controller
      { demo.controller.link.transport with clock }).Fares table name count :=
    fares.turn onwards nofun
  exact fares_feedAll begun number announced

/-! ## What the task does -/

/-- What is done with one channel is granted, if the channel has not changed its kind since the
cycle. -/
theorem serveChannel_granted {channel later : Channel} (number : Nat)
    (fares : demo.controller.Fares table name count)
    (found : demo.controller.link.channels[channel.id]? = some later)
    (kind : later.isBuffered = channel.isBuffered) (size : later.byteSize = channel.byteSize) :
    ∃ after, (demo.serveChannel number channel).value = .ok after ∧
      after.controller.Fares table name count ∧
      demo.controller.Evolves after.controller := by
  have inside := fares.inStep.ordered.sound.inside found
  unfold serveChannel
  split
  · rename_i buffered
    obtain ⟨status, answer⟩ :=
      fares.fitted.updateBuffered_answered inside found (kind.trans buffered)
    have taken : Input.Healthy table (.updateBuffered channel.id true) := trivial
    refine ⟨⟨(demo.controller.updateBuffered channel.id true).1⟩, ?_, fares.turn taken nofun,
      demo.controller.updateBuffered_evolves channel.id true⟩
    unfold takeSample
    rcases outcome : demo.controller.updateBuffered channel.id true with ⟨controller, result⟩
    rw [outcome] at answer
    cases answer
    dsimp only
    split <;> rfl
  · split
    · have fits : (counterBytes (number / 50) channel.byteSize).length = later.byteSize :=
        (length_counterBytes _ _).trans size.symm
      have written : Input.Healthy table
        (.setImage channel.id (counterBytes (number / 50) channel.byteSize)) := trivial
      refine ⟨⟨demo.controller.written channel.id _⟩, ?_, fares.turn written nofun,
        demo.controller.written_evolves channel.id _⟩
      rw [Trail.value_pure, fares.fitted.setImage inside found fits]
      rfl
    · exact ⟨demo, rfl, fares, .refl _⟩

/-- The task serves the channels as they were after the cycle. -/
theorem serveChannels_granted {base : Controller Simulator Log.Station} (number : Nat)
    (sound : SoundTable table) (announced : base.link.table = table) {channels : List Channel}
    (known : ∀ channel ∈ channels, channel ∈ base.link.channels)
    (evolves : base.Evolves demo.controller) (fares : demo.controller.Fares table name count) :
    ∃ after, (demo.serveChannels number channels).value = .ok after ∧
      after.controller.Fares table name count := by
  induction channels generalizing demo with
  | nil => exact ⟨demo, rfl, fares⟩
  | cons channel rest ih =>
      rw [List.forall_mem_cons] at known
      obtain ⟨place, there⟩ := List.mem_iff_getElem?.mp known.1
      have listed : table[place]? = some channel.descriptor :=
        announced ▸ Link.table_eq_some there
      have own : channel.id = place := sound.place listed
      rw [← own] at there listed
      -- Serving the channels before this one left it where it was, with the ring it had.
      obtain ⟨past, reached⟩ := evolves.link
      obtain ⟨later, found, kind⟩ := reached.channel_kept there
      have same : channel.descriptor = later.descriptor :=
        Option.some.inj (listed.symm.trans (fares.table_eq ▸ Link.table_eq_some found))
      obtain ⟨middle, served, well, further⟩ := serveChannel_granted number fares found kind
        (congrArg Descriptor.byteSize same).symm
      obtain ⟨after, all, last⟩ := ih known.2 (evolves.trans further) well
      refine ⟨after, ?_, last⟩
      rw [serveChannels, Trail.value_bind, served]
      exact all

/-! ## The cycles -/

theorem fares_atTime (fares : demo.controller.Fares table name count) (now : Timestamp) :
    (demo.atTime now).controller.Fares table name count :=
  fares.logged _

theorem fares_serveLog (fares : demo.controller.Fares table name count) :
    demo.serveLog.value.controller.Fares table name count := by
  unfold serveLog
  split
  · exact fares
  · exact fares.logged _

/-- The controller after the next cycle, before the task has done anything. -/
def cycled (demo : Demo) (number : Nat) (now : Timestamp) : Controller Simulator Log.Station :=
  (((demo.atTime now).feed number).controller.cycle true true).value

theorem fares_cycled (fares : demo.controller.Fares table name count) (number : Nat)
    (now : Timestamp) : (demo.cycled number now).Fares table name (count + 1) := by
  have fed := fares_feed (fares_atTime fares now) number
  have started : Input.Healthy table (.cycle true true) := ⟨rfl, rfl⟩
  exact fed.turn started nofun

/-- No cycle fails, and each leads the controller on. -/
theorem fares_cycle (fares : demo.controller.Fares table name count) (number : Nat)
    (now : Timestamp) :
    ∃ after, (demo.cycle number now).value = .ok after ∧
      after.controller.Fares table name (count + 1) := by
  have well := fares_cycled fares number now
  have evolves : (demo.cycled number now).Evolves (⟨demo.cycled number now⟩ : Demo).controller :=
    .refl _
  obtain ⟨served, answer, kept⟩ := serveChannels_granted number fares.announced well.table_eq
    (fun _ inside => inside) evolves well
  refine ⟨served.serveLog.value, ?_, fares_serveLog kept⟩
  have standing := well.unaborted
  unfold cycled at answer standing
  rw [cycle]
  simp only [Trail.value_bind, Trail.value_select, answer, standing, Bool.false_eq_true,
    ↓reduceIte]
  rfl

/-- The demonstration after cycles at given times, the first of them with a given number. -/
def run (demo : Demo) (number : Nat) : List Timestamp → Except Error Demo
  | [] => .ok demo
  | now :: later => do
      let demo ← (demo.cycle number now).value
      demo.run (number + 1) later

theorem fares_run (fares : demo.controller.Fares table name count) (number : Nat)
    (times : List Timestamp) :
    ∃ last, demo.run number times = .ok last ∧
      last.controller.Fares table name (count + times.length) := by
  induction times generalizing demo number count with
  | nil => exact ⟨demo, rfl, fares⟩
  | cons now later ih =>
      obtain ⟨middle, answer, well⟩ := fares_cycle fares number now
      obtain ⟨last, answers, kept⟩ := ih well (number + 1)
      refine ⟨last, ?_, ?_⟩
      · rw [run, answer]
        exact answers
      · rw [List.length_cons, Nat.add_comm later.length, ← Nat.add_assoc]
        exact kept

/-! ## The beginning and the end -/

/-- A controller over a configured link fares well from the beginning. -/
theorem fares_new {config : LinkConfig} {link : Link Simulator}
    (built : Link.ofConfig config (default : Simulator) = .ok link) (station : Log.Station) :
    (Controller.new link (some station)).Fares link.table config.instanceName 0 := by
  have added : (Link.fresh config.instanceName config.aliasName {}).addChannels
      (config.channels.map ChannelConfig.spec) = .ok link := by
    unfold Link.ofConfig at built
    cases checked : config.validate with
    | error error =>
        rw [checked] at built
        cases built
    | ok done =>
        rw [checked] at built
        exact built
  obtain ⟨_, reached⟩ := Link.Reaches.refl.addChannels added
  obtain ⟨_, same⟩ := Link.addChannels_made added fun _ _ found => by cases found
  have transport : link.transport = {} := by
    rw [same]
    rfl
  have closed : link.session = none := by
    rw [same]
    rfl
  refine ⟨reached.soundTable SoundTable.nil, Controller.new_inStep _ added,
    Controller.Fitted.new (.configured built) [] _, ⟨[], [], ?_, ?_⟩, ?_⟩
  · exact (Link.fresh_ledger config.instanceName config.aliasName).same transport closed
  · exact World.start_stage (some station) added
  · change link.transport.Settled
    rw [transport]
    rfl

/-- Every cycle so far went well, the next one will, and so will the end. -/
structure Thrives (demo : Demo) (cycles : Nat) : Prop where
  unaborted : demo.controller.link.state ≠ .aborted
  faultless : demo.controller.status.error = false
  operational (enough : 4 ≤ cycles) : demo.controller.link.state = .operational
  /-- What the controller reports in the next cycle. -/
  reports (now : Timestamp) : (demo.cycled cycles now).status.error = false ∧
    (demo.cycled cycles now).status.aborted = false ∧
    (4 ≤ cycles + 1 → (demo.cycled cycles now).status.operational = true)
  ends : demo.finish.value.controller.link.state = .disconnected ∧
    demo.finish.value.controller.status.error = false
  balance : demo.finish.value.controller.link.transport.registrations.length =
      (if 2 ≤ cycles then 1 else 0) ∧
    demo.finish.value.controller.link.transport.deregistrations = if 2 ≤ cycles then 1 else 0

theorem thrives_of_fares (fares : demo.controller.Fares table name count) : demo.Thrives count := by
  obtain ⟨rest, errors, registrations, deregistrations⟩ := fares.disabled false
  refine ⟨fun aborted => ?_, congrArg Prod.fst fares.errors, fun enough => ?_, fun now => ?_,
    ⟨rest.state, congrArg Prod.fst errors⟩, registrations, deregistrations⟩
  · have standing := fares.unaborted
    rw [Controller.status, aborted] at standing
    cases standing
  · exact eq_of_beq (fares.operational enough)
  · have well := fares_cycled fares count now
    exact ⟨congrArg Prod.fst well.errors, well.unaborted, well.operational⟩

section Built

variable {config : LinkConfig} {link : Link Simulator}
  (built : Link.ofConfig config (default : Simulator) = .ok link) (station : Log.Station)

include built

theorem start_built : start config station = .ok ⟨Controller.new link (some station)⟩ := by
  rw [start, built]
  rfl

theorem thrives_run (times : List Timestamp) :
    ∃ last, run ⟨Controller.new link (some station)⟩ 0 times = .ok last ∧
      last.Thrives times.length := by
  obtain ⟨last, answer, fares⟩ := fares_run (fares_new built station) 0 times
  rw [Nat.zero_add] at fares
  exact ⟨last, answer, thrives_of_fares fares⟩

end Built

end Demo

end DatasetSync
