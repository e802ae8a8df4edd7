import DatasetSync.Proofs.Controller.Attempts
import DatasetSync.Proofs.Controller.Health

/-!
# Coming up and staying up

With a healthy peer a controller that is told to start comes up in four cycles and stays up.  Each
of these cycles leads from one stage to the next, and whatever the task and the peer do in between
leaves the stage as it is.
-/

namespace DatasetSync

/-- What was asked for besides the exchange of values. -/
def askedOf (calls : List Call) : List Call :=
  calls.filter fun call => !call.exchanges

theorem askedOf_append (early late : List Call) :
    askedOf (early ++ late) = askedOf early ++ askedOf late :=
  List.filter_append ..

theorem askedOf_exchange {calls : List Call} (exchanges : ∀ call ∈ calls, call.exchanges = true) :
    askedOf calls = [] := by
  refine List.filter_eq_nil_iff.mpr fun call inside => ?_
  rw [exchanges call inside]
  exact Bool.false_ne_true

/-! ## Stages -/

namespace Controller

variable {L : Type}

/-- How far a controller has come after a number of cycles, and what it has asked for so far. -/
inductive Stage (table : List Descriptor) (name : String) (controller : Controller Simulator L) :
    Nat → List Call → Prop where
  | idle (tended : controller.Tended table name) (phase : controller.phase = .idle) :
      Stage table name controller 0 []
  | connecting (tended : controller.Tended table name) (phase : controller.phase = .connecting) :
      Stage table name controller 1 []
  | registered {session : Session} (tended : controller.Tended table name)
      (phase : controller.phase = .waitStart) (opened : controller.link.session = some session)
      (level : controller.link.Level .disconnected)
      (confirmed : controller.link.transport.acknowledgements = Simulator.registered table) :
      Stage table name controller 2 [.register name true]
  | connected {session : Session} (phase : controller.phase = .waitStart)
      (up : controller.Up table name session .connected) :
      Stage table name controller 3 [.register name true]
  | running {session : Session} (count : Nat) (phase : controller.phase = .running)
      (up : controller.Up table name session .operational) :
      Stage table name controller (count + 4) [.register name true, .promote session true]

variable {table : List Descriptor} {name : String}
  {controller after : Controller Simulator L} {count : Nat} {asked : List Call}

theorem Stage.tended (stage : Stage table name controller count asked) :
    controller.Tended table name := by
  cases stage with
  | idle tended phase => exact tended
  | connecting tended phase => exact tended
  | registered tended phase opened level confirmed => exact tended
  | connected phase up => exact up.tended
  | running count phase up => exact up.tended

/-- A stage is left by nothing but a change of the link or of the phase. -/
theorem Stage.near (stage : Stage table name controller count asked)
    (near : controller.link.Near table after.link) (phase : after.phase = controller.phase)
    (errors : after.errors = controller.errors) : Stage table name after count asked := by
  have tended := stage.tended.near near errors
  cases stage with
  | idle _ idles => exact .idle tended (phase.trans idles)
  | connecting _ connects => exact .connecting tended (phase.trans connects)
  | registered _ waits opened level confirmed =>
      exact .registered tended (phase.trans waits) (near.session.trans opened) (near.level level)
        (near.acknowledgements.trans confirmed)
  | connected waits up => exact .connected (phase.trans waits) (up.near near errors)
  | running count runs up => exact .running count (phase.trans runs) (up.near near errors)

/-- The task may write values and take samples at every stage. -/
theorem Stage.edited (stage : Stage table name controller count asked)
    (edited : controller.Edited after) : Stage table name after count asked := by
  cases edited with
  | nothing => exact stage
  | slot found sound seen state announced =>
      have owner := (slot?_eq_some.mp found).1
      exact stage.near (Link.near_setChannel owner _ announced state table) rfl rfl

variable [Log.Logger L]

/-- The first thing a healthy peer is asked for is a session. -/
theorem Tended.connect (tended : controller.Tended table name)
    (rest : controller.link.MayConnect) :
    Stage table name controller.connect.value 2 (askedOf controller.connect.calls) := by
  have healthy := tended.healthy
  obtain ⟨stands, calls⟩ := controller.connect_stands
  have errors := connect_errors tended.errors
  have outcome := controller.link.connect_cases
  rw [calls]
  generalize controller.link.connect.value.1 = link, controller.link.connect.value.2 = answer,
    controller.link.connect.calls = calls at outcome stands errors ⊢
  have announced := outcome.table
  have answered := healthy.register (tended.agrees.trans rest.2) controller.link.instanceName
    (controller.link.prepare.channels.map Channel.descriptor)
  cases outcome with
  | refused shut => exact (shut rest).elim
  | failed may refused => cases answered.symm.trans refused
  | opened may granted =>
      cases answered.symm.trans granted
      have named := tended.named
      subst named
      refine .registered ⟨?_, ?_, ?_, ?_, errors⟩ stands.phase_eq
        (congrArg Link.session stands.link_eq) ?_ ?_
      · rw [stands.link_eq]
        rfl
      · rw [stands.link_eq, announced]
        exact tended.announced
      · rw [stands.link_eq]
        exact ⟨healthy.acknowledges, healthy.registers, healthy.promotes, healthy.sends,
          healthy.injected⟩
      · rw [stands.link_eq]
      · rw [stands.link_eq]
        refine ⟨may.1, fun found => ?_⟩
        obtain ⟨before, _, rfl⟩ := List.mem_map.mp (List.mem_of_getElem? found)
        rfl
      · rw [stands.link_eq, ← tended.announced, ← controller.link.table_prepare]
        rfl

/-- With no error so far, a cycle that is enabled begins where the controller is. -/
theorem cycle_enabled (clear : controller.cycleError = false) (go : Bool) :
    (controller.cycle true go).value = (controller.advance true go).value.processLog.value ∧
      (controller.cycle true go).calls = (controller.advance true go).calls := by
  have begins : { controller with cycleError := false } = controller := by
    rw [← clear]
  have same : controller.cycle true go = controller.advance true go >>= processLog := by
    change ({ controller with cycleError := false } : Controller Simulator L).advance true go >>=
      processLog = _
    rw [begins]
  obtain ⟨_, unasked⟩ := (controller.advance true go).value.processLog_keeps
  rw [same, Trail.value_bind, Trail.calls_bind, unasked, List.append_nil]
  exact ⟨rfl, rfl⟩

/-- Each cycle of a controller that is told to start leads from one stage to the next. -/
theorem Stage.advance (stage : Stage table name controller count asked)
    (ordered : controller.Ordered) (sound : SoundTable table) :
    Stage table name (controller.advance true true).value (count + 1)
      (asked ++ askedOf (controller.advance true true).calls) := by
  cases stage with
  | idle tended phase =>
      rw [Controller.advance, phase]
      exact .connecting (tended.near (.refl table _) rfl) rfl
  | connecting tended phase =>
      rw [Controller.advance, phase]
      exact tended.connect (ordered.rest (.inr (.inl phase)))
  | registered tended phase opened level confirmed =>
      have exchanged : controller.advance true true = controller.exchange := by
        rw [Controller.advance, phase]
        simp [run, start, phase, level.top]
      obtain ⟨up, same⟩ := tended.confirmed ordered.sound sound opened level confirmed
      rw [exchanged, askedOf_exchange (exchange_exchanges ordered.sound), List.append_nil]
      exact .connected (same.trans phase) up
  | connected phase up =>
      have started : controller.advance true true = controller.start := by
        rw [Controller.advance, phase]
        simp [run, phase]
      obtain ⟨value, calls⟩ := up.start
      obtain ⟨later, running⟩ := up.promoted ordered.sound
      have quiet : askedOf controller.promoted.exchange.calls = [] :=
        askedOf_exchange (exchange_exchanges (ordered.sound.congr rfl rfl rfl))
      rw [started, value, calls]
      change Stage _ _ _ 4 (_ ++ .promote _ true :: askedOf controller.promoted.exchange.calls)
      rw [quiet]
      exact .running 0 running later
  | running count phase up =>
      have exchanged : controller.advance true true = controller.exchange := by
        rw [Controller.advance, phase]
        simp [run, phase]
      obtain ⟨later, same⟩ := up.exchange ordered.sound rfl
      rw [exchanged, askedOf_exchange (exchange_exchanges ordered.sound), List.append_nil]
      exact .running (count + 1) (same.trans phase) later

theorem Stage.cycle (stage : Stage table name controller count asked)
    (ordered : controller.Ordered) (sound : SoundTable table) :
    Stage table name (controller.cycle true true).value (count + 1)
      (asked ++ askedOf (controller.cycle true true).calls) := by
  obtain ⟨value, calls⟩ := cycle_enabled (congrArg Prod.fst stage.tended.errors) true
  obtain ⟨keeps, _⟩ := (controller.advance true true).value.processLog_keeps
  have errors := (controller.advance true true).value.processLog_errors
  rw [value, calls]
  refine (stage.advance ordered sound).near ?_ keeps.phase_eq errors
  rw [keeps.link_eq]
  exact .refl table _

end Controller

/-! ## Every run -/

/-- The task runs the controller and tells it to start in every cycle, and the peer is healthy. -/
def Input.Healthy (table : List Descriptor) : Input → Prop
  | .cycle enable go => enable = true ∧ go = true
  | .peer action => action.Healthy table
  | .setImage _ _ | .updateBuffered _ _ => True

instance (table : List Descriptor) (input : Input) : Decidable (input.Healthy table) :=
  match input with
  | .cycle enable go => inferInstanceAs (Decidable (enable = true ∧ go = true))
  | .peer action => inferInstanceAs (Decidable (action.Healthy table))
  | .setImage _ _ | .updateBuffered _ _ => inferInstanceAs (Decidable True)

def Input.isCycle : Input → Bool
  | .cycle _ _ => true
  | _ => false

namespace World

open Controller

variable {L : Type} [Log.Logger L] {world : World L} {table : List Descriptor} {name : String}
  {count : Nat} {asked : List Call}

/-- A cycle leads to the next stage, and nothing else leaves a stage. -/
theorem step_stage (stage : Stage table name world.controller count asked)
    (ordered : world.controller.Ordered) (sound : SoundTable table) {input : Input}
    (healthy : input.Healthy table) :
    Stage table name (world.step input).value.controller (count + [input].countP Input.isCycle)
      (asked ++ askedOf (world.step input).calls) := by
  cases input with
  | cycle enable go =>
      obtain ⟨rfl, rfl⟩ := healthy
      rw [step, Trail.calls_bind, Trail.calls_pure, List.append_nil]
      exact stage.cycle ordered sound
  | setImage id payload =>
      rw [step, Trail.calls_pure]
      exact (List.append_nil asked).symm ▸ stage.edited (written_edited ordered id payload)
  | updateBuffered id update =>
      rw [step, Trail.calls_pure]
      exact (List.append_nil asked).symm ▸ stage.edited (updateBuffered_edited ordered id update)
  | peer action =>
      rw [step, Trail.calls_pure]
      have near := world.controller.link.near_act healthy
      exact (List.append_nil asked).symm ▸ stage.near near rfl rfl

theorem run_stage {inputs : List Input} (stage : Stage table name world.controller count asked)
    (ordered : world.controller.Ordered) (sound : SoundTable table)
    (healthy : ∀ input ∈ inputs, input.Healthy table) :
    Stage table name (world.run inputs).value.controller (count + inputs.countP Input.isCycle)
      (asked ++ askedOf (world.run inputs).calls) := by
  induction inputs generalizing world count asked with
  | nil =>
      change Stage table name world.controller count (asked ++ [])
      rw [List.append_nil]
      exact stage
  | cons input rest ih =>
      rw [List.forall_mem_cons] at healthy
      have first := step_stage stage ordered sound healthy.1
      have later := ih first (step_steps ordered input).ordered healthy.2
      rw [run, Trail.calls_bind, askedOf_append, ← List.append_assoc, ← List.singleton_append,
        List.countP_append, ← Nat.add_assoc]
      exact later

variable {instanceName : String} {aliasName : Option String} {specs : List ChannelSpec}
  {link : Link Simulator}

omit [Log.Logger L] in
theorem start_stage (logger : Option L)
    (built : (Link.fresh instanceName aliasName {}).addChannels specs = .ok link) :
    Stage link.table instanceName (start link logger).controller 0 [] := by
  obtain ⟨_, same⟩ := Link.addChannels_made built fun _ _ found => by cases found
  refine .idle ⟨?_, rfl, ?_, ?_, rfl⟩ rfl
  · change link.instanceName = instanceName
    rw [same]
    rfl
  · change link.transport.Healthy link.table
    rw [same]
    exact ⟨rfl, rfl, rfl, rfl, fun _ inside => (List.not_mem_nil inside).elim⟩
  · change link.transport.session = link.session
    rw [same]
    rfl

/-- With a healthy peer, a controller that is told to start in every cycle runs from the fourth
cycle on, whatever its task writes and takes and whatever the peer sends in between: the link and
all of the channels that were announced are operational, there was no error at any time, and one
session and one promotion were asked for and granted. -/
theorem healthy_peer_keeps_the_controller_running (logger : Option L)
    (built : (Link.fresh instanceName aliasName {}).addChannels specs = .ok link)
    {inputs : List Input} (healthy : ∀ input ∈ inputs, input.Healthy link.table)
    (enough : 4 ≤ inputs.countP Input.isCycle) :
    let run := (start link logger).run inputs
    let last := run.value.controller
    last.phase = .running ∧ last.link.state = .operational ∧ last.link.table = link.table ∧
      (∀ channel ∈ last.link.channels, channel.state = .operational) ∧ last.lastError = none ∧
      (∀ early late, inputs = early ++ late →
        ((start link logger).run early).value.controller.status.error = false) ∧
      ∃ session, last.link.session = some session ∧
        askedOf run.calls = [.register instanceName true, .promote session true] := by
  intro run last
  have ordered := (start_ordered logger built).1
  have sound : SoundTable link.table := by
    obtain ⟨_, reached⟩ := Link.Reaches.refl.addChannels built
    exact reached.soundTable SoundTable.nil
  have stage := run_stage (start_stage logger built) ordered sound healthy
  rw [Nat.zero_add, List.nil_append] at stage
  have clear (early late : List Input) (same : inputs = early ++ late) :
      ((start link logger).run early).value.controller.status.error = false := by
    have begun := run_stage (start_stage logger built) ordered sound fun input inside =>
      healthy input (same ▸ List.mem_append_left late inside)
    exact congrArg Prod.fst begun.tended.errors
  generalize inputs.countP Input.isCycle = cycles, askedOf run.calls = asked at stage enough ⊢
  cases stage with
  | running count phase up =>
      refine ⟨phase, up.level.top, up.tended.announced, fun channel inside => ?_,
        congrArg Prod.snd up.tended.errors, clear, _, up.opened, rfl⟩
      obtain ⟨id, found⟩ := List.mem_iff_getElem?.mp inside
      exact up.level.channels found
  | _ => omega

/-- The peer sends before there is a session, and again while the link comes up; the task writes and
takes samples all the while, also with a size that does not fit and on a channel without samples. -/
def busyStart : List Input :=
  [.peer (.inject (.channelUpdated 0 [5] 0)), .setImage 2 [9], .cycle true true,
    .peer (.inject (.channelUpdated 1 [1, 2] 0)), .updateBuffered 1 true, .cycle true true,
    .setImage 0 [7], .setImage 2 [9, 9], .cycle true true, .updateBuffered 0 true,
    .peer (.inject (.channelUpdated 1 [3, 4] 3)), .peer .takeFrames, .cycle true true,
    .updateBuffered 1 true, .setImage 1 [8, 8], .cycle true true]

theorem busy_start_leads_to_running :
    let run := (start talkative (none : Option Log.Station)).run busyStart
    let last := run.value.controller
    (Link.fresh "line" none {}).addChannels
        [⟨"mode", .both, 1, none⟩, ⟨"samples", .both, 2, some 3⟩,
          ⟨"setpoint", .publish, 1, none⟩] = .ok talkative ∧
      (∀ input ∈ busyStart, input.Healthy talkative.table) ∧
      busyStart.countP Input.isCycle = 5 ∧ run.value.frames.length = 2 ∧
      last.image.values = [⟨[5]⟩, ⟨[8, 8]⟩, ⟨[9]⟩] ∧ last.phase = .running ∧
      last.link.state = .operational ∧
      (∀ channel ∈ last.link.channels, channel.state = .operational) ∧ last.lastError = none ∧
      ∃ session, last.link.session = some session ∧
        askedOf run.calls = [.register "line" true, .promote session true] := by
  intro run last
  have built : (Link.fresh "line" none {}).addChannels
      [⟨"mode", .both, 1, none⟩, ⟨"samples", .both, 2, some 3⟩,
        ⟨"setpoint", .publish, 1, none⟩] = .ok talkative := rfl
  have healthy : ∀ input ∈ busyStart, input.Healthy talkative.table := by decide
  obtain ⟨phase, state, _, channels, lastError, _, asked⟩ :=
    healthy_peer_keeps_the_controller_running (none : Option Log.Station) built healthy (by decide)
  exact ⟨built, healthy, by decide, by decide +kernel, by decide +kernel, phase, state, channels,
    lastError, asked⟩

end World

end DatasetSync
