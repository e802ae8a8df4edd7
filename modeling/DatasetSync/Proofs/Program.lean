import DatasetSync.MemoryHost
import DatasetSync.Proofs.Demo
import DatasetSync.Proofs.Link.Construction

/-!
# The program runs to its end

A valid configuration is demonstrated to the end on every host that lets the log be opened and has
the memory for its channels, as long as these can be addressed at all.  What a host answers when it
is asked for the time, or does when it is told to show a note, has no part in that.
-/

namespace DatasetSync.Program

/-! ## Answers that are certain -/

/-- Whatever the machine does, the answer of an action is such. -/
def Yields {m : Type → Type} [Functor m] {α : Type} (action : m α) (holds : α → Prop) : Prop :=
  ∃ certain : m { answer // holds answer }, action = Subtype.val <$> certain

namespace Yields

variable {m : Type → Type} [Monad m] [LawfulMonad m] {α β : Type} {action : m α}
  {holds : α → Prop} {goal : β → Prop}

theorem any (action : m α) : Yields action fun _ => True := by
  refine ⟨(fun answer => ⟨answer, trivial⟩) <$> action, ?_⟩
  rw [Functor.map_map]
  exact (id_map action).symm

theorem pure {answer : α} (fine : holds answer) : Yields (pure answer : m α) holds := by
  refine ⟨Pure.pure ⟨answer, fine⟩, ?_⟩
  rw [map_pure]

theorem bind (first : Yields action holds) {next : α → m β}
    (later : ∀ answer, holds answer → Yields (next answer) goal) :
    Yields (action >>= next) goal := by
  obtain ⟨certain, rfl⟩ := first
  choose further same using later
  refine ⟨certain >>= fun answer => further answer.1 answer.2, ?_⟩
  rw [map_bind, bind_map_left]
  exact bind_congr fun answer => same answer.1 answer.2

theorem mono (first : Yields action holds) {weaker : α → Prop}
    (implied : ∀ answer, holds answer → weaker answer) : Yields action weaker := by
  obtain ⟨certain, rfl⟩ := first
  refine ⟨(fun answer => ⟨answer.1, implied answer.1 answer.2⟩) <$> certain, ?_⟩
  rw [Functor.map_map]

/-- On a machine in memory, what is certain is so from every state. -/
theorem inMemory {σ : Type} {action : StateM σ α} (first : Yields action holds) (state : σ) :
    holds (action state).1 := by
  obtain ⟨certain, rfl⟩ := first
  exact (certain state).1.2

end Yields

/-! ## The parts of a run -/

section Runs

variable {m : Type → Type} [Monad m] [LawfulMonad m] [Host m]

theorem tell_yields {α : Type} (plan : Plan) (trail : Trail Note α) :
    Yields (tell plan trail : m α) fun answer => answer = trail.value :=
  .bind (.any _) fun _ _ => .pure rfl

/-- Where the machine has the memory, nothing stops it from being asked. -/
theorem reserve_yields {blocks : List Nat}
    (memory : ∀ bytes ∈ blocks, bytes < addressLimit →
      Yields (Host.grants bytes : m Bool) (· = true)) :
    Yields (reserve blocks : m (Except Failure Unit)) (· = .ok ()) := by
  induction blocks with
  | nil => exact .pure rfl
  | cons bytes rest ih =>
      rw [reserve]
      split
      · exact .pure rfl
      · rename_i within
        have granted := memory bytes List.mem_cons_self (Nat.lt_of_not_le within)
        refine granted.bind fun answer same => ?_
        rw [same, if_pos rfl]
        exact ih fun bytes inside => memory bytes (List.mem_cons_of_mem _ inside)

/-- With the log and the memory there, the channels are set up as they are without any host. -/
theorem start_yields {plan : Plan}
    (logs : ∀ now, ∃ station, (Demo.openLog plan.config.log now).value = .ok station)
    (memory : ∀ bytes ∈ plan.config.link.blocks, bytes < addressLimit →
      Yields (Host.grants bytes : m Bool) (· = true)) :
    Yields (start plan : m (Except Failure Demo)) fun answer =>
      ∃ station, answer = (Demo.start plan.config.link station).mapError .ofObstacle := by
  refine .bind (.any _) fun now _ => .bind (tell_yields plan _) fun answer same => ?_
  obtain ⟨station, opened⟩ := logs now
  rw [same, opened]
  have reserved : Yields (reserveLink plan.config.link : m (Except Failure Unit)) (· = .ok ()) := by
    refine reserve_yields fun bytes inside => memory bytes ?_
    split at inside
    · exact inside
    · cases inside
  refine reserved.bind fun answer same => ?_
  rw [same]
  exact .pure ⟨station, rfl⟩

/-- The cycles are run as they are without any host, at the times that it tells. -/
theorem runCycles_yields (plan : Plan) (demo : Demo) (number remaining : Nat) :
    Yields (runCycles plan demo number remaining : m (Except Error Demo)) fun answer =>
      ∃ times : List Timestamp, times.length = remaining ∧ answer = demo.run number times := by
  induction remaining generalizing demo number with
  | zero => exact .pure ⟨[], rfl, rfl⟩
  | succ remaining ih =>
      rw [runCycles]
      refine .bind (.any _) fun now _ => .bind (tell_yields plan _) fun answer same => ?_
      cases answer with
      | error error =>
          refine .pure ⟨now :: List.replicate remaining now, ?_, ?_⟩
          · rw [List.length_cons, List.length_replicate]
          · rw [Demo.run, ← same]
            rfl
      | ok middle =>
          refine .bind (.any _) fun _ _ => (ih middle (number + 1)).mono ?_
          rintro last ⟨times, length, rfl⟩
          refine ⟨now :: times, congrArg (· + 1) length, ?_⟩
          rw [Demo.run, ← same]
          rfl

end Runs

/-! ## Valid configurations -/

/-- What a valid configuration says about the link and the log is valid. -/
theorem parts_of_validate {config : Config} (valid : config.validate = .ok ()) :
    config.link.validate = .ok () ∧ Log.validateModuleName config.log.moduleName = .ok () ∧
      config.log.filter.validate = .ok () := by
  unfold Config.validate LogConfig.validate at valid
  cases link : config.link.validate with
  | error error =>
      rw [link] at valid
      cases valid
  | ok done =>
      rw [link] at valid
      by_cases still : config.cycle.milliseconds = 0
      · simp only [if_pos still] at valid
        cases valid
      · simp only [if_neg still] at valid
        cases name : Log.validateModuleName config.log.moduleName with
        | error error =>
            rw [name] at valid
            cases valid
        | ok done =>
            rw [name] at valid
            exact ⟨rfl, rfl, valid⟩

theorem effective_valid {config : Config} (valid : config.validate = .ok ()) :
    (effective config).validate = .ok () := by
  unfold effective
  split
  · rfl
  · exact valid

/-- The log that a valid configuration asks for can be opened, with a seat in it. -/
theorem openLog_valid {config : Config} (valid : config.validate = .ok ()) (now : Timestamp) :
    ∃ hub opened seat, Log.Hub.new config.log.filter now = .ok hub ∧
      (hub.subscribe config.log.moduleName).value = (opened, .ok seat) ∧
      (Demo.openLog config.log now).value = .ok ⟨opened, seat⟩ := by
  obtain ⟨_, name, filter⟩ := parts_of_validate valid
  let hub : Log.Hub := ⟨some ⟨config.log.filter, [], [], []⟩, [], now⟩
  have made : Log.Hub.new config.log.filter now = .ok hub := by
    rw [Log.Hub.new, filter]
    rfl
  have distributor : Log.Distributor.new config.log.moduleName =
      .ok ⟨config.log.moduleName, none, [], 0, 0, none⟩ := by
    rw [Log.Distributor.new, name]
    rfl
  obtain ⟨opened, seat, subscribed⟩ : ∃ opened seat,
      (hub.subscribe config.log.moduleName).value = (opened, .ok seat) := by
    rw [Log.Hub.subscribe, distributor]
    exact ⟨_, _, rfl⟩
  refine ⟨hub, opened, seat, made, subscribed, ?_⟩
  rw [Demo.openLog, made]
  simp only [Trail.value_bind, Trail.value_select, subscribed]
  rfl

theorem openLog_answers {config : Config} (valid : config.validate = .ok ()) (now : Timestamp) :
    ∃ station, (Demo.openLog config.log now).value = .ok station := by
  obtain ⟨_, _, _, _, _, opened⟩ := openLog_valid valid now
  exact ⟨_, opened⟩

section Ends

variable {m : Type → Type} [Monad m] [LawfulMonad m] [Host m]

/-- What a run comes to is a matter of how it starts, once the log is open. -/
theorem runPlan_yields {plan : Plan} {goal : Except Failure Unit → Prop}
    {begins : Except Failure Demo → Prop}
    (logs : Yields (openLog plan.config.log : m (Except Failure Unit)) (· = .ok ()))
    (starts : Yields (start plan : m (Except Failure Demo)) begins)
    (refused : ∀ failure, begins (.error failure) → goal (.error failure))
    (runs : ∀ demo, begins (.ok demo) → ∀ times, times.length = plan.cycles →
      (∃ last, demo.run 0 times = .ok last) ∧ goal (.ok ())) :
    Yields (runPlan plan : m (Except Failure Unit)) goal := by
  refine logs.bind fun _ done => ?_
  subst done
  refine .bind (.any _) fun _ _ => starts.bind fun answer begun => ?_
  cases answer with
  | error failure => exact .pure (refused failure begun)
  | ok demo =>
      refine .bind (runCycles_yields plan demo 0 plan.cycles) fun answer ran => ?_
      obtain ⟨times, length, rfl⟩ := ran
      obtain ⟨⟨last, answer⟩, fine⟩ := runs demo begun times length
      rw [answer]
      exact .bind (.any _) fun _ _ => .pure fine

/-- Where the link can be built, the run of a valid configuration succeeds. -/
theorem addressable_yields {plan : Plan} (valid : plan.config.validate = .ok ())
    {link : Link Simulator}
    (built : Link.ofConfig plan.config.link (default : Simulator) = .ok link)
    (logs : Yields (openLog plan.config.log : m (Except Failure Unit)) (· = .ok ()))
    (memory : ∀ bytes ∈ plan.config.link.blocks,
      Yields (Host.grants bytes : m Bool) (· = true)) :
    Yields (runPlan plan : m (Except Failure Unit)) (· = .ok ()) := by
  have starts : Yields (start plan : m (Except Failure Demo))
      fun answer => ∃ station, answer = .ok ⟨Controller.new link (some station)⟩ := by
    refine (start_yields (openLog_answers valid) fun bytes inside _ => memory bytes inside).mono
      fun answer begun => ?_
    obtain ⟨station, same⟩ := begun
    rw [same, Demo.start_built built]
    exact ⟨station, rfl⟩
  refine runPlan_yields logs starts (fun _ begun => ?_) fun demo begun times _ => ?_
  · obtain ⟨_, same⟩ := begun
    cases same
  · obtain ⟨station, same⟩ := begun
    cases same
    obtain ⟨last, answer, _⟩ := Demo.thrives_run built station times
    exact ⟨⟨last, answer⟩, rfl⟩

/-- A channel that cannot be addressed ends the run of a valid configuration, after the log is
open. -/
theorem unaddressable_yields {plan : Plan} (valid : plan.config.validate = .ok ())
    (large : Link.ofConfig plan.config.link (default : Simulator) = .error .outOfRange)
    (logs : Yields (openLog plan.config.log : m (Except Failure Unit)) (· = .ok ()))
    (memory : ∀ bytes ∈ plan.config.link.blocks, bytes < addressLimit →
      Yields (Host.grants bytes : m Bool) (· = true)) :
    Yields (runPlan plan : m (Except Failure Unit)) (· = .error (.broken "capacity overflow")) := by
  have starts : Yields (start plan : m (Except Failure Demo))
      (· = .error (.broken "capacity overflow")) := by
    refine (start_yields (openLog_answers valid) memory).mono fun answer begun => ?_
    obtain ⟨station, same⟩ := begun
    rw [same, Demo.start, large]
    rfl
  refine runPlan_yields logs starts (fun _ same => ?_) fun _ begun => ?_
  · cases same
    rfl
  · cases begun

end Ends

/-- Consider a valid configuration, or the built-in one if it has no channels, and suppose that its
channels can be addressed.  Then it is demonstrated to the end.  The log and the link can be set up,
and however many cycles there are and at whatever times, none of them fails: the link is never
aborted and operational after the fourth cycle, and no cycle reports an error.  The last one, in
which the controller is disabled, ends the session that the second one opened.  So the run succeeds
on every host that has the memory and on which the log can be opened.  If a channel cannot be
addressed, the link cannot be built, and on such a host the program breaks there. -/
theorem valid_configuration_is_demonstrated {config : Config} (valid : config.validate = .ok ()) :
    let chosen := effective config
    (chosen.link.Addressable →
      (∀ now, ∃ hub opened seat link, Log.Hub.new chosen.log.filter now = .ok hub ∧
        (hub.subscribe chosen.log.moduleName).value = (opened, .ok seat) ∧
        Link.ofConfig chosen.link (default : Simulator) = .ok link ∧
        (Demo.openLog chosen.log now).value = .ok ⟨opened, seat⟩ ∧
        Demo.start chosen.link ⟨opened, seat⟩ =
          .ok ⟨Controller.new link (some ⟨opened, seat⟩)⟩ ∧
        ∀ times, ∃ last,
          Demo.run ⟨Controller.new link (some ⟨opened, seat⟩)⟩ 0 times = .ok last ∧
            last.Thrives times.length) ∧
      ∀ {m : Type → Type} [Monad m] [LawfulMonad m] [Host m] (cycles : Nat) (filter : NoteFilter),
        Yields (openLog chosen.log : m (Except Failure Unit)) (· = .ok ()) →
        (∀ bytes ∈ chosen.link.blocks, Yields (Host.grants bytes : m Bool) (· = true)) →
        Yields (runPlan ⟨chosen, cycles, filter⟩ : m (Except Failure Unit)) (· = .ok ())) ∧
    (¬ chosen.link.Addressable →
      Link.ofConfig chosen.link (default : Simulator) = .error .outOfRange ∧
      ∀ {m : Type → Type} [Monad m] [LawfulMonad m] [Host m] (cycles : Nat) (filter : NoteFilter),
        Yields (openLog chosen.log : m (Except Failure Unit)) (· = .ok ()) →
        (∀ bytes ∈ chosen.link.blocks, bytes < addressLimit →
          Yields (Host.grants bytes : m Bool) (· = true)) →
        Yields (runPlan ⟨chosen, cycles, filter⟩ : m (Except Failure Unit))
          (· = .error (.broken "capacity overflow"))) := by
  intro chosen
  have sound : chosen.validate = .ok () := effective_valid valid
  have checked : chosen.link.validate = .ok () := (parts_of_validate sound).1
  refine ⟨fun fits => ?_, fun large => ?_⟩
  · obtain ⟨link, built⟩ := (Link.ofConfig_isOk chosen.link (default : Simulator)).mpr
      ⟨checked, fits⟩
    constructor
    · intro now
      obtain ⟨hub, opened, seat, made, subscribed, logs⟩ := openLog_valid sound now
      exact ⟨hub, opened, seat, link, made, subscribed, built, logs, Demo.start_built built _,
        Demo.thrives_run built _⟩
    · intro m _ _ _ cycles filter logs memory
      exact addressable_yields sound built logs memory
  · have failed := Link.ofConfig_large checked large (default : Simulator)
    exact ⟨failed, fun cycles filter logs memory => unaddressable_yields sound failed logs memory⟩

/-- Channels of all directions, with a ring that a burst of values does not fit in, and with values
longer and shorter than a counter. -/
def mixed : Config where
  link := {
    instanceName := "line"
    channels := [
      { name := "samples", direction := .both, byteSize := 12, buffered := true,
        bufferCapacity := 4 },
      { name := "setpoint", direction := .publish, byteSize := 3 },
      { name := "mode", direction := .both, byteSize := 1 }] }
  log := { moduleName := "line" }

theorem mixed_channels_are_demonstrated :
    mixed.validate = .ok () ∧ mixed.link.Addressable ∧
      (∀ now, ∃ station demo, (Demo.openLog mixed.log now).value = .ok station ∧
        Demo.start mixed.link station = .ok demo ∧
        ∀ times, ∃ last, demo.run 0 times = .ok last ∧ last.Thrives times.length) ∧
      ∀ host : MemoryHost 1024, ((runPlan ⟨mixed, 60, NoteFilter.standard⟩ :
        StateM (MemoryHost 1024) (Except Failure Unit)) host).1 = .ok () := by
  have valid : mixed.validate = .ok () := rfl
  have fits : mixed.link.Addressable := by decide
  obtain ⟨thrives, ends⟩ := (valid_configuration_is_demonstrated valid).1 fits
  refine ⟨valid, fits, fun now => ?_, fun host => ?_⟩
  · obtain ⟨_, _, _, _, _, _, _, opened, started, well⟩ := thrives now
    exact ⟨_, _, opened, started, well⟩
  · have logs : Yields (openLog mixed.log : StateM (MemoryHost 1024) (Except Failure Unit))
        (· = .ok ()) := .pure rfl
    have memory : ∀ bytes ∈ mixed.link.blocks,
        Yields (Host.grants bytes : StateM (MemoryHost 1024) Bool) (· = true) := by
      have small : ∀ bytes ∈ mixed.link.blocks, bytes < 1024 := by decide
      exact fun bytes inside => .pure (decide_eq_true (small bytes inside))
    exact (ends 60 NoteFilter.standard logs memory).inMemory host

def boundless : Config where
  link := {
    instanceName := "L"
    channels := [{ name := "a", direction := .subscribe, byteSize := addressLimit }] }
  cycle := { milliseconds := 1 }

/-- A configuration can be valid and yet ask for more than can be addressed, however much memory
there is. -/
theorem boundless_channel_is_not_demonstrated :
    boundless.validate = .ok () ∧
      Link.ofConfig (effective boundless).link (default : Simulator) = .error .outOfRange ∧
      ∀ (memory : Nat) (host : MemoryHost memory),
        ((runPlan ⟨effective boundless, 2, NoteFilter.standard⟩ :
          StateM (MemoryHost memory) (Except Failure Unit)) host).1 =
            .error (.broken "capacity overflow") := by
  have valid : boundless.validate = .ok () := rfl
  have large : Link.ofConfig (effective boundless).link (default : Simulator) =
      .error .outOfRange := rfl
  refine ⟨valid, large, fun memory host => ?_⟩
  let plan : Plan := ⟨effective boundless, 2, NoteFilter.standard⟩
  have logs : Yields (openLog plan.config.log : StateM (MemoryHost memory) (Except Failure Unit))
      (· = .ok ()) := .pure rfl
  have asks : ∀ bytes ∈ plan.config.link.blocks, ¬ bytes < addressLimit := by decide
  have failed : Yields (runPlan plan : StateM (MemoryHost memory) (Except Failure Unit))
      (· = .error (.broken "capacity overflow")) :=
    unaddressable_yields valid large logs fun bytes inside within =>
      absurd within (asks bytes inside)
  exact failed.inMemory host

end DatasetSync.Program
