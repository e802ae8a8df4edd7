import DatasetSync.Proofs.Controller.Publication
import DatasetSync.Proofs.Link.Promotion

/-!
# A controller and its link stay in step

The phase of a controller says where its link stands.  At rest there is nothing open; waiting and
running there is a session, and running it is connected; teardown begins when the link is aborted or
has lost its connection.  So no request of a controller meets a link that is not ready for it.
-/

namespace DatasetSync

namespace Link

variable {T : Type}

/-- Nothing is open, on the link or on any of its channels. -/
structure AtRest (link : Link T) : Prop where
  state : link.state = .disconnected
  session : link.session = none
  channels : ∀ channel ∈ link.channels, channel.state = .disconnected

theorem disconnect_granted [Transport T] {link : Link T}
    (something : link.isOpen = true ∨ link.state ≠ .disconnected) :
    link.disconnect.value.2 = .ok () := by
  have outcome := link.disconnect_cases
  generalize link.disconnect.value.1 = after, link.disconnect.value.2 = answer,
    link.disconnect.calls = calls at outcome ⊢
  cases outcome with
  | refused nothing =>
      rcases something with opened | state
      · exact absurd (.inr (Option.isSome_iff_ne_none.mp opened)) nothing
      · exact absurd (.inl state) nothing
  | closed may => rfl

/-- A link at rest is not refused a session by itself. -/
theorem connect_admitted [Transport T] {link : Link T} (rest : link.AtRest) (operation : String)
    (state : ConnectionState) : link.connect.value.2 ≠ .error (.badState operation state) := by
  have outcome := link.connect_cases
  generalize link.connect.value.1 = after, link.connect.value.2 = answer,
    link.connect.calls = calls at outcome ⊢
  cases outcome with
  | refused shut => exact absurd ⟨rest.state, rest.session⟩ shut
  | opened may granted => exact nofun
  | failed may refused => exact nofun

theorem lostConnection_eq_true {link : Link T} :
    link.lostConnection = true ↔
      link.session ≠ none ∧ link.connectedOnce = true ∧ link.state = .disconnected := by
  simp [lostConnection, isOpen, Option.isSome_iff_ne_none, and_assoc]

end Link

namespace Controller

variable {T L : Type}

/-- The phase of the controller and the standing of its link go together. -/
structure Coupled (controller : Controller T L) : Prop where
  resting : controller.phase.AtRest → controller.link.AtRest ∧ controller.active = false
  waiting : controller.phase = .waitStart → controller.link.isOpen = true ∧
    controller.link.state ≠ .aborted ∧ controller.link.lostConnection = false ∧
    controller.active = true
  running : controller.phase = .running → controller.link.isOpen = true ∧
    (controller.link.state = .connected ∨ controller.link.state = .operational) ∧
    controller.active = true
  tearingDown : controller.phase = .teardown →
    (controller.link.state = .aborted ∨ controller.link.lostConnection = true) ∧
    controller.active = true

namespace Coupled

variable {controller after : Controller T L}

theorem of_rest (phase : controller.phase.AtRest) (link : controller.link.AtRest)
    (inactive : controller.active = false) : controller.Coupled := by
  refine ⟨fun _ => ⟨link, inactive⟩, fun waits => ?_, fun runs => ?_, fun tears => ?_⟩
  · exact absurd phase (Phase.not_atRest (.inl waits))
  · exact absurd phase (Phase.not_atRest (.inr (.inl runs)))
  · exact absurd phase (Phase.not_atRest (.inr (.inr tears)))

theorem of_waiting (phase : controller.phase = .waitStart) (opened : controller.link.isOpen = true)
    (sane : controller.link.state ≠ .aborted) (kept : controller.link.lostConnection = false)
    (active : controller.active = true) : controller.Coupled := by
  refine ⟨fun rests => ?_, fun _ => ⟨opened, sane, kept, active⟩, fun runs => ?_, fun tears => ?_⟩
  · exact absurd rests (Phase.not_atRest (.inl phase))
  · cases phase.symm.trans runs
  · cases phase.symm.trans tears

theorem of_teardown (phase : controller.phase = .teardown)
    (down : controller.link.state = .aborted ∨ controller.link.lostConnection = true)
    (active : controller.active = true) : controller.Coupled := by
  refine ⟨fun rests => ?_, fun waits => ?_, fun runs => ?_, fun _ => ⟨down, active⟩⟩
  · exact absurd rests (Phase.not_atRest (.inr (.inr phase)))
  · cases phase.symm.trans waits
  · cases phase.symm.trans runs

/-- Only what the task has of the values may differ. -/
theorem stands {image shadow : Image} (coupled : controller.Coupled)
    (stands : after.Stands controller.link image shadow controller.phase controller.active) :
    after.Coupled := by
  obtain ⟨link, _, _, phase, active⟩ := stands
  refine ⟨?_, ?_, ?_, ?_⟩
  · rw [link, phase, active]
    exact coupled.resting
  · rw [link, phase, active]
    exact coupled.waiting
  · rw [link, phase, active]
    exact coupled.running
  · rw [link, phase, active]
    exact coupled.tearingDown

/-- In every phase but those at rest there is something to end. -/
theorem mayDisconnect (coupled : controller.Coupled) (busy : ¬ controller.phase.AtRest) :
    controller.link.MayDisconnect := by
  cases phase : controller.phase with
  | idle => exact absurd (.inl phase) busy
  | connecting => exact absurd (.inr (.inl phase)) busy
  | teardownWait => exact absurd (.inr (.inr phase)) busy
  | waitStart => exact .inr (Option.isSome_iff_ne_none.mp (coupled.waiting phase).1)
  | running => exact .inr (Option.isSome_iff_ne_none.mp (coupled.running phase).1)
  | teardown =>
      rcases (coupled.tearingDown phase).1 with aborted | lost
      · refine .inl ?_
        rw [aborted]
        exact nofun
      · exact .inr (Link.lostConnection_eq_true.mp lost).1

/-- Waiting and running there is a session, and the controller is active. -/
theorem open_active (coupled : controller.Coupled)
    (phase : controller.phase = .waitStart ∨ controller.phase = .running) :
    controller.link.session ≠ none ∧ controller.active = true := by
  rcases phase with waits | runs
  · obtain ⟨opened, _, _, active⟩ := coupled.waiting waits
    exact ⟨Option.isSome_iff_ne_none.mp opened, active⟩
  · obtain ⟨opened, _, active⟩ := coupled.running runs
    exact ⟨Option.isSome_iff_ne_none.mp opened, active⟩

end Coupled

/-! ## Exchanging -/

/-- The session, the phase and what the link knows of its past are kept. -/
structure Steady (controller after : Controller T L) : Prop where
  session : after.link.session = controller.link.session
  connectedOnce : controller.link.connectedOnce = true → after.link.connectedOnce = true
  informed : controller.link.Informed → after.link.Informed
  phase : after.phase = controller.phase
  active : after.active = controller.active

namespace Steady

variable {controller middle after : Controller T L}

theorem refl (controller : Controller T L) : controller.Steady controller :=
  ⟨rfl, id, id, rfl, rfl⟩

theorem trans (first : controller.Steady middle) (second : middle.Steady after) :
    controller.Steady after :=
  ⟨second.session.trans first.session, second.connectedOnce ∘ first.connectedOnce,
    second.informed ∘ first.informed, second.phase.trans first.phase,
    second.active.trans first.active⟩

theorem keeps (keeps : controller.Keeps after) : controller.Steady after := by
  obtain ⟨link, _, _, phase, active⟩ := keeps
  refine ⟨?_, ?_, ?_, phase, active⟩
  · rw [link]
  · rw [link]
    exact id
  · rw [link]
    exact id

end Steady

theorem Rests.steady {controller after : Controller T L} (rests : controller.Rests after) :
    controller.Steady after := by
  refine ⟨?_, ?_, ?_, rests.phase, rests.active⟩
  · rw [rests.link]
  · rw [rests.link]
    exact id
  · rw [rests.link]
    exact id

section Exchange

variable [Transport T]

theorem dispatch_steady (controller : Controller T L) (event : InboundEvent) :
    controller.Steady { controller with link := (controller.link.dispatch event).value.1 } := by
  have dispatched := (controller.link.dispatch_spec event).1
  refine ⟨dispatched.session, fun known => ?_, dispatched.informed, rfl, rfl⟩
  change (controller.link.dispatch event).value.1.connectedOnce = true
  rw [dispatched.connectedOnce, known, Bool.true_or]

theorem events_steady (controller : Controller T L) (events : List InboundEvent) :
    controller.Steady { controller with
      link := events.foldl (fun link event => (link.dispatch event).value.1) controller.link } := by
  induction events generalizing controller with
  | nil => exact .refl controller
  | cons event rest ih =>
      have first := controller.dispatch_steady event
      exact first.trans (ih { controller with link := (controller.link.dispatch event).value.1 })

theorem process_steady (controller : Controller T L) :
    controller.Steady { controller with link := controller.link.process.value.1 } := by
  cases opened : controller.link.session with
  | none =>
      rw [(Link.process_closed opened).1]
      exact .refl controller
  | some session =>
      rw [(Link.process_opened opened rfl).1]
      have fetched : controller.Steady { controller with link := { controller.link with
          transport := (Transport.poll controller.link.transport session).value.1 } } :=
        ⟨rfl, id, id, rfl, rfl⟩
      exact fetched.trans (events_steady _ _)

theorem Flushing.steady {controller after : Controller T L} {ids : List ChannelId}
    {calls : List Call} (flushing : Flushing controller ids after calls) :
    controller.Steady after := by
  induction flushing with
  | done controller => exact .refl controller
  | unchanged same next ih => exact ih
  | waits closed next ih => exact ih
  | failed found changed opened connected answer stands =>
      refine ⟨?_, ?_, ?_, stands.phase_eq, stands.active_eq⟩
      · rw [stands.link_eq]
        rfl
      · rw [stands.link_eq]
        exact id
      · rw [stands.link_eq]
        exact fun _ => nofun
  | sent found changed opened connected answer next ih =>
      exact ⟨ih.session, ih.connectedOnce, ih.informed, ih.phase, ih.active⟩

variable [Log.Logger L]

/-- Up to the last look at the link, an exchange is steady. -/
theorem exchange_steady {controller : Controller T L} (sound : controller.Sound) :
    ∃ last, controller.Steady last ∧ controller.exchange.value = last.concluded := by
  obtain ⟨base, sent, _, keeps, rests, flushing, value, _⟩ := exchange_parts sound
  refine ⟨sent, ?_, value⟩
  exact (controller.process_steady.trans (.keeps keeps)).trans (rests.steady.trans flushing.steady)

/-- An exchange ends in teardown, or the link stands as the phase says. -/
theorem exchange_coupled {controller : Controller T L} (sound : controller.Sound)
    (opened : controller.link.session ≠ none) (informed : controller.link.Informed)
    (active : controller.active = true)
    (phase : controller.phase = .waitStart ∨
      controller.phase = .running ∧ controller.link.connectedOnce = true) :
    controller.exchange.value.Coupled ∧ controller.exchange.value.link.Informed := by
  obtain ⟨last, steady, value⟩ := exchange_steady sound
  rw [value]
  have stillOpen : last.link.isOpen = true := by
    rw [Link.isOpen, steady.session]
    exact Option.isSome_iff_ne_none.mpr opened
  have stillActive : last.active = true := steady.active.trans active
  unfold concluded
  split
  · rename_i down
    exact ⟨.of_teardown rfl down stillActive, steady.informed informed⟩
  · rename_i up
    have sane : last.link.state ≠ .aborted := fun aborted => up (.inl aborted)
    have kept : last.link.lostConnection = false := by
      cases lost : last.link.lostConnection with
      | false => rfl
      | true => exact absurd (.inr lost) up
    refine ⟨⟨fun rests => ?_, fun _ => ⟨stillOpen, sane, kept, stillActive⟩,
      fun runs => ⟨stillOpen, ?_, stillActive⟩, fun tears => ?_⟩, steady.informed informed⟩
    · rw [steady.phase] at rests
      rcases phase with waits | ⟨runs, _⟩
      · exact absurd rests (Phase.not_atRest (.inl waits))
      · exact absurd rests (Phase.not_atRest (.inr (.inl runs)))
    · -- A running link was connected once, so it would have lost its connection by now.
      rw [steady.phase] at runs
      rcases phase with waits | ⟨_, known⟩
      · cases waits.symm.trans runs
      · cases state : last.link.state with
        | connected => exact .inl rfl
        | operational => exact .inr rfl
        | aborted => exact absurd state sane
        | disconnected =>
            have lost := Link.lostConnection_eq_true.mpr
              ⟨Option.isSome_iff_ne_none.mp stillOpen, steady.connectedOnce known, state⟩
            rw [kept] at lost
            cases lost
    · rw [steady.phase] at tears
      rcases phase with waits | ⟨runs, _⟩
      · cases waits.symm.trans tears
      · cases runs.symm.trans tears

end Exchange

/-! ## Every cycle -/

section Cycles

variable [Transport T]

/-- Running begins with a link that was connected. -/
theorem Ready.connectedOnce {controller ready : Controller T L} {go : Bool} {calls : List Call}
    (coupled : controller.Coupled) (informed : controller.link.Informed)
    (prepared : Ready controller go ready calls) :
    ready.phase = .waitStart ∨ ready.phase = .running ∧ ready.link.connectedOnce = true := by
  cases prepared with
  | halted waits => exact .inl rfl
  | waiting phase started unconnected => exact .inl phase
  | promoted phase started connected outcome =>
      have known : controller.link.connectedOnce = true := informed (by rw [connected]; rfl)
      cases outcome with
      | asked up opened answer => exact .inr ⟨rfl, known⟩
  | operational phase started top => exact .inr ⟨rfl, informed (by rw [top]; rfl)⟩
  | running phase started =>
      refine .inr ⟨phase, informed ?_⟩
      rcases (coupled.running phase).2.1 with connected | top
      · rw [connected]
        rfl
      · rw [top]
        rfl

theorem Ready.steady {controller ready : Controller T L} {go : Bool} {calls : List Call}
    (prepared : Ready controller go ready calls) :
    ready.link.session = controller.link.session ∧ ready.active = controller.active ∧
      (controller.link.Informed → ready.link.Informed) := by
  cases prepared with
  | promoted phase started connected outcome =>
      cases outcome with
      | asked up opened answer => exact ⟨rfl, rfl, id⟩
  | halted waits => exact ⟨rfl, rfl, id⟩
  | waiting phase started unconnected => exact ⟨rfl, rfl, id⟩
  | operational phase started top => exact ⟨rfl, rfl, id⟩
  | running phase started => exact ⟨rfl, rfl, id⟩

theorem Running.coupled [Log.Logger L] {controller after : Controller T L} {go : Bool}
    {calls : List Call} (sound : controller.Sound) (coupled : controller.Coupled)
    (informed : controller.link.Informed)
    (phase : controller.phase = .waitStart ∨ controller.phase = .running)
    (outcome : Running controller go after calls) : after.Coupled ∧ after.link.Informed := by
  obtain ⟨opened, active⟩ := coupled.open_active phase
  cases outcome with
  | exchanged prepared =>
      obtain ⟨session, same, knows⟩ := prepared.steady
      obtain ⟨alike, _, _⟩ := prepared.alike
      refine exchange_coupled ?_ ?_ (knows informed) (same.trans active)
        (prepared.connectedOnce coupled informed)
      · exact alike.sound sound
      · rw [session]
        exact opened
  | refused waits started connected outcome stands =>
      cases outcome with
      | refused unfit =>
          rcases unfit with down | closed
          · exact absurd connected down
          · exact absurd closed opened
      | failed up current answer =>
          refine ⟨.of_teardown stands.phase_eq (.inl ?_) (stands.active_eq.trans active), ?_⟩
          · rw [stands.link_eq]
            rfl
          · rw [stands.link_eq]
            exact nofun

/-- After a session was asked for, there is one, or the link is aborted. -/
theorem coupled_connecting {controller after : Controller T L} {link : Link T}
    {answer : Except Error Unit} {calls : List Call} (rest : controller.link.MayConnect)
    (outcome : Link.Connecting controller.link link answer calls)
    (stands : after.Stands link controller.image controller.shadow
      (if answer.isOk then .waitStart else .teardown) true) :
    after.Coupled ∧ after.link.Informed := by
  cases outcome with
  | refused shut => exact absurd rest shut
  | opened may granted =>
      have down : after.link.state = .disconnected := by
        rw [stands.link_eq]
        exact may.1
      have unknown : after.link.connectedOnce = false := by
        rw [stands.link_eq]
        rfl
      refine ⟨.of_waiting stands.phase_eq ?_ ?_ ?_ stands.active_eq, ?_⟩
      · rw [stands.link_eq]
        rfl
      · rw [down]
        exact nofun
      · rw [Link.lostConnection, unknown, Bool.and_false, Bool.false_and]
      · rw [Link.Informed, down]
        exact nofun
  | failed may refused =>
      refine ⟨.of_teardown stands.phase_eq (.inl ?_) stands.active_eq, ?_⟩
      · rw [stands.link_eq]
        rfl
      · rw [stands.link_eq]
        exact nofun

/-- After the end of a session nothing is open. -/
theorem coupled_disconnecting {controller after : Controller T L} {link : Link T} {phase : Phase}
    {answer : Except Error Unit} {calls : List Call} (coupled : controller.Coupled)
    (rests : phase.AtRest) (outcome : Link.Disconnecting controller.link link answer calls)
    (stands : after.Stands link controller.image controller.shadow phase false) :
    after.Coupled ∧ after.link.Informed := by
  have atRest : link.AtRest := by
    cases outcome with
    | refused nothing =>
        -- In any phase but those at rest there would have been something to end.
        have resting : controller.phase.AtRest := by
          by_contra busy
          exact nothing (coupled.mayDisconnect busy)
        exact (coupled.resting resting).1
    | closed may =>
        refine ⟨rfl, rfl, fun channel inside => ?_⟩
        obtain ⟨before, _, rfl⟩ := List.mem_map.mp inside
        rfl
  rw [← stands.link_eq] at atRest
  refine ⟨.of_rest ?_ atRest stands.active_eq, ?_⟩
  · rw [stands.phase_eq]
    exact rests
  · rw [Link.Informed, atRest.state]
    exact nofun

theorem cycle_coupled [Log.Logger L] {controller : Controller T L} (sound : controller.Sound)
    (coupled : controller.Coupled) (informed : controller.link.Informed) (enable go : Bool) :
    (controller.cycle enable go).value.Coupled ∧
      (controller.cycle enable go).value.link.Informed := by
  have outcome := controller.cycle_cases enable go
  generalize (controller.cycle enable go).value = after,
    (controller.cycle enable go).calls = calls at outcome ⊢
  cases outcome with
  | idle phase stands =>
      obtain ⟨rest, inactive⟩ := coupled.resting (.inl phase)
      rw [← stands.link_eq] at rest informed
      refine ⟨.of_rest ?_ rest (stands.active_eq.trans inactive), informed⟩
      rw [stands.phase_eq]
      cases enable with
      | true => exact .inr (.inl rfl)
      | false => exact .inl rfl
  | waited enabled phase stands =>
      refine ⟨coupled.stands stands, ?_⟩
      rw [stands.link_eq]
      exact informed
  | connected enabled phase outcome stands =>
      obtain ⟨rest, _⟩ := coupled.resting (.inr (.inl phase))
      exact coupled_connecting ⟨rest.state, rest.session⟩ outcome stands
  | @ran begun ran _ _ enabled phase begins outcome keeps =>
      have started : begun.link.Informed := by
        rw [begins.link_eq]
        exact informed
      rw [← begins.phase_eq] at phase
      obtain ⟨together, knows⟩ :=
        outcome.coupled (begins.sound sound) (coupled.stands begins) started phase
      refine ⟨together.stands keeps, ?_⟩
      rw [keeps.link_eq]
      exact knows
  | ended phase due outcome stands =>
      refine coupled_disconnecting coupled ?_ outcome stands
      cases enable with
      | true => exact .inr (.inr rfl)
      | false => exact .inl rfl

theorem cycle_disabled [Log.Logger L] (controller : Controller T L) (go : Bool) :
    (controller.cycle false go).value.phase = .idle := by
  have outcome := controller.cycle_cases false go
  generalize (controller.cycle false go).value = after,
    (controller.cycle false go).calls = calls at outcome ⊢
  cases outcome with
  | idle phase stands => exact stands.phase_eq
  | ended phase due outcome stands => exact stands.phase_eq
  | waited enabled => cases enabled
  | connected enabled => cases enabled
  | ran enabled => cases enabled

end Cycles

/-! ## What a cycle remembers -/

/-- Whether the cycle failed, and the last error there was. -/
def errors (controller : Controller T L) : Bool × Option Error :=
  (controller.cycleError, controller.lastError)

/-- What is left of an answer, for a controller that knew an error before. -/
def remembered (known : Option Error) : Except Error Unit → Bool × Option Error
  | .ok _ => (false, known)
  | .error error => (true, some error)

section Errors

variable [Log.Logger L]

theorem log_errors (controller : Controller T L) (level : Log.Level) (mask : Log.Mask)
    (message : String) :
    (controller.log level mask message).value.1.errors = controller.errors := by
  unfold log
  cases controller.logger <;> rfl

theorem processLog_errors (controller : Controller T L) :
    controller.processLog.value.errors = controller.errors := by
  unfold processLog
  cases controller.logger <;> rfl

variable [Transport T]

theorem openSession_errors {controller : Controller T L} {known : Option Error}
    (before : controller.errors = (false, known)) :
    controller.openSession.value.errors =
      remembered known controller.link.connect.value.2 := by
  unfold openSession
  rcases controller.link.connect with ⟨⟨link, answer⟩, marks⟩
  cases answer with
  | ok done => exact before
  | error error => rfl

/-- Whatever a request for a session is answered, it is remembered. -/
theorem connect_errors {controller : Controller T L} {known : Option Error}
    (before : controller.errors = (false, known)) :
    controller.connect.value.errors = remembered known controller.link.connect.value.2 := by
  let asking : Controller T L := { controller with phase := .waitStart, active := true }
  let logged := asking.log .success .user s!"starting {asking.link.instanceName} application.."
  have keeps : asking.Keeps logged.value.1 := (asking.log_keeps .success .user _).1
  have told : logged.value.1.errors = asking.errors := asking.log_errors .success .user _
  have opened := openSession_errors (told.trans before)
  rw [keeps.link_eq] at opened
  exact opened

/-- Ending a session is asked only if there is something to end, and so it never fails. -/
theorem teardown_errors (controller : Controller T L) :
    controller.teardown.value.errors = controller.errors := by
  have ended : controller.disconnect.value.errors = controller.errors := by
    unfold disconnect
    split
    · rename_i something
      have granted := Link.disconnect_granted something
      rcases done : controller.link.disconnect with ⟨⟨link, answer⟩, marks⟩
      rw [done] at granted
      cases granted
      rfl
    · rfl
  rw [← ended]
  unfold teardown
  rw [Trail.value_bind]
  cases controller.disconnect.value.active <;> rfl

theorem cycle_connecting_errors {controller : Controller T L}
    (phase : controller.phase = .connecting) (go : Bool) :
    (controller.cycle true go).value.errors =
      remembered controller.lastError controller.link.connect.value.2 := by
  let begun : Controller T L := { controller with cycleError := false }
  have asked : begun.connect.value.errors = _ := connect_errors rfl
  rw [cycle, Trail.value_bind, processLog_errors]
  change (begun.advance true go).value.errors = _
  rw [advance, (phase : begun.phase = .connecting)]
  exact asked

theorem cycle_teardown_errors {controller : Controller T L} {enable : Bool}
    (due : controller.phase = .teardown ∨ enable = false ∧ controller.phase ≠ .idle) (go : Bool) :
    (controller.cycle enable go).value.errors = (false, controller.lastError) := by
  let begun : Controller T L := { controller with
    phase := if !enable && controller.phase != .idle then .teardown else controller.phase
    cycleError := false }
  have phase : begun.phase = .teardown := by
    rcases due with torn | ⟨off, busy⟩
    · simp [begun, torn]
    · simp [begun, off, busy]
  have kept : begun.teardown.value.errors = (false, controller.lastError) := begun.teardown_errors
  rw [cycle, Trail.value_bind, processLog_errors]
  change (begun.advance enable go).value.errors = _
  rw [advance, phase, Trail.value_bind, Trail.value_pure, settle, ← kept]
  cases enable <;> rfl

end Errors

/-! ## Every turn -/

/-- The controller and its link are in step. -/
structure InStep (controller : Controller T L) : Prop where
  ordered : controller.Ordered
  coupled : controller.Coupled
  informed : controller.link.Informed

theorem InStep.edited {controller after : Controller T L} (inStep : controller.InStep)
    (edited : controller.Edited after) : after.InStep := by
  refine ⟨edited.ordered inStep.ordered, ?_, ?_⟩
  · cases edited with
    | nothing => exact inStep.coupled
    | slot found sound seen state =>
        obtain ⟨resting, waiting, running, tearingDown⟩ := inStep.coupled
        refine ⟨fun rests => ?_, waiting, running, tearingDown⟩
        obtain ⟨rest, inactive⟩ := resting rests
        refine ⟨⟨rest.state, rest.session, fun channel inside => ?_⟩, inactive⟩
        rcases List.mem_or_eq_of_mem_set inside with old | rfl
        · exact rest.channels channel old
        · rw [state]
          exact rest.channels _ (List.mem_of_getElem? (slot?_eq_some.mp found).1)
  · cases edited with
    | nothing => exact inStep.informed
    | slot found sound seen state => exact inStep.informed

section Turns

variable [Transport T] [Log.Logger L]

theorem InStep.turn {controller : Controller T L} (inStep : controller.InStep) (turn : Turn T) :
    (controller.turn turn).InStep := by
  have ordered := inStep.ordered
  cases turn with
  | cycle enable go =>
      obtain ⟨coupled, informed⟩ :=
        cycle_coupled ordered.sound inStep.coupled inStep.informed enable go
      exact ⟨ordered.turn (.cycle enable go), coupled, informed⟩
  | setImage id payload => exact inStep.edited (written_edited ordered id payload)
  | updateBuffered id update => exact inStep.edited (updateBuffered_edited ordered id update)
  | meanwhile change =>
      obtain ⟨resting, waiting, running, tearingDown⟩ := inStep.coupled
      refine ⟨ordered.turn (.meanwhile change), ⟨fun rests => ?_, waiting, running, tearingDown⟩,
        inStep.informed⟩
      obtain ⟨⟨state, session, channels⟩, inactive⟩ := resting rests
      exact ⟨⟨state, session, channels⟩, inactive⟩

theorem InStep.turns {controller : Controller T L} (inStep : controller.InStep)
    (all : List (Turn T)) : (controller.turns all).InStep := by
  induction all generalizing controller with
  | nil => exact inStep
  | cons turn rest ih => exact ih (inStep.turn turn)

end Turns

theorem new_inStep {instanceName : String} {aliasName : Option String} {transport : T}
    {specs : List ChannelSpec} {link : Link T} (logger : Option L)
    (built : (Link.fresh instanceName aliasName transport).addChannels specs = .ok link) :
    (new link logger).InStep := by
  have ordered := new_ordered logger built
  obtain ⟨down, closed⟩ : link.MayConnect := ordered.rest (.inl rfl)
  obtain ⟨made, _⟩ := Link.addChannels_made built fun _ _ found => by cases found
  have rest : link.AtRest := by
    refine ⟨down, closed, fun channel inside => ?_⟩
    obtain ⟨id, found⟩ := List.getElem?_of_mem inside
    obtain ⟨spec, fresh⟩ := made id channel found
    exact fresh.state_eq
  refine ⟨ordered, .of_rest (.inl rfl) rest rfl, ?_⟩
  change link.Informed
  rw [Link.Informed, down]
  exact nofun

end Controller

/-! ## Every run -/

namespace World

variable {L : Type}

def InStep (world : World L) : Prop :=
  world.controller.InStep

variable [Log.Logger L]

theorem InStep.step {world : World L} (inStep : world.InStep) (input : Input) :
    (world.step input).value.InStep := by
  unfold InStep
  rw [step_controller]
  exact Controller.InStep.turn inStep input.turn

theorem InStep.run {world : World L} (inStep : world.InStep) (inputs : List Input) :
    (world.run inputs).value.InStep := by
  induction inputs generalizing world with
  | nil => exact inStep
  | cons input rest ih => exact ih (inStep.step input)

variable {instanceName : String} {aliasName : Option String} {specs : List ChannelSpec}
  {link : Link Simulator}

omit [Log.Logger L] in
theorem start_inStep (logger : Option L)
    (built : (Link.fresh instanceName aliasName {}).addChannels specs = .ok link) :
    (start link logger).InStep :=
  Controller.new_inStep logger built

/-- In every run the phase says where the link stands.  A cycle that is disabled ends idle; when a
cycle asks for a session the link may have one, and when it ends one there is something to end, so
that neither is refused by the link itself. -/
theorem lifecycles_stay_coupled (logger : Option L)
    (built : (Link.fresh instanceName aliasName {}).addChannels specs = .ok link)
    (inputs : List Input) :
    let controller := ((start link logger).run inputs).value.controller
    controller.Coupled ∧ ∀ enable go,
      let after := (controller.cycle enable go).value
      after.Coupled ∧
      (enable = false → after.phase = .idle) ∧
      (enable = true → controller.phase = .connecting →
        (∀ operation state, controller.link.connect.value.2 ≠ .error (.badState operation state)) ∧
        after.errors = Controller.remembered controller.lastError
          controller.link.connect.value.2) ∧
      (controller.phase = .teardown ∨ enable = false ∧ controller.phase ≠ .idle →
        (controller.link.isOpen = true ∨ controller.link.state ≠ .disconnected →
          controller.link.disconnect.value.2 = .ok ()) ∧
        after.errors = (false, controller.lastError)) := by
  intro controller
  obtain ⟨ordered, coupled, informed⟩ := (start_inStep logger built).run inputs
  refine ⟨coupled, fun enable go => ⟨?_, ?_, ?_, ?_⟩⟩
  · exact (Controller.cycle_coupled ordered.sound coupled informed enable go).1
  · rintro rfl
    exact controller.cycle_disabled go
  · rintro rfl phase
    obtain ⟨rest, _⟩ := coupled.resting (.inr (.inl phase))
    exact ⟨Link.connect_admitted rest, Controller.cycle_connecting_errors phase go⟩
  · intro due
    exact ⟨Link.disconnect_granted, Controller.cycle_teardown_errors due go⟩

def untilLoss : List Input :=
  [.cycle true true, .cycle true true, .cycle true true, .cycle true true,
    .peer (.inject (.linkStateChanged .disconnected none)), .cycle true true]

theorem lost_session_is_ended_without_error :
    let controller :=
      ((start oneWay (none : Option Log.Station)).run untilLoss).value.controller
    let after := (controller.cycle true true).value
    (Link.fresh "line" none {}).addChannels [⟨"setpoint", .publish, 1, none⟩] = .ok oneWay ∧
      controller.phase = .teardown ∧ controller.link.state = .disconnected ∧
      controller.link.isOpen = true ∧ controller.link.disconnect.value.2 = .ok () ∧
      after.phase = .teardownWait ∧ after.Coupled ∧ after.errors = (false, none) := by
  intro controller after
  have built : (Link.fresh "line" none {}).addChannels [⟨"setpoint", .publish, 1, none⟩] =
      .ok oneWay := rfl
  have phase : controller.phase = .teardown := by decide +kernel
  have opened : controller.link.isOpen = true := by decide +kernel
  have unharmed : controller.lastError = none := by decide +kernel
  obtain ⟨_, cycles⟩ := lifecycles_stay_coupled (none : Option Log.Station) built untilLoss
  obtain ⟨coupled, _, _, ends⟩ := cycles true true
  obtain ⟨granted, errors⟩ := ends (.inl phase)
  refine ⟨built, phase, by decide +kernel, opened, granted (.inl opened), by decide +kernel,
    coupled, errors.trans ?_⟩
  exact congrArg (false, ·) unharmed

end World

end DatasetSync
