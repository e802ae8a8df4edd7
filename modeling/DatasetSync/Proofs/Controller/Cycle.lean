import DatasetSync.Controller
import DatasetSync.Proofs.Link.Requests

/-!
# What a cycle of a controller comes to

A cycle does one of six things with its link, depending on the phase and on what it is told.  The
logger and the record of errors have no part in it, so they are left out of what is said about a
controller here.
-/

namespace DatasetSync.Controller

variable {T L : Type}

/-- A controller up to its record of errors and its logger. -/
structure Stands (controller : Controller T L) (link : Link T) (image shadow : Image)
    (phase : Phase) (active : Bool) : Prop where
  link_eq : controller.link = link
  image_eq : controller.image = image
  shadow_eq : controller.shadow = shadow
  phase_eq : controller.phase = phase
  active_eq : controller.active = active

/-- Nothing but the record of errors and the logger has changed. -/
def Keeps (controller after : Controller T L) : Prop :=
  after.Stands controller.link controller.image controller.shadow controller.phase controller.active

theorem Keeps.refl (controller : Controller T L) : controller.Keeps controller :=
  ⟨rfl, rfl, rfl, rfl, rfl⟩

theorem Keeps.stands {controller after : Controller T L} (keeps : controller.Keeps after)
    {link : Link T} {image shadow : Image} {phase : Phase} {active : Bool}
    (stands : controller.Stands link image shadow phase active) :
    after.Stands link image shadow phase active :=
  ⟨keeps.link_eq.trans stands.link_eq, keeps.image_eq.trans stands.image_eq,
    keeps.shadow_eq.trans stands.shadow_eq, keeps.phase_eq.trans stands.phase_eq,
    keeps.active_eq.trans stands.active_eq⟩

theorem calls_tolerate (controller : Controller T L) (answer : Except Error Unit) :
    (controller.tolerate answer).calls = [] := by
  cases answer <;> rfl

section Logging

variable [Log.Logger L]

theorem calls_logged {α : Type} (trail : Trail Log.Effect α) :
    (trail.select logEffect).calls = [] := by
  unfold Trail.calls
  rw [Trail.marks_select, List.filterMap_filterMap]
  refine List.filterMap_eq_nil_iff.mpr fun effect _ => ?_
  unfold logEffect
  cases effect.note? <;> rfl

theorem log_keeps (controller : Controller T L) (level : Log.Level) (mask : Log.Mask)
    (message : String) :
    controller.Keeps (controller.log level mask message).value.1 ∧
      (controller.log level mask message).calls = [] := by
  unfold log
  cases controller.logger with
  | none => exact ⟨.refl controller, rfl⟩
  | some logger =>
      refine ⟨⟨rfl, rfl, rfl, rfl, rfl⟩, ?_⟩
      rw [Trail.calls_bind, calls_logged]
      rfl

theorem processLog_keeps (controller : Controller T L) :
    controller.Keeps controller.processLog.value ∧ controller.processLog.calls = [] := by
  unfold processLog
  cases controller.logger with
  | none => exact ⟨.refl controller, rfl⟩
  | some logger =>
      refine ⟨⟨rfl, rfl, rfl, rfl, rfl⟩, ?_⟩
      rw [Trail.calls_bind, Trail.calls_bind, calls_logged, calls_tolerate]
      rfl

theorem recordError_keeps (controller : Controller T L) (operation : String) (error : Error) :
    controller.Keeps (controller.recordError operation error).value ∧
      (controller.recordError operation error).calls = [] := by
  obtain ⟨keeps, calls⟩ :=
    controller.log_keeps .error .always s!"{operation} failed: {error.message}"
  refine ⟨⟨keeps.link_eq, keeps.image_eq, keeps.shadow_eq, keeps.phase_eq, keeps.active_eq⟩, ?_⟩
  rw [recordError, Trail.calls_bind, Trail.calls_bind, calls]
  rfl

/-- A failure that ends the session leads to teardown and nowhere else. -/
theorem fail_stands (controller : Controller T L) (operation : String) (error : Error) :
    (controller.fail operation error).value.Stands controller.link controller.image
        controller.shadow .teardown controller.active ∧
      (controller.fail operation error).calls = [] := by
  obtain ⟨keeps, calls⟩ := controller.recordError_keeps operation error
  refine ⟨⟨keeps.link_eq, keeps.image_eq, keeps.shadow_eq, rfl, keeps.active_eq⟩, ?_⟩
  rw [fail, Trail.calls_bind, calls]
  rfl

end Logging

/-! ## The parts of a cycle -/

/-- Teardown is due once the connection is gone. -/
def concluded (controller : Controller T L) : Controller T L :=
  if controller.link.state = .aborted ∨ controller.link.lostConnection then
    controller.enter .teardown
  else controller

theorem concluded_stands (controller : Controller T L) :
    ∃ phase, (phase = controller.phase ∨ phase = .teardown) ∧
      controller.concluded.Stands controller.link controller.image controller.shadow phase
        controller.active := by
  unfold concluded
  split
  · exact ⟨.teardown, .inr rfl, rfl, rfl, rfl, rfl, rfl⟩
  · exact ⟨controller.phase, .inl rfl, rfl, rfl, rfl, rfl, rfl⟩

def conclude (controller : Controller T L) : Trail Effect (Controller T L) := do
  if controller.link.state = .aborted ∨ controller.link.lostConnection then
    controller.report (.tearingDown controller.link.state)
    return controller.enter .teardown
  else
    return controller

theorem conclude_eq (controller : Controller T L) :
    controller.conclude.value = controller.concluded ∧ controller.conclude.calls = [] := by
  unfold conclude concluded
  split <;> exact ⟨rfl, rfl⟩

section Parts

variable [Transport T] [Log.Logger L]

def openSession (controller : Controller T L) : Trail Effect (Controller T L) := do
  let (link, answer) ← controller.link.connect
  match answer with
  | .ok _ => return { controller with link }
  | .error error => fail { controller with link } "connect" error

theorem openSession_stands (controller : Controller T L) :
    controller.openSession.value.Stands controller.link.connect.value.1 controller.image
        controller.shadow
        (if controller.link.connect.value.2.isOk then controller.phase else .teardown)
        controller.active ∧
      controller.openSession.calls = controller.link.connect.calls := by
  unfold openSession
  rcases controller.link.connect with ⟨⟨link, answer⟩, marks⟩
  cases answer with
  | ok done =>
      refine ⟨⟨rfl, rfl, rfl, rfl, rfl⟩, ?_⟩
      rw [Trail.calls_bind]
      exact List.append_nil _
  | error error =>
      obtain ⟨stands, calls⟩ := fail_stands { controller with link } "connect" error
      refine ⟨stands, ?_⟩
      rw [Trail.calls_bind, calls]
      exact List.append_nil _

/-- Opening a session is told to the log and then asked of the link. -/
theorem connect_stands (controller : Controller T L) :
    controller.connect.value.Stands controller.link.connect.value.1 controller.image
        controller.shadow (if controller.link.connect.value.2.isOk then .waitStart else .teardown)
        true ∧
      controller.connect.calls = controller.link.connect.calls := by
  let asking : Controller T L := { controller with phase := .waitStart, active := true }
  let logged := asking.log .success .user s!"starting {asking.link.instanceName} application.."
  obtain ⟨keeps, unasked⟩ : asking.Keeps logged.value.1 ∧ logged.calls = [] :=
    asking.log_keeps .success .user _
  obtain ⟨stands, calls⟩ := logged.value.1.openSession_stands
  rw [keeps.link_eq, keeps.image_eq, keeps.shadow_eq, keeps.phase_eq, keeps.active_eq] at stands
  rw [keeps.link_eq] at calls
  refine ⟨stands, ?_⟩
  rw [connect, Trail.calls_bind, Trail.calls_bind]
  change [] ++ (logged.calls ++ (logged.value.1.tolerate logged.value.2 >>= fun _ =>
    logged.value.1.openSession).calls) = _
  rw [unasked, Trail.calls_bind, calls_tolerate, calls]
  rfl

/-- What came in is copied, and what changed is sent. -/
def flush (controller : Controller T L) : Trail Effect (Controller T L) :=
  controller.copySubscriptions.publishChanges (List.range controller.copySubscriptions.image.size)

/-- An exchange polls, copies, sends, and looks whether the connection still stands. -/
theorem exchange_eq (controller : Controller T L) :
    ∃ base, Keeps { controller with link := controller.link.process.value.1 } base ∧
      controller.exchange.value = base.flush.value.concluded ∧
      controller.exchange.calls = controller.link.process.calls ++ base.flush.calls := by
  have sequel (base : Controller T L) :
      (base.flush >>= conclude).value = base.flush.value.concluded ∧
        (base.flush >>= conclude).calls = base.flush.calls := by
    obtain ⟨value, calls⟩ := base.flush.value.conclude_eq
    rw [Trail.value_bind, Trail.calls_bind, value, calls, List.append_nil]
    exact ⟨rfl, rfl⟩
  rcases processed : controller.link.process with ⟨⟨link, answer⟩, marks⟩
  cases answer with
  | ok count =>
      obtain ⟨value, calls⟩ := sequel { controller with link }
      refine ⟨{ controller with link }, .refl _, ?_, ?_⟩
      · rw [← value, exchange, processed]
        rfl
      · rw [← calls, exchange, processed, Trail.calls_bind]
        rfl
  | error error =>
      obtain ⟨keeps, unasked⟩ :=
        recordError_keeps { controller with link } "process" error
      obtain ⟨value, calls⟩ := sequel (recordError { controller with link } "process" error).value
      refine ⟨_, keeps, ?_, ?_⟩
      · rw [← value, exchange, processed]
        rfl
      · rw [← calls, exchange, processed, Trail.calls_bind]
        change _ ++ (recordError _ _ _ >>= _).calls = _
        rw [Trail.calls_bind, unasked]
        rfl

/-- The controller that is about to exchange values, and the requests made until then.  Running
begins with a promotion, unless the link is operational already. -/
inductive Ready (controller : Controller T L) (go : Bool) : Controller T L → List Call → Prop where
  | halted (waits : go = false) : Ready controller go (controller.enter .waitStart) []
  | waiting (phase : controller.phase = .waitStart) (started : go = true)
      (unconnected : controller.link.state.isConnected = false) : Ready controller go controller []
  | promoted {link : Link T} {calls : List Call} (phase : controller.phase = .waitStart)
      (started : go = true) (connected : controller.link.state = .connected)
      (outcome : Link.Promoting controller.link link (.ok ()) calls) :
      Ready controller go { controller with link, phase := .running } calls
  | operational (phase : controller.phase = .waitStart) (started : go = true)
      (top : controller.link.state = .operational) :
      Ready controller go (controller.enter .running) []
  | running (phase : controller.phase = .running) (started : go = true) :
      Ready controller go controller []

/-- What a cycle with a session open comes to. -/
inductive Running (controller : Controller T L) (go : Bool) :
    Controller T L → List Call → Prop where
  | exchanged {ready : Controller T L} {calls : List Call}
      (prepared : Ready controller go ready calls) :
      Running controller go ready.exchange.value (calls ++ ready.exchange.calls)
  | refused {after : Controller T L} {link : Link T} {error : Error} {calls : List Call}
      (phase : controller.phase = .waitStart) (started : go = true)
      (connected : controller.link.state = .connected)
      (outcome : Link.Promoting controller.link link (.error error) calls)
      (stands : after.Stands link controller.image controller.shadow .teardown controller.active) :
      Running controller go after calls

theorem start_cases {controller : Controller T L} (phase : controller.phase = .waitStart) :
    Running controller true controller.start.value controller.start.calls := by
  unfold start
  cases state : controller.link.state with
  | connected =>
      have outcome := controller.link.setOperational_cases
      rcases promoted : controller.link.setOperational with ⟨⟨link, answer⟩, marks⟩
      rw [promoted] at outcome
      simp only [Trail.value_bind, Trail.calls_bind]
      cases answer with
      | ok done => exact .exchanged (.promoted phase rfl state outcome)
      | error error =>
          obtain ⟨stands, calls⟩ := fail_stands { controller with link } "set operational" error
          rw [calls, List.append_nil]
          exact .refused phase rfl state outcome stands
  | operational => exact .exchanged (.operational phase rfl state)
  | disconnected => exact .exchanged (.waiting phase rfl (by rw [state]; rfl))
  | aborted => exact .exchanged (.waiting phase rfl (by rw [state]; rfl))

theorem run_cases {controller : Controller T L}
    (phase : controller.phase = .waitStart ∨ controller.phase = .running) (go : Bool) :
    Running controller go (controller.run go).value (controller.run go).calls := by
  unfold run
  cases go with
  | false => exact .exchanged (.halted rfl)
  | true =>
      by_cases waits : controller.phase = .waitStart
      · simp only [Bool.not_true, Bool.false_eq_true, ↓reduceIte, if_pos waits]
        exact start_cases waits
      · simp only [Bool.not_true, Bool.false_eq_true, ↓reduceIte, if_neg waits]
        exact .exchanged (.running (phase.resolve_left waits) rfl)

theorem disconnect_cases (controller : Controller T L) :
    ∃ link answer, Link.Disconnecting controller.link link answer controller.disconnect.calls ∧
      controller.disconnect.value.Stands link controller.image controller.shadow controller.phase
        controller.active := by
  unfold disconnect
  split
  · have outcome := controller.link.disconnect_cases
    rcases ended : controller.link.disconnect with ⟨⟨link, answer⟩, marks⟩
    rw [ended] at outcome
    simp only [Trail.value_bind, Trail.calls_bind]
    cases answer with
    | ok done =>
        rw [Trail.calls_pure, List.append_nil]
        exact ⟨link, _, outcome, rfl, rfl, rfl, rfl, rfl⟩
    | error error =>
        obtain ⟨keeps, calls⟩ := recordError_keeps { controller with link } "disconnect" error
        rw [calls, List.append_nil]
        exact ⟨link, _, outcome, keeps⟩
  · rename_i nothing
    refine ⟨controller.link, _, .refused ?_, rfl, rfl, rfl, rfl, rfl⟩
    rintro (state | session)
    · exact nothing (.inr state)
    · exact nothing (.inl (Option.isSome_iff_ne_none.mpr session))

/-- Teardown ends what there is to end. -/
theorem teardown_cases (controller : Controller T L) :
    ∃ link answer, Link.Disconnecting controller.link link answer controller.teardown.calls ∧
      controller.teardown.value.Stands link controller.image controller.shadow .teardownWait
        false := by
  obtain ⟨link, answer, outcome, stands⟩ := controller.disconnect_cases
  have calls : controller.teardown.calls = controller.disconnect.calls := by
    unfold teardown
    rw [Trail.calls_bind]
    cases controller.disconnect.value.active <;> exact List.append_nil _
  have value : controller.teardown.value =
      { controller.disconnect.value with active := false, phase := .teardownWait } := by
    unfold teardown
    rw [Trail.value_bind]
    cases controller.disconnect.value.active <;> rfl
  rw [calls, value]
  exact ⟨link, answer, outcome, stands.link_eq, stands.image_eq, stands.shadow_eq, rfl, rfl⟩

/-- What a cycle comes to. -/
inductive Cycling (controller : Controller T L) (enable go : Bool) :
    Controller T L → List Call → Prop where
  | idle {after : Controller T L} (phase : controller.phase = .idle)
      (stands : after.Stands controller.link controller.image controller.shadow
        (if enable then .connecting else .idle) controller.active) :
      Cycling controller enable go after []
  | waited {after : Controller T L} (enabled : enable = true)
      (phase : controller.phase = .teardownWait) (stands : controller.Keeps after) :
      Cycling controller enable go after []
  | connected {after : Controller T L} {link : Link T} {answer : Except Error Unit}
      {calls : List Call} (enabled : enable = true) (phase : controller.phase = .connecting)
      (outcome : Link.Connecting controller.link link answer calls)
      (stands : after.Stands link controller.image controller.shadow
        (if answer.isOk then .waitStart else .teardown) true) :
      Cycling controller enable go after calls
  | ran {begun ran after : Controller T L} {calls : List Call} (enabled : enable = true)
      (phase : controller.phase = .waitStart ∨ controller.phase = .running)
      (begins : controller.Keeps begun) (outcome : Running begun go ran calls)
      (keeps : ran.Keeps after) : Cycling controller enable go after calls
  | ended {after : Controller T L} {link : Link T} {answer : Except Error Unit}
      {calls : List Call} (phase : controller.phase ≠ .idle)
      (due : controller.phase = .teardown ∨ enable = false)
      (outcome : Link.Disconnecting controller.link link answer calls)
      (stands : after.Stands link controller.image controller.shadow
        (if enable then .teardownWait else .idle) false) :
      Cycling controller enable go after calls

theorem advance_teardown {controller : Controller T L} (phase : controller.phase = .teardown)
    (enable go : Bool) :
    ∃ link answer,
      Link.Disconnecting controller.link link answer (controller.advance enable go).calls ∧
        (controller.advance enable go).value.Stands link controller.image controller.shadow
          (if enable then .teardownWait else .idle) false := by
  obtain ⟨link, answer, outcome, stands⟩ := controller.teardown_cases
  refine ⟨link, answer, ?_, ?_⟩
  · rw [advance, phase, Trail.calls_bind, Trail.calls_pure, List.append_nil]
    exact outcome
  · rw [advance, phase, Trail.value_bind, Trail.value_pure, settle]
    cases enable with
    | true => exact stands
    | false => exact ⟨stands.link_eq, stands.image_eq, stands.shadow_eq, rfl, stands.active_eq⟩

/-- A cycle that begins in the phase the controller was in. -/
theorem advance_cases {controller begun after : Controller T L} {enable go : Bool}
    (on : enable = true ∨ controller.phase = .idle) (begins : controller.Keeps begun)
    (keeps : (begun.advance enable go).value.Keeps after) :
    Cycling controller enable go after (begun.advance enable go).calls := by
  have enabled (busy : begun.phase ≠ .idle) : enable = true := by
    rw [begins.phase_eq] at busy
    exact on.resolve_right busy
  have same {other : Phase} (phase : begun.phase = other) : controller.phase = other :=
    begins.phase_eq.symm.trans phase
  cases phase : begun.phase with
  | idle =>
      rw [advance, phase] at keeps ⊢
      refine .idle (same phase) (keeps.stands ?_)
      rw [← begins.link_eq, ← begins.image_eq, ← begins.shadow_eq, ← begins.active_eq]
      cases enable with
      | true => exact ⟨rfl, rfl, rfl, rfl, rfl⟩
      | false => exact ⟨rfl, rfl, rfl, phase, rfl⟩
  | connecting =>
      obtain ⟨stands, calls⟩ := begun.connect_stands
      have outcome := begun.link.connect_cases
      rw [begins.link_eq, begins.image_eq, begins.shadow_eq] at stands
      rw [begins.link_eq] at outcome calls
      rw [advance, phase] at keeps ⊢
      simp only [calls]
      exact .connected (enabled (by rw [phase]; decide)) (same phase) outcome (keeps.stands stands)
  | waitStart =>
      rw [advance, phase] at keeps ⊢
      exact .ran (enabled (by rw [phase]; decide)) (.inl (same phase)) begins
        (run_cases (.inl phase) go) keeps
  | running =>
      rw [advance, phase] at keeps ⊢
      exact .ran (enabled (by rw [phase]; decide)) (.inr (same phase)) begins
        (run_cases (.inr phase) go) keeps
  | teardown =>
      obtain ⟨link, answer, outcome, stands⟩ := advance_teardown phase enable go
      rw [begins.image_eq, begins.shadow_eq] at stands
      rw [begins.link_eq] at outcome
      exact .ended (by rw [same phase]; decide) (.inl (same phase)) outcome (keeps.stands stands)
  | teardownWait =>
      have on := enabled (by rw [phase]; decide)
      rw [advance, phase] at keeps ⊢
      refine .waited on (same phase) (keeps.stands ?_)
      rw [on]
      exact begins

theorem cycle_cases (controller : Controller T L) (enable go : Bool) :
    Cycling controller enable go (controller.cycle enable go).value
      (controller.cycle enable go).calls := by
  let begun : Controller T L := { controller with
    phase := if !enable && controller.phase != .idle then .teardown else controller.phase
    cycleError := false }
  obtain ⟨keeps, calls⟩ := (begun.advance enable go).value.processLog_keeps
  rw [cycle, Trail.calls_bind, calls, List.append_nil]
  change Cycling controller enable go (begun.advance enable go).value.processLog.value
    (begun.advance enable go).calls
  by_cases off : enable = false ∧ controller.phase ≠ .idle
  · have phase : begun.phase = .teardown := by
      simp [begun, off.1, off.2]
    obtain ⟨link, answer, outcome, stands⟩ := advance_teardown phase enable go
    exact .ended off.2 (.inr off.1) outcome (keeps.stands stands)
  · have on : enable = true ∨ controller.phase = .idle := by
      cases enable with
      | true => exact .inl rfl
      | false => exact .inr (by simpa using off)
    have begins : controller.Keeps begun := by
      refine ⟨rfl, rfl, rfl, ?_, rfl⟩
      rcases on with enabled | idle
      · simp [begun, enabled]
      · simp [begun, idle]
    exact advance_cases on begins keeps

end Parts

end DatasetSync.Controller
