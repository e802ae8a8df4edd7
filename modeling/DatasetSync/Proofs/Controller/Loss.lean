import DatasetSync.Proofs.Controller.Attempts
import DatasetSync.Proofs.Link.Moves

/-!
# What becomes of a lost connection

A controller looks at its link once in a cycle, after all that came in has been followed.  What it
does then is settled by the states the link went through meanwhile: an abort is final, and so always
seen; a lost connection is seen if the link is still down at the end.
-/

namespace DatasetSync

namespace Controller

variable {T L : Type}

/-- What a part of a cycle tells about the link is what the link went through. -/
def Follows (controller : Controller T L) (part : Trail Effect (Controller T L)) : Prop :=
  controller.link.Goes part.value.link part.linkStates

theorem Follows.bind {controller : Controller T L} {first : Trail Effect (Controller T L)}
    {next : Controller T L → Trail Effect (Controller T L)} (follows : controller.Follows first)
    (later : first.value.Follows (next first.value)) : controller.Follows (first >>= next) := by
  unfold Follows
  rw [Trail.linkStates_bind]
  exact follows.trans later

/-- A request to the link, and what the controller does with the answer. -/
theorem follows_request {α : Type} {controller : Controller T L}
    {asked : Trail Effect (Link T × α)} {next : Link T × α → Trail Effect (Controller T L)}
    (goes : controller.link.Goes asked.value.1 asked.linkStates)
    (later : ∀ answer,
      Follows { controller with link := asked.value.1 } (next (asked.value.1, answer))) :
    controller.Follows (asked >>= next) := by
  unfold Follows
  rw [Trail.linkStates_bind]
  exact goes.trans (later asked.value.2)

theorem follows_report {controller writer : Controller T L} {occasion : ControllerReport}
    {next : Trail Effect (Controller T L)} (later : controller.Follows next) :
    controller.Follows (writer.report occasion >>= fun _ => next) :=
  later

theorem conclude_follows (controller : Controller T L) :
    controller.Follows controller.conclude := by
  unfold conclude
  split
  · exact follows_report (Link.goes_nowhere rfl rfl)
  · exact Link.goes_nowhere rfl rfl

/-! ## Notes and the log -/

theorem tolerate_unheard (controller : Controller T L) (answer : Except Error Unit) :
    (controller.tolerate answer).linkStates = [] := by
  cases answer <;> rfl

section Logging

variable [Log.Logger L]

theorem logged_unheard {α : Type} (trail : Trail Log.Effect α) :
    (trail.select logEffect).linkStates = [] := by
  have notes : (trail.select logEffect).news = [] := by
    unfold Trail.news
    rw [Trail.marks_select, List.filterMap_filterMap]
    refine List.filterMap_eq_nil_iff.mpr fun effect _ => ?_
    unfold logEffect
    cases effect.note? <;> rfl
  rw [Trail.linkStates, notes]
  rfl

theorem log_unheard (controller : Controller T L) (level : Log.Level) (mask : Log.Mask)
    (message : String) : (controller.log level mask message).linkStates = [] := by
  unfold log
  cases controller.logger with
  | none => rfl
  | some logger =>
      rw [Trail.linkStates_bind, logged_unheard]
      rfl

theorem processLog_follows (controller : Controller T L) :
    controller.Follows controller.processLog := by
  obtain ⟨keeps, _⟩ := controller.processLog_keeps
  have unheard : controller.processLog.linkStates = [] := by
    unfold processLog
    cases controller.logger with
    | none => rfl
    | some logger =>
        rw [Trail.linkStates_bind, Trail.linkStates_bind, logged_unheard, tolerate_unheard]
        rfl
  unfold Follows
  rw [unheard, keeps.link_eq]
  exact Link.goes_nowhere rfl rfl

theorem recordError_follows (controller : Controller T L) (operation : String) (error : Error) :
    controller.Follows (controller.recordError operation error) := by
  obtain ⟨keeps, _⟩ := controller.recordError_keeps operation error
  have unheard : (controller.recordError operation error).linkStates = [] := by
    rw [recordError, Trail.linkStates_bind, Trail.linkStates_bind, log_unheard]
    rfl
  unfold Follows
  rw [unheard, keeps.link_eq]
  exact Link.goes_nowhere rfl rfl

theorem fail_follows (controller : Controller T L) (operation : String) (error : Error) :
    controller.Follows (controller.fail operation error) :=
  (controller.recordError_follows operation error).bind (Link.goes_nowhere rfl rfl)

/-! ## The parts of a cycle -/

variable [Transport T]

theorem publishChanges_follows (controller : Controller T L) (ids : List ChannelId) :
    controller.Follows (controller.publishChanges ids) := by
  induction ids generalizing controller with
  | nil => exact Link.goes_nowhere rfl rfl
  | cons id rest ih =>
      rw [publishChanges]
      cases controller.change? id with
      | none => exact ih controller
      | some value =>
          refine follows_request (controller.link.publish_goes id value) fun answer => ?_
          cases answer with
          | ok done =>
              let sent : Controller T L := { controller with
                link := (controller.link.publish id value).value.1
                shadow := controller.shadow.trySet id value }
              exact follows_report (ih sent)
          | error error =>
              dsimp only
              split
              · exact ih _
              · exact recordError_follows _ "publish" error

theorem flush_follows (controller : Controller T L) : controller.Follows controller.flush := by
  have rests := controller.copySubscriptions_rests
  have copied : controller.link.Goes controller.copySubscriptions.link [] := by
    rw [rests.link]
    exact Link.goes_nowhere rfl rfl
  exact copied.trans (controller.copySubscriptions.publishChanges_follows _)

theorem exchange_follows (controller : Controller T L) :
    controller.Follows controller.exchange := by
  have sequel (base : Controller T L) : base.Follows (base.flush >>= conclude) :=
    base.flush_follows.bind base.flush.value.conclude_follows
  let fetched : Controller T L := { controller with link := controller.link.process.value.1 }
  unfold exchange
  refine follows_request controller.link.process_goes fun answer => ?_
  cases answer with
  | ok count => exact sequel fetched
  | error error =>
      have recorded := fetched.recordError_follows "process" error
      exact recorded.bind (sequel (fetched.recordError "process" error).value)

theorem start_follows (controller : Controller T L) : controller.Follows controller.start := by
  unfold start
  cases controller.link.state with
  | connected =>
      let asked : Controller T L := { controller with
        link := controller.link.setOperational.value.1 }
      refine follows_request controller.link.setOperational_goes fun answer => ?_
      cases answer with
      | ok done => exact (asked.enter .running).exchange_follows
      | error error => exact asked.fail_follows "set operational" error
  | operational => exact (controller.enter .running).exchange_follows
  | disconnected => exact controller.exchange_follows
  | aborted => exact controller.exchange_follows

theorem run_follows (controller : Controller T L) (go : Bool) :
    controller.Follows (controller.run go) := by
  unfold run
  split
  · exact (controller.enter .waitStart).exchange_follows
  · split
    · exact controller.start_follows
    · exact controller.exchange_follows

/-- With a session open, the link goes through what its owner hears in the cycle. -/
theorem cycle_follows {controller : Controller T L}
    (phase : controller.phase = .waitStart ∨ controller.phase = .running) (go : Bool) :
    controller.Follows (controller.cycle true go) := by
  let begun : Controller T L := { controller with cycleError := false }
  have advances : begun.Follows (begun.advance true go) := by
    unfold advance
    rcases phase with waits | runs
    · rw [(waits : begun.phase = .waitStart)]
      exact begun.run_follows go
    · rw [(runs : begun.phase = .running)]
      exact begun.run_follows go
  exact advances.bind (begun.advance true go).value.processLog_follows

/-- After a cycle with a session open, the controller waits, runs or tears down. -/
theorem cycle_not_atRest {controller : Controller T L} (sound : controller.Sound)
    (phase : controller.phase = .waitStart ∨ controller.phase = .running) (go : Bool) :
    ¬ (controller.cycle true go).value.phase.AtRest := by
  have busy : ¬ controller.phase.AtRest :=
    Phase.not_atRest (phase.imp id .inl)
  have outcome := controller.cycle_cases true go
  generalize (controller.cycle true go).value = after,
    (controller.cycle true go).calls = calls at outcome ⊢
  cases outcome with
  | idle idle stands => exact absurd (.inl idle) busy
  | waited enabled waits stands => exact absurd (.inr (.inr waits)) busy
  | connected enabled connecting outcome stands => exact absurd (.inr (.inl connecting)) busy
  | @ran begun ran _ _ enabled phase begins outcome keeps =>
      rw [keeps.phase_eq]
      exact outcome.not_atRest (begins.sound sound)
  | ended active due outcome stands =>
      rcases due with torn | disabled
      · rcases phase with waits | runs
        · cases waits.symm.trans torn
        · cases runs.symm.trans torn
      · cases disabled

end Logging

/-! ## The look at the end -/

namespace Coupled

variable {controller : Controller T L}

/-- Waiting and running, the link is not down. -/
theorem not_down (coupled : controller.Coupled)
    (phase : controller.phase = .waitStart ∨ controller.phase = .running) :
    ¬ controller.link.Down := by
  rintro (aborted | ⟨known, dropped⟩)
  · rcases phase with waits | runs
    · exact (coupled.waiting waits).2.1 aborted
    · rcases (coupled.running runs).2.1 with connected | top
      · cases aborted.symm.trans connected
      · cases aborted.symm.trans top
  · rcases phase with waits | runs
    · obtain ⟨opened, _, kept, _⟩ := coupled.waiting waits
      have lost := Link.lostConnection_eq_true.mpr
        ⟨Option.isSome_iff_ne_none.mp opened, known, dropped⟩
      rw [kept] at lost
      cases lost
    · rcases (coupled.running runs).2.1 with connected | top
      · cases dropped.symm.trans connected
      · cases dropped.symm.trans top

theorem teardown_iff (coupled : controller.Coupled) (busy : ¬ controller.phase.AtRest) :
    controller.phase = .teardown ↔ controller.link.Down := by
  constructor
  · intro torn
    rcases (coupled.tearingDown torn).1 with aborted | lost
    · exact .inl aborted
    · exact .inr (Link.lostConnection_eq_true.mp lost).2
  · intro down
    cases phase : controller.phase with
    | idle => exact absurd (.inl phase) busy
    | connecting => exact absurd (.inr (.inl phase)) busy
    | teardownWait => exact absurd (.inr (.inr phase)) busy
    | waitStart => exact absurd down (coupled.not_down (.inl phase))
    | running => exact absurd down (coupled.not_down (.inr phase))
    | teardown => rfl

end Coupled

/-! ## Every run -/

section Runs

variable [Transport T] [Log.Logger L] {instanceName : String} {aliasName : Option String}
  {transport : T} {specs : List ChannelSpec} {link : Link T}

/-- Whatever happens before, and whatever the transport does, a cycle with a session open ends in
teardown if and only if the link was aborted in it, or the last that was told about the link is that
it lost its connection.  So a loss is overlooked in one case only: the link is connected again by
the end of the cycle. -/
theorem loss_ends_in_teardown_unless_restored (logger : Option L)
    (built : (Link.fresh instanceName aliasName transport).addChannels specs = .ok link)
    (earlier : List (Turn T)) (go : Bool) :
    let before := (new link logger).turns earlier
    let cycle := before.cycle true go
    before.phase = .waitStart ∨ before.phase = .running →
      before.link.state.Path cycle.linkStates cycle.value.link.state ∧
      (cycle.value.phase = .teardown ↔
        .aborted ∈ cycle.linkStates ∨ cycle.linkStates.getLast? = some .disconnected) ∧
      (.disconnected ∈ cycle.linkStates →
        cycle.value.phase = .teardown ∨ cycle.value.link.state.isConnected = true) := by
  intro before cycle phase
  obtain ⟨ordered, coupled, informed⟩ := (new_inStep logger built).turns earlier
  have goes : before.link.Goes cycle.value.link cycle.linkStates := cycle_follows phase go
  have coupledAfter : cycle.value.Coupled :=
    (cycle_coupled ordered.sound coupled informed true go).1
  have ends := coupledAfter.teardown_iff (cycle_not_atRest ordered.sound phase go)
  refine ⟨goes.path, ends.trans (goes.down_iff informed (coupled.not_down phase)), ?_⟩
  intro dropped
  have known : cycle.value.link.connectedOnce = true := by
    refine (goes.connectedOnce informed).mpr ?_
    exact (goes.path.connected_of_dropped dropped).imp informed id
  cases state : cycle.value.link.state with
  | disconnected => exact .inl (ends.mpr (.inr ⟨known, state⟩))
  | connected => exact .inr rfl
  | operational => exact .inr rfl
  | aborted => exact .inl (ends.mpr (.inl state))

end Runs

def runningUntil (announced : List ConnectionState) : List (Turn Simulator) :=
  [.cycle true true, .cycle true true, .cycle true true, .cycle true true] ++
    announced.map fun state => .meanwhile fun sim => sim.inject (.linkStateChanged state none)

theorem second_loss_ends_in_teardown :
    let earlier := runningUntil [.disconnected, .connected, .disconnected]
    let before := (new World.oneWay (none : Option Log.Station)).turns earlier
    let cycle := before.cycle true true
    (Link.fresh "line" none {}).addChannels [⟨"setpoint", .publish, 1, none⟩] =
        .ok World.oneWay ∧
      before.phase = .running ∧
      cycle.linkStates = [.disconnected, .connected, .disconnected] ∧
      cycle.value.phase = .teardown := by
  have built : (Link.fresh "line" none {}).addChannels [⟨"setpoint", .publish, 1, none⟩] =
      .ok World.oneWay := rfl
  have running : ((new World.oneWay (none : Option Log.Station)).turns
      (runningUntil [.disconnected, .connected, .disconnected])).phase = .running := by
    decide +kernel
  have told : (((new World.oneWay (none : Option Log.Station)).turns
      (runningUntil [.disconnected, .connected, .disconnected])).cycle true true).linkStates =
        [.disconnected, .connected, .disconnected] := by decide +kernel
  -- From here on the theorem speaks for the turns, which need not be computed again.
  generalize runningUntil [.disconnected, .connected, .disconnected] = earlier at *
  obtain ⟨_, ends, _⟩ := loss_ends_in_teardown_unless_restored (none : Option Log.Station) built
    earlier true (.inr running)
  refine ⟨built, running, told, ends.mpr (.inr ?_)⟩
  rw [told]
  rfl

/-- A connection that is lost and restored before the controller looks goes unseen. -/
theorem restored_loss_goes_unseen :
    let before := (new World.oneWay (none : Option Log.Station)).turns
      (runningUntil [.disconnected, .connected])
    let cycle := before.cycle true true
    (Link.fresh "line" none {}).addChannels [⟨"setpoint", .publish, 1, none⟩] =
        .ok World.oneWay ∧
      before.phase = .running ∧ before.link.state = .operational ∧
      cycle.linkStates = [.disconnected, .connected] ∧ cycle.value.phase = .running := by
  decide +kernel

end Controller

end DatasetSync
