import DatasetSync.Proofs.Controller.World

/-!
# Logging does not influence control

A controller tells its logger about starts and failures and lets it look for news in every cycle.
Whatever the logger does then, and whatever happens to it between the cycles, the controller goes on
as it would without one: it deals with the transport and with the owner of the link in the same way,
answers the task the same, and comes to the same state.  Only notes can tell the difference.
-/

namespace DatasetSync

/-! ## Dealings -/

namespace Trail

variable {α β : Type}

/-- The effects that are more than notes: the requests to the transport and the events the owner
hears of, in the order in which they happened. -/
def dealings (trail : Trail Effect α) : List Effect :=
  trail.marks.filter fun effect => effect.note?.isNone

@[simp] theorem dealings_bind (first : Trail Effect α) (next : α → Trail Effect β) :
    (first >>= next).dealings = first.dealings ++ (next first.value).dealings :=
  List.filter_append ..

end Trail

namespace Controller

variable {T L : Type}

def unlogged (controller : Controller T L) : Controller T L :=
  { controller with logger := none }

def logging (controller : Controller T L) (logger : Option L) : Controller T L :=
  { controller with logger }

/-- Two controllers that differ in nothing but their loggers. -/
theorem eq_logging {first second : Controller T L} (same : first.unlogged = second.unlogged) :
    second = first.logging second.logger := by
  cases first
  cases second
  cases same
  rfl

theorem eq_logging_none {controller : Controller T L} (without : controller.logger = none) :
    controller = controller.logging none := by
  rw [logging, ← without]

/-! ## The logger -/

theorem dealings_logged {α : Type} (trail : Trail Log.Effect α) :
    (trail.select logEffect).dealings = [] := by
  unfold Trail.dealings
  rw [Trail.marks_select]
  refine List.filter_eq_nil_iff.mpr fun effect member => ?_
  obtain ⟨mark, _, logged⟩ := List.mem_filterMap.mp member
  obtain ⟨line, _, rfl⟩ := Option.map_eq_some_iff.mp logged
  exact Bool.false_ne_true

theorem dealings_tolerate (controller : Controller T L) (answer : Except Error Unit) :
    (controller.tolerate answer).dealings = [] := by
  cases answer <;> rfl

section Logger

variable [Log.Logger L]

/-- A message to the log changes the logger and nothing else. -/
theorem log_eq (controller : Controller T L) (level : Log.Level) (mask : Log.Mask)
    (message : String) :
    (∃ logger, (controller.log level mask message).value.1 = controller.logging logger) ∧
      (controller.log level mask message).dealings = [] := by
  unfold log
  cases there : controller.logger with
  | none => exact ⟨⟨none, eq_logging_none there⟩, rfl⟩
  | some logger =>
      refine ⟨⟨_, rfl⟩, ?_⟩
      rw [Trail.dealings_bind, dealings_logged]
      rfl

theorem processLog_eq (controller : Controller T L) :
    (∃ logger, controller.processLog.value = controller.logging logger) ∧
      controller.processLog.dealings = [] := by
  unfold processLog
  cases there : controller.logger with
  | none => exact ⟨⟨none, eq_logging_none there⟩, rfl⟩
  | some logger =>
      refine ⟨⟨_, rfl⟩, ?_⟩
      rw [Trail.dealings_bind, Trail.dealings_bind, dealings_logged, dealings_tolerate]
      rfl

def faulty (controller : Controller T L) (error : Error) : Controller T L :=
  { controller with cycleError := true, lastError := some error }

theorem recordError_eq (controller : Controller T L) (operation : String) (error : Error) :
    (∃ logger, (controller.recordError operation error).value =
        (controller.faulty error).logging logger) ∧
      (controller.recordError operation error).dealings = [] := by
  obtain ⟨⟨logger, value⟩, quiet⟩ :=
    controller.log_eq .error .always s!"{operation} failed: {error.message}"
  refine ⟨⟨logger, ?_⟩, ?_⟩
  · rw [recordError]
    simp only [Trail.value_bind, Trail.value_pure, value]
    rfl
  · rw [recordError, Trail.dealings_bind, Trail.dealings_bind, quiet]
    rfl

end Logger

/-! ## Two controllers side by side -/

/-- Two parts of a cycle come to the same but for the logger and the notes. -/
structure Agree (first second : Trail Effect (Controller T L)) : Prop where
  value : first.value.unlogged = second.value.unlogged
  dealings : first.dealings = second.dealings

namespace Agree

variable {first second : Trail Effect (Controller T L)}

theorem of_value {controller other : Controller T L}
    (same : controller.unlogged = other.unlogged) :
    Agree (pure controller : Trail Effect (Controller T L)) (pure other) :=
  ⟨same, rfl⟩

/-- Parts that agree can be followed by parts that agree whatever the logger. -/
theorem bind {next other : Controller T L → Trail Effect (Controller T L)}
    (agree : Agree first second)
    (later : ∀ controller logger, Agree (next controller) (other (controller.logging logger))) :
    Agree (first >>= next) (second >>= other) := by
  have followed := later first.value second.value.logger
  rw [← eq_logging agree.value] at followed
  refine ⟨followed.value, ?_⟩
  rw [Trail.dealings_bind, Trail.dealings_bind, agree.dealings, followed.dealings]

/-- Both make the same request to their links. -/
theorem request {α : Type} {asked : Trail Effect α}
    {next other : α → Trail Effect (Controller T L)} (later : ∀ answer, Agree (next answer)
      (other answer)) : Agree (asked >>= next) (asked >>= other) := by
  refine ⟨(later asked.value).value, ?_⟩
  rw [Trail.dealings_bind, Trail.dealings_bind, (later asked.value).dealings]

/-- Notes make no difference. -/
theorem report {writer reader : Controller T L} {occasion news : ControllerReport}
    (later : Agree first second) :
    Agree (writer.report occasion >>= fun _ => first) (reader.report news >>= fun _ => second) :=
  ⟨later.value, later.dealings⟩

end Agree

/-! ## The image -/

theorem copySubscription_logging (controller : Controller T L) (logger : Option L)
    (id : ChannelId) :
    (controller.logging logger).copySubscription id =
      (controller.copySubscription id).logging logger := by
  unfold copySubscription logging
  dsimp only
  split
  · rfl
  · split
    · rfl
    · split <;> rfl

theorem copySubscriptions_logging (controller : Controller T L) (logger : Option L) :
    (controller.logging logger).copySubscriptions =
      controller.copySubscriptions.logging logger := by
  have copied (ids : List ChannelId) (controller : Controller T L) :
      ids.foldl copySubscription (controller.logging logger) =
        (ids.foldl copySubscription controller).logging logger := by
    induction ids generalizing controller with
    | nil => rfl
    | cons id rest ih =>
        rw [List.foldl_cons, List.foldl_cons, copySubscription_logging, ih]
  exact copied (List.range controller.image.size) controller

theorem setImage_logging (controller : Controller T L) (logger : Option L) (id : ChannelId)
    (payload : List UInt8) :
    (controller.logging logger).setImage id payload =
      (controller.setImage id payload).map fun after => after.logging logger := by
  unfold setImage
  dsimp only [logging]
  cases controller.image.set id payload <;> rfl

theorem showSample_logging (controller : Controller T L) (logger : Option L) (id : ChannelId)
    (channel : Channel) (sample : Sample) :
    (controller.logging logger).showSample id channel sample =
      ((controller.showSample id channel sample).1.logging logger,
        (controller.showSample id channel sample).2) := by
  unfold showSample
  dsimp only [logging]
  split
  · rfl
  · split
    · split <;> rfl
    · rfl

theorem updateBuffered_logging (controller : Controller T L) (logger : Option L) (id : ChannelId)
    (update : Bool) :
    (controller.logging logger).updateBuffered id update =
      ((controller.updateBuffered id update).1.logging logger,
        (controller.updateBuffered id update).2) := by
  unfold updateBuffered
  rw [show (controller.logging logger).link = controller.link from rfl]
  split
  · rfl
  next channel found =>
    split
    · rfl
    · split
      · rfl
      · dsimp only
        cases channel.pop.2 with
        | ok sample =>
            exact showSample_logging
              { controller with link := controller.link.setChannel id channel.pop.1 } logger id
              channel.pop.1 sample
        | error error =>
            dsimp only
            split <;> rfl

/-! ## The parts of a cycle -/

theorem settle_logging (controller : Controller T L) (logger : Option L) (enable : Bool) :
    (controller.logging logger).settle enable = (controller.settle enable).logging logger := by
  cases enable <;> rfl

theorem conclude_agree (controller : Controller T L) (logger : Option L) :
    Agree controller.conclude (controller.logging logger).conclude := by
  unfold conclude
  rw [show (controller.logging logger).link = controller.link from rfl]
  split
  · exact .report (.of_value rfl)
  · exact .of_value rfl

section Parts

variable [Log.Logger L]

theorem recordError_agree (controller : Controller T L) (logger : Option L) (operation : String)
    (error : Error) :
    Agree (controller.recordError operation error)
      ((controller.logging logger).recordError operation error) := by
  obtain ⟨⟨own, value⟩, quiet⟩ := controller.recordError_eq operation error
  obtain ⟨⟨another, same⟩, still⟩ := (controller.logging logger).recordError_eq operation error
  refine ⟨?_, quiet.trans still.symm⟩
  rw [value, same]
  rfl

theorem fail_agree (controller : Controller T L) (logger : Option L) (operation : String)
    (error : Error) :
    Agree (controller.fail operation error)
      ((controller.logging logger).fail operation error) :=
  (controller.recordError_agree logger operation error).bind fun _ _ => .of_value rfl

theorem processLog_agree (controller : Controller T L) (logger : Option L) :
    Agree controller.processLog (controller.logging logger).processLog := by
  obtain ⟨⟨own, value⟩, quiet⟩ := controller.processLog_eq
  obtain ⟨⟨another, same⟩, still⟩ := (controller.logging logger).processLog_eq
  refine ⟨?_, quiet.trans still.symm⟩
  rw [value, same]
  rfl

/-- The log is told, and whether it took the message makes no difference either. -/
theorem told_agree {next : Controller T L → Trail Effect (Controller T L)}
    (later : ∀ controller logger, Agree (next controller) (next (controller.logging logger)))
    (controller : Controller T L) (logger : Option L) (level : Log.Level) (mask : Log.Mask)
    (message : String) :
    Agree
      (controller.log level mask message >>= fun told =>
        told.1.tolerate told.2 >>= fun _ => next told.1)
      ((controller.logging logger).log level mask message >>= fun told =>
        told.1.tolerate told.2 >>= fun _ => next told.1) := by
  obtain ⟨⟨own, value⟩, quiet⟩ := controller.log_eq level mask message
  obtain ⟨⟨another, same⟩, still⟩ := (controller.logging logger).log_eq level mask message
  have followed : Agree (next (controller.logging own))
      (next ((controller.logging logger).logging another)) :=
    later (controller.logging own) another
  constructor
  · rw [Trail.value_bind, Trail.value_bind, Trail.value_bind, Trail.value_bind, value, same]
    exact followed.value
  · rw [Trail.dealings_bind, Trail.dealings_bind, Trail.dealings_bind, Trail.dealings_bind, quiet,
      still, dealings_tolerate, dealings_tolerate, value, same]
    exact followed.dealings

variable [Transport T]

theorem publishChanges_agree (controller : Controller T L) (logger : Option L)
    (ids : List ChannelId) :
    Agree (controller.publishChanges ids) ((controller.logging logger).publishChanges ids) := by
  induction ids generalizing controller with
  | nil => exact .of_value rfl
  | cons id rest ih =>
      rw [publishChanges, publishChanges,
        show (controller.logging logger).change? id = controller.change? id from rfl]
      cases controller.change? id with
      | none => exact ih controller
      | some value =>
          refine .request ?_
          rintro ⟨link, answer⟩
          cases answer with
          | ok done =>
              exact .report (ih { controller with
                link, shadow := controller.shadow.trySet id value })
          | error error =>
              dsimp only
              split
              · exact ih { controller with link }
              · exact recordError_agree { controller with link } logger "publish" error

theorem flush_agree (controller : Controller T L) (logger : Option L) :
    Agree controller.flush (controller.logging logger).flush := by
  unfold flush
  rw [copySubscriptions_logging]
  exact controller.copySubscriptions.publishChanges_agree logger _

theorem exchange_agree (controller : Controller T L) (logger : Option L) :
    Agree controller.exchange (controller.logging logger).exchange := by
  have flushed (controller : Controller T L) (logger : Option L) :
      Agree (controller.flush >>= conclude) ((controller.logging logger).flush >>= conclude) :=
    (controller.flush_agree logger).bind conclude_agree
  refine .request ?_
  rintro ⟨link, answer⟩
  cases answer with
  | ok count => exact flushed { controller with link } logger
  | error error =>
      have recorded := recordError_agree { controller with link } logger "process" error
      exact recorded.bind flushed

theorem openSession_agree (controller : Controller T L) (logger : Option L) :
    Agree controller.openSession (controller.logging logger).openSession := by
  refine .request ?_
  rintro ⟨link, answer⟩
  cases answer with
  | ok done => exact .of_value rfl
  | error error => exact fail_agree { controller with link } logger "connect" error

theorem connect_agree (controller : Controller T L) (logger : Option L) :
    Agree controller.connect (controller.logging logger).connect :=
  .report (told_agree openSession_agree { controller with phase := .waitStart, active := true }
    logger .success .user s!"starting {controller.link.instanceName} application..")

theorem start_agree (controller : Controller T L) (logger : Option L) :
    Agree controller.start (controller.logging logger).start := by
  unfold start
  rw [show (controller.logging logger).link = controller.link from rfl]
  cases controller.link.state with
  | connected =>
      refine .request ?_
      rintro ⟨link, answer⟩
      cases answer with
      | ok done => exact exchange_agree { controller with link, phase := .running } logger
      | error error => exact fail_agree { controller with link } logger "set operational" error
  | operational => exact exchange_agree { controller with phase := .running } logger
  | disconnected => exact controller.exchange_agree logger
  | aborted => exact controller.exchange_agree logger

theorem run_agree (controller : Controller T L) (logger : Option L) (go : Bool) :
    Agree (controller.run go) ((controller.logging logger).run go) := by
  unfold run
  rw [show (controller.logging logger).phase = controller.phase from rfl]
  split
  · exact exchange_agree { controller with phase := .waitStart } logger
  · split
    · exact controller.start_agree logger
    · exact controller.exchange_agree logger

theorem disconnect_agree (controller : Controller T L) (logger : Option L) :
    Agree controller.disconnect (controller.logging logger).disconnect := by
  unfold disconnect
  rw [show (controller.logging logger).link = controller.link from rfl]
  split
  · refine .request ?_
    rintro ⟨link, answer⟩
    cases answer with
    | ok done => exact .of_value rfl
    | error error => exact recordError_agree { controller with link } logger "disconnect" error
  · exact .of_value rfl

theorem teardown_agree (controller : Controller T L) (logger : Option L) :
    Agree controller.teardown (controller.logging logger).teardown := by
  refine (controller.disconnect_agree logger).bind fun controller logger => ?_
  rw [show (controller.logging logger).active = controller.active from rfl]
  split
  · exact .report (.of_value rfl)
  · exact .of_value rfl

theorem advance_agree (controller : Controller T L) (logger : Option L) (enable go : Bool) :
    Agree (controller.advance enable go) ((controller.logging logger).advance enable go) := by
  unfold advance
  rw [show (controller.logging logger).phase = controller.phase from rfl]
  cases controller.phase with
  | idle => cases enable <;> exact .of_value rfl
  | connecting => exact controller.connect_agree logger
  | waitStart => exact controller.run_agree logger go
  | running => exact controller.run_agree logger go
  | teardown =>
      refine (controller.teardown_agree logger).bind fun controller logger => ?_
      rw [settle_logging]
      exact .of_value rfl
  | teardownWait =>
      rw [settle_logging]
      exact .of_value rfl

theorem cycle_agree (controller : Controller T L) (logger : Option L) (enable go : Bool) :
    Agree (controller.cycle enable go) ((controller.logging logger).cycle enable go) := by
  let phase := if !enable && controller.phase != .idle then .teardown else controller.phase
  have advanced := advance_agree { controller with phase, cycleError := false } logger enable go
  exact advanced.bind processLog_agree

end Parts

/-! ## Whole runs -/

inductive Answer where
  | status (status : Status)
  | written (answer : Except Error Unit)
  | sampled (answer : Except Error BufferStatus)
  /-- Nobody asked. -/
  | silence

/-- What a turn shows to the task, to the transport and to the owner of the link, and the controller
that it leaves, but for the logger. -/
structure View (T L : Type) where
  answer : Answer
  dealings : List Effect
  after : Controller T L

section Runs

variable [Transport T] [Log.Logger L]

def answer (controller : Controller T L) : Turn T → Answer
  | .cycle enable go => .status (controller.cycle enable go).value.status
  | .setImage id payload => .written ((controller.setImage id payload).map fun _ => ())
  | .updateBuffered id update => .sampled (controller.updateBuffered id update).2
  | .meanwhile _ => .silence

/-- The dealings of a turn.  Only a cycle turns to the transport or to the owner of the link. -/
def dealings (controller : Controller T L) : Turn T → List Effect
  | .cycle enable go => (controller.cycle enable go).dealings
  | .setImage _ _ | .updateBuffered _ _ | .meanwhile _ => []

def view (controller : Controller T L) (turn : Turn T) : View T L where
  answer := controller.answer turn
  dealings := controller.dealings turn
  after := (controller.turn turn).unlogged

/-- What can be seen of a run.  Before each turn something happens to the logger. -/
def views (controller : Controller T L) : List (Turn T × (L → L)) → List (View T L)
  | [] => []
  | (turn, activity) :: rest =>
      let controller := controller.logging (controller.logger.map activity)
      controller.view turn :: (controller.turn turn).views rest

/-- The logger cannot be seen in a turn. -/
theorem view_logging (controller : Controller T L) (logger : Option L) (turn : Turn T) :
    (controller.logging logger).view turn = controller.view turn := by
  cases turn with
  | cycle enable go =>
      have agree := controller.cycle_agree logger enable go
      have after : ((controller.logging logger).turn (.cycle enable go)).unlogged =
          (controller.turn (.cycle enable go)).unlogged := agree.value.symm
      have status : ((controller.logging logger).cycle enable go).value.status =
          (controller.cycle enable go).value.status := by
        rw [eq_logging agree.value]
        rfl
      simp only [view, after, answer, dealings, status, agree.dealings]
  | setImage id payload =>
      simp only [view, answer, dealings, turn, written, setImage_logging]
      cases controller.setImage id payload <;> rfl
  | updateBuffered id update =>
      simp only [view, answer, dealings, turn, updateBuffered_logging]
      rfl
  | meanwhile change => rfl

/-- Two controllers that differ in their loggers only look the same through a whole run. -/
theorem views_eq {controller other : Controller T L}
    (same : controller.unlogged = other.unlogged) (story : List (Turn T × (L → L))) :
    controller.views story = other.views (story.map fun step => (step.1, id)) := by
  induction story generalizing controller other with
  | nil => rfl
  | cons step rest ih =>
      obtain ⟨turn, activity⟩ := step
      let first := controller.logging (controller.logger.map activity)
      let second := other.logging (other.logger.map id)
      have seen : first.view turn = second.view turn := by
        have alike : second = first.logging second.logger := eq_logging same
        rw [alike]
        exact (first.view_logging second.logger turn).symm
      have after : (first.turn turn).unlogged = (second.turn turn).unlogged :=
        congrArg View.after seen
      exact congrArg₂ List.cons seen (ih after)

/-- A run looks the same with any logger and without one, whatever the logger does and whatever
happens to it in the meantime: the task gets the same answers, the transport the same requests, the
owner of the link the same events, and the controller goes through the same states. -/
theorem control_ignores_logging (controller : Controller T L) (story : List (Turn T × (L → L))) :
    controller.views story =
      controller.unlogged.views (story.map fun step => (step.1, id)) := by
  have same : controller.unlogged = controller.unlogged.unlogged := rfl
  exact views_eq same story

end Runs

-- What is left to tell the two apart are notes: here a hub without seats refuses what it is told in
-- the cycle that connects, and refuses again when it is asked for news.
example :
    let link : Link Simulator := Link.fresh "line" none {}
    let logged := (new link (some (default : Log.Station))).turn (.cycle true true)
    let silent := (new link (none : Option Log.Station)).turn (.cycle true true)
    (logged.cycle true true).marks.length = (silent.cycle true true).marks.length + 2 := by
  decide +kernel

end Controller

end DatasetSync
