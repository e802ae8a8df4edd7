import DatasetSync.Controller.Report
import DatasetSync.Image
import DatasetSync.Link.Session
import DatasetSync.Log.Logger

/-!
# Controllers

A controller drives a link from a cyclic task.  The task writes values into the process image and
runs one cycle after the other; each cycle brings the link one step further, copies received values
into the image and sends the values that differ from the shadow, which holds what the peer last had
of each channel.  A controller never connects again on its own: after a failure it waits until it is
disabled once.
-/

namespace DatasetSync

/-- How far a controller has come with its link. -/
inductive Phase where
  | idle
  | connecting
  | waitStart
  | running
  | teardown
  | teardownWait
  deriving DecidableEq, Repr, Inhabited

namespace Phase

def name : Phase → String
  | .idle => "Idle"
  | .connecting => "Connecting"
  | .waitStart => "WaitStart"
  | .running => "Running"
  | .teardown => "Teardown"
  | .teardownWait => "TeardownWait"

end Phase

structure Status where
  disconnected : Bool
  connected : Bool
  operational : Bool
  aborted : Bool
  active : Bool
  error : Bool
  deriving DecidableEq, Repr, Inhabited

structure BufferStatus where
  updated : Bool
  pending : Nat
  overflows : Nat
  deriving DecidableEq, Repr, Inhabited

/-- A cyclic task's end of a link over a transport `T`, with an optional logger `L`. -/
structure Controller (T L : Type) where
  link : Link T
  phase : Phase
  image : Image
  /-- What the peer last had of each channel that can publish. -/
  shadow : Image
  active : Bool
  cycleError : Bool
  lastError : Option Error
  logger : Option L
  deriving DecidableEq, Repr

namespace Controller

variable {T L : Type} [Transport T] [Log.Logger L]

def new (link : Link T) (logger : Option L) : Controller T L where
  link
  phase := .idle
  image := Image.ofChannels link.channels
  shadow := Image.ofChannels link.channels
  active := false
  cycleError := false
  lastError := none
  logger

def status (controller : Controller T L) : Status where
  disconnected := controller.link.state == .disconnected
  connected := controller.link.state == .connected
  operational := controller.link.state == .operational
  aborted := controller.link.state == .aborted
  active := controller.active
  error := controller.cycleError

def enter (controller : Controller T L) (phase : Phase) : Controller T L :=
  { controller with phase }

def report (controller : Controller T L) (occasion : ControllerReport) : Trail Effect Unit :=
  Trail.mark (.note (occasion.note controller.link.instanceName))

/-- The effects of logging that a controller passes on. -/
def logEffect (effect : Log.Effect) : Option Effect :=
  effect.note?.map .note

def log (controller : Controller T L) (level : Log.Level) (mask : Log.Mask) (message : String) :
    Trail Effect (Controller T L × Except Error Unit) :=
  match controller.logger with
  | none => return (controller, .ok ())
  | some logger => do
      let (logger, answer) ← (Log.Logger.emit logger level mask message).select logEffect
      return ({ controller with logger := some logger }, answer.map fun _ => ())

/-- Note a failure of the logger and go on. -/
def tolerate (controller : Controller T L) (answer : Except Error Unit) : Trail Effect Unit :=
  match answer with
  | .ok _ => return ()
  | .error error => controller.report (.logFailed error)

def processLog (controller : Controller T L) : Trail Effect (Controller T L) :=
  match controller.logger with
  | none => return controller
  | some logger => do
      let (logger, answer) ← (Log.Logger.process logger).select logEffect
      controller.tolerate (answer.map fun _ => ())
      return { controller with logger := some logger }

/-- Remember an error; the log hears of it if it can. -/
def recordError (controller : Controller T L) (operation : String) (error : Error) :
    Trail Effect (Controller T L) := do
  controller.report (.failed operation error)
  let (controller, _) ← controller.log .error .always s!"{operation} failed: {error.message}"
  return { controller with cycleError := true, lastError := some error }

/-- Remember an error that ends the session. -/
def fail (controller : Controller T L) (operation : String) (error : Error) :
    Trail Effect (Controller T L) := do
  let controller ← controller.recordError operation error
  return controller.enter .teardown

/-! ## The image -/

/-- Copy the value of one channel, if it is new and not buffered.  It is no change to send back. -/
def copySubscription (controller : Controller T L) (id : ChannelId) : Controller T L :=
  match controller.link.channels[id]? with
  | none => controller
  | some channel =>
      if channel.isBuffered || !channel.updated then controller
      else
        let value := channel.value.bytes
        let link := controller.link.setChannel id { channel with updated := false }
        match controller.image.set id value with
        | .error _ => { controller with link }
        | .ok image =>
            { controller with
              link, image
              shadow := if channel.direction.canPublish then controller.shadow.trySet id value
                else controller.shadow }

def copySubscriptions (controller : Controller T L) : Controller T L :=
  (List.range controller.image.size).foldl copySubscription controller

/-- The value of a channel is to be sent: it may be, and it differs from the shadow. -/
def change? (controller : Controller T L) (id : ChannelId) : Option (List UInt8) :=
  match controller.link.channels[id]?, controller.image.get id with
  | some channel, .ok value =>
      if channel.direction.canPublish && channel.state.isConnected &&
          some value != (controller.shadow.get id).toOption then
        some value
      else
        none
  | _, _ => none

def channelName (controller : Controller T L) (id : ChannelId) : String :=
  match controller.link.channels[id]? with
  | some channel => channel.name
  | none => id.label

/-- Send the changed values of channels in order, up to the first failure. -/
def publishChanges (controller : Controller T L) :
    List ChannelId → Trail Effect (Controller T L)
  | [] => return controller
  | id :: rest =>
      match controller.change? id with
      | none => controller.publishChanges rest
      | some value => do
          let (link, answer) ← controller.link.publish id value
          let controller := { controller with link }
          match answer with
          | .ok _ =>
              let controller := { controller with shadow := controller.shadow.trySet id value }
              controller.report (.published (controller.channelName id))
              controller.publishChanges rest
          | .error error =>
              if error.kind = .notReady then controller.publishChanges rest
              else controller.recordError "publish" error

/-! ## The cycle -/

def connect (controller : Controller T L) : Trail Effect (Controller T L) := do
  let controller := { controller with phase := .waitStart, active := true }
  controller.report .starting
  let (controller, answer) ← controller.log .success .user
    s!"starting {controller.link.instanceName} application.."
  controller.tolerate answer
  let (link, answer) ← controller.link.connect
  let controller := { controller with link }
  match answer with
  | .ok _ => return controller
  | .error error => controller.fail "connect" error

/-- Exchange values with the peer, and see whether the connection still stands. -/
def exchange (controller : Controller T L) : Trail Effect (Controller T L) := do
  let (link, answer) ← controller.link.process
  let controller := { controller with link }
  let controller ← match answer with
    | .ok _ => pure controller
    | .error error => controller.recordError "process" error
  let controller := controller.copySubscriptions
  let controller ← controller.publishChanges (List.range controller.image.size)
  if controller.link.state = .aborted ∨ controller.link.lostConnection then
    controller.report (.tearingDown controller.link.state)
    return controller.enter .teardown
  else
    return controller

/-- Start running as soon as the link is connected, then exchange values. -/
def start (controller : Controller T L) : Trail Effect (Controller T L) :=
  match controller.link.state with
  | .connected => do
      let (link, answer) ← controller.link.setOperational
      let controller := { controller with link }
      match answer with
      | .ok _ => (controller.enter .running).exchange
      | .error error => controller.fail "set operational" error
  | .operational => (controller.enter .running).exchange
  | .disconnected | .aborted => controller.exchange

def run (controller : Controller T L) (go : Bool) : Trail Effect (Controller T L) :=
  if !go then (controller.enter .waitStart).exchange
  else if controller.phase = .waitStart then controller.start
  else controller.exchange

def disconnect (controller : Controller T L) : Trail Effect (Controller T L) :=
  if controller.link.isOpen ∨ controller.link.state ≠ .disconnected then do
    let (link, answer) ← controller.link.disconnect
    let controller := { controller with link }
    match answer with
    | .ok _ => return controller
    | .error error => controller.recordError "disconnect" error
  else
    return controller

def teardown (controller : Controller T L) : Trail Effect (Controller T L) := do
  let controller ← controller.disconnect
  if controller.active then
    controller.report .stopped
  return { controller with active := false, phase := .teardownWait }

/-- Back to idle, once the controller is disabled. -/
def settle (controller : Controller T L) (enable : Bool) : Controller T L :=
  if enable then controller else controller.enter .idle

def advance (controller : Controller T L) (enable go : Bool) : Trail Effect (Controller T L) :=
  match controller.phase with
  | .idle => return if enable then controller.enter .connecting else controller
  | .connecting => controller.connect
  | .waitStart | .running => controller.run go
  | .teardown => do
      let controller ← controller.teardown
      return controller.settle enable
  | .teardownWait => return controller.settle enable

/-- Run one cycle.  A controller that is disabled tears down whatever it was doing. -/
def cycle (controller : Controller T L) (enable go : Bool) : Trail Effect (Controller T L) := do
  let phase := if !enable && controller.phase != .idle then .teardown else controller.phase
  let controller ← { controller with phase, cycleError := false }.advance enable go
  controller.processLog

/-! ## What the task does between cycles -/

def setImage (controller : Controller T L) (id : ChannelId) (payload : List UInt8) :
    Except Error (Controller T L) :=
  (controller.image.set id payload).map fun image => { controller with image }

def bufferStatus (channel : Channel) (updated : Bool) : BufferStatus :=
  ⟨updated, channel.pending, channel.overflows⟩

/-- Put a sample that was taken out of a channel into the image; it is no change to send back. -/
def showSample (controller : Controller T L) (id : ChannelId) (channel : Channel)
    (sample : Sample) : Controller T L × Except Error BufferStatus :=
  match controller.image.set id sample.bytes with
  | .error error => (controller, .error error)
  | .ok image =>
      let controller := { controller with image }
      if channel.direction.canPublish then
        match controller.shadow.set id sample.bytes with
        | .error error => (controller, .error error)
        | .ok shadow => ({ controller with shadow }, .ok (bufferStatus channel true))
      else
        (controller, .ok (bufferStatus channel true))

/-- Look at a buffered channel and, if asked to, take its oldest sample into the image. -/
def updateBuffered (controller : Controller T L) (id : ChannelId) (update : Bool) :
    Controller T L × Except Error BufferStatus :=
  match controller.link.channel id with
  | .error error => (controller, .error error)
  | .ok channel =>
      if !channel.isBuffered then (controller, .error channel.notBuffered)
      else if !update then (controller, .ok (bufferStatus channel false))
      else
        let (channel, answer) := channel.pop
        let controller := { controller with link := controller.link.setChannel id channel }
        match answer with
        | .ok sample => controller.showSample id channel sample
        | .error error =>
            if error.kind = .empty then (controller, .ok (bufferStatus channel false))
            else (controller, .error error)

end Controller

end DatasetSync
