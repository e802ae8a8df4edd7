import DatasetSync.Controller
import DatasetSync.Link.Setup
import DatasetSync.Text.Rounded
import DatasetSync.Transport.Simulator

/-!
# The demonstration

A controller runs against the simulated transport.  The peer feeds every channel that receives with
the values of a counter, in bursts now and then if the channel is buffered, while the task changes
the values it sends now and then.  The whole lifecycle can so be watched in the notes.
-/

namespace DatasetSync

/-- A controller, its link and its log, as they are demonstrated. -/
structure Demo where
  controller : Controller Simulator Log.Station
  deriving DecidableEq, Repr

namespace Demo

def standardCycles : Nat := 300

def cycleStep : Nettime := 10000

def valueAge : Nettime := 150

/-- The channels that are demonstrated if none are configured. -/
def config : Config where
  link := {
    instanceName := "BufferFub_0"
    channels := [
      { name := "bufferedSample", direction := .subscribe, byteSize := 4, buffered := true },
      { name := "setup", byteSize := 8 },
      { name := "cmdSendBurst", byteSize := 1 }] }
  log := { moduleName := "gBufferFub_0" }

/-- The bytes of a counter, the lowest first, cut or filled with zeros to a size. -/
def counterBytes (value size : Nat) : List UInt8 :=
  (List.range size).map fun place =>
    if place < 8 then (value / Nat.pow 256 place % 256).toUInt8 else 0

def say (severity : Severity) (text : String) : Trail Note Unit :=
  Trail.mark { severity, source := .program, text }

def openLog (config : LogConfig) (now : Timestamp) : Trail Note (Except Error Log.Station) :=
  match Log.Hub.new config.filter now with
  | .error error => return .error error
  | .ok hub => do
      let (hub, answer) ← (hub.subscribe config.moduleName).select Log.Effect.note?
      return answer.map fun seat => ⟨hub, seat⟩

def start (config : LinkConfig) (station : Log.Station) : Except Obstacle Demo :=
  (Link.ofConfig config (default : Simulator)).map fun link =>
    ⟨Controller.new link (some station)⟩

/-! ## The peer -/

def feedCount (cycle : Nat) (channel : Channel) : Nat :=
  if !channel.direction.canSubscribe || cycle % 5 != 0 then 0
  else if channel.isBuffered && cycle % 50 == 25 then 25
  else 1

def feedChannel (cycle : Nat) (sim : Simulator) (channel : Channel) : Simulator :=
  (List.range (feedCount cycle channel)).foldl
    (fun sim offset =>
      sim.updateAt channel.id (counterBytes (cycle + offset) channel.byteSize)
        (sim.clock - valueAge)) sim

/-- What the peer does in a cycle: the clock goes on, and the channels are fed. -/
def feed (demo : Demo) (cycle : Nat) : Demo :=
  let link := demo.controller.link
  let sim := { link.transport with clock := link.transport.clock + cycleStep }
  let transport := link.channels.foldl (feedChannel cycle) sim
  { demo with controller := { demo.controller with link := { link with transport } } }

/-! ## The task -/

def takeSample (demo : Demo) (id : ChannelId) : Trail Note (Except Error Demo) := do
  match demo.controller.updateBuffered id true with
  | (_, .error error) => return .error error
  | (controller, .ok status) =>
      if status.updated && 0 < status.pending then
        say .trace s!"{status.pending} samples pending on {id.label}"
      return .ok { demo with controller }

def serveChannel (demo : Demo) (cycle : Nat) (channel : Channel) :
    Trail Note (Except Error Demo) :=
  if channel.isBuffered then
    demo.takeSample channel.id
  else if channel.direction.canPublish && cycle % 50 == 0 then
    return (demo.controller.setImage channel.id (counterBytes (cycle / 50) channel.byteSize)).map
      fun controller => { demo with controller }
  else
    return .ok demo

def serveChannels (demo : Demo) (cycle : Nat) : List Channel → Trail Note (Except Error Demo)
  | [] => return .ok demo
  | channel :: rest => do
      match ← demo.serveChannel cycle channel with
      | .ok demo => demo.serveChannels cycle rest
      | .error error => return .error error

/-! ## The log -/

def showRecords : List Log.Record → Trail Note Unit
  | [] => return ()
  | record :: rest => do
      Trail.mark { severity := .info, source := .records, text := record.text }
      showRecords rest

/-- The log server looks after its modules, and what it collected is shown. -/
def serveLog (demo : Demo) : Trail Note Demo :=
  match demo.controller.logger with
  | none => return demo
  | some station => do
      let (hub, _) ← station.hub.serve.select Log.Effect.note?
      let (records, hub) := hub.takeRecords
      showRecords records
      return { demo with controller := { demo.controller with
        logger := some { station with hub } } }

def atTime (demo : Demo) (now : Timestamp) : Demo :=
  { demo with controller := { demo.controller with
    logger := demo.controller.logger.map fun station =>
      { station with hub := { station.hub with clock := now } } } }

/-! ## The run -/

/-- One cycle: the peer, the controller, the task and the log, in this order. -/
def cycle (demo : Demo) (number : Nat) (now : Timestamp) : Trail Note (Except Error Demo) := do
  let demo := (demo.atTime now).feed number
  let controller ← (demo.controller.cycle true true).select Effect.note?
  match ← serveChannels { demo with controller } number controller.link.channels with
  | .error error => return .error error
  | .ok demo =>
      let demo ← demo.serveLog
      if controller.status.aborted then
        let fault := Inspect.option (controller.link.lastError.map Fault.inspect)
        say .warn s!"Link aborted: {fault}"
      return .ok demo

def showCounts : List Channel → Trail Note Unit
  | [] => return ()
  | channel :: rest => do
      say .info <| s!"{channel.name}: published {channel.published}, " ++
        s!"delivered {channel.delivered}, overflows {channel.overflows}, " ++
        s!"avg latency {Text.rounded channel.latency.average}us"
      showCounts rest

/-- Disable the controller and show what was counted. -/
def finish (demo : Demo) : Trail Note Demo := do
  let controller ← (demo.controller.cycle false false).select Effect.note?
  showCounts controller.link.channels
  say .info s!"Peer received {controller.link.transport.frames.length} frame(s)"
  return { demo with controller }

end Demo

end DatasetSync
