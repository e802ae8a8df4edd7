import DatasetSync.Log.Hub

/-!
# Loggers

What a part of the system needs in order to log: to send a message, and to look for news about what
is wanted.  A module's seat in a hub is a logger, and so is a distributor with a sink of its own.
-/

namespace DatasetSync.Log

/-- Something that messages can be sent to. -/
class Logger (L : Type) where
  /-- Send a message. -/
  emit : L → Level → Mask → String → Trail Effect (L × Except Error Disposition)
  /-- Look for news. -/
  process : L → Trail Effect (L × Except Error Nat)

namespace Logger

variable {L : Type} [Logger L]

/-- Report an error, whatever the mask in force. -/
def error (logger : L) (message : String) : Trail Effect (L × Except Error Disposition) :=
  emit logger .error .always message

def warning (logger : L) (mask : Mask) (message : String) :
    Trail Effect (L × Except Error Disposition) :=
  emit logger .warning mask message

def success (logger : L) (mask : Mask) (message : String) :
    Trail Effect (L × Except Error Disposition) :=
  emit logger .success mask message

def info (logger : L) (mask : Mask) (message : String) :
    Trail Effect (L × Except Error Disposition) :=
  emit logger .info mask message

def debug (logger : L) (mask : Mask) (message : String) :
    Trail Effect (L × Except Error Disposition) :=
  emit logger .debug mask message

def verbose (logger : L) (message : String) : Trail Effect (L × Except Error Disposition) :=
  emit logger .debug (Mask.user.union Mask.verbose) message

end Logger

/-- One seat of a hub. -/
structure Station where
  hub : Hub
  seat : Nat
  deriving DecidableEq, Repr, Inhabited

namespace Station

def emit (station : Station) (level : Level) (mask : Mask) (message : String) :
    Trail Effect (Station × Except Error Disposition) := do
  let (hub, answer) ← station.hub.emit station.seat level mask message
  return ({ station with hub }, answer)

def process (station : Station) : Trail Effect (Station × Except Error Nat) := do
  let (hub, answer) ← station.hub.process station.seat
  return ({ station with hub }, answer)

def apply (station : Station) (filter : Filter) : Trail Effect (Station × Except Error Nat) := do
  let (hub, answer) ← station.hub.apply station.seat filter
  return ({ station with hub }, answer)

def request (station : Station) (filter : Filter) : Station × Except Error Unit :=
  let (hub, answer) := station.hub.request station.seat filter
  ({ station with hub }, answer)

instance : Logger Station := ⟨emit, process⟩

end Station

/-- A distributor that is attached to no server, with the sink its records go to. -/
structure Detached (S : Type) where
  distributor : Distributor
  sink : S
  clock : Timestamp
  deriving DecidableEq, Repr, Inhabited

namespace Detached

variable {S : Type} [Sink S]

def emit (detached : Detached S) (level : Level) (mask : Mask) (message : String) :
    Trail Effect (Detached S × Except Error Disposition) := do
  let record := Record.new detached.distributor.moduleName level mask message detached.clock
  let (distributor, sink, answer) ← detached.distributor.emit detached.sink record
  return ({ detached with distributor, sink }, answer)

def apply (detached : Detached S) (filter : Filter) :
    Trail Effect (Detached S × Except Error Nat) := do
  let (distributor, sink, answer) ← detached.distributor.apply detached.sink filter
  return ({ detached with distributor, sink }, answer)

/-- Look for news; without a server there are none. -/
def process (detached : Detached S) : Trail Effect (Detached S × Except Error Nat) := do
  let (distributor, sink, answer) ← detached.distributor.process detached.sink false
  return ({ detached with distributor, sink }, answer)

instance : Logger (Detached S) := ⟨emit, process⟩

end Detached

end DatasetSync.Log
