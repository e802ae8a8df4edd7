import DatasetSync.Error
import DatasetSync.Note

/-!
# Reports of a controller

Every occasion on which a controller writes a note, with its severity and wording.
-/

namespace DatasetSync

inductive ControllerReport where
  | starting
  | stopped
  | published (channel : String)
  | failed (operation : String) (error : Error)
  | tearingDown (state : ConnectionState)
  | logFailed (error : Error)
  deriving DecidableEq, Repr

namespace ControllerReport

def severity : ControllerReport → Severity
  | .published _ => .debug
  | .starting | .stopped => .info
  | .failed .. | .tearingDown _ | .logFailed _ => .warn

def text (link : String) : ControllerReport → String
  | .starting => s!"Starting {link} link"
  | .stopped => s!"Stopped {link} link"
  | .published channel => s!"Published {channel}"
  | .failed operation error => s!"{link} {operation} failed: {error.message}"
  | .tearingDown state => s!"Link {link} is {state.name}, tearing down"
  | .logFailed error => s!"Log distributor: {error.message}"

def note (link : String) (report : ControllerReport) : Note where
  severity := report.severity
  source := .controller
  text := report.text link

end ControllerReport

end DatasetSync
