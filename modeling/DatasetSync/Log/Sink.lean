import DatasetSync.Log.Record
import DatasetSync.Note
import DatasetSync.Trail

/-!
# Where records go

A sink takes records that passed a filter, or fails to.  The usual sink is a queue that someone
reads at the other end.
-/

namespace DatasetSync.Log

/-- Something that takes records. -/
class Sink (S : Type) where
  /-- Hand one record over. -/
  forward : S → Record → S × Except Error Unit

/-- A queue of records; nobody reads it once it is closed. -/
structure Queue where
  records : List Record
  isOpen : Bool
  deriving DecidableEq, Repr, Inhabited

namespace Queue

def fresh : Queue := ⟨[], true⟩

def closed : Queue := ⟨[], false⟩

/-- Add a record at the end, if the queue is read. -/
def forward (queue : Queue) (record : Record) : Queue × Except Error Unit :=
  if queue.isOpen then ({ queue with records := queue.records ++ [record] }, .ok ())
  else (queue, .error (.channel "log record receiver disconnected"))

instance : Sink Queue := ⟨forward⟩

end Queue

/-- What the log does besides answering. -/
inductive Effect where
  /-- A note was written. -/
  | note (line : Note)
  /-- A module now works under a filter; whoever waits for that hears of it. -/
  | applied (filter : Filter)
  deriving DecidableEq, Repr

namespace Effect

def note? : Effect → Option Note
  | .note line => some line
  | .applied _ => none

def applied? : Effect → Option Filter
  | .note _ => none
  | .applied filter => some filter

end Effect

end DatasetSync.Log
