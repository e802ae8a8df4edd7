import DatasetSync.Log.Sink

/-!
# Distributors

A distributor is the log of one module.  Until it has a filter it holds the most recent records
back; the first filter sends those on that pass, in order.  After that each record passes or not at
once.  Filters come from the log server the distributor is attached to.
-/

namespace DatasetSync.Log

def pendingCapacity : Nat := 100

/-- What became of a record. -/
inductive Disposition where
  | buffered
  | forwarded
  | filtered
  deriving DecidableEq, Repr, Inhabited

namespace Disposition

def name : Disposition → String
  | .buffered => "Buffered"
  | .forwarded => "Forwarded"
  | .filtered => "Filtered"

end Disposition

def Record.echo (record : Record) : Note where
  severity := match record.level with
    | .error => .error
    | .warning => .warn
    | .success | .info => .info
    | .debug => .debug
  source := .distributor
  text := record.message
  moduleName := some record.moduleName

/-- The log of one module. -/
structure Distributor where
  moduleName : String
  filter : Option Filter
  /-- Records held back until there is a filter. -/
  pending : List Record
  dropped : Nat
  forwarded : Nat
  /-- Filters on their way from the server, if one is attached. -/
  inbox : Option (List Filter)
  deriving DecidableEq, Repr, Inhabited

namespace Distributor

variable {S : Type} [Sink S]

def new (moduleName : String) : Except Error Distributor := do
  validateModuleName moduleName
  return ⟨moduleName, none, [], 0, 0, none⟩

def isReady (distributor : Distributor) : Bool :=
  distributor.filter.isSome

def isExcluded (distributor : Distributor) : Bool :=
  distributor.filter.any (·.isExcluded distributor.moduleName)

/-- Hold a record back, dropping the oldest if there are too many. -/
def hold (distributor : Distributor) (record : Record) : Distributor :=
  if distributor.pending.length < pendingCapacity then
    { distributor with pending := distributor.pending ++ [record] }
  else
    { distributor with
      pending := distributor.pending.drop 1 ++ [record]
      dropped := distributor.dropped + 1 }

def forward (distributor : Distributor) (sink : S) (record : Record) :
    Distributor × S × Except Error Disposition :=
  match Sink.forward sink record with
  | (sink, .ok _) =>
      ({ distributor with forwarded := distributor.forwarded + 1 }, sink, .ok .forwarded)
  | (sink, .error error) => (distributor, sink, .error error)

def offer (distributor : Distributor) (sink : S) (filter : Filter) (record : Record) :
    Trail Effect (Distributor × S × Except Error Disposition) := do
  if filter.passes record then
    if filter.echo then
      Trail.mark (.note record.echo)
    return distributor.forward sink record
  else
    return (distributor, sink, .ok .filtered)

/-- Send a record, or hold it back while there is no filter. -/
def emit (distributor : Distributor) (sink : S) (record : Record) :
    Trail Effect (Distributor × S × Except Error Disposition) :=
  match distributor.filter with
  | some filter => distributor.offer sink filter record
  | none => return (distributor.hold record, sink, .ok .buffered)

/-- What came of sending held records on: the number forwarded, and the first failure. -/
structure Flush where
  forwarded : Nat
  failure : Option Error
  deriving DecidableEq, Repr, Inhabited

namespace Flush

/-- Take the result for one more record in, which came before all others. -/
def after (rest : Flush) : Except Error Disposition → Flush
  | .ok .forwarded => { rest with forwarded := rest.forwarded + 1 }
  | .ok _ => rest
  | .error error => { rest with failure := some error }

/-- The answer: the first failure, or the number forwarded. -/
def answer (flush : Flush) : Except Error Nat :=
  match flush.failure with
  | some error => .error error
  | none => .ok flush.forwarded

end Flush

/-- Offer records in order; a failure does not stop the others. -/
def offerAll (distributor : Distributor) (sink : S) (filter : Filter) :
    List Record → Trail Effect (Distributor × S × Flush)
  | [] => return (distributor, sink, ⟨0, none⟩)
  | record :: rest => do
      let (distributor, sink, answer) ← distributor.offer sink filter record
      let (distributor, sink, flush) ← distributor.offerAll sink filter rest
      return (distributor, sink, flush.after answer)

def filterNote (distributor : Distributor) (filter : Filter) : Note where
  severity := .debug
  source := .distributor
  text := s!"{distributor.moduleName}: log config received (level {filter.level.label}, " ++
    s!"mask {filter.mask.inspect})"

/-- Work under a new filter from now on, and send on what was held back. -/
def apply (distributor : Distributor) (sink : S) (filter : Filter) :
    Trail Effect (Distributor × S × Except Error Nat) :=
  match filter.validate with
  | .error error => return (distributor, sink, .error error)
  | .ok _ => do
      Trail.mark (.note (distributor.filterNote filter))
      let ready := { distributor with filter := some filter, pending := [] }
      let (ready, sink, flush) ← ready.offerAll sink filter distributor.pending
      Trail.mark (.applied filter)
      return (ready, sink, flush.answer)

def serverGone : Error :=
  .channel "log server disconnected"

/-- Apply filters in order up to the first failure, counting them. -/
def applyAll (distributor : Distributor) (sink : S) (serverLives : Bool) (applied : Nat) :
    List Filter → Trail Effect (Distributor × S × Except Error Nat)
  | [] =>
      if serverLives then
        return ({ distributor with inbox := some [] }, sink, .ok applied)
      else
        return ({ distributor with inbox := none }, sink, .error serverGone)
  | filter :: rest => do
      let (distributor, sink, answer) ← distributor.apply sink filter
      match answer with
      | .ok _ => distributor.applyAll sink serverLives (applied + 1) rest
      | .error error => return ({ distributor with inbox := some rest }, sink, .error error)

/-- Apply everything that came from the server.  Finding it gone ends the attachment. -/
def process (distributor : Distributor) (sink : S) (serverLives : Bool) :
    Trail Effect (Distributor × S × Except Error Nat) :=
  match distributor.inbox with
  | none => return (distributor, sink, .ok 0)
  | some filters => distributor.applyAll sink serverLives 0 filters

/-- A filter may be asked for: it is valid, and a server is attached. -/
def checkRequest (distributor : Distributor) (filter : Filter) : Except Error Unit := do
  filter.validate
  if distributor.inbox.isNone then
    throw (.notReady s!"{distributor.moduleName} is not attached to a log server")

def deliver (distributor : Distributor) (filter : Filter) : Distributor :=
  { distributor with inbox := distributor.inbox.map (· ++ [filter]) }

def inspect (distributor : Distributor) : String :=
  Inspect.openRecord "ConfigDistributor"
    [("module_name", Inspect.quoted distributor.moduleName),
      ("config", Inspect.option (distributor.filter.map Filter.inspect)),
      ("pending", toString distributor.pending.length),
      ("dropped", toString distributor.dropped),
      ("forwarded", toString distributor.forwarded)]

end Distributor

end DatasetSync.Log
