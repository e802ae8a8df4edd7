import DatasetSync.Log.Distributor

/-!
# The log hub

A hub is a log server together with the distributors of its modules, each in a seat of its own.  The
server owns the filter in force, sends every new filter to all modules, collects the records they
forward, and takes requests for another filter.  Modules and the server can leave at any time; what
they sent before still arrives.
-/

namespace DatasetSync.Log

structure Subscriber where
  seat : Nat
  moduleName : String
  deriving DecidableEq, Repr, Inhabited

/-- The server's side of a hub. -/
structure Server where
  filter : Filter
  subscribers : List Subscriber
  /-- Filters that modules asked for and that are not yet in force. -/
  requests : List Filter
  /-- Records that modules forwarded and that are not yet fetched. -/
  records : List Record
  deriving DecidableEq, Repr, Inhabited

/-- A server and the modules around it. -/
structure Hub where
  server : Option Server
  /-- The distributor in each seat; an empty seat is never taken again. -/
  seats : List (Option Distributor)
  clock : Timestamp
  deriving DecidableEq, Repr, Inhabited

namespace Hub

variable {α : Type}

def new (filter : Filter) (clock : Timestamp) : Except Error Hub := do
  filter.validate
  return ⟨some ⟨filter, [], [], []⟩, [], clock⟩

def seated? (hub : Hub) (seat : Nat) : Option Distributor :=
  hub.seats[seat]?.join

def queue (hub : Hub) : Queue :=
  match hub.server with
  | some server => ⟨server.records, true⟩
  | none => Queue.closed

/-- The hub after a module acted: its distributor and the records it forwarded. -/
def store (hub : Hub) (seat : Nat) (distributor : Distributor) (queue : Queue) : Hub :=
  { hub with
    server := hub.server.map fun server => { server with records := queue.records }
    seats := hub.seats.set seat (some distributor) }

def serverNote (severity : Severity) (text : String) : Note where
  severity
  source := .logServer
  text := s!"Log server: {text}"

/-! ## What the server does -/

/-- Seat a new module; the filter in force is the first thing it gets. -/
def subscribe (hub : Hub) (moduleName : String) : Trail Effect (Hub × Except Error Nat) :=
  match hub.server, Distributor.new moduleName with
  | none, _ => return (hub, .error Distributor.serverGone)
  | some _, .error error => return (hub, .error error)
  | some server, .ok distributor => do
      Trail.mark (.note (serverNote .debug s!"{moduleName} subscribed"))
      let seat := hub.seats.length
      let server := { server with subscribers := server.subscribers ++ [⟨seat, moduleName⟩] }
      let distributor := { distributor with inbox := some [server.filter] }
      return ({ hub with server := some server, seats := hub.seats ++ [some distributor] },
        .ok seat)

def isSeated (hub : Hub) (subscriber : Subscriber) : Bool :=
  (hub.seated? subscriber.seat).isSome

/-- One note for each module that is gone. -/
def farewell : List Subscriber → Trail Effect Unit
  | [] => return ()
  | subscriber :: rest => do
      Trail.mark (.note (serverNote .debug s!"{subscriber.moduleName} went away"))
      farewell rest

def deliver (filter : Filter) (subscribers : List Subscriber) (seats : List (Option Distributor)) :
    List (Option Distributor) :=
  subscribers.foldl
    (fun seats subscriber => seats.modify subscriber.seat (Option.map (·.deliver filter))) seats

def install (hub : Hub) (server : Server) (filter : Filter) : Trail Effect Hub := do
  let present := server.subscribers.filter hub.isSeated
  farewell (server.subscribers.filter fun subscriber => !hub.isSeated subscriber)
  Trail.mark (.note (serverNote .info s!"config broadcast to {present.length} module(s)"))
  return { hub with
    server := some { server with filter, subscribers := present }
    seats := deliver filter present hub.seats }

/-- Put a filter in force and send it to all modules.  Modules that are gone are forgotten. -/
def broadcast (hub : Hub) (filter : Filter) : Trail Effect (Hub × Except Error Unit) :=
  match hub.server, filter.validate with
  | none, _ => return (hub, .error Distributor.serverGone)
  | some _, .error error => return (hub, .error error)
  | some server, .ok _ => do
      let hub ← hub.install server filter
      return (hub, .ok ())

/-- Put the filters of requests in force one after the other, counting them. -/
def serveAll (hub : Hub) : List Filter → Trail Effect (Hub × Nat)
  | [] => return (hub, 0)
  | filter :: rest => do
      let (hub, answer) ← hub.broadcast filter
      match answer with
      | .ok _ =>
          let (hub, count) ← hub.serveAll rest
          return (hub, count + 1)
      | .error error =>
          Trail.mark (.note (serverNote .warn s!"rejected config change: {error.message}"))
          hub.serveAll rest

def serve (hub : Hub) : Trail Effect (Hub × Nat) :=
  match hub.server with
  | none => return (hub, 0)
  | some server =>
      { hub with server := some { server with requests := [] } }.serveAll server.requests

def takeRecords (hub : Hub) : List Record × Hub :=
  match hub.server with
  | none => ([], hub)
  | some server =>
      (server.records, { hub with server := some { server with records := [] } })

def dropServer (hub : Hub) : Hub :=
  { hub with server := none }

/-! ## What modules do -/

/-- The refusal of a seat that nobody sits in. -/
def emptySeat (seat : Nat) : Error :=
  .notFound s!"log module {seat}"

/-- Let the module in a seat act, with the queue its records go to. -/
def onSeat (hub : Hub) (seat : Nat)
    (act : Distributor → Queue → Trail Effect (Distributor × Queue × Except Error α)) :
    Trail Effect (Hub × Except Error α) :=
  match hub.seated? seat with
  | none => return (hub, .error (emptySeat seat))
  | some distributor => do
      let (distributor, queue, answer) ← act distributor hub.queue
      return (hub.store seat distributor queue, answer)

def emit (hub : Hub) (seat : Nat) (level : Level) (mask : Mask) (message : String) :
    Trail Effect (Hub × Except Error Disposition) :=
  hub.onSeat seat fun distributor queue =>
    distributor.emit queue (Record.new distributor.moduleName level mask message hub.clock)

def apply (hub : Hub) (seat : Nat) (filter : Filter) : Trail Effect (Hub × Except Error Nat) :=
  hub.onSeat seat fun distributor queue => distributor.apply queue filter

def process (hub : Hub) (seat : Nat) : Trail Effect (Hub × Except Error Nat) :=
  hub.onSeat seat fun distributor queue => distributor.process queue hub.server.isSome

def request (hub : Hub) (seat : Nat) (filter : Filter) : Hub × Except Error Unit :=
  match hub.seated? seat with
  | none => (hub, .error (emptySeat seat))
  | some distributor =>
      match distributor.checkRequest filter, hub.server with
      | .error error, _ => (hub, .error error)
      | .ok _, none => (hub, .error Distributor.serverGone)
      | .ok _, some server =>
          ({ hub with server := some { server with requests := server.requests ++ [filter] } },
            .ok ())

def leave (hub : Hub) (seat : Nat) : Hub :=
  { hub with seats := hub.seats.set seat none }

end Hub

end DatasetSync.Log
