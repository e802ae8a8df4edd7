import DatasetSync.Proofs.Log.Agreement

/-!
# Every request for a filter is served once

Modules ask for filters, and the server puts them in force when it comes to serving.  A docket is a
hub together with the requests that were accepted and the filters that were put in force, in order
and with the reason for each.  A filter is checked both when it is asked for and when it is put in
force; since only valid filters ever wait, the second check never refuses one.
-/

namespace DatasetSync.Log

/-! ## What happens in a hub -/

namespace Hub

/-- What can happen as long as the server stays: an operation of the hub, or a module gets a filter
from elsewhere. -/
inductive Deed where
  | operation (operation : Operation)
  | apply (seat : Nat) (filter : Filter)

def perform (hub : Hub) : Deed → Trail Effect Hub
  | .operation operation => hub.step operation
  | .apply seat filter => do
      let (after, _) ← hub.apply seat filter
      return after

def performAll (hub : Hub) (deeds : List Deed) : Hub :=
  deeds.foldl (fun hub deed => (hub.perform deed).value) hub

def cleared (hub : Hub) : Hub :=
  { hub with server := hub.server.map fun server => { server with requests := [] } }

def petitioned (hub : Hub) (server : Server) (filter : Filter) : Hub :=
  { hub with server := some { server with requests := server.requests ++ [filter] } }

def accepts (hub : Hub) : Deed → List Filter
  | .operation (.request seat filter) =>
      if (hub.request seat filter).2.isOk then [filter] else []
  | _ => []

end Hub

/-- Why a filter was put in force. -/
inductive Cause where
  | broadcast
  | request
  deriving DecidableEq

/-- The filters that a deed puts in force, and why. -/
def Hub.enforces (hub : Hub) : Hub.Deed → List (Cause × Filter)
  | .operation .serve => (hub.installs .serve).map (Cause.request, ·)
  | .operation (.broadcast filter) =>
      (hub.installs (.broadcast filter)).map (Cause.broadcast, ·)
  | _ => []

/-- The filters that were put in force because a module asked for them, in order. -/
def granted (history : List (Cause × Filter)) : List Filter :=
  (history.filter fun entry => entry.1 = .request).map Prod.snd

/-- A hub, the requests that were accepted, and the filters that were put in force. -/
structure Docket where
  hub : Hub
  accepted : List Filter
  history : List (Cause × Filter)

namespace Docket

def start (hub : Hub) : Docket :=
  ⟨hub, [], []⟩

def step (docket : Docket) (deed : Hub.Deed) : Docket where
  hub := (docket.hub.perform deed).value
  accepted := docket.accepted ++ docket.hub.accepts deed
  history := docket.history ++ docket.hub.enforces deed

def run (docket : Docket) (deeds : List Hub.Deed) : Docket :=
  deeds.foldl step docket

theorem run_hub (docket : Docket) (deeds : List Hub.Deed) :
    (docket.run deeds).hub = docket.hub.performAll deeds := by
  induction deeds generalizing docket with
  | nil => rfl
  | cons deed rest ih => exact ih (docket.step deed)

end Docket

/-! ## Valid filters everywhere -/

/-- A module is attached to its server, works under a valid filter if under any, and only valid ones
wait for it. -/
structure Distributor.Attached (distributor : Distributor) : Prop where
  current : ∀ filter, distributor.filter = some filter → filter.Valid
  inbox : ∃ queue, distributor.inbox = some queue ∧ ∀ filter ∈ queue, filter.Valid

namespace Distributor.Attached

variable {distributor after : Distributor}

theorem congr (attached : distributor.Attached) (filter : after.filter = distributor.filter)
    (inbox : after.inbox = distributor.inbox) : after.Attached := by
  constructor
  · rw [filter]
    exact attached.current
  · rw [inbox]
    exact attached.inbox

theorem deliver (attached : distributor.Attached) {filter : Filter} (valid : filter.Valid) :
    (distributor.deliver filter).Attached := by
  obtain ⟨current, queue, inbox, waiting⟩ := attached
  refine ⟨current, queue ++ [filter], ?_, ?_⟩
  · rw [Distributor.deliver, inbox]
    rfl
  · intro other member
    rcases List.mem_append.mp member with old | new
    · exact waiting other old
    · rw [List.mem_singleton.mp new]
      exact valid

theorem informed (attached : distributor.Attached) {queue : List Filter}
    (valid : ∀ filter ∈ queue, filter.Valid) : (distributor.informed queue).Attached := by
  constructor
  · intro filter now
    rcases Option.or_eq_some_iff.mp now with last | ⟨_, old⟩
    · exact valid filter (List.mem_of_getLast? last)
    · exact attached.current filter old
  · exact ⟨[], rfl, fun _ member => absurd member List.not_mem_nil⟩

theorem apply {S : Type} [Sink S] (attached : distributor.Attached) (sink : S) (filter : Filter) :
    (distributor.apply sink filter).value.1.Attached := by
  by_cases valid : filter.Valid
  · obtain ⟨forwarded, value, _⟩ := distributor.apply_valid sink valid
    rw [value]
    refine ⟨fun other now => ?_, attached.inbox⟩
    cases now
    exact valid
  · obtain ⟨error, refused⟩ := distributor.apply_invalid sink valid
    rw [refused]
    exact attached

end Distributor.Attached

/-- The server of a hub has a valid filter in force, only valid ones wait to be served, and every
module is attached. -/
structure Hub.Fit (hub : Hub) (server : Server) : Prop where
  there : hub.server = some server
  current : server.filter.Valid
  requests : ∀ filter ∈ server.requests, filter.Valid
  seats : ∀ distributor, some distributor ∈ hub.seats → distributor.Attached

namespace Hub

variable {hub after : Hub} {server later : Server}

theorem mem_seats {seat : Nat} {distributor : Distributor}
    (found : hub.seated? seat = some distributor) : some distributor ∈ hub.seats :=
  List.mem_of_getElem? (Option.join_eq_some_iff.mp found)

/-- A filter on its way leaves every module attached. -/
theorem attached_deliver {seats : List (Option Distributor)}
    (attached : ∀ distributor, some distributor ∈ seats → distributor.Attached) {filter : Filter}
    (valid : filter.Valid) (subscribers : List Subscriber) :
    ∀ distributor, some distributor ∈ deliver filter subscribers seats → distributor.Attached := by
  induction subscribers generalizing seats with
  | nil => exact attached
  | cons subscriber rest ih =>
      refine ih fun distributor member => ?_
      obtain ⟨seat, found⟩ := List.mem_iff_getElem?.mp member
      rw [List.getElem?_modify] at found
      obtain ⟨sitting, before, moved⟩ := Option.map_eq_some_iff.mp found
      split at moved
      · obtain ⟨old, rfl, rfl⟩ := Option.map_eq_some_iff.mp moved
        exact (attached old (List.mem_of_getElem? before)).deliver valid
      · have same : sitting = some distributor := moved
        rw [same] at before
        exact attached distributor (List.mem_of_getElem? before)

/-- The server still has the same filter in force and the same requests to serve, and every module
is attached. -/
structure Steady (after : Hub) (server : Server) : Prop where
  server : ∃ later, after.server = some later ∧ later.filter = server.filter ∧
    later.requests = server.requests
  seats : ∀ distributor, some distributor ∈ after.seats → distributor.Attached

namespace Fit

theorem steady (fit : hub.Fit server) (steady : after.Steady server) :
    ∃ later, after.Fit later ∧ later.filter = server.filter ∧
      later.requests = server.requests := by
  obtain ⟨later, there, filter, requests⟩ := steady.server
  refine ⟨later, ⟨there, ?_, ?_, steady.seats⟩, filter, requests⟩
  · rw [filter]
    exact fit.current
  · rw [requests]
    exact fit.requests

/-- A module that stays attached may do what it likes. -/
theorem store (fit : hub.Fit server) {seat : Nat} {distributor : Distributor}
    (attached : distributor.Attached) (queue : Queue) :
    (hub.store seat distributor queue).Steady server := by
  refine ⟨⟨_, congrArg (Option.map _) fit.there, rfl, rfl⟩, fun other member => ?_⟩
  rcases List.mem_or_eq_of_mem_set member with old | new
  · exact fit.seats other old
  · cases new
    exact attached

theorem onSeat {α : Type} (fit : hub.Fit server) (seat : Nat)
    (act : Distributor → Queue → Trail Effect (Distributor × Queue × Except Error α))
    (keeps : ∀ distributor, distributor.Attached → hub.seated? seat = some distributor →
      (act distributor hub.queue).value.1.Attached) :
    (hub.onSeat seat act).value.1.Steady server := by
  cases found : hub.seated? seat with
  | none =>
      rw [onSeat_empty found]
      exact ⟨⟨server, fit.there, rfl, rfl⟩, fit.seats⟩
  | some distributor =>
      rw [(onSeat_seated found act).1]
      exact fit.store (keeps distributor (fit.seats distributor (mem_seats found)) found) _

theorem emit (fit : hub.Fit server) (seat : Nat) (level : Level) (mask : Mask)
    (message : String) : (hub.emit seat level mask message).value.1.Steady server := by
  refine fit.onSeat seat _ fun distributor attached _ => ?_
  obtain ⟨filter, inbox⟩ := distributor.emit_keeps hub.queue
    (Record.new distributor.moduleName level mask message hub.clock)
  exact attached.congr filter inbox

theorem apply (fit : hub.Fit server) (seat : Nat) (filter : Filter) :
    (hub.apply seat filter).value.1.Steady server :=
  fit.onSeat seat _ fun _ attached _ => attached.apply hub.queue filter

theorem process (fit : hub.Fit server) (seat : Nat) :
    (hub.process seat).value.1.Steady server := by
  refine fit.onSeat seat _ fun distributor attached _ => ?_
  obtain ⟨queue, inbox, valid⟩ := attached.inbox
  have informed : (distributor.process hub.queue hub.server.isSome).value.1 =
      distributor.informed queue := by
    unfold Distributor.process
    rw [inbox, queue_eq fit.there, fit.there]
    exact congrArg Prod.fst (distributor.applyAll_open server.records valid 0).1
  rw [informed]
  exact attached.informed valid

theorem takeRecords (fit : hub.Fit server) : hub.takeRecords.2.Steady server := by
  unfold Hub.takeRecords
  rw [fit.there]
  exact ⟨⟨_, rfl, rfl, rfl⟩, fit.seats⟩

theorem leave (fit : hub.Fit server) (seat : Nat) : (hub.leave seat).Steady server := by
  refine ⟨⟨server, fit.there, rfl, rfl⟩, fun distributor member => ?_⟩
  rcases List.mem_or_eq_of_mem_set member with old | new
  · exact fit.seats distributor old
  · cases new

/-- A module that comes is attached, and gets the filter in force first. -/
theorem subscribe (fit : hub.Fit server) (moduleName : String) :
    (hub.subscribe moduleName).value.1.Steady server := by
  unfold Hub.subscribe
  rw [fit.there]
  cases made : Distributor.new moduleName with
  | error error => exact ⟨⟨server, fit.there, rfl, rfl⟩, fit.seats⟩
  | ok distributor =>
      refine ⟨⟨_, rfl, rfl, rfl⟩, fun other member => ?_⟩
      rcases List.mem_append.mp member with old | new
      · exact fit.seats other old
      · cases Distributor.new_eq made
        cases List.mem_singleton.mp new
        refine ⟨nofun, [server.filter], rfl, fun filter waiting => ?_⟩
        rw [List.mem_singleton.mp waiting]
        exact fit.current

/-! ## Broadcasts -/

theorem install (fit : hub.Fit server) {filter : Filter} (valid : filter.Valid) :
    (hub.install server filter).value.Fit
      { server with filter, subscribers := hub.present server } :=
  ⟨rfl, valid, fit.requests, attached_deliver fit.seats valid _⟩

theorem petitioned (fit : hub.Fit server) {filter : Filter} (valid : filter.Valid) :
    (hub.petitioned server filter).Fit
      { server with requests := server.requests ++ [filter] } := by
  refine ⟨rfl, fit.current, fun other member => ?_, fit.seats⟩
  rcases List.mem_append.mp member with old | new
  · exact fit.requests other old
  · rw [List.mem_singleton.mp new]
    exact valid

theorem cleared (fit : hub.Fit server) : hub.cleared.Fit { server with requests := [] } := by
  refine ⟨congrArg (Option.map _) fit.there, fit.current, ?_, fit.seats⟩
  exact fun _ member => absurd member List.not_mem_nil

end Fit

/-- A valid filter is put in force. -/
theorem broadcast_valid (there : hub.server = some server) {filter : Filter}
    (valid : filter.Valid) :
    (hub.broadcast filter).value = ((hub.install server filter).value, .ok ()) ∧
      (hub.broadcast filter).marks = (hub.install server filter).marks := by
  unfold broadcast
  rw [there, Filter.validate_eq_ok.mpr valid]
  exact ⟨rfl, List.append_nil _⟩

/-- Any other is refused, and nothing happens. -/
theorem broadcast_invalid (there : hub.server = some server) {filter : Filter}
    (invalid : ¬ filter.Valid) :
    ∃ error, hub.broadcast filter = pure (hub, .error error) := by
  obtain ⟨error, refused⟩ := Filter.validate_eq_error invalid
  refine ⟨error, ?_⟩
  unfold broadcast
  rw [there, refused]

/-- Valid requests are served by broadcasting each of them once, in order. -/
theorem serveAll_valid (there : hub.server = some server) {filters : List Filter}
    (valid : ∀ filter ∈ filters, filter.Valid) :
    (hub.serveAll filters).value =
        ((hub.run (filters.map Operation.broadcast)).value, filters.length) ∧
      (hub.serveAll filters).marks = (hub.run (filters.map Operation.broadcast)).marks ∧
      hub.served filters = filters := by
  induction filters generalizing hub server with
  | nil => exact ⟨rfl, rfl, rfl⟩
  | cons filter rest ih =>
      obtain ⟨fits, others⟩ := List.forall_mem_cons.mp valid
      obtain ⟨value, marks⟩ := broadcast_valid there fits
      have informed : (hub.install server filter).value.server = some _ := rfl
      obtain ⟨last, told, all⟩ := ih informed others
      have stepped : (hub.step (.broadcast filter)).value = (hub.install server filter).value :=
        congrArg Prod.fst value
      have heard : (hub.step (.broadcast filter)).marks = (hub.broadcast filter).marks :=
        List.append_nil _
      rw [List.map_cons, serveAll, run, served]
      simp only [Trail.value_bind, Trail.marks_bind, stepped, heard, value]
      refine ⟨?_, ?_, ?_⟩
      · rw [last]
        rfl
      · rw [← told]
        exact congrArg (_ ++ ·) (List.append_nil _)
      · exact congrArg (filter :: ·) all

/-- After broadcasts the last of them is in force. -/
theorem Fit.broadcasts (fit : hub.Fit server) {filters : List Filter}
    (valid : ∀ filter ∈ filters, filter.Valid) :
    ∃ later, (hub.run (filters.map Operation.broadcast)).value.Fit later ∧
      later.filter = filters.getLast?.getD server.filter ∧ later.requests = server.requests := by
  induction filters generalizing hub server with
  | nil => exact ⟨server, fit, rfl, rfl⟩
  | cons filter rest ih =>
      obtain ⟨fits, others⟩ := List.forall_mem_cons.mp valid
      obtain ⟨later, still, current, requests⟩ := ih (fit.install fits) others
      have stepped : (hub.step (.broadcast filter)).value = (hub.install server filter).value :=
        congrArg Prod.fst (broadcast_valid fit.there fits).1
      refine ⟨later, ?_, ?_, requests⟩
      · rw [List.map_cons, run, Trail.value_bind, stepped]
        exact still
      · rw [current, List.getLast?_cons]
        cases rest.getLast? <;> rfl

/-! ## Serving -/

/-- Serving puts every request that waits in force, in order, and leaves none. -/
theorem Fit.serve (fit : hub.Fit server) :
    hub.serve.value =
        ((hub.cleared.run (server.requests.map Operation.broadcast)).value,
          server.requests.length) ∧
      hub.serve.marks = (hub.cleared.run (server.requests.map Operation.broadcast)).marks ∧
      hub.installs .serve = server.requests := by
  have same : { hub with server := some { server with requests := [] } } = hub.cleared := by
    rw [Hub.cleared, fit.there]
    rfl
  unfold Hub.serve installs
  rw [fit.there]
  dsimp only
  rw [same]
  exact serveAll_valid fit.cleared.there fit.requests

theorem Fit.served (fit : hub.Fit server) :
    ∃ later, hub.serve.value.1.Fit later ∧ later.requests = [] ∧
      later.filter = server.requests.getLast?.getD server.filter := by
  obtain ⟨later, still, current, requests⟩ := fit.cleared.broadcasts fit.requests
  refine ⟨later, ?_, requests, current⟩
  rw [fit.serve.1]
  exact still

/-- A module that is there may ask for any valid filter. -/
theorem Fit.request_eq (fit : hub.Fit server) (seat : Nat) (filter : Filter) :
    (∃ error, hub.request seat filter = (hub, .error error) ∧
        ¬ ((hub.seated? seat).isSome = true ∧ filter.Valid)) ∨
      hub.request seat filter = (hub.petitioned server filter, .ok ()) ∧
        (hub.seated? seat).isSome = true ∧ filter.Valid := by
  unfold request
  cases found : hub.seated? seat with
  | none => exact .inl ⟨_, rfl, fun ⟨sits, _⟩ => by cases sits⟩
  | some distributor =>
      obtain ⟨queue, inbox, _⟩ := (fit.seats distributor (mem_seats found)).inbox
      have checked : distributor.checkRequest filter = filter.validate := by
        unfold Distributor.checkRequest
        rw [inbox]
        cases filter.validate <;> rfl
      dsimp only
      rw [checked, fit.there]
      by_cases valid : filter.Valid
      · rw [Filter.validate_eq_ok.mpr valid]
        exact .inr ⟨rfl, rfl, valid⟩
      · obtain ⟨error, refused⟩ := Filter.validate_eq_error valid
        rw [refused]
        exact .inl ⟨error, rfl, fun ⟨_, fits⟩ => valid fits⟩

end Hub

/-! ## The docket -/

theorem granted_append (early late : List (Cause × Filter)) :
    granted (early ++ late) = granted early ++ granted late := by
  unfold granted
  rw [List.filter_append, List.map_append]

theorem granted_requests (filters : List Filter) :
    granted (filters.map (Cause.request, ·)) = filters := by
  simp [granted, List.filter_map, Function.comp_def]

namespace Docket

/-- What was accepted was put in force or waits, in order, and the filter in force is the last one
of the history. -/
structure Orderly (first : Filter) (docket : Docket) (server : Server) : Prop where
  fit : docket.hub.Fit server
  order : docket.accepted = granted docket.history ++ server.requests
  current : server.filter = (docket.history.map Prod.snd).getLast?.getD first

namespace Orderly

variable {first : Filter} {docket : Docket} {server later : Server}

/-- A deed keeps the docket in order if what it grants is taken from the front of what waits, and
what it accepts is added at the end. -/
theorem advance (orderly : docket.Orderly first server) {deed : Hub.Deed}
    (fit : (docket.hub.perform deed).value.Fit later)
    (requests : granted (docket.hub.enforces deed) ++ later.requests =
      server.requests ++ docket.hub.accepts deed)
    (current : later.filter =
      ((docket.hub.enforces deed).map Prod.snd).getLast?.getD server.filter) :
    (docket.step deed).Orderly first later := by
  refine ⟨fit, ?_, ?_⟩
  · rw [step, granted_append, List.append_assoc, requests, ← List.append_assoc, orderly.order]
  · rw [step, List.map_append, List.getLast?_append, current, orderly.current]
    cases ((docket.hub.enforces deed).map Prod.snd).getLast? <;> rfl

/-- Deeds that have nothing to do with requests and broadcasts leave the docket alone. -/
theorem steady (orderly : docket.Orderly first server) {deed : Hub.Deed}
    (steady : (docket.hub.perform deed).value.Steady server)
    (accepts : docket.hub.accepts deed = []) (enforces : docket.hub.enforces deed = []) :
    ∃ later, (docket.step deed).Orderly first later := by
  obtain ⟨later, fit, filter, requests⟩ := orderly.fit.steady steady
  refine ⟨later, orderly.advance fit ?_ ?_⟩
  · rw [accepts, enforces, requests, List.append_nil]
    rfl
  · rw [enforces, filter]
    rfl

theorem unchanged (orderly : docket.Orderly first server) :
    docket.hub.Steady server :=
  ⟨⟨server, orderly.fit.there, rfl, rfl⟩, orderly.fit.seats⟩

theorem broadcast (orderly : docket.Orderly first server) (filter : Filter) :
    ∃ later, (docket.step (.operation (.broadcast filter))).Orderly first later := by
  by_cases valid : filter.Valid
  · obtain ⟨value, _⟩ := Hub.broadcast_valid orderly.fit.there valid
    have enforces : docket.hub.enforces (.operation (.broadcast filter)) =
        [(Cause.broadcast, filter)] := by
      rw [Hub.enforces, Hub.installs, value]
      rfl
    have after : (docket.hub.perform (.operation (.broadcast filter))).value =
        (docket.hub.install server filter).value := congrArg Prod.fst value
    refine ⟨_, orderly.advance (after ▸ orderly.fit.install valid) ?_ ?_⟩
    · rw [enforces]
      exact (List.append_nil _).symm
    · rw [enforces]
      rfl
  · obtain ⟨error, refused⟩ := Hub.broadcast_invalid orderly.fit.there valid
    have enforces : docket.hub.enforces (.operation (.broadcast filter)) = [] := by
      rw [Hub.enforces, Hub.installs, refused]
      rfl
    have after : (docket.hub.perform (.operation (.broadcast filter))).value = docket.hub :=
      congrArg (fun trail => trail.value.1) refused
    refine orderly.steady ?_ rfl enforces
    rw [after]
    exact orderly.unchanged

theorem request (orderly : docket.Orderly first server) (seat : Nat) (filter : Filter) :
    ∃ later, (docket.step (.operation (.request seat filter))).Orderly first later := by
  rcases orderly.fit.request_eq seat filter with ⟨error, refused, _⟩ | ⟨accepted, _, valid⟩
  · have accepts : docket.hub.accepts (.operation (.request seat filter)) = [] := by
      rw [Hub.accepts, refused]
      rfl
    have after : (docket.hub.perform (.operation (.request seat filter))).value = docket.hub :=
      congrArg Prod.fst refused
    refine orderly.steady ?_ accepts rfl
    rw [after]
    exact orderly.unchanged
  · have accepts : docket.hub.accepts (.operation (.request seat filter)) = [filter] := by
      rw [Hub.accepts, accepted]
      rfl
    have after : (docket.hub.perform (.operation (.request seat filter))).value =
        docket.hub.petitioned server filter := congrArg Prod.fst accepted
    refine ⟨_, orderly.advance (after ▸ orderly.fit.petitioned valid) ?_ ?_⟩
    · rw [accepts]
      rfl
    · rfl

theorem serve (orderly : docket.Orderly first server) :
    ∃ later, (docket.step (.operation .serve)).Orderly first later ∧ later.requests = [] ∧
      later.filter = server.requests.getLast?.getD server.filter := by
  obtain ⟨later, fit, requests, current⟩ := orderly.fit.served
  have enforces : docket.hub.enforces (.operation .serve) =
      server.requests.map (Cause.request, ·) := by
    rw [Hub.enforces, orderly.fit.serve.2.2]
  refine ⟨later, orderly.advance fit ?_ ?_, requests, current⟩
  · rw [enforces, granted_requests, requests]
    rfl
  · rw [enforces, List.map_map, current]
    exact congrArg (fun filters => filters.getLast?.getD server.filter)
      (List.map_id server.requests).symm

theorem step (orderly : docket.Orderly first server) (deed : Hub.Deed) :
    ∃ later, (docket.step deed).Orderly first later := by
  cases deed with
  | apply seat filter => exact orderly.steady (orderly.fit.apply seat filter) rfl rfl
  | operation operation =>
      cases operation with
      | subscribe moduleName => exact orderly.steady (orderly.fit.subscribe moduleName) rfl rfl
      | broadcast filter => exact orderly.broadcast filter
      | request seat filter => exact orderly.request seat filter
      | serve =>
          obtain ⟨later, served, _⟩ := orderly.serve
          exact ⟨later, served⟩
      | process seat => exact orderly.steady (orderly.fit.process seat) rfl rfl
      | emit seat level mask message =>
          exact orderly.steady (orderly.fit.emit seat level mask message) rfl rfl
      | takeRecords => exact orderly.steady orderly.fit.takeRecords rfl rfl
      | leave seat => exact orderly.steady (orderly.fit.leave seat) rfl rfl
      | setClock now =>
          exact orderly.steady ⟨⟨server, orderly.fit.there, rfl, rfl⟩, orderly.fit.seats⟩ rfl rfl

theorem run (orderly : docket.Orderly first server) (deeds : List Hub.Deed) :
    ∃ later, (docket.run deeds).Orderly first later := by
  induction deeds generalizing docket server with
  | nil => exact ⟨server, orderly⟩
  | cons deed rest ih =>
      obtain ⟨later, stepped⟩ := orderly.step deed
      exact ih stepped

end Orderly

theorem start_orderly {filter : Filter} {clock : Timestamp} {hub : Hub}
    (made : Hub.new filter clock = .ok hub) :
    (start hub).Orderly filter ⟨filter, [], [], []⟩ := by
  obtain ⟨valid, rfl⟩ := Hub.new_eq made
  refine ⟨⟨rfl, valid, ?_, ?_⟩, rfl, rfl⟩
  · exact fun _ member => absurd member List.not_mem_nil
  · exact fun _ member => absurd member List.not_mem_nil

/-- Whatever the server and its modules do, the requests that were accepted are those that were put
in force and those that wait, in order.  Exactly the valid requests of modules that are there are
accepted, and what is refused changes nothing.  Serving is the same as broadcasting each of the
requests that wait, once and in order, so it refuses none: it answers their number and leaves none
behind, and the last of them is in force then.  All filters in force anywhere are valid. -/
theorem requests_are_served_once_in_order {filter : Filter} {clock : Timestamp} {hub : Hub}
    (made : Hub.new filter clock = .ok hub) (deeds : List Hub.Deed) :
    let docket := (start hub).run deeds
    let served := docket.step (.operation .serve)
    docket.hub = hub.performAll deeds ∧
      ∃ server, docket.hub.server = some server ∧
        docket.accepted = granted docket.history ++ server.requests ∧
        server.filter = (docket.history.map Prod.snd).getLast?.getD filter ∧
        docket.hub.serve.value =
          ((docket.hub.cleared.run (server.requests.map .broadcast)).value,
            server.requests.length) ∧
        docket.hub.serve.marks =
          (docket.hub.cleared.run (server.requests.map .broadcast)).marks ∧
        served.accepted = docket.accepted ∧ granted served.history = docket.accepted ∧
        (∃ later, served.hub.server = some later ∧ later.requests = [] ∧
          (server.requests ≠ [] → docket.accepted.getLast? = some later.filter)) ∧
        server.filter.Valid ∧
        (∀ seat distributor current, docket.hub.seated? seat = some distributor →
          distributor.filter = some current → current.Valid) ∧
        (∀ wish, ((docket.hub.broadcast wish).value.2 = .ok () ↔ wish.Valid) ∧
          (¬ wish.Valid → (docket.hub.broadcast wish).value.1 = docket.hub)) ∧
        ∀ seat wish,
          ((docket.hub.request seat wish).2 = .ok () ↔
            (docket.hub.seated? seat).isSome = true ∧ wish.Valid) ∧
          (∀ error, (docket.hub.request seat wish).2 = .error error →
            (docket.hub.request seat wish).1 = docket.hub) := by
  intro docket served
  obtain ⟨server, orderly⟩ := (start_orderly made).run deeds
  obtain ⟨later, after, none, current⟩ := orderly.serve
  obtain ⟨value, marks, _⟩ := orderly.fit.serve
  have kept : served.accepted = docket.accepted := List.append_nil _
  refine ⟨run_hub (start hub) deeds, server, orderly.fit.there, orderly.order, orderly.current,
    value, marks, kept, ?_, ⟨later, after.fit.there, none, fun some => ?_⟩, orderly.fit.current,
    fun seat distributor current found => ?_, fun wish => ?_, fun seat wish => ?_⟩
  · have order := after.order
    rw [none, List.append_nil] at order
    exact order.symm.trans kept
  · obtain ⟨last, ends⟩ := Option.isSome_iff_exists.mp (List.getLast?_isSome.mpr some)
    rw [current, orderly.order, List.getLast?_append, ends]
    rfl
  · exact (orderly.fit.seats distributor (Hub.mem_seats found)).current current
  · by_cases valid : wish.Valid
    · have granted := congrArg Prod.snd (Hub.broadcast_valid orderly.fit.there valid).1
      exact ⟨⟨fun _ => valid, fun _ => granted⟩, fun invalid => absurd valid invalid⟩
    · obtain ⟨error, refused⟩ := Hub.broadcast_invalid orderly.fit.there valid
      rw [refused]
      exact ⟨⟨nofun, fun fits => absurd fits valid⟩, fun _ => rfl⟩
  · rcases orderly.fit.request_eq seat wish with ⟨error, refused, unfit⟩ | ⟨accepted, fits⟩
    · rw [refused]
      exact ⟨⟨nofun, fun fits => absurd fits unfit⟩, fun _ _ => rfl⟩
    · rw [accepted]
      exact ⟨⟨fun _ => fits, fun _ => rfl⟩, nofun⟩

/-- Two modules ask for filters, one of them leaves and one asks for too much, and a filter is
broadcast in between. -/
def crossedWishes : List Hub.Deed :=
  [.operation (.subscribe "pump"), .operation (.subscribe "valve"),
    .operation (.request 1 Observed.withoutPump), .operation (.broadcast Observed.talkative),
    .operation (.request 0 ⟨.debug, .user, true, List.replicate 21 "pump"⟩),
    .operation (.request 0 .standard), .operation (.leave 1), .operation (.process 0)]

theorem crossed_wishes_are_granted_in_order :
    let hub : Hub := ⟨some ⟨.standard, [], [], []⟩, [], ⟨0, 0⟩⟩
    let docket := (start hub).run crossedWishes
    let served := docket.step (.operation .serve)
    Hub.new .standard ⟨0, 0⟩ = .ok hub ∧
      docket.accepted = [Observed.withoutPump, .standard] ∧
      docket.history = [(.broadcast, Observed.talkative)] ∧
      granted served.history = docket.accepted ∧ docket.hub.serve.value.2 = 2 ∧
      ∃ server, served.hub.server = some server ∧ server.requests = [] ∧
        some server.filter = docket.accepted.getLast? := by
  have made : Hub.new .standard ⟨0, 0⟩ = .ok ⟨some ⟨.standard, [], [], []⟩, [], ⟨0, 0⟩⟩ := rfl
  -- The argument for any deeds comes first, so that no run is evaluated on the way.
  have serves {hub : Hub} (made : Hub.new .standard ⟨0, 0⟩ = .ok hub) (deeds : List Hub.Deed)
      {requests : List Filter} (some : requests ≠ [])
      (waiting : ((start hub).run deeds).hub.server.map Server.requests = .some requests) :
      let docket := (start hub).run deeds
      let served := docket.step (.operation .serve)
      granted served.history = docket.accepted ∧
        docket.hub.serve.value.2 = requests.length ∧
        ∃ server, served.hub.server = .some server ∧ server.requests = [] ∧
          .some server.filter = docket.accepted.getLast? := by
    obtain ⟨_, server, there, _, _, value, _, _, all, ⟨later, after, empty, last⟩, _⟩ :=
      requests_are_served_once_in_order made deeds
    rw [there] at waiting
    have same : server.requests = requests := Option.some.inj waiting
    rw [same] at value last
    exact ⟨all, congrArg Prod.snd value, later, after, empty, (last some).symm⟩
  refine ⟨made, by decide +kernel, by decide +kernel, ?_⟩
  exact serves made crossedWishes (List.cons_ne_nil Observed.withoutPump [.standard])
    (by decide +kernel)

end Docket

end DatasetSync.Log
