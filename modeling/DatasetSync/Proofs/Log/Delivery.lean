import DatasetSync.Proofs.Entries
import DatasetSync.Proofs.Log.Agreement

/-!
# Every forwarded record arrives once

A journal is a hub together with what was fetched from its server, what its modules sent and what
they forwarded, each in the order in which it happened.  What is forwarded is read off the filters
and the records held back alone; the queue of the server has it exactly once and in order.
-/

namespace DatasetSync.Log

/-! ## What an operation does to the records -/

def recordsOf (seat : Nat) (entries : List (Nat × Record)) : List Record :=
  (entries.filter fun entry => entry.1 = seat).map Prod.snd

theorem recordsOf_append (seat : Nat) (early late : List (Nat × Record)) :
    recordsOf seat (early ++ late) = recordsOf seat early ++ recordsOf seat late := by
  rw [recordsOf, List.filter_append, List.map_append]
  rfl

theorem recordsOf_entries (seat other : Nat) (records : List Record) :
    recordsOf other (records.map fun record => (seat, record)) =
      if seat = other then records else [] := by
  unfold recordsOf
  by_cases same : seat = other
  · simp [same, List.filter_map, Function.comp_def]
  · simp [same, List.filter_map, Function.comp_def]

namespace Hub

def fetches (hub : Hub) : Operation → List Record
  | .takeRecords => hub.takeRecords.1
  | _ => []

def emits (hub : Hub) : Operation → List (Nat × Record)
  | .emit seat level mask message => (hub.seated? seat).elim [] fun distributor =>
      [(seat, Record.new distributor.moduleName level mask message hub.clock)]
  | _ => []

/-- The records that a module forwards: one that it sends, if it has a filter that wants it, and
those it held back, as far as the first filter wants them. -/
def forwards (hub : Hub) : Operation → List (Nat × Record)
  | .emit seat level mask message => (hub.seated? seat).elim [] fun distributor =>
      (distributor.sends (Record.new distributor.moduleName level mask message hub.clock)).map
        fun record => (seat, record)
  | .process seat => (hub.seated? seat).elim [] fun distributor =>
      (distributor.released (distributor.inbox.getD [])).map fun record => (seat, record)
  | _ => []

def departs (hub : Hub) : Operation → Nat
  | .leave seat => (hub.seated? seat).elim 0 Distributor.forwarded
  | _ => 0

def heldBy (hub : Hub) (seat : Nat) : List Record :=
  (hub.seated? seat).elim [] Distributor.pending

/-- What the modules that are there have counted, in the order of their seats. -/
def counts (hub : Hub) : List Nat :=
  hub.seats.map fun sitting => sitting.elim 0 Distributor.forwarded

end Hub

/-- A hub and its records. -/
structure Journal where
  hub : Hub
  /-- What was fetched from the server. -/
  fetched : List Record
  /-- What the modules have sent, with their seats. -/
  emitted : List (Nat × Record)
  /-- What the modules have forwarded, with their seats. -/
  forwarded : List (Nat × Record)
  /-- What the modules that have left had counted. -/
  departed : Nat

namespace Journal

def start (hub : Hub) : Journal :=
  ⟨hub, [], [], [], 0⟩

def step (journal : Journal) (operation : Hub.Operation) : Journal where
  hub := (journal.hub.step operation).value
  fetched := journal.fetched ++ journal.hub.fetches operation
  emitted := journal.emitted ++ journal.hub.emits operation
  forwarded := journal.forwarded ++ journal.hub.forwards operation
  departed := journal.departed + journal.hub.departs operation

def run (journal : Journal) (operations : List Hub.Operation) : Journal :=
  operations.foldl step journal

end Journal

/-! ## One module -/

namespace Distributor

variable {distributor : Distributor}

theorem hold_sublist (distributor : Distributor) (record : Record) :
    (distributor.hold record).pending.Sublist (distributor.pending ++ [record]) := by
  unfold hold
  split
  · exact .refl _
  · exact (List.drop_sublist 1 _).append_right [record]

/-- A module counts what it forwards. -/
theorem emitted_forwarded (distributor : Distributor) (record : Record) :
    (distributor.emitted record).forwarded =
      distributor.forwarded + (distributor.sends record).length := by
  cases current : distributor.filter with
  | none =>
      obtain ⟨pending, dropped, held⟩ := distributor.hold_spec record
      simp [emitted, sends, current, held]
  | some filter => simp [emitted, current]

theorem emitted_filter (distributor : Distributor) (record : Record) :
    (distributor.emitted record).filter = distributor.filter := by
  unfold emitted
  split
  · obtain ⟨pending, dropped, held⟩ := distributor.hold_spec record
    rw [held]
  · rfl

/-- Under a filter nothing is held back any more. -/
theorem emitted_ready (ready : distributor.isReady = true → distributor.pending = [])
    (record : Record) (filtered : (distributor.emitted record).isReady = true) :
    (distributor.emitted record).pending = [] := by
  rw [isReady, emitted_filter] at filtered
  obtain ⟨filter, current⟩ := Option.isSome_iff_exists.mp filtered
  rw [emitted, current]
  exact ready filtered

/-- A record that is sent is forwarded, or held back behind the others, or gone. -/
theorem emitted_sublist (ready : distributor.isReady = true → distributor.pending = [])
    (record : Record) :
    (distributor.sends record ++ (distributor.emitted record).pending).Sublist
      (distributor.pending ++ [record]) := by
  cases current : distributor.filter with
  | none =>
      rw [sends, emitted, current]
      exact distributor.hold_sublist record
  | some filter =>
      have empty : distributor.pending = [] := ready (by rw [isReady, current]; rfl)
      rw [sends, emitted, current]
      simp only [empty, List.append_nil, List.nil_append]
      exact List.filter_sublist

theorem informed_ready (ready : distributor.isReady = true → distributor.pending = [])
    (filters : List Filter) (filtered : (distributor.informed filters).isReady = true) :
    (distributor.informed filters).pending = [] := by
  cases filters with
  | nil => exact ready filtered
  | cons filter rest => rfl

/-- What is held back goes out in its order, or stays. -/
theorem informed_sublist (distributor : Distributor) (filters : List Filter) :
    (distributor.released filters ++ (distributor.informed filters).pending).Sublist
      distributor.pending := by
  cases filters with
  | nil => exact .refl _
  | cons filter rest =>
      change (distributor.released [filter] ++ []).Sublist _
      rw [List.append_nil]
      exact List.filter_sublist

end Distributor

/-! ## Filters on their way -/

def Distributor.detached (distributor : Distributor) : Distributor :=
  { distributor with inbox := none }

namespace Hub

variable {hub middle after : Hub}

/-- Nothing has changed but the filters on their way. -/
structure Quiet (hub after : Hub) : Prop where
  records : after.queue.records = hub.queue.records
  seats : after.seats.map (Option.map Distributor.detached) =
    hub.seats.map (Option.map Distributor.detached)

namespace Quiet

theorem refl (hub : Hub) : hub.Quiet hub :=
  ⟨rfl, rfl⟩

theorem trans (first : hub.Quiet middle) (second : middle.Quiet after) : hub.Quiet after :=
  ⟨second.records.trans first.records, second.seats.trans first.seats⟩

theorem seated? (quiet : hub.Quiet after) (seat : Nat) :
    (after.seated? seat).map Distributor.detached =
      (hub.seated? seat).map Distributor.detached := by
  have same := congrArg (fun seats => seats[seat]?.join) quiet.seats
  simp only [List.getElem?_map, Option.join_map_eq_map_join] at same
  exact same

theorem counts (quiet : hub.Quiet after) : after.counts = hub.counts := by
  have counted (hub : Hub) : hub.counts = (hub.seats.map (Option.map Distributor.detached)).map
      fun sitting => sitting.elim 0 Distributor.forwarded := by
    rw [List.map_map]
    refine List.map_congr_left fun sitting _ => ?_
    cases sitting <;> rfl
  rw [counted, quiet.seats, ← counted]

theorem heldBy (quiet : hub.Quiet after) (seat : Nat) : after.heldBy seat = hub.heldBy seat := by
  have held (hub : Hub) : hub.heldBy seat =
      ((hub.seated? seat).map Distributor.detached).elim [] Distributor.pending := by
    unfold Hub.heldBy
    cases hub.seated? seat <;> rfl
  rw [held, held, quiet.seated?]

end Quiet

theorem deliver_detached (filter : Filter) (subscribers : List Subscriber)
    (seats : List (Option Distributor)) :
    (deliver filter subscribers seats).map (Option.map Distributor.detached) =
      seats.map (Option.map Distributor.detached) := by
  induction subscribers generalizing seats with
  | nil => rfl
  | cons subscriber rest ih =>
      refine (ih _).trans (List.ext_getElem? fun seat => ?_)
      rw [List.getElem?_map, List.getElem?_map, List.getElem?_modify]
      rcases seats[seat]? with _ | _ | distributor
      · rfl
      · simp
      · by_cases here : subscriber.seat = seat
        · simp [here, Distributor.detached, Distributor.deliver]
        · simp [here]

theorem broadcast_quiet (hub : Hub) (filter : Filter) :
    hub.Quiet (hub.broadcast filter).value.1 := by
  unfold broadcast
  cases there : hub.server with
  | none => exact .refl hub
  | some server =>
      cases filter.validate with
      | error error => exact .refl hub
      | ok done =>
          refine ⟨?_, deliver_detached filter _ hub.seats⟩
          rw [queue_eq there]
          rfl

theorem serveAll_quiet (hub : Hub) (filters : List Filter) :
    hub.Quiet (hub.serveAll filters).value.1 := by
  induction filters generalizing hub with
  | nil => exact .refl hub
  | cons filter rest ih =>
      have first := hub.broadcast_quiet filter
      rw [serveAll, Trail.value_bind]
      rcases answered : (hub.broadcast filter).value with ⟨after, error | done⟩
      · rw [answered] at first
        exact first.trans (ih after)
      · rw [answered] at first
        exact first.trans (ih after)

theorem serve_quiet (hub : Hub) : hub.Quiet hub.serve.value.1 := by
  unfold serve
  cases there : hub.server with
  | none => exact .refl hub
  | some server =>
      have cleared : hub.Quiet { hub with server := some { server with requests := [] } } := by
        refine ⟨?_, rfl⟩
        rw [queue_eq there]
        rfl
      exact cleared.trans (serveAll_quiet _ server.requests)

theorem request_quiet (hub : Hub) (seat : Nat) (filter : Filter) :
    hub.Quiet (hub.request seat filter).1 := by
  unfold request
  cases hub.seated? seat with
  | none => exact .refl hub
  | some distributor =>
      dsimp only
      cases distributor.checkRequest filter with
      | error error => exact .refl hub
      | ok done =>
          cases there : hub.server with
          | none => exact .refl hub
          | some server =>
              refine ⟨?_, rfl⟩
              rw [queue_eq there]
              rfl

theorem emit_open {server : Server} {seat : Nat} {distributor : Distributor}
    (there : hub.server = some server) (found : hub.seated? seat = some distributor)
    (level : Level) (mask : Mask) (message : String) :
    let record := Record.new distributor.moduleName level mask message hub.clock
    (hub.emit seat level mask message).value =
      (hub.store seat (distributor.emitted record)
        ⟨server.records ++ distributor.sends record, true⟩, .ok (distributor.fate record)) := by
  intro record
  have value := distributor.emit_open server.records record
  rw [← queue_eq there] at value
  unfold emit
  rw [(onSeat_seated found _).1, value]

theorem forwards_emit {seat : Nat} {distributor : Distributor}
    (found : hub.seated? seat = some distributor) (level : Level) (mask : Mask)
    (message : String) :
    hub.forwards (.emit seat level mask message) =
      (distributor.sends (Record.new distributor.moduleName level mask message hub.clock)).map
        fun record => (seat, record) := by
  rw [forwards, found]
  rfl

/-- Leaving an empty seat changes nothing. -/
theorem leave_empty {seat : Nat} (empty : hub.seated? seat = none) : hub.leave seat = hub := by
  have same : hub.seats.set seat none = hub.seats := by
    cases here : hub.seats[seat]? with
    | none => exact List.set_eq_of_length_le (List.getElem?_eq_none_iff.mp here)
    | some sitting =>
        have vacant : sitting = none := by
          rw [seated?, here] at empty
          exact empty
        rw [vacant] at here
        exact set_eq_self here
  rw [leave, same]

theorem heldBy_eq {seat : Nat} {distributor : Distributor}
    (found : hub.seated? seat = some distributor) : hub.heldBy seat = distributor.pending := by
  rw [heldBy, found]
  rfl

/-- A seat counts with what its module has counted. -/
theorem sum_counts_set {seat : Nat} {distributor : Distributor}
    (found : hub.seated? seat = some distributor) (new : Option Distributor) :
    (counts { hub with seats := hub.seats.set seat new }).sum + distributor.forwarded =
      hub.counts.sum + new.elim 0 Distributor.forwarded :=
  sum_map_set (Option.join_eq_some_iff.mp found) new _

end Hub

/-! ## The books -/

namespace Journal

variable {hub after : Hub} {fetched : List Record} {emitted forwarded : List (Nat × Record)}
  {departed : Nat}

/-- What was forwarded was fetched or waits to be, in order; all modules together have counted it;
and of each module it is a part of what that has sent, followed by what the module holds back. -/
structure Balanced (journal : Journal) : Prop where
  order : journal.fetched ++ journal.hub.queue.records = journal.forwarded.map Prod.snd
  total : journal.departed + journal.hub.counts.sum = journal.forwarded.length
  ready {seat : Nat} {distributor : Distributor}
    (found : journal.hub.seated? seat = some distributor) (filtered : distributor.isReady = true) :
    distributor.pending = []
  kept (seat : Nat) : (recordsOf seat journal.forwarded ++ journal.hub.heldBy seat).Sublist
    (recordsOf seat journal.emitted)

theorem start_balanced {filter : Filter} {clock : Timestamp}
    (made : Hub.new filter clock = .ok hub) : (start hub).Balanced := by
  obtain ⟨_, rfl⟩ := Hub.new_eq made
  refine ⟨rfl, rfl, fun found => ?_, fun seat => .slnil⟩
  cases found

namespace Balanced

/-- Filters on their way leave the books as they are. -/
theorem quiet (balanced : Balanced ⟨hub, fetched, emitted, forwarded, departed⟩)
    (quiet : hub.Quiet after) : Balanced ⟨after, fetched, emitted, forwarded, departed⟩ := by
  obtain ⟨order, total, ready, kept⟩ := balanced
  refine ⟨?_, ?_, fun {seat last} found filtered => ?_, fun seat => ?_⟩
  · exact (congrArg (fetched ++ ·) quiet.records).trans order
  · exact (congrArg (departed + List.sum ·) quiet.counts).trans total
  · have same := quiet.seated? seat
    rw [show after.seated? seat = some last from found] at same
    obtain ⟨before, sat, alike⟩ := Option.map_eq_some_iff.mp same.symm
    have filter : before.detached.filter = last.detached.filter :=
      congrArg Distributor.filter alike
    have pending : before.detached.pending = last.detached.pending :=
      congrArg Distributor.pending alike
    have empty : before.pending = [] :=
      ready sat ((congrArg Option.isSome filter).trans filtered)
    exact pending.symm.trans empty
  · change (recordsOf seat forwarded ++ after.heldBy seat).Sublist _
    rw [quiet.heldBy]
    exact kept seat

/-- A module that acts counts what it forwards, and forwards in order, from what it held back and
from what it sends. -/
theorem acts {server : Server} {seat : Nat} {distributor new : Distributor}
    {sent said : List Record}
    (balanced : Balanced ⟨hub, fetched, emitted, forwarded, departed⟩)
    (there : hub.server = some server) (found : hub.seated? seat = some distributor)
    (counted : new.forwarded = distributor.forwarded + sent.length)
    (flushed : new.isReady = true → new.pending = [])
    (split : (sent ++ new.pending).Sublist (distributor.pending ++ said)) :
    Balanced ⟨hub.store seat new ⟨server.records ++ sent, true⟩, fetched,
      emitted ++ said.map fun record => (seat, record),
      forwarded ++ sent.map fun record => (seat, record), departed⟩ := by
  obtain ⟨order, total, ready, kept⟩ := balanced
  have seated := Hub.seated?_store found new ⟨server.records ++ sent, true⟩
  refine ⟨?_, ?_, fun {other last} sits filtered => ?_, fun other => ?_⟩
  · have queue : (hub.store seat new ⟨server.records ++ sent, true⟩).queue.records =
        server.records ++ sent := by
      rw [Hub.queue_eq (congrArg (Option.map _) there)]
    have before : fetched ++ server.records = forwarded.map Prod.snd := by
      rw [← order, Hub.queue_eq there]
    change fetched ++ _ = _
    rw [queue, ← List.append_assoc, before, List.map_append, List.map_map]
    exact congrArg (_ ++ ·) (List.map_id sent).symm
  · have moved : (hub.store seat new ⟨server.records ++ sent, true⟩).counts.sum +
        distributor.forwarded = hub.counts.sum + new.forwarded :=
      Hub.sum_counts_set found (some new)
    have before : departed + hub.counts.sum = forwarded.length := total
    change departed + (hub.store seat new _).counts.sum = _
    rw [List.length_append, List.length_map]
    omega
  · rw [seated] at sits
    split at sits
    · cases sits
      exact flushed filtered
    · exact ready sits filtered
  · have old := kept other
    change (recordsOf other _ ++ (hub.store seat new _).heldBy other).Sublist (recordsOf other _)
    rw [recordsOf_append, recordsOf_append, recordsOf_entries, recordsOf_entries, Hub.heldBy,
      seated]
    by_cases same : seat = other
    · -- Behind what was forwarded before stands what was held back, and then what is sent now.
      subst same
      rw [Hub.heldBy_eq found] at old
      simp only [↓reduceIte, Option.elim_some]
      rw [List.append_assoc]
      refine ((List.Sublist.refl _).append split).trans ?_
      rw [← List.append_assoc]
      exact old.append (.refl said)
    · simp only [if_neg same, List.append_nil]
      exact old

theorem emit {server : Server} (balanced : Balanced ⟨hub, fetched, emitted, forwarded, departed⟩)
    (there : hub.server = some server) (seat : Nat) (level : Level) (mask : Mask)
    (message : String) :
    Balanced ⟨(hub.emit seat level mask message).value.1, fetched,
      emitted ++ hub.emits (.emit seat level mask message),
      forwarded ++ hub.forwards (.emit seat level mask message), departed⟩ := by
  cases found : hub.seated? seat with
  | none =>
      rw [Hub.emit, Hub.onSeat_empty found, Hub.emits, Hub.forwards, found]
      simp only [Option.elim_none, List.append_nil]
      exact balanced
  | some distributor =>
      have ready := balanced.ready found
      rw [Hub.emit_open there found, Hub.forwards_emit found, Hub.emits, found]
      exact balanced.acts there found (distributor.emitted_forwarded _)
        (Distributor.emitted_ready ready _) (Distributor.emitted_sublist ready _)

theorem process {server : Server}
    (balanced : Balanced ⟨hub, fetched, emitted, forwarded, departed⟩)
    (there : hub.server = some server) (seat : Nat)
    (inbox : ∀ distributor, hub.seated? seat = some distributor →
      ∃ queue, distributor.inbox = some queue ∧ ∀ filter ∈ queue, filter.Valid) :
    Balanced ⟨(hub.process seat).value.1, fetched, emitted,
      forwarded ++ hub.forwards (.process seat), departed⟩ := by
  cases found : hub.seated? seat with
  | none =>
      rw [Hub.process, Hub.onSeat_empty found, Hub.forwards, found]
      simp only [Option.elim_none, List.append_nil]
      exact balanced
  | some distributor =>
      have ready := balanced.ready found
      obtain ⟨queue, waiting, valid⟩ := inbox distributor found
      have split := distributor.informed_sublist queue
      rw [← List.append_nil distributor.pending] at split
      have acted := balanced.acts there found rfl (Distributor.informed_ready ready queue) split
      rw [List.map_nil, List.append_nil] at acted
      rw [(Hub.process_open there found waiting valid).1, Hub.forwards, found]
      simp only [Option.elim_some, waiting, Option.getD_some]
      exact acted

theorem takeRecords {server : Server}
    (balanced : Balanced ⟨hub, fetched, emitted, forwarded, departed⟩)
    (there : hub.server = some server) :
    Balanced ⟨hub.takeRecords.2, fetched ++ hub.takeRecords.1, emitted, forwarded, departed⟩ := by
  obtain ⟨order, total, ready, kept⟩ := balanced
  have before : fetched ++ server.records = forwarded.map Prod.snd := by
    rw [← order, Hub.queue_eq there]
  unfold Hub.takeRecords
  rw [there]
  refine ⟨?_, total, ready, kept⟩
  change (fetched ++ server.records) ++ [] = _
  rw [List.append_nil]
  exact before

theorem leave (balanced : Balanced ⟨hub, fetched, emitted, forwarded, departed⟩) (seat : Nat) :
    Balanced ⟨hub.leave seat, fetched, emitted, forwarded,
      departed + hub.departs (.leave seat)⟩ := by
  cases found : hub.seated? seat with
  | none =>
      rw [Hub.leave_empty found, Hub.departs, found]
      exact balanced
  | some distributor =>
      obtain ⟨order, total, ready, kept⟩ := balanced
      have seated := hub.seated?_leave seat
      rw [Hub.departs, found]
      refine ⟨order, ?_, fun {other last} sits => ?_, fun other => ?_⟩
      · have moved : (hub.leave seat).counts.sum + distributor.forwarded = hub.counts.sum + 0 :=
          Hub.sum_counts_set found none
        have before : departed + hub.counts.sum = forwarded.length := total
        change departed + distributor.forwarded + (hub.leave seat).counts.sum = forwarded.length
        omega
      · rw [seated] at sits
        split at sits
        · cases sits
        · exact ready sits
      · refine List.Sublist.trans ?_ (kept other)
        refine (List.Sublist.refl _).append ?_
        change ((hub.leave seat).heldBy other).Sublist (hub.heldBy other)
        rw [Hub.heldBy, seated]
        split
        · exact List.nil_sublist _
        · exact .refl _

/-- A module that comes has counted nothing and holds nothing back. -/
theorem subscribe {server : Server}
    (balanced : Balanced ⟨hub, fetched, emitted, forwarded, departed⟩)
    (there : hub.server = some server) (moduleName : String) :
    Balanced ⟨(hub.subscribe moduleName).value.1, fetched, emitted, forwarded, departed⟩ := by
  obtain ⟨order, total, ready, kept⟩ := balanced
  unfold Hub.subscribe
  rw [there]
  cases made : Distributor.new moduleName with
  | error error => exact ⟨order, total, ready, kept⟩
  | ok distributor =>
      cases Distributor.new_eq made
      refine ⟨?_, ?_, fun {seat last} found filtered => ?_, fun seat => ?_⟩
      · rw [← order, Hub.queue_eq there]
        rfl
      · change departed + (List.map _ (hub.seats ++ [_])).sum = _
        rw [List.map_append, List.sum_append]
        exact total
      · rcases Hub.seated_of_append rfl found with old | ⟨_, rfl⟩
        · exact ready old filtered
        · cases filtered
      · refine List.Sublist.trans ?_ (kept seat)
        refine (List.Sublist.refl _).append ?_
        cases found : Hub.seated? _ seat with
        | none =>
            rw [Hub.heldBy, found]
            exact List.nil_sublist _
        | some last =>
            rw [Hub.heldBy_eq found]
            rcases Hub.seated_of_append rfl found with old | ⟨_, rfl⟩
            · exact (Hub.heldBy_eq old).symm ▸ .refl _
            · exact List.nil_sublist _

theorem step {observed : Observed} {journal : Journal} (balanced : journal.Balanced)
    (agrees : observed.Agrees) (same : observed.hub = journal.hub) (operation : Hub.Operation) :
    (journal.step operation).Balanced := by
  obtain ⟨hub, fetched, emitted, forwarded, departed⟩ := journal
  subst same
  obtain ⟨server, there, _⟩ := agrees.server
  have quiet {after : Hub} (quiet : observed.hub.Quiet after) :
      Balanced ⟨after, fetched ++ [], emitted ++ [], forwarded ++ [], departed + 0⟩ := by
    simp only [List.append_nil, Nat.add_zero]
    exact balanced.quiet quiet
  cases operation with
  | broadcast filter => exact quiet (observed.hub.broadcast_quiet filter)
  | request seat filter => exact quiet (observed.hub.request_quiet seat filter)
  | serve => exact quiet observed.hub.serve_quiet
  | setClock now => exact quiet ⟨rfl, rfl⟩
  | subscribe moduleName =>
      simp only [Journal.step, Hub.fetches, Hub.emits, Hub.forwards, Hub.departs, List.append_nil]
      exact balanced.subscribe there moduleName
  | process seat =>
      simp only [Journal.step, Hub.fetches, Hub.emits, Hub.departs, List.append_nil]
      exact balanced.process there seat fun distributor found => agrees.inbox found
  | emit seat level mask message =>
      simp only [Journal.step, Hub.fetches, Hub.departs, List.append_nil]
      exact balanced.emit there seat level mask message
  | takeRecords =>
      simp only [Journal.step, Hub.emits, Hub.forwards, Hub.departs, List.append_nil]
      exact balanced.takeRecords there
  | leave seat =>
      simp only [Journal.step, Hub.fetches, Hub.emits, Hub.forwards, List.append_nil]
      exact balanced.leave seat

theorem run {observed : Observed} {journal : Journal} (balanced : journal.Balanced)
    (agrees : observed.Agrees) (same : observed.hub = journal.hub)
    (operations : List Hub.Operation) : (journal.run operations).Balanced := by
  induction operations generalizing observed journal with
  | nil => exact balanced
  | cons operation rest ih =>
      refine ih (balanced.step agrees same operation) (agrees.step operation) ?_
      exact congrArg (fun hub => (hub.step operation).value) same

end Balanced

theorem run_hub (journal : Journal) (operations : List Hub.Operation) :
    (journal.run operations).hub = (journal.hub.run operations).value := by
  induction operations generalizing journal with
  | nil => rfl
  | cons operation rest ih => exact ih (journal.step operation)

/-- As long as the server stays, sending a record and looking for news never fail, whatever the
server and its modules do.  What was fetched from the server, and then what waits there, is what the
modules have forwarded, in the order in which they did; each of them forwards in the order in which
it sends; and all modules that ever came have together counted as many records. -/
theorem forwarded_records_arrive_once_in_order {filter : Filter} {clock : Timestamp} {hub : Hub}
    (made : Hub.new filter clock = .ok hub) (operations : List Hub.Operation) :
    let journal := (start hub).run operations
    journal.hub = (hub.run operations).value ∧
      (∀ seat distributor, journal.hub.seated? seat = some distributor →
        (∀ level mask message, ∃ disposition,
          (journal.hub.emit seat level mask message).value.2 = .ok disposition ∧
            (disposition = .forwarded ↔
              journal.hub.forwards (.emit seat level mask message) ≠ [])) ∧
          ∃ count, (journal.hub.process seat).value.2 = .ok count) ∧
      (∃ server, journal.hub.server = some server ∧
        journal.fetched ++ server.records = journal.forwarded.map Prod.snd) ∧
      (∀ seat, (recordsOf seat journal.forwarded).Sublist (recordsOf seat journal.emitted)) ∧
      journal.departed + journal.hub.counts.sum = journal.forwarded.length := by
  intro journal
  have agrees : (Observed.run ⟨hub, [filter], []⟩ operations).Agrees :=
    (Observed.start_agrees made).run operations
  have same : (Observed.run ⟨hub, [filter], []⟩ operations).hub = journal.hub :=
    (Observed.run_hub _ operations).trans (run_hub (start hub) operations).symm
  have balanced : journal.Balanced :=
    (start_balanced made).run (Observed.start_agrees made) rfl operations
  obtain ⟨server, there, _⟩ := agrees.server
  rw [same] at there
  refine ⟨run_hub (start hub) operations, fun seat distributor found => ⟨?_, ?_⟩, ?_, ?_,
    balanced.total⟩
  · intro level mask message
    refine ⟨_, congrArg Prod.snd (Hub.emit_open there found level mask message), ?_⟩
    rw [Distributor.fate_eq_forwarded, Hub.forwards_emit found, ne_eq, ne_eq, List.map_eq_nil_iff]
  · rw [← same] at found
    obtain ⟨queue, inbox, valid⟩ := agrees.inbox found
    rw [same] at found
    exact ⟨_, congrArg Prod.snd (Hub.process_open there found inbox valid).1⟩
  · refine ⟨server, there, ?_⟩
    have order := balanced.order
    rw [Hub.queue_eq there] at order
    exact order
  · intro seat
    exact (List.sublist_append_left _ _).trans (balanced.kept seat)

/-- Two modules hold records back and send them on under different filters; one of them is silenced
and leaves. -/
def twoModules : List Hub.Operation :=
  [.subscribe "pump", .emit 0 .error .user "leak", .emit 0 .debug .user "detail",
    .emit 0 .warning .user "slow", .subscribe "valve", .emit 1 .info .user "early",
    .emit 1 .success .user "open", .process 0, .takeRecords, .emit 0 .error .user "stop",
    .broadcast Observed.withoutPump, .process 1, .process 0, .emit 0 .error .user "again",
    .leave 0, .emit 1 .info .user "shut"]

theorem two_modules_are_heard_in_order :
    let hub : Hub := ⟨some ⟨.standard, [], [], []⟩, [], ⟨0, 0⟩⟩
    let journal := (start hub).run twoModules
    Hub.new .standard ⟨0, 0⟩ = .ok hub ∧
      (recordsOf 0 journal.emitted).map Record.message =
        ["leak", "detail", "slow", "stop", "again"] ∧
      journal.forwarded.map (fun entry => (entry.1, entry.2.message)) =
        [(0, "leak"), (0, "slow"), (0, "stop"), (1, "open"), (1, "shut")] ∧
      journal.fetched.map Record.message = ["leak", "slow"] ∧ journal.departed = 3 ∧
      (∃ server, journal.hub.server = some server ∧
        journal.fetched ++ server.records = journal.forwarded.map Prod.snd) ∧
      journal.departed + journal.hub.counts.sum = journal.forwarded.length := by
  intro hub journal
  have made : Hub.new .standard ⟨0, 0⟩ = .ok hub := rfl
  obtain ⟨_, _, order, _, total⟩ := forwarded_records_arrive_once_in_order made twoModules
  exact ⟨made, by decide +kernel, by decide +kernel, by decide +kernel, by decide +kernel, order,
    total⟩

end Journal

end DatasetSync.Log
