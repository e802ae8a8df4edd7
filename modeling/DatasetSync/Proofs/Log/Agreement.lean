import DatasetSync.Proofs.Log.Hub

/-!
# All modules agree on the filters

The filters a server has had, one after the other, are its history.  A module gets the history from
the filter in force when it came, in order and without gaps: first what it has taken in, then what
still waits in its inbox.  So two modules can differ only in how far they have come.
-/

namespace DatasetSync.Log

/-! ## Taking in what waits -/

namespace Distributor

def adopted {S : Type} [Sink S] (distributor : Distributor) (sink : S) :
    List Filter → List Filter
  | [] => []
  | filter :: rest =>
      match (distributor.apply sink filter).value with
      | (after, sink, .ok _) => after.filter.toList ++ after.adopted sink rest
      | (after, _, .error _) => if filter.Valid then after.filter.toList else []

/-- With a queue that is read, everything that waits is taken in. -/
theorem applyAll_open (distributor : Distributor) (records : List Record) {filters : List Filter}
    (valid : ∀ filter ∈ filters, filter.Valid) (applied : Nat) :
    (distributor.applyAll (⟨records, true⟩ : Queue) true applied filters).value =
        (distributor.informed filters, ⟨records ++ distributor.released filters, true⟩,
          .ok (applied + filters.length)) ∧
      (distributor.applyAll (⟨records, true⟩ : Queue) true applied filters).marks.filterMap
        Effect.applied? = filters ∧
      distributor.adopted (⟨records, true⟩ : Queue) filters = filters := by
  induction filters generalizing distributor records applied with
  | nil =>
      refine ⟨?_, rfl, rfl⟩
      rw [Distributor.released, List.append_nil]
      rfl
  | cons filter rest ih =>
      -- A queue that is read refuses nothing, so no filter stops those behind it.
      obtain ⟨fits, others⟩ := List.forall_mem_cons.mp valid
      have first := distributor.apply_open records fits
      obtain ⟨_, _, _, told⟩ := distributor.apply_valid (⟨records, true⟩ : Queue) fits
      obtain ⟨value, heard, adopted⟩ :=
        ih (distributor.apply (⟨records, true⟩ : Queue) filter).value.1
          (records ++ distributor.released [filter]) others (applied + 1)
      refine ⟨?_, ?_, ?_⟩
      · rw [applyAll, Trail.value_bind, first]
        rw [first] at value
        refine value.trans ?_
        rw [informed_taken, released_taken, List.append_nil, List.length_cons,
          Nat.add_right_comm, Nat.add_assoc]
        rfl
      · rw [applyAll, Trail.marks_bind, List.filterMap_append, told, first]
        rw [first] at heard
        exact congrArg (filter :: ·) heard
      · rw [Distributor.adopted, first]
        rw [first] at adopted
        exact congrArg (filter :: ·) adopted

end Distributor

/-! ## Watching a hub -/

namespace Hub

/-- The requests that become the filter in force when they are served. -/
def served (hub : Hub) : List Filter → List Filter
  | [] => []
  | filter :: rest =>
      let (after, answer) := (hub.broadcast filter).value
      if answer.isOk then filter :: after.served rest else after.served rest

def installs (hub : Hub) : Operation → List Filter
  | .broadcast filter => if (hub.broadcast filter).value.2.isOk then [filter] else []
  | .serve =>
      match hub.server with
      | none => []
      | some server =>
          { hub with server := some { server with requests := [] } }.served server.requests
  | _ => []

/-- The filters that the module in a seat works under, one after the other, when it looks for
news. -/
def adopts (hub : Hub) (seat : Nat) : List Filter :=
  match hub.seated? seat with
  | none => []
  | some distributor => distributor.adopted hub.queue (distributor.inbox.getD [])

/-- A module that looks for news takes in everything that waits for it. -/
theorem process_open {hub : Hub} {server : Server} {seat : Nat} {distributor : Distributor}
    {queue : List Filter} (there : hub.server = some server)
    (found : hub.seated? seat = some distributor) (inbox : distributor.inbox = some queue)
    (valid : ∀ filter ∈ queue, filter.Valid) :
    (hub.process seat).value =
        (hub.store seat (distributor.informed queue)
          ⟨server.records ++ distributor.released queue, true⟩, .ok queue.length) ∧
      (hub.process seat).marks.filterMap Effect.applied? = queue ∧
      hub.adopts seat = queue := by
  obtain ⟨value, heard, adopted⟩ := distributor.applyAll_open server.records valid 0
  have records := queue_eq there
  have processed : distributor.process hub.queue hub.server.isSome =
      distributor.applyAll (⟨server.records, true⟩ : Queue) true 0 queue := by
    unfold Distributor.process
    rw [inbox, records, there]
    rfl
  obtain ⟨same, marks⟩ := onSeat_seated found
    fun distributor queue => distributor.process queue hub.server.isSome
  refine ⟨?_, ?_, ?_⟩
  · refine same.trans ?_
    rw [processed, value, Nat.zero_add]
  · rw [← heard, ← processed]
    exact congrArg (List.filterMap _) marks
  · unfold adopts
    rw [found, records]
    dsimp only
    rw [inbox]
    exact adopted

end Hub

structure Member where
  /-- How many filters the server had had when the module came. -/
  joined : Nat
  /-- The filters the module has worked under. -/
  adopted : List Filter
  /-- The filters that it announced to whoever waits for them. -/
  heard : List Filter

/-- A hub, the filters its server has had, and its modules in the order of their seats. -/
structure Observed where
  hub : Hub
  history : List Filter
  members : List Member

namespace Observed

def membersAfter (observed : Observed) : Hub.Operation → List Member
  | .subscribe moduleName =>
      if (observed.hub.subscribe moduleName).value.2.isOk then
        observed.members ++ [⟨observed.history.length, [], []⟩]
      else observed.members
  | .process seat =>
      observed.members.modify seat fun member => { member with
        adopted := member.adopted ++ observed.hub.adopts seat
        heard := member.heard ++
          (observed.hub.process seat).marks.filterMap Effect.applied? }
  | _ => observed.members

def step (observed : Observed) (operation : Hub.Operation) : Observed where
  hub := (observed.hub.step operation).value
  history := observed.history ++ observed.hub.installs operation
  members := observed.membersAfter operation

def run (observed : Observed) (operations : List Hub.Operation) : Observed :=
  operations.foldl step observed

theorem run_hub (observed : Observed) (operations : List Hub.Operation) :
    (observed.run operations).hub = (observed.hub.run operations).value := by
  induction operations generalizing observed with
  | nil => rfl
  | cons operation rest ih => exact ih (observed.step operation)

end Observed

/-! ## Agreement -/

/-- A module has taken in a part of the history, and the rest waits for it. -/
structure Member.Follows (member : Member) (history : List Filter) (distributor : Distributor) :
    Prop where
  joined_pos : 0 < member.joined
  joined_le : member.joined ≤ history.length
  heard : member.heard = member.adopted
  current : distributor.filter = member.adopted.getLast?
  queued : ∃ queue, distributor.inbox = some queue ∧
    member.adopted ++ queue = history.drop (member.joined - 1)

namespace Member.Follows

variable {member : Member} {history : List Filter} {distributor after : Distributor}

theorem congr (follows : member.Follows history distributor)
    (filter : after.filter = distributor.filter) (inbox : after.inbox = distributor.inbox) :
    member.Follows history after := by
  obtain ⟨joined_pos, joined_le, heard, current, queued⟩ := follows
  refine ⟨joined_pos, joined_le, heard, filter.trans current, ?_⟩
  rw [inbox]
  exact queued

/-- A module that has just come waits for the filter in force. -/
theorem of_new {filter : Filter} (last : history.getLast? = some filter)
    (unfiltered : distributor.filter = none) (inbox : distributor.inbox = some [filter]) :
    Follows ⟨history.length, [], []⟩ history distributor := by
  obtain ⟨earlier, rfl⟩ := List.getLast?_eq_some_iff.mp last
  have length : (earlier ++ [filter]).length = earlier.length + 1 := List.length_append
  refine ⟨?_, Nat.le_refl _, rfl, unfiltered, [filter], inbox, ?_⟩
  · rw [length]
    exact Nat.succ_pos _
  · rw [length, Nat.add_sub_cancel, List.drop_left]
    rfl

theorem deliver (follows : member.Follows history distributor) (filter : Filter) :
    member.Follows (history ++ [filter]) (distributor.deliver filter) := by
  obtain ⟨joined_pos, joined_le, heard, current, queue, inbox, rest⟩ := follows
  refine ⟨joined_pos, ?_, heard, current, queue ++ [filter], ?_, ?_⟩
  · rw [List.length_append]
    omega
  · rw [Distributor.deliver, inbox]
    rfl
  · rw [← List.append_assoc, rest, List.drop_append_of_le_length (by omega)]

/-- Everything that waits is taken in at once. -/
theorem takeIn {queue : List Filter} (follows : member.Follows history distributor)
    (inbox : distributor.inbox = some queue)
    (filter : after.filter = queue.getLast?.or distributor.filter)
    (empty : after.inbox = some []) :
    Follows { member with adopted := member.adopted ++ queue, heard := member.heard ++ queue }
      history after := by
  obtain ⟨joined_pos, joined_le, heard, current, waiting, same, rest⟩ := follows
  cases same.symm.trans inbox
  refine ⟨joined_pos, joined_le, congrArg (· ++ queue) heard, ?_, [], empty, ?_⟩
  · rw [filter, current, List.getLast?_append]
  · rw [List.append_nil]
    exact rest

/-- The filter in force waits, or the module works under it. -/
theorem caught_up (follows : member.Follows history distributor)
    (empty : distributor.inbox = some []) : distributor.filter = history.getLast? := by
  obtain ⟨joined_pos, joined_le, heard, current, queue, inbox, rest⟩ := follows
  cases inbox.symm.trans empty
  rw [List.append_nil] at rest
  rw [current, rest, List.getLast?_drop, if_neg (by omega)]

/-- Two modules took in the same filters in the same order, as far as both have come. -/
theorem comparable {other : Member} {second : Distributor}
    (follows : member.Follows history distributor) (others : other.Follows history second)
    (earlier : member.joined ≤ other.joined) :
    member.adopted.drop (other.joined - member.joined) <+: other.adopted ∨
      other.adopted <+: member.adopted.drop (other.joined - member.joined) := by
  obtain ⟨_, _, ahead⟩ := follows.queued
  obtain ⟨_, _, behind⟩ := others.queued
  have positive := follows.joined_pos
  -- Both are beginnings of the history from where the later one came in.
  have shared : history.drop (other.joined - 1) =
      (history.drop (member.joined - 1)).drop (other.joined - member.joined) := by
    rw [List.drop_drop]
    congr 1
    omega
  refine List.prefix_or_prefix_of_prefix ?_ ⟨_, behind⟩
  rw [shared, ← ahead, List.drop_append]
  exact List.prefix_append _ _

end Member.Follows

/-- Nothing that concerns filters has changed, but modules may have left. -/
structure Hub.Calm (hub after : Hub) : Prop where
  server {server : Server} (there : hub.server = some server) :
    ∃ later, after.server = some later ∧ later.filter = server.filter ∧
      later.subscribers = server.subscribers
  seats : after.seats.length = hub.seats.length
  seated {seat : Nat} {last : Distributor} (found : after.seated? seat = some last) :
    ∃ distributor, hub.seated? seat = some distributor ∧ last.filter = distributor.filter ∧
      last.inbox = distributor.inbox

namespace Hub

theorem Calm.refl (hub : Hub) : hub.Calm hub :=
  ⟨fun there => ⟨_, there, rfl, rfl⟩, rfl, fun found => ⟨_, found, rfl, rfl⟩⟩

/-- The server may change whatever has nothing to do with filters. -/
theorem Calm.of_server {hub : Hub} {server later : Server} (there : hub.server = some server)
    (filter : later.filter = server.filter)
    (subscribers : later.subscribers = server.subscribers) :
    hub.Calm { hub with server := some later } := by
  refine ⟨fun {other} same => ?_, rfl, fun found => ⟨_, found, rfl, rfl⟩⟩
  cases there.symm.trans same
  exact ⟨later, rfl, filter, subscribers⟩

theorem store_calm {hub : Hub} {seat : Nat} {distributor after : Distributor}
    (found : hub.seated? seat = some distributor) (filter : after.filter = distributor.filter)
    (inbox : after.inbox = distributor.inbox) (queue : Queue) :
    hub.Calm (hub.store seat after queue) := by
  refine ⟨fun there => ?_, List.length_set, fun {other last} sits => ?_⟩
  · exact ⟨_, congrArg (Option.map _) there, rfl, rfl⟩
  · rw [seated?_store found] at sits
    split at sits
    · rename_i here
      subst here
      cases sits
      exact ⟨distributor, found, filter, inbox⟩
    · exact ⟨last, sits, rfl, rfl⟩

theorem emit_calm (hub : Hub) (seat : Nat) (level : Level) (mask : Mask) (message : String) :
    hub.Calm (hub.emit seat level mask message).value.1 := by
  unfold emit
  cases found : hub.seated? seat with
  | none =>
      rw [onSeat_empty found]
      exact .refl hub
  | some distributor =>
      rw [(onSeat_seated found _).1]
      obtain ⟨filter, inbox⟩ := distributor.emit_keeps hub.queue
        (Record.new distributor.moduleName level mask message hub.clock)
      exact store_calm found filter inbox _

theorem takeRecords_calm (hub : Hub) : hub.Calm hub.takeRecords.2 := by
  unfold takeRecords
  cases there : hub.server with
  | none => exact .refl hub
  | some server => exact .of_server there rfl rfl

theorem request_calm (hub : Hub) (seat : Nat) (filter : Filter) :
    hub.Calm (hub.request seat filter).1 := by
  unfold request
  cases hub.seated? seat with
  | none => exact .refl hub
  | some distributor =>
      dsimp only
      cases distributor.checkRequest filter with
      | error error => exact .refl hub
      | ok done =>
          cases there : hub.server with
          | none => exact .refl hub
          | some server => exact .of_server there rfl rfl

theorem leave_calm (hub : Hub) (seat : Nat) : hub.Calm (hub.leave seat) := by
  refine ⟨fun there => ⟨_, there, rfl, rfl⟩, List.length_set, fun {other last} sits => ?_⟩
  rw [seated?_leave] at sits
  split at sits
  · cases sits
  · exact ⟨last, sits, rfl, rfl⟩

end Hub

namespace Observed

/-- The server has the last filter of the history in force, knows its modules, and each of them
follows the history. -/
structure Agrees (observed : Observed) : Prop where
  valid : ∀ filter ∈ observed.history, filter.Valid
  members : observed.members.length = observed.hub.seats.length
  server : ∃ server, observed.hub.server = some server ∧
    observed.history.getLast? = some server.filter ∧ server.Attends observed.hub
  follows {seat : Nat} {distributor : Distributor}
    (found : observed.hub.seated? seat = some distributor) :
    ∃ member, observed.members[seat]? = some member ∧
      member.Follows observed.history distributor

namespace Agrees

variable {hub : Hub} {history : List Filter} {members : List Member}

theorem queued_valid {observed : Observed} {member : Member} {queue : List Filter}
    (agrees : observed.Agrees)
    (rest : member.adopted ++ queue = observed.history.drop (member.joined - 1)) :
    ∀ filter ∈ queue, filter.Valid := by
  intro filter inside
  apply agrees.valid
  apply List.mem_of_mem_drop
  rw [← rest]
  exact List.mem_append.mpr (.inr inside)

/-- Whoever is there has an inbox, and only valid filters wait in it. -/
theorem inbox {observed : Observed} (agrees : observed.Agrees) {seat : Nat}
    {distributor : Distributor} (found : observed.hub.seated? seat = some distributor) :
    ∃ queue, distributor.inbox = some queue ∧ ∀ filter ∈ queue, filter.Valid := by
  obtain ⟨member, _, going⟩ := agrees.follows found
  obtain ⟨queue, inbox, rest⟩ := going.queued
  exact ⟨queue, inbox, agrees.queued_valid rest⟩

theorem calm {after : Hub} (agrees : Agrees ⟨hub, history, members⟩) (calm : hub.Calm after) :
    Agrees ⟨after, history, members⟩ := by
  obtain ⟨valid, seats, ⟨server, there, last, attends⟩, follows⟩ := agrees
  obtain ⟨later, still, filter, subscribers⟩ := calm.server there
  refine ⟨valid, seats.trans calm.seats.symm, ⟨later, still, ?_, ?_⟩, fun found => ?_⟩
  · rw [filter]
    exact last
  · refine attends.congr subscribers calm.seats fun seat sits => ?_
    obtain ⟨distributor, found⟩ := Option.isSome_iff_exists.mp sits
    obtain ⟨before, sat, _⟩ := calm.seated found
    exact Option.isSome_iff_exists.mpr ⟨before, sat⟩
  · obtain ⟨before, sat, same, inbox⟩ := calm.seated found
    obtain ⟨member, here, going⟩ := follows sat
    exact ⟨member, here, going.congr same inbox⟩

/-- A new filter reaches everyone. -/
theorem install {server : Server} {filter : Filter} (agrees : Agrees ⟨hub, history, members⟩)
    (there : hub.server = some server) (fits : filter.Valid) :
    Agrees ⟨(hub.install server filter).value, history ++ [filter], members⟩ := by
  obtain ⟨valid, seats, ⟨known, same, last, attends⟩, follows⟩ := agrees
  cases there.symm.trans same
  refine ⟨?_, ?_, ⟨_, rfl, List.getLast?_concat, Hub.install_attends attends filter⟩,
    fun {seat distributor} found => ?_⟩
  · intro other member
    rcases List.mem_append.mp member with old | new
    · exact valid other old
    · cases List.mem_singleton.mp new
      exact fits
  · exact seats.trans (Hub.length_deliver filter _ _).symm
  · rw [Hub.seated?_install attends] at found
    obtain ⟨before, sat, rfl⟩ := Option.map_eq_some_iff.mp found
    obtain ⟨member, here, going⟩ := follows sat
    exact ⟨member, here, going.deliver filter⟩

theorem broadcast (agrees : Agrees ⟨hub, history, members⟩) (filter : Filter) :
    Agrees ⟨(hub.broadcast filter).value.1,
      history ++ (if (hub.broadcast filter).value.2.isOk then [filter] else []), members⟩ := by
  obtain ⟨server, there, _⟩ := agrees.server
  replace there : hub.server = some server := there
  unfold Hub.broadcast
  rw [there]
  by_cases valid : filter.Valid
  · rw [Filter.validate_eq_ok.mpr valid]
    exact agrees.install there valid
  · obtain ⟨error, refused⟩ := Filter.validate_eq_error valid
    rw [refused]
    exact (List.append_nil history).symm ▸ agrees

theorem serveAll (agrees : Agrees ⟨hub, history, members⟩) (filters : List Filter) :
    Agrees ⟨(hub.serveAll filters).value.1, history ++ hub.served filters, members⟩ := by
  induction filters generalizing hub history with
  | nil =>
      rw [Hub.served, List.append_nil]
      exact agrees
  | cons filter rest ih =>
      have next := agrees.broadcast filter
      rw [Hub.serveAll, Hub.served, Trail.value_bind]
      rcases answered : (hub.broadcast filter).value with ⟨after, error | done⟩
      · rw [answered] at next
        have nothing : history ++ (if (Except.error error : Except Error Unit).isOk then [filter]
          else []) = history := List.append_nil history
        rw [nothing] at next
        exact ih next
      · rw [answered] at next
        have later := ih next
        rw [List.append_assoc] at later
        exact later

theorem serve (agrees : Agrees ⟨hub, history, members⟩) :
    Agrees ⟨hub.serve.value.1, history ++ hub.installs .serve, members⟩ := by
  obtain ⟨server, there, _⟩ := agrees.server
  replace there : hub.server = some server := there
  unfold Hub.serve Hub.installs
  rw [there]
  have cleared : hub.Calm { hub with server := some { server with requests := [] } } :=
    .of_server there rfl rfl
  exact (agrees.calm cleared).serveAll server.requests

/-- A module that comes gets the filter in force first. -/
theorem subscribe (agrees : Agrees ⟨hub, history, members⟩) (moduleName : String) :
    Agrees ⟨(hub.subscribe moduleName).value.1, history,
      membersAfter ⟨hub, history, members⟩ (.subscribe moduleName)⟩ := by
  obtain ⟨valid, seats, ⟨server, there, last, attends⟩, follows⟩ := agrees
  replace there : hub.server = some server := there
  unfold membersAfter Hub.subscribe
  dsimp only
  rw [there]
  cases made : Distributor.new moduleName with
  | error error => exact ⟨valid, seats, ⟨server, there, last, attends⟩, follows⟩
  | ok distributor =>
      cases Distributor.new_eq made
      refine ⟨valid, ?_, ⟨_, rfl, last, attends.concat rfl rfl⟩, fun {seat sitting} found => ?_⟩
      · change (members ++ [_]).length = (hub.seats ++ [_]).length
        rw [List.length_append, List.length_append, seats]
        rfl
      · rcases Hub.seated_of_append rfl found with old | ⟨rfl, rfl⟩
        · obtain ⟨member, here, going⟩ := follows old
          refine ⟨member, ?_, going⟩
          exact (List.getElem?_append_left (List.getElem?_eq_some_iff.mp here).1).trans here
        · refine ⟨⟨history.length, [], []⟩, ?_, .of_new last rfl rfl⟩
          change (members ++ [_])[hub.seats.length]? = _
          rw [← show members.length = hub.seats.length from seats, List.getElem?_concat_length]

/-- A module that looks for news takes in everything that waits for it. -/
theorem process (agrees : Agrees ⟨hub, history, members⟩) (seat : Nat) :
    Agrees ⟨(hub.process seat).value.1, history,
      membersAfter ⟨hub, history, members⟩ (.process seat)⟩ := by
  cases found : hub.seated? seat with
  | none =>
      have idle : hub.process seat = pure (hub, .error (Hub.emptySeat seat)) :=
        Hub.onSeat_empty found _
      have nothing : hub.adopts seat = [] := by
        unfold Hub.adopts
        rw [found]
      have same : membersAfter ⟨hub, history, members⟩ (.process seat) = members := by
        simp only [membersAfter, idle, nothing, Trail.marks_pure, List.filterMap_nil,
          List.append_nil]
        exact List.modify_id seat members
      rw [same, idle]
      exact agrees
  | some distributor =>
      obtain ⟨member, here, going⟩ := agrees.follows found
      obtain ⟨queue, inbox, rest⟩ := going.queued
      have fits := agrees.queued_valid rest
      obtain ⟨valid, seats, ⟨server, there, last, attends⟩, follows⟩ := agrees
      obtain ⟨value, told, adopts⟩ := Hub.process_open there found inbox fits
      simp only [membersAfter, told, adopts, value]
      refine ⟨valid, ?_, ⟨_, congrArg (Option.map _) there, last, ?_⟩,
        fun {other sitting} sits => ?_⟩
      · rw [List.length_modify]
        exact seats.trans List.length_set.symm
      · refine attends.congr rfl List.length_set fun other sits => ?_
        rw [Hub.seated?_store found] at sits
        split at sits
        · rename_i same
          rw [← same, found]
          rfl
        · exact sits
      · rw [Hub.seated?_store found] at sits
        split at sits
        · rename_i same
          subst same
          cases sits
          refine ⟨_, ?_, going.takeIn inbox rfl rfl⟩
          rw [List.getElem?_modify_eq, here]
          rfl
        · rename_i elsewhere
          obtain ⟨another, place, follow⟩ := follows sits
          exact ⟨another, (List.getElem?_modify_ne _ members elsewhere).trans place, follow⟩

theorem step {observed : Observed} (agrees : observed.Agrees) (operation : Hub.Operation) :
    (observed.step operation).Agrees := by
  have keeps {hub : Hub} {members : List Member} (same : Agrees ⟨hub, observed.history, members⟩) :
      Agrees ⟨hub, observed.history ++ [], members⟩ := by
    rw [List.append_nil]
    exact same
  cases operation with
  | subscribe moduleName => exact keeps (agrees.subscribe moduleName)
  | broadcast filter => exact agrees.broadcast filter
  | request seat filter => exact keeps (agrees.calm (observed.hub.request_calm seat filter))
  | serve => exact agrees.serve
  | process seat => exact keeps (agrees.process seat)
  | emit seat level mask message =>
      exact keeps (agrees.calm (observed.hub.emit_calm seat level mask message))
  | takeRecords => exact keeps (agrees.calm observed.hub.takeRecords_calm)
  | leave seat => exact keeps (agrees.calm (observed.hub.leave_calm seat))
  | setClock now =>
      have calm : observed.hub.Calm { observed.hub with clock := now } :=
        ⟨fun there => ⟨_, there, rfl, rfl⟩, rfl, fun found => ⟨_, found, rfl, rfl⟩⟩
      exact keeps (agrees.calm calm)

theorem run {observed : Observed} (agrees : observed.Agrees) (operations : List Hub.Operation) :
    (observed.run operations).Agrees := by
  induction operations generalizing observed with
  | nil => exact agrees
  | cons operation rest ih => exact ih (agrees.step operation)

/-- After it has looked for news a module works under the filter in force. -/
theorem process_catches_up {observed : Observed} (agrees : observed.Agrees) {seat : Nat}
    {distributor : Distributor} (found : observed.hub.seated? seat = some distributor) :
    ∃ after, (observed.hub.process seat).value.1.seated? seat = some after ∧
      after.inbox = some [] ∧ after.filter = observed.history.getLast? := by
  obtain ⟨server, there, _⟩ := agrees.server
  obtain ⟨member, _, going⟩ := agrees.follows found
  obtain ⟨queue, inbox, rest⟩ := going.queued
  obtain ⟨value, _⟩ := Hub.process_open there found inbox (agrees.queued_valid rest)
  rw [value]
  refine ⟨_, (Hub.seated?_store found _ _ seat).trans (if_pos rfl), rfl, ?_⟩
  exact (going.takeIn inbox rfl rfl).caught_up rfl

end Agrees

theorem start_agrees {filter : Filter} {clock : Timestamp} {hub : Hub}
    (made : Hub.new filter clock = .ok hub) : Agrees ⟨hub, [filter], []⟩ := by
  obtain ⟨valid, rfl⟩ := Hub.new_eq made
  refine ⟨?_, rfl, ⟨_, rfl, rfl, List.nodup_nil, ?_, ?_⟩, ?_⟩
  · intro other member
    cases List.mem_singleton.mp member
    exact valid
  · exact fun _ member => absurd member List.not_mem_nil
  · exact fun _ sits => by cases sits
  · exact fun sits => by cases sits

/-- Whatever the server and its modules do, every module that is there has taken in the history of
the server's filters from the one in force when it came, and the rest waits for it in order.  It has
announced exactly what it took in.  With nothing left to wait for, which is how it stands whenever
it has looked for news, it works under the server's filter. -/
theorem modules_agree_on_the_history {filter : Filter} {clock : Timestamp} {hub : Hub}
    (made : Hub.new filter clock = .ok hub) (operations : List Hub.Operation) :
    let observed := run ⟨hub, [filter], []⟩ operations
    observed.hub = (hub.run operations).value ∧
      ∃ server, observed.hub.server = some server ∧
        observed.history.getLast? = some server.filter ∧
        (∀ seat distributor, observed.hub.seated? seat = some distributor →
          ∃ member, observed.members[seat]? = some member ∧
            member.Follows observed.history distributor ∧
            (distributor.inbox = some [] → distributor.filter = some server.filter) ∧
            ∃ after, (observed.hub.process seat).value.1.seated? seat = some after ∧
              after.inbox = some [] ∧ after.filter = some server.filter) ∧
        ∀ (first second : Nat) (early late : Member), (observed.hub.seated? first).isSome →
          (observed.hub.seated? second).isSome → observed.members[first]? = some early →
          observed.members[second]? = some late → early.joined ≤ late.joined →
            early.adopted.drop (late.joined - early.joined) <+: late.adopted ∨
              late.adopted <+: early.adopted.drop (late.joined - early.joined) := by
  intro observed
  have agrees : observed.Agrees := (start_agrees made).run operations
  obtain ⟨server, there, last, _⟩ := agrees.server
  refine ⟨run_hub _ operations, server, there, last, ?_, ?_⟩
  · intro seat distributor found
    obtain ⟨member, here, going⟩ := agrees.follows found
    refine ⟨member, here, going, fun empty => (going.caught_up empty).trans last, ?_⟩
    obtain ⟨after, sits, empty, current⟩ := agrees.process_catches_up found
    exact ⟨after, sits, empty, current.trans last⟩
  · intro first second early late sits alsoSits here there' earlier
    obtain ⟨distributor, found⟩ := Option.isSome_iff_exists.mp sits
    obtain ⟨other, alsoFound⟩ := Option.isSome_iff_exists.mp alsoSits
    obtain ⟨member, place, going⟩ := agrees.follows found
    obtain ⟨another, spot, follow⟩ := agrees.follows alsoFound
    cases here.symm.trans place
    cases there'.symm.trans spot
    exact going.comparable follow earlier

def talkative : Filter := ⟨.debug, .user, true, []⟩

def withoutPump : Filter := ⟨.info, .user, false, ["pump"]⟩

/-- One module comes after a filter was sent, another filter is asked for, and one is refused. -/
def lateModule : List Hub.Operation :=
  [.subscribe "pump", .broadcast talkative, .process 0, .subscribe "valve",
    .broadcast ⟨.debug, .user, true, List.replicate 21 "pump"⟩, .request 0 withoutPump, .serve,
    .process 1]

theorem late_module_is_ahead :
    let hub : Hub := ⟨some ⟨.standard, [], [], []⟩, [], ⟨0, 0⟩⟩
    let observed := run ⟨hub, [.standard], []⟩ lateModule
    Hub.new .standard ⟨0, 0⟩ = .ok hub ∧
      observed.members.map Member.adopted =
        [[.standard, talkative], [talkative, withoutPump]] ∧
      ∃ server pump valve, observed.hub.server = some server ∧
        observed.hub.seated? 0 = some pump ∧ pump.inbox = some [withoutPump] ∧
        observed.hub.seated? 1 = some valve ∧ valve.filter = some server.filter := by
  intro hub observed
  have made : Hub.new .standard ⟨0, 0⟩ = .ok hub := rfl
  have waits : (observed.hub.seated? 0).map Distributor.inbox = some (some [withoutPump]) := by
    decide +kernel
  have done : (observed.hub.seated? 1).map Distributor.inbox = some (some []) := by
    decide +kernel
  obtain ⟨pump, sits, inbox⟩ := Option.map_eq_some_iff.mp waits
  obtain ⟨valve, found, empty⟩ := Option.map_eq_some_iff.mp done
  obtain ⟨_, server, there, _, follows, _⟩ := modules_agree_on_the_history made lateModule
  obtain ⟨_, _, _, current, _⟩ := follows 1 valve found
  exact ⟨made, by decide +kernel, server, pump, valve, there, sits, inbox, found, current empty⟩

end Observed

end DatasetSync.Log
