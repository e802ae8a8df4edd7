import DatasetSync.Log.Hub
import DatasetSync.Proofs.Log.Distributor

/-!
# What happens in a log hub

The operations of a server and its modules as one alphabet, and what each of them does to the seats
and to the filter in force.  Only a subscription takes a seat, only a filter that is put in force
reaches the inboxes, and only a module that looks for news takes filters out of its own.
-/

namespace DatasetSync.Log

namespace Hub

/-- What the server and its modules can do, as long as the server stays. -/
inductive Operation where
  | subscribe (moduleName : String)
  | broadcast (filter : Filter)
  | request (seat : Nat) (filter : Filter)
  | serve
  | process (seat : Nat)
  | emit (seat : Nat) (level : Level) (mask : Mask) (message : String)
  | takeRecords
  | leave (seat : Nat)
  | setClock (now : Timestamp)

def step (hub : Hub) : Operation → Trail Effect Hub
  | .subscribe moduleName => do
      let (after, _) ← hub.subscribe moduleName
      return after
  | .broadcast filter => do
      let (after, _) ← hub.broadcast filter
      return after
  | .request seat filter => return (hub.request seat filter).1
  | .serve => do
      let (after, _) ← hub.serve
      return after
  | .process seat => do
      let (after, _) ← hub.process seat
      return after
  | .emit seat level mask message => do
      let (after, _) ← hub.emit seat level mask message
      return after
  | .takeRecords => return hub.takeRecords.2
  | .leave seat => return hub.leave seat
  | .setClock now => return { hub with clock := now }

def run (hub : Hub) : List Operation → Trail Effect Hub
  | [] => return hub
  | operation :: rest => do
      let after ← hub.step operation
      after.run rest

theorem new_eq {filter : Filter} {clock : Timestamp} {hub : Hub}
    (made : new filter clock = .ok hub) :
    filter.Valid ∧ hub = ⟨some ⟨filter, [], [], []⟩, [], clock⟩ := by
  unfold new at made
  cases valid : filter.validate with
  | error error =>
      rw [valid] at made
      cases made
  | ok done =>
      rw [valid] at made
      cases made
      exact ⟨Filter.validate_eq_ok.mp valid, rfl⟩

/-- As long as the server stays, its queue is read. -/
theorem queue_eq {hub : Hub} {server : Server} (there : hub.server = some server) :
    hub.queue = ⟨server.records, true⟩ := by
  unfold queue
  rw [there]

/-! ## Seats -/

theorem seat_lt {hub : Hub} {seat : Nat} {distributor : Distributor}
    (found : hub.seated? seat = some distributor) : seat < hub.seats.length := by
  unfold seated? at found
  by_contra outside
  rw [List.getElem?_eq_none (Nat.le_of_not_lt outside)] at found
  cases found

/-- What a module does ends up in its seat and in the queue. -/
theorem onSeat_seated {α : Type} {hub : Hub} {seat : Nat} {distributor : Distributor}
    (found : hub.seated? seat = some distributor)
    (act : Distributor → Queue → Trail Effect (Distributor × Queue × Except Error α)) :
    (hub.onSeat seat act).value =
        (hub.store seat (act distributor hub.queue).value.1 (act distributor hub.queue).value.2.1,
          (act distributor hub.queue).value.2.2) ∧
      (hub.onSeat seat act).marks = (act distributor hub.queue).marks := by
  unfold onSeat
  rw [found]
  exact ⟨rfl, List.append_nil _⟩

theorem onSeat_empty {α : Type} {hub : Hub} {seat : Nat} (empty : hub.seated? seat = none)
    (act : Distributor → Queue → Trail Effect (Distributor × Queue × Except Error α)) :
    hub.onSeat seat act = pure (hub, .error (emptySeat seat)) := by
  unfold onSeat
  rw [empty]

theorem seated?_store {hub : Hub} {seat : Nat} {before : Distributor}
    (found : hub.seated? seat = some before) (after : Distributor) (queue : Queue) (other : Nat) :
    (hub.store seat after queue).seated? other =
      if seat = other then some after else hub.seated? other := by
  unfold store seated?
  rw [List.getElem?_set]
  split
  · rw [if_pos (seat_lt found)]
    rfl
  · rfl

theorem seated?_leave (hub : Hub) (seat other : Nat) :
    (hub.leave seat).seated? other = if seat = other then none else hub.seated? other := by
  unfold leave seated?
  rw [List.getElem?_set]
  split
  · split <;> rfl
  · rfl

/-- Whoever sits in a hub with one seat more sat there before or is the one who came. -/
theorem seated_of_append {hub after : Hub} {distributor last : Distributor} {seat : Nat}
    (seats : after.seats = hub.seats ++ [some distributor])
    (found : after.seated? seat = some last) :
    hub.seated? seat = some last ∨ seat = hub.seats.length ∧ last = distributor := by
  have inside := seat_lt found
  unfold seated? at found ⊢
  rw [seats, List.length_append, List.length_singleton] at inside
  rw [seats] at found
  by_cases old : seat < hub.seats.length
  · rw [List.getElem?_append_left old] at found
    exact .inl found
  · obtain rfl : seat = hub.seats.length := by omega
    rw [List.getElem?_concat_length] at found
    cases found
    exact .inr ⟨rfl, rfl⟩

/-- A filter is put into the inbox of every subscriber once, if no seat has two of them. -/
theorem getElem?_deliver {subscribers : List Subscriber}
    (apart : (subscribers.map Subscriber.seat).Nodup) (filter : Filter)
    (seats : List (Option Distributor)) (seat : Nat) :
    (deliver filter subscribers seats)[seat]? =
      if seat ∈ subscribers.map Subscriber.seat then
        seats[seat]?.map (Option.map (·.deliver filter))
      else seats[seat]? := by
  induction subscribers generalizing seats with
  | nil => rfl
  | cons subscriber rest ih =>
      obtain ⟨fresh, others⟩ := List.nodup_cons.mp apart
      change (deliver filter rest (seats.modify subscriber.seat _))[seat]? = _
      rw [ih others, List.map_cons, List.getElem?_modify]
      by_cases here : subscriber.seat = seat
      · -- None of the others sits here, so this inbox is touched only once.
        subst here
        rw [if_neg fresh, if_pos List.mem_cons_self]
        simp
      · have same : seat ∈ subscriber.seat :: rest.map Subscriber.seat ↔
            seat ∈ rest.map Subscriber.seat := by
          simp [Ne.symm here]
        simp [here, same]

theorem length_deliver (filter : Filter) (subscribers : List Subscriber)
    (seats : List (Option Distributor)) :
    (deliver filter subscribers seats).length = seats.length := by
  induction subscribers generalizing seats with
  | nil => rfl
  | cons subscriber rest ih =>
      refine (ih _).trans ?_
      exact List.length_modify ..

end Hub

/-! ## Subscribers -/

/-- The server knows every module that is there, and knows it once. -/
structure Server.Attends (server : Server) (hub : Hub) : Prop where
  apart : (server.subscribers.map Subscriber.seat).Nodup
  inside : ∀ seat ∈ server.subscribers.map Subscriber.seat, seat < hub.seats.length
  known : ∀ seat, (hub.seated? seat).isSome = true → seat ∈ server.subscribers.map Subscriber.seat

theorem Server.Attends.congr {server later : Server} {hub after : Hub}
    (attends : server.Attends hub) (subscribers : later.subscribers = server.subscribers)
    (seats : after.seats.length = hub.seats.length)
    (seated : ∀ seat, (after.seated? seat).isSome = true → (hub.seated? seat).isSome = true) :
    later.Attends after := by
  refine ⟨?_, ?_, fun seat sits => ?_⟩
  · rw [subscribers]
    exact attends.apart
  · rw [subscribers, seats]
    exact attends.inside
  · rw [subscribers]
    exact attends.known seat (seated seat sits)

/-- A module that takes a new seat is known from then on. -/
theorem Server.Attends.concat {server later : Server} {hub after : Hub} {moduleName : String}
    {distributor : Distributor} (attends : server.Attends hub)
    (subscribers : later.subscribers = server.subscribers ++ [⟨hub.seats.length, moduleName⟩])
    (seats : after.seats = hub.seats ++ [some distributor]) : later.Attends after := by
  have known : later.subscribers.map Subscriber.seat =
      server.subscribers.map Subscriber.seat ++ [hub.seats.length] := by
    rw [subscribers, List.map_append]
    rfl
  have length : after.seats.length = hub.seats.length + 1 := by
    rw [seats, List.length_append, List.length_singleton]
  refine ⟨?_, fun seat member => ?_, fun seat sits => ?_⟩
  · rw [known]
    refine List.nodup_append.mpr ⟨attends.apart, List.pairwise_singleton _ _, ?_⟩
    rintro seat old other new rfl
    have below := attends.inside seat old
    rw [List.mem_singleton.mp new] at below
    exact Nat.lt_irrefl _ below
  · rw [known] at member
    rw [length]
    rcases List.mem_append.mp member with old | new
    · exact Nat.lt_succ_of_lt (attends.inside seat old)
    · rw [List.mem_singleton.mp new]
      exact Nat.lt_succ_self _
  · obtain ⟨last, found⟩ := Option.isSome_iff_exists.mp sits
    rw [known]
    rcases Hub.seated_of_append seats found with old | ⟨rfl, _⟩
    · have member := attends.known seat (Option.isSome_iff_exists.mpr ⟨last, old⟩)
      exact List.mem_append.mpr (.inl member)
    · exact List.mem_append.mpr (.inr (List.mem_singleton.mpr rfl))

namespace Hub

variable {hub : Hub} {server : Server}

def present (hub : Hub) (server : Server) : List Subscriber :=
  server.subscribers.filter hub.isSeated

theorem mem_present (attends : server.Attends hub) (seat : Nat) :
    seat ∈ (hub.present server).map Subscriber.seat ↔ (hub.seated? seat).isSome = true := by
  constructor
  · intro member
    obtain ⟨subscriber, inside, rfl⟩ := List.mem_map.mp member
    exact (List.mem_filter.mp inside).2
  · intro seated
    obtain ⟨subscriber, inside, rfl⟩ := List.mem_map.mp (attends.known seat seated)
    exact List.mem_map.mpr ⟨subscriber, List.mem_filter.mpr ⟨inside, seated⟩, rfl⟩

/-- A filter that is put in force reaches the inbox of every module. -/
theorem seated?_install (attends : server.Attends hub) (filter : Filter) (seat : Nat) :
    (hub.install server filter).value.seated? seat =
      (hub.seated? seat).map (·.deliver filter) := by
  have apart : ((hub.present server).map Subscriber.seat).Nodup :=
    attends.apart.sublist (List.filter_sublist.map _)
  change (deliver filter (hub.present server) hub.seats)[seat]?.join = _
  rw [getElem?_deliver apart, seated?]
  -- Whoever sits somewhere is present, so nobody is passed over.
  by_cases seated : (hub.seated? seat).isSome = true
  · rw [if_pos ((mem_present attends seat).mpr seated)]
    cases hub.seats[seat]? <;> rfl
  · rw [if_neg (fun member => seated ((mem_present attends seat).mp member))]
    unfold seated? at seated
    rw [Option.not_isSome_iff_eq_none.mp seated]
    rfl

theorem install_attends (attends : server.Attends hub) (filter : Filter) :
    ({ server with filter, subscribers := hub.present server } : Server).Attends
      (hub.install server filter).value := by
  refine ⟨attends.apart.sublist (List.filter_sublist.map _), fun seat member => ?_,
    fun seat seated => ?_⟩
  · obtain ⟨distributor, found⟩ :=
      Option.isSome_iff_exists.mp ((mem_present attends seat).mp member)
    change seat < (deliver filter (hub.present server) hub.seats).length
    rw [length_deliver]
    exact seat_lt found
  · rw [seated?_install attends, Option.isSome_map] at seated
    exact (mem_present attends seat).mpr seated

end Hub

end DatasetSync.Log
