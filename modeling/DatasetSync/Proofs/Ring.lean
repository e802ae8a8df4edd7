import DatasetSync.Ring
import Mathlib.Data.List.Rotate
import Mathlib.Data.Nat.ModEq

/-!
# Rings are bounded queues

The waiting records of a ring are the slots read from `tail` on, around the end of the circle where
needed.  Through this view every operation is one equation on lists, so a ring of `capacity` slots
cannot be told from a list of at most `capacity - 1` records; what stays behind in dead slots is
never seen.
-/

namespace DatasetSync.Ring

variable {α : Type}

/-- The waiting records, oldest first: the circle of slots read from `tail` on. -/
def toList (ring : Ring α) : List α :=
  (ring.slots.toList.rotate ring.tail).take ring.pending

/-- Both positions are slots of a circle that has room for a record. -/
structure WellFormed (ring : Ring α) : Prop where
  room : 2 ≤ ring.capacity
  head_lt : ring.head < ring.capacity
  tail_lt : ring.tail < ring.capacity

namespace WellFormed

variable {ring : Ring α}

theorem next_lt (wellFormed : ring.WellFormed) (position : Nat) :
    ring.next position < ring.capacity :=
  Nat.mod_lt _ (Nat.lt_of_lt_of_le Nat.zero_lt_two wellFormed.room)

theorem pending_lt (wellFormed : ring.WellFormed) : ring.pending < ring.capacity := by
  obtain ⟨room, head_lt, tail_lt⟩ := wellFormed
  unfold pending
  split <;> omega

/-- The position of the producer lies as far behind the consumer's as there are records. -/
theorem head_eq (wellFormed : ring.WellFormed) :
    (ring.pending + ring.tail) % ring.capacity = ring.head := by
  obtain ⟨room, head_lt, tail_lt⟩ := wellFormed
  unfold pending
  split
  · rw [Nat.sub_add_cancel ‹_›, Nat.mod_eq_of_lt head_lt]
  · have sum : ring.capacity - (ring.tail - ring.head) + ring.tail =
        ring.head + ring.capacity := by omega
    rw [sum, Nat.add_mod_right, Nat.mod_eq_of_lt head_lt]

/-- Records at different distances from the consumer lie in different slots. -/
theorem slot_injective {first second : Nat}
    (first_lt : first < ring.capacity) (second_lt : second < ring.capacity)
    (same : (first + ring.tail) % ring.capacity = (second + ring.tail) % ring.capacity) :
    first = second := by
  have congruent : Nat.ModEq ring.capacity first second :=
    Nat.ModEq.add_right_cancel' ring.tail same
  exact Nat.ModEq.eq_of_lt_of_lt congruent first_lt second_lt

theorem getElem?_toList (wellFormed : ring.WellFormed) (place : Nat) :
    ring.toList[place]? =
      if place < ring.pending then ring.slots[(place + ring.tail) % ring.capacity]? else none := by
  unfold toList
  rw [List.getElem?_take]
  split
  · have place_lt : place < ring.slots.toList.length := by
      have := wellFormed.pending_lt
      rw [Array.length_toList]
      exact Nat.lt_trans ‹_› this
    rw [List.getElem?_rotate place_lt]
    simp [capacity]
  · rfl

theorem length_toList (wellFormed : ring.WellFormed) : ring.toList.length = ring.pending := by
  unfold toList
  rw [List.length_take, List.length_rotate, Array.length_toList]
  exact Nat.min_eq_left (Nat.le_of_lt wellFormed.pending_lt)

theorem isEmpty_iff (wellFormed : ring.WellFormed) :
    ring.isEmpty = true ↔ ring.pending = 0 := by
  obtain ⟨room, head_lt, tail_lt⟩ := wellFormed
  unfold isEmpty pending
  rw [beq_iff_eq]
  split <;> omega

theorem isFull_iff (wellFormed : ring.WellFormed) :
    ring.isFull = true ↔ ring.pending = ring.usable := by
  obtain ⟨room, head_lt, tail_lt⟩ := wellFormed
  unfold isFull pending next usable
  rw [beq_iff_eq]
  rcases Nat.lt_or_eq_of_le (Nat.succ_le_of_lt head_lt) with inside | last
  · rw [Nat.mod_eq_of_lt inside]
    split <;> omega
  · rw [show ring.head + 1 = ring.capacity from last, Nat.mod_self]
    split <;> omega

/-- The number of waiting records is the distance between the positions. -/
theorem pending_eq (wellFormed : ring.WellFormed) {distance : Nat}
    (distance_lt : distance < ring.capacity)
    (reaches : (distance + ring.tail) % ring.capacity = ring.head) :
    ring.pending = distance :=
  slot_injective wellFormed.pending_lt distance_lt
    (wellFormed.head_eq.trans reaches.symm)

end WellFormed

/-! ## One equation for each operation -/

def pushed (ring : Ring α) (record : α) : Ring α :=
  { ring with
    slots := ring.slots.setIfInBounds ring.head record
    head := ring.next ring.head }

def popped (ring : Ring α) (destination : α) : Ring α :=
  { ring with
    slots := ring.slots.setIfInBounds ring.tail destination
    tail := ring.next ring.tail }

@[simp] theorem capacity_pushed (ring : Ring α) (record : α) :
    (ring.pushed record).capacity = ring.capacity := by
  simp [pushed, capacity]

@[simp] theorem capacity_popped (ring : Ring α) (destination : α) :
    (ring.popped destination).capacity = ring.capacity := by
  simp [popped, capacity]

namespace WellFormed

variable {ring : Ring α}

theorem pushed (wellFormed : ring.WellFormed) (record : α) :
    (ring.pushed record).WellFormed := by
  refine ⟨?_, ?_, ?_⟩
  · rw [capacity_pushed]
    exact wellFormed.room
  · rw [capacity_pushed]
    exact wellFormed.next_lt ring.head
  · rw [capacity_pushed]
    exact wellFormed.tail_lt

theorem popped (wellFormed : ring.WellFormed) (destination : α) :
    (ring.popped destination).WellFormed := by
  refine ⟨?_, ?_, ?_⟩
  · rw [capacity_popped]
    exact wellFormed.room
  · rw [capacity_popped]
    exact wellFormed.head_lt
  · rw [capacity_popped]
    exact wellFormed.next_lt ring.tail

theorem pending_pushed (wellFormed : ring.WellFormed) (notFull : ring.pending ≠ ring.usable)
    (record : α) : (ring.pushed record).pending = ring.pending + 1 := by
  apply (wellFormed.pushed record).pending_eq
  · have := wellFormed.pending_lt
    rw [capacity_pushed]
    unfold usable at notFull
    omega
  · rw [capacity_pushed]
    change (ring.pending + 1 + ring.tail) % ring.capacity = (ring.head + 1) % ring.capacity
    rw [← wellFormed.head_eq, Nat.mod_add_mod, Nat.add_right_comm]

theorem pending_popped (wellFormed : ring.WellFormed) {rest : Nat}
    (waiting : ring.pending = rest + 1) (destination : α) :
    (ring.popped destination).pending = rest := by
  apply (wellFormed.popped destination).pending_eq
  · have := wellFormed.pending_lt
    rw [capacity_popped]
    omega
  · rw [capacity_popped]
    change (rest + (ring.tail + 1) % ring.capacity) % ring.capacity = ring.head
    rw [Nat.add_mod_mod, ← wellFormed.head_eq, waiting, Nat.add_assoc, Nat.add_comm 1]

/-- Putting a record in adds it at the end; the slot it goes to holds nothing that waits. -/
theorem toList_pushed (wellFormed : ring.WellFormed) (notFull : ring.pending ≠ ring.usable)
    (record : α) : (ring.pushed record).toList = ring.toList ++ [record] := by
  have pending_lt := wellFormed.pending_lt
  apply List.ext_getElem?
  intro place
  rw [(wellFormed.pushed record).getElem?_toList, wellFormed.pending_pushed notFull,
    capacity_pushed]
  change (if _ then (ring.slots.setIfInBounds ring.head record)[(place + ring.tail) % _]?
    else _) = _
  rw [Array.getElem?_setIfInBounds]
  rcases Nat.lt_trichotomy place ring.pending with old | last | beyond
  · have apart : ring.head ≠ (place + ring.tail) % ring.capacity := by
      intro same
      have := slot_injective pending_lt (Nat.lt_trans old pending_lt)
        (wellFormed.head_eq.trans same)
      omega
    rw [if_pos (Nat.lt_succ_of_lt old), if_neg apart,
      List.getElem?_append_left (by rw [wellFormed.length_toList]; exact old),
      wellFormed.getElem?_toList, if_pos old]
  · subst last
    rw [if_pos (Nat.lt_succ_self _), if_pos wellFormed.head_eq.symm,
      if_pos (show ring.head < ring.slots.size from wellFormed.head_lt),
      List.getElem?_append_right (by rw [wellFormed.length_toList]), wellFormed.length_toList,
      Nat.sub_self]
    rfl
  · rw [if_neg (by omega), List.getElem?_eq_none]
    rw [List.length_append, wellFormed.length_toList, List.length_singleton]
    exact beyond

/-- What waits is the oldest record and what waits once it is gone, whatever stays in its slot. -/
theorem toList_popped (wellFormed : ring.WellFormed) {rest : Nat}
    (waiting : ring.pending = rest + 1) (destination : α) :
    ring.toList.tail = (ring.popped destination).toList := by
  have pending_lt := wellFormed.pending_lt
  apply List.ext_getElem?
  intro place
  rw [(wellFormed.popped destination).getElem?_toList, wellFormed.pending_popped waiting,
    capacity_popped, List.getElem?_tail, wellFormed.getElem?_toList, waiting]
  change _ = if _ then (ring.slots.setIfInBounds ring.tail destination)[
    (place + (ring.tail + 1) % ring.capacity) % ring.capacity]? else _
  have slot : (place + (ring.tail + 1) % ring.capacity) % ring.capacity =
      (place + 1 + ring.tail) % ring.capacity := by
    rw [Nat.add_mod_mod, Nat.add_assoc, Nat.add_comm 1]
  rw [slot, Array.getElem?_setIfInBounds]
  by_cases inside : place < rest
  · have apart : ring.tail ≠ (place + 1 + ring.tail) % ring.capacity := by
      intro same
      have first : (0 + ring.tail) % ring.capacity = ring.tail := by
        rw [Nat.zero_add, Nat.mod_eq_of_lt wellFormed.tail_lt]
      have := slot_injective (by omega) (by omega) (first.trans same)
      omega
    rw [if_pos inside, if_pos (Nat.succ_lt_succ inside), if_neg apart]
  · rw [if_neg inside, if_neg (fun less => inside (Nat.lt_of_succ_lt_succ less))]

/-- The oldest record is the first of those that wait. -/
theorem peek_eq (wellFormed : ring.WellFormed) : ring.peek = ring.toList.head? := by
  rw [List.head?_eq_getElem?, wellFormed.getElem?_toList, Nat.zero_add,
    Nat.mod_eq_of_lt wellFormed.tail_lt]
  unfold peek
  by_cases nothing : ring.pending = 0
  · rw [if_pos (wellFormed.isEmpty_iff.mpr nothing), if_neg (by omega)]
  · rw [if_neg (fun empty => nothing (wellFormed.isEmpty_iff.mp empty)),
      if_pos (Nat.pos_of_ne_zero nothing)]

/-- A push is accepted as long as there is room, and counted otherwise. -/
theorem push_eq (wellFormed : ring.WellFormed) (record : α) :
    ring.push record =
      if ring.toList.length < ring.usable then (ring.pushed record, .ok ())
      else ({ ring with overflows := ring.overflows + 1 },
        .error (.overflow (ring.overflows + 1))) := by
  have pending_lt := wellFormed.pending_lt
  have room := wellFormed.room
  rw [wellFormed.length_toList]
  unfold push
  by_cases full : ring.isFull = true
  · have atEnd := wellFormed.isFull_iff.mp full
    rw [if_pos full, if_neg (by omega)]
  · have short : ring.pending ≠ ring.usable := fun same => full (wellFormed.isFull_iff.mpr same)
    rw [if_neg full, if_pos (by unfold usable at *; omega)]
    rfl

/-- Taking a record out answers the oldest one, and fails exactly when nothing waits. -/
theorem popInto_eq (wellFormed : ring.WellFormed) (destination : α) :
    ring.popInto destination =
      match ring.toList with
      | [] => (ring, destination, .error .empty)
      | record :: _ => (ring.popped destination, record, .ok ()) := by
  unfold popInto
  rw [wellFormed.peek_eq]
  cases ring.toList with
  | nil => rfl
  | cons record rest => rfl

theorem toList_popped_cons (wellFormed : ring.WellFormed) {record : α} {rest : List α}
    (waiting : ring.toList = record :: rest) (destination : α) :
    (ring.popped destination).toList = rest := by
  have length := wellFormed.length_toList
  rw [waiting, List.length_cons] at length
  rw [← wellFormed.toList_popped length.symm destination, waiting]
  rfl

theorem clear (wellFormed : ring.WellFormed) : ring.clear.WellFormed :=
  ⟨wellFormed.room, wellFormed.head_lt, wellFormed.head_lt⟩

end WellFormed

theorem toList_clear (ring : Ring α) : ring.clear.toList = [] := by
  have nothing : ring.clear.pending = 0 := by
    simp [clear, pending]
  unfold toList
  rw [nothing, List.take_zero]

/-- An empty ring is made whenever a record has room in it and its slots can be addressed. -/
theorem new_eq [Inhabited α] (slotSize : Nat) {capacity : Nat} (room : 2 ≤ capacity) :
    new slotSize capacity =
      if addressLimit ≤ capacity * slotSize then .error .outOfRange
      else .ok (⟨Array.replicate capacity (default : α), 0, 0, 0⟩ : Ring α) := by
  unfold new
  rw [if_neg (Nat.not_lt_of_le room)]

theorem exists_new_iff [Inhabited α] {slotSize capacity : Nat} (room : 2 ≤ capacity) :
    (∃ ring : Ring α, new slotSize capacity = .ok ring) ↔ capacity * slotSize < addressLimit := by
  rw [new_eq slotSize room]
  by_cases fits : addressLimit ≤ capacity * slotSize
  · simp [fits]
  · simp [fits, Nat.lt_of_not_le fits]

theorem wellFormed_of_new [Inhabited α] {slotSize capacity : Nat} {ring : Ring α}
    (made : new slotSize capacity = .ok ring) :
    ring.WellFormed ∧ ring.capacity = capacity ∧ ring.toList = [] ∧ ring.overflows = 0 := by
  unfold new at made
  split at made
  · cases made
  · split at made
    · cases made
    · cases made
      have size : (Array.replicate capacity (default : α)).size = capacity := Array.size_replicate
      refine ⟨⟨?_, ?_, ?_⟩, size, rfl, rfl⟩
      all_goals
        simp only [Ring.capacity, size]
        omega

end DatasetSync.Ring

namespace DatasetSync

/-- A list of records with an end to its patience: what waits, and what was turned away. -/
structure Queue (α : Type) where
  records : List α
  refused : List α

namespace Ring

inductive Request (α : Type) where
  | push (record : α)
  | pop
  | popInto (destination : α)
  | peek
  | clear
  | clone

/-- What a ring answers; an exchange also leaves something in the destination. -/
inductive Answer (α : Type) where
  | pushed (outcome : Except Error Unit)
  | popped (outcome : Except Error α)
  | exchanged (destination : α) (outcome : Except Error Unit)
  | peeked (record : Option α)
  | cleared
  | cloned

variable {α : Type}

def serve [Inhabited α] (ring : Ring α) : Request α → Ring α × Answer α
  | .push record => ((ring.push record).1, .pushed (ring.push record).2)
  | .pop => (ring.pop.1, .popped ring.pop.2)
  | .popInto destination =>
      let (ring, destination, outcome) := ring.popInto destination
      (ring, .exchanged destination outcome)
  | .peek => (ring, .peeked ring.peek)
  | .clear => (ring.clear, .cleared)
  | .clone => (ring, .cloned)

end Ring

namespace Queue

variable {α : Type}

def serve (room : Nat) (queue : Queue α) : Ring.Request α → Queue α × Ring.Answer α
  | .push record =>
      if queue.records.length < room then
        ({ queue with records := queue.records ++ [record] }, .pushed (.ok ()))
      else
        ({ queue with refused := queue.refused ++ [record] },
          .pushed (.error (.overflow (queue.refused.length + 1))))
  | .pop =>
      match queue.records with
      | [] => (queue, .popped (.error .empty))
      | record :: rest => ({ queue with records := rest }, .popped (.ok record))
  | .popInto destination =>
      match queue.records with
      | [] => (queue, .exchanged destination (.error .empty))
      | record :: rest => ({ queue with records := rest }, .exchanged record (.ok ()))
  | .peek => (queue, .peeked queue.records.head?)
  | .clear => ({ queue with records := [] }, .cleared)
  | .clone => (queue, .cloned)

end Queue

namespace Ring

variable {α σ τ : Type}

/-- Hand a request to the member of a pool it is for.  A clone is a new member at the end. -/
def serveAt (serve : σ → Request α → σ × Answer α) (pool : List σ) (place : Nat)
    (request : Request α) : List σ × Option (Answer α) :=
  match pool[place]? with
  | none => (pool, none)
  | some member =>
      let (member, answer) := serve member request
      match request with
      | .clone => (pool.set place member ++ [member], some answer)
      | _ => (pool.set place member, some answer)

def serveAll (serve : σ → Request α → σ × Answer α) (pool : List σ) :
    List (Nat × Request α) → List σ × List (Option (Answer α))
  | [] => (pool, [])
  | (place, request) :: rest =>
      let (pool, answer) := serveAt serve pool place request
      let (pool, answers) := serveAll serve pool rest
      (pool, answer :: answers)

/-- A ring of `capacity` slots shows the records of a queue and has counted what it refused. -/
structure Shows (capacity : Nat) (ring : Ring α) (queue : Queue α) : Prop where
  wellFormed : ring.WellFormed
  capacity_eq : ring.capacity = capacity
  records : ring.toList = queue.records
  refused : ring.overflows = queue.refused.length

namespace Shows

variable {capacity : Nat} {ring : Ring α} {queue : Queue α}

theorem push (shows : Shows capacity ring queue) (record : α) :
    Shows capacity (ring.push record).1 (queue.serve (capacity - 1) (.push record)).1 ∧
      Answer.pushed (ring.push record).2 = (queue.serve (capacity - 1) (.push record)).2 := by
  obtain ⟨wellFormed, capacity_eq, records, refused⟩ := shows
  have usable_eq : ring.usable = capacity - 1 := by rw [usable, capacity_eq]
  rw [wellFormed.push_eq, records, usable_eq]
  simp only [Queue.serve]
  by_cases room : queue.records.length < capacity - 1
  · rw [if_pos room, if_pos room]
    refine ⟨⟨wellFormed.pushed record, (ring.capacity_pushed record).trans capacity_eq, ?_,
      refused⟩, rfl⟩
    have notFull : ring.pending ≠ ring.usable := by
      rw [← wellFormed.length_toList, records, usable_eq]
      exact Nat.ne_of_lt room
    rw [wellFormed.toList_pushed notFull, records]
  · rw [if_neg room, if_neg room]
    refine ⟨⟨⟨wellFormed.room, wellFormed.head_lt, wellFormed.tail_lt⟩, capacity_eq, records, ?_⟩,
      ?_⟩
    · rw [List.length_append, ← refused]
      rfl
    · rw [refused]

theorem popInto_nil (shows : Shows capacity ring queue) (nothing : queue.records = [])
    (destination : α) : ring.popInto destination = (ring, destination, .error .empty) := by
  rw [shows.wellFormed.popInto_eq, shows.records, nothing]

theorem popInto_cons (shows : Shows capacity ring queue) {record : α} {rest : List α}
    (waiting : queue.records = record :: rest) (destination : α) :
    ring.popInto destination = (ring.popped destination, record, .ok ()) ∧
      Shows capacity (ring.popped destination) { queue with records := rest } := by
  have listed := shows.records.trans waiting
  refine ⟨?_, ?_⟩
  · rw [shows.wellFormed.popInto_eq, listed]
  · exact ⟨shows.wellFormed.popped destination,
      (ring.capacity_popped destination).trans shows.capacity_eq,
      shows.wellFormed.toList_popped_cons listed destination, shows.refused⟩

/-- One request: the ring goes on showing the queue and gives the same answer. -/
theorem serve [Inhabited α] (shows : Shows capacity ring queue) (request : Request α) :
    Shows capacity (ring.serve request).1 (queue.serve (capacity - 1) request).1 ∧
      (ring.serve request).2 = (queue.serve (capacity - 1) request).2 := by
  cases request with
  | push record => exact shows.push record
  | pop =>
      cases waiting : queue.records with
      | nil =>
          have failed := shows.popInto_nil waiting default
          simp only [Ring.serve, Ring.pop, failed, Queue.serve, waiting]
          exact ⟨shows, rfl⟩
      | cons record rest =>
          obtain ⟨taken, after⟩ := shows.popInto_cons waiting default
          simp only [Ring.serve, Ring.pop, taken, Queue.serve, waiting]
          exact ⟨after, rfl⟩
  | popInto destination =>
      cases waiting : queue.records with
      | nil =>
          have failed := shows.popInto_nil waiting destination
          simp only [Ring.serve, failed, Queue.serve, waiting]
          exact ⟨shows, trivial⟩
      | cons record rest =>
          obtain ⟨taken, after⟩ := shows.popInto_cons waiting destination
          simp only [Ring.serve, taken, Queue.serve, waiting]
          exact ⟨after, trivial⟩
  | peek =>
      refine ⟨shows, ?_⟩
      simp only [Ring.serve, Queue.serve, shows.wellFormed.peek_eq, shows.records]
  | clear =>
      exact ⟨⟨shows.wellFormed.clear, shows.capacity_eq, ring.toList_clear, shows.refused⟩, rfl⟩
  | clone => exact ⟨shows, rfl⟩

end Shows

/-- Pools agree when they have as many members and agree at every place. -/
theorem agree_getElem? {Agrees : σ → τ → Prop} {pool : List σ} {others : List τ}
    (agree : List.Forall₂ Agrees pool others) (place : Nat) :
    (pool[place]? = none ∧ others[place]? = none) ∨
      ∃ member other, pool[place]? = some member ∧ others[place]? = some other ∧
        Agrees member other := by
  induction agree generalizing place with
  | nil => exact .inl ⟨rfl, rfl⟩
  | cons first _ ih =>
      cases place with
      | zero => exact .inr ⟨_, _, rfl, rfl, first⟩
      | succ place => simpa only [List.getElem?_cons_succ] using ih place

theorem agree_set {Agrees : σ → τ → Prop} {pool : List σ} {others : List τ}
    (agree : List.Forall₂ Agrees pool others) (place : Nat) {member : σ} {other : τ}
    (same : Agrees member other) :
    List.Forall₂ Agrees (pool.set place member) (others.set place other) := by
  induction agree generalizing place with
  | nil => exact .nil
  | cons first rest ih =>
      cases place with
      | zero => exact .cons same rest
      | succ place => exact .cons first (ih place)

section Pools

variable {Agrees : σ → τ → Prop} {serve : σ → Request α → σ × Answer α}
  {serve' : τ → Request α → τ × Answer α}

/-- Pools that agree member by member go on agreeing, and answer alike. -/
theorem serveAt_agrees
    (step : ∀ member other, Agrees member other → ∀ request,
      Agrees (serve member request).1 (serve' other request).1 ∧
        (serve member request).2 = (serve' other request).2)
    {pool : List σ} {others : List τ} (agree : List.Forall₂ Agrees pool others)
    (place : Nat) (request : Request α) :
    List.Forall₂ Agrees (serveAt serve pool place request).1
        (serveAt serve' others place request).1 ∧
      (serveAt serve pool place request).2 = (serveAt serve' others place request).2 := by
  unfold serveAt
  rcases agree_getElem? agree place with ⟨missing, missing'⟩ | ⟨member, other, found, found', same⟩
  · rw [missing, missing']
    exact ⟨agree, rfl⟩
  · obtain ⟨after, answer⟩ := step member other same request
    have updated := agree_set agree place after
    rw [found, found']
    cases request with
    | clone =>
        exact ⟨List.rel_append updated (.cons after .nil), congrArg some answer⟩
    | push record => exact ⟨updated, congrArg some answer⟩
    | pop => exact ⟨updated, congrArg some answer⟩
    | popInto destination => exact ⟨updated, congrArg some answer⟩
    | peek => exact ⟨updated, congrArg some answer⟩
    | clear => exact ⟨updated, congrArg some answer⟩

theorem serveAll_agrees
    (step : ∀ member other, Agrees member other → ∀ request,
      Agrees (serve member request).1 (serve' other request).1 ∧
        (serve member request).2 = (serve' other request).2)
    {pool : List σ} {others : List τ} (agree : List.Forall₂ Agrees pool others)
    (requests : List (Nat × Request α)) :
    List.Forall₂ Agrees (serveAll serve pool requests).1 (serveAll serve' others requests).1 ∧
      (serveAll serve pool requests).2 = (serveAll serve' others requests).2 := by
  induction requests generalizing pool others with
  | nil => exact ⟨agree, rfl⟩
  | cons first rest ih =>
      obtain ⟨place, request⟩ := first
      obtain ⟨after, answer⟩ := serveAt_agrees step agree place request
      obtain ⟨final, answers⟩ := ih after
      refine ⟨final, ?_⟩
      simp only [serveAll]
      rw [answer, answers]

end Pools

/-- No request lowers the count of refused records. -/
theorem overflows_serve [Inhabited α] (ring : Ring α) (request : Request α) :
    ring.overflows ≤ (ring.serve request).1.overflows := by
  cases request with
  | push record =>
      simp only [Ring.serve, Ring.push]
      split
      · exact Nat.le_succ _
      · exact Nat.le_refl _
  | pop =>
      simp only [Ring.serve, Ring.pop, Ring.popInto]
      cases ring.peek <;> exact Nat.le_refl _
  | popInto destination =>
      simp only [Ring.serve, Ring.popInto]
      cases ring.peek <;> exact Nat.le_refl _
  | peek => exact Nat.le_refl _
  | clear => exact Nat.le_refl _
  | clone => exact Nat.le_refl _

theorem serveAt_getElem? (serve : σ → Request α → σ × Answer α) {pool : List σ} {place : Nat}
    {member : σ} (found : pool[place]? = some member) (target : Nat) (request : Request α) :
    ∃ after, (serveAt serve pool target request).1[place]? = some after ∧
      (after = member ∨ after = (serve member request).1) := by
  have place_lt : place < pool.length := (List.getElem?_eq_some_iff.mp found).1
  unfold serveAt
  cases other : pool[target]? with
  | none => exact ⟨member, found, .inl rfl⟩
  | some chosen =>
      have kept : ∃ after, (pool.set target (serve chosen request).1)[place]? = some after ∧
          (after = member ∨ after = (serve member request).1) := by
        by_cases same : target = place
        · subst same
          cases found.symm.trans other
          exact ⟨_, List.getElem?_set_self place_lt, .inr rfl⟩
        · exact ⟨member, by rw [List.getElem?_set_ne same, found], .inl rfl⟩
      obtain ⟨after, there, origin⟩ := kept
      cases request with
      | clone =>
          refine ⟨after, ?_, origin⟩
          rw [List.getElem?_append_left (by rw [List.length_set]; exact place_lt), there]
      | push record => exact ⟨after, there, origin⟩
      | pop => exact ⟨after, there, origin⟩
      | popInto destination => exact ⟨after, there, origin⟩
      | peek => exact ⟨after, there, origin⟩
      | clear => exact ⟨after, there, origin⟩

/-- Over a whole run no ring's count of refused records is ever lowered. -/
theorem overflows_serveAll [Inhabited α] {rings : List (Ring α)} {place : Nat} {ring : Ring α}
    (found : rings[place]? = some ring) (requests : List (Nat × Request α)) :
    ∃ after, (serveAll Ring.serve rings requests).1[place]? = some after ∧
      ring.overflows ≤ after.overflows := by
  induction requests generalizing rings ring with
  | nil => exact ⟨ring, found, Nat.le_refl _⟩
  | cons first rest ih =>
      obtain ⟨target, request⟩ := first
      obtain ⟨middle, there, origin⟩ := serveAt_getElem? Ring.serve found target request
      have grown : ring.overflows ≤ middle.overflows := by
        rcases origin with same | served
        · rw [same]
        · rw [served]
          exact ring.overflows_serve request
      obtain ⟨after, final, more⟩ := ih there
      exact ⟨after, final, Nat.le_trans grown more⟩

theorem serveAll_append (serve : σ → Request α → σ × Answer α) (pool : List σ)
    (earlier later : List (Nat × Request α)) :
    (serveAll serve pool (earlier ++ later)).1 =
      (serveAll serve (serveAll serve pool earlier).1 later).1 := by
  induction earlier generalizing pool with
  | nil => rfl
  | cons first rest ih => exact ih _

/-- What a ring of `capacity` slots has in common with the queue it stands for. -/
structure StandsFor (capacity : Nat) (ring : Ring α) (queue : Queue α) : Prop where
  records : ring.toList = queue.records
  bounded : queue.records.length ≤ capacity - 1
  pending : ring.pending = queue.records.length
  isEmpty : ring.isEmpty = true ↔ queue.records.length = 0
  isFull : ring.isFull = true ↔ queue.records.length = capacity - 1
  overflows : ring.overflows = queue.refused.length
  size : ring.slots.size = capacity
  head_lt : ring.head < ring.slots.size
  tail_lt : ring.tail < ring.slots.size

theorem Shows.standsFor {capacity : Nat} {ring : Ring α} {queue : Queue α}
    (shows : Shows capacity ring queue) : StandsFor capacity ring queue := by
  obtain ⟨wellFormed, capacity_eq, records, refused⟩ := shows
  have pending : ring.pending = queue.records.length := by
    rw [← records, wellFormed.length_toList]
  have pending_lt := wellFormed.pending_lt
  refine ⟨records, ?_, pending, ?_, ?_, refused, capacity_eq, wellFormed.head_lt,
    wellFormed.tail_lt⟩
  · omega
  · rw [wellFormed.isEmpty_iff, pending]
  · rw [wellFormed.isFull_iff, pending, usable, capacity_eq]

/--
A ring of `capacity` slots can be made if they can be addressed.  It behaves as a list of at most
`capacity - 1` records: over every run of requests to it and to its clones it gives the answers of
the list and stands for it at the end, and no count of refused records is ever lowered.
-/
theorem behaves_as_bounded_queue [Inhabited α] (slotSize capacity : Nat) (room : 2 ≤ capacity) :
    ((∃ ring : Ring α, new slotSize capacity = .ok ring) ↔ capacity * slotSize < addressLimit) ∧
      ∀ ring : Ring α, new slotSize capacity = .ok ring → ∀ requests : List (Nat × Request α),
        (serveAll Ring.serve [ring] requests).2 =
            (serveAll (Queue.serve (capacity - 1)) [⟨[], []⟩] requests).2 ∧
          List.Forall₂ (StandsFor capacity) (serveAll Ring.serve [ring] requests).1
            (serveAll (Queue.serve (capacity - 1)) [⟨[], []⟩] requests).1 ∧
          ∀ (later : List (Nat × Request α)) (place : Nat) (before : Ring α),
            (serveAll Ring.serve [ring] requests).1[place]? = some before →
              ∃ after, (serveAll Ring.serve [ring] (requests ++ later)).1[place]? = some after ∧
                before.overflows ≤ after.overflows := by
  refine ⟨exists_new_iff room, fun ring made requests => ?_⟩
  obtain ⟨wellFormed, capacity_eq, nothing, zero⟩ := wellFormed_of_new made
  have initial : Shows capacity ring ⟨[], []⟩ := ⟨wellFormed, capacity_eq, nothing, zero⟩
  obtain ⟨agree, answers⟩ := serveAll_agrees (fun _ _ shows request => shows.serve request)
    (.cons initial .nil) requests
  refine ⟨answers, agree.imp (fun _ _ shows => shows.standsFor), ?_⟩
  intro later place before found
  rw [serveAll_append]
  exact overflows_serveAll found later

/-- Three slots hold two records; a third is refused, and a clone goes its own way. -/
theorem three_slots_hold_two_records :
    2 ≤ 3 ∧ ∃ ring : Ring Nat, new 8 3 = .ok ring ∧
      (serveAll Ring.serve [ring] [(0, .push 1), (0, .push 2), (0, .push 3), (0, .clone),
        (0, .popInto 9), (0, .push 4), (0, .peek), (1, .pop), (1, .clear), (1, .pop)]).2 =
        [some (.pushed (.ok ())), some (.pushed (.ok ())), some (.pushed (.error (.overflow 1))),
          some .cloned, some (.exchanged 1 (.ok ())), some (.pushed (.ok ())),
          some (.peeked (some 2)), some (.popped (.ok 1)), some .cleared,
          some (.popped (.error .empty))] := by
  obtain ⟨made, runs⟩ := behaves_as_bounded_queue (α := Nat) 8 3 (by decide)
  obtain ⟨ring, new⟩ := made.mpr (by decide)
  exact ⟨by decide, ring, new, (runs ring new _).1⟩

end Ring

end DatasetSync
