import DatasetSync.Error

/-!
# Ring buffers

A ring holds records in a fixed circle of slots.  `head` is the slot the next record goes to and
`tail` the slot of the oldest record; equal positions mean that the ring is empty, so one slot
always stays unused.  A full ring refuses new records and counts them; it never overwrites what has
not been read.
-/

namespace DatasetSync

/-- A circle of slots between a producer that must not wait and a consumer with its own schedule. -/
structure Ring (α : Type) where
  slots : Array α
  head : Nat
  tail : Nat
  overflows : Nat
  deriving DecidableEq, Repr

namespace Ring

variable {α : Type}

def standardCapacity : Nat := 20

/-- An empty ring with slots of `slotSize` bytes.  Two of them are the least that can hold a record,
and all of them have to be addressed. -/
def new [Inhabited α] (slotSize capacity : Nat) : Except Obstacle (Ring α) :=
  if capacity < 2 then
    .error (.refused (.config s!"ring buffer capacity must be at least 2, got {capacity}"))
  else if addressLimit ≤ capacity * slotSize then
    .error .outOfRange
  else
    .ok ⟨Array.replicate capacity default, 0, 0, 0⟩

def capacity (ring : Ring α) : Nat :=
  ring.slots.size

def usable (ring : Ring α) : Nat :=
  ring.capacity - 1

def next (ring : Ring α) (position : Nat) : Nat :=
  (position + 1) % ring.capacity

def isEmpty (ring : Ring α) : Bool :=
  ring.head == ring.tail

def isFull (ring : Ring α) : Bool :=
  ring.next ring.head == ring.tail

def pending (ring : Ring α) : Nat :=
  if ring.tail ≤ ring.head then ring.head - ring.tail
  else ring.capacity - (ring.tail - ring.head)

/-- Add a record at the end, or count it as refused. -/
def push (ring : Ring α) (record : α) : Ring α × Except Error Unit :=
  if ring.isFull then
    ({ ring with overflows := ring.overflows + 1 }, .error (.overflow (ring.overflows + 1)))
  else
    ({ ring with
        slots := ring.slots.setIfInBounds ring.head record
        head := ring.next ring.head }, .ok ())

def peek (ring : Ring α) : Option α :=
  if ring.isEmpty then none else ring.slots[ring.tail]?

/-- Exchange the oldest record for `destination`, whose contents stay behind in the freed slot.  The
ring and the destination are handed back with every answer. -/
def popInto (ring : Ring α) (destination : α) : Ring α × α × Except Error Unit :=
  match ring.peek with
  | none => (ring, destination, .error .empty)
  | some record =>
      ({ ring with
          slots := ring.slots.setIfInBounds ring.tail destination
          tail := ring.next ring.tail }, record, .ok ())

def pop [Inhabited α] (ring : Ring α) : Ring α × Except Error α :=
  let (ring, record, answer) := ring.popInto default
  (ring, answer.map fun _ => record)

/-- Forget all waiting records; the count of refused ones stays. -/
def clear (ring : Ring α) : Ring α :=
  { ring with tail := ring.head }

def inspect (item : α → String) (ring : Ring α) : String :=
  Inspect.record "RingBuffer"
    [("slots", Inspect.list (ring.slots.toList.map item)), ("head", toString ring.head),
      ("tail", toString ring.tail), ("overflow_count", toString ring.overflows)]

end Ring

end DatasetSync
