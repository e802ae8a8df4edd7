import DatasetSync.Dataset
import DatasetSync.Ring

/-!
# Channel specifications

What a channel is to be, before it is made: its name, direction and size, and for a channel that
keeps received samples, the capacity of its ring.
-/

namespace DatasetSync

structure ChannelSpec where
  name : String
  direction : Direction
  byteSize : Nat
  capacity : Option Nat
  deriving DecidableEq, Repr, Inhabited

namespace ChannelSpec

/-- A buffer needs something to receive and room for at least one record. -/
def validateBuffer (spec : ChannelSpec) (capacity : Nat) : Except Error Unit :=
  if !spec.direction.canSubscribe then
    .error (.config s!"channel '{spec.name}' is buffered but never receives data")
  else if capacity < 2 then
    .error (.config s!"channel '{spec.name}' buffer capacity must be at least 2, got {capacity}")
  else
    .ok ()

def validate (spec : ChannelSpec) : Except Error Unit :=
  if spec.name = "" then
    .error (.invalidName "channel name is empty")
  else if spec.byteSize = 0 then
    .error (.config s!"channel '{spec.name}' has a zero byte size")
  else
    match spec.capacity with
    | none => .ok ()
    | some capacity => spec.validateBuffer capacity

/-- The sizes of the blocks that a channel is made of, in the order they are made: the slots for
samples, and the value. -/
def blocks (spec : ChannelSpec) : List Nat :=
  (spec.capacity.map (· * Sample.slotSize)).toList ++ [spec.byteSize]

end ChannelSpec

end DatasetSync
