import DatasetSync.Error

/-!
# Datasets and samples

A dataset is a block of bytes whose size is fixed when it is made.  A sample is a block that was
received, with the sender's time.
-/

namespace DatasetSync

/-- Microseconds on the shared network clock, which wraps around at 32 bits. -/
abbrev Nettime := Int32

def Inspect.bytes (block : List UInt8) : String :=
  Inspect.list (block.map fun byte => toString byte.toNat)

/-- A block of bytes of fixed size. -/
structure Dataset where
  bytes : List UInt8
  deriving DecidableEq, Repr, Inhabited

namespace Dataset

/-- As many zeros as there is room for. -/
def zeros (size : Nat) : Dataset :=
  ⟨List.replicate size 0⟩

def new (size : Nat) : Except Obstacle Dataset :=
  if addressLimit ≤ size then .error .outOfRange else .ok (zeros size)

def size (dataset : Dataset) : Nat :=
  dataset.bytes.length

/-- A payload fits when it has exactly the size of the dataset. -/
def check (dataset : Dataset) (payload : List UInt8) : Except Error Unit :=
  if payload.length = dataset.size then .ok ()
  else .error (.badDatasetSize dataset.size payload.length)

def set (dataset : Dataset) (payload : List UInt8) : Except Error Dataset :=
  (dataset.check payload).map fun _ => ⟨payload⟩

def clear (dataset : Dataset) : Dataset :=
  zeros dataset.size

def inspect (dataset : Dataset) : String :=
  Inspect.record "DatasetBuffer" [("bytes", Inspect.bytes dataset.bytes)]

end Dataset

/-- A received payload and the time it was sent at. -/
structure Sample where
  bytes : List UInt8
  nettime : Nettime
  deriving DecidableEq, Repr

namespace Sample

instance : Inhabited Sample := ⟨⟨[], 0⟩⟩

/-- The bytes of a slot for a sample, without those that the sample refers to. -/
def slotSize : Nat := 32

def inspect (sample : Sample) : String :=
  Inspect.record "Sample"
    [("bytes", Inspect.bytes sample.bytes), ("nettime", toString sample.nettime.toInt)]

end Sample

end DatasetSync
