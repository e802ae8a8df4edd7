import DatasetSync.Text.Inspect

/-!
# Latency statistics

Running figures over the travel times of received values, in microseconds.  Figures are kept as
integers; the sum stays inside the signed 64-bit range by stopping at its ends.  Jitter looks at the
most recent values only.
-/

namespace DatasetSync

/-- Running figures over a sequence of latencies. -/
structure Latency where
  updates : Nat
  last : Int
  least : Int
  greatest : Int
  total : Int
  recent : List Int
  deriving DecidableEq, Repr

namespace Latency

def ceiling : Int := 0x7fffffffffffffff

def floor : Int := -0x8000000000000000

/-- The number of recent values that count for the jitter. -/
def window : Nat := 100

/-- The nearest 64-bit integer. -/
def saturate (number : Int) : Int :=
  max floor (min ceiling number)

/-- No value yet: the extremes are at the far ends of the range. -/
def fresh : Latency where
  updates := 0
  last := 0
  least := ceiling
  greatest := floor
  total := 0
  recent := []

instance : Inhabited Latency := ⟨fresh⟩

def lastWindow (values : List Int) : List Int :=
  values.drop (values.length - window)

def record (latency : Latency) (value : Int) : Latency where
  updates := latency.updates + 1
  last := value
  least := min latency.least value
  greatest := max latency.greatest value
  total := saturate (latency.total + value)
  recent := lastWindow (latency.recent ++ [value])

def reset (_ : Latency) : Latency :=
  fresh

/-- The mean of all values, and zero before the first. -/
def average (latency : Latency) : Float :=
  if latency.updates = 0 then 0.0
  else Float.ofInt latency.total / Float.ofNat latency.updates

/-- The spread of the recent values in 64 bits, and zero before the first. -/
def jitter (latency : Latency) : Int :=
  match latency.recent with
  | [] => 0
  | first :: rest => ((rest.foldl max first).toInt64 - (rest.foldl min first).toInt64).toInt

def inspect (latency : Latency) : String :=
  Inspect.record "LatencyStats"
    [("updates", toString latency.updates), ("last_latency_us", toString latency.last),
      ("min_latency_us", toString latency.least), ("max_latency_us", toString latency.greatest),
      ("total_latency_us", toString latency.total),
      ("recent", Inspect.list (latency.recent.map toString))]

end Latency

end DatasetSync
