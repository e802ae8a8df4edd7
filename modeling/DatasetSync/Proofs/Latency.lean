import DatasetSync.Proofs.Channel
import Mathlib.Algebra.Order.BigOperators.Group.List
import Mathlib.Algebra.Order.Ring.Int
import Mathlib.Data.List.DropRight

/-!
# What latency figures tell

Running figures are kept one value at a time, but they mean something about all values since the
beginning or since they were last reset.  The sum is the one figure that can lose its meaning, since
it stops at the ends of the 64-bit range.

A channel records differences on a clock of 32 bits.  These are so small that the sum stays exact
for more than four thousand million of them, and that their spread never leaves the range.
-/

namespace DatasetSync

namespace Latency

/-! ## Figures and values -/

/-- The greatest of some values less the least of them, and zero if there are none. -/
def spread (values : List Int) : Int :=
  values.max?.getD 0 - values.min?.getD 0

def Fits (value : Int) : Prop :=
  -0x8000000000000000 ≤ value ∧ value ≤ 0x7fffffffffffffff

/-- The figures are those of some values. -/
structure Describes (latency : Latency) (values : List Int) : Prop where
  updates : latency.updates = values.length
  last : latency.last = values.getLast?.getD 0
  least : latency.least = values.min?.getD 0x7fffffffffffffff
  greatest : latency.greatest = values.max?.getD (-0x8000000000000000)
  recent : latency.recent = values.rtake (min values.length 100)
  jitter (fits : Fits (spread latency.recent)) : latency.jitter = spread latency.recent

theorem min?_concat (values : List Int) (value : Int) :
    (values ++ [value]).min? = some (values.min?.elim value (min · value)) := by
  cases values with
  | nil => rfl
  | cons first rest => simp [List.min?, List.foldl_append]

theorem max?_concat (values : List Int) (value : Int) :
    (values ++ [value]).max? = some (values.max?.elim value (max · value)) := by
  cases values with
  | nil => rfl
  | cons first rest => simp [List.max?, List.foldl_append]

/-- A window of the window is a window of the whole. -/
theorem rtake_rtake {α : Type} {few many : Nat} (fewer : few ≤ many) (items : List α) :
    (items.rtake many).rtake few = items.rtake few := by
  simp only [List.rtake, List.length_drop, List.drop_drop]
  congr 1
  omega

theorem rtake_min {α : Type} (items : List α) (count : Nat) :
    items.rtake (min items.length count) = items.rtake count := by
  unfold List.rtake
  congr 1
  omega

/-- The last hundred values move on by one. -/
theorem lastWindow_concat (values : List Int) (value : Int) :
    lastWindow (values.rtake 100 ++ [value]) = (values ++ [value]).rtake 100 :=
  calc lastWindow (values.rtake 100 ++ [value])
      _ = (values.rtake 100 ++ [value]).rtake 100 := rfl
      _ = (values.rtake 100).rtake 99 ++ [value] := List.rtake_concat_succ ..
      _ = values.rtake 99 ++ [value] := by rw [rtake_rtake (by decide)]
      _ = (values ++ [value]).rtake 100 := (List.rtake_concat_succ ..).symm

/-- A 64-bit difference is exact where it fits, whatever the two numbers are. -/
theorem toInt_sub_toInt64 {first second : Int} (fits : Fits (first - second)) :
    (first.toInt64 - second.toInt64).toInt = first - second := by
  obtain ⟨low, high⟩ := fits
  calc (first.toInt64 - second.toInt64).toInt
      _ = (first.toInt64.toInt - second.toInt64.toInt).bmod 0x10000000000000000 :=
        Int64.toInt_sub ..
      _ = (first.bmod 0x10000000000000000 - second.bmod 0x10000000000000000).bmod
          0x10000000000000000 := by rw [Int64.toInt_ofInt, Int64.toInt_ofInt]
      _ = (first - second).bmod 0x10000000000000000 := by
        rw [Int.bmod_sub_bmod, Int.sub_bmod_bmod]
      _ = first - second := Int.bmod_eq_of_le low (Int.lt_add_one_of_le high)

theorem jitter_eq {latency : Latency} (fits : Fits (spread latency.recent)) :
    latency.jitter = spread latency.recent := by
  unfold jitter
  cases recent : latency.recent with
  | nil => rfl
  | cons first rest =>
      rw [recent] at fits
      exact toInt_sub_toInt64 fits

theorem fresh_describes : fresh.Describes [] :=
  ⟨rfl, rfl, rfl, rfl, rfl, jitter_eq⟩

/-- One value more. -/
theorem Describes.record {latency : Latency} {values : List Int}
    (describes : latency.Describes values) {value : Int} (fits : Fits value) :
    (latency.record value).Describes (values ++ [value]) := by
  obtain ⟨low, high⟩ := fits
  refine ⟨?_, ?_, ?_, ?_, ?_, jitter_eq⟩
  · rw [List.length_append, ← describes.updates]
    rfl
  · rw [List.getLast?_concat]
    rfl
  · -- The first value takes the place of the far end of the range, which no value goes beyond.
    change min latency.least value = _
    rw [describes.least, min?_concat]
    cases values.min? with
    | none => exact min_eq_right high
    | some least => rfl
  · change max latency.greatest value = _
    rw [describes.greatest, max?_concat]
    cases values.max? with
    | none => exact max_eq_right low
    | some greatest => rfl
  · change lastWindow (latency.recent ++ [value]) = _
    rw [describes.recent, rtake_min, rtake_min, lastWindow_concat]

/-! ## Recording and resetting -/

inductive Entry where
  | record (value : Int64)
  | reset
  deriving DecidableEq

def Entry.value? : Entry → Option Int
  | .record value => some value.toInt
  | .reset => none

def enter (latency : Latency) : Entry → Latency
  | .record value => latency.record value.toInt
  | .reset => latency.reset

def sinceReset (entries : List Entry) : List Int :=
  (entries.rtakeWhile (· ≠ .reset)).filterMap Entry.value?

theorem fits_toInt (value : Int64) : Fits value.toInt := by
  have low := value.le_toInt
  have high := value.toInt_lt
  exact ⟨low, Int.le_of_lt_add_one high⟩

theorem enter_describes {latency : Latency} {entries : List Entry}
    (describes : latency.Describes (sinceReset entries)) (entry : Entry) :
    (latency.enter entry).Describes (sinceReset (entries ++ [entry])) := by
  cases entry with
  | record value =>
      have goesOn : sinceReset (entries ++ [.record value]) =
          sinceReset entries ++ [value.toInt] := by
        unfold sinceReset
        rw [List.rtakeWhile_concat_pos _ _ _ (by simp), List.filterMap_append]
        rfl
      rw [goesOn]
      exact describes.record (fits_toInt value)
  | reset =>
      have forgotten : sinceReset (entries ++ [.reset]) = [] := by
        unfold sinceReset
        rw [List.rtakeWhile_concat_neg _ _ _ (by simp)]
        rfl
      rw [forgotten]
      exact fresh_describes

/-- Whatever was recorded, the figures are those of the values since the last reset. -/
theorem entries_describe (entries : List Entry) :
    (entries.foldl enter fresh).Describes (sinceReset entries) := by
  induction entries using List.reverseRecOn with
  | nil => exact fresh_describes
  | append_singleton entries entry ih =>
      rw [List.foldl_append]
      exact enter_describes ih entry

/-! ## Values of 32 bits -/

def Short (value : Int) : Prop :=
  -0x80000000 ≤ value ∧ value < 0x80000000

instance (value : Int) : Decidable (Short value) :=
  inferInstanceAs (Decidable (_ ∧ _))

theorem Short.fits {value : Int} (short : Short value) : Fits value := by
  obtain ⟨low, high⟩ := short
  constructor <;> omega

/-- So many short values cannot leave the 64-bit range together. -/
theorem fits_sum {values : List Int} (short : ∀ value ∈ values, Short value)
    (few : values.length ≤ 0x100000000) : Fits values.sum := by
  have least : values.length • (-0x80000000) ≤ values.sum :=
    values.card_nsmul_le_sum _ fun value inside => (short value inside).1
  have most : values.sum ≤ values.length • 0x7fffffff :=
    values.sum_le_card_nsmul _ fun value inside => Int.le_of_lt_add_one (short value inside).2
  rw [nsmul_eq_mul] at least most
  constructor <;> omega

theorem saturate_eq {number : Int} (fits : Fits number) : saturate number = number := by
  obtain ⟨low, high⟩ := fits
  calc saturate number
      _ = max floor number := congrArg (max floor) (min_eq_right high)
      _ = number := max_eq_right low

/-- The spread of short values is a number of 32 bits without sign. -/
theorem spread_short {values : List Int} (short : ∀ value ∈ values, Short value) :
    0 ≤ spread values ∧ spread values ≤ 0xffffffff := by
  unfold spread
  cases least : values.min? with
  | none =>
      cases List.min?_eq_none_iff.mp least
      decide
  | some low =>
      cases greatest : values.max? with
      | none =>
          cases List.max?_eq_none_iff.mp greatest
          cases least
      | some high =>
          have bottom := short low (List.min?_mem least)
          have top := short high (List.max?_mem greatest)
          have ordered : low ≤ high := (List.max?_le_iff greatest).mp (le_refl high) low
            (List.min?_mem least)
          obtain ⟨bottom, _⟩ := bottom
          obtain ⟨_, top⟩ := top
          simp only [Option.getD_some]
          omega

/-- The figures are those of some short values, and so is the sum of not too many. -/
structure Measures (latency : Latency) (values : List Int) : Prop where
  describes : latency.Describes values
  short : ∀ value ∈ values, Short value
  total : values.length ≤ 0x100000000 → latency.total = values.sum

theorem fresh_measures : fresh.Measures [] :=
  ⟨fresh_describes, fun _ inside => (List.not_mem_nil inside).elim, fun _ => rfl⟩

theorem Measures.record {latency : Latency} {values : List Int} (measures : latency.Measures values)
    {value : Int} (short : Short value) : (latency.record value).Measures (values ++ [value]) := by
  have all : ∀ each ∈ values ++ [value], Short each :=
    List.forall_mem_append.mpr ⟨measures.short, List.forall_mem_singleton.mpr short⟩
  refine ⟨measures.describes.record short.fits, all, fun few => ?_⟩
  have fewer : values.length ≤ 0x100000000 := by
    rw [List.length_append] at few
    omega
  calc saturate (latency.total + value)
      _ = saturate (values ++ [value]).sum := by
        rw [measures.total fewer, List.sum_append, List.sum_singleton]
      _ = (values ++ [value]).sum := saturate_eq (fits_sum all few)

end Latency

/-! ## Channels -/

namespace Channel

inductive Action where
  | receive (payload : List UInt8) (sent now : Nettime)
  | popInto (destination : Sample)
  | takeUpdated
  | recordPublished (payload : List UInt8)
  | recordSendBuffer (info : SendBuffer) (delivered : Bool)
  | setOperational
  | transition (state : ConnectionState) (fault : Option Fault)
  | reset
  | prepare

/-- The channel afterwards, unchanged by what it refuses. -/
def act (channel : Channel) : Action → Channel
  | .receive payload sent now => (channel.receive payload sent now).1
  | .popInto destination => (channel.popInto destination).1
  | .takeUpdated => channel.takeUpdated.2
  | .recordPublished payload => (channel.recordPublished payload).toOption.getD channel
  | .recordSendBuffer info delivered => channel.recordSendBuffer info delivered
  | .setOperational => channel.setOperational.toOption.getD channel
  | .transition state fault => (channel.transition state fault).toOption.join.getD channel
  | .reset => channel.reset
  | .prepare => channel.prepare

def acts (channel : Channel) (actions : List Action) : Channel :=
  actions.foldl act channel

/-- A payload is taken in: the direction allows it, it fits, and a ring has room for it. -/
def Admits (channel : Channel) (payload : List UInt8) : Prop :=
  channel.direction.canSubscribe = true ∧ payload.length = channel.byteSize ∧
    ∀ ring ∈ channel.buffer, ring.isFull = false

instance (channel : Channel) (payload : List UInt8) : Decidable (channel.Admits payload) :=
  inferInstanceAs (Decidable (_ ∧ _ ∧ _))

/-- The travel time of a payload that is taken in: the difference of the times, as 32 bits hold
it. -/
def measures (channel : Channel) : Action → List Int
  | .receive payload sent now =>
      if channel.Admits payload then [(now.toInt - sent.toInt).bmod 0x100000000] else []
  | _ => []

def measured (channel : Channel) : List Action → List Int
  | [] => []
  | action :: rest => channel.measures action ++ (channel.act action).measured rest

theorem travelTime_eq (sent now : Nettime) :
    travelTime sent now = (now.toInt - sent.toInt).bmod 0x100000000 :=
  Int32.toInt_sub now sent

theorem travelTime_short (sent now : Nettime) : Latency.Short (travelTime sent now) :=
  ⟨(now - sent).le_toInt, (now - sent).toInt_lt⟩

/-- A payload that is taken in is answered with its travel time, which goes into the figures; any
other has none and leaves them alone. -/
theorem Receiving.admits_or {channel after : Channel} {payload : List UInt8} {sent now : Nettime}
    {answer : Except Error Reception}
    (outcome : Receiving channel payload sent now after answer) :
    channel.Admits payload ∧ answer = .ok (.accepted (travelTime sent now)) ∧
        after.latency = channel.latency.record (travelTime sent now) ∨
      ¬ channel.Admits payload ∧ (∀ latency, answer ≠ .ok (.accepted latency)) ∧
        after.latency = channel.latency := by
  cases outcome with
  | unwanted deaf =>
      refine .inr ⟨?_, nofun, rfl⟩
      rintro ⟨wanted, _⟩
      cases wanted.symm.trans deaf
  | misfit wanted misfits =>
      refine .inr ⟨?_, nofun, rfl⟩
      rintro ⟨_, fits, _⟩
      exact misfits fits
  | replaced wanted fits single =>
      refine .inl ⟨⟨wanted, fits, fun ring there => ?_⟩, rfl, rfl⟩
      cases single.symm.trans there
  | queued wanted fits buffered room =>
      refine .inl ⟨⟨wanted, fits, fun ring there => ?_⟩, rfl, rfl⟩
      cases buffered.symm.trans there
      exact room
  | overflowed wanted fits buffered full =>
      refine .inr ⟨?_, nofun, rfl⟩
      rintro ⟨_, _, room⟩
      cases (room _ buffered).symm.trans full

/-- Nothing but a payload that is taken in is measured, and it is recorded as such. -/
theorem receive_latency (channel : Channel) (payload : List UInt8) (sent now : Nettime) :
    (channel.receive payload sent now).1.latency =
      if channel.Admits payload then channel.latency.record (travelTime sent now)
      else channel.latency := by
  rcases (channel.receive_cases payload sent now).admits_or with
    ⟨admits, _, recorded⟩ | ⟨refused, _, same⟩
  · rw [if_pos admits, recorded]
  · rw [if_neg refused, same]

/-- Nothing but receiving touches the figures. -/
theorem act_latency (channel : Channel) {action : Action}
    (other : ∀ payload sent now, action ≠ .receive payload sent now) :
    (channel.act action).latency = channel.latency := by
  cases action with
  | receive payload sent now => exact absurd rfl (other payload sent now)
  | popInto destination =>
      rw [act, popInto_fst]
      rfl
  | takeUpdated => rfl
  | recordPublished payload =>
      rw [act, recordPublished]
      cases channel.value.set payload <;> rfl
  | recordSendBuffer info delivered => rfl
  | setOperational =>
      rw [act, setOperational]
      split <;> rfl
  | transition state fault =>
      rw [act]
      rcases moved : channel.transition state fault with error | _ | after
      · rfl
      · rfl
      · obtain ⟨lastError, rfl⟩ := transition_moved moved
        rfl
  | reset => rfl
  | prepare => rfl

/-- Whatever is done to a channel, its figures are those of what it has measured. -/
theorem act_measures {channel : Channel} {values : List Int}
    (measures : channel.latency.Measures values) (action : Action) :
    (channel.act action).latency.Measures (values ++ channel.measures action) := by
  cases action with
  | receive payload sent now =>
      rw [act, receive_latency, Channel.measures, ← travelTime_eq]
      split
      · exact measures.record (travelTime_short sent now)
      · rw [List.append_nil]
        exact measures
  | _ =>
      rw [act_latency channel (fun _ _ _ => Action.noConfusion)]
      exact (List.append_nil values).symm ▸ measures

theorem acts_measure {channel : Channel} {values : List Int}
    (measures : channel.latency.Measures values) (actions : List Action) :
    (channel.acts actions).latency.Measures (values ++ channel.measured actions) := by
  induction actions generalizing channel values with
  | nil =>
      rw [measured, List.append_nil]
      exact measures
  | cons action rest ih =>
      rw [measured, ← List.append_assoc]
      exact ih (act_measures measures action)

end Channel

namespace Latency

/-- Whatever was recorded and however often the figures were reset, they are those of the values
since then.  Whatever is done to a channel since it was made, its figures are those of all travel
times it has measured; these are 32-bit integers, so that the jitter is always known and the sum of
up to `2 ^ 32` of them is exact. -/
theorem figures_tell_the_whole_history {id : ChannelId} {spec : ChannelSpec} {channel : Channel}
    (made : Channel.new id spec = .ok channel) :
    (∀ entries : List Entry, (entries.foldl enter fresh).Describes (sinceReset entries)) ∧
      ∀ actions : List Channel.Action,
        let latency := (channel.acts actions).latency
        let values := channel.measured actions
        latency.Describes values ∧
          (∀ value ∈ values, -0x80000000 ≤ value ∧ value < 0x80000000) ∧
          latency.jitter = spread latency.recent ∧
          0 ≤ latency.jitter ∧ latency.jitter ≤ 0xffffffff ∧
          (values.length ≤ 0x100000000 → latency.total = values.sum) := by
  refine ⟨entries_describe, fun actions => ?_⟩
  intro latency values
  have measures : latency.Measures values := by
    have begun : channel.latency.Measures [] := by
      rw [(Channel.made_of_new made).latency_eq]
      exact fresh_measures
    exact Channel.acts_measure begun actions
  have recent : ∀ value ∈ latency.recent, Short value := by
    rw [measures.describes.recent]
    exact fun value inside => measures.short value (List.mem_of_mem_drop inside)
  obtain ⟨positive, bounded⟩ := spread_short recent
  have jitter : latency.jitter = spread latency.recent := by
    apply jitter_eq
    constructor <;> omega
  rw [jitter]
  exact ⟨measures.describes, measures.short, rfl, positive, bounded, measures.total⟩

/-- The clock wraps between two samples, a sample does not fit, and one finds no room. -/
def acrossTheWrap : List Channel.Action :=
  [.receive [1] 2147483640 (-2147483646), .receive [2, 2] 0 9, .receive [2] 5 0,
    .receive [3] 0 1000, .popInto default, .prepare, .receive [4] (-2147483648) 2147483647]

theorem figures_across_the_wrap :
    ∃ channel, Channel.new 0 ⟨"samples", .subscribe, 1, some 3⟩ = .ok channel ∧
      channel.measured acrossTheWrap = [10, -5, -1] ∧
      (channel.acts acrossTheWrap).latency.updates = 3 ∧
      (channel.acts acrossTheWrap).latency.last = -1 ∧
      (channel.acts acrossTheWrap).latency.least = -5 ∧
      (channel.acts acrossTheWrap).latency.greatest = 10 ∧
      (channel.acts acrossTheWrap).latency.jitter = 15 ∧
      (channel.acts acrossTheWrap).latency.total = 4 := by
  obtain ⟨channel, made⟩ : ∃ channel, Channel.new 0 ⟨"samples", .subscribe, 1, some 3⟩ =
      .ok channel := ⟨_, rfl⟩
  have values : channel.measured acrossTheWrap = [10, -5, -1] := by
    cases made
    decide +kernel
  obtain ⟨_, told⟩ := figures_tell_the_whole_history made
  obtain ⟨describes, _, jitter, _, _, total⟩ := told acrossTheWrap
  rw [describes.recent, values] at jitter
  rw [values] at describes total
  exact ⟨channel, made, values, describes.updates, describes.last, describes.least,
    describes.greatest, jitter, total (by decide)⟩

end Latency

end DatasetSync
