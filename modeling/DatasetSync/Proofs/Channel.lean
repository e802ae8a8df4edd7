import DatasetSync.Channel
import DatasetSync.Proofs.Ring

/-!
# What happens to a single channel

One statement for each operation of a channel: how it is made, what can be sent on it, and what
becomes of a value that comes in.
-/

namespace DatasetSync

theorem error_of_map {ε α β : Type} {answer : Except ε α} {change : α → β} {error : ε}
    (failed : answer.map change = .error error) : answer = .error error := by
  cases answer with
  | ok value => cases failed
  | error cause =>
      cases failed
      rfl

def ChannelSpec.Addressable (spec : ChannelSpec) : Prop :=
  ∀ bytes ∈ spec.blocks, bytes < addressLimit

instance (spec : ChannelSpec) : Decidable spec.Addressable :=
  inferInstanceAs (Decidable (∀ bytes ∈ spec.blocks, bytes < addressLimit))

namespace Channel

/-! ## Making -/

/-- A channel is as its description says, disconnected and without a past. -/
structure Made (id : ChannelId) (spec : ChannelSpec) (channel : Channel) : Prop where
  id_eq : channel.id = id
  name_eq : channel.name = spec.name
  direction_eq : channel.direction = spec.direction
  state_eq : channel.state = .disconnected
  value_eq : channel.value = Dataset.zeros spec.byteSize
  nettime_eq : channel.nettime = 0
  updated_eq : channel.updated = false
  published_eq : channel.published = 0
  latency_eq : channel.latency = Latency.fresh
  buffer_eq : match channel.buffer with
    | none => spec.capacity = none
    | some ring => ∃ capacity, spec.capacity = some capacity ∧
        Ring.new Sample.slotSize capacity = .ok ring ∧ channel.direction.canSubscribe = true

/-- A valid description has a name and a size. -/
theorem named_and_sized {spec : ChannelSpec} (valid : spec.validate = .ok ()) :
    spec.name ≠ "" ∧ spec.byteSize ≠ 0 := by
  unfold ChannelSpec.validate at valid
  split at valid
  · cases valid
  · rename_i named
    split at valid
    · cases valid
    · rename_i sized
      exact ⟨named, sized⟩

theorem canSubscribe_of_validate {spec : ChannelSpec} {capacity : Nat}
    (valid : spec.validate = .ok ()) (buffered : spec.capacity = some capacity) :
    spec.direction.canSubscribe = true := by
  obtain ⟨named, sized⟩ := named_and_sized valid
  rw [ChannelSpec.validate, if_neg named, if_neg sized, buffered] at valid
  simp only [ChannelSpec.validateBuffer] at valid
  cases wanted : spec.direction.canSubscribe with
  | true => rfl
  | false =>
      rw [wanted] at valid
      cases valid

/-- A buffer of a valid description has room for a record. -/
theorem room_of_validate {spec : ChannelSpec} {capacity : Nat} (valid : spec.validate = .ok ())
    (buffered : spec.capacity = some capacity) : 2 ≤ capacity := by
  obtain ⟨named, sized⟩ := named_and_sized valid
  have wanted := canSubscribe_of_validate valid buffered
  rw [ChannelSpec.validate, if_neg named, if_neg sized, buffered] at valid
  simp only [ChannelSpec.validateBuffer, wanted, Bool.not_true, Bool.false_eq_true,
    ↓reduceIte] at valid
  split at valid
  · cases valid
  · rename_i enough
    exact Nat.le_of_not_lt enough

/-- What making a channel comes to: a valid description is a matter of the blocks it asks for. -/
inductive Making (id : ChannelId) (spec : ChannelSpec) : Except Obstacle Channel → Prop where
  | invalid {error : Error} (wrong : spec.validate = .error error) :
      Making id spec (.error (.refused error))
  | large (valid : spec.validate = .ok ()) (large : ¬ spec.Addressable) :
      Making id spec (.error .outOfRange)
  | made {channel : Channel} (valid : spec.validate = .ok ()) (fits : spec.Addressable)
      (made : Made id spec channel) : Making id spec (.ok channel)

/-- With its ring, a channel is a matter of its value. -/
theorem making_value {id : ChannelId} {spec : ChannelSpec} (buffer : Option (Ring Sample))
    (valid : spec.validate = .ok ())
    (ring : spec.capacity.mapM (Ring.new Sample.slotSize) = .ok buffer)
    (fits : ∀ capacity, spec.capacity = some capacity →
      capacity * Sample.slotSize < addressLimit)
    (origin : match buffer with
      | none => spec.capacity = none
      | some ring => ∃ capacity, spec.capacity = some capacity ∧
          Ring.new Sample.slotSize capacity = .ok ring) :
    Making id spec (Channel.new id spec) := by
  have asked : spec.byteSize ∈ spec.blocks := List.mem_append_right _ List.mem_cons_self
  unfold Channel.new
  rw [valid, ring]
  by_cases beyond : addressLimit ≤ spec.byteSize
  · have large : Dataset.new spec.byteSize = .error .outOfRange := if_pos beyond
    rw [large]
    exact .large valid fun fits => Nat.not_lt_of_le beyond (fits _ asked)
  · have value : Dataset.new spec.byteSize = .ok (Dataset.zeros spec.byteSize) := if_neg beyond
    rw [value]
    refine .made valid (fun bytes inside => ?_) ⟨rfl, rfl, rfl, rfl, rfl, rfl, rfl, rfl, rfl, ?_⟩
    · rcases List.mem_append.mp inside with slots | last
      · obtain ⟨capacity, there, rfl⟩ := Option.map_eq_some_iff.mp (Option.mem_toList.mp slots)
        exact fits capacity there
      · rw [List.mem_singleton.mp last]
        exact Nat.lt_of_not_le beyond
    · cases buffer with
      | none => exact origin
      | some ring =>
          obtain ⟨capacity, there, new⟩ := origin
          exact ⟨capacity, there, new, canSubscribe_of_validate valid there⟩

theorem new_of_invalid (id : ChannelId) {spec : ChannelSpec} {error : Error}
    (invalid : spec.validate = .error error) :
    Channel.new id spec = .error (.refused error) := by
  unfold Channel.new
  rw [invalid]
  rfl

/-- A channel is made of a valid description, block by block, unless one of them is too large. -/
theorem new_cases (id : ChannelId) (spec : ChannelSpec) :
    Making id spec (Channel.new id spec) := by
  cases valid : spec.validate with
  | error error =>
      rw [new_of_invalid id valid]
      exact .invalid valid
  | ok done =>
      cases buffered : spec.capacity with
      | none =>
          refine making_value none valid ?_ (fun capacity there => ?_) buffered
          · rw [buffered]
            rfl
          · cases buffered.symm.trans there
      | some capacity =>
          have room := room_of_validate valid buffered
          by_cases beyond : addressLimit ≤ capacity * Sample.slotSize
          · have asked : capacity * Sample.slotSize ∈ spec.blocks := by
              simp [ChannelSpec.blocks, buffered]
            have large : (Ring.new Sample.slotSize capacity : Except Obstacle (Ring Sample)) =
                .error .outOfRange := by
              rw [Ring.new_eq _ room, if_pos beyond]
            unfold Channel.new
            rw [valid, buffered, Option.mapM_some, large]
            exact .large valid fun fits => Nat.not_lt_of_le beyond (fits _ asked)
          · obtain ⟨ring, new⟩ := (Ring.exists_new_iff (α := Sample) room).mpr
              (Nat.lt_of_not_le beyond)
            refine making_value (some ring) valid ?_ (fun other there => ?_)
              ⟨capacity, buffered, new⟩
            · rw [buffered, Option.mapM_some, new]
              rfl
            · cases buffered.symm.trans there
              exact Nat.lt_of_not_le beyond

theorem validate_of_new {id : ChannelId} {spec : ChannelSpec} {channel : Channel}
    (new : Channel.new id spec = .ok channel) : spec.validate = .ok () := by
  have making := new_cases id spec
  rw [new] at making
  cases making with
  | made valid fits made => exact valid

theorem made_of_new {id : ChannelId} {spec : ChannelSpec} {channel : Channel}
    (new : Channel.new id spec = .ok channel) : Made id spec channel := by
  have making := new_cases id spec
  rw [new] at making
  cases making with
  | made valid fits made => exact made

/-! ## Moving -/

/-- A move that was followed leads to the announced state and touches no data. -/
theorem transition_moved {channel after : Channel} {announced : ConnectionState}
    {fault : Option Fault} (moved : channel.transition announced fault = .ok (some after)) :
    ∃ lastError, after = { channel with state := announced, lastError } := by
  unfold transition at moved
  split at moved
  · cases moved
    exact ⟨_, rfl⟩
  · split at moved
    · cases moved
    · split at moved
      · cases moved
      · split at moved
        · cases moved
          exact ⟨_, rfl⟩
        · cases moved

/-- A channel may stand elsewhere, but it holds what it held. -/
structure SameData (channel after : Channel) : Prop where
  direction : after.direction = channel.direction
  value : after.value = channel.value
  updated : after.updated = channel.updated
  buffer : after.buffer = channel.buffer
  latency : after.latency = channel.latency

theorem SameData.refl (channel : Channel) : channel.SameData channel :=
  ⟨rfl, rfl, rfl, rfl, rfl⟩

theorem SameData.byteSize {channel after : Channel} (same : channel.SameData after) :
    after.byteSize = channel.byteSize :=
  congrArg Dataset.size same.value

/-! ## Sending -/

/-- A payload may be sent on a channel. -/
structure Takes (channel : Channel) (payload : List UInt8) : Prop where
  fits : payload.length = channel.byteSize
  publishable : channel.direction.canPublish = true
  connected : channel.state.isConnected = true

def sentOn (channel : Channel) (payload : List UInt8) : Channel :=
  { channel with value := ⟨payload⟩, published := channel.published + 1 }

theorem checkPublish_eq (channel : Channel) (payload : List UInt8) :
    channel.checkPublish payload =
      if payload.length ≠ channel.byteSize then
        .error (.badDatasetSize channel.byteSize payload.length)
      else if channel.direction.canPublish = false then
        .error (.notAllowed s!"channel '{channel.name}' is subscribe-only")
      else if channel.state.isConnected = false then
        .error (.notReady s!"channel '{channel.name}' is {channel.state.name}")
      else .ok () := by
  unfold checkPublish Dataset.check byteSize
  by_cases fits : payload.length = channel.value.size
  · cases publishable : channel.direction.canPublish <;>
      cases connected : channel.state.isConnected <;> simp [fits] <;> rfl
  · simp [fits]
    rfl

theorem takes_of_checkPublish {channel : Channel} {payload : List UInt8}
    (allowed : channel.checkPublish payload = .ok ()) : channel.Takes payload := by
  rw [checkPublish_eq] at allowed
  by_cases fits : payload.length = channel.byteSize
  · rw [if_neg (not_not_intro fits)] at allowed
    cases publishable : channel.direction.canPublish with
    | false =>
        rw [if_pos publishable] at allowed
        cases allowed
    | true =>
        rw [if_neg (by rw [publishable]; decide)] at allowed
        cases connected : channel.state.isConnected with
        | false =>
            rw [if_pos connected] at allowed
            cases allowed
        | true => exact ⟨fits, publishable, connected⟩
  · rw [if_pos fits] at allowed
    cases allowed

theorem not_takes_of_checkPublish {channel : Channel} {payload : List UInt8} {error : Error}
    (refused : channel.checkPublish payload = .error error) :
    error.kind ≠ .transportAborted ∧ ¬ channel.Takes payload := by
  refine ⟨?_, ?_⟩
  · rw [checkPublish_eq] at refused
    intro aborted
    repeat' split at refused
    all_goals
      cases refused
      try cases aborted
  · intro takes
    rw [checkPublish_eq, if_neg (not_not_intro takes.fits),
      if_neg (by rw [takes.publishable]; decide),
      if_neg (by rw [takes.connected]; decide)] at refused
    cases refused

theorem recordPublished_eq {channel : Channel} {payload : List UInt8}
    (fits : payload.length = channel.byteSize) :
    channel.recordPublished payload = .ok (channel.sentOn payload) := by
  have checked : channel.value.check payload = .ok () := if_pos fits
  simp [recordPublished, Dataset.set, checked, Except.map, sentOn]

/-! ## Receiving -/

/-- What becomes of a value that comes in: the channel after it and the answer. -/
inductive Receiving (channel : Channel) (payload : List UInt8) (sent now : Nettime) :
    Channel → Except Error Reception → Prop where
  | unwanted {error : Error} (deaf : channel.direction.canSubscribe = false) :
      Receiving channel payload sent now channel (.error error)
  | misfit {fault : Fault} {error : Error} (wanted : channel.direction.canSubscribe = true)
      (misfits : payload.length ≠ channel.byteSize) :
      Receiving channel payload sent now { channel with lastError := some fault } (.error error)
  | replaced (wanted : channel.direction.canSubscribe = true)
      (fits : payload.length = channel.byteSize) (single : channel.buffer = none) :
      Receiving channel payload sent now
        { channel with
          value := ⟨payload⟩
          nettime := sent
          updated := true
          latency := channel.latency.record (travelTime sent now) }
        (.ok (.accepted (travelTime sent now)))
  | queued {ring : Ring Sample} (wanted : channel.direction.canSubscribe = true)
      (fits : payload.length = channel.byteSize) (buffered : channel.buffer = some ring)
      (room : ring.isFull = false) :
      Receiving channel payload sent now
        { channel with
          buffer := some (ring.pushed ⟨payload, sent⟩)
          latency := channel.latency.record (travelTime sent now) }
        (.ok (.accepted (travelTime sent now)))
  | overflowed {ring : Ring Sample} (wanted : channel.direction.canSubscribe = true)
      (fits : payload.length = channel.byteSize) (buffered : channel.buffer = some ring)
      (full : ring.isFull = true) :
      Receiving channel payload sent now
        { channel with buffer := some { ring with overflows := ring.overflows + 1 } }
        (.ok (.overflowed (ring.overflows + 1)))

theorem store_cases {channel : Channel} {payload : List UInt8} (sent now : Nettime)
    (wanted : channel.direction.canSubscribe = true)
    (fits : payload.length = channel.byteSize) :
    Receiving channel payload sent now (channel.store payload sent (travelTime sent now)).1
      (.ok (channel.store payload sent (travelTime sent now)).2) := by
  cases buffered : channel.buffer with
  | none =>
      have stored : Receiving channel payload sent now _ _ := .replaced wanted fits buffered
      simpa only [store, buffered] using stored
  | some ring =>
      cases full : ring.isFull with
      | true =>
          have stored : Receiving channel payload sent now _ _ :=
            .overflowed wanted fits buffered full
          simpa only [store, buffered, Ring.push, full, ↓reduceIte] using stored
      | false =>
          have stored : Receiving channel payload sent now _ _ :=
            .queued wanted fits buffered full
          simpa only [store, buffered, Ring.push, Ring.pushed, full, Bool.false_eq_true,
            ↓reduceIte] using stored

theorem receive_deaf {channel : Channel} (deaf : channel.direction.canSubscribe = false)
    (payload : List UInt8) (sent now : Nettime) :
    channel.receive payload sent now =
      (channel, .error (.notAllowed s!"channel '{channel.name}' is publish-only")) := by
  simp [receive, deaf]

theorem receive_misfit {channel : Channel} {payload : List UInt8}
    (wanted : channel.direction.canSubscribe = true)
    (misfits : payload.length ≠ channel.byteSize) (sent now : Nettime) :
    channel.receive payload sent now =
      ({ channel with
          lastError := some ⟨.badDatasetSize,
            (Error.badDatasetSize channel.byteSize payload.length).message⟩ },
        .error (.badDatasetSize channel.byteSize payload.length)) := by
  have refused : channel.value.check payload =
      .error (.badDatasetSize channel.byteSize payload.length) := if_neg misfits
  simp [receive, wanted, refused]

theorem receive_fitting {channel : Channel} {payload : List UInt8}
    (wanted : channel.direction.canSubscribe = true)
    (fits : payload.length = channel.byteSize) (sent now : Nettime) :
    channel.receive payload sent now =
      ((channel.store payload sent (travelTime sent now)).1,
        .ok (channel.store payload sent (travelTime sent now)).2) := by
  have taken : channel.value.check payload = .ok () := if_pos fits
  simp [receive, wanted, taken]

theorem receive_cases (channel : Channel) (payload : List UInt8) (sent now : Nettime) :
    Receiving channel payload sent now (channel.receive payload sent now).1
      (channel.receive payload sent now).2 := by
  cases wanted : channel.direction.canSubscribe with
  | false =>
      rw [receive_deaf wanted]
      exact .unwanted wanted
  | true =>
      by_cases fits : payload.length = channel.byteSize
      · rw [receive_fitting wanted fits]
        exact store_cases sent now wanted fits
      · rw [receive_misfit wanted fits]
        exact .misfit wanted fits

/-! ## Taking samples out -/

def afterPop (channel : Channel) (destination : Sample) : Channel :=
  { channel with buffer := channel.buffer.map fun ring => (ring.popInto destination).1 }

theorem popInto_fst (channel : Channel) (destination : Sample) :
    (channel.popInto destination).1 = channel.afterPop destination := by
  unfold afterPop popInto
  cases buffered : channel.buffer with
  | none =>
      dsimp only [Option.map_none]
      rw [← buffered]
  | some ring => rfl

/-- An exchange that is refused leaves the channel and the destination as they were. -/
theorem popInto_refused {channel : Channel} {destination : Sample} {error : Error}
    (refused : (channel.popInto destination).2.2 = .error error) :
    channel.popInto destination = (channel, destination, .error error) ∧
      error.kind ≠ .transportAborted := by
  unfold popInto Ring.popInto at refused ⊢
  cases buffered : channel.buffer with
  | none =>
      simp only [buffered] at refused ⊢
      cases refused
      exact ⟨rfl, nofun⟩
  | some ring =>
      simp only [buffered] at refused ⊢
      cases oldest : ring.peek with
      | none =>
          simp only [oldest] at refused ⊢
          cases refused
          exact ⟨by rw [← buffered], nofun⟩
      | some sample =>
          simp only [oldest] at refused
          cases refused

theorem pop_fst (channel : Channel) : channel.pop.1 = channel.afterPop default :=
  channel.popInto_fst default

theorem pop_refused {channel : Channel} {error : Error} (refused : channel.pop.2 = .error error) :
    channel.pop = (channel, .error error) := by
  have exchanged : (channel.popInto default).2.2 = .error error := error_of_map refused
  rw [pop, (popInto_refused exchanged).1]
  rfl

end Channel

end DatasetSync
