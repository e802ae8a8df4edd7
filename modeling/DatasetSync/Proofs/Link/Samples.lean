import DatasetSync.Proofs.Link.History
import DatasetSync.Transport.Simulator
import Mathlib.Data.List.DropRight

/-!
# Samples of buffered channels

Every sample that a buffered channel takes in comes out once, in order and unchanged, as long as no
new session begins.  What comes in and goes out is read off the history of the link; the account of
a channel is kept moment by moment.
-/

namespace DatasetSync

/-- A value that comes in leaves a channel the ring it has, or the lack of one. -/
theorem Channel.Receiving.isBuffered_eq {channel after : Channel} {payload : List UInt8}
    {sent now : Nettime} {answer : Except Error Reception}
    (received : Receiving channel payload sent now after answer) :
    after.isBuffered = channel.isBuffered := by
  cases received with
  | unwanted deaf => rfl
  | misfit wanted misfits => rfl
  | replaced wanted fits bare => rfl
  | queued wanted fits buffered room => rw [isBuffered, isBuffered, buffered]; rfl
  | overflowed wanted fits buffered full => rw [isBuffered, isBuffered, buffered]; rfl

theorem Channel.onEvent_isBuffered (channel : Channel) (id : ChannelId) (link : ConnectionState)
    (now : Nettime) (event : InboundEvent) :
    (channel.onEvent id link now event).isBuffered = channel.isBuffered := by
  rcases channel.onEvent_cases id link now event with
    ⟨_, _, _, _, moved⟩ | ⟨_, _, _, received⟩
  · rw [moved]
    rfl
  · exact received.isBuffered_eq

theorem Channel.isBuffered_eq_false {channel : Channel} :
    channel.isBuffered = false ↔ channel.buffer = none := by
  rw [isBuffered, Option.isSome_eq_false_iff, Option.isNone_iff_eq_none]

namespace Link

variable {T : Type}

/-! ## Comings and goings -/

/-- The sample that arrives on channel `id`: an update of `size` bytes while data may flow. -/
def Moment.offered? (id : ChannelId) (size : Nat) (moment : Moment T) : Option Sample :=
  match moment.step, moment.before.channels[id]? with
  | .dispatch (.channelUpdated target payload sent), some channel =>
      if target = id ∧ payload.length = size ∧ channel.state.isConnected = true then
        some ⟨payload, sent⟩
      else none
  | _, _ => none

def Moment.waiting (id : ChannelId) (moment : Moment T) : Nat :=
  moment.before.channels[id]?.elim 0 Channel.pending

/-- The sample that arrives on channel `id` while fewer than `capacity - 1` wait. -/
def Moment.accepted? (id : ChannelId) (size capacity : Nat) (moment : Moment T) : Option Sample :=
  if moment.waiting id < capacity - 1 then moment.offered? id size else none

/-- The sample that arrives on channel `id` while `capacity - 1` wait. -/
def Moment.overflowed? (id : ChannelId) (size capacity : Nat) (moment : Moment T) :
    Option Sample :=
  if moment.waiting id = capacity - 1 then moment.offered? id size else none

def Moment.taken? (id : ChannelId) (moment : Moment T) : Option Sample :=
  match moment.step with
  | .popInto target destination =>
      let (_, sample, answer) := moment.before.popInto id destination
      if target = id then answer.toOption.map fun _ => sample else none
  | _ => none

/-- A new session is asked for, and the link is in a state to ask for it. -/
def Moment.connects (moment : Moment T) : Bool :=
  match moment.step with
  | .connect => decide moment.before.MayConnect
  | _ => false

def sinceConnect (past : List (Moment T)) : List (Moment T) :=
  past.rtakeWhile fun moment => !moment.connects

theorem Moment.offered?_eq_none {moment : Moment T} {id : ChannelId}
    (silent : ∀ payload sent, moment.step ≠ .dispatch (.channelUpdated id payload sent))
    (size : Nat) : moment.offered? id size = none := by
  unfold offered?
  split
  · rename_i target payload sent channel step there
    refine if_neg fun offered => ?_
    rw [offered.1] at step
    exact silent payload sent step
  · rfl

theorem Moment.offered?_missing {moment : Moment T} {id : ChannelId}
    (missing : moment.before.channels[id]? = none) (size : Nat) :
    moment.offered? id size = none := by
  simp [offered?, missing]

theorem Moment.accepted?_eq_none {moment : Moment T} {id : ChannelId} {size : Nat}
    (nothing : moment.offered? id size = none) (capacity : Nat) :
    moment.accepted? id size capacity = none := by
  rw [accepted?, nothing, ite_self]

theorem Moment.overflowed?_eq_none {moment : Moment T} {id : ChannelId} {size : Nat}
    (nothing : moment.offered? id size = none) (capacity : Nat) :
    moment.overflowed? id size capacity = none := by
  rw [overflowed?, nothing, ite_self]

theorem Moment.taken?_missing {moment : Moment T} {id : ChannelId}
    (missing : moment.before.channels[id]? = none) : moment.taken? id = none := by
  unfold taken?
  split
  · simp [popInto, Link.channel, missing, Except.toOption]
  · rfl

/-! ## One moment -/

/-- What a moment does to the ring of a channel and to its account. -/
structure Moment.Shifts (moment : Moment T) (id : ChannelId) (channel : Channel)
    (ring : Ring Sample) (after : Channel) (next : Ring Sample) : Prop where
  buffer : after.buffer = some next
  byteSize : after.byteSize = channel.byteSize
  direction : after.direction = channel.direction
  wellFormed : next.WellFormed
  capacity : next.capacity = ring.capacity
  cleared : moment.connects = true → next.toList = []
  order : moment.connects = false → (moment.taken? id).toList ++ next.toList =
    ring.toList ++ (moment.accepted? id channel.byteSize ring.capacity).toList
  overflows : next.overflows =
    ring.overflows + (moment.overflowed? id channel.byteSize ring.capacity).toList.length
  updates : after.latency.updates = channel.latency.updates +
    (moment.accepted? id channel.byteSize ring.capacity).toList.length

namespace Moment.Shifts

variable {moment : Moment T} {id : ChannelId} {channel after : Channel} {ring : Ring Sample}

/-- Where nothing comes and nothing goes, the account stays. -/
theorem quiet (buffered : channel.buffer = some ring) (wellFormed : ring.WellFormed)
    (buffer : after.buffer = channel.buffer) (byteSize : after.byteSize = channel.byteSize)
    (direction : after.direction = channel.direction) (latency : after.latency = channel.latency)
    (nothing : moment.offered? id channel.byteSize = none) (kept : moment.taken? id = none)
    (goesOn : moment.connects = false) : moment.Shifts id channel ring after ring := by
  have accepted := accepted?_eq_none nothing ring.capacity
  have overflowed := overflowed?_eq_none nothing ring.capacity
  refine ⟨buffer.trans buffered, byteSize, direction, wellFormed, rfl, ?_, ?_, ?_, ?_⟩
  · rw [goesOn]
    intro impossible
    cases impossible
  · rw [kept, accepted]
    simp
  · rw [overflowed]
    rfl
  · rw [latency, accepted]
    rfl

/-- A value that comes in waits at the end of the ring, or overflows it. -/
theorem received {payload : List UInt8} {sent now : Nettime} {answer : Except Error Reception}
    (step : moment.step = .dispatch (.channelUpdated id payload sent))
    (found : moment.before.channels[id]? = some channel) (buffered : channel.buffer = some ring)
    (wellFormed : ring.WellFormed) (wanted : channel.direction.canSubscribe = true)
    (connected : channel.state.isConnected = true)
    (outcome : Channel.Receiving channel payload sent now after answer) :
    ∃ next, moment.Shifts id channel ring after next := by
  have kept : moment.taken? id = none := by
    rw [taken?, step]
  have goesOn : moment.connects = false := by
    rw [connects, step]
  have waiting : moment.waiting id = ring.pending := by
    simp [Moment.waiting, found, Channel.pending, buffered]
  have never : moment.connects = true → ∀ next : Ring Sample, next.toList = [] := by
    rw [goesOn]
    intro impossible
    cases impossible
  cases outcome with
  | unwanted deaf =>
      rw [wanted] at deaf
      cases deaf
  | misfit _ misfits =>
      refine ⟨ring, quiet buffered wellFormed rfl rfl rfl rfl ?_ kept goesOn⟩
      simp [offered?, step, found, misfits]
  | replaced _ fits single =>
      rw [buffered] at single
      cases single
  | queued _ fits there room =>
      cases buffered.symm.trans there
      have few : ring.pending < ring.capacity - 1 := by
        refine Nat.lt_of_le_of_ne (Nat.le_sub_one_of_lt wellFormed.pending_lt) fun most => ?_
        rw [wellFormed.isFull_iff.mpr most] at room
        cases room
      have accepted : moment.accepted? id channel.byteSize ring.capacity =
          some ⟨payload, sent⟩ := by
        simp [accepted?, waiting, few, offered?, step, found, fits, connected]
      have overflowed : moment.overflowed? id channel.byteSize ring.capacity = none := by
        rw [overflowed?, waiting, if_neg few.ne]
      refine ⟨ring.pushed ⟨payload, sent⟩, rfl, rfl, rfl, wellFormed.pushed _,
        ring.capacity_pushed _, fun connects => never connects _, fun _ => ?_, ?_, ?_⟩
      · rw [kept, accepted, wellFormed.toList_pushed few.ne]
        rfl
      · rw [overflowed]
        rfl
      · rw [accepted]
        rfl
  | overflowed _ fits there full =>
      cases buffered.symm.trans there
      have most : ring.pending = ring.capacity - 1 := wellFormed.isFull_iff.mp full
      have accepted : moment.accepted? id channel.byteSize ring.capacity = none := by
        rw [accepted?, waiting, if_neg most.not_lt]
      have overflowed : moment.overflowed? id channel.byteSize ring.capacity =
          some ⟨payload, sent⟩ := by
        simp [overflowed?, waiting, most, offered?, step, found, fits, connected]
      refine ⟨_, rfl, rfl, rfl, ⟨wellFormed.room, wellFormed.head_lt, wellFormed.tail_lt⟩, rfl,
        fun connects => never connects _, fun _ => ?_, ?_, ?_⟩
      · rw [kept, accepted]
        exact (List.append_nil _).symm
      · rw [overflowed]
        rfl
      · rw [accepted]
        rfl

/-- A sample that is taken out is the one at the front of the ring. -/
theorem popped {destination : Sample} (step : moment.step = .popInto id destination)
    (found : moment.before.channels[id]? = some channel) (buffered : channel.buffer = some ring)
    (wellFormed : ring.WellFormed) :
    ∃ next, moment.Shifts id channel ring (channel.afterPop destination) next := by
  have nothing : moment.offered? id channel.byteSize = none :=
    offered?_eq_none (by rw [step]; simp) _
  have goesOn : moment.connects = false := by
    rw [connects, step]
  have answered := wellFormed.popInto_eq destination
  cases waiting : ring.toList with
  | nil =>
      rw [waiting] at answered
      have refused : channel.popInto destination = (channel, destination, .error .empty) := by
        simp [Channel.popInto, buffered, answered]
        rw [← buffered]
      have kept : moment.taken? id = none := by
        simp [taken?, step, Link.popInto, Link.channel, found, refused, Except.toOption]
      rw [← Channel.popInto_fst, refused]
      exact ⟨ring, quiet buffered wellFormed rfl rfl rfl rfl nothing kept goesOn⟩
  | cons record rest =>
      rw [waiting] at answered
      have granted : channel.popInto destination =
          ({ channel with buffer := some (ring.popped destination) }, record, .ok ()) := by
        simp [Channel.popInto, buffered, answered]
      have taken : moment.taken? id = some record := by
        simp [taken?, step, Link.popInto, Link.channel, found, granted, Except.toOption]
      rw [← Channel.popInto_fst, granted]
      refine ⟨ring.popped destination, rfl, rfl, rfl, wellFormed.popped destination,
        ring.capacity_popped destination, ?_, fun _ => ?_, ?_, ?_⟩
      · rw [goesOn]
        intro impossible
        cases impossible
      · rw [taken, accepted?_eq_none nothing, wellFormed.toList_popped_cons waiting, waiting]
        simp
      · rw [overflowed?_eq_none nothing]
        rfl
      · rw [accepted?_eq_none nothing]
        rfl

/-- A new session begins with an empty ring. -/
theorem prepared {link : Link T} (may : link.MayConnect) (buffered : channel.buffer = some ring)
    (wellFormed : ring.WellFormed) :
    (Moment.mk link .connect).Shifts id channel ring channel.prepare ring.clear := by
  have connects : (Moment.mk link .connect).connects = true := decide_eq_true may
  have nothing : (Moment.mk link .connect).offered? id channel.byteSize = none := rfl
  refine ⟨?_, rfl, rfl, wellFormed.clear, rfl, fun _ => ring.toList_clear, ?_, ?_, ?_⟩
  · simp [Channel.prepare, buffered]
  · rw [connects]
    intro impossible
    cases impossible
  · rw [overflowed?_eq_none nothing]
    rfl
  · rw [accepted?_eq_none nothing]
    rfl

section Steps

variable [Transport T]

/-- Every step keeps the account of a buffered channel. -/
theorem of_step {link : Link T} (step : Step T) (found : link.channels[id]? = some channel)
    (buffered : channel.buffer = some ring) (wellFormed : ring.WellFormed)
    (wanted : channel.direction.canSubscribe = true) :
    ∃ next, (Moment.mk link step).Shifts id channel ring (step.act link id channel) next := by
  cases step with
  | addChannel spec => exact ⟨ring, quiet buffered wellFormed rfl rfl rfl rfl rfl rfl rfl⟩
  | connect =>
      by_cases may : link.MayConnect
      · rw [Step.act, if_pos may]
        exact ⟨ring.clear, prepared may buffered wellFormed⟩
      · rw [Step.act, if_neg may]
        exact ⟨ring, quiet buffered wellFormed rfl rfl rfl rfl rfl rfl (decide_eq_false may)⟩
  | setOperational => exact ⟨ring, quiet buffered wellFormed rfl rfl rfl rfl rfl rfl rfl⟩
  | disconnect =>
      refine ⟨ring, ?_⟩
      rw [Step.act]
      split <;> exact quiet buffered wellFormed rfl rfl rfl rfl rfl rfl rfl
  | publish target payload =>
      refine ⟨ring, ?_⟩
      rw [Step.act]
      split
      · rename_i sent
        obtain ⟨rfl, granted⟩ := sent
        have takes := (publish_cases link target payload).takes granted found
        exact quiet buffered wellFormed rfl takes.fits rfl rfl rfl rfl rfl
      · exact quiet buffered wellFormed rfl rfl rfl rfl rfl rfl rfl
  | popInto target destination =>
      rw [Step.act]
      split
      · subst target
        exact popped rfl found buffered wellFormed
      · rename_i apart
        exact ⟨ring, quiet buffered wellFormed rfl rfl rfl rfl rfl (if_neg apart) rfl⟩
  | takeUpdated target =>
      refine ⟨ring, ?_⟩
      rw [Step.act]
      split <;> exact quiet buffered wellFormed rfl rfl rfl rfl rfl rfl rfl
  | dispatch event =>
      rcases event.silent_or_update id with silent | ⟨payload, sent, rfl⟩
      · have same := Channel.onEvent_sameData silent channel link.state link.nettime
        refine ⟨ring, quiet buffered wellFormed same.buffer same.byteSize same.direction
          same.latency (offered?_eq_none ?_ _) rfl rfl⟩
        intro payload sent step
        exact silent payload sent (Step.dispatch.inj step)
      · rw [Step.act, Channel.onEvent, if_pos rfl, Channel.onUpdate]
        split
        · rename_i connected
          exact received rfl found buffered wellFormed wanted connected
            (channel.receive_cases payload sent link.nettime)
        · rename_i apart
          refine ⟨ring, quiet buffered wellFormed rfl rfl rfl rfl ?_ rfl rfl⟩
          simp [offered?, found, apart]
  | meanwhile change => exact ⟨ring, quiet buffered wellFormed rfl rfl rfl rfl rfl rfl rfl⟩

end Steps

end Moment.Shifts

/-! ## Whole histories -/

/-- The account of a buffered channel agrees with what has happened to its link. -/
structure Accounts (past : List (Moment T)) (id : ChannelId) (channel : Channel)
    (ring : Ring Sample) : Prop where
  wanted : channel.direction.canSubscribe = true
  wellFormed : ring.WellFormed
  order : (sinceConnect past).filterMap (Moment.taken? id) ++ ring.toList =
    (sinceConnect past).filterMap (Moment.accepted? id channel.byteSize ring.capacity)
  overflows : ring.overflows =
    (past.filterMap (Moment.overflowed? id channel.byteSize ring.capacity)).length
  updates : channel.latency.updates =
    (past.filterMap (Moment.accepted? id channel.byteSize ring.capacity)).length

theorem sinceConnect_concat (past : List (Moment T)) (moment : Moment T) :
    sinceConnect (past ++ [moment]) =
      if moment.connects then [] else sinceConnect past ++ [moment] := by
  unfold sinceConnect
  rw [List.rtakeWhile_concat]
  cases moment.connects <;> rfl

theorem filterMap_concat {α β : Type} (choose : α → Option β) (items : List α) (last : α) :
    (items ++ [last]).filterMap choose = items.filterMap choose ++ (choose last).toList := by
  rw [List.filterMap_append]
  cases chosen : choose last <;> simp [chosen]

/-- One more moment is one more entry. -/
theorem Accounts.concat {past : List (Moment T)} {id : ChannelId} {channel after : Channel}
    {ring next : Ring Sample} {moment : Moment T} (accounts : Accounts past id channel ring)
    (shifts : moment.Shifts id channel ring after next) :
    Accounts (past ++ [moment]) id after next := by
  refine ⟨?_, shifts.wellFormed, ?_, ?_, ?_⟩
  · rw [shifts.direction]
    exact accounts.wanted
  · rw [shifts.byteSize, shifts.capacity, sinceConnect_concat]
    cases connects : moment.connects with
    | true => rw [if_pos rfl, shifts.cleared connects]; rfl
    | false =>
        rw [if_neg Bool.false_ne_true, filterMap_concat, filterMap_concat, List.append_assoc,
          shifts.order connects, ← List.append_assoc, accounts.order]
  · rw [shifts.byteSize, shifts.capacity, filterMap_concat, List.length_append,
      ← accounts.overflows]
    exact shifts.overflows
  · rw [shifts.byteSize, shifts.capacity, filterMap_concat, List.length_append, ← accounts.updates]
    exact shifts.updates

/-- A new channel has an empty account if nothing ever happened to its identifier. -/
theorem Accounts.of_made {past : List (Moment T)} {id : ChannelId} {spec : ChannelSpec}
    {channel : Channel} {ring : Ring Sample} (made : channel.Made id spec)
    (buffered : channel.buffer = some ring)
    (missing : ∀ moment ∈ past, moment.before.channels[id]? = none) :
    Accounts past id channel ring := by
  have origin := made.buffer_eq
  rw [buffered] at origin
  obtain ⟨capacity, _, new, wanted⟩ := origin
  obtain ⟨wellFormed, _, empty, unrefused⟩ := Ring.wellFormed_of_new new
  have nothing (moment : Moment T) (inside : moment ∈ past) :
      moment.offered? id channel.byteSize = none :=
    Moment.offered?_missing (missing moment inside) _
  have unaccepted : past.filterMap (Moment.accepted? id channel.byteSize ring.capacity) = [] :=
    List.filterMap_eq_nil_iff.mpr fun moment inside =>
      Moment.accepted?_eq_none (nothing moment inside) _
  have unoverflowed : past.filterMap (Moment.overflowed? id channel.byteSize ring.capacity) = [] :=
    List.filterMap_eq_nil_iff.mpr fun moment inside =>
      Moment.overflowed?_eq_none (nothing moment inside) _
  have since {moment : Moment T} (inside : moment ∈ sinceConnect past) : moment ∈ past :=
    (List.rtakeWhile_suffix _ _).subset inside
  refine ⟨wanted, wellFormed, ?_, ?_, ?_⟩
  · rw [empty, List.append_nil, List.filterMap_eq_nil_iff.mpr fun moment inside =>
      Moment.taken?_missing (missing moment (since inside)), eq_comm]
    exact List.filterMap_eq_nil_iff.mpr fun moment inside =>
      Moment.accepted?_eq_none (nothing moment (since inside)) _
  · rw [unrefused, unoverflowed]
    rfl
  · rw [made.latency_eq, unaccepted]
    rfl

section Runs

variable [Transport T]

/-- A channel keeps the ring it has, or the lack of one. -/
theorem Step.act_isBuffered (link : Link T) (step : Step T) (id : ChannelId) (channel : Channel) :
    (step.act link id channel).isBuffered = channel.isBuffered := by
  cases step with
  | addChannel spec => rfl
  | connect =>
      rw [Step.act]
      split
      · exact Option.isSome_map
      · rfl
  | setOperational => rfl
  | disconnect =>
      rw [Step.act]
      split <;> rfl
  | publish target payload =>
      rw [Step.act]
      split <;> rfl
  | popInto target destination =>
      rw [Step.act]
      split
      · exact Option.isSome_map
      · rfl
  | takeUpdated target =>
      rw [Step.act]
      split <;> rfl
  | dispatch event => exact channel.onEvent_isBuffered id link.state link.nettime event
  | meanwhile change => rfl

theorem Step.act_unbuffered (link : Link T) (step : Step T) (id : ChannelId) (channel : Channel) :
    (step.act link id channel).buffer = none ↔ channel.buffer = none := by
  rw [← Channel.isBuffered_eq_false, act_isBuffered, Channel.isBuffered_eq_false]

/-- Channels stay: one that is missing was never there. -/
theorem Reaches.missing {start link : Link T} {past : List (Moment T)} {id : ChannelId}
    (reached : Reaches start past link) (absent : link.channels[id]? = none) :
    ∀ moment ∈ past, moment.before.channels[id]? = none := by
  induction reached with
  | refl => exact fun _ inside => (List.not_mem_nil inside).elim
  | @tail past link before step ih =>
      have earlier : link.channels[id]? = none := by
        rcases run_channels link step id with kept | ⟨_, _, _, _, _, _, there⟩
        · rw [kept] at absent
          exact Option.map_eq_none_iff.mp absent
        · rw [there] at absent
          cases absent
      exact List.forall_mem_append.mpr ⟨ih earlier, List.forall_mem_singleton.mpr earlier⟩

/-- A channel that is added now was never there before. -/
theorem Reaches.missing_added {start link : Link T} {past : List (Moment T)} {id : ChannelId}
    (reached : Reaches start past link) (last : id = link.channels.length) (step : Step T) :
    ∀ moment ∈ past ++ [⟨link, step⟩], moment.before.channels[id]? = none := by
  have absent : link.channels[id]? = none := by
    rw [last]
    exact List.getElem?_eq_none (Nat.le_refl _)
  exact List.forall_mem_append.mpr
    ⟨reached.missing absent, List.forall_mem_singleton.mpr absent⟩

theorem Reaches.accounts {start link : Link T} {past : List (Moment T)} {id : ChannelId}
    {channel : Channel} {ring : Ring Sample} (bare : start.channels = [])
    (reached : Reaches start past link) (found : link.channels[id]? = some channel)
    (buffered : channel.buffer = some ring) : Accounts past id channel ring := by
  induction reached generalizing channel ring with
  | refl =>
      rw [bare] at found
      cases found
  | @tail past link before step ih =>
      rcases run_channels link step id with kept | ⟨spec, added, rfl, _, last, made, there⟩
      · rw [kept] at found
        obtain ⟨earlier, was, rfl⟩ := Option.map_eq_some_iff.mp found
        cases held : earlier.buffer with
        | none =>
            rw [(Step.act_unbuffered link step id earlier).mpr held] at buffered
            cases buffered
        | some old =>
            have accounts := ih was held
            obtain ⟨next, shifts⟩ :=
              Moment.Shifts.of_step step was held accounts.wellFormed accounts.wanted
            cases shifts.buffer.symm.trans buffered
            exact accounts.concat shifts
      · cases there.symm.trans found
        exact .of_made (Channel.made_of_new made) buffered (before.missing_added last _)

/-- Whatever happens to a link, the samples taken from a buffered channel since a session was last
asked for, followed by those that wait, are the ones that arrived since then and found room, in
order and unchanged; so none is left over from a session before.  Every sample that found no room
is counted for good, and so is every one that did. -/
theorem samples_come_out_once_in_order (instanceName : String) (aliasName : Option String)
    (transport : T) (operations : List (Operation T)) {id : ChannelId} {channel : Channel}
    {ring : Ring Sample}
    (found : ((fresh instanceName aliasName transport).run operations).channels[id]? = some channel)
    (buffered : channel.buffer = some ring) :
    let past := (fresh instanceName aliasName transport).history operations
    let accepted := Moment.accepted? id channel.byteSize ring.capacity
    let overflowed := Moment.overflowed? id channel.byteSize ring.capacity
    (sinceConnect past).filterMap (Moment.taken? id) ++ ring.toList =
        (sinceConnect past).filterMap accepted ∧
      (sinceConnect past).filterMap (Moment.taken? id) <+: (sinceConnect past).filterMap accepted ∧
      channel.overflows = (past.filterMap overflowed).length ∧
      channel.latency.updates = (past.filterMap accepted).length := by
  intro past accepted overflowed
  have accounts := (reaches_run (fresh instanceName aliasName transport) operations).accounts rfl
    found buffered
  refine ⟨accounts.order, ⟨ring.toList, accounts.order⟩, ?_, accounts.updates⟩
  rw [Channel.overflows, buffered]
  exact accounts.overflows

end Runs

/-- One sample of the first session is taken, one waits and one overflows; then a second session
begins, and what is taken from there on is its own. -/
def twoSessions : List (Operation Simulator) :=
  [.addChannel ⟨"samples", .subscribe, 1, some 3⟩, .connect,
    .dispatch (.linkStateChanged .connected none),
    .dispatch (.channelStateChanged 0 .connected none),
    .dispatch (.channelUpdated 0 [1] 10), .dispatch (.channelUpdated 0 [2] 20),
    .dispatch (.channelUpdated 0 [3] 30), .dispatch (.channelUpdated 0 [3, 3] 30),
    .popInto 0 ⟨[7, 7], 7⟩, .disconnect, .connect,
    .dispatch (.linkStateChanged .connected none),
    .dispatch (.channelStateChanged 0 .connected none),
    .dispatch (.channelUpdated 0 [4] 40), .dispatch (.channelUpdated 0 [5] 50),
    .popInto 0 ⟨[8], 8⟩].map .single

theorem second_session_yields_its_own_samples :
    let start := fresh "link" none ({} : Simulator)
    ∃ channel ring, (start.run twoSessions).channels[0]? = some channel ∧
      channel.buffer = some ring ∧
      (sinceConnect (start.history twoSessions)).filterMap (Moment.taken? 0) ++ ring.toList =
        [⟨[4], 40⟩, ⟨[5], 50⟩] ∧
      channel.overflows = 1 ∧ channel.latency.updates = 4 := by
  intro start
  have held : ((start.run twoSessions).channels[0]?.bind fun channel =>
      channel.buffer.map fun ring => (channel.byteSize, ring.capacity)) = some (1, 3) := by
    decide +kernel
  obtain ⟨channel, found, sized⟩ := Option.bind_eq_some_iff.mp held
  obtain ⟨ring, buffered, sizes⟩ := Option.map_eq_some_iff.mp sized
  obtain ⟨byteSize, capacity⟩ := Prod.mk.inj sizes
  obtain ⟨order, _, overflows, updates⟩ :=
    samples_come_out_once_in_order "link" none ({} : Simulator) twoSessions found buffered
  rw [byteSize, capacity] at order overflows updates
  exact ⟨channel, ring, found, buffered, order.trans (by decide +kernel),
    overflows.trans (by decide +kernel), updates.trans (by decide +kernel)⟩

end Link

end DatasetSync
