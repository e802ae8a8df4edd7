import DatasetSync.Proofs.Link.Table

/-!
# The value of a channel without a ring

A channel without a ring has room for one value, which is shared by what is sent and what comes in:
it holds the latest exchange of either kind.  The time, the flag and the count belong to what came
in alone.  What was exchanged is read off the history of the link.
-/

namespace DatasetSync

/-! ## One update -/

namespace Channel

/-- A channel takes a payload in: it fits, the direction allows it and data may flow. -/
structure Hears (channel : Channel) (payload : List UInt8) : Prop where
  fits : payload.length = channel.byteSize
  wanted : channel.direction.canSubscribe = true
  connected : channel.state.isConnected = true

theorem hears_iff {channel : Channel} {payload : List UInt8} :
    channel.Hears payload ↔ payload.length = channel.byteSize ∧
      channel.direction.canSubscribe = true ∧ channel.state.isConnected = true := by
  constructor
  · rintro ⟨fits, wanted, connected⟩
    exact ⟨fits, wanted, connected⟩
  · rintro ⟨fits, wanted, connected⟩
    exact ⟨fits, wanted, connected⟩

instance (channel : Channel) (payload : List UInt8) : Decidable (channel.Hears payload) :=
  decidable_of_iff' _ hears_iff

/-- A payload that is heard takes the place of the value. -/
theorem onUpdate_heard {channel : Channel} {payload : List UInt8} (single : channel.buffer = none)
    (hears : channel.Hears payload) (sent now : Nettime) :
    channel.onUpdate payload sent now =
      { channel with
        value := ⟨payload⟩
        nettime := sent
        updated := true
        latency := channel.latency.record (travelTime sent now) } := by
  rw [onUpdate, if_pos hears.connected, receive_fitting hears.wanted hears.fits]
  simp [store, single]

/-- A payload that does not fit is remembered as a fault, and nothing else is. -/
theorem onUpdate_misfit {channel : Channel} {payload : List UInt8}
    (misfits : payload.length ≠ channel.byteSize) (wanted : channel.direction.canSubscribe = true)
    (connected : channel.state.isConnected = true) (sent now : Nettime) :
    channel.onUpdate payload sent now =
      { channel with
        lastError := some ⟨.badDatasetSize,
          (Error.badDatasetSize channel.byteSize payload.length).message⟩ } := by
  rw [onUpdate, if_pos connected, receive_misfit wanted misfits]

/-- A channel that takes nothing in is left alone. -/
theorem onUpdate_deaf {channel : Channel}
    (deaf : channel.state.isConnected = false ∨ channel.direction.canSubscribe = false)
    (payload : List UInt8) (sent now : Nettime) :
    channel.onUpdate payload sent now = channel := by
  unfold onUpdate
  split
  · rename_i connected
    have unwanted : channel.direction.canSubscribe = false :=
      deaf.resolve_left (Bool.not_eq_false _ ▸ connected)
    rw [receive_deaf unwanted]
  · rfl

/-- A payload that is not heard changes the last fault at most. -/
theorem onUpdate_unheard {channel : Channel} {payload : List UInt8}
    (unheard : ¬ channel.Hears payload) (sent now : Nettime) :
    ∃ lastError, channel.onUpdate payload sent now = { channel with lastError } := by
  by_cases deaf : channel.state.isConnected = false ∨ channel.direction.canSubscribe = false
  · exact ⟨_, onUpdate_deaf deaf payload sent now⟩
  · simp only [not_or, Bool.not_eq_false] at deaf
    obtain ⟨connected, wanted⟩ := deaf
    exact ⟨_, onUpdate_misfit (fun fits => unheard ⟨fits, wanted, connected⟩) wanted connected
      sent now⟩

end Channel

namespace Link

variable {T : Type}

/-- An update changes the channel it is for, and nothing else. -/
theorem dispatch_update [Transport T] {link : Link T} {id : ChannelId} {channel : Channel}
    (found : link.channels[id]? = some channel) (payload : List UInt8) (sent : Nettime) :
    (link.dispatch (.channelUpdated id payload sent)).value.1 =
      link.setChannel id (channel.onUpdate payload sent link.nettime) := by
  rw [← (receive_value found payload sent).1]
  simp [dispatch, onChannel, found]

/-! ## Exchanges -/

/-- The update that channel `id` takes in. -/
def Moment.arrival? (id : ChannelId) (moment : Moment T) : Option Sample :=
  match moment.step, moment.before.channels[id]? with
  | .dispatch (.channelUpdated target payload sent), some channel =>
      if target = id ∧ channel.Hears payload then some ⟨payload, sent⟩ else none
  | _, _ => none

def Moment.published? [Transport T] (id : ChannelId) (moment : Moment T) : Option (List UInt8) :=
  match moment.step with
  | .publish target payload =>
      if target = id ∧ (moment.before.publish target payload).value.2.isOk = true then some payload
      else none
  | _ => none

def Moment.exchanged? [Transport T] (id : ChannelId) (moment : Moment T) : Option (List UInt8) :=
  moment.published? id <|> (moment.arrival? id).map Sample.bytes

def Moment.looks (id : ChannelId) (moment : Moment T) : Bool :=
  match moment.step with
  | .takeUpdated target => target == id
  | _ => false

/-- What happened since the owner last looked for an update of channel `id` or asked for a new
session. -/
def sinceLooked (id : ChannelId) (past : List (Moment T)) : List (Moment T) :=
  past.rtakeWhile fun moment => !(moment.connects || moment.looks id)

theorem sinceLooked_concat (id : ChannelId) (past : List (Moment T)) (moment : Moment T) :
    sinceLooked id (past ++ [moment]) =
      if (moment.connects || moment.looks id) = true then []
      else sinceLooked id past ++ [moment] := by
  unfold sinceLooked
  rw [List.rtakeWhile_concat]
  cases moment.connects || moment.looks id <;> rfl

theorem Moment.arrival?_eq_none {moment : Moment T} {id : ChannelId}
    (silent : ∀ payload sent, moment.step ≠ .dispatch (.channelUpdated id payload sent)) :
    moment.arrival? id = none := by
  unfold arrival?
  split
  · rename_i target payload sent channel step there
    refine if_neg ?_
    rintro ⟨rfl, _⟩
    exact silent payload sent step
  · rfl

theorem Moment.arrival?_missing {moment : Moment T} {id : ChannelId}
    (missing : moment.before.channels[id]? = none) : moment.arrival? id = none := by
  simp [arrival?, missing]

section Steps

variable [Transport T]

/-- What was sent was sent on a channel of the link. -/
theorem Publishing.found {link after : Link T} {id : ChannelId} {payload : List UInt8}
    {answer : Except Error Unit} {calls : List Call}
    (outcome : Publishing link id payload after answer calls) (granted : answer.isOk = true) :
    ∃ channel, link.channels[id]? = some channel := by
  cases outcome with
  | refused harmless waits => cases granted
  | failed found takes opened connected answer => cases granted
  | sent found takes opened connected answer => exact ⟨_, found⟩

theorem Moment.published?_missing {moment : Moment T} {id : ChannelId}
    (missing : moment.before.channels[id]? = none) : moment.published? id = none := by
  unfold published?
  split
  · rename_i target payload step
    refine if_neg ?_
    rintro ⟨rfl, granted⟩
    obtain ⟨channel, found⟩ := (publish_cases moment.before target payload).found granted
    rw [found] at missing
    cases missing
  · rfl

/-! ## One moment -/

/-- What a moment does to a channel with one slot. -/
structure Moment.Exchanges (moment : Moment T) (id : ChannelId) (channel after : Channel) :
    Prop where
  single : after.buffer = none
  byteSize : after.byteSize = channel.byteSize
  value : after.value.bytes = (moment.exchanged? id).getD channel.value.bytes
  nettime : after.nettime = ((moment.arrival? id).map Sample.nettime).getD channel.nettime
  updated : after.updated = ((moment.arrival? id).isSome ||
    channel.updated && !(moment.connects || moment.looks id))
  updates : after.latency.updates =
    channel.latency.updates + (moment.arrival? id).toList.length

namespace Moment.Exchanges

variable {moment : Moment T} {id : ChannelId} {channel after : Channel}

/-- Where nothing is exchanged, only the flag may change. -/
theorem quiet (single : after.buffer = none) (value : after.value = channel.value)
    (nettime : after.nettime = channel.nettime) (latency : after.latency = channel.latency)
    (updated : after.updated = (channel.updated && !(moment.connects || moment.looks id)))
    (unsent : moment.published? id = none) (nothing : moment.arrival? id = none) :
    moment.Exchanges id channel after := by
  refine ⟨single, congrArg Dataset.size value, ?_, ?_, ?_, ?_⟩
  · rw [value, exchanged?, unsent, nothing]
    rfl
  · rw [nettime, nothing]
    rfl
  · rw [updated, nothing]
    rfl
  · rw [latency, nothing]
    rfl

/-- Where nothing happens to a channel, nothing is exchanged on it. -/
theorem idle (single : channel.buffer = none) (unsent : moment.published? id = none)
    (nothing : moment.arrival? id = none) (goesOn : moment.connects = false)
    (unseen : moment.looks id = false) : moment.Exchanges id channel channel := by
  refine quiet single rfl rfl rfl ?_ unsent nothing
  simp [goesOn, unseen]

/-- A payload that is sent takes the place of the value. -/
theorem sent {link : Link T} {payload : List UInt8} (single : channel.buffer = none)
    (takes : channel.Takes payload)
    (granted : (link.publish id payload).value.2.isOk = true) :
    (Moment.mk link (.publish id payload)).Exchanges id channel (channel.sentOn payload) := by
  have sends : (Moment.mk link (.publish id payload)).published? id = some payload :=
    if_pos ⟨rfl, granted⟩
  refine ⟨single, takes.fits, ?_, rfl, ?_, rfl⟩
  · rw [exchanged?, sends]
    rfl
  · exact (Bool.and_true _).symm

/-- An update takes the place of the value if it is heard. -/
theorem updated_by {link : Link T} {payload : List UInt8} {sent : Nettime}
    (found : link.channels[id]? = some channel) (single : channel.buffer = none) :
    (Moment.mk link (.dispatch (.channelUpdated id payload sent))).Exchanges id channel
      (channel.onUpdate payload sent link.nettime) := by
  by_cases hears : channel.Hears payload
  · have arrives : (Moment.mk link (.dispatch (.channelUpdated id payload sent))).arrival? id =
        some ⟨payload, sent⟩ := by
      simp [arrival?, found, hears]
    rw [Channel.onUpdate_heard single hears]
    refine ⟨single, hears.fits, ?_, ?_, ?_, ?_⟩
    · rw [exchanged?, arrives]
      rfl
    · rw [arrives]
      rfl
    · rw [arrives]
      rfl
    · rw [arrives]
      rfl
  · have nothing : (Moment.mk link (.dispatch (.channelUpdated id payload sent))).arrival? id =
        none := by
      simp [arrival?, found, hears]
    obtain ⟨lastError, same⟩ := Channel.onUpdate_unheard hears sent link.nettime
    rw [same]
    exact quiet single rfl rfl rfl (Bool.and_true _).symm rfl nothing

/-- Every step exchanges on a channel with one slot what its moment says. -/
theorem of_step {link : Link T} (step : Step T) (found : link.channels[id]? = some channel)
    (single : channel.buffer = none) :
    (Moment.mk link step).Exchanges id channel (step.act link id channel) := by
  cases step with
  | addChannel spec => exact idle single rfl rfl rfl rfl
  | connect =>
      rw [Step.act]
      split
      · rename_i may
        have connects : (Moment.mk link .connect).connects = true := decide_eq_true may
        refine quiet ?_ rfl rfl rfl ?_ rfl rfl
        · rw [Channel.prepare, single, Option.map_none]
        · simp [Channel.prepare, connects]
      · rename_i shut
        exact idle single rfl rfl (decide_eq_false shut) rfl
  | setOperational => exact idle single rfl rfl rfl rfl
  | disconnect =>
      rw [Step.act]
      split
      · exact quiet single rfl rfl rfl (Bool.and_true _).symm rfl rfl
      · exact idle single rfl rfl rfl rfl
  | publish target payload =>
      rw [Step.act]
      split
      · rename_i granted
        obtain ⟨rfl, granted⟩ := granted
        exact sent single ((publish_cases link target payload).takes granted found) granted
      · rename_i refused
        exact idle single (if_neg refused) rfl rfl rfl
  | popInto target destination =>
      rw [Step.act]
      split
      · refine quiet ?_ rfl rfl rfl (Bool.and_true _).symm rfl rfl
        rw [Channel.afterPop, single, Option.map_none]
      · exact idle single rfl rfl rfl rfl
  | takeUpdated target =>
      rw [Step.act]
      split
      · rename_i same
        subst same
        refine quiet single rfl rfl rfl ?_ rfl rfl
        simp [connects, looks]
      · rename_i apart
        exact idle single rfl rfl rfl (beq_false_of_ne apart)
  | dispatch event =>
      rcases event.silent_or_update id with silent | ⟨payload, sent, rfl⟩
      · obtain ⟨state, lastError, sendBuffer, delivered, moved⟩ :=
          Channel.onEvent_moves silent channel link.state link.nettime
        rw [Step.act, moved]
        refine quiet single rfl rfl rfl (Bool.and_true _).symm rfl (arrival?_eq_none ?_)
        intro payload sent step
        exact silent payload sent (Step.dispatch.inj step)
      · rw [Step.act, Channel.onEvent, if_pos rfl]
        exact updated_by found single
  | meanwhile change => exact idle single rfl rfl rfl rfl

end Moment.Exchanges

/-! ## Whole histories -/

/-- A channel with one slot holds what was exchanged on it since it was `first`. -/
structure Latest (past : List (Moment T)) (id : ChannelId) (first channel : Channel) : Prop where
  single : channel.buffer = none
  byteSize : channel.byteSize = first.byteSize
  value : channel.value.bytes =
    (past.filterMap (Moment.exchanged? id)).getLast?.getD first.value.bytes
  nettime : channel.nettime =
    ((past.filterMap (Moment.arrival? id)).getLast?.map Sample.nettime).getD first.nettime
  updated : channel.updated = true ↔
    (sinceLooked id past).filterMap (Moment.arrival? id) ≠ []
  updates : channel.latency.updates =
    first.latency.updates + (past.filterMap (Moment.arrival? id)).length

/-- The last of a list that has grown by one entry or by none. -/
theorem getLast?_append_toList {α : Type} (items : List α) (last : Option α) :
    (items ++ last.toList).getLast? = (last <|> items.getLast?) := by
  cases last <;> simp

namespace Latest

variable {past : List (Moment T)} {id : ChannelId} {first channel after : Channel}
  {moment : Moment T}

/-- Nothing was exchanged where nothing ever happened. -/
theorem of_missing (single : first.buffer = none) (unseen : first.updated = false)
    (missing : ∀ moment ∈ past, moment.before.channels[id]? = none) :
    Latest past id first first := by
  have unsent : past.filterMap (Moment.exchanged? id) = [] := by
    refine List.filterMap_eq_nil_iff.mpr fun moment inside => ?_
    rw [Moment.exchanged?, Moment.published?_missing (missing moment inside),
      Moment.arrival?_missing (missing moment inside)]
    rfl
  have nothing : past.filterMap (Moment.arrival? id) = [] :=
    List.filterMap_eq_nil_iff.mpr fun moment inside =>
      Moment.arrival?_missing (missing moment inside)
  have since : (sinceLooked id past).filterMap (Moment.arrival? id) = [] :=
    List.filterMap_eq_nil_iff.mpr fun moment inside =>
      Moment.arrival?_missing (missing moment ((List.rtakeWhile_suffix _ _).subset inside))
  refine ⟨single, rfl, ?_, ?_, ?_, ?_⟩
  · rw [unsent]
    rfl
  · rw [nothing]
    rfl
  · simp [unseen, since]
  · rw [nothing]
    rfl

/-- One more moment is one more exchange, or none. -/
theorem concat (latest : Latest past id first channel)
    (exchanges : moment.Exchanges id channel after) :
    Latest (past ++ [moment]) id first after := by
  refine ⟨exchanges.single, exchanges.byteSize.trans latest.byteSize, ?_, ?_, ?_, ?_⟩
  · rw [exchanges.value, latest.value, filterMap_concat, getLast?_append_toList]
    cases moment.exchanged? id <;> rfl
  · rw [exchanges.nettime, latest.nettime, filterMap_concat, getLast?_append_toList]
    cases moment.arrival? id <;> rfl
  · rw [exchanges.updated, sinceLooked_concat]
    cases clears : moment.connects || moment.looks id with
    | true =>
        -- Looking and asking for a session bring nothing in themselves.
        have nothing : moment.arrival? id = none := by
          refine Moment.arrival?_eq_none fun payload sent step => ?_
          simp [Moment.connects, Moment.looks, step] at clears
        simp [nothing]
    | false =>
        rw [if_neg Bool.false_ne_true, filterMap_concat]
        have before := latest.updated
        cases moment.arrival? id with
        | none => simpa using before
        | some sample => simp
  · rw [exchanges.updates, latest.updates, filterMap_concat, List.length_append, Nat.add_assoc]

end Latest

/-- What a channel with one slot holds was exchanged since it was there. -/
theorem Reaches.latest {start link : Link T} {past : List (Moment T)} {id : ChannelId}
    {first : Channel} (reached : Reaches start past link)
    (present : start.channels[id]? = some first) (single : first.buffer = none)
    (unseen : first.updated = false) :
    ∃ channel, link.channels[id]? = some channel ∧ Latest past id first channel := by
  induction reached with
  | refl => exact ⟨first, present, .of_missing single unseen (List.forall_mem_nil _)⟩
  | @tail past link before step ih =>
      obtain ⟨channel, found, latest⟩ := ih
      rcases run_channels link step id with kept | ⟨_, _, _, _, last, _, _⟩
      · rw [found] at kept
        exact ⟨_, kept, latest.concat (.of_step step found latest.single)⟩
      · have inside := (List.getElem?_eq_some_iff.mp found).1
        rw [last] at inside
        exact (Nat.lt_irrefl _ inside).elim

/-- What a channel with one slot holds was exchanged since it was made. -/
theorem Reaches.latest_made {start link : Link T} {past : List (Moment T)} {id : ChannelId}
    {channel : Channel} (reached : Reaches start past link)
    (made : ∀ (id : ChannelId) channel, start.channels[id]? = some channel →
      ∃ spec, Channel.Made id spec channel)
    (found : link.channels[id]? = some channel) (single : channel.buffer = none) :
    ∃ spec first, Channel.Made id spec first ∧ Latest past id first channel := by
  induction reached generalizing channel with
  | refl =>
      obtain ⟨spec, new⟩ := made id channel found
      exact ⟨spec, channel, new, .of_missing single new.updated_eq (List.forall_mem_nil _)⟩
  | @tail past link before step ih =>
      rcases run_channels link step id with kept | ⟨spec, _, _, _, last, new, there⟩
      · rw [kept] at found
        obtain ⟨earlier, was, rfl⟩ := Option.map_eq_some_iff.mp found
        have bare := (Step.act_unbuffered link step id earlier).mp single
        obtain ⟨spec, first, new, latest⟩ := ih was bare
        exact ⟨spec, first, new, latest.concat (.of_step step was bare)⟩
      · cases there.symm.trans found
        have new := Channel.made_of_new new
        exact ⟨spec, channel, new,
          .of_missing single new.updated_eq (before.missing_added last step)⟩

/-- However a link was made and whatever happens to it, a channel without a ring holds the payload
that was sent on it or taken in by it last, or zeros.  Its time is that of the last update it took
in, its flag says whether there was one since the owner looked or asked for a session, and its
count is that of all of them.  An update of the wrong size leaves a fault and nothing else, and one
that the channel cannot take in leaves nothing at all. -/
theorem single_slot_holds_the_latest_exchange {start : Link T} (origin : start.Origin)
    (operations : List (Operation T)) {id : ChannelId} {channel : Channel}
    (found : (start.run operations).channels[id]? = some channel)
    (single : channel.buffer = none) :
    let link := start.run operations
    let past := start.history operations
    let arrived := past.filterMap (Moment.arrival? id)
    channel.value.bytes = (past.filterMap (Moment.exchanged? id)).getLast?.getD
        (List.replicate channel.byteSize 0) ∧
      channel.nettime = (arrived.getLast?.map Sample.nettime).getD 0 ∧
      (∃ flag after, link.takeUpdated id = (after, .ok flag) ∧
        (flag = true ↔ (sinceLooked id past).filterMap (Moment.arrival? id) ≠ [])) ∧
      channel.latency.updates = arrived.length ∧
      (∀ payload sent, payload.length ≠ channel.byteSize →
        channel.direction.canSubscribe = true → channel.state.isConnected = true →
        (link.dispatch (.channelUpdated id payload sent)).value.1 =
          link.setChannel id { channel with
            lastError := some ⟨.badDatasetSize,
              (Error.badDatasetSize channel.byteSize payload.length).message⟩ }) ∧
      ∀ payload sent,
        channel.state.isConnected = false ∨ channel.direction.canSubscribe = false →
        (link.dispatch (.channelUpdated id payload sent)).value.1 = link := by
  intro link past arrived
  obtain ⟨spec, first, made, latest⟩ :=
    (reaches_run start operations).latest_made (fun _ _ => origin.made) found single
  refine ⟨?_, ?_, ?_, ?_, ?_, ?_⟩
  · have zeros : first.value.bytes = List.replicate channel.byteSize 0 := by
      rw [latest.byteSize, Channel.byteSize, made.value_eq]
      simp [Dataset.zeros, Dataset.size]
    rw [← zeros]
    exact latest.value
  · rw [← made.nettime_eq]
    exact latest.nettime
  · refine ⟨channel.updated, link.setChannel id channel.takeUpdated.2, ?_, latest.updated⟩
    simp [takeUpdated, Link.channel, link, found, Channel.takeUpdated]
  · rw [latest.updates, made.latency_eq]
    exact Nat.zero_add _
  · intro payload sent misfits wanted connected
    rw [dispatch_update found, Channel.onUpdate_misfit misfits wanted connected]
  · intro payload sent deaf
    rw [dispatch_update found, Channel.onUpdate_deaf deaf, setChannel_self found]

end Steps

/-- Two updates come in, and the owner looks between them; then a payload is sent. -/
def updatesAndReply : List (Operation Simulator) :=
  [.single (.addChannel ⟨"mirror", .both, 1, none⟩), .single .connect, .process,
    .single (.dispatch (.channelUpdated 0 [1] 10)), .single (.takeUpdated 0),
    .single (.dispatch (.channelUpdated 0 [3] 30)), .single (.publish 0 [2])]

theorem reply_takes_the_place_of_the_update :
    let link := (fresh "link" none ({} : Simulator)).run updatesAndReply
    ∃ channel after, link.channels[0]? = some channel ∧ channel.buffer = none ∧
      channel.value.bytes = [2] ∧ channel.nettime = 30 ∧
      link.takeUpdated 0 = (after, .ok true) ∧ channel.latency.updates = 2 ∧
      (link.dispatch (.channelUpdated 0 [4, 4] 40)).value.1 = link.setChannel 0 { channel with
        lastError := some ⟨.badDatasetSize, (Error.badDatasetSize 1 2).message⟩ } := by
  intro link
  have held : (link.channels[0]?.map fun channel => (channel.byteSize, channel.isBuffered,
      channel.direction.canSubscribe, channel.state.isConnected)) =
      some (1, false, true, true) := by
    decide +kernel
  obtain ⟨channel, found, shape⟩ := Option.map_eq_some_iff.mp held
  simp only [Prod.mk.injEq] at shape
  obtain ⟨byteSize, unbuffered, wanted, connected⟩ := shape
  have single := Channel.isBuffered_eq_false.mp unbuffered
  obtain ⟨value, nettime, ⟨flag, after, looked, flagged⟩, updates, misfit, _⟩ :=
    single_slot_holds_the_latest_exchange (.new "link" none ({} : Simulator)) updatesAndReply
      found single
  have raised : flag = true := flagged.mpr (by decide +kernel)
  rw [byteSize] at value misfit
  rw [raised] at looked
  exact ⟨channel, after, found, single, value.trans (by decide +kernel),
    nettime.trans (by decide +kernel), looked, updates.trans (by decide +kernel),
    misfit [4, 4] 40 (by decide) wanted connected⟩

end Link

end DatasetSync
