import DatasetSync.Proofs.Controller.Intake
import DatasetSync.Proofs.Controller.Lasting

/-!
# Where the value in a shadow comes from

The shadow of a channel changes when a value is sent, and when one is taken over from the peer.
What is taken over was sent by the peer on this channel: it has waited in the transport, and perhaps
in a ring after that, and nothing but an update of the peer gets to either place.
-/

namespace DatasetSync

variable {given : ChannelId → List UInt8 → Prop}

/-! ## Updates that wait in the transport -/

namespace Simulator

variable {sim after : Simulator}

/-- The payload of every update that waits to be fetched was given on its channel. -/
def Attested (given : ChannelId → List UInt8 → Prop) (sim : Simulator) : Prop :=
  ∀ id payload sent, .channelUpdated id payload sent ∈ sim.waiting → given id payload

theorem Attested.of_waiting (attested : sim.Attested given)
    (waits : ∀ id payload sent, .channelUpdated id payload sent ∈ after.waiting →
      .channelUpdated id payload sent ∈ sim.waiting) : after.Attested given :=
  fun id payload sent inside => attested id payload sent (waits id payload sent inside)

/-- Acknowledgements are no updates. -/
theorem Attested.acknowledge (attested : sim.Attested given) {events : List InboundEvent}
    (others : ∀ id payload sent, .channelUpdated id payload sent ∉ events) :
    (sim.acknowledge events).Attested given := by
  unfold Simulator.acknowledge
  split
  · refine attested.of_waiting fun id payload sent inside => ?_
    simp only [waiting, List.mem_append] at inside ⊢
    exact inside.imp_left fun acknowledged => acknowledged.resolve_right (others id payload sent)
  · exact attested

theorem Attested.openSession (attested : sim.Attested given) (linkName : String)
    (channels : List Descriptor) : (sim.openSession linkName channels).Attested given := by
  refine attested.of_waiting fun id payload sent inside => ?_
  rcases List.mem_append.mp inside with acknowledged | injected
  · change _ ∈ if sim.acknowledges then registered channels else [] at acknowledged
    split at acknowledged
    · simp [registered] at acknowledged
    · cases acknowledged
  · exact List.mem_append_right _ injected

theorem attested_lasting : Transport.Lasting (Attested given) := by
  refine ⟨fun {sim} attested linkName channels => ?_, fun {sim} attested session => ?_,
    fun {sim} attested session id payload => ?_, fun {sim} attested session => ?_,
    fun {sim} attested session => ?_⟩
  · change (sim.register linkName channels).value.1.Attested given
    unfold register
    split
    · exact attested
    · split
      · exact attested
      · exact attested.openSession linkName channels
  · change (sim.promote session).1.Attested given
    unfold promote
    split
    · exact attested
    · split
      · exact attested
      · exact attested.acknowledge (by simp)
  · change (sim.send session id payload).1.Attested given
    unfold send
    split
    · exact attested
    · split
      · exact attested
      · refine Attested.acknowledge ?_ fun id payload sent => ?_
        · exact attested
        · simp
  · change (sim.poll session).1.Attested given
    unfold poll
    split
    · exact attested
    · exact fun _ _ _ inside => (List.not_mem_nil inside).elim
  · change (sim.deregister session).value.Attested given
    unfold deregister
    split
    · exact attested
    · exact fun _ _ _ inside => (List.not_mem_nil inside).elim

/-- The peer adds to what waits by sending. -/
theorem Attested.act (attested : sim.Attested given) {action : PeerAction}
    (told : ∀ id payload sent, action = .inject (.channelUpdated id payload sent) →
      given id payload) : (action.act sim).Attested given := by
  cases action with
  | inject event =>
      intro id payload sent inside
      change _ ∈ sim.acknowledgements ++ (sim.injected ++ [event]) at inside
      rw [← List.append_assoc, List.mem_append, List.mem_singleton] at inside
      rcases inside with waits | rfl
      · exact attested id payload sent waits
      · exact told id payload sent rfl
  | _ => exact attested

end Simulator

/-! ## Samples that wait in a ring -/

/-- The payload of every sample in the ring of a channel was given. -/
def Channel.Stores (given : List UInt8 → Prop) (channel : Channel) : Prop :=
  ∀ ring, channel.buffer = some ring → ring.WellFormed ∧ channel.direction.canSubscribe = true ∧
    ∀ sample ∈ ring.toList, given sample.bytes

theorem Channel.Stores.pop {given : List UInt8 → Prop} {channel : Channel}
    (stores : channel.Stores given) {sample : Sample} (popped : channel.pop.2 = .ok sample) :
    given sample.bytes := by
  cases buffered : channel.buffer with
  | none => simp [Channel.pop, Channel.popInto, buffered, Except.map] at popped
  | some ring =>
      obtain ⟨wellFormed, _, all⟩ := stores ring buffered
      cases waits : channel.samples with
      | nil =>
          rw [Channel.pop_empty buffered wellFormed waits] at popped
          cases popped
      | cons first rest =>
          rw [Channel.pop_front buffered wellFormed waits] at popped
          cases popped
          refine all sample ?_
          have listed : ring.toList = sample :: rest := by
            simpa [Channel.samples, buffered] using waits
          rw [listed]
          exact List.mem_cons_self

namespace Link

section Steps

variable {T : Type} {moment : Moment T} {id : ChannelId} {sample : Sample}

theorem Moment.step_of_accepted {size capacity : Nat}
    (accepted : moment.accepted? id size capacity = some sample) :
    moment.step = .dispatch (.channelUpdated id sample.bytes sample.nettime) := by
  unfold accepted? offered? at accepted
  split at accepted
  · split at accepted
    · rename_i step there
      split at accepted
      · rename_i fits
        cases accepted
        rw [step, fits.1]
      · cases accepted
    · cases accepted
  · cases accepted

theorem Moment.step_of_arrival (arrived : moment.arrival? id = some sample) :
    moment.step = .dispatch (.channelUpdated id sample.bytes sample.nettime) := by
  unfold arrival? at arrived
  split at arrived
  · rename_i step there
    split at arrived
    · rename_i heard
      cases arrived
      rw [step, heard.1]
    · cases arrived
  · cases arrived

variable [Transport T]

/-- A step puts nothing into a ring but what it dispatches. -/
theorem Step.act_stores {given : List UInt8 → Prop} {link : Link T} {channel : Channel}
    (step : Step T) (found : link.channels[id]? = some channel)
    (told : ∀ payload sent, step = .dispatch (.channelUpdated id payload sent) → given payload)
    (stores : channel.Stores given) : (step.act link id channel).Stores given := by
  intro next buffered
  cases before : channel.buffer with
  | none =>
      rw [(step.act_unbuffered link id channel).mpr before] at buffered
      cases buffered
  | some ring =>
      obtain ⟨wellFormed, wanted, all⟩ := stores ring before
      obtain ⟨after, shifts⟩ := Moment.Shifts.of_step step found before wellFormed wanted
      cases shifts.buffer.symm.trans buffered
      refine ⟨shifts.wellFormed, shifts.direction ▸ wanted, fun sample inside => ?_⟩
      cases connects : (Moment.mk link step).connects with
      | true =>
          rw [shifts.cleared connects] at inside
          cases inside
      | false =>
          have kept := List.mem_append_right ((Moment.mk link step).taken? id).toList inside
          rw [shifts.order connects] at kept
          rcases List.mem_append.mp kept with old | new
          · exact all sample old
          · exact told _ _ (Moment.step_of_accepted (Option.mem_toList.mp new))

def Stores (given : ChannelId → List UInt8 → Prop) (link : Link T) : Prop :=
  ∀ (id : ChannelId) channel, link.channels[id]? = some channel → channel.Stores (given id)

/-- A step that adds no channel and dispatches no update but one that was given. -/
def Step.Told (given : ChannelId → List UInt8 → Prop) (step : Step T) : Prop :=
  (∀ spec, step ≠ .addChannel spec) ∧
    ∀ id payload sent, step = .dispatch (.channelUpdated id payload sent) → given id payload

theorem Step.Told.stores {step : Step T} (told : step.Told given) {link : Link T}
    (stores : link.Stores given) : (step.run link).Stores given := by
  intro id after found
  rcases run_channels link step id with channels | ⟨spec, _, added, _⟩
  · rw [channels] at found
    obtain ⟨channel, there, rfl⟩ := Option.map_eq_some_iff.mp found
    exact step.act_stores there (told.2 id) (stores id channel there)
  · exact (told.1 spec added).elim

theorem stores_steps {steps : List (Step T)} (told : ∀ step ∈ steps, step.Told given)
    {link : Link T} (stores : link.Stores given) : (runSteps link steps).Stores given := by
  induction steps generalizing link with
  | nil => exact stores
  | cons step rest ih =>
      rw [List.forall_mem_cons] at told
      exact ih told.2 (told.1.stores stores)

end Steps

/-- Whatever waits for a link, in its transport or in a ring, was given. -/
structure Attested (given : ChannelId → List UInt8 → Prop) (link : Link Simulator) : Prop where
  waiting : link.transport.Attested given
  stores : link.Stores given

namespace Attested

variable {link : Link Simulator} {operation : Operation Simulator}

/-- A cycle hands on what waits in the transport, and no other update. -/
theorem told (attested : link.Attested given) (driven : operation.Driven) :
    ∀ step ∈ operation.steps link, step.Told given := by
  intro step inside
  cases driven with
  | process =>
      rw [Operation.steps] at inside
      split at inside
      · cases inside
      · rename_i session opened
        rcases List.mem_cons.mp inside with rfl | handed
        · refine ⟨fun spec same => ?_, fun id payload sent same => ?_⟩ <;> cases same
        · obtain ⟨event, polled, rfl⟩ := List.mem_map.mp handed
          refine ⟨fun spec same => (by cases same), fun id payload sent same => ?_⟩
          cases Step.dispatch.inj same
          refine attested.waiting id payload sent ?_
          change _ ∈ (link.transport.poll session).2 at polled
          unfold Simulator.poll at polled
          split at polled
          · cases polled
          · exact polled
  | _ =>
      cases List.mem_singleton.mp inside
      refine ⟨fun spec same => ?_, fun id payload sent same => ?_⟩ <;> cases same

theorem driven (attested : link.Attested given) (driven : operation.Driven) :
    (operation.run link).Attested given := by
  refine ⟨driven.lasting Simulator.attested_lasting attested.waiting, ?_⟩
  rw [Operation.run_eq]
  exact stores_steps (attested.told driven) attested.stores

/-- What a channel takes in was given. -/
theorem arrivals (attested : link.Attested given) {id : ChannelId} {sample : Sample}
    (inside : sample ∈ link.arrivals id) : given id sample.bytes := by
  obtain ⟨moment, there, arrived⟩ := List.mem_filterMap.mp inside
  rw [history, history, List.append_nil] at there
  have told := attested.told .process _ (step_mem_of_mem_moments there)
  exact told.2 id _ _ (Moment.step_of_arrival arrived)

end Attested

end Link

/-! ## What is taken over -/

theorem Controller.arrivals_attested {L : Type} {controller : Controller Simulator L}
    (attested : controller.link.Attested given) {enable go : Bool} {id : ChannelId}
    {sample : Sample} (inside : sample ∈ controller.arrivals enable go id) :
    given id sample.bytes := by
  have promoted : controller.link.setOperational.value.1.Attested given :=
    attested.driven .setOperational
  have source {link : Link Simulator} (fetches : controller.fetching? enable go = some link) :
      link.Attested given := by
    unfold fetching? at fetches
    split at fetches
    · cases fetches
    · split at fetches
      · split at fetches
        · split at fetches
          · cases fetches
            exact promoted
          · cases fetches
        · cases fetches
          exact attested
      · cases fetches
        exact attested
      all_goals cases fetches
  unfold Controller.arrivals at inside
  cases fetches : controller.fetching? enable go with
  | none =>
      rw [fetches] at inside
      cases inside
  | some link =>
      rw [fetches] at inside
      exact (source fetches).arrivals inside

namespace World

variable {L : Type} {world : World L} {id : ChannelId} {slot : Slot}

/-- The value of channel `id` that an input takes over from the peer: without a ring the last update
of a cycle, and with one the oldest sample when the task asks for it. -/
def takenOver? (world : World L) (id : ChannelId) (input : Input) : Option (List UInt8) :=
  world.controller.link.channels[id]?.bind fun channel =>
    match input with
    | .cycle enable go => channel.takenOver? (world.controller.arrivals enable go id)
    | .updateBuffered target true =>
        if target = id then channel.pop.2.toOption.map Sample.bytes else none
    | _ => none

theorem takenOver?_attested (attested : world.controller.link.Attested given) {input : Input}
    {payload : List UInt8} (taken : world.takenOver? id input = some payload) :
    given id payload := by
  obtain ⟨channel, found, value⟩ := Option.bind_eq_some_iff.mp taken
  cases input with
  | cycle enable go =>
      change channel.takenOver? _ = some payload at value
      unfold Channel.takenOver? at value
      split at value
      · cases value
      · obtain ⟨sample, last, rfl⟩ := Option.map_eq_some_iff.mp value
        exact Controller.arrivals_attested attested (List.mem_of_getLast? last)
  | updateBuffered target update =>
      cases update with
      | false => cases value
      | true =>
          dsimp only at value
          split at value
          · obtain ⟨sample, popped, rfl⟩ := Option.map_eq_some_iff.mp value
            refine (attested.stores id channel found).pop ?_
            cases answer : channel.pop.2 with
            | error error =>
                rw [answer] at popped
                cases popped
            | ok other =>
                rw [answer] at popped
                exact congrArg Except.ok (Option.some.inj popped)
          · cases value
  | setImage target payload => cases value
  | peer action => cases value

/-- Nothing waits for a new link. -/
theorem start_attested {instanceName : String} {aliasName : Option String}
    {specs : List ChannelSpec} {link : Link Simulator} (logger : Option L)
    (built : (Link.fresh instanceName aliasName {}).addChannels specs = .ok link) :
    (start link logger).controller.link.Attested given := by
  obtain ⟨made, same⟩ := Link.addChannels_made built fun _ _ found => by cases found
  refine ⟨?_, fun id channel found ring buffered => ?_⟩
  · change link.transport.Attested given
    rw [same]
    exact fun _ _ _ inside => (List.not_mem_nil inside).elim
  · obtain ⟨spec, fresh⟩ := made id channel found
    have origin := fresh.buffer_eq
    rw [buffered] at origin
    obtain ⟨_, _, new, wanted⟩ := origin
    obtain ⟨wellFormed, _, empty, _⟩ := Ring.wellFormed_of_new new
    refine ⟨wellFormed, wanted, fun sample inside => ?_⟩
    rw [empty] at inside
    cases inside

section Runs

variable [Log.Logger L]

def takenOver (world : World L) (id : ChannelId) : List Input → List (List UInt8)
  | [] => []
  | input :: rest =>
      (world.takenOver? id input).toList ++ takenOver (world.step input).value id rest

/-- The shadow of a channel changes to what is sent on it or taken over. -/
theorem step_sourced (ordered : world.controller.Ordered) (input : Input)
    (found : world.controller.slot? id = some slot) :
    ∃ last, (world.step input).value.controller.slot? id = some last ∧
      slot.Sourced (payloadsOn id (framesOf (world.step input).calls))
        (world.takenOver? id input).toList last := by
  have owner := (Controller.slot?_eq_some.mp found).1
  cases input with
  | cycle enable go =>
      rw [step, Trail.calls_bind, Trail.calls_pure, List.append_nil, takenOver?, owner]
      exact (Controller.cycle_intake ordered enable go).sourced found
  | setImage target payload =>
      obtain ⟨value, there⟩ := Controller.written_slot ordered.sound found target payload
      exact ⟨_, there, .quiet rfl rfl⟩
  | updateBuffered target update =>
      rcases Controller.updateBuffered_slot ordered.sound found target update with
        there | ⟨rfl, rfl, _, sample, new, popped, displays, there⟩
      · exact ⟨slot, there, .quiet rfl rfl⟩
      · have shown : world.takenOver? target (.updateBuffered target true) =
            some sample.bytes := by
          simp [takenOver?, owner, popped, Except.toOption]
        refine ⟨new, there, ?_, ?_⟩
        · rw [displays.channel]
          rfl
        · rw [shown]
          rcases displays.held with kept | copied
          · exact .inl (congrArg Dataset.bytes kept)
          · exact .inr (.inr (List.mem_singleton.mpr copied))
  | peer action => exact ⟨slot, found, .quiet rfl rfl⟩

theorem run_sourced (ordered : world.controller.Ordered) (inputs : List Input)
    (found : world.controller.slot? id = some slot) :
    ∃ last, (world.run inputs).value.controller.slot? id = some last ∧
      slot.Sourced (payloadsOn id (framesOf (world.run inputs).calls))
        (world.takenOver id inputs) last := by
  induction inputs generalizing world slot with
  | nil => exact ⟨slot, found, .quiet rfl rfl⟩
  | cons input rest ih =>
      obtain ⟨middle, there, first⟩ := step_sourced ordered input found
      obtain ⟨last, beside, second⟩ := ih (step_steps ordered input).ordered there
      refine ⟨last, beside, ?_⟩
      rw [run, Trail.calls_bind, framesOf_append, payloadsOn_append]
      exact first.trans second

/-! ## Who has sent it -/

/-- An input by which the peer sends no update but one that was given. -/
def Input.Told (given : ChannelId → List UInt8 → Prop) (input : Input) : Prop :=
  ∀ id payload sent, input = .peer (.inject (.channelUpdated id payload sent)) → given id payload

theorem step_attested (attested : world.controller.link.Attested given) {input : Input}
    (told : Input.Told given input) :
    (world.step input).value.controller.link.Attested given := by
  cases input with
  | cycle enable go =>
      exact (world.controller.cycle_drives enable go).link.invariant (Link.Attested given)
        (fun driven _ before => before.driven driven) attested
  | setImage target payload =>
      change (world.controller.written target payload).link.Attested given
      rw [Controller.written_link]
      exact attested
  | updateBuffered target update =>
      change (world.controller.updateBuffered target update).1.link.Attested given
      rcases world.controller.updateBuffered_eq target update with
        same | ⟨_, channel, sample, found, _, _, taken⟩
      · rw [same]
        exact attested
      · have popped : Link.Step.Told given (.popInto target default : Link.Step Simulator) := by
          refine ⟨fun spec same => ?_, fun id payload sent same => ?_⟩ <;> cases same
        have stores := popped.stores attested.stores
        rw [Link.Step.run, Link.popInto_link, Link.changeChannel, found] at stores
        rw [taken, Controller.showSample_link]
        exact ⟨attested.waiting, stores⟩
  | peer action =>
      exact ⟨attested.waiting.act fun id payload sent same => told id payload sent (same ▸ rfl),
        attested.stores⟩

theorem run_attested (attested : world.controller.link.Attested given) {inputs : List Input}
    (told : ∀ input ∈ inputs, Input.Told given input) :
    (world.run inputs).value.controller.link.Attested given := by
  induction inputs generalizing world with
  | nil => exact attested
  | cons input rest ih =>
      rw [List.forall_mem_cons] at told
      exact ih (step_attested attested told.1) told.2

theorem takenOver_attested (attested : world.controller.link.Attested given)
    {inputs : List Input} (told : ∀ input ∈ inputs, Input.Told given input)
    {payload : List UInt8} (taken : payload ∈ world.takenOver id inputs) : given id payload := by
  induction inputs generalizing world with
  | nil => cases taken
  | cons input rest ih =>
      rw [List.forall_mem_cons] at told
      rcases List.mem_append.mp taken with now | later
      · exact takenOver?_attested attested (Option.mem_toList.mp now)
      · exact ih (step_attested attested told.1) told.2 later

/-- Over a run from a new link, what is taken over was sent by the peer. -/
theorem sent_by_peer {instanceName : String} {aliasName : Option String}
    {specs : List ChannelSpec} {link : Link Simulator} (logger : Option L)
    (built : (Link.fresh instanceName aliasName {}).addChannels specs = .ok link)
    {early late : List Input} {payload : List UInt8}
    (taken : payload ∈ ((start link logger).run early).value.takenOver id late) :
    ∃ sent, .peer (.inject (.channelUpdated id payload sent)) ∈ early ++ late := by
  let given (id : ChannelId) (payload : List UInt8) : Prop :=
    ∃ sent, .peer (.inject (.channelUpdated id payload sent)) ∈ early ++ late
  have told : ∀ input ∈ early ++ late, Input.Told given input :=
    fun input inside id payload sent same => ⟨sent, same ▸ inside⟩
  rw [List.forall_mem_append] at told
  exact takenOver_attested (run_attested (start_attested logger built) told.1) told.2 taken

end Runs

end World

end DatasetSync
