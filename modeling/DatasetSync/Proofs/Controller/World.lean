import DatasetSync.Proofs.Controller.Wire
import DatasetSync.Proofs.Link.History

/-!
# A controller and the world around it

A controller is run by cycles, and by the task that writes values and takes samples between them,
while its transport goes its own way.  A world is a controller over the simulated transport together
with the frames that the peer at the far end has fetched so far.
-/

namespace DatasetSync

/-! ## What the task does between cycles -/

namespace Controller

variable {T L : Type}

def written (controller : Controller T L) (id : ChannelId) (payload : List UInt8) :
    Controller T L :=
  match controller.setImage id payload with
  | .ok after => after
  | .error _ => controller

def replaced (controller : Controller T L) (id : ChannelId) (slot : Slot) : Controller T L :=
  { controller with
    link := controller.link.setChannel id slot.channel
    image := ⟨controller.image.values.set id slot.value⟩
    shadow := ⟨controller.shadow.values.set id slot.held⟩ }

theorem replaced_maps {controller : Controller T L} {id : ChannelId} {slot : Slot}
    (found : controller.slot? id = some slot) (new : Slot) :
    controller.Maps (controller.replaced id new) fun other slot =>
      if id = other then new else slot :=
  maps_slot found (fun _ => new) rfl rfl rfl

/-- A slot may be replaced by any other that is as it should be. -/
theorem Ordered.replaced {controller : Controller T L} (ordered : controller.Ordered)
    {id : ChannelId} {slot new : Slot} (found : controller.slot? id = some slot)
    (sound : new.Sound) (seen : new.Seen) : (controller.replaced id new).Ordered := by
  have maps := replaced_maps found new
  refine ⟨maps.sound ordered.sound fun other slot _ fine => ?_,
    maps.seen ordered.seen fun other slot _ fine => ?_, ordered.session, ordered.rest⟩
  · split
    · exact sound
    · exact fine
  · split
    · exact seen
    · exact fine

/-- Writing a value replaces it, or does nothing. -/
theorem written_cases {controller : Controller T L} (sound : controller.Sound) (id : ChannelId)
    (payload : List UInt8) :
    controller.written id payload = controller ∨
      ∃ slot, controller.slot? id = some slot ∧ payload.length = slot.value.size ∧
        controller.written id payload =
          controller.replaced id { slot with value := ⟨payload⟩ } := by
  unfold written setImage
  cases set : controller.image.set id payload with
  | error error => exact .inl rfl
  | ok image =>
      obtain ⟨value, there, fits, rfl⟩ := Image.set_ok set
      have some := (sound.aligned id).1
      rw [there, Option.isSome_some, eq_comm] at some
      obtain ⟨channel, owner⟩ := Option.isSome_iff_exists.mp some
      obtain ⟨slot, found, rfl⟩ := sound.aligned.slot owner
      obtain ⟨_, beside, held⟩ := slot?_eq_some.mp found
      cases there.symm.trans beside
      refine .inr ⟨slot, found, fits, ?_⟩
      simp only [replaced, Except.map, Link.setChannel_self owner, set_eq_self held]

/-- A slot whose channel has become `channel` and which was to show a sample.  Its shadow has not
changed, or it has the sample too. -/
structure Displays (slot : Slot) (channel : Channel) (sample : Sample) (new : Slot) : Prop where
  channel : new.channel = channel
  size : new.value.size = slot.value.size
  heldSize : new.held.size = slot.held.size
  held : new.held = slot.held ∨ new.held.bytes = sample.bytes

theorem showSample_cases {controller : Controller T L} {id : ChannelId} {slot : Slot}
    (found : controller.slot? id = some slot) (channel : Channel) (sample : Sample) :
    ∃ new, Displays slot channel sample new ∧
      (showSample { controller with link := controller.link.setChannel id channel } id channel
        sample).1 = controller.replaced id new := by
  obtain ⟨_, value, held⟩ := slot?_eq_some.mp found
  unfold showSample
  cases shown : controller.image.set id sample.bytes with
  | error error =>
      refine ⟨⟨channel, slot.value, slot.held⟩, ⟨rfl, rfl, rfl, .inl rfl⟩, ?_⟩
      simp only [replaced, set_eq_self value, set_eq_self held]
  | ok image =>
      obtain ⟨old, there, fits, rfl⟩ := Image.set_ok shown
      cases value.symm.trans there
      cases publishable : channel.direction.canPublish with
      | false =>
          refine ⟨⟨channel, ⟨sample.bytes⟩, slot.held⟩, ⟨rfl, fits, rfl, .inl rfl⟩, ?_⟩
          simp only [Bool.false_eq_true, ↓reduceIte, replaced, set_eq_self held]
      | true =>
          cases copied : controller.shadow.set id sample.bytes with
          | error error =>
              refine ⟨⟨channel, ⟨sample.bytes⟩, slot.held⟩, ⟨rfl, fits, rfl, .inl rfl⟩, ?_⟩
              simp only [↓reduceIte, copied, replaced, set_eq_self held]
          | ok shadow =>
              obtain ⟨before, beside, heldFits, rfl⟩ := Image.set_ok copied
              cases held.symm.trans beside
              refine ⟨⟨channel, ⟨sample.bytes⟩, ⟨sample.bytes⟩⟩,
                ⟨rfl, fits, heldFits, .inr rfl⟩, ?_⟩
              simp only [↓reduceIte, copied, replaced]

/-- Taking a sample changes nothing, or the oldest sample is taken out of its ring and shown. -/
theorem updateBuffered_eq (controller : Controller T L) (id : ChannelId) (update : Bool) :
    (controller.updateBuffered id update).1 = controller ∨
      update = true ∧ ∃ channel sample, controller.link.channels[id]? = some channel ∧
        channel.isBuffered = true ∧ channel.pop.2 = .ok sample ∧
        controller.updateBuffered id update =
          showSample
            { controller with link := controller.link.setChannel id (channel.afterPop default) }
            id (channel.afterPop default) sample := by
  unfold updateBuffered Link.channel
  cases owner : controller.link.channels[id]? with
  | none => exact .inl rfl
  | some channel =>
      dsimp only
      by_cases buffered : channel.isBuffered = true
      · cases update with
        | false =>
            refine .inl ?_
            simp only [buffered, Bool.not_true, Bool.not_false, Bool.false_eq_true, ↓reduceIte]
        | true =>
            simp only [buffered, Bool.not_true, Bool.false_eq_true, ↓reduceIte]
            cases answer : channel.pop.2 with
            | error error =>
                refine .inl ?_
                rw [Channel.pop_refused answer]
                dsimp only
                rw [Link.setChannel_self owner]
                split <;> rfl
            | ok sample =>
                rw [channel.pop_fst]
                exact .inr ⟨trivial, channel, sample, rfl, buffered, answer, rfl⟩
      · refine .inl ?_
        simp only [buffered, Bool.not_false, ↓reduceIte]

/-- Taking a sample replaces the slot of its channel, or nothing happens. -/
theorem updateBuffered_cases {controller : Controller T L} (sound : controller.Sound)
    (id : ChannelId) (update : Bool) :
    (controller.updateBuffered id update).1 = controller ∨
      update = true ∧ ∃ slot sample new, controller.slot? id = some slot ∧
        slot.channel.isBuffered = true ∧ slot.channel.pop.2 = .ok sample ∧
        Displays slot (slot.channel.afterPop default) sample new ∧
        (controller.updateBuffered id update).1 = controller.replaced id new := by
  rcases controller.updateBuffered_eq id update with
    same | ⟨asked, channel, sample, owner, buffered, popped, taken⟩
  · exact .inl same
  · obtain ⟨slot, found, rfl⟩ := sound.aligned.slot owner
    obtain ⟨new, displays, same⟩ :=
      showSample_cases found (slot.channel.afterPop default) sample
    rw [taken]
    exact .inr ⟨asked, slot, sample, new, found, buffered, popped, displays, same⟩

/-- A slot whose oldest sample was taken into the image. -/
theorem popped_sound {slot new : Slot} {destination sample : Sample} (sound : slot.Sound)
    (buffered : slot.channel.isBuffered = true)
    (displays : Displays slot (slot.channel.afterPop destination) sample new) :
    new.Sound ∧ new.Seen := by
  obtain ⟨ring, there⟩ := Option.isSome_iff_exists.mp buffered
  have byteSize : new.channel.byteSize = slot.channel.byteSize := by
    rw [displays.channel]
    rfl
  have never {P : Prop} (single : new.channel.buffer = none) : P := by
    rw [displays.channel, Channel.afterPop, there] at single
    cases single
  refine ⟨⟨?_, ?_, ?_, never⟩, never⟩
  · rw [displays.size, byteSize]
    exact sound.fits
  · rw [displays.heldSize, byteSize]
    exact sound.heldFits
  · intro deaf
    rw [displays.channel] at deaf
    have single := (sound.deaf deaf).1
    rw [there] at single
    cases single

theorem written_link (controller : Controller T L) (id : ChannelId) (payload : List UInt8) :
    (controller.written id payload).link = controller.link := by
  unfold written setImage
  cases controller.image.set id payload <;> rfl

theorem showSample_link (controller : Controller T L) (id : ChannelId) (channel : Channel)
    (sample : Sample) : (controller.showSample id channel sample).1.link = controller.link := by
  unfold showSample
  split
  · rfl
  · dsimp only
    split
    · split <;> rfl
    · rfl

/-- Taking a sample changes nothing of the link but its channels. -/
theorem updateBuffered_frame (controller : Controller T L) (id : ChannelId) (update : Bool) :
    (controller.updateBuffered id update).1.link =
      { controller.link with
        channels := (controller.updateBuffered id update).1.link.channels } := by
  rcases controller.updateBuffered_eq id update with same | ⟨_, _, _, _, _, _, taken⟩
  · rw [same]
  · rw [taken, showSample_link]
    rfl

/-- At most one slot was replaced, and its channel stands where it stood, under the same
announcement. -/
inductive Edited (controller : Controller T L) : Controller T L → Prop where
  | nothing : Edited controller controller
  | slot {id : ChannelId} {slot new : Slot} (found : controller.slot? id = some slot)
      (sound : new.Sound) (seen : new.Seen) (state : new.channel.state = slot.channel.state)
      (announced : new.channel.descriptor = slot.channel.descriptor) :
      Edited controller (controller.replaced id new)

theorem Edited.ordered {controller after : Controller T L} (edited : controller.Edited after)
    (ordered : controller.Ordered) : after.Ordered := by
  cases edited with
  | nothing => exact ordered
  | slot found sound seen => exact ordered.replaced found sound seen

theorem written_edited {controller : Controller T L} (ordered : controller.Ordered)
    (id : ChannelId) (payload : List UInt8) :
    controller.Edited (controller.written id payload) := by
  rcases written_cases ordered.sound id payload with same | ⟨slot, found, fits, same⟩
  · rw [same]
    exact .nothing
  · have fine := ordered.sound.slots found
    rw [same]
    exact .slot found ⟨fits.trans fine.fits, fine.heldFits, fine.deaf, fine.shown⟩
      (ordered.seen id slot found) rfl rfl

theorem updateBuffered_edited {controller : Controller T L} (ordered : controller.Ordered)
    (id : ChannelId) (update : Bool) :
    controller.Edited (controller.updateBuffered id update).1 := by
  rcases updateBuffered_cases ordered.sound id update with
    same | ⟨_, slot, sample, new, found, buffered, _, displays, same⟩
  · rw [same]
    exact .nothing
  · obtain ⟨sound, seen⟩ := popped_sound (ordered.sound.slots found) buffered displays
    rw [same]
    refine .slot found sound seen ?_ ?_
    · rw [displays.channel]
      rfl
    · rw [displays.channel]
      rfl

/-- Writing a value leaves every channel and every shadow alone. -/
theorem written_slot {controller : Controller T L} (sound : controller.Sound) {id : ChannelId}
    {slot : Slot} (found : controller.slot? id = some slot) (target : ChannelId)
    (payload : List UInt8) :
    ∃ value, (controller.written target payload).slot? id = some { slot with value } := by
  rcases written_cases sound target payload with same | ⟨owner, there, _, same⟩
  · rw [same]
    exact ⟨slot.value, found⟩
  · rw [same, (replaced_maps there _).slots, found, Option.map_some]
    split
    · rename_i here
      subst here
      cases there.symm.trans found
      exact ⟨_, rfl⟩
    · exact ⟨slot.value, rfl⟩

/-- Taking a sample leaves a slot alone, or it is the slot that the sample was for. -/
theorem updateBuffered_slot {controller : Controller T L} (sound : controller.Sound)
    {id : ChannelId} {slot : Slot} (found : controller.slot? id = some slot) (target : ChannelId)
    (update : Bool) :
    (controller.updateBuffered target update).1.slot? id = some slot ∨
      target = id ∧ update = true ∧ slot.channel.isBuffered = true ∧
        ∃ sample new, slot.channel.pop.2 = .ok sample ∧
          Displays slot (slot.channel.afterPop default) sample new ∧
          (controller.updateBuffered target update).1.slot? id = some new := by
  rcases updateBuffered_cases sound target update with
    same | ⟨asked, owner, sample, new, there, buffered, popped, displays, same⟩
  · rw [same]
    exact .inl found
  · rw [same, (replaced_maps there new).slots, found, Option.map_some]
    split
    · rename_i here
      subst here
      cases there.symm.trans found
      exact .inr ⟨rfl, asked, buffered, sample, new, popped, displays, rfl⟩
    · exact .inl rfl

/-! ## Turns -/

inductive Turn (T : Type) where
  | cycle (enable go : Bool)
  | setImage (id : ChannelId) (payload : List UInt8)
  | updateBuffered (id : ChannelId) (update : Bool)
  /-- The transport changes of itself. -/
  | meanwhile (change : T → T)

section Turns

variable [Transport T] [Log.Logger L]

def turn (controller : Controller T L) : Turn T → Controller T L
  | .cycle enable go => (controller.cycle enable go).value
  | .setImage id payload => controller.written id payload
  | .updateBuffered id update => (controller.updateBuffered id update).1
  | .meanwhile change =>
      { controller with link := { controller.link with
          transport := change controller.link.transport } }

def turns (controller : Controller T L) (all : List (Turn T)) : Controller T L :=
  all.foldl turn controller

theorem Ordered.turn {controller : Controller T L} (ordered : controller.Ordered)
    (turn : Turn T) : (controller.turn turn).Ordered := by
  cases turn with
  | cycle enable go => exact (cycle_cycled ordered enable go).ordered
  | setImage id payload => exact (written_edited ordered id payload).ordered ordered
  | updateBuffered id update => exact (updateBuffered_edited ordered id update).ordered ordered
  | meanwhile change =>
      exact ⟨ordered.sound.congr rfl rfl rfl, fun id slot found => ordered.seen id slot found,
        ordered.session, ordered.rest⟩

end Turns

/-! ## The beginning -/

theorem slot?_new (link : Link T) (logger : Option L) (id : ChannelId) :
    (new link logger).slot? id = link.channels[id]?.map fun channel =>
      ⟨channel, Dataset.zeros channel.byteSize, Dataset.zeros channel.byteSize⟩ := by
  unfold slot? new Image.ofChannels
  simp only [List.getElem?_map]
  cases link.channels[id]? <;> rfl

/-- A new channel has nothing but zeros, and nothing has come in. -/
theorem sound_of_made {id : ChannelId} {spec : ChannelSpec} {channel : Channel}
    (made : Channel.Made id spec channel) :
    let slot : Slot :=
      ⟨channel, Dataset.zeros channel.byteSize, Dataset.zeros channel.byteSize⟩
    slot.Sound ∧ slot.Seen := by
  have sized (size : Nat) : (Dataset.zeros size).size = size := List.length_replicate
  have zero : channel.value = Dataset.zeros channel.byteSize := by
    rw [Channel.byteSize, made.value_eq, sized]
  refine ⟨⟨sized _, sized _, fun deaf => ⟨?_, made.updated_eq⟩, fun _ _ _ => zero.symm⟩,
    fun _ => made.updated_eq⟩
  have buffer := made.buffer_eq
  change channel.buffer = none
  cases buffered : channel.buffer with
  | none => rfl
  | some ring =>
      rw [buffered] at buffer
      obtain ⟨_, _, _, wanted⟩ := buffer
      rw [wanted] at deaf
      cases deaf

/-- A controller over a new link is in order. -/
theorem new_ordered {instanceName : String} {aliasName : Option String} {transport : T}
    {specs : List ChannelSpec} {link : Link T} (logger : Option L)
    (built : (Link.fresh instanceName aliasName transport).addChannels specs = .ok link) :
    (new link logger).Ordered := by
  obtain ⟨made, same⟩ := Link.addChannels_made built fun _ _ found => by cases found
  have closed : link.session = none := by
    rw [same]
    rfl
  have down : link.state = .disconnected := by
    rw [same]
    rfl
  have fine {id : ChannelId} {slot : Slot} (found : (new link logger).slot? id = some slot) :
      slot.Sound ∧ slot.Seen := by
    rw [slot?_new] at found
    obtain ⟨channel, there, rfl⟩ := Option.map_eq_some_iff.mp found
    obtain ⟨spec, fresh⟩ := made id channel there
    exact sound_of_made fresh
  refine ⟨⟨fun id => ?_, fun found => (fine found).1⟩, fun id slot found => (fine found).2,
    fun _ => ?_, fun _ => ⟨down, closed⟩⟩
  · change (List.map _ link.channels)[id]?.isSome = _ ∧ (List.map _ link.channels)[id]?.isSome = _
    rw [List.getElem?_map, Option.isSome_map]
    exact ⟨rfl, rfl⟩
  · change link.state.isConnected = false
    rw [down]
    rfl

end Controller

/-! ## Worlds -/

def PeerAction.fetched (sim : Simulator) : PeerAction → List Frame
  | .takeFrames => sim.takeFrames.1
  | _ => []

theorem PeerAction.fetched_act (action : PeerAction) (sim : Simulator) :
    action.fetched sim ++ (action.act sim).frames = sim.frames := by
  cases action with
  | takeFrames => exact List.append_nil _
  | _ => rfl

/-- A controller, and the frames the peer has fetched. -/
structure World (L : Type) where
  controller : Controller Simulator L
  fetched : List Frame

inductive Input where
  | cycle (enable go : Bool)
  | setImage (id : ChannelId) (payload : List UInt8)
  | updateBuffered (id : ChannelId) (update : Bool)
  | peer (action : PeerAction)

/-- Seen from the controller, an input is a turn. -/
def Input.turn : Input → Controller.Turn Simulator
  | .cycle enable go => .cycle enable go
  | .setImage id payload => .setImage id payload
  | .updateBuffered id update => .updateBuffered id update
  | .peer action => .meanwhile action.act

namespace World

variable {L : Type}

def start (link : Link Simulator) (logger : Option L) : World L :=
  ⟨Controller.new link logger, []⟩

/-- Every frame that was sent, also those the peer has fetched. -/
def frames (world : World L) : List Frame :=
  world.fetched ++ world.controller.link.transport.frames

def afterPeer (world : World L) (action : PeerAction) : World L where
  controller := { world.controller with
    link := { world.controller.link with
      transport := action.act world.controller.link.transport } }
  fetched := world.fetched ++ action.fetched world.controller.link.transport

section Runs

variable [Log.Logger L]

def step (world : World L) : Input → Trail Effect (World L)
  | .cycle enable go => do
      let controller ← world.controller.cycle enable go
      return { world with controller }
  | .setImage id payload => return { world with controller := world.controller.written id payload }
  | .updateBuffered id update =>
      return { world with controller := (world.controller.updateBuffered id update).1 }
  | .peer action => return world.afterPeer action

theorem step_controller (world : World L) (input : Input) :
    (world.step input).value.controller = world.controller.turn input.turn := by
  cases input <;> rfl

def run (world : World L) : List Input → Trail Effect (World L)
  | [] => return world
  | input :: rest => do
      let world ← world.step input
      world.run rest

theorem run_append (world : World L) (early late : List Input) :
    (world.run (early ++ late)).value = ((world.run early).value.run late).value ∧
      (world.run (early ++ late)).calls =
        (world.run early).calls ++ ((world.run early).value.run late).calls := by
  induction early generalizing world with
  | nil => exact ⟨rfl, rfl⟩
  | cons input rest ih =>
      obtain ⟨value, calls⟩ := ih (world.step input).value
      refine ⟨value, ?_⟩
      rw [List.cons_append, run, Trail.calls_bind, calls, run, Trail.calls_bind, Trail.value_bind,
        List.append_assoc]

end Runs

/-! ## One input -/

/-- The frames on the wire are the granted requests to send, and sessions follow each other. -/
theorem step_advances [Log.Logger L] (world : World L) (input : Input) :
    (world.step input).value.frames = world.frames ++ framesOf (world.step input).calls ∧
      world.controller.link.Succeeds (world.step input).value.controller.link := by
  cases input with
  | cycle enable go =>
      have advances := world.controller.cycle_advances enable go
      rw [step, Trail.calls_bind, Trail.calls_pure, List.append_nil]
      refine ⟨?_, advances.succeeds⟩
      change world.fetched ++ (world.controller.cycle enable go).value.link.transport.frames = _
      rw [advances.frames, ← List.append_assoc]
      rfl
  | setImage id payload =>
      have same := world.controller.written_link id payload
      refine ⟨?_, ?_⟩
      · change world.fetched ++ (world.controller.written id payload).link.transport.frames = _
        rw [same]
        exact (List.append_nil _).symm
      · change world.controller.link.Succeeds (world.controller.written id payload).link
        rw [same]
        exact .same rfl rfl fun down => down
  | updateBuffered id update =>
      have same := world.controller.updateBuffered_frame id update
      refine ⟨?_, ?_⟩
      · change world.fetched ++
          (world.controller.updateBuffered id update).1.link.transport.frames = _
        rw [same]
        exact (List.append_nil _).symm
      · change world.controller.link.Succeeds (world.controller.updateBuffered id update).1.link
        rw [same]
        exact .same rfl rfl fun down => down
  | peer action =>
      have fetches := action.fetched_act world.controller.link.transport
      refine ⟨?_, .same ?_ rfl id⟩
      · change (world.fetched ++ _) ++ (action.act world.controller.link.transport).frames =
          (world.fetched ++ _) ++ []
        rw [List.append_assoc, fetches, List.append_nil]
      · exact (action.act_sameSessions world.controller.link.transport).nextSession

/-- What an input leaves behind, with the requests it made. -/
structure Steps (world after : World L) (calls : List Call) : Prop where
  ordered : after.controller.Ordered
  frames : after.frames = world.frames ++ framesOf calls
  succeeds : world.controller.link.Succeeds after.controller.link

theorem Steps.refl {world : World L} (ordered : world.controller.Ordered) :
    world.Steps world [] :=
  ⟨ordered, (List.append_nil _).symm, .same rfl rfl id⟩

theorem Steps.trans {world middle after : World L} {early late : List Call}
    (first : world.Steps middle early) (second : middle.Steps after late) :
    world.Steps after (early ++ late) := by
  refine ⟨second.ordered, ?_, first.succeeds.trans second.succeeds⟩
  rw [second.frames, first.frames, framesOf_append, List.append_assoc]

theorem step_steps [Log.Logger L] {world : World L} (ordered : world.controller.Ordered)
    (input : Input) : world.Steps (world.step input).value (world.step input).calls := by
  have advances := world.step_advances input
  refine ⟨?_, advances.1, advances.2⟩
  rw [step_controller]
  exact ordered.turn input.turn

theorem run_steps [Log.Logger L] {world : World L} (ordered : world.controller.Ordered)
    (inputs : List Input) : world.Steps (world.run inputs).value (world.run inputs).calls := by
  induction inputs generalizing world with
  | nil => exact .refl ordered
  | cons input rest ih =>
      have first := step_steps ordered input
      rw [run, Trail.calls_bind]
      exact first.trans (ih first.ordered)

/-! ## The beginning -/

section Start

variable {instanceName : String} {aliasName : Option String} {specs : List ChannelSpec}
  {link : Link Simulator}

/-- A controller over a new link is in order, without a session, and nothing was sent. -/
theorem start_ordered (logger : Option L)
    (built : (Link.fresh instanceName aliasName {}).addChannels specs = .ok link) :
    (start link logger).controller.Ordered ∧ link.session = none ∧
      (start link logger).frames = [] := by
  obtain ⟨_, same⟩ := Link.addChannels_made built fun _ _ found => by cases found
  refine ⟨Controller.new_ordered logger built, ?_, ?_⟩
  · rw [same]
    rfl
  · change link.transport.frames = []
    rw [same]
    rfl

end Start

/-! ## One channel -/

/-- The shadow of a channel that only publishes goes along with what is sent on it. -/
theorem step_follows [Log.Logger L] {world : World L} (ordered : world.controller.Ordered)
    (input : Input) {id : ChannelId} {slot : Slot} (found : world.controller.slot? id = some slot)
    (deaf : slot.channel.direction.canSubscribe = false) :
    ∃ last, (world.step input).value.controller.slot? id = some last ∧
      slot.Follows (payloadsOn id (framesOf (world.step input).calls)) last := by
  cases input with
  | cycle enable go =>
      rw [step, Trail.calls_bind, Trail.calls_pure, List.append_nil]
      exact (Controller.cycle_cycled ordered enable go).follows found deaf
  | setImage target payload =>
      obtain ⟨value, there⟩ := Controller.written_slot ordered.sound found target payload
      exact ⟨_, there, .quiet rfl rfl rfl⟩
  | updateBuffered target update =>
      rcases Controller.updateBuffered_slot ordered.sound found target update with
        there | ⟨_, _, buffered, _⟩
      · exact ⟨slot, there, .quiet rfl rfl rfl⟩
      · -- A channel that never receives has no samples to take.
        have single := ((ordered.sound.slots found).deaf deaf).1
        rw [Channel.isBuffered, single] at buffered
        cases buffered
  | peer action => exact ⟨slot, found, .quiet rfl rfl rfl⟩

theorem run_follows [Log.Logger L] {world : World L} (ordered : world.controller.Ordered)
    (inputs : List Input) {id : ChannelId} {slot : Slot}
    (found : world.controller.slot? id = some slot)
    (deaf : slot.channel.direction.canSubscribe = false) :
    ∃ last, (world.run inputs).value.controller.slot? id = some last ∧
      slot.Follows (payloadsOn id (framesOf (world.run inputs).calls)) last := by
  induction inputs generalizing world slot with
  | nil => exact ⟨slot, found, .quiet rfl rfl rfl⟩
  | cons input rest ih =>
      obtain ⟨middle, there, first⟩ := step_follows ordered input found deaf
      rw [← first.direction] at deaf
      obtain ⟨last, beside, second⟩ := ih (step_steps ordered input).ordered there deaf
      refine ⟨last, beside, ?_⟩
      rw [run, Trail.calls_bind, framesOf_append, payloadsOn_append]
      exact first.trans second

/-! ## Sessions -/

/-- A session is over: it has a number of the past, and a link that is still in it is aborted. -/
structure Over (world : World L) (session : Session) : Prop where
  numbered : session < world.controller.link.transport.nextSession
  current {current : Session} (opened : world.controller.link.session = some current) :
    session < current ∨ world.controller.link.state = .aborted

theorem Over.steps {world after : World L} {session : Session} {calls : List Call}
    (finished : world.Over session) (steps : world.Steps after calls) : after.Over session := by
  refine ⟨Nat.lt_of_lt_of_le finished.numbered steps.succeeds.next_le, fun opened => ?_⟩
  rcases steps.succeeds.session opened with ⟨same, final⟩ | ⟨above, _⟩
  · exact (finished.current same).imp id final
  · exact .inl (Nat.lt_of_lt_of_le finished.numbered above)

/-- Nothing is sent in a session that is over. -/
theorem Over.step_frames [Log.Logger L] {world : World L} {session : Session} {input : Input}
    (finished : world.Over session) (ordered : world.controller.Ordered) {frame : Frame}
    (inside : frame ∈ framesOf (world.step input).calls) : session < frame.session := by
  cases input with
  | cycle enable go =>
      rw [step, Trail.calls_bind, Trail.calls_pure, List.append_nil] at inside
      obtain ⟨opened, up⟩ := (Controller.cycle_cycled ordered enable go).sessions inside
      exact (finished.current opened).resolve_right up
  | setImage id payload => cases inside
  | updateBuffered id update => cases inside
  | peer action => cases inside

theorem Over.run_frames [Log.Logger L] {world : World L} {session : Session} {inputs : List Input}
    (finished : world.Over session) (ordered : world.controller.Ordered) {frame : Frame}
    (inside : frame ∈ framesOf (world.run inputs).calls) : session < frame.session := by
  induction inputs generalizing world with
  | nil => cases inside
  | cons input rest ih =>
      have steps := step_steps ordered input
      rw [run, Trail.calls_bind, framesOf_append] at inside
      rcases List.mem_append.mp inside with first | later
      · exact finished.step_frames ordered first
      · exact ih (finished.steps steps) steps.ordered later

end World

end DatasetSync
