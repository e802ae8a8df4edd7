import DatasetSync.Proofs.Controller.Echo

/-!
# Taking samples into the image

A sample is taken out of its ring first and put into the image then.  The second part succeeds
because the image has the sizes of the channels, and that they agree is a matter of everything that
happens to a controller: nothing changes the size of a value, and the table of the link only grows.
It fails in one case.  A channel that was added after the image was made has no value there, and its
sample is gone by the time this shows.
-/

namespace DatasetSync

/-! ## The sizes of an image -/

namespace Image

def sizes (image : Image) : List Nat :=
  image.values.map Dataset.size

theorem sizes_set {image after : Image} {id : ChannelId} {payload : List UInt8}
    (written : image.set id payload = .ok after) : after.sizes = image.sizes := by
  obtain ⟨value, there, fits, rfl⟩ := set_ok written
  have same : Dataset.size ⟨payload⟩ = value.size := fits
  rw [sizes, sizes, List.map_set, same, ← List.map_set, set_eq_self there]

theorem sizes_trySet (image : Image) (id : ChannelId) (payload : List UInt8) :
    (image.trySet id payload).sizes = image.sizes := by
  unfold trySet
  cases written : image.set id payload with
  | error error => rfl
  | ok after => exact sizes_set written

/-- There is a value for a channel of which there is a size. -/
theorem value_of_size {image : Image} {id : ChannelId} {size : Nat}
    (known : image.sizes[id]? = some size) :
    ∃ value, image.values[id]? = some value ∧ value.size = size := by
  rw [sizes, List.getElem?_map] at known
  exact Option.map_eq_some_iff.mp known

end Image

/-! ## The samples of a channel -/

namespace Channel

/-- The samples that wait in a channel, oldest first. -/
def samples (channel : Channel) : List Sample :=
  (channel.buffer.map Ring.toList).getD []

variable {channel : Channel} {ring : Ring Sample} {sample : Sample} {rest : List Sample}

theorem pop_empty (buffered : channel.buffer = some ring) (wellFormed : ring.WellFormed)
    (nothing : channel.samples = []) : channel.pop = (channel, .error .empty) := by
  have waits : ring.toList = [] := by simpa [samples, buffered] using nothing
  refine pop_refused ?_
  simp [pop, popInto, buffered, wellFormed.popInto_eq, waits, Except.map]

theorem pop_front (buffered : channel.buffer = some ring) (wellFormed : ring.WellFormed)
    (front : channel.samples = sample :: rest) :
    channel.pop = (channel.afterPop default, .ok sample) := by
  have waits : ring.toList = sample :: rest := by simpa [samples, buffered] using front
  refine Prod.ext channel.pop_fst ?_
  simp [pop, popInto, buffered, wellFormed.popInto_eq, waits, Except.map]

theorem pending_eq (buffered : channel.buffer = some ring) (wellFormed : ring.WellFormed) :
    channel.pending = channel.samples.length := by
  simp [pending, samples, buffered, wellFormed.length_toList]

/-- What is left of a channel whose oldest sample was taken. -/
theorem afterPop_front (buffered : channel.buffer = some ring) (wellFormed : ring.WellFormed)
    (front : channel.samples = sample :: rest) :
    (channel.afterPop default).samples = rest ∧
      (channel.afterPop default).pending = rest.length ∧
      (channel.afterPop default).overflows = channel.overflows := by
  have waits : ring.toList = sample :: rest := by simpa [samples, buffered] using front
  have after : (channel.afterPop default).buffer = some (ring.popped default) := by
    simp [afterPop, buffered, wellFormed.popInto_eq, waits]
  have left := wellFormed.toList_popped_cons waits default
  refine ⟨?_, ?_, ?_⟩
  · simp [samples, after, left]
  · rw [pending_eq after (wellFormed.popped default)]
    simp [samples, after, left]
  · simp [overflows, after, buffered, Ring.popped]

end Channel

namespace Link

variable {T : Type} [Transport T] {link middle after : Link T}

/-- What a controller asks of its link in a cycle. -/
inductive Operation.Driven : Operation T → Prop where
  | connect : Driven (.single .connect)
  | setOperational : Driven (.single .setOperational)
  | disconnect : Driven (.single .disconnect)
  | publish (id : ChannelId) (payload : List UInt8) : Driven (.single (.publish id payload))
  | takeUpdated (id : ChannelId) : Driven (.single (.takeUpdated id))
  | process : Driven .process

/-- A link comes to be another through what a controller asks of it. -/
def DrivenTo (link after : Link T) : Prop :=
  ∃ operations : List (Operation T),
    (∀ operation ∈ operations, operation.Driven) ∧ link.run operations = after

namespace DrivenTo

theorem refl (link : Link T) : link.DrivenTo link :=
  ⟨[], fun _ inside => (List.not_mem_nil inside).elim, rfl⟩

theorem trans (first : link.DrivenTo middle) (second : middle.DrivenTo after) :
    link.DrivenTo after := by
  obtain ⟨early, driven, rfl⟩ := first
  obtain ⟨late, more, rfl⟩ := second
  exact ⟨early ++ late, List.forall_mem_append.mpr ⟨driven, more⟩, run_append link early late⟩

theorem single {operation : Operation T} (driven : operation.Driven) :
    link.DrivenTo (operation.run link) := by
  refine ⟨[operation], fun other inside => ?_, rfl⟩
  rw [List.mem_singleton.mp inside]
  exact driven

theorem reaches (driven : link.DrivenTo after) : ∃ past, Reaches link past after := by
  obtain ⟨operations, _, rfl⟩ := driven
  exact ⟨_, reaches_run link operations⟩

/-- What holds at the start and is kept by every request holds in the end. -/
theorem invariant (driven : link.DrivenTo after) (holds : Link T → Prop)
    (step : ∀ {operation : Operation T}, operation.Driven →
      ∀ {link}, holds link → holds (operation.run link))
    (initial : holds link) : holds after := by
  obtain ⟨operations, all, rfl⟩ := driven
  induction operations generalizing link with
  | nil => exact initial
  | cons operation rest ih =>
      rw [List.forall_mem_cons] at all
      exact ih (step all.1 initial) all.2

end DrivenTo

theorem reaches_step (link : Link T) (step : Step T) :
    ∃ past, Reaches link past (step.run link) :=
  ⟨_, Reaches.refl.tail step⟩

theorem Reaches.table_extends {past : List (Moment T)} (reached : Reaches link past after) :
    link.table <+: after.table := by
  induction reached with
  | refl => exact List.prefix_rfl
  | @tail past middle before step ih => exact ih.trans (step.table_grows middle)

end Link

namespace Controller

variable {T L : Type} [Transport T] {controller middle after : Controller T L}

/-! ## What a cycle does to the link and to the sizes -/

/-- The link was driven on, and no value changed its size. -/
structure Drives (controller after : Controller T L) : Prop where
  link : controller.link.DrivenTo after.link
  image : after.image.sizes = controller.image.sizes
  shadow : after.shadow.sizes = controller.shadow.sizes

namespace Drives

theorem refl (controller : Controller T L) : controller.Drives controller :=
  ⟨.refl _, rfl, rfl⟩

theorem trans (first : controller.Drives middle) (second : middle.Drives after) :
    controller.Drives after :=
  ⟨first.link.trans second.link, second.image.trans first.image,
    second.shadow.trans first.shadow⟩

/-- Only the link moved, and what is not looked at here. -/
theorem stands {link : Link T} {phase : Phase} {active : Bool}
    (stands : after.Stands link controller.image controller.shadow phase active)
    (driven : controller.link.DrivenTo link) : controller.Drives after := by
  refine ⟨?_, ?_, ?_⟩
  · rw [stands.link_eq]
    exact driven
  · rw [stands.image_eq]
  · rw [stands.shadow_eq]

theorem keeps (keeps : controller.Keeps after) : controller.Drives after :=
  .stands keeps (.refl _)

/-- A request to the link, and what the controller does with the answer. -/
theorem request {α : Type} {asked : Trail Effect (Link T × α)}
    {next : Link T × α → Trail Effect (Controller T L)}
    (driven : controller.link.DrivenTo asked.value.1)
    (later : ∀ answer, Drives { controller with link := asked.value.1 }
      (next (asked.value.1, answer)).value) : controller.Drives (asked >>= next).value := by
  have moved : controller.Drives { controller with link := asked.value.1 } :=
    ⟨driven, rfl, rfl⟩
  exact moved.trans (later asked.value.2)

end Drives

theorem absorbed_drives (controller : Controller T L) (id : ChannelId) (publishable : Bool)
    (payload : List UInt8) :
    controller.Drives (controller.absorbed id publishable payload) := by
  unfold absorbed
  cases written : controller.image.set id payload with
  | error error => exact .refl controller
  | ok image =>
      refine ⟨.refl _, Image.sizes_set written, ?_⟩
      change (if publishable then _ else _ : Image).sizes = _
      split
      · exact controller.shadow.sizes_trySet id payload
      · rfl

theorem copySubscription_drives (controller : Controller T L) (id : ChannelId) :
    controller.Drives (controller.copySubscription id) := by
  cases found : controller.link.channels[id]? with
  | none =>
      rw [copySubscription, found]
      exact .refl controller
  | some channel =>
      rcases copySubscription_eq found with same | copied
      · rw [same]
        exact .refl controller
      · have looked : controller.link.DrivenTo _ := .single (.takeUpdated id)
        rw [Link.Operation.run, Link.Step.run, Link.takeUpdated_link, Link.changeChannel,
          found] at looked
        have seen : controller.Drives { controller with
            link := controller.link.setChannel id { channel with updated := false } } :=
          ⟨looked, rfl, rfl⟩
        rw [copied]
        exact seen.trans (absorbed_drives _ _ _ _)

theorem copySubscriptions_drives (controller : Controller T L) :
    controller.Drives controller.copySubscriptions := by
  have all (targets : List ChannelId) (controller : Controller T L) :
      controller.Drives (targets.foldl copySubscription controller) := by
    induction targets generalizing controller with
    | nil => exact .refl controller
    | cons target rest ih => exact (controller.copySubscription_drives target).trans (ih _)
  exact all _ controller

theorem enter_drives (controller : Controller T L) (phase : Phase) :
    controller.Drives (controller.enter phase) :=
  ⟨.refl _, rfl, rfl⟩

theorem settle_drives (controller : Controller T L) (enable : Bool) :
    controller.Drives (controller.settle enable) := by
  cases enable with
  | true => exact .refl controller
  | false => exact controller.enter_drives .idle

section Cycles

variable [Log.Logger L]

theorem publishChanges_drives (controller : Controller T L) (ids : List ChannelId) :
    controller.Drives (controller.publishChanges ids).value := by
  induction ids generalizing controller with
  | nil => exact .refl controller
  | cons id rest ih =>
      rw [publishChanges]
      cases controller.change? id with
      | none => exact ih controller
      | some value =>
          refine .request (.single (.publish id value)) fun answer => ?_
          cases answer with
          | ok done =>
              let sent : Controller T L := { controller with
                link := (controller.link.publish id value).value.1
                shadow := controller.shadow.trySet id value }
              have held : Drives { controller with
                  link := (controller.link.publish id value).value.1 } sent :=
                ⟨.refl _, rfl, controller.shadow.sizes_trySet id value⟩
              exact held.trans (ih sent)
          | error error =>
              dsimp only
              split
              · exact ih _
              · exact .keeps (recordError_keeps _ "publish" error).1

theorem exchange_drives (controller : Controller T L) :
    controller.Drives controller.exchange.value := by
  obtain ⟨base, keeps, value, _⟩ := controller.exchange_eq
  have fetched : controller.Drives base := .stands keeps (.single .process)
  have flushed : base.Drives base.flush.value :=
    base.copySubscriptions_drives.trans (base.copySubscriptions.publishChanges_drives _)
  obtain ⟨_, _, stands⟩ := base.flush.value.concluded_stands
  rw [value]
  exact (fetched.trans flushed).trans (.stands stands (.refl _))

theorem start_drives (controller : Controller T L) :
    controller.Drives controller.start.value := by
  unfold start
  split
  · refine .request (.single .setOperational) fun answer => ?_
    cases answer with
    | ok done => exact (enter_drives _ .running).trans (exchange_drives _)
    | error error => exact .stands (fail_stands _ "set operational" error).1 (.refl _)
  · exact (controller.enter_drives .running).trans (exchange_drives _)
  · exact controller.exchange_drives
  · exact controller.exchange_drives

theorem run_drives (controller : Controller T L) (go : Bool) :
    controller.Drives (controller.run go).value := by
  unfold run
  split
  · exact (controller.enter_drives .waitStart).trans (exchange_drives _)
  · split
    · exact controller.start_drives
    · exact controller.exchange_drives

theorem disconnect_drives (controller : Controller T L) :
    controller.Drives controller.disconnect.value := by
  unfold disconnect
  split
  · refine .request (.single .disconnect) fun answer => ?_
    cases answer with
    | ok done => exact .refl _
    | error error => exact .keeps (recordError_keeps _ "disconnect" error).1
  · exact .refl controller

theorem teardown_drives (controller : Controller T L) :
    controller.Drives controller.teardown.value := by
  have ended := controller.disconnect_drives
  unfold teardown
  rw [Trail.value_bind]
  cases controller.disconnect.value.active <;> exact ⟨ended.link, ended.image, ended.shadow⟩

theorem advance_drives (controller : Controller T L) (enable go : Bool) :
    controller.Drives (controller.advance enable go).value := by
  unfold advance
  split
  · cases enable with
    | true => exact controller.enter_drives .connecting
    | false => exact .refl controller
  · exact .stands controller.connect_stands.1 (.single .connect)
  · exact controller.run_drives go
  · exact controller.run_drives go
  · exact controller.teardown_drives.trans (settle_drives _ enable)
  · exact controller.settle_drives enable

/-- A cycle drives the link, and leaves the sizes alone. -/
theorem cycle_drives (controller : Controller T L) (enable go : Bool) :
    controller.Drives (controller.cycle enable go).value := by
  let begun : Controller T L := { controller with
    phase := if !enable && controller.phase != .idle then .teardown else controller.phase
    cycleError := false }
  have begins : controller.Drives begun := ⟨.refl _, rfl, rfl⟩
  exact (begins.trans (begun.advance_drives enable go)).trans
    (.keeps (begun.advance enable go).value.processLog_keeps.1)

end Cycles

/-! ## Everything that can happen -/

/-- The link went its way step by step, and no value changed its size. -/
structure Evolves (controller after : Controller T L) : Prop where
  link : ∃ past, Link.Reaches controller.link past after.link
  image : after.image.sizes = controller.image.sizes
  shadow : after.shadow.sizes = controller.shadow.sizes

namespace Evolves

theorem refl (controller : Controller T L) : controller.Evolves controller :=
  ⟨⟨[], .refl⟩, rfl, rfl⟩

theorem trans (first : controller.Evolves middle) (second : middle.Evolves after) :
    controller.Evolves after := by
  obtain ⟨early, reached⟩ := first.link
  obtain ⟨late, further⟩ := second.link
  exact ⟨⟨early ++ late, reached.trans further⟩, second.image.trans first.image,
    second.shadow.trans first.shadow⟩

theorem of_drives (drives : controller.Drives after) : controller.Evolves after :=
  ⟨drives.link.reaches, drives.image, drives.shadow⟩

end Evolves

theorem written_evolves (controller : Controller T L) (id : ChannelId) (payload : List UInt8) :
    controller.Evolves (controller.written id payload) := by
  unfold written setImage
  cases set : controller.image.set id payload with
  | error error => exact .refl controller
  | ok image => exact ⟨⟨[], .refl⟩, Image.sizes_set set, rfl⟩

theorem updateBuffered_evolves (controller : Controller T L) (id : ChannelId) (update : Bool) :
    controller.Evolves (controller.updateBuffered id update).1 := by
  rcases controller.updateBuffered_eq id update with
    same | ⟨_, channel, sample, found, _, _, taken⟩
  · rw [same]
    exact .refl controller
  · have popped := controller.link.reaches_step (.popInto id default)
    rw [Link.Step.run, Link.popInto_link, Link.changeChannel, found] at popped
    have gone : controller.Evolves { controller with
        link := controller.link.setChannel id (channel.afterPop default) } :=
      ⟨popped, rfl, rfl⟩
    rw [taken, showSample_eq]
    exact gone.trans (.of_drives (absorbed_drives _ _ _ _))

theorem turn_evolves [Log.Logger L] (controller : Controller T L) (turn : Turn T) :
    controller.Evolves (controller.turn turn) := by
  cases turn with
  | cycle enable go => exact .of_drives (controller.cycle_drives enable go)
  | setImage id payload => exact controller.written_evolves id payload
  | updateBuffered id update => exact controller.updateBuffered_evolves id update
  | meanwhile change => exact ⟨controller.link.reaches_step (.meanwhile change), rfl, rfl⟩

/-- What happens to a controller: a turn, or something that its owner does to the link or to the
logger behind its back.  The owner leaves it the link and the image that it was made with. -/
inductive Use (T L : Type) where
  | turn (turn : Turn T)
  | onLink (operation : Link.Operation T)
  | onLogger (change : L → L)

section Uses

variable [Log.Logger L]

def use (controller : Controller T L) : Use T L → Controller T L
  | .turn turn => controller.turn turn
  | .onLink operation => { controller with link := operation.run controller.link }
  | .onLogger change => { controller with logger := controller.logger.map change }

def uses (controller : Controller T L) (all : List (Use T L)) : Controller T L :=
  all.foldl use controller

theorem use_evolves (controller : Controller T L) (use : Use T L) :
    controller.Evolves (controller.use use) := by
  cases use with
  | turn turn => exact controller.turn_evolves turn
  | onLink operation => exact ⟨⟨_, Link.reaches_run controller.link [operation]⟩, rfl, rfl⟩
  | onLogger change => exact ⟨⟨[], .refl⟩, rfl, rfl⟩

theorem uses_evolves (controller : Controller T L) (all : List (Use T L)) :
    controller.Evolves (controller.uses all) := by
  induction all generalizing controller with
  | nil => exact .refl controller
  | cons use rest ih => exact (controller.use_evolves use).trans (ih _)

end Uses

/-- The link was made and used step by step, and the image and the shadow have the sizes of its
first channels. -/
structure Fitted (controller : Controller T L) : Prop where
  reached : ∃ (start : Link T) (past : List (Link.Moment T)),
    start.channels = [] ∧ Link.Reaches start past controller.link
  image : controller.image.sizes <+: controller.link.table.map Descriptor.byteSize
  shadow : controller.shadow.sizes = controller.image.sizes

namespace Fitted

theorem evolves (fitted : controller.Fitted) (evolves : controller.Evolves after) :
    after.Fitted := by
  obtain ⟨start, past, bare, reached⟩ := fitted.reached
  obtain ⟨later, further⟩ := evolves.link
  refine ⟨⟨start, _, bare, reached.trans further⟩, ?_, ?_⟩
  · rw [evolves.image]
    exact fitted.image.trans (further.table_extends.map _)
  · rw [evolves.image, evolves.shadow, fitted.shadow]

/-- A new controller over a link that was made and used. -/
theorem new {start : Link T} (origin : start.Origin) (operations : List (Link.Operation T))
    (logger : Option L) : (Controller.new (start.run operations) logger).Fitted := by
  obtain ⟨instanceName, aliasName, transport, past, made, _⟩ := origin.reached
  refine ⟨⟨_, _, rfl, made.trans (Link.reaches_run start operations)⟩, ?_, rfl⟩
  have sizes : (Controller.new (start.run operations) logger).image.sizes =
      (start.run operations).table.map Descriptor.byteSize := by
    simp [Controller.new, Image.sizes, Image.ofChannels, Link.table, Channel.descriptor,
      Dataset.clear, Dataset.zeros, Dataset.size, Channel.byteSize]
  rw [sizes]
  exact List.prefix_rfl

variable {id : ChannelId} {channel : Channel}

/-- A value of the image has the size of its channel, and there is one beside it in the shadow. -/
theorem value (fitted : controller.Fitted) (inside : id < controller.image.size)
    (found : controller.link.channels[id]? = some channel) :
    (∃ value, controller.image.values[id]? = some value ∧ value.size = channel.byteSize) ∧
      ∃ held, controller.shadow.values[id]? = some held ∧ held.size = channel.byteSize := by
  have known : controller.image.sizes[id]? = some channel.byteSize := by
    have within : id < controller.image.sizes.length := by
      rw [Image.sizes, List.length_map]
      exact inside
    obtain ⟨rest, whole⟩ := fitted.image
    rw [← List.getElem?_append_left within, whole, List.getElem?_map, Link.table_eq_some found]
    rfl
  exact ⟨Image.value_of_size known, Image.value_of_size (fitted.shadow.symm ▸ known)⟩

/-- The ring of a channel is in order, and its oldest sample has the size of the channel. -/
theorem ring (fitted : controller.Fitted) {ring : Ring Sample}
    (found : controller.link.channels[id]? = some channel) (buffered : channel.buffer = some ring) :
    ring.WellFormed ∧ ∀ sample rest, channel.samples = sample :: rest →
      sample.bytes.length = channel.byteSize := by
  obtain ⟨start, past, bare, reached⟩ := fitted.reached
  have accounts := reached.accounts bare found buffered
  refine ⟨accounts.wellFormed, fun sample rest front => ?_⟩
  have waits : ring.toList = sample :: rest := by simpa [Channel.samples, buffered] using front
  apply reached.samples_fit bare found buffered
  rw [accounts.wellFormed.peek_eq, waits]
  rfl

end Fitted

/-! ## Taking a sample -/

def shown (controller : Controller T L) (id : ChannelId) (channel : Channel) (sample : Sample) :
    Controller T L :=
  { controller with
    link := controller.link.setChannel id (channel.afterPop default)
    image := ⟨controller.image.values.set id ⟨sample.bytes⟩⟩
    shadow := if channel.direction.canPublish then
        ⟨controller.shadow.values.set id ⟨sample.bytes⟩⟩
      else controller.shadow }

/-- The controller after a sample was taken out and went nowhere. -/
def bereft (controller : Controller T L) (id : ChannelId) (channel : Channel) : Controller T L :=
  { controller with link := controller.link.setChannel id (channel.afterPop default) }

/-- A sample waits at the front of a channel, and its owner asks for it. -/
structure Asks (controller : Controller T L) (id : ChannelId) (update : Bool) (channel : Channel)
    (sample : Sample) (rest : List Sample) : Prop where
  found : controller.link.channels[id]? = some channel
  asked : update = true
  front : channel.samples = sample :: rest

inductive Taking (controller : Controller T L) (id : ChannelId) (update : Bool) :
    Controller T L × Except Error BufferStatus → Prop where
  | refused {error : Error} (idle : ∀ channel sample rest,
      ¬ controller.Asks id update channel sample rest) :
      Taking controller id update (controller, .error error)
  | looked {channel : Channel} (found : controller.link.channels[id]? = some channel)
      (idle : ∀ channel sample rest, ¬ controller.Asks id update channel sample rest) :
      Taking controller id update (controller, .ok (bufferStatus channel false))
  | taken {channel : Channel} {sample : Sample} {rest : List Sample}
      (asks : controller.Asks id update channel sample rest)
      (inside : id < controller.image.size) :
      Taking controller id update
        (controller.shown id channel sample, .ok (bufferStatus (channel.afterPop default) true))
  | lost {channel : Channel} {sample : Sample} {rest : List Sample}
      (asks : controller.Asks id update channel sample rest)
      (beyond : controller.image.size ≤ id) :
      Taking controller id update
        (controller.bereft id channel, .error (.notFound s!"channel {id.label}"))

/-- A sample that fits is shown if the image has a value for its channel. -/
theorem Fitted.showSample (fitted : controller.Fitted) {id : ChannelId} {channel : Channel}
    {sample : Sample} (found : controller.link.channels[id]? = some channel)
    (fits : sample.bytes.length = channel.byteSize) :
    (controller.bereft id channel).showSample id (channel.afterPop default) sample =
      if id < controller.image.size then
        (controller.shown id channel sample, .ok (bufferStatus (channel.afterPop default) true))
      else (controller.bereft id channel, .error (.notFound s!"channel {id.label}")) := by
  have direction : (channel.afterPop default).direction = channel.direction := rfl
  split
  · rename_i inside
    obtain ⟨⟨value, there, size⟩, held, beside, heldSize⟩ := fitted.value inside found
    have image := Image.set_eq there (fits.trans size.symm)
    have shadow := Image.set_eq beside (fits.trans heldSize.symm)
    unfold Controller.showSample shown bereft
    simp only [image, direction]
    split
    · simp only [shadow]
    · rfl
  · rename_i outside
    have nothing : controller.image.values[id]? = none :=
      List.getElem?_eq_none (Nat.le_of_not_lt outside)
    have refused : controller.image.set id sample.bytes =
        .error (.notFound s!"channel {id.label}") := by rw [Image.set, nothing]
    unfold Controller.showSample bereft
    simp only [refused]

/-- Taking a sample comes to one of four things. -/
theorem Fitted.updateBuffered (fitted : controller.Fitted) (id : ChannelId) (update : Bool) :
    controller.Taking id update (controller.updateBuffered id update) := by
  unfold Controller.updateBuffered Link.channel
  cases found : controller.link.channels[id]? with
  | none =>
      refine .refused fun channel sample rest asks => ?_
      cases found.symm.trans asks.found
  | some channel =>
      have own {other : Channel} {sample : Sample} {rest : List Sample}
          (asks : controller.Asks id update other sample rest) : other = channel := by
        cases found.symm.trans asks.found
        rfl
      cases buffered : channel.buffer with
      | none =>
          have bare : channel.isBuffered = false := by rw [Channel.isBuffered, buffered]; rfl
          simp only [bare, Bool.not_false, ↓reduceIte]
          refine .refused fun other sample rest asks => ?_
          have front := asks.front
          rw [own asks, Channel.samples, buffered] at front
          cases front
      | some ring =>
          have ringed : channel.isBuffered = true := by rw [Channel.isBuffered, buffered]; rfl
          obtain ⟨wellFormed, fits⟩ := fitted.ring found buffered
          simp only [ringed, Bool.not_true, Bool.false_eq_true, ↓reduceIte]
          cases update with
          | false =>
              refine .looked found fun other sample rest asks => ?_
              cases asks.asked
          | true =>
              simp only [Bool.not_true, Bool.false_eq_true, ↓reduceIte]
              cases front : channel.samples with
              | nil =>
                  rw [Channel.pop_empty buffered wellFormed front]
                  dsimp only
                  rw [Link.setChannel_self found]
                  refine .looked found fun other sample rest asks => ?_
                  have some := asks.front
                  rw [own asks, front] at some
                  cases some
              | cons sample rest =>
                  have asks : controller.Asks id true channel sample rest := ⟨found, rfl, front⟩
                  rw [Channel.pop_front buffered wellFormed front]
                  change controller.Taking id true
                    ((controller.bereft id channel).showSample id (channel.afterPop default) sample)
                  rw [fitted.showSample found (fits sample rest front)]
                  split
                  · exact .taken asks ‹_›
                  · exact .lost asks (Nat.le_of_not_lt ‹_›)

section Outcomes

variable {id : ChannelId} {update : Bool} {channel : Channel} {sample : Sample}
  {rest : List Sample}

/-- What is left in a channel whose front sample was taken. -/
theorem Asks.left (asks : controller.Asks id update channel sample rest)
    (fitted : controller.Fitted) :
    (channel.afterPop default).samples = rest ∧
      (channel.afterPop default).pending = rest.length ∧ channel.pending = rest.length + 1 ∧
      (channel.afterPop default).overflows = channel.overflows := by
  cases buffered : channel.buffer with
  | none =>
      have front := asks.front
      rw [Channel.samples, buffered] at front
      cases front
  | some ring =>
      obtain ⟨wellFormed, _⟩ := fitted.ring asks.found buffered
      obtain ⟨samples, pending, overflows⟩ :=
        Channel.afterPop_front buffered wellFormed asks.front
      refine ⟨samples, pending, ?_, overflows⟩
      rw [Channel.pending_eq buffered wellFormed, asks.front, List.length_cons]

/-- Nothing of the other channels was touched, and no count of refused samples. -/
structure Spares (controller after : Controller T L) (id : ChannelId) : Prop where
  channels {other : ChannelId} (apart : other ≠ id) :
    after.link.channels[other]? = controller.link.channels[other]?
  image {other : ChannelId} (apart : other ≠ id) :
    after.image.values[other]? = controller.image.values[other]?
  shadow {other : ChannelId} (apart : other ≠ id) :
    after.shadow.values[other]? = controller.shadow.values[other]?
  overflows : after.link.channels.map Channel.overflows =
    controller.link.channels.map Channel.overflows

theorem Asks.spares (asks : controller.Asks id update channel sample rest)
    (fitted : controller.Fitted) :
    controller.Spares (controller.bereft id channel) id ∧
      controller.Spares (controller.shown id channel sample) id := by
  obtain ⟨_, _, _, same⟩ := asks.left fitted
  have overflows : (controller.link.channels.set id (channel.afterPop default)).map
      Channel.overflows = controller.link.channels.map Channel.overflows := by
    rw [List.map_set, same, ← List.map_set, set_eq_self asks.found]
  constructor
  · exact ⟨fun apart => List.getElem?_set_ne apart.symm, fun _ => rfl, fun _ => rfl, overflows⟩
  · refine ⟨fun apart => List.getElem?_set_ne apart.symm,
      fun apart => List.getElem?_set_ne apart.symm, fun apart => ?_, overflows⟩
    change (if _ then _ else _ : Image).values[_]? = _
    split
    · exact List.getElem?_set_ne apart.symm
    · rfl

/-- A sample that was taken shows in the image, and in the shadow if it could be sent back. -/
theorem Asks.shown_values (asks : controller.Asks id update channel sample rest)
    (fitted : controller.Fitted) (inside : id < controller.image.size) :
    (controller.shown id channel sample).image.values[id]? = some ⟨sample.bytes⟩ ∧
      (controller.shown id channel sample).shadow.values[id]? =
        if channel.direction.canPublish then some ⟨sample.bytes⟩
        else controller.shadow.values[id]? := by
  obtain ⟨_, held, beside, _⟩ := fitted.value inside asks.found
  constructor
  · exact List.getElem?_set_self inside
  · change (if _ then _ else _ : Image).values[_]? = _
    split
    · exact List.getElem?_set_self (List.getElem?_eq_some_iff.mp beside).1
    · rfl

namespace Taking

variable {outcome : Controller T L × Except Error BufferStatus}

theorem spares (taking : controller.Taking id update outcome) (fitted : controller.Fitted) :
    controller.Spares outcome.1 id := by
  cases taking with
  | refused idle => exact ⟨fun _ => rfl, fun _ => rfl, fun _ => rfl, rfl⟩
  | looked found idle => exact ⟨fun _ => rfl, fun _ => rfl, fun _ => rfl, rfl⟩
  | taken asks inside => exact (asks.spares fitted).2
  | lost asks beyond => exact (asks.spares fitted).1

omit [Transport T] in
/-- An error changes nothing, or a sample is lost. -/
theorem failed (taking : controller.Taking id update outcome) {error : Error}
    (answer : outcome.2 = .error error) :
    outcome.1 = controller ∨
      controller.image.size ≤ id ∧ error = .notFound s!"channel {id.label}" ∧
        ∃ channel sample rest, controller.Asks id update channel sample rest ∧
          outcome.1 = controller.bereft id channel := by
  cases taking with
  | refused idle => exact .inl rfl
  | looked found idle => cases answer
  | taken asks inside => cases answer
  | lost asks beyond =>
      cases answer
      exact .inr ⟨beyond, rfl, _, _, _, asks, rfl⟩

omit [Transport T] in
/-- What was asked for is lost or shown, depending on whether the image has a place for it. -/
theorem asked (taking : controller.Taking id update outcome)
    (asks : controller.Asks id update channel sample rest) :
    (controller.image.size ≤ id →
        outcome = (controller.bereft id channel, .error (.notFound s!"channel {id.label}"))) ∧
      (id < controller.image.size → ∃ status, outcome.2 = .ok status ∧ status.updated = true) := by
  cases taking with
  | refused idle => exact absurd asks (idle channel sample rest)
  | looked found idle => exact absurd asks (idle channel sample rest)
  | taken other inside =>
      exact ⟨fun beyond => absurd inside (Nat.not_lt_of_le beyond), fun _ => ⟨_, rfl, rfl⟩⟩
  | lost other beyond =>
      cases asks.found.symm.trans other.found
      exact ⟨fun _ => rfl, fun inside => absurd inside (Nat.not_lt_of_le beyond)⟩

/-- A sample that is said to be taken was asked for and shows. -/
theorem granted (taking : controller.Taking id update outcome) (fitted : controller.Fitted)
    {status : BufferStatus} (answer : outcome.2 = .ok status) (updated : status.updated = true) :
    ∃ channel sample rest, controller.Asks id update channel sample rest ∧
      outcome.1 = controller.shown id channel sample ∧
      outcome.1.image.values[id]? = some ⟨sample.bytes⟩ ∧
      (outcome.1.shadow.values[id]? =
        if channel.direction.canPublish then some ⟨sample.bytes⟩
        else controller.shadow.values[id]?) ∧
      status.pending + 1 = channel.pending := by
  cases taking with
  | refused idle => cases answer
  | looked found idle =>
      cases answer
      cases updated
  | taken asks inside =>
      cases answer
      obtain ⟨_, pending, before, _⟩ := asks.left fitted
      obtain ⟨image, shadow⟩ := asks.shown_values fitted inside
      refine ⟨_, _, _, asks, rfl, image, shadow, ?_⟩
      rw [before, ← pending]
      rfl
  | lost asks beyond => cases answer

omit [Transport T] in
/-- No sample is said to be taken, and none was. -/
theorem unchanged (taking : controller.Taking id update outcome) {status : BufferStatus}
    (answer : outcome.2 = .ok status) (still : status.updated = false) :
    outcome.1 = controller := by
  cases taking with
  | refused idle => rfl
  | looked found idle => rfl
  | taken asks inside =>
      cases answer
      cases still
  | lost asks beyond => cases answer

end Taking

end Outcomes

/-- However a link was made and used, and whatever happens to a controller over it and to its link:
a sample is taken into the image whole, or nothing changes, with one exception.  If the image has no
value for the channel, because the channel was added later, a sample that is asked for is answered
by an error and lost.  Other channels and the counts of refused samples are never touched. -/
theorem samples_are_taken_whole_unless_the_image_lacks_them [Log.Logger L] {start : Link T}
    (origin : start.Origin) (operations : List (Link.Operation T)) (logger : Option L)
    (history : List (Use T L)) (id : ChannelId) (update : Bool) :
    let controller := (new (start.run operations) logger).uses history
    let outcome := controller.updateBuffered id update
    (∀ error, outcome.2 = .error error →
      outcome.1 = controller ∨
        controller.image.size ≤ id ∧ error = .notFound s!"channel {id.label}" ∧
          ∃ channel sample rest, controller.Asks id update channel sample rest ∧
            outcome.1 = controller.bereft id channel) ∧
    (∀ channel sample rest, controller.Asks id update channel sample rest →
      (channel.afterPop default).samples = rest ∧
        (channel.afterPop default).pending + 1 = channel.pending ∧
        (controller.image.size ≤ id →
          outcome = (controller.bereft id channel, .error (.notFound s!"channel {id.label}"))) ∧
        (id < controller.image.size → ∃ status, outcome.2 = .ok status ∧ status.updated = true)) ∧
    (∀ status, outcome.2 = .ok status → status.updated = true →
      ∃ channel sample rest, controller.Asks id update channel sample rest ∧
        outcome.1 = controller.shown id channel sample ∧
        outcome.1.image.values[id]? = some ⟨sample.bytes⟩ ∧
        (outcome.1.shadow.values[id]? =
          if channel.direction.canPublish then some ⟨sample.bytes⟩
          else controller.shadow.values[id]?) ∧
        status.pending + 1 = channel.pending) ∧
    (∀ status, outcome.2 = .ok status → status.updated = false → outcome.1 = controller) ∧
    controller.Spares outcome.1 id := by
  intro controller outcome
  have fitted : controller.Fitted :=
    (Fitted.new origin operations logger).evolves (uses_evolves _ history)
  have taking : controller.Taking id update outcome := fitted.updateBuffered id update
  refine ⟨fun _ => taking.failed, ?_, fun _ => taking.granted fitted, fun _ => taking.unchanged,
    taking.spares fitted⟩
  intro channel sample rest asks
  obtain ⟨left, pending, before, _⟩ := asks.left fitted
  refine ⟨left, ?_, taking.asked asks⟩
  rw [pending, before]

def single (spec : ChannelSpec) : List (Link.Operation Simulator) :=
  [.single (.addChannel spec)]

/-- A second channel is added behind the back of the controller, which then runs; the peer sends
events, and they are fetched. -/
def extension (spec : ChannelSpec) (events : List InboundEvent) :
    List (Use Simulator Log.Station) :=
  [.onLink (.single (.addChannel spec)), .turn (.cycle true true), .turn (.cycle true true),
      .turn (.cycle true true)] ++
    events.map (fun event => .turn (.meanwhile (·.inject event))) ++ [.turn (.cycle true true)]

def extended (first second : ChannelSpec) (events : List InboundEvent) :
    Controller Simulator Log.Station :=
  (new ((Link.fresh "line" none {}).run (single first)) none).uses (extension second events)

theorem early_sample_is_taken_whole :
    let controller := extended ⟨"early", .both, 2, some 3⟩ ⟨"late", .subscribe, 1, some 3⟩
      [.channelUpdated 0 [1, 2] 5, .channelUpdated 0 [3, 4] 6]
    let outcome := controller.updateBuffered 0 true
    outcome.2 = .ok ⟨true, 1, 0⟩ ∧
      ∃ channel sample rest, controller.Asks 0 true channel sample rest ∧
        outcome.1 = controller.shown 0 channel sample ∧
        outcome.1.image.values[0]? = some ⟨sample.bytes⟩ ∧
        outcome.1.image.values[0]? = some ⟨[1, 2]⟩ ∧ channel.pending = 2 := by
  intro controller outcome
  have answer : outcome.2 = .ok ⟨true, 1, 0⟩ := by decide +kernel
  have value : outcome.1.image.values[0]? = some ⟨[1, 2]⟩ := by decide +kernel
  have general := samples_are_taken_whole_unless_the_image_lacks_them
    (.new "line" none ({} : Simulator)) (single ⟨"early", .both, 2, some 3⟩)
    (none : Option Log.Station) (extension ⟨"late", .subscribe, 1, some 3⟩
      [.channelUpdated 0 [1, 2] 5, .channelUpdated 0 [3, 4] 6]) 0 true
  obtain ⟨channel, sample, rest, asks, shown, image, _, pending⟩ := general.2.2.1 _ answer rfl
  exact ⟨answer, channel, sample, rest, asks, shown, image, value, pending.symm⟩

/-- The channel that was added has a sample, the request for it fails, and the sample is gone. -/
theorem late_sample_is_lost :
    let controller := extended ⟨"setpoint", .publish, 1, none⟩ ⟨"samples", .subscribe, 1, some 3⟩
      [.channelUpdated 1 [7] 5]
    let outcome := controller.updateBuffered 1 true
    controller.link.channels[1]?.map Channel.samples = some [⟨[7], 5⟩] ∧
      outcome.2 = .error (.notFound "channel #1") ∧
      outcome.1.link.channels[1]?.map Channel.samples = some [] ∧
      outcome.1.link ≠ controller.link := by
  intro controller outcome
  have waits : controller.link.channels[1]?.map Channel.samples = some [⟨[7], 5⟩] := by
    decide +kernel
  have gone : outcome.1.link.channels[1]?.map Channel.samples = some [] := by decide +kernel
  refine ⟨waits, by decide +kernel, gone, fun same => ?_⟩
  rw [same, waits] at gone
  cases gone

end Controller

end DatasetSync
