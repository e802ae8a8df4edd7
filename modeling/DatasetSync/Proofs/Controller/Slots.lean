import DatasetSync.Proofs.Controller.Cycle

/-!
# A controller seen channel by channel

A slot is a channel together with its value in the image and its value in the shadow.  Everything
that happens to a controller happens slot by slot, so what holds of a controller is said of its
slots.
-/

namespace DatasetSync

/-! ## Images -/

namespace Image

theorem get_eq {image : Image} {id : ChannelId} {value : Dataset}
    (found : image.values[id]? = some value) : image.get id = .ok value.bytes := by
  rw [get, found]

/-- A payload that fits is written. -/
theorem set_eq {image : Image} {id : ChannelId} {value : Dataset} {payload : List UInt8}
    (found : image.values[id]? = some value) (fits : payload.length = value.size) :
    image.set id payload = .ok ⟨image.values.set id ⟨payload⟩⟩ := by
  simp [set, found, Dataset.set, Dataset.check, fits, Except.map]

theorem set_ok {image after : Image} {id : ChannelId} {payload : List UInt8}
    (written : image.set id payload = .ok after) :
    ∃ value, image.values[id]? = some value ∧ payload.length = value.size ∧
      after = ⟨image.values.set id ⟨payload⟩⟩ := by
  unfold set Dataset.set Dataset.check at written
  cases found : image.values[id]? with
  | none =>
      rw [found] at written
      cases written
  | some value =>
      by_cases fits : payload.length = value.size
      · simp only [found, if_pos fits, Except.map] at written
        cases written
        exact ⟨value, rfl, fits, rfl⟩
      · simp only [found, if_neg fits, Except.map] at written
        cases written

theorem trySet_eq {image : Image} {id : ChannelId} {value : Dataset} {payload : List UInt8}
    (found : image.values[id]? = some value) (fits : payload.length = value.size) :
    image.trySet id payload = ⟨image.values.set id ⟨payload⟩⟩ := by
  rw [trySet, set_eq found fits]

end Image

/-- A channel and what the controller has of it. -/
structure Slot where
  channel : Channel
  /-- The value in the image. -/
  value : Dataset
  /-- The value in the shadow. -/
  held : Dataset

namespace Slot

/-- The sizes agree, a channel that never receives looks like it, and the shadow holds the last
value of a channel without a ring, unless a newer one is still to be copied. -/
structure Sound (slot : Slot) : Prop where
  fits : slot.value.size = slot.channel.byteSize
  heldFits : slot.held.size = slot.channel.byteSize
  deaf : slot.channel.direction.canSubscribe = false →
    slot.channel.buffer = none ∧ slot.channel.updated = false
  shown : slot.channel.buffer = none → slot.channel.direction.canPublish = true →
    slot.channel.updated = false → slot.held = slot.channel.value

/-- Nothing that came in waits to be copied. -/
def Seen (slot : Slot) : Prop :=
  slot.channel.buffer = none → slot.channel.updated = false

/-- The value may be sent and differs from the shadow. -/
structure Changed (slot : Slot) : Prop where
  publishable : slot.channel.direction.canPublish = true
  connected : slot.channel.state.isConnected = true
  differs : slot.value ≠ slot.held

def onChannel (slot : Slot) (change : Channel → Channel) : Slot :=
  { slot with channel := change slot.channel }

theorem Sound.sameData {slot : Slot} (sound : slot.Sound) {after : Channel}
    (same : slot.channel.SameData after) : (slot.onChannel fun _ => after).Sound := by
  obtain ⟨direction, value, updated, buffer, _⟩ := same
  obtain ⟨fits, heldFits, deaf, shown⟩ := sound
  unfold Channel.byteSize at fits heldFits
  rw [← direction, ← buffer, ← updated] at deaf
  rw [← direction, ← buffer, ← updated, ← value] at shown
  rw [← value] at fits heldFits
  exact ⟨fits, heldFits, deaf, shown⟩

/-- A value that comes in waits to be copied. -/
theorem Sound.received {slot : Slot} (sound : slot.Sound) {after : Channel}
    {payload : List UInt8} {sent now : Nettime} {answer : Except Error Reception}
    (outcome : Channel.Receiving slot.channel payload sent now after answer) :
    (slot.onChannel fun _ => after).Sound := by
  have hears {P : Prop} (wanted : slot.channel.direction.canSubscribe = true)
      (deaf : slot.channel.direction.canSubscribe = false) : P := by
    rw [wanted] at deaf
    cases deaf
  cases outcome with
  | unwanted deaf => exact sound
  | misfit wanted misfits => exact ⟨sound.fits, sound.heldFits, sound.deaf, sound.shown⟩
  | replaced wanted fits single =>
      refine ⟨sound.fits.trans fits.symm, sound.heldFits.trans fits.symm, hears wanted, ?_⟩
      intro _ _ unread
      cases unread
  | queued wanted fits buffered room =>
      refine ⟨sound.fits, sound.heldFits, hears wanted, ?_⟩
      intro single
      cases single
  | overflowed wanted fits buffered full =>
      refine ⟨sound.fits, sound.heldFits, hears wanted, ?_⟩
      intro single
      cases single

theorem Sound.onEvent {slot : Slot} (sound : slot.Sound) (id : ChannelId)
    (link : ConnectionState) (now : Nettime) (event : InboundEvent) :
    (slot.onChannel (·.onEvent id link now event)).Sound := by
  rcases event.silent_or_update id with silent | ⟨payload, sent, rfl⟩
  · exact sound.sameData (Channel.onEvent_sameData silent slot.channel link now)
  · simp only [onChannel, Channel.onEvent, if_true, Channel.onUpdate]
    split
    · exact sound.received (slot.channel.receive_cases payload sent now)
    · exact sound

/-- A new session forgets nothing that was copied. -/
theorem Sound.prepare {slot : Slot} (sound : slot.Sound) (seen : slot.Seen) :
    (slot.onChannel Channel.prepare).Sound := by
  refine ⟨sound.fits, sound.heldFits, fun deaf => ⟨?_, rfl⟩, ?_⟩
  · change slot.channel.buffer.map Ring.clear = none
    rw [(sound.deaf deaf).1, Option.map_none]
  · intro single publishable _
    have bare : slot.channel.buffer = none := Option.map_eq_none_iff.mp single
    exact sound.shown bare publishable (seen bare)

def sent (slot : Slot) : Slot :=
  ⟨slot.channel.sentOn slot.value.bytes, slot.value, slot.value⟩

theorem Sound.sent {slot : Slot} (sound : slot.Sound) : slot.sent.Sound :=
  ⟨rfl, rfl, sound.deaf, fun _ _ _ => rfl⟩

def copied (slot : Slot) : Slot :=
  if slot.channel.isBuffered || !slot.channel.updated then slot
  else
    { channel := { slot.channel with updated := false }
      value := slot.channel.value
      held := if slot.channel.direction.canPublish then slot.channel.value else slot.held }

theorem copied_channel (slot : Slot) :
    slot.copied.channel = { slot.channel with updated := slot.copied.channel.updated } := by
  unfold copied
  split <;> rfl

/-- An update in a channel without a ring is copied into the image, and where the channel publishes
into the shadow as well. -/
theorem copied_of_updated {slot : Slot} (single : slot.channel.isBuffered = false)
    (updated : slot.channel.updated = true) :
    slot.copied.value = slot.channel.value ∧
      (slot.copied.held = slot.channel.value ∨ slot.copied.held = slot.held) := by
  have copied : slot.copied = _ := if_neg (by simp [single, updated])
  rw [copied]
  exact ⟨rfl, ite_eq_or_eq _ _ _⟩

theorem copied_copied (slot : Slot) : slot.copied.copied = slot.copied := by
  by_cases nothing : (slot.channel.isBuffered || !slot.channel.updated) = true
  · have same : slot.copied = slot := if_pos nothing
    rw [same, same]
  · have copied : slot.copied = _ := if_neg nothing
    refine if_pos ?_
    rw [copied, Bool.or_eq_true]
    exact .inr rfl

theorem Sound.copied {slot : Slot} (sound : slot.Sound) : slot.copied.Sound ∧ slot.copied.Seen := by
  unfold Slot.copied
  split
  · rename_i nothing
    refine ⟨sound, fun single => ?_⟩
    simpa [Channel.isBuffered, single] using nothing
  · rename_i news
    refine ⟨⟨rfl, ?_, ?_, ?_⟩, fun _ => rfl⟩
    · change (if slot.channel.direction.canPublish = true then _ else _ : Dataset).size = _
      split
      · rfl
      · exact sound.heldFits
    · exact fun deaf => ⟨(sound.deaf deaf).1, rfl⟩
    · intro _ publishable _
      exact if_pos publishable

end Slot

theorem Link.channel_eq_ok {T : Type} {link : Link T} {id : ChannelId} {channel : Channel} :
    link.channel id = .ok channel ↔ link.channels[id]? = some channel := by
  unfold Link.channel
  cases link.channels[id]? with
  | none => exact ⟨nofun, nofun⟩
  | some other => rw [Except.ok.injEq, Option.some.injEq]

namespace Controller

variable {T L : Type}

def slot? (controller : Controller T L) (id : ChannelId) : Option Slot :=
  match controller.link.channels[id]?, controller.image.values[id]?,
    controller.shadow.values[id]? with
  | some channel, some value, some held => some ⟨channel, value, held⟩
  | _, _, _ => none

/-- The image and the shadow have a value for every channel and for nothing else. -/
def Aligned (controller : Controller T L) : Prop :=
  ∀ id : ChannelId, controller.image.values[id]?.isSome = controller.link.channels[id]?.isSome ∧
    controller.shadow.values[id]?.isSome = controller.link.channels[id]?.isSome

structure Sound (controller : Controller T L) : Prop where
  aligned : controller.Aligned
  slots {id : ChannelId} {slot : Slot} (found : controller.slot? id = some slot) : slot.Sound

theorem slot?_eq_some {controller : Controller T L} {id : ChannelId} {slot : Slot} :
    controller.slot? id = some slot ↔
      controller.link.channels[id]? = some slot.channel ∧
        controller.image.values[id]? = some slot.value ∧
        controller.shadow.values[id]? = some slot.held := by
  unfold slot?
  cases controller.link.channels[id]? <;> cases controller.image.values[id]? <;>
    cases controller.shadow.values[id]? <;> simp
  constructor
  · rintro rfl
    exact ⟨rfl, rfl, rfl⟩
  · rintro ⟨rfl, rfl, rfl⟩
    rfl

theorem Aligned.slot {controller : Controller T L} (aligned : controller.Aligned) {id : ChannelId}
    {channel : Channel} (found : controller.link.channels[id]? = some channel) :
    ∃ slot, controller.slot? id = some slot ∧ slot.channel = channel := by
  obtain ⟨shown, held⟩ := aligned id
  rw [found, Option.isSome_some] at shown held
  obtain ⟨value, there⟩ := Option.isSome_iff_exists.mp shown
  obtain ⟨copy, beside⟩ := Option.isSome_iff_exists.mp held
  exact ⟨⟨channel, value, copy⟩, slot?_eq_some.mpr ⟨found, there, beside⟩, rfl⟩

theorem slot_of_channel {controller : Controller T L} (aligned : controller.Aligned)
    {id : ChannelId} {channel : Channel} (found : controller.link.channel id = .ok channel) :
    ∃ slot, controller.slot? id = some slot ∧ slot.channel = channel ∧
      controller.image.get id = .ok slot.value.bytes ∧
      controller.shadow.get id = .ok slot.held.bytes := by
  obtain ⟨slot, there, same⟩ := aligned.slot (Link.channel_eq_ok.mp found)
  obtain ⟨_, value, held⟩ := slot?_eq_some.mp there
  exact ⟨slot, there, same, Image.get_eq value, Image.get_eq held⟩

/-- A controller whose slots were changed one by one. -/
structure Maps (controller after : Controller T L) (change : ChannelId → Slot → Slot) : Prop where
  aligned : controller.Aligned → after.Aligned
  slots (id : ChannelId) : after.slot? id = (controller.slot? id).map (change id)

theorem Maps.sound {controller after : Controller T L} {change : ChannelId → Slot → Slot}
    (maps : controller.Maps after change) (sound : controller.Sound)
    (keeps : ∀ id slot, controller.slot? id = some slot → slot.Sound → (change id slot).Sound) :
    after.Sound := by
  refine ⟨maps.aligned sound.aligned, fun found => ?_⟩
  rw [maps.slots] at found
  obtain ⟨slot, there, rfl⟩ := Option.map_eq_some_iff.mp found
  exact keeps _ slot there (sound.slots there)

theorem Maps.refl {controller : Controller T L} {change : ChannelId → Slot → Slot}
    (same : ∀ id slot, controller.slot? id = some slot → change id slot = slot) :
    controller.Maps controller change := by
  refine ⟨id, fun id => ?_⟩
  cases found : controller.slot? id with
  | none => rfl
  | some slot => rw [Option.map_some, same id slot found]

theorem Maps.trans {controller middle after : Controller T L}
    {first second : ChannelId → Slot → Slot} (left : controller.Maps middle first)
    (right : middle.Maps after second) :
    controller.Maps after fun id slot => second id (first id slot) := by
  refine ⟨right.aligned ∘ left.aligned, fun id => ?_⟩
  rw [right.slots, left.slots, Option.map_map]
  rfl

/-- A change of the link that treats its channels one by one. -/
theorem maps_link (controller : Controller T L) {link : Link T}
    {change : ChannelId → Channel → Channel}
    (channels : ∀ id : ChannelId,
      link.channels[id]? = controller.link.channels[id]?.map (change id)) :
    controller.Maps { controller with link } fun id slot => slot.onChannel (change id) := by
  refine ⟨fun aligned id => ?_, fun id => ?_⟩
  · rw [channels, Option.isSome_map]
    exact aligned id
  · unfold slot?
    rw [channels]
    cases controller.link.channels[id]? <;> cases controller.image.values[id]? <;>
      cases controller.shadow.values[id]? <;> rfl

/-- One slot is written anew. -/
theorem maps_slot {controller : Controller T L} {target : ChannelId} {slot : Slot}
    (found : controller.slot? target = some slot) (change : Slot → Slot) {link : Link T}
    {image shadow : Image}
    (channels : link.channels = controller.link.channels.set target (change slot).channel)
    (values : image.values = controller.image.values.set target (change slot).value)
    (helds : shadow.values = controller.shadow.values.set target (change slot).held) :
    controller.Maps { controller with link, image, shadow } fun id slot =>
      if target = id then change slot else slot := by
  obtain ⟨owner, value, held⟩ := slot?_eq_some.mp found
  have channelAt (id : ChannelId) := getElem?_set_eq_map owner (fun _ => (change slot).channel) id
  have valueAt (id : ChannelId) := getElem?_set_eq_map value (fun _ => (change slot).value) id
  have heldAt (id : ChannelId) := getElem?_set_eq_map held (fun _ => (change slot).held) id
  refine ⟨fun aligned id => ?_, fun id => ?_⟩
  · rw [channels, values, helds, channelAt, valueAt, heldAt]
    simpa only [Option.isSome_map] using aligned id
  · by_cases same : target = id
    · subst same
      rw [found, Option.map_some, if_pos rfl]
      refine slot?_eq_some.mpr ⟨?_, ?_, ?_⟩
      · rw [channels, channelAt, owner, Option.map_some, if_pos rfl]
      · rw [values, valueAt, value, Option.map_some, if_pos rfl]
      · rw [helds, heldAt, held, Option.map_some, if_pos rfl]
    · unfold slot?
      rw [channels, values, helds, channelAt, valueAt, heldAt]
      simp only [if_neg same, Option.map_id']

/-- The channels, the image and the shadow are all there is to slots. -/
theorem slot?_congr {controller after : Controller T L}
    (channels : after.link.channels = controller.link.channels)
    (image : after.image = controller.image) (shadow : after.shadow = controller.shadow)
    (id : ChannelId) : after.slot? id = controller.slot? id := by
  rw [slot?, slot?, channels, image, shadow]

theorem Sound.congr {controller after : Controller T L} (sound : controller.Sound)
    (channels : after.link.channels = controller.link.channels)
    (image : after.image = controller.image) (shadow : after.shadow = controller.shadow) :
    after.Sound := by
  refine ⟨fun id => ?_, fun found => ?_⟩
  · rw [channels, image, shadow]
    exact sound.aligned id
  · rw [slot?_congr channels image shadow] at found
    exact sound.slots found

theorem Keeps.sound {controller after : Controller T L} (keeps : controller.Keeps after)
    (sound : controller.Sound) : after.Sound :=
  sound.congr (congrArg Link.channels keeps.link_eq) keeps.image_eq keeps.shadow_eq

def Seen (controller : Controller T L) : Prop :=
  ∀ id slot, controller.slot? id = some slot → slot.Seen

theorem Maps.seen {controller after : Controller T L} {change : ChannelId → Slot → Slot}
    (maps : controller.Maps after change) (seen : controller.Seen)
    (keeps : ∀ id slot, controller.slot? id = some slot → slot.Seen → (change id slot).Seen) :
    after.Seen := by
  intro id slot found
  rw [maps.slots] at found
  obtain ⟨earlier, there, rfl⟩ := Option.map_eq_some_iff.mp found
  exact keeps id earlier there (seen id earlier there)

/-! ## Copying what came in -/

/-- A new value is copied into its own slot. -/
theorem copySubscription_maps {controller : Controller T L} (sound : controller.Sound)
    (target : ChannelId) :
    controller.Maps (controller.copySubscription target) fun id slot =>
      if target = id then slot.copied else slot := by
  unfold copySubscription
  cases found : controller.link.channels[target]? with
  | none =>
      refine .refl fun id slot there => if_neg ?_
      rintro rfl
      rw [(slot?_eq_some.mp there).1] at found
      cases found
  | some channel =>
      obtain ⟨slot, there, rfl⟩ := sound.aligned.slot found
      obtain ⟨_, value, held⟩ := slot?_eq_some.mp there
      have fits := (sound.slots there).fits.symm
      have heldFits := (sound.slots there).heldFits.symm
      by_cases nothing : (slot.channel.isBuffered || !slot.channel.updated) = true
      · simp only [if_pos nothing]
        refine .refl fun id other beside => ?_
        split
        · subst target
          cases there.symm.trans beside
          exact if_pos nothing
        · rfl
      · simp only [if_neg nothing, Image.set_eq value fits]
        have copied : slot.copied = _ := if_neg nothing
        refine maps_slot there Slot.copied ?_ ?_ ?_
        · rw [copied]
          rfl
        · rw [copied]
        · rw [copied]
          cases slot.channel.direction.canPublish with
          | true => simp only [if_true, Image.trySet_eq held heldFits]
          | false => exact (set_eq_self held).symm

/-- The link is the same except for its channels, and the controller stays in its phase. -/
structure Rests (controller after : Controller T L) : Prop where
  link : after.link = { controller.link with channels := after.link.channels }
  phase : after.phase = controller.phase
  active : after.active = controller.active

theorem Rests.trans {controller middle after : Controller T L} (left : controller.Rests middle)
    (right : middle.Rests after) : controller.Rests after := by
  refine ⟨?_, right.phase.trans left.phase, right.active.trans left.active⟩
  rw [right.link, left.link]

theorem copySubscription_rests (controller : Controller T L) (id : ChannelId) :
    controller.Rests (controller.copySubscription id) := by
  unfold copySubscription
  split
  · exact ⟨rfl, rfl, rfl⟩
  · split
    · exact ⟨rfl, rfl, rfl⟩
    · dsimp only
      split <;> exact ⟨rfl, rfl, rfl⟩

theorem copied_rests (controller : Controller T L) (ids : List ChannelId) :
    controller.Rests (ids.foldl copySubscription controller) := by
  induction ids generalizing controller with
  | nil => exact ⟨rfl, rfl, rfl⟩
  | cons target rest ih => exact (controller.copySubscription_rests target).trans (ih _)

theorem copySubscriptions_rests (controller : Controller T L) :
    controller.Rests controller.copySubscriptions :=
  controller.copied_rests _

/-- Copying for several channels is copying for each of them. -/
theorem copied_maps {controller : Controller T L} (sound : controller.Sound)
    (ids : List ChannelId) :
    controller.Maps (ids.foldl copySubscription controller) fun id slot =>
      if id ∈ ids then slot.copied else slot := by
  induction ids generalizing controller with
  | nil => exact .refl fun _ _ _ => rfl
  | cons target rest ih =>
      have first := copySubscription_maps sound target
      have kept : (controller.copySubscription target).Sound := by
        refine first.sound sound fun id slot _ fine => ?_
        split
        · exact fine.copied.1
        · exact fine
      have whole := first.trans (ih kept)
      refine ⟨whole.aligned, fun id => ?_⟩
      rw [List.foldl_cons, whole.slots]
      congr 1
      funext slot
      by_cases same : target = id
      · subst same
        by_cases again : target ∈ rest
        · rw [if_pos rfl, if_pos again, if_pos List.mem_cons_self, Slot.copied_copied]
        · rw [if_pos rfl, if_neg again, if_pos List.mem_cons_self]
      · have mem : id ∈ target :: rest ↔ id ∈ rest := by
          rw [List.mem_cons]
          exact or_iff_right (Ne.symm same)
        simp only [if_neg same, mem]

/-- Every new value is copied. -/
theorem copySubscriptions_maps {controller : Controller T L} (sound : controller.Sound) :
    controller.Maps controller.copySubscriptions fun _ slot => slot.copied := by
  have maps := copied_maps sound (List.range controller.image.size)
  refine ⟨maps.aligned, fun id => ?_⟩
  change (List.foldl copySubscription controller _).slot? id = _
  rw [maps.slots]
  cases found : controller.slot? id with
  | none => rfl
  | some slot =>
      have inside : id ∈ List.range controller.image.size :=
        List.mem_range.mpr (List.getElem?_eq_some_iff.mp (slot?_eq_some.mp found).2.1).1
      rw [Option.map_some, Option.map_some, if_pos inside]

end Controller

end DatasetSync
