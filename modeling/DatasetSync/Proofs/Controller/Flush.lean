import DatasetSync.Proofs.Controller.Slots
import DatasetSync.Proofs.Transport.Simulator

/-!
# Sending what has changed

The values that differ from the shadow are sent one channel after the other, up to the first failure
of the transport.  What this does is said once, as a relation over any controller, and once more
slot by slot for a controller that is as it should be; everything else follows from these two.
-/

namespace DatasetSync

/-- Values that follow each other, each one different from the one before. -/
inductive Changes {α : Type} : α → List α → α → Prop where
  | refl (value : α) : Changes value [] value
  | cons {first next last : α} {rest : List α} (differs : first ≠ next)
      (more : Changes next rest last) : Changes first (next :: rest) last

namespace Changes

variable {α : Type} {first middle last : α} {left right : List α}

theorem trans (before : Changes first left middle) (after : Changes middle right last) :
    Changes first (left ++ right) last := by
  induction before with
  | refl value => exact after
  | cons differs more ih => exact .cons differs (ih after)

theorem isChain (changes : Changes first right last) : (first :: right).IsChain (· ≠ ·) := by
  induction changes with
  | refl value => exact .singleton value
  | cons differs more ih => exact .cons_cons differs ih

/-- A value that is new in the end was taken on the way. -/
theorem last_mem (changes : Changes first right last) (new : first ≠ last) : last ∈ right := by
  induction changes with
  | refl value => exact (new rfl).elim
  | @cons first next last rest differs more ih =>
      by_cases there : next = last
      · exact List.mem_cons.mpr (.inl there.symm)
      · exact List.mem_cons.mpr (.inr (ih there))

end Changes

def Call.frame? : Call → Option Frame
  | .send session channel payload true => some ⟨session, channel, payload⟩
  | _ => none

def framesOf (calls : List Call) : List Frame :=
  calls.filterMap Call.frame?

theorem framesOf_append (earlier later : List Call) :
    framesOf (earlier ++ later) = framesOf earlier ++ framesOf later :=
  List.filterMap_append

/-- A slot after `payloads` were sent on its channel.  They all have the channel's size, and the
shadow goes from one to the next. -/
structure Slot.Follows (slot : Slot) (payloads : List (List UInt8)) (after : Slot) : Prop where
  direction : after.channel.direction = slot.channel.direction
  byteSize : after.channel.byteSize = slot.channel.byteSize
  fits : ∀ payload ∈ payloads, payload.length = slot.channel.byteSize
  changes : Changes slot.held.bytes payloads after.held.bytes

namespace Slot.Follows

variable {slot middle after : Slot} {left right : List (List UInt8)}

theorem trans (before : slot.Follows left middle) (later : middle.Follows right after) :
    slot.Follows (left ++ right) after := by
  refine ⟨later.direction.trans before.direction, later.byteSize.trans before.byteSize,
    fun payload inside => ?_, before.changes.trans later.changes⟩
  rcases List.mem_append.mp inside with early | late
  · exact before.fits payload early
  · exact (later.fits payload late).trans before.byteSize

/-- Where the shadow has not changed, nothing was sent. -/
theorem quiet (direction : after.channel.direction = slot.channel.direction)
    (byteSize : after.channel.byteSize = slot.channel.byteSize) (held : after.held = slot.held) :
    slot.Follows [] after := by
  refine ⟨direction, byteSize, fun _ inside => (List.not_mem_nil inside).elim, ?_⟩
  rw [held]
  exact .refl _

/-- A value that differs from the shadow was sent. -/
theorem sent (sound : slot.Sound) (changed : slot.Changed) :
    slot.Follows [slot.value.bytes] slot.sent := by
  refine ⟨rfl, sound.fits, fun payload inside => ?_,
    .cons (fun same => changed.differs ?_) (.refl _)⟩
  · rw [List.mem_singleton.mp inside]
    exact sound.fits
  · exact congrArg Dataset.mk same.symm

end Slot.Follows

/-- A slot after `payloads` were sent on its channel and `taken` were taken over from the peer.  The
shadow has what it had, or one of these. -/
structure Slot.Sourced (slot : Slot) (payloads taken : List (List UInt8)) (after : Slot) :
    Prop where
  direction : after.channel.direction = slot.channel.direction
  held : after.held.bytes = slot.held.bytes ∨ after.held.bytes ∈ payloads ∨ after.held.bytes ∈ taken

namespace Slot.Sourced

variable {slot middle after : Slot} {sent later taken more : List (List UInt8)}

theorem trans (before : slot.Sourced sent taken middle) (next : middle.Sourced later more after) :
    slot.Sourced (sent ++ later) (taken ++ more) after := by
  refine ⟨next.direction.trans before.direction, ?_⟩
  rw [List.mem_append, List.mem_append]
  rcases next.held with same | inside | inside
  · rw [same]
    exact before.held.imp id (Or.imp .inl .inl)
  · exact .inr (.inl (.inr inside))
  · exact .inr (.inr (.inr inside))

theorem quiet (direction : after.channel.direction = slot.channel.direction)
    (held : after.held = slot.held) : slot.Sourced sent taken after :=
  ⟨direction, .inl (congrArg Dataset.bytes held)⟩

theorem of_follows (follows : slot.Follows sent after) : slot.Sourced sent [] after := by
  refine ⟨follows.direction, ?_⟩
  by_cases same : slot.held.bytes = after.held.bytes
  · exact .inl same.symm
  · exact .inr (.inl (follows.changes.last_mem same))

end Slot.Sourced

namespace Controller

variable {T L : Type}

theorem changed_of_change? {controller : Controller T L} (aligned : controller.Aligned)
    {id : ChannelId} {value : List UInt8} (changed : controller.change? id = some value) :
    ∃ slot, controller.slot? id = some slot ∧ slot.Changed ∧ slot.value.bytes = value := by
  unfold change? at changed
  cases found : controller.link.channels[id]? with
  | none => simp [found] at changed
  | some channel =>
      obtain ⟨slot, there, rfl⟩ := aligned.slot found
      obtain ⟨_, value, held⟩ := slot?_eq_some.mp there
      simp only [found, Image.get_eq value, Image.get_eq held, Except.toOption] at changed
      split at changed
      · rename_i due
        simp only [Bool.and_eq_true, bne_iff_ne, ne_eq, Option.some.injEq] at due
        refine ⟨slot, there, ⟨due.1.1, due.1.2, fun same => due.2 ?_⟩, Option.some.inj changed⟩
        rw [same]
      · cases changed

theorem unchanged_of_change? {controller : Controller T L} {id : ChannelId} {slot : Slot}
    (unchanged : controller.change? id = none) (found : controller.slot? id = some slot) :
    ¬ slot.Changed := by
  rintro ⟨publishable, connected, differs⟩
  obtain ⟨channel, value, held⟩ := slot?_eq_some.mp found
  have apart : slot.value.bytes ≠ slot.held.bytes := by
    intro same
    exact differs (by cases value : slot.value; cases held : slot.held; simp_all)
  simp [change?, channel, Image.get_eq value, Image.get_eq held, Except.toOption, publishable,
    connected, apart] at unchanged

def sentTo (controller : Controller T L) (transport : T) (id : ChannelId) (slot : Slot) :
    Controller T L :=
  { controller with
    link := { controller.link with transport }.setChannel id (slot.channel.sentOn slot.value.bytes)
    shadow := controller.shadow.trySet id slot.value.bytes }

theorem sentTo_maps {controller : Controller T L} {id : ChannelId} {slot : Slot}
    (sound : controller.Sound) (found : controller.slot? id = some slot) (transport : T) :
    controller.Maps (controller.sentTo transport id slot) fun other slot =>
      if id = other then slot.sent else slot := by
  obtain ⟨channel, value, held⟩ := slot?_eq_some.mp found
  have fits : slot.value.bytes.length = slot.held.size :=
    (sound.slots found).fits.trans (sound.slots found).heldFits.symm
  refine maps_slot found Slot.sent rfl (set_eq_self value).symm ?_
  rw [Image.trySet_eq held fits]
  rfl

theorem sentTo_sound {controller : Controller T L} {id : ChannelId} {slot : Slot}
    (sound : controller.Sound) (found : controller.slot? id = some slot) (transport : T) :
    (controller.sentTo transport id slot).Sound := by
  refine (sentTo_maps sound found transport).sound sound fun other slot _ fine => ?_
  split
  · exact fine.sent
  · exact fine

section Sending

variable [Transport T]

/-- What sending the changes of some channels comes to, whatever the image and the shadow hold. -/
inductive Sending : Controller T L → List ChannelId → Controller T L → List Call → Prop where
  | done (controller : Controller T L) : Sending controller [] controller []
  | unchanged {controller after : Controller T L} {id : ChannelId} {rest : List ChannelId}
      {calls : List Call} (same : controller.change? id = none)
      (next : Sending controller rest after calls) : Sending controller (id :: rest) after calls
  | waits {controller after : Controller T L} {id : ChannelId} {rest : List ChannelId}
      {value : List UInt8} {calls : List Call} (change : controller.change? id = some value)
      (closed : ∀ channel, controller.link.channels[id]? = some channel → channel.Takes value →
        controller.link.session = none ∨ controller.link.state.isConnected = false)
      (next : Sending controller rest after calls) : Sending controller (id :: rest) after calls
  | stopped {controller after : Controller T L} {id : ChannelId} {rest : List ChannelId}
      {value : List UInt8} {error : Error} {link : Link T} {calls : List Call}
      (change : controller.change? id = some value)
      (outcome : Link.Publishing controller.link id value link (.error error) calls)
      (final : error.kind ≠ .notReady)
      (stands : after.Stands link controller.image controller.shadow controller.phase
        controller.active) : Sending controller (id :: rest) after calls
  | sent {controller after : Controller T L} {id : ChannelId} {rest : List ChannelId}
      {value : List UInt8} {link : Link T} {early late : List Call}
      (change : controller.change? id = some value)
      (outcome : Link.Publishing controller.link id value link (.ok ()) early)
      (next : Sending { controller with link, shadow := controller.shadow.trySet id value } rest
        after late) : Sending controller (id :: rest) after (early ++ late)

theorem publishChanges_sending [Log.Logger L] (controller : Controller T L)
    (ids : List ChannelId) :
    Sending controller ids (controller.publishChanges ids).value
      (controller.publishChanges ids).calls := by
  induction ids generalizing controller with
  | nil => exact .done controller
  | cons id rest ih =>
      rw [publishChanges]
      cases change : controller.change? id with
      | none => exact .unchanged change (ih controller)
      | some value =>
          have outcome := controller.link.publish_cases id value
          simp only [Trail.value_bind, Trail.calls_bind]
          generalize (controller.link.publish id value).value.1 = link,
            (controller.link.publish id value).value.2 = answer,
            (controller.link.publish id value).calls = calls at outcome ⊢
          cases answer with
          | ok done =>
              simp only [Trail.value_bind, Trail.calls_bind]
              exact .sent change outcome (ih _)
          | error error =>
              by_cases late : error.kind = .notReady
              · simp only [if_pos late]
                cases outcome with
                | refused harmless waits =>
                    exact .waits change (fun channel found takes => (waits channel found takes).2)
                      (ih _)
                | failed found takes opened connected answer => cases late
              · obtain ⟨keeps, unasked⟩ :=
                  recordError_keeps { controller with link } "publish" error
                simp only [if_neg late, unasked, List.append_nil]
                exact .stopped change outcome late keeps

/-- What sending the changes of some channels comes to. -/
inductive Flushing : Controller T L → List ChannelId → Controller T L → List Call → Prop where
  | done (controller : Controller T L) : Flushing controller [] controller []
  | unchanged {controller after : Controller T L} {id : ChannelId} {rest : List ChannelId}
      {calls : List Call}
      (same : ∀ slot, controller.slot? id = some slot → ¬ slot.Changed)
      (next : Flushing controller rest after calls) : Flushing controller (id :: rest) after calls
  | waits {controller after : Controller T L} {id : ChannelId} {rest : List ChannelId}
      {calls : List Call}
      (closed : controller.link.session = none ∨ controller.link.state.isConnected = false)
      (next : Flushing controller rest after calls) : Flushing controller (id :: rest) after calls
  | failed {controller after : Controller T L} {id : ChannelId} {rest : List ChannelId}
      {slot : Slot} {session : Session} {transport : T} {fault : Fault}
      (found : controller.slot? id = some slot) (changed : slot.Changed)
      (opened : controller.link.session = some session)
      (connected : controller.link.state.isConnected = true)
      (answer : (Transport.send controller.link.transport session id slot.value.bytes).value =
        (transport, .error fault))
      (stands : after.Stands (controller.link.refusedBy transport fault) controller.image
        controller.shadow controller.phase controller.active) :
      Flushing controller (id :: rest) after [.send session id slot.value.bytes false]
  | sent {controller after : Controller T L} {id : ChannelId} {rest : List ChannelId}
      {slot : Slot} {session : Session} {transport : T} {calls : List Call}
      (found : controller.slot? id = some slot) (changed : slot.Changed)
      (opened : controller.link.session = some session)
      (connected : controller.link.state.isConnected = true)
      (answer : (Transport.send controller.link.transport session id slot.value.bytes).value =
        (transport, .ok ()))
      (next : Flushing (controller.sentTo transport id slot) rest after calls) :
      Flushing controller (id :: rest) after
        (.send session id slot.value.bytes true :: calls)

/-- A value that is due to be sent is taken by its channel. -/
theorem takes_of_changed {slot : Slot} (sound : slot.Sound) (changed : slot.Changed) :
    slot.channel.Takes slot.value.bytes :=
  ⟨sound.fits, changed.publishable, changed.connected⟩

theorem publishChanges_cases [Log.Logger L] {controller : Controller T L} (sound : controller.Sound)
    (ids : List ChannelId) :
    Flushing controller ids (controller.publishChanges ids).value
      (controller.publishChanges ids).calls := by
  have sending := controller.publishChanges_sending ids
  generalize (controller.publishChanges ids).value = after,
    (controller.publishChanges ids).calls = calls at sending
  induction sending with
  | done controller => exact .done controller
  | unchanged same next ih => exact .unchanged (fun slot => unchanged_of_change? same) (ih sound)
  | waits change closed next ih =>
      obtain ⟨slot, found, changed, rfl⟩ := changed_of_change? sound.aligned change
      have takes := takes_of_changed (sound.slots found) changed
      exact .waits (closed slot.channel (slot?_eq_some.mp found).1 takes) (ih sound)
  | stopped change outcome final stands =>
      obtain ⟨slot, found, changed, rfl⟩ := changed_of_change? sound.aligned change
      have takes := takes_of_changed (sound.slots found) changed
      cases outcome with
      | refused harmless waits =>
          exact (final (waits slot.channel (slot?_eq_some.mp found).1 takes).1).elim
      | failed there _ opened connected answer =>
          exact .failed found changed opened connected answer stands
  | sent change outcome next ih =>
      obtain ⟨slot, found, changed, rfl⟩ := changed_of_change? sound.aligned change
      cases outcome with
      | @sent _ session transport there _ opened connected answer =>
          cases (slot?_eq_some.mp found).1.symm.trans there
          exact .sent found changed opened connected answer
            (ih (sentTo_sound sound found transport))

/-! ## What stays -/

theorem Flushing.sound {controller after : Controller T L} {ids : List ChannelId}
    {calls : List Call} (flushing : Flushing controller ids after calls)
    (sound : controller.Sound) : after.Sound := by
  induction flushing with
  | done controller => exact sound
  | unchanged same next ih => exact ih sound
  | waits closed next ih => exact ih sound
  | failed found changed opened connected answer stands =>
      refine sound.congr ?_ stands.image_eq stands.shadow_eq
      rw [stands.link_eq]
      rfl
  | sent found changed opened connected answer next ih => exact ih (sentTo_sound sound found _)

/-- Sending leaves the controller in its phase and the link where it was, or aborts it. -/
structure Remains (controller after : Controller T L) : Prop where
  image : after.image = controller.image
  phase : after.phase = controller.phase
  active : after.active = controller.active
  session : after.link.session = controller.link.session
  state : after.link.state = controller.link.state ∨ after.link.state = .aborted

theorem Flushing.remains {controller after : Controller T L} {ids : List ChannelId}
    {calls : List Call} (flushing : Flushing controller ids after calls) :
    controller.Remains after := by
  induction flushing with
  | done controller => exact ⟨rfl, rfl, rfl, rfl, .inl rfl⟩
  | unchanged same next ih => exact ih
  | waits closed next ih => exact ih
  | failed found changed opened connected answer stands =>
      refine ⟨stands.image_eq, stands.phase_eq, stands.active_eq, ?_, .inr ?_⟩
      · rw [stands.link_eq]
        rfl
      · rw [stands.link_eq]
        rfl
  | sent found changed opened connected answer next ih =>
      exact ⟨ih.image, ih.phase, ih.active, ih.session, ih.state⟩

theorem Flushing.seen {controller after : Controller T L} {ids : List ChannelId}
    {calls : List Call} (flushing : Flushing controller ids after calls)
    (sound : controller.Sound) (seen : controller.Seen) : after.Seen := by
  induction flushing with
  | done controller => exact seen
  | unchanged same next ih => exact ih sound seen
  | waits closed next ih => exact ih sound seen
  | failed found changed opened connected answer stands =>
      intro id slot there
      rw [slot?_congr (by rw [stands.link_eq]; rfl) stands.image_eq stands.shadow_eq] at there
      exact seen id slot there
  | sent found changed opened connected answer next ih =>
      refine ih (sentTo_sound sound found _) ((sentTo_maps sound found _).seen seen ?_)
      intro id slot _ unread
      split <;> exact unread

/-! ## What is sent -/

/-- With a link that stands to the end, every channel that was looked at is up to date. -/
theorem Flushing.unchanged_after {controller after : Controller T L} {ids : List ChannelId}
    {calls : List Call} (flushing : Flushing controller ids after calls)
    (sound : controller.Sound) (opened : controller.link.session ≠ none)
    (connected : after.link.state.isConnected = true) {id : ChannelId}
    (settled : id ∈ ids ∨ ∀ slot, controller.slot? id = some slot → ¬ slot.Changed) :
    ∀ slot, after.slot? id = some slot → ¬ slot.Changed := by
  induction flushing with
  | done controller => exact settled.resolve_left List.not_mem_nil
  | unchanged same next ih =>
      refine ih sound opened connected ?_
      rcases settled with inside | settled
      · rcases List.mem_cons.mp inside with rfl | later
        · exact .inr same
        · exact .inl later
      · exact .inr settled
  | waits closed next ih =>
      rcases closed with shut | down
      · exact (opened shut).elim
      · rcases next.remains.state with same | aborted
        · rw [same, down] at connected
          cases connected
        · rw [aborted] at connected
          cases connected
  | failed found changed _ _ answer stands =>
      rw [stands.link_eq] at connected
      cases connected
  | @sent controller _ target rest slot _ transport _ found changed _ _ answer next ih =>
      refine ih (sentTo_sound sound found _) opened connected ?_
      have slots := (sentTo_maps sound found transport).slots id
      by_cases same : target = id
      · simp only [if_pos same] at slots
        refine .inr fun other there => ?_
        rw [slots] at there
        obtain ⟨earlier, _, rfl⟩ := Option.map_eq_some_iff.mp there
        exact fun again => again.differs rfl
      · simp only [if_neg same, Option.map_id'] at slots
        rcases settled with inside | settled
        · exact .inl ((List.mem_cons.mp inside).resolve_left (Ne.symm same))
        · rw [slots]
          exact .inr settled

/-- The shadow of every channel goes along with what is sent on it. -/
theorem Flushing.follows {controller after : Controller T L} {ids : List ChannelId}
    {calls : List Call} (flushing : Flushing controller ids after calls)
    (sound : controller.Sound) {id : ChannelId} {slot : Slot}
    (found : controller.slot? id = some slot) :
    ∃ last, after.slot? id = some last ∧ slot.Follows (payloadsOn id (framesOf calls)) last := by
  induction flushing generalizing slot with
  | done controller => exact ⟨slot, found, .quiet rfl rfl rfl⟩
  | unchanged same next ih => exact ih sound found
  | waits closed next ih => exact ih sound found
  | failed there changed opened connected answer stands =>
      refine ⟨slot, ?_, .quiet rfl rfl rfl⟩
      rw [slot?_congr (by rw [stands.link_eq]; rfl) stands.image_eq stands.shadow_eq]
      exact found
  | @sent controller _ target rest owner session transport calls there changed opened connected
      answer next ih =>
      have slots := (sentTo_maps sound there transport).slots id
      rw [found, Option.map_some] at slots
      obtain ⟨last, found', follows⟩ := ih (sentTo_sound sound there transport) slots
      refine ⟨last, found', ?_⟩
      by_cases same : target = id
      · subst same
        cases there.symm.trans found
        rw [if_pos rfl] at follows
        have whole := (Slot.Follows.sent (sound.slots found) changed).trans follows
        simpa [framesOf, Call.frame?, payloadsOn] using whole
      · rw [if_neg same] at follows
        simpa [framesOf, Call.frame?, payloadsOn, same] using follows

/-- Values are sent in the open session and under a link that is connected. -/
theorem Flushing.sessions {controller after : Controller T L} {ids : List ChannelId}
    {calls : List Call} (flushing : Flushing controller ids after calls) {frame : Frame}
    (inside : frame ∈ framesOf calls) :
    controller.link.session = some frame.session ∧ controller.link.state.isConnected = true := by
  induction flushing with
  | done controller => cases inside
  | unchanged same next ih => exact ih inside
  | waits closed next ih => exact ih inside
  | failed found changed opened connected answer stands => cases inside
  | sent found changed opened connected answer next ih =>
      rcases List.mem_cons.mp inside with rfl | later
      · exact ⟨opened, connected⟩
      · exact ih later

/-- A value that could not be sent stays in the image and out of the shadow, and the link is
aborted in the session it was to be sent in. -/
theorem Flushing.refused {controller after : Controller T L} {ids : List ChannelId}
    {calls : List Call} (flushing : Flushing controller ids after calls) {session : Session}
    {id : ChannelId} {payload : List UInt8} (inside : Call.send session id payload false ∈ calls) :
    after.link.state = .aborted ∧ after.link.session = some session ∧
      ∃ slot, after.slot? id = some slot ∧ slot.value.bytes = payload ∧ slot.Changed := by
  induction flushing with
  | done controller => cases inside
  | unchanged same next ih => exact ih inside
  | waits closed next ih => exact ih inside
  | @failed _ _ _ _ slot _ _ _ found changed opened connected answer stands =>
      cases List.mem_singleton.mp inside
      refine ⟨?_, ?_, slot, ?_, rfl, changed⟩
      · rw [stands.link_eq]
        rfl
      · rw [stands.link_eq]
        exact opened
      · rw [slot?_congr (by rw [stands.link_eq]; rfl) stands.image_eq stands.shadow_eq]
        exact found
  | sent found changed opened connected answer next ih =>
      rcases List.mem_cons.mp inside with granted | later
      · cases granted
      · exact ih later

end Sending

end Controller

end DatasetSync
