import DatasetSync.Proofs.Controller.World
import DatasetSync.Proofs.Link.Table

/-!
# Received values are not sent back

A value reaches the image by copying or by taking a sample, and on both ways it is put into the
shadow as well.  So on a channel that the task never writes, the image and the shadow stay even, and
only a difference between them is ever sent.  Nothing is assumed of the link or of what came before.
-/

namespace DatasetSync

/-! ## Requests that spare a channel -/

/-- No payload is offered to the transport on a channel. -/
def Spared (id : ChannelId) (calls : List Call) : Prop :=
  ∀ session payload granted, Call.send session id payload granted ∉ calls

namespace Spared

variable {id : ChannelId} {early late calls : List Call}

theorem nil (id : ChannelId) : Spared id [] :=
  fun _ _ _ => List.not_mem_nil

theorem append (first : Spared id early) (second : Spared id late) : Spared id (early ++ late) := by
  intro session payload granted inside
  rcases List.mem_append.mp inside with before | after
  · exact first session payload granted before
  · exact second session payload granted after

theorem of_unsent (unsent : Controller.Unsent calls) (id : ChannelId) : Spared id calls :=
  fun session payload granted => unsent session id payload granted

/-- What is not offered is not on the wire. -/
theorem payloadsOn_eq (spared : Spared id calls) : payloadsOn id (framesOf calls) = [] := by
  rw [payloadsOn, List.map_eq_nil_iff, List.filter_eq_nil_iff]
  intro frame inside same
  obtain ⟨call, there, sends⟩ := List.mem_filterMap.mp inside
  unfold Call.frame? at sends
  split at sends
  · rename_i session channel payload
    cases sends
    have here : channel = id := beq_iff_eq.mp same
    rw [here] at there
    exact spared session payload true there
  · cases sends

end Spared

namespace Link

variable {T : Type} [Transport T] {link after : Link T} {answer : Except Error Unit}
  {calls : List Call}

theorem Connecting.table (outcome : Connecting link after answer calls) :
    after.table = link.table := by
  cases outcome with
  | refused shut => rfl
  | opened may granted => exact link.table_prepare
  | failed may refused => exact link.table_prepare

theorem Promoting.table (outcome : Promoting link after answer calls) :
    after.table = link.table := by
  cases outcome <;> rfl

theorem Disconnecting.table (outcome : Disconnecting link after answer calls) :
    after.table = link.table := by
  cases outcome with
  | refused nothing => rfl
  | closed may => exact List.map_map

theorem Publishing.table {id : ChannelId} {payload : List UInt8}
    (outcome : Publishing link id payload after answer calls) : after.table = link.table := by
  cases outcome with
  | refused harmless waits => rfl
  | failed found takes opened connected refused => rfl
  | sent found takes opened connected granted => exact table_setChannel found takes.descriptor_eq

theorem Publishing.spared {target id : ChannelId} {payload : List UInt8}
    (outcome : Publishing link target payload after answer calls) (apart : target ≠ id) :
    Spared id calls := by
  intro session bytes granted inside
  cases outcome with
  | refused harmless waits => cases inside
  | failed found takes opened connected refused =>
      cases List.mem_singleton.mp inside
      exact apart rfl
  | sent found takes opened connected accepted =>
      cases List.mem_singleton.mp inside
      exact apart rfl

theorem Connecting.unsent (outcome : Connecting link after answer calls) :
    Controller.Unsent calls := by
  cases outcome with
  | refused shut => exact Controller.unsent_nil
  | opened may granted => exact Controller.unsent_singleton nofun
  | failed may refused => exact Controller.unsent_singleton nofun

theorem Promoting.unsent (outcome : Promoting link after answer calls) :
    Controller.Unsent calls := by
  cases outcome with
  | refused unfit => exact Controller.unsent_nil
  | asked connected opened granted => exact Controller.unsent_singleton nofun
  | failed connected opened refused => exact Controller.unsent_singleton nofun

theorem Disconnecting.unsent (outcome : Disconnecting link after answer calls) :
    Controller.Unsent calls := by
  cases outcome with
  | refused nothing => exact Controller.unsent_nil
  | closed may =>
      cases link.session with
      | none => exact Controller.unsent_nil
      | some session => exact Controller.unsent_singleton nofun

theorem process_table (link : Link T) : link.process.value.1.table = link.table := by
  have still (steps : List (Step T)) (link : Link T)
      (others : ∀ step ∈ steps, ∀ spec, step ≠ .addChannel spec) :
      (runSteps link steps).table = link.table := by
    induction steps generalizing link with
    | nil => rfl
    | cons step rest ih =>
        rw [List.forall_mem_cons] at others
        exact (ih (step.run link) others.2).trans (Step.table_run others.1)
  change (Operation.process.run link).table = link.table
  rw [Operation.run_eq]
  apply still
  intro step inside spec same
  simp only [Operation.steps] at inside
  split at inside
  · cases inside
  · rcases List.mem_cons.mp inside with first | later
    · cases first.symm.trans same
    · obtain ⟨event, _, dispatched⟩ := List.mem_map.mp later
      cases dispatched.trans same

end Link

/-! ## Images -/

namespace Image

/-- The values of other channels are not touched. -/
theorem set_other {image after : Image} {target id : ChannelId} {payload : List UInt8}
    (written : image.set target payload = .ok after) (apart : target ≠ id) :
    after.values[id]? = image.values[id]? := by
  obtain ⟨_, _, _, rfl⟩ := set_ok written
  exact List.getElem?_set_ne apart

theorem trySet_other (image : Image) {target id : ChannelId} (payload : List UInt8)
    (apart : target ≠ id) : (image.trySet target payload).values[id]? = image.values[id]? := by
  unfold trySet
  cases written : image.set target payload with
  | error error => rfl
  | ok after => exact set_other written apart

/-- Images that are even at a place stay so when the same payload is written into both. -/
theorem set_even {image shadow after : Image} {id : ChannelId} {payload : List UInt8}
    (written : image.set id payload = .ok after) (even : image.values[id]? = shadow.values[id]?) :
    after.values[id]? = (shadow.trySet id payload).values[id]? := by
  obtain ⟨value, there, fits, rfl⟩ := set_ok written
  have beside := even.symm.trans there
  have inside := (List.getElem?_eq_some_iff.mp there).1
  have within := (List.getElem?_eq_some_iff.mp beside).1
  rw [trySet_eq beside fits, List.getElem?_set_self inside, List.getElem?_set_self within]

end Image

namespace Controller

variable {T L : Type} {controller after : Controller T L} {id target : ChannelId}

/-- On a channel that can be sent on, the image shows what the shadow holds. -/
def Even (controller : Controller T L) (id : ChannelId) : Prop :=
  ∀ entry, controller.link.table[id]? = some entry → entry.direction.canPublish = true →
    controller.image.values[id]? = controller.shadow.values[id]?

theorem Even.stands (even : controller.Even id) {link : Link T} {phase : Phase} {active : Bool}
    (table : link.table = controller.link.table)
    (stands : after.Stands link controller.image controller.shadow phase active) :
    after.Even id := by
  intro entry found publishable
  rw [stands.link_eq, table] at found
  rw [stands.image_eq, stands.shadow_eq]
  exact even entry found publishable

/-- A new controller has zeros everywhere. -/
theorem new_even (link : Link T) (logger : Option L) (id : ChannelId) :
    (new link logger).Even id :=
  fun _ _ _ => rfl

/-- There is nothing to send where the image and the shadow are even. -/
theorem Even.change?_eq (even : controller.Even id) : controller.change? id = none := by
  unfold change?
  cases found : controller.link.channels[id]? with
  | none => rfl
  | some channel =>
      cases publishable : channel.direction.canPublish with
      | false => cases controller.image.get id <;> simp [publishable]
      | true =>
          have same : controller.image.get id = controller.shadow.get id := by
            rw [Image.get, Image.get, even _ (Link.table_eq_some found) publishable]
          rw [← same]
          cases controller.image.get id <;> simp [Except.toOption]

/-! ## The ways in -/

/-- The controller after a received value was put into the image, and into the shadow if it could
be sent back. -/
def absorbed (controller : Controller T L) (id : ChannelId) (publishable : Bool)
    (payload : List UInt8) : Controller T L :=
  match controller.image.set id payload with
  | .error _ => controller
  | .ok image =>
      { controller with
        image
        shadow := if publishable then controller.shadow.trySet id payload else controller.shadow }

theorem Even.absorbed (even : controller.Even id) {publishable : Bool} (payload : List UInt8)
    (known : ∀ entry, controller.link.table[target]? = some entry →
      entry.direction.canPublish = publishable) :
    (controller.absorbed target publishable payload).Even id := by
  unfold Controller.absorbed
  cases written : controller.image.set target payload with
  | error error => exact even
  | ok image =>
      intro entry found can
      change image.values[id]? = (if publishable then _ else _ : Image).values[id]?
      -- The shadow takes the payload whenever the image does, as both held the same value.
      by_cases apart : target = id
      · subst apart
        rw [← known entry found, if_pos can]
        exact Image.set_even written (even entry found can)
      · rw [Image.set_other written apart, even entry found can]
        split
        · exact (controller.shadow.trySet_other payload apart).symm
        · rfl

/-- Copying a value is putting it in. -/
theorem copySubscription_eq {channel : Channel}
    (found : controller.link.channels[id]? = some channel) :
    controller.copySubscription id = controller ∨
      controller.copySubscription id =
        { controller with
          link := controller.link.setChannel id { channel with updated := false } }.absorbed id
            channel.direction.canPublish channel.value.bytes := by
  unfold copySubscription Controller.absorbed
  rw [found]
  dsimp only
  split
  · exact .inl rfl
  · right
    cases controller.image.set id channel.value.bytes <;> rfl

/-- Showing a sample is putting it in. -/
theorem showSample_eq (controller : Controller T L) (id : ChannelId) (channel : Channel)
    (sample : Sample) :
    (controller.showSample id channel sample).1 =
      controller.absorbed id channel.direction.canPublish sample.bytes := by
  unfold showSample Controller.absorbed Image.trySet
  cases controller.image.set id sample.bytes with
  | error error => rfl
  | ok image =>
      cases channel.direction.canPublish with
      | false => rfl
      | true =>
          simp only [if_true]
          cases controller.shadow.set id sample.bytes <;> rfl

/-- A received value that is put in from a channel leaves every channel even. -/
theorem Even.received (even : controller.Even id) {channel new : Channel}
    (found : controller.link.channels[target]? = some channel)
    (same : new.descriptor = channel.descriptor) (payload : List UInt8) :
    ({ controller with link := controller.link.setChannel target new }.absorbed target
      new.direction.canPublish payload).Even id := by
  have table := Link.table_setChannel found same
  apply Even.absorbed
  · exact even.stands table ⟨rfl, rfl, rfl, rfl, rfl⟩
  · intro entry there
    rw [table, Link.table_eq_some found, ← same] at there
    cases there
    rfl

theorem Even.copySubscription (even : controller.Even id) (target : ChannelId) :
    (controller.copySubscription target).Even id := by
  cases found : controller.link.channels[target]? with
  | none =>
      rw [Controller.copySubscription, found]
      exact even
  | some channel =>
      rcases copySubscription_eq found with same | copied
      · rw [same]
        exact even
      · have same : { channel with updated := false }.descriptor = channel.descriptor := rfl
        rw [copied]
        exact even.received found same _

theorem Even.copySubscriptions (even : controller.Even id) :
    controller.copySubscriptions.Even id := by
  have all (targets : List ChannelId) (controller : Controller T L) (even : controller.Even id) :
      (targets.foldl Controller.copySubscription controller).Even id := by
    induction targets generalizing controller with
    | nil => exact even
    | cons target rest ih => exact ih _ (even.copySubscription target)
  exact all _ controller even

theorem Even.updateBuffered (even : controller.Even id) (target : ChannelId) (update : Bool) :
    (controller.updateBuffered target update).1.Even id := by
  rcases controller.updateBuffered_eq target update with
    same | ⟨_, channel, sample, found, _, _, taken⟩
  · rw [same]
    exact even
  · have announced : (channel.afterPop default).descriptor = channel.descriptor := rfl
    rw [taken, showSample_eq]
    exact even.received found announced _

/-- The task writes another channel. -/
theorem Even.written (even : controller.Even id) (apart : target ≠ id) (payload : List UInt8) :
    (controller.written target payload).Even id := by
  unfold Controller.written setImage
  cases set : controller.image.set target payload with
  | error error => exact even
  | ok image =>
      intro entry found can
      exact (Image.set_other set apart).trans (even entry found can)

/-! ## The way out -/

section Cycles

variable [Transport T] {calls : List Call}

/-- Nothing is sent on a channel that is even, and it stays so. -/
theorem Sending.even {ids : List ChannelId} (sending : Sending controller ids after calls)
    (even : controller.Even id) : after.Even id ∧ Spared id calls := by
  induction sending with
  | done controller => exact ⟨even, .nil id⟩
  | unchanged same next ih => exact ih even
  | waits change closed next ih => exact ih even
  | @stopped controller after target rest value error link calls change outcome final stands =>
      -- Only what differs from the shadow is offered, so it is on another channel.
      have apart : target ≠ id := by
        rintro rfl
        cases even.change?_eq.symm.trans change
      exact ⟨even.stands outcome.table stands, outcome.spared apart⟩
  | @sent controller after target rest value link early late change outcome next ih =>
      have apart : target ≠ id := by
        rintro rfl
        cases even.change?_eq.symm.trans change
      obtain ⟨ends, later⟩ := ih fun entry found can => by
        rw [outcome.table] at found
        exact (even entry found can).trans (controller.shadow.trySet_other value apart).symm
      exact ⟨ends, (outcome.spared apart).append later⟩

theorem Ready.even {go : Bool} {ready : Controller T L} (prepared : Ready controller go ready calls)
    (even : controller.Even id) : ready.Even id := by
  obtain ⟨alike, _, _⟩ := prepared.alike
  intro entry found can
  rw [Link.table, alike.channels] at found
  rw [alike.image, alike.shadow]
  exact even entry found can

variable [Log.Logger L]

theorem Even.exchange (even : controller.Even id) :
    controller.exchange.value.Even id ∧ Spared id controller.exchange.calls := by
  obtain ⟨base, keeps, value, asked⟩ := controller.exchange_eq
  have polled : base.Even id := even.stands controller.link.process_table keeps
  obtain ⟨flushed, unsent⟩ : base.flush.value.Even id ∧ Spared id base.flush.calls :=
    (base.copySubscriptions.publishChanges_sending _).even polled.copySubscriptions
  obtain ⟨phase, _, stands⟩ := base.flush.value.concluded_stands
  rw [value, asked]
  exact ⟨flushed.stands rfl stands, (Spared.of_unsent (process_unsent _) id).append unsent⟩

theorem Running.even {go : Bool} (outcome : Running controller go after calls)
    (even : controller.Even id) : after.Even id ∧ Spared id calls := by
  cases outcome with
  | exchanged prepared =>
      obtain ⟨exchanged, unsent⟩ := (prepared.even even).exchange
      exact ⟨exchanged, (Spared.of_unsent prepared.alike.2.2 id).append unsent⟩
  | refused phase started connected outcome stands =>
      exact ⟨even.stands outcome.table stands, .of_unsent outcome.unsent id⟩

theorem Even.cycle (even : controller.Even id) (enable go : Bool) :
    (controller.cycle enable go).value.Even id ∧ Spared id (controller.cycle enable go).calls := by
  have outcome := controller.cycle_cases enable go
  generalize (controller.cycle enable go).value = after,
    (controller.cycle enable go).calls = calls at outcome ⊢
  cases outcome with
  | idle phase stands => exact ⟨even.stands rfl stands, .nil id⟩
  | waited enabled phase stands => exact ⟨even.stands rfl stands, .nil id⟩
  | connected enabled phase outcome stands =>
      exact ⟨even.stands outcome.table stands, .of_unsent outcome.unsent id⟩
  | ran enabled phase begins outcome keeps =>
      obtain ⟨ran, unsent⟩ := outcome.even (even.stands rfl begins)
      exact ⟨ran.stands rfl keeps, unsent⟩
  | ended phase due outcome stands =>
      exact ⟨even.stands outcome.table stands, .of_unsent outcome.unsent id⟩

end Cycles

end Controller

namespace World

variable {L : Type} [Log.Logger L] {world : World L} {id : ChannelId}

theorem step_even (even : world.controller.Even id) {input : Input}
    (unwritten : ∀ payload, input ≠ .setImage id payload) :
    (world.step input).value.controller.Even id ∧ Spared id (world.step input).calls := by
  cases input with
  | cycle enable go =>
      rw [step, Trail.calls_bind, Trail.calls_pure, List.append_nil]
      exact even.cycle enable go
  | setImage target payload =>
      have apart : target ≠ id := by
        rintro rfl
        exact unwritten payload rfl
      exact ⟨even.written apart payload, .nil id⟩
  | updateBuffered target update => exact ⟨even.updateBuffered target update, .nil id⟩
  | peer action => exact ⟨even, .nil id⟩

theorem run_even (even : world.controller.Even id) {inputs : List Input}
    (unwritten : ∀ payload, .setImage id payload ∉ inputs) :
    Spared id (world.run inputs).calls ∧
      payloadsOn id (world.run inputs).value.frames = payloadsOn id world.frames := by
  induction inputs generalizing world with
  | nil => exact ⟨.nil id, rfl⟩
  | cons input rest ih =>
      obtain ⟨still, unsent⟩ := step_even even fun payload same =>
        unwritten payload (List.mem_cons.mpr (.inl same.symm))
      obtain ⟨later, frames⟩ := ih still fun payload inside =>
        unwritten payload (List.mem_cons_of_mem _ inside)
      rw [run, Trail.calls_bind]
      refine ⟨unsent.append later, frames.trans ?_⟩
      rw [(world.step_advances input).1, payloadsOn_append, unsent.payloadsOn_eq, List.append_nil]

/-- A controller whose task never writes a channel never sends on it, whatever comes in, however
often it is copied or taken, and however often the link is aborted and connected again. -/
theorem received_values_are_never_echoed (link : Link Simulator) (logger : Option L)
    (id : ChannelId) (inputs : List Input) (unwritten : ∀ payload, .setImage id payload ∉ inputs) :
    let run := (start link logger).run inputs
    (∀ session payload granted, .send session id payload granted ∉ run.calls) ∧
      payloadsOn id run.value.frames = payloadsOn id link.transport.frames :=
  run_even (Controller.new_even link logger id) unwritten

/-- A link with two channels that are open both ways, one of which keeps samples, and one that only
publishes. -/
def talkative : Link Simulator :=
  Link.ofBuilt ((Link.fresh "line" none {}).addChannels
    [⟨"mode", .both, 1, none⟩, ⟨"samples", .both, 2, some 3⟩, ⟨"setpoint", .publish, 1, none⟩]) rfl

/-- The peer sends on both channels, aborts the link, and sends again in the next session.  The task
writes the third channel only. -/
def interruptedTalk : List Input :=
  [.cycle true true, .cycle true true, .cycle true true, .setImage 2 [9],
    .peer (.inject (.channelUpdated 0 [5] 0)), .peer (.inject (.channelUpdated 1 [1, 2] 0)),
    .cycle true true, .updateBuffered 1 true, .cycle true true,
    .peer (.inject (.linkStateChanged .aborted none)), .cycle true true, .cycle false true,
    .cycle true true, .cycle true true, .cycle true true,
    .peer (.inject (.channelUpdated 0 [6] 0)), .cycle true true, .cycle true true]

theorem interrupted_talk_is_not_echoed :
    let world := ((start talkative (none : Option Log.Station)).run interruptedTalk).value
    (∀ payload, .setImage 0 payload ∉ interruptedTalk) ∧
      (∀ payload, .setImage 1 payload ∉ interruptedTalk) ∧
      world.controller.image.values = [⟨[6]⟩, ⟨[1, 2]⟩, ⟨[9]⟩] ∧
      world.controller.link.session = some 2 ∧ payloadsOn 2 world.frames = [[9]] ∧
      payloadsOn 0 world.frames = [] ∧ payloadsOn 1 world.frames = [] := by
  have general (id : ChannelId) (inputs : List Input) :=
    received_values_are_never_echoed talkative (none : Option Log.Station) id inputs
  have first (payload : List UInt8) : .setImage 0 payload ∉ interruptedTalk := by
    simp [interruptedTalk]
  have second (payload : List UInt8) : .setImage 1 payload ∉ interruptedTalk := by
    simp [interruptedTalk]
  exact ⟨first, second, by decide +kernel, by decide +kernel, by decide +kernel,
    (general 0 interruptedTalk first).2, (general 1 interruptedTalk second).2⟩

end World

end DatasetSync
