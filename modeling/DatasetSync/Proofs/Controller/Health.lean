import DatasetSync.Proofs.Controller.Echo
import DatasetSync.Proofs.Controller.Lifecycle
import DatasetSync.Proofs.Link.Batch

/-!
# Exchanging with a healthy peer

A healthy peer acknowledges everything, refuses nothing and sends only values that fit.  Whatever is
asked of it is granted, and an exchange with it leaves a controller up, or takes it up if the news
of a registration or of a promotion is waiting.
-/

namespace DatasetSync

/-! ## A healthy peer -/

/-- An update or a receipt that is about the table. -/
structure InboundEvent.Harmless (table : List Descriptor) (event : InboundEvent) : Prop where
  expected : event.Expected table
  still : event.moves = false

instance (table : List Descriptor) (event : InboundEvent) : Decidable (event.Harmless table) :=
  decidable_of_iff (event.Expected table ∧ event.moves = false)
    ⟨fun both => ⟨both.1, both.2⟩, fun harmless => ⟨harmless.expected, harmless.still⟩⟩

/-- A healthy peer sends nothing but what is harmless, and makes nothing fail. -/
def PeerAction.Healthy (table : List Descriptor) : PeerAction → Prop
  | .inject event => event.Harmless table
  | .acknowledge automatically => automatically = true
  | .failRegister _ | .failPromote _ | .failSend _ => False
  | .setClock _ | .takeFrames | .takeRegistrations => True

instance (table : List Descriptor) (action : PeerAction) : Decidable (action.Healthy table) :=
  match action with
  | .inject event => inferInstanceAs (Decidable (event.Harmless table))
  | .acknowledge automatically => inferInstanceAs (Decidable (automatically = true))
  | .failRegister _ | .failPromote _ | .failSend _ => inferInstanceAs (Decidable False)
  | .setClock _ | .takeFrames | .takeRegistrations => inferInstanceAs (Decidable True)

namespace Simulator

/-- The peer acknowledges everything, refuses nothing and sends only values that fit. -/
structure Healthy (table : List Descriptor) (sim : Simulator) : Prop where
  acknowledges : sim.acknowledges = true
  registers : sim.failRegister = none
  promotes : sim.failPromote = none
  sends : sim.failSend = none
  injected : ∀ event ∈ sim.injected, event.Harmless table

/-- Nothing but receipts waits to be fetched as an acknowledgement. -/
def Receipts (table : List Descriptor) (sim : Simulator) : Prop :=
  ∀ event ∈ sim.acknowledgements, event.Harmless table

/-- The events that confirm a registration are about the table that was registered. -/
theorem registered_expected {table : List Descriptor} (sound : SoundTable table) :
    ∀ event ∈ registered table, event.Expected table := by
  intro event inside
  rcases List.mem_cons.mp inside with rfl | later
  · trivial
  · obtain ⟨entry, there, rfl⟩ := List.mem_map.mp later
    obtain ⟨place, found⟩ := List.mem_iff_getElem?.mp there
    change entry.id < table.length
    rw [sound.place found]
    exact (List.getElem?_eq_some_iff.mp found).1

namespace Healthy

variable {table : List Descriptor} {sim : Simulator} {session : Session}

theorem register (healthy : sim.Healthy table) (closed : sim.session = none) (linkName : String)
    (channels : List Descriptor) :
    (Transport.register sim linkName channels).value =
      ({ sim with
        session := some sim.nextSession
        nextSession := sim.nextSession + 1
        acknowledgements := registered channels
        registrations := sim.registrations ++ [⟨sim.nextSession, linkName, channels⟩] },
        .ok sim.nextSession) := by
  change (sim.register linkName channels).value = _
  simp [Simulator.register, healthy.registers, closed, openSession, healthy.acknowledges]

theorem promote (healthy : sim.Healthy table) (opened : sim.session = some session) :
    (Transport.promote sim session).value =
      ({ sim with
        acknowledgements := sim.acknowledgements ++ [.linkStateChanged .operational none] },
        .ok ()) := by
  change sim.promote session = _
  simp [Simulator.promote, opened, healthy.promotes, acknowledge, healthy.acknowledges]

theorem send (healthy : sim.Healthy table) (opened : sim.session = some session)
    (id : ChannelId) (payload : List UInt8) :
    (Transport.send sim session id payload).value =
      ({ sim with
        frames := sim.frames ++ [⟨session, id, payload⟩]
        traffic := sim.traffic.recordSend payload.length
        acknowledgements := sim.acknowledgements ++
          [.publishAcknowledged id bufferInUse, .deliveryAcknowledged id bufferFree] },
        .ok ()) := by
  change sim.send session id payload = _
  simp [Simulator.send, opened, healthy.sends, acknowledge, healthy.acknowledges]

/-- Whatever a healthy peer does, it stays so. -/
theorem act (healthy : sim.Healthy table) {action : PeerAction} (fair : action.Healthy table) :
    (action.act sim).Healthy table := by
  obtain ⟨acknowledges, registers, promotes, sends, injected⟩ := healthy
  cases action with
  | inject event =>
      refine ⟨acknowledges, registers, promotes, sends, fun other inside => ?_⟩
      rcases List.mem_append.mp inside with old | new
      · exact injected other old
      · rw [List.mem_singleton.mp new]
        exact fair
  | acknowledge automatically => exact ⟨fair, registers, promotes, sends, injected⟩
  | failRegister fault => exact fair.elim
  | failPromote fault => exact fair.elim
  | failSend fault => exact fair.elim
  | setClock now => exact ⟨acknowledges, registers, promotes, sends, injected⟩
  | takeFrames => exact ⟨acknowledges, registers, promotes, sends, injected⟩
  | takeRegistrations => exact ⟨acknowledges, registers, promotes, sends, injected⟩

end Healthy

theorem Healthy.emptied {table : List Descriptor} {sim : Simulator} (healthy : sim.Healthy table) :
    sim.emptied.Healthy table :=
  ⟨healthy.acknowledges, healthy.registers, healthy.promotes, healthy.sends,
    fun _ inside => (List.not_mem_nil inside).elim⟩

end Simulator

/-! ## What leaves a link as it stands -/

namespace Link

/-- A link on which nothing but the values and the clock have changed. -/
structure Near (table : List Descriptor) (link after : Link Simulator) : Prop where
  instanceName : after.instanceName = link.instanceName
  announced : after.table = link.table
  session : after.session = link.session
  level {state : ConnectionState} (level : link.Level state) : after.Level state
  healthy (healthy : link.transport.Healthy table) : after.transport.Healthy table
  agrees : after.transport.session = link.transport.session
  acknowledgements : after.transport.acknowledgements = link.transport.acknowledgements

theorem Near.refl (table : List Descriptor) (link : Link Simulator) : link.Near table link :=
  ⟨rfl, rfl, rfl, id, id, rfl, rfl⟩

/-- A level is a matter of the link's state and its channels. -/
theorem Level.congr {T : Type} {link after : Link T} {state : ConnectionState}
    (level : link.Level state) (top : after.state = link.state)
    (channels : after.channels = link.channels) : after.Level state := by
  refine ⟨top.trans level.top, fun found => ?_⟩
  rw [channels] at found
  exact level.channels found

theorem Level.setChannel {T : Type} {link : Link T} {state : ConnectionState}
    (level : link.Level state) {id : ChannelId} {channel : Channel}
    (found : link.channels[id]? = some channel) (new : Channel)
    (same : new.state = channel.state) : (link.setChannel id new).Level state := by
  refine ⟨level.top, fun {place other} there => ?_⟩
  rw [getElem?_setChannel found fun _ => new] at there
  obtain ⟨before, beside, rfl⟩ := Option.map_eq_some_iff.mp there
  split
  · rw [same]
    exact level.channels found
  · exact level.channels beside

/-- A channel may change in what is neither announced nor its state. -/
theorem near_setChannel {link : Link Simulator} {id : ChannelId} {channel : Channel}
    (found : link.channels[id]? = some channel) (new : Channel)
    (same : new.descriptor = channel.descriptor) (state : new.state = channel.state)
    (table : List Descriptor) : link.Near table (link.setChannel id new) :=
  ⟨rfl, table_setChannel found same, rfl, fun level => level.setChannel found new state,
    fun healthy => healthy, rfl, rfl⟩

theorem near_act (link : Link Simulator) {table : List Descriptor} {action : PeerAction}
    (fair : action.Healthy table) :
    link.Near table { link with transport := action.act link.transport } := by
  refine ⟨rfl, rfl, rfl, fun level => level.congr rfl rfl, fun healthy => healthy.act fair,
    (action.act_sameSessions link.transport).session, ?_⟩
  cases action <;> rfl

end Link

/-! ## A controller with its session open -/

namespace Controller

variable {L : Type}

/-- A controller over a healthy peer, with no error so far. -/
structure Tended (table : List Descriptor) (name : String) (controller : Controller Simulator L) :
    Prop where
  named : controller.link.instanceName = name
  announced : controller.link.table = table
  healthy : controller.link.transport.Healthy table
  agrees : controller.link.transport.session = controller.link.session
  errors : controller.errors = (false, none)

/-- The link and its channels are up, and only receipts wait. -/
structure Up (table : List Descriptor) (name : String) (session : Session)
    (state : ConnectionState) (controller : Controller Simulator L) : Prop where
  tended : controller.Tended table name
  opened : controller.link.session = some session
  level : controller.link.Level state
  receipts : controller.link.transport.Receipts table

variable {table : List Descriptor} {name : String} {session : Session} {state : ConnectionState}
  {controller after : Controller Simulator L}

theorem Tended.near (tended : controller.Tended table name)
    (near : controller.link.Near table after.link) (errors : after.errors = controller.errors) :
    after.Tended table name :=
  ⟨near.instanceName.trans tended.named, near.announced.trans tended.announced,
    near.healthy tended.healthy, near.agrees.trans (tended.agrees.trans near.session.symm),
    errors.trans tended.errors⟩

theorem Up.near (up : controller.Up table name session state)
    (near : controller.link.Near table after.link) (errors : after.errors = controller.errors) :
    after.Up table name session state := by
  refine ⟨up.tended.near near errors, near.session.trans up.opened, near.level up.level, ?_⟩
  rw [Simulator.Receipts, near.acknowledgements]
  exact up.receipts

/-! ## Copying and sending -/

theorem Up.copySubscription (up : controller.Up table name session state) (id : ChannelId) :
    (controller.copySubscription id).Up table name session state := by
  unfold Controller.copySubscription
  split
  · exact up
  · rename_i channel found
    split
    · exact up
    · have near := Link.near_setChannel found { channel with updated := false } rfl rfl table
      dsimp only
      split <;> exact up.near near rfl

theorem Up.copySubscriptions (up : controller.Up table name session state) :
    controller.copySubscriptions.Up table name session state := by
  have copied (ids : List ChannelId) : (ids.foldl Controller.copySubscription controller).Up table
      name session state := by
    induction ids generalizing controller with
    | nil => exact up
    | cons id rest ih => exact ih (up.copySubscription id)
  exact copied _

/-- A value that was sent leaves two receipts. -/
theorem Up.sentTo (up : controller.Up table name session state) {id : ChannelId} {slot : Slot}
    {transport : Simulator} (found : controller.link.channels[id]? = some slot.channel)
    (takes : slot.channel.Takes slot.value.bytes)
    (answer : (Transport.send controller.link.transport session id slot.value.bytes).value =
      (transport, .ok ())) :
    (controller.sentTo transport id slot).Up table name session state := by
  have healthy := up.tended.healthy
  have opened : controller.link.transport.session = some session :=
    up.tended.agrees.trans up.opened
  cases (healthy.send opened id slot.value.bytes).symm.trans answer
  have known : id < table.length := by
    rw [← up.tended.announced]
    exact (List.getElem?_eq_some_iff.mp (Link.table_eq_some found)).1
  refine ⟨⟨up.tended.named, ?_, ⟨healthy.acknowledges, healthy.registers, healthy.promotes,
    healthy.sends, healthy.injected⟩, up.tended.agrees, up.tended.errors⟩, up.opened,
    ?_, ?_⟩
  · exact (Link.table_setChannel found takes.descriptor_eq).trans up.tended.announced
  · exact (up.level.setChannel found (slot.channel.sentOn slot.value.bytes) rfl).congr rfl rfl
  · intro event inside
    rcases List.mem_append.mp inside with old | new
    · exact up.receipts event old
    · simp only [List.mem_cons, List.not_mem_nil, or_false] at new
      rcases new with rfl | rfl
      · exact ⟨known, rfl⟩
      · exact ⟨known, rfl⟩

variable [Log.Logger L]

/-- Sending to a healthy peer never fails. -/
theorem Up.publishChanges (up : controller.Up table name session state)
    (sound : controller.Sound) (ids : List ChannelId) :
    (controller.publishChanges ids).value.Up table name session state ∧
      (controller.publishChanges ids).value.phase = controller.phase := by
  induction ids generalizing controller with
  | nil => exact ⟨up, rfl⟩
  | cons id rest ih =>
      rw [Controller.publishChanges]
      cases change : controller.change? id with
      | none => exact ih up sound
      | some value =>
          obtain ⟨slot, found, changed, rfl⟩ := changed_of_change? sound.aligned change
          have takes := takes_of_changed (sound.slots found) changed
          have owner := (slot?_eq_some.mp found).1
          have outcome := controller.link.publish_cases id slot.value.bytes
          simp only [Trail.value_bind]
          generalize (controller.link.publish id slot.value.bytes).value.1 = link,
            (controller.link.publish id slot.value.bytes).value.2 = answer,
            (controller.link.publish id slot.value.bytes).calls = calls at outcome ⊢
          cases outcome with
          | refused harmless waits =>
              simp only [if_pos (waits slot.channel owner takes).1]
              exact ih up sound
          | failed there _ opened connected refused =>
              cases up.opened.symm.trans opened
              have agrees := up.tended.agrees.trans opened
              cases (up.tended.healthy.send agrees id _).symm.trans refused
          | @sent _ current transport there _ opened connected granted =>
              cases owner.symm.trans there
              cases up.opened.symm.trans opened
              exact ih (up.sentTo owner takes granted) (sentTo_sound sound found transport)

omit [Log.Logger L] in
/-- A link that is up is not torn down. -/
theorem Up.concluded (up : controller.Up table name session state)
    (connected : state.isConnected = true) : controller.concluded = controller := by
  refine if_neg ?_
  rintro (aborted | lost)
  · rw [← up.level.top, aborted] at connected
    cases connected
  · rw [← up.level.top, (Link.lostConnection_eq_true.mp lost).2.2] at connected
    cases connected

/-- Where nothing fails to be fetched, an exchange goes on with the link as it then is. -/
theorem exchange_answered {count : Nat} (answered : controller.link.process.value.2 = .ok count) :
    controller.exchange.value =
      (flush { controller with link := controller.link.process.value.1 }).value.concluded := by
  rcases processed : controller.link.process with ⟨⟨link, answer⟩, marks⟩
  rw [processed] at answered
  cases answered
  rw [← (conclude_eq _).1, exchange, processed]
  rfl

theorem Up.flush (up : controller.Up table name session state) (sound : controller.Sound) :
    controller.flush.value.Up table name session state ∧
      controller.flush.value.phase = controller.phase := by
  have copied := (copySubscriptions_maps sound).sound sound fun _ _ _ fine => fine.copied.1
  obtain ⟨sent, phase⟩ := up.copySubscriptions.publishChanges copied _
  exact ⟨sent, phase.trans controller.copySubscriptions_rests.phase⟩

/-- An exchange with a healthy peer leaves everything up, if the events that wait take the link
there. -/
theorem Tended.exchange (tended : controller.Tended table name) (sound : controller.Sound)
    (opened : controller.link.session = some session)
    (expected : ∀ event ∈ controller.link.transport.acknowledgements, event.Expected table)
    (level : ∀ transport : Simulator, (Link.applied { controller.link with transport }
      controller.link.transport.waiting).Level state)
    (connected : state.isConnected = true) :
    controller.exchange.value.Up table name session state ∧
      controller.exchange.value.phase = controller.phase := by
  have healthy := tended.healthy
  have polled := Simulator.poll_opened (tended.agrees.trans opened)
  obtain ⟨count, answered⟩ := Link.process_answered opened (by
    rw [polled, tended.announced]
    intro event inside
    rcases List.mem_append.mp inside with confirmed | sent
    · exact expected event confirmed
    · exact (healthy.injected event sent).expected)
  have base : Up table name session state
      { controller with link := controller.link.process.value.1 } := by
    have processed : controller.link.process.value.1 =
        Link.applied { controller.link with transport := controller.link.transport.emptied }
          controller.link.transport.waiting := (Link.process_opened opened polled).1
    have announced := controller.link.process_table
    obtain ⟨instanceName, kept, transport⟩ := Link.applied_frame
      { controller.link with transport := controller.link.transport.emptied }
      controller.link.transport.waiting
    rw [← processed] at instanceName kept transport
    refine ⟨⟨instanceName.trans tended.named, announced.trans tended.announced, ?_, ?_,
      tended.errors⟩, kept.trans opened, ?_, ?_⟩
    · rw [transport]
      exact healthy.emptied
    · rw [transport, kept]
      exact tended.agrees
    · rw [processed]
      exact level _
    · rw [transport]
      exact fun _ inside => (List.not_mem_nil inside).elim
  have received := controller.process_polled.1.sound sound
  obtain ⟨up, phase⟩ := base.flush received
  rw [exchange_answered answered, up.concluded connected]
  exact ⟨up, phase⟩

/-- An exchange leaves a controller that is up where it is. -/
theorem Up.exchange (up : controller.Up table name session state) (sound : controller.Sound)
    (connected : state.isConnected = true) :
    controller.exchange.value.Up table name session state ∧
      controller.exchange.value.phase = controller.phase := by
  have still : ∀ event ∈ controller.link.transport.waiting, event.moves = false := by
    intro event inside
    rcases List.mem_append.mp inside with receipt | sent
    · exact (up.receipts event receipt).still
    · exact (up.tended.healthy.injected event sent).still
  have raised (transport : Simulator) :
      (Link.applied { controller.link with transport }
        controller.link.transport.waiting).Level state := by
    have level : ({ controller.link with transport } : Link Simulator).Level state :=
      up.level.congr rfl rfl
    exact level.exchanges still
  exact up.tended.exchange sound up.opened
    (fun event inside => (up.receipts event inside).expected) raised connected

/-- The first exchange of a session brings the news that it is open, for the link and for each of
its channels. -/
theorem Tended.confirmed (tended : controller.Tended table name) (sound : controller.Sound)
    (announced : SoundTable table) (opened : controller.link.session = some session)
    (level : controller.link.Level .disconnected)
    (confirmed : controller.link.transport.acknowledgements = Simulator.registered table) :
    controller.exchange.value.Up table name session .connected ∧
      controller.exchange.value.phase = controller.phase := by
  have expected := Simulator.registered_expected announced
  rw [← confirmed] at expected
  have raised (transport : Simulator) :
      (Link.applied { controller.link with transport }
        controller.link.transport.waiting).Level .connected := by
    have down : ({ controller.link with transport } : Link Simulator).Level .disconnected :=
      level.congr rfl rfl
    have same : ({ controller.link with transport } : Link Simulator).table = table :=
      tended.announced
    rw [← same] at announced confirmed
    rw [Simulator.waiting, confirmed, Link.applied_append]
    exact (down.register announced).exchanges fun event inside =>
      (tended.healthy.injected event inside).still
  exact tended.exchange sound opened expected raised rfl

def promoted (controller : Controller Simulator L) : Controller Simulator L :=
  { controller with
    phase := .running
    link := { controller.link with transport := { controller.link.transport with
      acknowledgements := controller.link.transport.acknowledgements ++
        [.linkStateChanged .operational none] } } }

/-- Running begins with a promotion, which a healthy peer grants. -/
theorem Up.start (up : controller.Up table name session .connected) :
    controller.start.value = controller.promoted.exchange.value ∧
      controller.start.calls = .promote session true :: controller.promoted.exchange.calls := by
  have granted := up.tended.healthy.promote (up.tended.agrees.trans up.opened)
  obtain ⟨link, answer, calls⟩ :=
    controller.link.setOperational_cases.unique (.asked up.level.top up.opened granted)
  unfold Controller.start
  rw [up.level.top]
  simp only [Trail.value_bind, Trail.calls_bind, link, answer, calls]
  exact ⟨rfl, rfl⟩

theorem Up.promoted (up : controller.Up table name session .connected)
    (sound : controller.Sound) :
    controller.promoted.exchange.value.Up table name session .operational ∧
      controller.promoted.exchange.value.phase = .running := by
  have healthy := up.tended.healthy
  have tended : controller.promoted.Tended table name :=
    ⟨up.tended.named, up.tended.announced, ⟨healthy.acknowledges, healthy.registers,
      healthy.promotes, healthy.sends, healthy.injected⟩, up.tended.agrees, up.tended.errors⟩
  have expected : ∀ event ∈ controller.promoted.link.transport.acknowledgements,
      event.Expected table := by
    intro event inside
    rcases List.mem_append.mp inside with receipt | news
    · exact (up.receipts event receipt).expected
    · rw [List.mem_singleton.mp news]
      trivial
  -- The news of the promotion stands between the receipts and what the peer has sent.
  have raised (transport : Simulator) :
      (Link.applied { controller.promoted.link with transport }
        controller.promoted.link.transport.waiting).Level .operational := by
    have level : ({ controller.promoted.link with transport } : Link Simulator).Level .connected :=
      up.level.congr rfl rfl
    rw [Simulator.waiting, Link.applied_append]
    refine Link.Level.exchanges ?_ fun event inside => (healthy.injected event inside).still
    change (Link.applied _ (controller.link.transport.acknowledgements ++ _)).Level .operational
    rw [Link.applied_append]
    exact (level.exchanges fun event inside => (up.receipts event inside).still).promote
  exact tended.exchange (sound.congr rfl rfl rfl) up.opened expected raised rfl

end Controller

end DatasetSync
