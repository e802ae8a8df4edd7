import DatasetSync.Proofs.Link.History
import DatasetSync.Proofs.Link.Isolation

/-!
# Demands that fail

What the owner of a link demands can fail in two ways.  The link refuses it on the spot: then
nothing has happened, to the link or to anyone else.  Or the transport fails it: then the link is
aborted, its owner is told so once, and everything else stands as it stood, but for what a link that
connects clears away before it calls on the transport.
-/

namespace DatasetSync

def Obstacle.kind? : Obstacle → Option ErrorKind
  | .refused error => some error.kind
  | .outOfRange => none

/-- What the owner of a link may demand of it. -/
inductive Demand where
  | addChannel (spec : ChannelSpec)
  | connect
  | setOperational
  | disconnect
  | publish (id : ChannelId) (payload : List UInt8)
  | pop (id : ChannelId)
  /-- Exchange the oldest sample of a channel for the one in hand. -/
  | popInto (id : ChannelId)

/-- A link, and the sample that its owner has in hand for an exchange. -/
structure Desk (T : Type) where
  link : Link T
  inHand : Sample

namespace Desk

variable {T : Type}

def relay (desk : Desk T) (asked : Trail Effect (Link.Outcome T Unit)) :
    Trail Effect (Desk T × Except Obstacle Unit) := do
  let (link, answer) ← asked
  return ({ desk with link }, answer.mapError .refused)

def meet [Transport T] (desk : Desk T) : Demand → Trail Effect (Desk T × Except Obstacle Unit)
  | .addChannel spec =>
      let (link, answer) := desk.link.addChannel spec
      return ({ desk with link }, answer.map fun _ => ())
  | .connect => desk.relay desk.link.connect
  | .setOperational => desk.relay desk.link.setOperational
  | .disconnect => desk.relay desk.link.disconnect
  | .publish id payload => desk.relay (desk.link.publish id payload)
  | .pop id =>
      let (link, answer) := desk.link.pop id
      return ({ desk with link }, (answer.map fun _ => ()).mapError .refused)
  | .popInto id =>
      let (link, inHand, answer) := desk.link.popInto id desk.inHand
      return (⟨link, inHand⟩, answer.mapError .refused)

end Desk

/-! ## Channels that connect -/

namespace Channel

/-- Nothing on the channel belongs to a session. -/
structure Cleared (channel : Channel) : Prop where
  state : channel.state = .disconnected
  lastError : channel.lastError = none
  updated : channel.updated = false
  sendBuffer : channel.sendBuffer = SendBuffer.unknown
  pending : channel.pending = 0

theorem prepare_cleared (channel : Channel) : channel.prepare.Cleared := by
  refine ⟨rfl, rfl, rfl, rfl, ?_⟩
  unfold pending prepare
  cases channel.buffer with
  | none => rfl
  | some ring => simp [Ring.pending, Ring.clear]

end Channel

/-- No description of a channel is refused on behalf of a transport. -/
theorem ChannelSpec.validate_harmless {spec : ChannelSpec} {error : Error}
    (wrong : spec.validate = .error error) : error.kind ≠ .transportAborted := by
  unfold validate validateBuffer at wrong
  repeat' split at wrong
  all_goals
    cases wrong
    try nofun

namespace Link

variable {T α : Type}

theorem Barred.harmless {link : Link T} {spec : ChannelSpec} {obstacle : Obstacle}
    (barred : Barred link spec obstacle) : obstacle.kind? ≠ some .transportAborted := by
  cases barred with
  | opened opened => nofun
  | taken closed taken => nofun
  | unmade closed free failed =>
      have making := Channel.new_cases link.channels.length spec
      rw [failed] at making
      cases making with
      | invalid wrong => exact fun aborted => spec.validate_harmless wrong (Option.some.inj aborted)
      | large valid large => nofun

theorem addChannel_refused {link : Link T} {spec : ChannelSpec} {obstacle : Obstacle}
    (refused : (link.addChannel spec).2 = .error obstacle) :
    link.addChannel spec = (link, .error obstacle) ∧
      obstacle.kind? ≠ some .transportAborted := by
  have outcome := link.addChannel_cases spec
  rw [refused] at outcome
  generalize added : link.addChannel spec = pair at outcome refused
  obtain ⟨after, answer⟩ := pair
  cases refused
  cases outcome with
  | refused barred => exact ⟨rfl, barred.harmless⟩

theorem popInto_refused {link : Link T} {id : ChannelId} {destination : Sample} {error : Error}
    (refused : (link.popInto id destination).2.2 = .error error) :
    link.popInto id destination = (link, destination, .error error) ∧
      error.kind ≠ .transportAborted := by
  unfold popInto channel at refused ⊢
  cases found : link.channels[id]? with
  | none =>
      rw [found] at refused
      cases refused
      exact ⟨rfl, nofun⟩
  | some owner =>
      rw [found] at refused
      have answer : (owner.popInto destination).2.2 = .error error := refused
      obtain ⟨same, harmless⟩ := Channel.popInto_refused answer
      refine ⟨?_, harmless⟩
      dsimp only
      rw [same, setChannel_self found]

theorem pop_refused {link : Link T} {id : ChannelId} {error : Error}
    (refused : (link.pop id).2 = .error error) :
    link.pop id = (link, .error error) ∧ error.kind ≠ .transportAborted := by
  have exchanged : (link.popInto id default).2.2 = .error error := error_of_map refused
  obtain ⟨same, harmless⟩ := popInto_refused exchanged
  refine ⟨?_, harmless⟩
  rw [pop, same]
  rfl

/-! ## How requests end -/

/-- How a request of a link ends.  `begun` is the link that calls on the transport. -/
inductive Ending (link begun : Link T) (asked : Trail Effect (Outcome T Unit)) : Prop where
  /-- It is refused on the spot. -/
  | refused {error : Error} (same : asked = pure (link, .error error))
      (harmless : error.kind ≠ .transportAborted)
  /-- The transport fails it. -/
  | broken {transport : T} {fault : Fault}
      (value : asked.value = (begun.refusedBy transport fault, .error (.transportAborted fault)))
      (told : asked.told = [.linkStateChanged .aborted (some fault)])
  | granted (answer : asked.value.2 = .ok ())

@[simp] theorem told_request (asked : Trail Note α) (call : α → Call) :
    (request asked call).told = [] := by
  simp [request, Trail.told, List.filterMap_map, Function.comp_def, Effect.event?]

theorem told_abort (link : Link T) (fault : Fault) :
    (link.abort fault : Trail Effect (Outcome T α)).told =
      [.linkStateChanged .aborted (some fault)] := rfl

section Requests

variable [Transport T]

theorem connect_ending (link : Link T) : Ending link link.prepare link.connect := by
  unfold connect
  split
  · exact .refused rfl nofun
  · rcases answer : (Transport.register link.prepare.transport link.prepare.instanceName
      (link.prepare.channels.map Channel.descriptor)).value with ⟨transport, fault | session⟩
    · refine .broken (register_failed answer).1 ?_
      simp only [register, Trail.told_bind, told_request, value_request, answer]
      exact told_abort _ fault
    · refine .granted ?_
      rw [(register_opened answer).1]

/-- A link that has a session now has cleared its channels. -/
theorem Connecting.channels_of_granted {link after : Link T} {answer : Except Error Unit}
    {calls : List Call} (outcome : Connecting link after answer calls) (granted : answer = .ok ()) :
    after.channels = link.channels.map Channel.prepare := by
  cases outcome with
  | refused shut => cases granted
  | opened may opened => rfl
  | failed may failed => cases granted

theorem promote_ending (link : Link T) (session : Session) :
    Ending link link (link.promote session) := by
  rcases answer : (Transport.promote link.transport session).value with
    ⟨transport, fault | granted⟩
  · have value : (link.promote session).value =
        (link.refusedBy transport fault, .error (.transportAborted fault)) := by
      simp only [promote, Trail.value_bind, value_request, answer]
      rfl
    refine .broken value ?_
    simp only [promote, Trail.told_bind, told_report, told_request, value_request, answer]
    exact told_abort _ fault
  · refine .granted ?_
    simp only [promote, Trail.value_bind, value_request, answer]
    rfl

theorem setOperational_ending (link : Link T) : Ending link link link.setOperational := by
  unfold setOperational
  cases link.session with
  | none => exact .refused rfl nofun
  | some session =>
      dsimp only
      split
      · exact link.promote_ending session
      · exact .refused rfl nofun

/-- What was sent is put on record without fail, so only the transport can spoil it. -/
theorem sendOn_ending {link : Link T} {channel : Channel} {payload : List UInt8}
    (takes : channel.Takes payload) (session : Session) (id : ChannelId) :
    Ending link link (link.sendOn session id channel payload) := by
  rcases answer : (Transport.send link.transport session id payload).value with
    ⟨transport, fault | granted⟩
  · have value : (link.sendOn session id channel payload).value =
        (link.refusedBy transport fault, .error (.transportAborted fault)) := by
      simp only [sendOn, Trail.value_bind, value_request, answer]
      rfl
    refine .broken value ?_
    simp only [sendOn, Trail.told_bind, told_request, value_request, answer]
    exact told_abort _ fault
  · refine .granted ?_
    simp only [sendOn, Trail.value_bind, value_request, answer,
      Channel.recordPublished_eq takes.fits]
    rfl

theorem publish_ending (link : Link T) (id : ChannelId) (payload : List UInt8) :
    Ending link link (link.publish id payload) := by
  unfold publish Link.channel
  cases link.channels[id]? with
  | none => exact .refused rfl nofun
  | some channel =>
      cases checked : channel.checkPublish payload with
      | error error =>
          simp only [checked]
          exact .refused rfl (Channel.not_takes_of_checkPublish checked).1
      | ok done =>
          simp only [checked]
          cases link.session with
          | none => exact .refused rfl nofun
          | some session =>
              dsimp only
              split
              · exact sendOn_ending (Channel.takes_of_checkPublish checked) session id
              · exact .refused rfl nofun

end Requests

end Link

/-! ## Demands -/

/-- The link that a demand takes to the transport. -/
def Demand.begun {T : Type} (link : Link T) : Demand → Link T
  | .connect => link.prepare
  | _ => link

/-- The demands that the transport has a say in. -/
inductive Demand.Outward : Demand → Prop where
  | connect : Outward .connect
  | setOperational : Outward .setOperational
  | publish (id : ChannelId) (payload : List UInt8) : Outward (.publish id payload)

namespace Desk

variable {T : Type}

/-- A demand was refused on the spot, and nothing has happened. -/
structure Refused (desk : Desk T) (asked : Trail Effect (Desk T × Except Obstacle Unit))
    (obstacle : Obstacle) : Prop where
  harmless : obstacle.kind? ≠ some .transportAborted
  same : asked = pure (desk, .error obstacle)

/-- How a demand may fail. -/
inductive Failure (desk : Desk T) (begun : Link T)
    (asked : Trail Effect (Desk T × Except Obstacle Unit)) : Obstacle → Prop where
  | refused {obstacle : Obstacle} (refused : Refused desk asked obstacle) :
      Failure desk begun asked obstacle
  /-- The link is aborted, and its owner was told. -/
  | aborted {transport : T} {fault : Fault}
      (value : asked.value.1 = { desk with link := { begun with
        transport, state := .aborted, lastError := some fault } })
      (told : asked.told = [.linkStateChanged .aborted (some fault)]) :
      Failure desk begun asked (.refused (.transportAborted fault))

theorem refused_harmless {error : Error} (harmless : error.kind ≠ .transportAborted) :
    (Obstacle.refused error).kind? ≠ some .transportAborted :=
  fun aborted => harmless (Option.some.inj aborted)

theorem refused_of_mapError {α : Type} {answer : Except Error α} {obstacle : Obstacle}
    (failed : answer.mapError Obstacle.refused = .error obstacle) :
    ∃ cause, answer = .error cause ∧ obstacle = .refused cause := by
  cases answer with
  | ok value => cases failed
  | error cause =>
      cases failed
      exact ⟨cause, rfl, rfl⟩

theorem relay_failure {desk : Desk T} {begun : Link T}
    {asked : Trail Effect (Link.Outcome T Unit)} {obstacle : Obstacle}
    (ending : Link.Ending desk.link begun asked)
    (failed : (desk.relay asked).value.2 = .error obstacle) :
    Failure desk begun (desk.relay asked) obstacle := by
  cases ending with
  | @refused cause same harmless =>
      rw [same] at failed ⊢
      cases failed
      exact .refused ⟨refused_harmless harmless, rfl⟩
  | @broken transport fault value told =>
      have answer : (desk.relay asked).value =
          ({ desk with link := begun.refusedBy transport fault },
            .error (.refused (.transportAborted fault))) := by
        rw [relay, Trail.value_bind, value]
        rfl
      rw [answer] at failed
      cases failed
      refine .aborted (congrArg Prod.fst answer) ?_
      rw [relay, Trail.told_bind, told]
      rfl
  | granted answer =>
      have granted : (desk.relay asked).value.2 = asked.value.2.mapError .refused := rfl
      rw [granted, answer] at failed
      cases failed

variable [Transport T]

theorem addChannel_refused {desk : Desk T} {spec : ChannelSpec} {obstacle : Obstacle}
    (failed : (desk.meet (.addChannel spec)).value.2 = .error obstacle) :
    Refused desk (desk.meet (.addChannel spec)) obstacle := by
  have answer : (desk.link.addChannel spec).2 = .error obstacle := error_of_map failed
  obtain ⟨same, harmless⟩ := Link.addChannel_refused answer
  refine ⟨harmless, ?_⟩
  rw [meet, same]
  rfl

theorem popInto_refused {desk : Desk T} {id : ChannelId} {obstacle : Obstacle}
    (failed : (desk.meet (.popInto id)).value.2 = .error obstacle) :
    Refused desk (desk.meet (.popInto id)) obstacle := by
  obtain ⟨cause, answer, rfl⟩ := refused_of_mapError failed
  obtain ⟨same, harmless⟩ := Link.popInto_refused answer
  refine ⟨refused_harmless harmless, ?_⟩
  rw [meet, same]
  rfl

theorem pop_refused {desk : Desk T} {id : ChannelId} {obstacle : Obstacle}
    (failed : (desk.meet (.pop id)).value.2 = .error obstacle) :
    Refused desk (desk.meet (.pop id)) obstacle := by
  obtain ⟨cause, answer, rfl⟩ := refused_of_mapError failed
  obtain ⟨same, harmless⟩ := Link.pop_refused (error_of_map answer)
  refine ⟨refused_harmless harmless, ?_⟩
  rw [meet, same]
  rfl

theorem disconnect_refused {desk : Desk T} {obstacle : Obstacle}
    (failed : (desk.meet .disconnect).value.2 = .error obstacle) :
    Refused desk (desk.meet .disconnect) obstacle := by
  have asked : desk.meet .disconnect = desk.relay desk.link.disconnect := rfl
  rw [asked] at failed ⊢
  unfold Link.disconnect at failed ⊢
  split at failed
  · rename_i idle
    cases failed
    rw [if_pos idle]
    exact ⟨nofun, rfl⟩
  · cases failed

theorem meet_failure {desk : Desk T} {demand : Demand} {obstacle : Obstacle}
    (failed : (desk.meet demand).value.2 = .error obstacle) :
    Failure desk (demand.begun desk.link) (desk.meet demand) obstacle := by
  cases demand with
  | connect => exact relay_failure desk.link.connect_ending failed
  | setOperational => exact relay_failure desk.link.setOperational_ending failed
  | disconnect => exact .refused (disconnect_refused failed)
  | publish id payload => exact relay_failure (desk.link.publish_ending id payload) failed
  | addChannel spec => exact .refused (addChannel_refused failed)
  | pop id => exact .refused (pop_refused failed)
  | popInto id => exact .refused (popInto_refused failed)

/-- The link itself refuses to add a channel, to disconnect or to hand out a sample. -/
theorem outward_of_aborted {desk : Desk T} {demand : Demand} {obstacle : Obstacle}
    (failed : (desk.meet demand).value.2 = .error obstacle)
    (aborted : obstacle.kind? = some .transportAborted) : demand.Outward := by
  cases demand with
  | connect => exact .connect
  | setOperational => exact .setOperational
  | publish id payload => exact .publish id payload
  | disconnect => exact absurd aborted (disconnect_refused failed).harmless
  | addChannel spec => exact absurd aborted (addChannel_refused failed).harmless
  | pop id => exact absurd aborted (pop_refused failed).harmless
  | popInto id => exact absurd aborted (popInto_refused failed).harmless

/-- A demand that fails leaves nothing half done.  Unless the transport failed it, nothing at all
has happened: the desk is as it was, the owner is told nothing and the transport is not asked.  If
the transport failed it, it was to connect, to be promoted or to publish; the link is aborted with
the fault and its owner is told so once, while the session and the channels are as they were.  Only
a link that wanted to connect has cleared its channels before, as it does when it succeeds. -/
theorem failed_demands_leave_nothing_half_done (desk : Desk T) (demand : Demand)
    {obstacle : Obstacle} (failed : (desk.meet demand).value.2 = .error obstacle) :
    let met := desk.meet demand
    (obstacle.kind? ≠ some .transportAborted → met = pure (desk, .error obstacle)) ∧
      (obstacle.kind? = some .transportAborted →
        demand.Outward ∧
        (∃ fault transport, obstacle = .refused (.transportAborted fault) ∧
          met.value.1 = { desk with link := { demand.begun desk.link with
            transport, state := .aborted, lastError := some fault } } ∧
          met.told = [.linkStateChanged .aborted (some fault)]) ∧
        (demand = .connect →
          (∀ channel ∈ met.value.1.link.channels, channel.Cleared) ∧
          ∀ transport : T, let other := { desk.link with transport }
            other.connect.value.2 = .ok () →
              other.connect.value.1.channels = met.value.1.link.channels)) := by
  intro met
  have failure := meet_failure failed
  refine ⟨fun harmless => ?_, fun aborted => ⟨outward_of_aborted failed aborted, ?_, ?_⟩⟩
  · cases failure with
    | refused refused => exact refused.same
    | aborted _ _ => exact (harmless rfl).elim
  · cases failure with
    | refused refused => exact absurd aborted refused.harmless
    | @aborted transport fault value told => exact ⟨fault, transport, rfl, value, told⟩
  · rintro rfl
    have channels : met.value.1.link.channels = desk.link.channels.map Channel.prepare := by
      cases failure with
      | refused refused => exact absurd aborted refused.harmless
      | aborted value _ =>
          rw [value]
          rfl
    rw [channels]
    constructor
    · intro channel inside
      obtain ⟨before, _, rfl⟩ := List.mem_map.mp inside
      exact before.prepare_cleared
    · intro transport other granted
      exact other.connect_cases.channels_of_granted granted

/-- A link with an old value on its channel whose peer refuses it. -/
def unwelcome : Desk Simulator where
  link := { Link.fresh "line" none { failRegister := some ⟨.timeout, "no answer"⟩ } with
    channels := [{
      id := 0, name := "level", direction := .subscribe, state := .aborted, lastError := none
      value := ⟨[7]⟩, nettime := 3, updated := true, buffer := none
      sendBuffer := ⟨32, 31, 1⟩, published := 0, delivered := 0, latency := Latency.fresh }] }
  inHand := default

theorem unwelcome_link_is_aborted_and_cleared :
    (unwelcome.meet .connect).value.2 =
        .error (.refused (.transportAborted ⟨.timeout, "no answer"⟩)) ∧
      (unwelcome.meet .connect).value.1.link.state = .aborted ∧
      (unwelcome.meet .connect).told =
        [.linkStateChanged .aborted (some ⟨.timeout, "no answer"⟩)] ∧
      ∀ channel ∈ (unwelcome.meet .connect).value.1.link.channels, channel.Cleared := by
  have failed : (unwelcome.meet .connect).value.2 =
      .error (.refused (.transportAborted ⟨.timeout, "no answer"⟩)) := rfl
  obtain ⟨_, aborts⟩ := failed_demands_leave_nothing_half_done unwelcome .connect failed
  obtain ⟨_, ⟨fault, transport, cause, value, told⟩, clears⟩ := aborts rfl
  cases cause
  refine ⟨failed, ?_, told, (clears rfl).1⟩
  rw [value]

end Desk

end DatasetSync
