import DatasetSync.Proofs.Entries
import DatasetSync.Proofs.Transport.Simulator
import Mathlib.Data.List.DropRight

/-!
# What the simulated transport delivers

Two queues wait in the transport: the acknowledgements of requests and the events of the peer.  A
poll with the open handle empties both into its answer, and the end of the session empties both for
good; nothing else takes anything out.  So a poll answers with what has come in since the queues
were last emptied, and each event of the peer is handed over once, at one place of one answer, or is
dropped with the session during which it waited.
-/

namespace DatasetSync

/-- The acknowledgements of a request with this answer: a request that is granted has some, unless
the peer sends them itself. -/
def Simulator.receipts {ε α : Type} (sim : Simulator) (answer : Except ε α)
    (events : List InboundEvent) : List InboundEvent :=
  match answer with
  | .ok _ => if sim.acknowledges then events else []
  | .error _ => []

/-- A call of the owner of a transport, or something that its peer does. -/
inductive Dealing where
  | register (linkName : String) (channels : List Descriptor)
  | promote (session : Session)
  | send (session : Session) (channel : ChannelId) (payload : List UInt8)
  | poll (session : Session)
  | deregister (session : Session)
  | peer (action : PeerAction)

namespace Dealing

/-- The transport afterwards, and the events that are handed over. -/
def run (sim : Simulator) : Dealing → Simulator × List InboundEvent
  | .register linkName channels => ((sim.register linkName channels).value.1, [])
  | .promote session => ((sim.promote session).1, [])
  | .send session channel payload => ((sim.send session channel payload).1, [])
  | .poll session => sim.poll session
  | .deregister session => ((sim.deregister session).value, [])
  | .peer action => (action.act sim, [])

def handle? : Dealing → Option Session
  | .promote session | .send session _ _ | .poll session | .deregister session => some session
  | .register _ _ | .peer _ => none

def acknowledged (sim : Simulator) : Dealing → List InboundEvent
  | .register linkName channels =>
      sim.receipts (sim.register linkName channels).value.2 (Simulator.registered channels)
  | .promote session =>
      sim.receipts (sim.promote session).2 [.linkStateChanged .operational none]
  | .send session channel payload =>
      sim.receipts (sim.send session channel payload).2
        [.publishAcknowledged channel Simulator.bufferInUse,
          .deliveryAcknowledged channel Simulator.bufferFree]
  | .poll _ | .deregister _ | .peer _ => []

def injected : Dealing → List InboundEvent
  | .peer (.inject event) => [event]
  | _ => []

/-- The queues are emptied: by a poll or at the end of the session, with the open handle. -/
def settles (sim : Simulator) : Dealing → Bool
  | .poll session | .deregister session => sim.session == some session
  | _ => false

/-! ## One dealing -/

section Step

variable {sim : Simulator} {session : Session}

/-- Only the open handle is good for anything. -/
theorem run_stale {dealing : Dealing} (comes : dealing.handle? = some session)
    (stale : sim.session ≠ some session) :
    dealing.run sim = (sim, []) ∧ dealing.acknowledged sim = [] := by
  cases dealing with
  | register linkName channels => cases comes
  | peer action => cases comes
  | promote other =>
      cases comes
      simp [run, acknowledged, Simulator.promote, stale, Simulator.receipts]
  | send other channel payload =>
      cases comes
      simp [run, acknowledged, Simulator.send, stale, Simulator.receipts]
  | poll other =>
      cases comes
      simp [run, acknowledged, Simulator.poll, stale]
  | deregister other =>
      cases comes
      simp [run, acknowledged, Simulator.deregister, stale]

theorem deregister_open (opened : sim.session = some session) :
    (sim.deregister session).value =
      { sim with
        session := none
        acknowledgements := []
        injected := []
        deregistrations := sim.deregistrations + 1 } := by
  rw [Simulator.deregister, if_neg (not_not_intro opened)]
  rfl

/-- What settles is a poll or the end of the session. -/
theorem settles_cases {dealing : Dealing} (settles : dealing.settles sim = true) :
    ∃ session, sim.session = some session ∧
      (dealing = .poll session ∨ dealing = .deregister session) := by
  cases dealing with
  | poll session => exact ⟨session, by simpa [Dealing.settles] using settles, .inl rfl⟩
  | deregister session => exact ⟨session, by simpa [Dealing.settles] using settles, .inr rfl⟩
  | register linkName channels => cases settles
  | promote session => cases settles
  | send session channel payload => cases settles
  | peer action => cases settles

/-- What does not settle adds to the events that wait, does not look at them and hands nothing
over. -/
theorem run_waiting {dealing : Dealing} (calm : dealing.settles sim = false)
    (waiting : List InboundEvent) :
    dealing.run { sim with injected := waiting } =
      ({ (dealing.run sim).1 with injected := waiting ++ dealing.injected }, []) := by
  cases dealing with
  | register linkName channels =>
      simp only [run, Simulator.register, injected, List.append_nil]
      split
      · rfl
      · split <;> rfl
  | promote session =>
      simp only [run, Simulator.promote, Simulator.acknowledge, injected, List.append_nil]
      split
      · rfl
      · split
        · rfl
        · split <;> rfl
  | send session channel payload =>
      simp only [run, Simulator.send, Simulator.acknowledge, injected, List.append_nil]
      split
      · rfl
      · split
        · rfl
        · split <;> rfl
  | poll session =>
      have stale : sim.session ≠ some session := by simpa [settles] using calm
      simp [run, Simulator.poll, stale, injected]
  | deregister session =>
      have stale : sim.session ≠ some session := by simpa [settles] using calm
      simp [run, Simulator.deregister, stale, injected]
  | peer action =>
      cases action <;>
        simp [run, PeerAction.act, Simulator.inject, Simulator.takeFrames,
          Simulator.takeRegistrations, injected]

/-- Whether a dealing settles does not depend on the events that wait. -/
theorem settles_waiting (dealing : Dealing) (sim : Simulator) (waiting : List InboundEvent) :
    dealing.settles { sim with injected := waiting } = dealing.settles sim := by
  cases dealing <;> rfl

end Step

end Dealing

namespace Simulator

/-- No acknowledgement waits while no session is open. -/
def Orderly (sim : Simulator) : Prop :=
  sim.session = none → sim.acknowledgements = []

/-- What a dealing does to the queues and to the count of delivered events. -/
structure Dealt (sim : Simulator) (dealing : Dealing) : Prop where
  acknowledgements : (dealing.run sim).1.acknowledgements =
    if dealing.settles sim then [] else sim.acknowledgements ++ dealing.acknowledged sim
  injected : (dealing.run sim).1.injected =
    if dealing.settles sim then [] else sim.injected ++ dealing.injected
  polled : (dealing.run sim).1.traffic.polled =
    sim.traffic.polled + (dealing.run sim).2.length
  orderly : (dealing.run sim).1.Orderly

variable {sim after : Simulator} {session : Session}

/-- Acknowledgements were queued and nothing was handed over. -/
structure Queued (sim after : Simulator) (events : List InboundEvent) : Prop where
  acknowledgements : after.acknowledgements = sim.acknowledgements ++ events
  polled : after.traffic.polled = sim.traffic.polled
  orderly : after.Orderly

/-- Nothing was queued. -/
theorem Queued.none (orderly : sim.Orderly) (session : after.session = sim.session)
    (acknowledgements : after.acknowledgements = sim.acknowledgements)
    (polled : after.traffic.polled = sim.traffic.polled) : Queued sim after [] := by
  refine ⟨by rw [acknowledgements, List.append_nil], polled, fun closed => ?_⟩
  rw [acknowledgements]
  exact orderly (session.symm.trans closed)

/-- Acknowledgements are queued if the peer leaves them to the transport. -/
theorem acknowledge_queued (opened : sim.session = some session) (events : List InboundEvent) :
    Queued sim (sim.acknowledge events) (if sim.acknowledges then events else []) := by
  cases automatic : sim.acknowledges <;>
    constructor <;> simp [acknowledge, automatic, Orderly, opened]

theorem register_queued (orderly : sim.Orderly) (linkName : String)
    (channels : List Descriptor) :
    Queued sim (sim.register linkName channels).value.1
      ((Dealing.register linkName channels).acknowledged sim) := by
  cases refusal : sim.failRegister with
  | some fault =>
      have answer : (sim.register linkName channels).value =
          ({ sim with failRegister := none }, .error fault) := by simp [register, refusal]
      rw [Dealing.acknowledged, answer]
      exact .none orderly rfl rfl rfl
  | none =>
      cases standing : sim.session with
      | some session =>
          have answer : (sim.register linkName channels).value =
              (sim, .error ⟨.notAllowed, s!"{session.label} is still registered"⟩) := by
            simp [register, refusal, standing]
          rw [Dealing.acknowledged, answer]
          exact .none orderly rfl rfl rfl
      | none =>
          have answer : (sim.register linkName channels).value =
              (sim.openSession linkName channels, .ok sim.nextSession) := by
            simp [register, refusal, standing]
          rw [Dealing.acknowledged, answer]
          refine ⟨?_, rfl, fun closed => by cases closed⟩
          rw [orderly standing]
          rfl

theorem promote_queued (orderly : sim.Orderly) (opened : sim.session = some session) :
    Queued sim (sim.promote session).1 ((Dealing.promote session).acknowledged sim) := by
  cases refusal : sim.failPromote with
  | some fault =>
      have answer : sim.promote session = ({ sim with failPromote := none }, .error fault) := by
        simp [promote, opened, refusal]
      rw [Dealing.acknowledged, answer]
      exact .none orderly rfl rfl rfl
  | none =>
      have answer : sim.promote session =
          (sim.acknowledge [.linkStateChanged .operational none], .ok ()) := by
        simp [promote, opened, refusal]
      rw [Dealing.acknowledged, answer]
      exact acknowledge_queued opened _

theorem send_queued (orderly : sim.Orderly) (opened : sim.session = some session)
    (channel : ChannelId) (payload : List UInt8) :
    Queued sim (sim.send session channel payload).1
      ((Dealing.send session channel payload).acknowledged sim) := by
  cases refusal : sim.failSend with
  | some fault =>
      have answer : sim.send session channel payload =
          ({ sim with failSend := none, traffic := sim.traffic.recordFailure }, .error fault) := by
        simp [send, opened, refusal]
      rw [Dealing.acknowledged, answer]
      exact .none orderly rfl rfl rfl
  | none =>
      let sent : Simulator := { sim with
        frames := sim.frames ++ [⟨session, channel, payload⟩]
        traffic := sim.traffic.recordSend payload.length }
      have still : sent.session = some session := opened
      have answer : sim.send session channel payload =
          (sent.acknowledge [.publishAcknowledged channel bufferInUse,
            .deliveryAcknowledged channel bufferFree], .ok ()) := by
        simp [send, opened, refusal, sent]
      rw [Dealing.acknowledged, answer]
      have queued := acknowledge_queued still
        [.publishAcknowledged channel bufferInUse, .deliveryAcknowledged channel bufferFree]
      exact ⟨queued.acknowledgements, queued.polled, queued.orderly⟩

/-- What does not settle queues its acknowledgements. -/
theorem run_queued (orderly : sim.Orderly) {dealing : Dealing}
    (calm : dealing.settles sim = false) :
    Queued sim (dealing.run sim).1 (dealing.acknowledged sim) := by
  have unchanged {session : Session} (comes : dealing.handle? = some session)
      (stale : sim.session ≠ some session) :
      Queued sim (dealing.run sim).1 (dealing.acknowledged sim) := by
    obtain ⟨same, nothing⟩ := Dealing.run_stale comes stale
    rw [same, nothing]
    exact .none orderly rfl rfl rfl
  cases dealing with
  | register linkName channels => exact register_queued orderly linkName channels
  | promote session =>
      by_cases opened : sim.session = some session
      · exact promote_queued orderly opened
      · exact unchanged rfl opened
  | send session channel payload =>
      by_cases opened : sim.session = some session
      · exact send_queued orderly opened channel payload
      · exact unchanged rfl opened
  | poll session => exact unchanged rfl (by simpa [Dealing.settles] using calm)
  | deregister session => exact unchanged rfl (by simpa [Dealing.settles] using calm)
  | peer action => cases action <;> exact .none orderly rfl rfl rfl

/-- A dealing with the transport. -/
theorem dealt (orderly : sim.Orderly) (dealing : Dealing) : Dealt sim dealing := by
  cases calm : dealing.settles sim with
  | false =>
      have queued := run_queued orderly calm
      have waiting : dealing.run sim = _ := Dealing.run_waiting calm sim.injected
      refine ⟨?_, ?_, ?_, queued.orderly⟩
      · rw [calm, queued.acknowledgements]
        rfl
      · rw [calm, waiting]
        rfl
      · rw [queued.polled, waiting]
        rfl
  | true =>
      obtain ⟨session, opened, rfl | rfl⟩ := Dealing.settles_cases calm
      · have taken : (Dealing.poll session).run sim = (sim.emptied, sim.waiting) :=
          poll_opened opened
        constructor
        · rw [calm, taken]
          rfl
        · rw [calm, taken]
          rfl
        · rw [taken]
          rfl
        · rw [taken]
          exact fun _ => rfl
      · have ended : ((Dealing.deregister session).run sim).1 = _ := Dealing.deregister_open opened
        constructor
        · rw [calm, ended]
          rfl
        · rw [calm, ended]
          rfl
        · rw [ended]
          rfl
        · rw [ended]
          exact fun _ => rfl

/-! ## Many dealings -/

def deal (sim : Simulator) (dealings : List Dealing) : Simulator :=
  dealings.foldl (fun sim dealing => (dealing.run sim).1) sim

end Simulator

/-- A dealing and the transport it comes to. -/
structure Instant where
  sim : Simulator
  dealing : Dealing

namespace Instant

def handed (instant : Instant) : List InboundEvent :=
  (instant.dealing.run instant.sim).2

def acknowledged (instant : Instant) : List InboundEvent :=
  instant.dealing.acknowledged instant.sim

def injected (instant : Instant) : List InboundEvent :=
  instant.dealing.injected

def settles (instant : Instant) : Bool :=
  instant.dealing.settles instant.sim

end Instant

def sinceSettled (past : List Instant) : List Instant :=
  past.rtakeWhile fun instant => !instant.settles

theorem sinceSettled_concat (past : List Instant) (instant : Instant) :
    sinceSettled (past ++ [instant]) =
      if instant.settles then [] else sinceSettled past ++ [instant] := by
  unfold sinceSettled
  rw [List.rtakeWhile_concat]
  cases instant.settles <;> rfl

/-- What was before the queues were emptied is over. -/
theorem sinceSettled_settled {ending : Instant} (settles : ending.settles = true)
    (early late : List Instant) : sinceSettled (early ++ ending :: late) = sinceSettled late := by
  induction late using List.reverseRecOn with
  | nil =>
      rw [sinceSettled_concat, if_pos settles]
      rfl
  | append_singleton late instant ih =>
      rw [← List.cons_append, ← List.append_assoc, sinceSettled_concat, sinceSettled_concat, ih]

namespace Simulator

def instants (sim : Simulator) : List Dealing → List Instant
  | [] => []
  | dealing :: rest => ⟨sim, dealing⟩ :: instants (dealing.run sim).1 rest

theorem deal_append (sim : Simulator) (early late : List Dealing) :
    sim.deal (early ++ late) = (sim.deal early).deal late :=
  List.foldl_append

theorem instants_append (sim : Simulator) (early late : List Dealing) :
    sim.instants (early ++ late) = sim.instants early ++ (sim.deal early).instants late := by
  induction early generalizing sim with
  | nil => rfl
  | cons dealing rest ih => exact congrArg _ (ih (dealing.run sim).1)

/-- The queues and the count of delivered events, read off the past. -/
structure Accounted (past : List Instant) (sim : Simulator) : Prop where
  acknowledgements :
    sim.acknowledgements = (sinceSettled past).flatMap Instant.acknowledged
  injected : sim.injected = (sinceSettled past).flatMap Instant.injected
  polled : sim.traffic.polled = (past.map (·.handed.length)).sum
  orderly : sim.Orderly

/-- One more dealing. -/
theorem Accounted.step {past : List Instant} {sim : Simulator} (accounted : Accounted past sim)
    (dealing : Dealing) : Accounted (past ++ [⟨sim, dealing⟩]) (dealing.run sim).1 := by
  have dealt := dealt accounted.orderly dealing
  constructor
  · rw [dealt.acknowledgements, sinceSettled_concat, accounted.acknowledgements, Instant.settles]
    split
    · rfl
    · simp [Instant.acknowledged]
  · rw [dealt.injected, sinceSettled_concat, accounted.injected, Instant.settles]
    split
    · rfl
    · simp [Instant.injected]
  · rw [dealt.polled, accounted.polled]
    simp [Instant.handed]
  · exact dealt.orderly

/-- The queues of a new transport hold what came in since they were last emptied. -/
theorem accounted (dealings : List Dealing) :
    Accounted (instants {} dealings) (deal {} dealings) := by
  induction dealings using List.reverseRecOn with
  | nil => exact ⟨rfl, rfl, rfl, fun _ => rfl⟩
  | append_singleton early dealing ih =>
      rw [instants_append, deal_append]
      exact ih.step dealing

/-! ## The fate of an event -/

/-- An event waits in its place among the events of the peer, and nothing else depends on it. -/
def Waits (sims : InboundEvent → Simulator) : Prop :=
  ∃ (base : Simulator) (front back : List InboundEvent), ∀ event,
    sims event = { base with injected := front ++ event :: back }

namespace Waits

variable {sims : InboundEvent → Simulator}

/-- As long as the queues are not emptied, the event waits and nothing is handed over. -/
theorem step (waits : Waits sims) {dealing : Dealing} {event : InboundEvent}
    (calm : dealing.settles (sims event) = false) :
    Waits (fun event => (dealing.run (sims event)).1) ∧
      ∀ event, dealing.settles (sims event) = false ∧ (dealing.run (sims event)).2 = [] := by
  obtain ⟨base, front, back, placed⟩ := waits
  rw [placed, Dealing.settles_waiting] at calm
  have run (other : InboundEvent) : dealing.run (sims other) =
      ({ (dealing.run base).1 with injected := front ++ other :: back ++ dealing.injected },
        []) := by
    rw [placed]
    exact Dealing.run_waiting calm _
  refine ⟨⟨(dealing.run base).1, front, back ++ dealing.injected, fun other => ?_⟩, fun other => ?_⟩
  · refine (congrArg Prod.fst (run other)).trans ?_
    rw [List.append_assoc]
    rfl
  · rw [run, placed, Dealing.settles_waiting]
    exact ⟨calm, rfl⟩

/-- The session does not depend on the event. -/
theorem session (waits : Waits sims) {event : InboundEvent} {session : Session}
    (opened : (sims event).session = some session) (other : InboundEvent) :
    (sims other).session = some session := by
  obtain ⟨base, front, back, placed⟩ := waits
  rw [placed] at opened ⊢
  exact opened

/-- A poll hands the event over, and nothing that is left depends on it. -/
theorem poll (waits : Waits sims) {session : Session}
    (opened : ∀ event, (sims event).session = some session) :
    ∃ after front back, ∀ event, (sims event).poll session = (after, front ++ event :: back) := by
  obtain ⟨base, front, back, placed⟩ := waits
  refine ⟨{ base with
    acknowledgements := []
    injected := []
    traffic := base.traffic.recordPoll
      (base.acknowledgements.length + (front.length + (back.length + 1))) },
    base.acknowledgements ++ front, back, fun event => ?_⟩
  have answer : (sims event).poll session = ((sims event).emptied, (sims event).waiting) :=
    poll_opened (opened event)
  rw [answer, placed]
  simp [emptied, waiting]

/-- The end of the session leaves nothing that depends on the event. -/
theorem deregister (waits : Waits sims) {session : Session}
    (opened : ∀ event, (sims event).session = some session) :
    ∃ after, ∀ event, ((sims event).deregister session).value = after := by
  obtain ⟨base, front, back, placed⟩ := waits
  refine ⟨{ base with
    session := none
    acknowledgements := []
    injected := []
    deregistrations := base.deregistrations + 1 }, fun event => ?_⟩
  rw [Dealing.deregister_open (opened event), placed]

end Waits

/-- The transport after the peer injected an event between two parts of a conversation. -/
def sent (early late : List Dealing) (event : InboundEvent) : Simulator :=
  deal {} (early ++ .peer (.inject event) :: late)

/-- Whatever was injected before, the queues are not emptied and nothing is handed over. -/
def Calm (early quiet : List Dealing) : Prop :=
  ∀ event, ∀ instant ∈ instants (sent early [] event) quiet,
    instant.settles = false ∧ instant.handed = []

/-- What becomes of the event that the peer injects after `early`, in the rest of a conversation.
It waits until the queues are emptied.  A poll then hands it over at one place of its answer; the
end of the session drops it.  In both cases what is left does not depend on it. -/
inductive Fate (early : List Dealing) : List Dealing → Prop where
  | waits {quiet : List Dealing} (calm : Calm early quiet) (waits : Waits (sent early quiet)) :
      Fate early quiet
  | returned {quiet later : List Dealing} {session : Session} (calm : Calm early quiet)
      (opened : ∀ event, (sent early quiet event).session = some session)
      (returned : ∃ after front back, ∀ event,
        (sent early quiet event).poll session = (after, front ++ event :: back)) :
      Fate early (quiet ++ .poll session :: later)
  | discarded {quiet later : List Dealing} {session : Session} (calm : Calm early quiet)
      (opened : ∀ event, (sent early quiet event).session = some session)
      (discarded : ∃ after, ∀ event,
        ((sent early quiet event).deregister session).value = after) :
      Fate early (quiet ++ .deregister session :: later)

theorem sent_append (early quiet late : List Dealing) (event : InboundEvent) :
    sent early (quiet ++ late) event = (sent early quiet event).deal late := by
  unfold sent
  rw [← List.cons_append, ← List.append_assoc, deal_append]

/-- An event that has waited so far meets its fate in the rest of the conversation. -/
theorem fate_of_waits {early quiet : List Dealing} (calm : Calm early quiet)
    (waits : Waits (sent early quiet)) (late : List Dealing) : Fate early (quiet ++ late) := by
  induction late generalizing quiet with
  | nil =>
      rw [List.append_nil]
      exact .waits calm waits
  | cons dealing rest ih =>
      let event : InboundEvent := .linkStateChanged .connected none
      cases settles : dealing.settles (sent early quiet event) with
      | false =>
          obtain ⟨still, nothing⟩ := waits.step settles
          have longer : Waits (sent early (quiet ++ [dealing])) := by
            rw [funext (sent_append early quiet [dealing])]
            exact still
          have calmer : Calm early (quiet ++ [dealing]) := by
            intro other instant inside
            have reached : (sent early [] other).deal quiet = sent early quiet other :=
              (sent_append early [] quiet other).symm
            rw [instants_append, reached] at inside
            rcases List.mem_append.mp inside with before | here
            · exact calm other instant before
            · rw [List.mem_singleton.mp here]
              exact nothing other
          have fate := ih calmer longer
          rwa [List.append_assoc] at fate
      | true =>
          obtain ⟨session, opened, rfl | rfl⟩ := Dealing.settles_cases settles
          · exact .returned calm (waits.session opened) (waits.poll (waits.session opened))
          · exact .discarded calm (waits.session opened) (waits.deregister (waits.session opened))

theorem fate (early late : List Dealing) : Fate early late := by
  have calm : Calm early [] := by
    intro event instant inside
    cases inside
  have waits : Waits (sent early []) := by
    refine ⟨deal {} early, (deal {} early).injected, [], fun event => ?_⟩
    exact deal_append {} early [.peer (.inject event)]
  exact fate_of_waits calm waits late

end Simulator

/-- Each event is delivered at most once, in order, and never past the end of a session.  A poll
with the open handle answers with the acknowledgements that came in since the queues were last
emptied and then with the events injected since then; what precedes a poll or the end of a session
does not count.  An event that is injected has one of three fates; a call with another handle does
nothing; and all events handed over are counted. -/
theorem events_are_delivered_at_most_once (past : List Dealing) :
    let sim := Simulator.deal {} past
    let since := sinceSettled (Simulator.instants {} past)
    (∀ session, sim.session = some session →
      (sim.poll session).2 =
        since.flatMap Instant.acknowledged ++ since.flatMap Instant.injected) ∧
    (∀ early ending late, past = early ++ ending :: late →
      ending.settles (Simulator.deal {} early) = true →
      since = sinceSettled
        (Simulator.instants (ending.run (Simulator.deal {} early)).1 late)) ∧
    (∀ late, Simulator.Fate past late) ∧
    (∀ dealing session, Dealing.handle? dealing = some session → sim.session ≠ some session →
      dealing.run sim = (sim, []) ∧ dealing.acknowledged sim = []) ∧
    sim.traffic.polled = ((Simulator.instants {} past).map (·.handed.length)).sum := by
  intro sim since
  have accounted := Simulator.accounted past
  refine ⟨fun session opened => ?_, ?_, Simulator.fate past, ?_, accounted.polled⟩
  · have answer : sim.poll session = (sim.emptied, sim.waiting) := Simulator.poll_opened opened
    rw [answer, Simulator.waiting, accounted.acknowledgements, accounted.injected]
  · intro early ending late split settles
    have unfolded : Simulator.instants {} past = Simulator.instants {} early ++
        ⟨Simulator.deal {} early, ending⟩ ::
          Simulator.instants (ending.run (Simulator.deal {} early)).1 late := by
      rw [split, Simulator.instants_append]
      rfl
    have settled : (Instant.mk (Simulator.deal {} early) ending).settles = true := settles
    exact (congrArg sinceSettled unfolded).trans (sinceSettled_settled settled _ _)
  · intro dealing session comes stale
    exact Dealing.run_stale comes stale

/-- Two sessions.  The peer speaks before the first one, during it and after its last poll; the old
handle is tried once more during the second. -/
def twoSessions : List Dealing :=
  [.peer (.inject (.channelUpdated 0 [1] 5)), .register "line" [⟨0, "level", 1, .both⟩],
    .peer (.inject (.channelUpdated 0 [2] 6)), .poll 1, .send 1 0 [9],
    .peer (.inject (.channelUpdated 0 [3] 7)), .deregister 1, .peer (.acknowledge false),
    .register "line" [⟨0, "level", 1, .both⟩], .peer (.acknowledge true),
    .peer (.inject (.channelUpdated 0 [4] 8)), .poll 1, .promote 2]

theorem second_session_hears_nothing_of_the_first :
    let sim := Simulator.deal {} twoSessions
    sim.session = some 2 ∧
      (sim.poll 2).2 = [.linkStateChanged .operational none, .channelUpdated 0 [4] 8] ∧
      (Dealing.poll 1).run sim = (sim, []) ∧ sim.traffic.polled = 4 := by
  intro sim
  obtain ⟨answer, -, -, stale, counted⟩ := events_are_delivered_at_most_once twoSessions
  have opened : sim.session = some 2 := by decide +kernel
  have other : sim.session ≠ some 1 := by
    rw [opened]
    decide
  exact ⟨opened, (answer 2 opened).trans (by decide +kernel), (stale (.poll 1) 1 rfl other).1,
    counted.trans (by decide +kernel)⟩

end DatasetSync
