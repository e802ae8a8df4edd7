import DatasetSync.Proofs.Link.History
import DatasetSync.Proofs.Transport.Simulator

/-!
# Accounting for sessions

A link and the simulated transport below it each keep the session that is open.  The account says
that the two agree, that every handle is new, and that each session which was opened is ended once,
unless it is the one that is still open.  Every operation keeps the account, whether it is granted,
refused or made to fail.
-/

namespace DatasetSync

def Call.opens : Call → Bool
  | .register _ granted => granted
  | _ => false

def Call.idle : Call → Bool
  | .register _ granted => !granted
  | .deregister _ => false
  | _ => true

theorem Call.opens_of_idle {call : Call} (idle : call.idle = true) : call.opens = false := by
  cases call with
  | register name granted => simpa [Call.idle, Call.opens] using idle
  | deregister session => rfl
  | promote session granted => rfl
  | send session channel payload granted => rfl
  | poll session events => rfl

namespace Link

section Openings

variable {T : Type} [Transport T]

def Operation.opened? (link : Link T) : Operation T → Option Session
  | .single .connect => if link.connect.value.2.isOk then link.connect.value.1.session else none
  | _ => none

def openings (link : Link T) : List (Operation T) → List Session
  | [] => []
  | operation :: rest => (operation.opened? link).toList ++ openings (operation.run link) rest

/-- Only connecting opens a session. -/
theorem Operation.opened?_of_ne {link : Link T} {operation : Operation T}
    (other : operation ≠ .single .connect) : operation.opened? link = none := by
  unfold Operation.opened?
  split
  · exact (other rfl).elim
  · rfl

end Openings

/-- The transport changes of itself only as its peer changes it. -/
def Operation.ByPeer : Operation Simulator → Prop
  | .single (.meanwhile change) => ∃ action : PeerAction, change = fun sim => action.act sim
  | _ => True

/-! ## The account -/

theorem events_agree {link : Link Simulator} (agrees : link.transport.session = link.session)
    {events : List InboundEvent} {moment : Moment Simulator}
    (inside : moment ∈ moments link (events.map .dispatch)) :
    moment.before.transport.session = moment.before.session := by
  induction events generalizing link with
  | nil => cases inside
  | cons event rest ih =>
      rcases List.mem_cons.mp inside with rfl | later
      · exact agrees
      · refine ih ?_ later
        have dispatched := (link.dispatch_spec event).1
        rw [Step.run, dispatched.transport, dispatched.session]
        exact agrees

/-- Within an operation, the link and the transport agree as they did at its beginning. -/
theorem Operation.agrees (operation : Operation Simulator) {link : Link Simulator}
    (agrees : link.transport.session = link.session) {moment : Moment Simulator}
    (inside : moment ∈ moments link (operation.steps link)) :
    moment.before.transport.session = moment.before.session := by
  cases operation with
  | single step =>
      cases List.mem_singleton.mp inside
      exact agrees
  | process =>
      simp only [Operation.steps] at inside
      split at inside
      · cases inside
      · rename_i session opened
        rcases List.mem_cons.mp inside with rfl | later
        · exact agrees
        · refine events_agree ?_ later
          exact (link.transport.poll_sameSessions session).session.trans agrees

/-- The sessions given out so far and the requests made so far account for where a link stands. -/
structure Ledger (given : List Session) (calls : List Call) (link : Link Simulator) : Prop where
  agrees : link.transport.session = link.session
  increasing : given.Pairwise (· < ·)
  below {session : Session} (inside : session ∈ given) : session < link.transport.nextSession
  current {session : Session} (opened : link.session = some session) : session ∈ given
  granted : calls.countP Call.opens = given.length
  balance : given.length = link.transport.deregistrations + link.session.toList.length
  ended (session : Session) : calls.count (.deregister session) =
    if session ∈ given ∧ link.session ≠ some session then 1 else 0

namespace Ledger

variable {given : List Session} {calls new : List Call} {link after : Link Simulator}
  {answer : Except Error Unit}

/-- Requests that open and end nothing. -/
theorem quiet (ledger : Ledger given calls link)
    (same : link.transport.SameSessions after.transport) (session : after.session = link.session)
    (idle : new.all Call.idle = true) :
    Ledger given (calls ++ new) after := by
  rw [List.all_eq_true] at idle
  refine ⟨?_, ledger.increasing, fun inside => ?_, fun opened => ?_, ?_, ?_, fun number => ?_⟩
  · rw [same.session, session]
    exact ledger.agrees
  · rw [same.nextSession]
    exact ledger.below inside
  · rw [session] at opened
    exact ledger.current opened
  · have none : new.countP Call.opens = 0 := by
      rw [List.countP_eq_zero]
      intro call inside
      simp [Call.opens_of_idle (idle call inside)]
    rw [List.countP_append, none, Nat.add_zero]
    exact ledger.granted
  · rw [same.deregistrations, session]
    exact ledger.balance
  · have none : new.count (.deregister number) = 0 := by
      rw [List.count_eq_zero]
      intro inside
      cases idle _ inside
    rw [List.count_append, none, Nat.add_zero, session]
    exact ledger.ended number

/-- The channels have no part in it. -/
theorem same (ledger : Ledger given calls link) (transport : after.transport = link.transport)
    (session : after.session = link.session) : Ledger given calls after := by
  have kept : Ledger given (calls ++ []) after := by
    refine ledger.quiet ?_ session rfl
    rw [transport]
    exact ⟨rfl, rfl, rfl⟩
  rwa [List.append_nil] at kept

/-- A new session gets a number above all others. -/
theorem opening (ledger : Ledger given calls link) (closed : link.session = none)
    {name : String} (session : after.session = some link.transport.nextSession)
    (agrees : after.transport.session = some link.transport.nextSession)
    (next : after.transport.nextSession = link.transport.nextSession + 1)
    (deregistrations : after.transport.deregistrations = link.transport.deregistrations) :
    Ledger (given ++ [link.transport.nextSession]) (calls ++ [.register name true]) after := by
  refine ⟨agrees.trans session.symm, ?_, fun {number} inside => ?_, fun {number} opened => ?_, ?_,
    ?_, fun number => ?_⟩
  · rw [List.pairwise_append]
    refine ⟨ledger.increasing, List.pairwise_singleton _ _, fun earlier inside last added => ?_⟩
    cases List.mem_singleton.mp added
    exact ledger.below inside
  · rw [next]
    rcases List.mem_append.mp inside with old | last
    · exact Nat.lt_succ_of_lt (ledger.below old)
    · cases List.mem_singleton.mp last
      exact Nat.lt_succ_self _
  · cases session.symm.trans opened
    exact List.mem_append_right _ List.mem_cons_self
  · simp [ledger.granted, Call.opens]
  · have balance := ledger.balance
    rw [closed] at balance
    simpa [deregistrations, session] using balance
  · have ended := ledger.ended number
    rw [closed] at ended
    by_cases same : number = link.transport.nextSession
    · -- The number is new, so nothing was ended under it.
      have fresh : number ∉ given := by
        intro inside
        exact Nat.lt_irrefl _ (same ▸ ledger.below inside)
      simpa [session, same.symm, fresh] using ended
    · simpa [session, same, Ne.symm same] using ended

/-- The open session is ended. -/
theorem closing (ledger : Ledger given calls link) {session : Session}
    (opened : link.session = some session) (closed : after.session = none)
    (agrees : after.transport.session = none)
    (next : after.transport.nextSession = link.transport.nextSession)
    (deregistrations : after.transport.deregistrations = link.transport.deregistrations + 1) :
    Ledger given (calls ++ [.deregister session]) after := by
  refine ⟨agrees.trans closed.symm, ledger.increasing, fun inside => ?_, fun opened => ?_, ?_, ?_,
    fun number => ?_⟩
  · rw [next]
    exact ledger.below inside
  · cases closed.symm.trans opened
  · simp [ledger.granted, Call.opens]
  · have balance := ledger.balance
    rw [opened] at balance
    simpa [deregistrations, closed] using balance
  · have ended := ledger.ended number
    have inside := ledger.current opened
    rw [opened] at ended
    by_cases same : number = session
    · subst same
      simpa [closed, inside] using ended
    · simpa [closed, same, Ne.symm same] using ended

/-- A session that is open is ended, and with none open nothing happens. -/
theorem close (ledger : Ledger given calls link)
    (transport : after.transport = link.closedTransport) (closed : after.session = none) :
    Ledger given (calls ++ link.session.toList.map Call.deregister) after := by
  cases opened : link.session with
  | none =>
      have same : after.transport = link.transport := by
        rw [transport, closedTransport, opened]
      refine ledger.quiet ?_ (closed.trans opened.symm) rfl
      rw [same]
      exact ⟨rfl, rfl, rfl⟩
  | some session =>
      have same : after.transport = (Transport.deregister link.transport session).value := by
        rw [transport, closedTransport, opened]
      obtain ⟨agrees, next, deregistrations⟩ :=
        Simulator.deregister_ends (ledger.agrees.trans opened)
      rw [← same] at agrees next deregistrations
      exact ledger.closing opened closed agrees next deregistrations

/-! ## Every operation keeps it -/

theorem connect (ledger : Ledger given calls link) (outcome : Connecting link after answer new) :
    Ledger (given ++ (if answer.isOk then after.session else none).toList) (calls ++ new)
      after := by
  cases outcome with
  | refused shut =>
      change Ledger (given ++ []) (calls ++ []) link
      rw [List.append_nil]
      exact ledger.quiet ⟨rfl, rfl, rfl⟩ rfl rfl
  | opened may granted =>
      obtain ⟨_, rfl, next⟩ := Simulator.register_granted granted
      obtain ⟨agrees, deregistrations⟩ := Simulator.register_opens granted
      exact ledger.opening may.2 rfl agrees next deregistrations
  | @failed transport fault may refused =>
      obtain ⟨same, _⟩ := Simulator.register_fault (ledger.agrees.trans may.2) refused
      change Ledger (given ++ []) _ (link.prepare.refusedBy transport fault)
      rw [List.append_nil]
      exact ledger.quiet same rfl rfl

theorem promote (ledger : Ledger given calls link) (outcome : Promoting link after answer new) :
    Ledger given (calls ++ new) after := by
  cases outcome with
  | refused unfit => exact ledger.quiet ⟨rfl, rfl, rfl⟩ rfl rfl
  | @asked _ session connected opened granted =>
      have same := link.transport.promote_sameSessions session
      rw [granted] at same
      exact ledger.quiet same rfl rfl
  | @failed _ session _ connected opened refused =>
      have same := link.transport.promote_sameSessions session
      rw [refused] at same
      exact ledger.quiet same rfl rfl

theorem disconnect (ledger : Ledger given calls link)
    (outcome : Disconnecting link after answer new) : Ledger given (calls ++ new) after := by
  cases outcome with
  | refused nothing => exact ledger.quiet ⟨rfl, rfl, rfl⟩ rfl rfl
  | closed may => exact ledger.close rfl rfl

theorem publish (ledger : Ledger given calls link) {id : ChannelId} {payload : List UInt8}
    (outcome : Publishing link id payload after answer new) :
    Ledger given (calls ++ new) after := by
  cases outcome with
  | refused harmless waits => exact ledger.quiet ⟨rfl, rfl, rfl⟩ rfl rfl
  | @failed _ session _ _ found takes opened connected refused =>
      have same := link.transport.send_sameSessions session id payload
      rw [refused] at same
      exact ledger.quiet same rfl rfl
  | @sent _ session _ found takes opened connected granted =>
      have same := link.transport.send_sameSessions session id payload
      rw [granted] at same
      exact ledger.quiet same rfl rfl

theorem process (ledger : Ledger given calls link) :
    Ledger given (calls ++ link.process.calls) link.process.value.1 := by
  cases opened : link.session with
  | none =>
      rw [(process_closed opened).1, (process_closed opened).2]
      exact ledger.quiet ⟨rfl, rfl, rfl⟩ rfl rfl
  | some session =>
      obtain ⟨value, requests⟩ := process_opened opened rfl
      obtain ⟨kept, transport⟩ := events_frame
        { link with transport := (Transport.poll link.transport session).value.1 }
        (Transport.poll link.transport session).value.2
      rw [value, requests]
      refine ledger.quiet ?_ kept rfl
      rw [transport]
      exact link.transport.poll_sameSessions session

theorem add (ledger : Ledger given calls link) {spec : ChannelSpec}
    {answer : Except Obstacle ChannelId} (outcome : Adding link spec after answer) :
    Ledger given calls after := by
  cases outcome with
  | refused barred => exact ledger
  | added closed free made => exact ledger.same rfl rfl

theorem changeChannel (ledger : Ledger given calls link) (target : ChannelId)
    (change : Channel → Channel) : Ledger given calls (link.changeChannel target change) := by
  rw [changeChannel_frame]
  exact ledger.same rfl rfl

/-- One operation of the owner, or one action of the peer. -/
theorem operation (ledger : Ledger given calls link) {operation : Operation Simulator}
    (fair : operation.ByPeer) :
    Ledger (given ++ (operation.opened? link).toList) (calls ++ operation.calls link)
      (operation.run link) := by
  by_cases connects : operation = .single .connect
  · subst connects
    exact ledger.connect link.connect_cases
  · rw [Operation.opened?_of_ne connects, Option.toList_none, List.append_nil]
    cases operation with
    | process => exact ledger.process
    | single step =>
        cases step with
        | connect => exact (connects rfl).elim
        | setOperational => exact ledger.promote link.setOperational_cases
        | disconnect => exact ledger.disconnect link.disconnect_cases
        | publish id payload => exact ledger.publish (link.publish_cases id payload)
        | addChannel spec =>
            rw [Operation.calls, Step.calls, List.append_nil]
            exact ledger.add (link.addChannel_cases spec)
        | popInto id destination =>
            rw [Operation.run, Step.run, popInto_link, Operation.calls, Step.calls,
              List.append_nil]
            exact ledger.changeChannel id _
        | takeUpdated id =>
            rw [Operation.run, Step.run, takeUpdated_link, Operation.calls, Step.calls,
              List.append_nil]
            exact ledger.changeChannel id _
        | dispatch event =>
            obtain ⟨dispatched, requests⟩ := link.dispatch_spec event
            rw [Operation.calls, Step.calls, requests]
            refine ledger.quiet ?_ dispatched.session rfl
            rw [Operation.run, Step.run, dispatched.transport]
            exact ⟨rfl, rfl, rfl⟩
        | meanwhile change =>
            obtain ⟨action, rfl⟩ := fair
            exact ledger.quiet (action.act_sameSessions link.transport) rfl rfl

theorem run (ledger : Ledger given calls link) {operations : List (Operation Simulator)}
    (fair : ∀ operation ∈ operations, operation.ByPeer) :
    Ledger (given ++ link.openings operations) (calls ++ link.callsOf operations)
      (link.run operations) := by
  induction operations generalizing given calls link with
  | nil => simpa [openings, callsOf, Link.run] using ledger
  | cons operation rest ih =>
      rw [List.forall_mem_cons] at fair
      have first := ledger.operation fair.1
      rw [openings, callsOf, ← List.append_assoc, ← List.append_assoc]
      exact ih first fair.2

/-- The link and the transport agree also while events are applied. -/
theorem history (ledger : Ledger given calls link) {operations : List (Operation Simulator)}
    (fair : ∀ operation ∈ operations, operation.ByPeer) {moment : Moment Simulator}
    (inside : moment ∈ link.history operations) :
    moment.before.transport.session = moment.before.session := by
  induction operations generalizing given calls link with
  | nil => cases inside
  | cons operation rest ih =>
      rw [List.forall_mem_cons] at fair
      rcases List.mem_append.mp inside with now | later
      · exact operation.agrees ledger.agrees now
      · exact ih (ledger.operation fair.1) fair.2 later

end Ledger

/-- A new link has no session, and none was ever given out. -/
theorem fresh_ledger (instanceName : String) (aliasName : Option String) :
    Ledger [] [] (Link.fresh instanceName aliasName ({} : Simulator)) := by
  refine ⟨rfl, List.Pairwise.nil, fun inside => ?_, fun opened => ?_, rfl, rfl, fun _ => rfl⟩
  · cases inside
  · cases opened

/-! ## No fault but the peer's -/

section Faults

variable {link after : Link Simulator} {calls : List Call} {fault : Fault}

theorem Connecting.fault_programmed
    (outcome : Connecting link after (.error (.transportAborted fault)) calls)
    (agrees : link.transport.session = link.session) :
    link.transport.failRegister = some fault := by
  cases outcome with
  | failed may refused => exact (Simulator.register_fault (agrees.trans may.2) refused).2

theorem Promoting.fault_programmed
    (outcome : Promoting link after (.error (.transportAborted fault)) calls)
    (agrees : link.transport.session = link.session) : link.transport.failPromote = some fault := by
  cases outcome with
  | failed connected opened refused => exact Simulator.promote_fault (agrees.trans opened) refused

theorem Publishing.fault_programmed {id : ChannelId} {payload : List UInt8}
    (outcome : Publishing link id payload after (.error (.transportAborted fault)) calls)
    (agrees : link.transport.session = link.session) : link.transport.failSend = some fault := by
  cases outcome with
  | refused harmless waits => exact (harmless rfl).elim
  | failed found takes opened connected refused =>
      exact Simulator.send_fault (agrees.trans opened) refused

end Faults

/-- Whatever the owner of a new link and the peer do, the link and the transport agree on the
session, every handle given out is higher than those before it, and each of them is ended once
unless it is still open.  No request fails unless the peer made it fail.  A link that is dropped
ends the session it had. -/
theorem sessions_are_accounted_for (instanceName : String) (aliasName : Option String)
    (operations : List (Operation Simulator)) (fair : ∀ operation ∈ operations, operation.ByPeer) :
    let start := Link.fresh instanceName aliasName ({} : Simulator)
    let link := start.run operations
    let calls := start.callsOf operations
    let given := start.openings operations
    link.transport.session = link.session ∧
      (∀ moment ∈ start.history operations,
        moment.before.transport.session = moment.before.session) ∧
      given.Pairwise (· < ·) ∧
      given.length = calls.countP Call.opens ∧
      (∀ session, calls.count (.deregister session) =
        if session ∈ given ∧ link.session ≠ some session then 1 else 0) ∧
      calls.countP Call.opens = link.transport.deregistrations + (if link.isOpen then 1 else 0) ∧
      ((∀ fault, link.connect.value.2 = .error (.transportAborted fault) →
          link.transport.failRegister = some fault) ∧
        (∀ fault, link.setOperational.value.2 = .error (.transportAborted fault) →
          link.transport.failPromote = some fault) ∧
        ∀ id payload fault, (link.publish id payload).value.2 = .error (.transportAborted fault) →
          link.transport.failSend = some fault) ∧
      link.close.value.transport.session = none ∧
      link.close.value.transport.deregistrations = calls.countP Call.opens := by
  intro start link calls given
  have initial := fresh_ledger instanceName aliasName
  have ledger : Ledger given calls link := initial.run fair
  have closed : Ledger given (calls ++ link.session.toList.map Call.deregister)
      link.close.value := by
    apply ledger.close
    · rw [link.close_eq.1]
    · rw [link.close_eq.1]
  have ended : link.close.value.session = none := by
    rw [link.close_eq.1]
  refine ⟨ledger.agrees, fun _ inside => initial.history fair inside, ledger.increasing,
    ledger.granted.symm, ledger.ended, ?_, ⟨?_, ?_, ?_⟩, ?_, ?_⟩
  · rw [ledger.granted, ledger.balance, isOpen]
    cases link.session <;> rfl
  · intro fault failed
    have outcome := link.connect_cases
    rw [failed] at outcome
    exact outcome.fault_programmed ledger.agrees
  · intro fault failed
    have outcome := link.setOperational_cases
    rw [failed] at outcome
    exact outcome.fault_programmed ledger.agrees
  · intro id payload fault failed
    have outcome := link.publish_cases id payload
    rw [failed] at outcome
    exact outcome.fault_programmed ledger.agrees
  · exact closed.agrees.trans ended
  · have balance := closed.balance
    rw [ended] at balance
    rw [ledger.granted]
    exact balance.symm

/-- A session is ended, the next one is refused by the peer, and a third attempt succeeds. -/
def threeAttempts : List (Operation Simulator) :=
  [.single (.addChannel ⟨"setpoint", .publish, 1, none⟩), .single .connect, .process,
    .single .disconnect,
    .single (.meanwhile fun sim => (PeerAction.failRegister abortedByTransport).act sim),
    .single .connect, .single .disconnect, .single .connect, .process]

theorem third_attempt_opens_the_second_session :
    let start := Link.fresh "line" none ({} : Simulator)
    (∀ operation ∈ threeAttempts, operation.ByPeer) ∧ start.openings threeAttempts = [1, 2] ∧
      (start.run threeAttempts).session = some 2 ∧
      (start.run threeAttempts).transport.session = some 2 ∧
      (start.callsOf threeAttempts).count (.deregister 1) = 1 ∧
      (start.run threeAttempts).close.value.transport.deregistrations = 2 := by
  have fair : ∀ operation ∈ threeAttempts, operation.ByPeer := by
    simp only [threeAttempts, List.forall_mem_cons, Operation.ByPeer, true_and]
    exact ⟨⟨.failRegister abortedByTransport, rfl⟩, fun _ inside => by cases inside⟩
  have account := sessions_are_accounted_for "line" none threeAttempts fair
  have given : (Link.fresh "line" none ({} : Simulator)).openings threeAttempts = [1, 2] := by
    decide +kernel
  have session : ((Link.fresh "line" none ({} : Simulator)).run threeAttempts).session =
      some 2 := by decide +kernel
  -- From here on the account speaks for the run, which need not be computed again.
  generalize threeAttempts = operations at *
  obtain ⟨agrees, _, _, granted, ended, _, _, _, dropped⟩ := account
  refine ⟨fair, given, session, agrees.trans session, ?_, ?_⟩
  · rw [ended, given, session]
    rfl
  · rw [dropped, ← granted, given]
    rfl

end Link

end DatasetSync
