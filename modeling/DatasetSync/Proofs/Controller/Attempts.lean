import DatasetSync.Proofs.Controller.Lifecycle
import DatasetSync.Proofs.Link.Sessions

/-!
# One attempt at a time

What a controller asks of its transport in a cycle depends on its phase.  It asks for a session only
while connecting, and once it has asked it does not come back to this phase before it is disabled.
Promotion is asked for only when told to start, and before anything else in the cycle.  A session
that was opened is ended once, and before the next one is asked for.
-/

namespace DatasetSync

def Call.exchanges : Call → Bool
  | .poll _ _ => true
  | .send _ _ _ _ => true
  | _ => false

/-- The controller has asked for a session since it was disabled last. -/
def Phase.Spent (phase : Phase) : Prop :=
  phase ≠ .idle ∧ phase ≠ .connecting

namespace Link

variable {T : Type}

/-- What is asked of the transport in a cycle with a session open: promotion first, if at all, and
then nothing but the exchange of values. -/
inductive Asking (link : Link T) (go : Bool) : List Call → Prop where
  | values {calls : List Call} (exchanges : ∀ call ∈ calls, call.exchanges = true) :
      Asking link go calls
  | promotion {session : Session} {granted : Bool} {rest : List Call} (started : go = true)
      (connected : link.state = .connected) (opened : link.session = some session)
      (exchanges : ∀ call ∈ rest, call.exchanges = true) :
      Asking link go (.promote session granted :: rest)

theorem process_exchanges [Transport T] (link : Link T) :
    ∀ call ∈ link.process.calls, call.exchanges = true := by
  intro call asked
  cases opened : link.session with
  | none =>
      rw [(process_closed opened).2] at asked
      cases asked
  | some session =>
      rw [(process_opened opened rfl).2] at asked
      cases List.mem_singleton.mp asked
      rfl

end Link

namespace Controller

variable {T L : Type} {controller after : Controller T L} {enable go : Bool} {calls : List Call}

/-- What the requests of a cycle say about it. -/
structure Attempted (controller after : Controller T L) (enable go : Bool) (calls : List Call) :
    Prop where
  register {name : String} {granted : Bool} (asked : .register name granted ∈ calls) :
    controller.phase = .connecting ∧ after.phase.Spent ∧ calls = [.register name granted] ∧
      (granted = true → after.link.session ≠ none)
  promote {session : Session} {granted : Bool} (asked : .promote session granted ∈ calls) :
    enable = true ∧ go = true ∧ controller.link.state = .connected ∧
      controller.link.session = some session ∧ ∃ rest, calls = .promote session granted :: rest
  spent : enable = true → controller.phase.Spent → after.phase.Spent

theorem attempted_nothing (spent : enable = true → controller.phase.Spent → after.phase.Spent) :
    Attempted controller after enable go [] := by
  refine ⟨fun asked => ?_, fun asked => ?_, spent⟩
  · cases asked
  · cases asked

theorem attempted_running (asking : controller.link.Asking go calls) (enabled : enable = true)
    (spent : after.phase.Spent) : Attempted controller after enable go calls := by
  cases asking with
  | values exchanges =>
      refine ⟨fun asked => ?_, fun asked => ?_, fun _ _ => spent⟩
      · cases exchanges _ asked
      · cases exchanges _ asked
  | promotion started connected opened exchanges =>
      refine ⟨fun asked => ?_, fun asked => ?_, fun _ _ => spent⟩
      · rcases List.mem_cons.mp asked with first | later
        · cases first
        · cases exchanges _ later
      · rcases List.mem_cons.mp asked with first | later
        · cases first
          exact ⟨enabled, started, connected, opened, _, rfl⟩
        · cases exchanges _ later

section Cycles

variable [Transport T]

theorem attempted_connecting {link : Link T} {answer : Except Error Unit}
    (phase : controller.phase = .connecting) (spent : after.phase.Spent)
    (linked : after.link = link) (outcome : Link.Connecting controller.link link answer calls) :
    Attempted controller after enable go calls := by
  cases outcome with
  | refused shut => exact attempted_nothing fun _ _ => spent
  | opened may granted =>
      refine ⟨fun asked => ?_, fun asked => ?_, fun _ _ => spent⟩
      · cases List.mem_singleton.mp asked
        refine ⟨phase, spent, rfl, fun _ => ?_⟩
        rw [linked]
        exact Option.some_ne_none _
      · cases List.mem_singleton.mp asked
  | failed may refused =>
      refine ⟨fun asked => ?_, fun asked => ?_, fun _ _ => spent⟩
      · cases List.mem_singleton.mp asked
        exact ⟨phase, spent, rfl, nofun⟩
      · cases List.mem_singleton.mp asked

theorem attempted_disconnecting {link : Link T} {answer : Except Error Unit}
    (spent : enable = true → after.phase.Spent)
    (outcome : Link.Disconnecting controller.link link answer calls) :
    Attempted controller after enable go calls := by
  cases outcome with
  | refused nothing => exact attempted_nothing fun enabled _ => spent enabled
  | closed may =>
      refine ⟨fun asked => ?_, fun asked => ?_, fun enabled _ => spent enabled⟩
      · obtain ⟨session, _, impossible⟩ := List.mem_map.mp asked
        cases impossible
      · obtain ⟨session, _, impossible⟩ := List.mem_map.mp asked
        cases impossible

theorem Flushing.exchanges {ids : List ChannelId} (flushing : Flushing controller ids after calls) :
    ∀ call ∈ calls, call.exchanges = true := by
  induction flushing with
  | done controller =>
      intro call asked
      cases asked
  | unchanged same next ih => exact ih
  | waits closed next ih => exact ih
  | failed found changed opened connected answer stands =>
      intro call asked
      cases List.mem_singleton.mp asked
      rfl
  | sent found changed opened connected answer next ih =>
      intro call asked
      rcases List.mem_cons.mp asked with rfl | later
      · rfl
      · exact ih call later

variable [Log.Logger L]

theorem exchange_exchanges (sound : controller.Sound) :
    ∀ call ∈ controller.exchange.calls, call.exchanges = true := by
  obtain ⟨base, sent, calls, _, _, flushing, _, asked⟩ := exchange_parts sound
  intro call inside
  rw [asked] at inside
  rcases List.mem_append.mp inside with fetching | sending
  · exact controller.link.process_exchanges call fetching
  · exact flushing.exchanges call sending

theorem Running.asking (sound : controller.Sound) (outcome : Running controller go after calls) :
    controller.link.Asking go calls := by
  cases outcome with
  | @exchanged ready early prepared =>
      obtain ⟨alike, _, _⟩ := prepared.alike
      have exchanges := exchange_exchanges (alike.sound sound)
      cases prepared with
      | promoted phase started connected outcome =>
          cases outcome with
          | asked up opened answer => exact .promotion started connected opened exchanges
      | halted waits => exact .values exchanges
      | waiting phase started unconnected => exact .values exchanges
      | operational phase started top => exact .values exchanges
      | running phase started => exact .values exchanges
  | refused phase started connected outcome stands =>
      cases outcome with
      | refused unfit =>
          refine .values fun call asked => ?_
          cases asked
      | failed up opened answer =>
          refine .promotion started connected opened fun call asked => ?_
          cases asked

/-- After a cycle with a session open, the controller waits, runs or tears down. -/
theorem Running.not_atRest (sound : controller.Sound)
    (outcome : Running controller go after calls) : ¬ after.phase.AtRest := by
  cases outcome with
  | @exchanged ready early prepared =>
      obtain ⟨alike, busy, _⟩ := prepared.alike
      obtain ⟨last, steady, value⟩ := exchange_steady (alike.sound sound)
      obtain ⟨phase, same, stands⟩ := last.concluded_stands
      rw [value, stands.phase_eq]
      rcases same with kept | down
      · rw [kept, steady.phase]
        exact busy
      · exact Phase.not_atRest (.inr (.inr down))
  | refused phase started connected outcome stands =>
      rw [stands.phase_eq]
      exact Phase.not_atRest (.inr (.inr rfl))

theorem cycle_attempted (sound : controller.Sound) (enable go : Bool) :
    Attempted controller (controller.cycle enable go).value enable go
      (controller.cycle enable go).calls := by
  have outcome := controller.cycle_cases enable go
  generalize (controller.cycle enable go).value = after,
    (controller.cycle enable go).calls = calls at outcome ⊢
  cases outcome with
  | idle phase stands => exact attempted_nothing fun _ spent => absurd phase spent.1
  | waited enabled phase stands =>
      refine attempted_nothing fun _ spent => ?_
      rw [stands.phase_eq]
      exact spent
  | connected enabled phase outcome stands =>
      refine attempted_connecting phase ?_ stands.link_eq outcome
      rw [stands.phase_eq]
      split <;> exact ⟨nofun, nofun⟩
  | @ran begun ran _ _ enabled phase begins outcome keeps =>
      have busy := outcome.not_atRest (begins.sound sound)
      rw [← keeps.phase_eq] at busy
      have asking := outcome.asking (begins.sound sound)
      rw [begins.link_eq] at asking
      exact attempted_running asking enabled
        ⟨fun idle => busy (.inl idle), fun connecting => busy (.inr (.inl connecting))⟩
  | ended phase due outcome stands =>
      refine attempted_disconnecting (fun enabled => ?_) outcome
      rw [stands.phase_eq, if_pos enabled]
      exact ⟨nofun, nofun⟩

end Cycles

/-! ## The account of a controller -/

section Accounts

variable {L : Type} {controller after : Controller Simulator L} {go : Bool}
  {calls earlier : List Call} {given : List Session}

open Link (Ledger)

theorem Flushing.ledger {ids : List ChannelId} (flushing : Flushing controller ids after calls)
    (ledger : Ledger given earlier controller.link) :
    Ledger given (earlier ++ calls) after.link := by
  induction flushing generalizing earlier with
  | done controller =>
      rw [List.append_nil]
      exact ledger
  | unchanged same next ih => exact ih ledger
  | waits closed next ih => exact ih ledger
  | @failed controller _ id _ slot session transport _ found changed opened connected answer
      stands =>
      have same := controller.link.transport.send_sameSessions session id slot.value.bytes
      rw [answer] at same
      rw [stands.link_eq]
      exact ledger.quiet same rfl rfl
  | @sent controller _ id _ slot session transport calls found changed opened connected answer next
      ih =>
      have same := controller.link.transport.send_sameSessions session id slot.value.bytes
      rw [answer] at same
      have first : Ledger given (earlier ++ [.send session id slot.value.bytes true])
          (controller.sentTo transport id slot).link := ledger.quiet same rfl rfl
      have both := ih first
      rwa [List.append_assoc] at both

variable [Log.Logger L]

theorem exchange_ledger (sound : controller.Sound)
    (ledger : Ledger given earlier controller.link) :
    Ledger given (earlier ++ controller.exchange.calls) controller.exchange.value.link := by
  obtain ⟨base, sent, calls, keeps, rests, flushing, value, asked⟩ := exchange_parts sound
  have fetched : Ledger given (earlier ++ controller.link.process.calls) base.link := by
    rw [keeps.link_eq]
    exact ledger.process
  have copied : Ledger given (earlier ++ controller.link.process.calls)
      base.copySubscriptions.link := by
    rw [rests.link]
    exact fetched.same rfl rfl
  obtain ⟨phase, _, stands⟩ := sent.concluded_stands
  rw [value, asked, stands.link_eq, ← List.append_assoc]
  exact flushing.ledger copied

theorem Running.ledger (sound : controller.Sound) (outcome : Running controller go after calls)
    (ledger : Ledger given earlier controller.link) :
    Ledger given (earlier ++ calls) after.link := by
  cases outcome with
  | @exchanged ready early prepared =>
      obtain ⟨alike, _, _⟩ := prepared.alike
      have first : Ledger given (earlier ++ early) ready.link := by
        cases prepared with
        | promoted phase started connected outcome => exact ledger.promote outcome
        | halted waits => exact ledger.quiet ⟨rfl, rfl, rfl⟩ rfl rfl
        | waiting phase started unconnected => exact ledger.quiet ⟨rfl, rfl, rfl⟩ rfl rfl
        | operational phase started top => exact ledger.quiet ⟨rfl, rfl, rfl⟩ rfl rfl
        | running phase started => exact ledger.quiet ⟨rfl, rfl, rfl⟩ rfl rfl
      rw [← List.append_assoc]
      exact exchange_ledger (alike.sound sound) first
  | refused phase started connected outcome stands =>
      rw [stands.link_eq]
      exact ledger.promote outcome

theorem cycle_ledger (sound : controller.Sound) (ledger : Ledger given earlier controller.link)
    (enable go : Bool) :
    ∃ new, Ledger (given ++ new) (earlier ++ (controller.cycle enable go).calls)
      (controller.cycle enable go).value.link := by
  have outcome := controller.cycle_cases enable go
  generalize (controller.cycle enable go).value = after,
    (controller.cycle enable go).calls = calls at outcome ⊢
  cases outcome with
  | idle phase stands =>
      refine ⟨[], ?_⟩
      rw [List.append_nil, List.append_nil, stands.link_eq]
      exact ledger
  | waited enabled phase stands =>
      refine ⟨[], ?_⟩
      rw [List.append_nil, List.append_nil, stands.link_eq]
      exact ledger
  | connected enabled phase outcome stands =>
      rw [stands.link_eq]
      exact ⟨_, ledger.connect outcome⟩
  | @ran begun ran _ _ enabled phase begins outcome keeps =>
      rw [← begins.link_eq] at ledger
      refine ⟨[], ?_⟩
      rw [List.append_nil, keeps.link_eq]
      exact outcome.ledger (begins.sound sound) ledger
  | ended phase due outcome stands =>
      refine ⟨[], ?_⟩
      rw [List.append_nil, stands.link_eq]
      exact ledger.disconnect outcome

end Accounts

end Controller

/-! ## Every run -/

namespace World

variable {L : Type} [Log.Logger L] {world : World L} {input : Input}

/-- Between the cycles nothing is asked of the transport, and the phase and the session stay. -/
theorem step_between (ordered : world.controller.Ordered)
    (between : ¬ ∃ enable go, input = .cycle enable go) :
    let after := (world.step input).value.controller
    (world.step input).calls = [] ∧ after.phase = world.controller.phase ∧
      after.link.session = world.controller.link.session ∧
      world.controller.link.transport.SameSessions after.link.transport := by
  have edited {after : Controller Simulator L} (edited : world.controller.Edited after) :
      after.phase = world.controller.phase ∧
        after.link.session = world.controller.link.session ∧
        world.controller.link.transport.SameSessions after.link.transport := by
    cases edited with
    | nothing => exact ⟨rfl, rfl, rfl, rfl, rfl⟩
    | slot found sound seen state => exact ⟨rfl, rfl, rfl, rfl, rfl⟩
  cases input with
  | cycle enable go => exact absurd ⟨enable, go, rfl⟩ between
  | setImage id payload => exact ⟨rfl, edited (Controller.written_edited ordered id payload)⟩
  | updateBuffered id update =>
      exact ⟨rfl, edited (Controller.updateBuffered_edited ordered id update)⟩
  | peer action => exact ⟨rfl, rfl, rfl, action.act_sameSessions world.controller.link.transport⟩

/-- What the requests of an input say about it: they are those of a cycle, or there are none. -/
theorem step_attempted (ordered : world.controller.Ordered) (input : Input) :
    ∃ enable go, (input = .cycle enable go ∨ enable = true ∧ (world.step input).calls = []) ∧
      world.controller.Attempted (world.step input).value.controller enable go
        (world.step input).calls := by
  by_cases cycling : ∃ enable go, input = .cycle enable go
  · obtain ⟨enable, go, rfl⟩ := cycling
    refine ⟨enable, go, .inl rfl, ?_⟩
    rw [step, Trail.calls_bind, Trail.calls_pure, List.append_nil]
    exact Controller.cycle_attempted ordered.sound enable go
  · obtain ⟨calls, phase, _, _⟩ := step_between ordered cycling
    refine ⟨true, true, .inr ⟨rfl, calls⟩, ?_⟩
    rw [calls]
    refine Controller.attempted_nothing fun _ spent => ?_
    rw [phase]
    exact spent

/-- Without a disabled cycle, no second session is asked for. -/
theorem run_spent {inputs : List Input} (ordered : world.controller.Ordered)
    (spent : world.controller.phase.Spent) (enabled : ∀ go, .cycle false go ∉ inputs) :
    (world.run inputs).value.controller.phase.Spent := by
  induction inputs generalizing world with
  | nil => exact spent
  | cons input rest ih =>
      obtain ⟨enable, go, shape, attempted⟩ := step_attempted ordered input
      have on : enable = true := by
        rcases shape with rfl | ⟨on, _⟩
        · cases enable with
          | true => rfl
          | false => exact absurd List.mem_cons_self (enabled go)
        · exact on
      exact ih (step_steps ordered input).ordered (attempted.spent on spent) fun go inside =>
        enabled go (List.mem_cons_of_mem _ inside)

theorem step_ledger {given : List Session} {earlier : List Call}
    (ordered : world.controller.Ordered)
    (ledger : Link.Ledger given earlier world.controller.link) (input : Input) :
    ∃ new, Link.Ledger (given ++ new) (earlier ++ (world.step input).calls)
      (world.step input).value.controller.link := by
  by_cases cycling : ∃ enable go, input = .cycle enable go
  · obtain ⟨enable, go, rfl⟩ := cycling
    rw [step, Trail.calls_bind, Trail.calls_pure, List.append_nil]
    exact Controller.cycle_ledger ordered.sound ledger enable go
  · obtain ⟨calls, _, session, sessions⟩ := step_between ordered cycling
    refine ⟨[], ?_⟩
    rw [List.append_nil, calls]
    exact ledger.quiet sessions session rfl

theorem run_ledger {given : List Session} {earlier : List Call}
    (ordered : world.controller.Ordered)
    (ledger : Link.Ledger given earlier world.controller.link) (inputs : List Input) :
    ∃ new, Link.Ledger (given ++ new) (earlier ++ (world.run inputs).calls)
      (world.run inputs).value.controller.link := by
  induction inputs generalizing world given earlier with
  | nil => exact ⟨[], by simpa [run] using ledger⟩
  | cons input rest ih =>
      obtain ⟨first, kept⟩ := step_ledger ordered ledger input
      obtain ⟨later, last⟩ := ih (step_steps ordered input).ordered kept
      refine ⟨first ++ later, ?_⟩
      rw [run, Trail.calls_bind, ← List.append_assoc, ← List.append_assoc]
      exact last

/-- A session that is open at one time and not at a later one was ended once in between. -/
theorem ended_between {given : List Session} {earlier : List Call} {inputs : List Input}
    {session : Session} (ordered : world.controller.Ordered)
    (ledger : Link.Ledger given earlier world.controller.link)
    (opened : world.controller.link.session = some session)
    (closed : (world.run inputs).value.controller.link.session = none) :
    (world.run inputs).calls.count (.deregister session) = 1 := by
  obtain ⟨new, later⟩ := run_ledger ordered ledger inputs
  have before : earlier.count (.deregister session) = 0 := by
    rw [ledger.ended, opened]
    simp
  have after : (earlier ++ (world.run inputs).calls).count (.deregister session) = 1 := by
    rw [later.ended, closed]
    simp [ledger.current opened]
  rwa [List.count_append, before, Nat.zero_add] at after

variable {instanceName : String} {aliasName : Option String} {specs : List ChannelSpec}
  {link : Link Simulator}

omit [Log.Logger L] in
theorem start_ledger (logger : Option L)
    (built : (Link.fresh instanceName aliasName {}).addChannels specs = .ok link) :
    Link.Ledger [] [] (start link logger).controller.link := by
  obtain ⟨_, same⟩ := Link.addChannels_made built fun _ _ found => by cases found
  change Link.Ledger [] [] link
  rw [same]
  exact (Link.fresh_ledger instanceName aliasName).same rfl rfl

/-- In every run, a cycle that asks for a session asks for nothing else.  From one such request to
the next the controller is disabled at least once, and a session that was opened by the first is
ended exactly once.  Promotion is asked for only in a cycle that is told to start, of a link that is
connected, and before anything else. -/
theorem controller_never_retries (logger : Option L)
    (built : (Link.fresh instanceName aliasName {}).addChannels specs = .ok link)
    (early middle : List Input) (first second : Input) :
    let before := ((start link logger).run early).value
    let opened := (before.step first).value
    let again := (opened.run middle).value
    (∀ name granted, .register name granted ∈ (before.step first).calls →
      (before.step first).calls = [.register name granted] ∧
        ((∃ other allowed, .register other allowed ∈ (again.step second).calls) →
          (∃ go, .cycle false go ∈ middle) ∧
            (granted = true → ∃ session, opened.controller.link.session = some session ∧
              (opened.run middle).calls.count (.deregister session) = 1))) ∧
      ∀ session granted, .promote session granted ∈ (before.step first).calls →
        first = .cycle true true ∧ before.controller.link.state = .connected ∧
          before.controller.link.session = some session ∧
          ∃ rest, (before.step first).calls = .promote session granted :: rest := by
  intro before opened again
  have inStep := (start_inStep logger built).run early
  have openedStep : opened.InStep := inStep.step first
  have againStep : again.InStep := openedStep.run middle
  obtain ⟨enable, go, shape, attempted⟩ := step_attempted inStep.ordered first
  refine ⟨fun name granted asked => ?_, fun session granted asked => ?_⟩
  · obtain ⟨_, spent, only, session⟩ := attempted.register asked
    refine ⟨only, ?_⟩
    rintro ⟨other, allowed, askedAgain⟩
    obtain ⟨_, _, _, later⟩ := step_attempted againStep.ordered second
    obtain ⟨connecting, _⟩ := later.register askedAgain
    constructor
    · by_contra enabled
      have still := run_spent openedStep.ordered spent fun go inside => enabled ⟨go, inside⟩
      exact still.2 connecting
    · intro success
      obtain ⟨number, current⟩ := Option.ne_none_iff_exists'.mp (session success)
      refine ⟨number, current, ?_⟩
      obtain ⟨rest, _⟩ := againStep.coupled.resting (.inr (.inl connecting))
      obtain ⟨_, ledger⟩ :=
        run_ledger (start_inStep logger built).ordered (start_ledger logger built) early
      obtain ⟨_, openedLedger⟩ := step_ledger inStep.ordered ledger first
      exact ended_between openedStep.ordered openedLedger current rest.session
  · obtain ⟨on, started, connected, current, rest⟩ := attempted.promote asked
    refine ⟨?_, connected, current, rest⟩
    rcases shape with same | ⟨_, nothing⟩
    · rw [same, on, started]
    · rw [nothing] at asked
      cases asked

/-- A session is aborted by the peer; enabling the controller on and on does not bring it back, and
disabling it once does. -/
def untilDisabled : List Input :=
  [.cycle true true, .peer (.inject (.linkStateChanged .aborted none)), .cycle true true,
    .cycle true true, .cycle true true, .cycle true true, .cycle false true, .cycle true true]

theorem second_session_follows_a_disabled_cycle :
    let before := ((start oneWay (none : Option Log.Station)).run [.cycle true true]).value
    let opened := (before.step (.cycle true true)).value
    let again := (opened.run untilDisabled).value
    (Link.fresh "line" none {}).addChannels [⟨"setpoint", .publish, 1, none⟩] = .ok oneWay ∧
      .register "line" true ∈ (before.step (.cycle true true)).calls ∧
      .register "line" true ∈ (again.step (.cycle true true)).calls ∧
      (∃ go, .cycle false go ∈ untilDisabled) ∧
      ∃ session, opened.controller.link.session = some session ∧
        (opened.run untilDisabled).calls.count (.deregister session) = 1 := by
  intro before opened again
  have built : (Link.fresh "line" none {}).addChannels [⟨"setpoint", .publish, 1, none⟩] =
      .ok oneWay := rfl
  have asked : .register "line" true ∈ (before.step (.cycle true true)).calls := by
    decide +kernel
  have askedAgain : .register "line" true ∈ (again.step (.cycle true true)).calls := by
    decide +kernel
  obtain ⟨attempts, _⟩ := controller_never_retries (none : Option Log.Station) built
    [.cycle true true] untilDisabled (.cycle true true) (.cycle true true)
  obtain ⟨_, next⟩ := attempts "line" true asked
  obtain ⟨disabled, ended⟩ := next ⟨"line", true, askedAgain⟩
  exact ⟨built, asked, askedAgain, disabled, ended rfl⟩

end World

end DatasetSync
