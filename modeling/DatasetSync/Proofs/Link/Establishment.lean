import DatasetSync.Proofs.Link.History
import DatasetSync.Transport.Simulator
import Mathlib.Data.List.DropRight

/-!
# Connections that were established and are gone

A link has lost its connection if it is disconnected while its session is still open and the peer
had acknowledged that session before.  The link keeps one flag for the last of these.  The flag may
be set by an event that no session is open for, so it is read off the history only from the moment
on that opened the session.
-/

namespace DatasetSync.Link

variable {T : Type}

def Aside (link after : Link T) : Prop :=
  after.session = link.session ∧ after.connectedOnce = link.connectedOnce

theorem Adding.aside {link after : Link T} {spec : ChannelSpec}
    {answer : Except Obstacle ChannelId} (outcome : Adding link spec after answer) :
    Aside link after := by
  cases outcome <;> exact ⟨rfl, rfl⟩

theorem changeChannel_aside (link : Link T) (target : ChannelId) (change : Channel → Channel) :
    Aside link (link.changeChannel target change) := by
  rw [changeChannel_frame]
  exact ⟨rfl, rfl⟩

variable [Transport T]

/-! ## Moments -/

def Moment.opens (moment : Moment T) : Bool :=
  match moment.step with
  | .connect => moment.before.connect.value.2.isOk
  | _ => false

def Moment.establishes (moment : Moment T) : Bool :=
  match moment.step with
  | .dispatch _ =>
      moment.before.state == .disconnected && moment.after.state == .connected
  | _ => false

def sinceOpened (past : List (Moment T)) : List (Moment T) :=
  past.rtakeWhile fun moment => !moment.opens

theorem sinceOpened_concat (past : List (Moment T)) (moment : Moment T) :
    sinceOpened (past ++ [moment]) =
      if moment.opens then [] else sinceOpened past ++ [moment] := by
  unfold sinceOpened
  rw [List.rtakeWhile_concat]
  cases moment.opens <;> rfl

/-- Nothing from before an opening counts as having happened since. -/
theorem mem_of_mem_sinceOpened {early late : List (Moment T)} {opening moment : Moment T}
    (opens : opening.opens = true) (inside : moment ∈ sinceOpened (early ++ opening :: late)) :
    moment ∈ late := by
  induction late using List.reverseRecOn with
  | nil =>
      rw [sinceOpened_concat, if_pos opens] at inside
      cases inside
  | append_singleton late last ih =>
      rw [← List.cons_append, ← List.append_assoc, sinceOpened_concat] at inside
      split at inside
      · cases inside
      · exact List.mem_append.mpr ((List.mem_append.mp inside).imp_left ih)

/-! ## What a moment does to the session and to the flag -/

/-- A session is opened without an acknowledgement, or there is none, or the session stays and an
acknowledgement is remembered. -/
inductive Moment.Course (moment : Moment T) : Prop where
  | opened (opens : moment.opens = true) (unknown : moment.after.connectedOnce = false)
  | closed (still : moment.opens = false) (session : moment.after.session = none)
  | kept (still : moment.opens = false) (session : moment.after.session = moment.before.session)
      (known : moment.after.connectedOnce = (moment.before.connectedOnce || moment.establishes))

theorem Promoting.aside {link after : Link T} {answer : Except Error Unit} {calls : List Call}
    (outcome : Promoting link after answer calls) : Aside link after := by
  cases outcome <;> exact ⟨rfl, rfl⟩

theorem Publishing.aside {link after : Link T} {id : ChannelId} {payload : List UInt8}
    {answer : Except Error Unit} {calls : List Call}
    (outcome : Publishing link id payload after answer calls) : Aside link after := by
  cases outcome <;> exact ⟨rfl, rfl⟩

theorem Moment.Course.quiet {moment : Moment T} (still : moment.opens = false)
    (silent : moment.establishes = false) (aside : Aside moment.before moment.after) :
    moment.Course := by
  obtain ⟨session, known⟩ := aside
  refine .kept still session ?_
  rw [known, silent, Bool.or_false]

theorem Connecting.course {link : Link T} {calls : List Call}
    (outcome : Connecting link link.connect.value.1 link.connect.value.2 calls) :
    (⟨link, .connect⟩ : Moment T).Course := by
  generalize later : link.connect.value.1 = after at outcome
  generalize told : link.connect.value.2 = answer at outcome
  cases outcome with
  | refused shut =>
      refine .quiet (congrArg Except.isOk told) rfl ?_
      exact ⟨congrArg Link.session later, congrArg Link.connectedOnce later⟩
  | opened may granted =>
      exact .opened (congrArg Except.isOk told) (congrArg Link.connectedOnce later)
  | failed may refused =>
      exact .closed (congrArg Except.isOk told) ((congrArg Link.session later).trans may.2)

/-- Granted or refused, disconnecting leaves no session. -/
theorem Disconnecting.closes {link after : Link T} {answer : Except Error Unit} {calls : List Call}
    (outcome : Disconnecting link after answer calls) : after.session = none := by
  cases outcome with
  | refused nothing =>
      by_contra opened
      exact nothing (.inr opened)
  | closed may => rfl

theorem Disconnecting.course {link : Link T} {answer : Except Error Unit} {calls : List Call}
    (outcome : Disconnecting link link.disconnect.value.1 answer calls) :
    (⟨link, .disconnect⟩ : Moment T).Course := by
  generalize later : link.disconnect.value.1 = after at outcome
  cases outcome with
  | refused nothing =>
      refine .quiet rfl rfl ?_
      exact ⟨congrArg Link.session later, congrArg Link.connectedOnce later⟩
  | closed may => exact .closed rfl (congrArg Link.session later)

/-- Nothing else can happen. -/
theorem Moment.course (moment : Moment T) : moment.Course := by
  obtain ⟨link, step⟩ := moment
  cases step with
  | connect => exact link.connect_cases.course
  | disconnect => exact link.disconnect_cases.course
  | dispatch event =>
      have dispatched := (link.dispatch_spec event).1
      exact .kept rfl dispatched.session dispatched.connectedOnce
  | setOperational => exact .quiet rfl rfl link.setOperational_cases.aside
  | publish id payload => exact .quiet rfl rfl (link.publish_cases id payload).aside
  | addChannel spec => exact .quiet rfl rfl (link.addChannel_cases spec).aside
  | popInto id destination =>
      have aside := link.changeChannel_aside id (·.afterPop destination)
      rw [← popInto_link] at aside
      exact .quiet rfl rfl aside
  | takeUpdated id =>
      have aside := link.changeChannel_aside id fun channel => { channel with updated := false }
      rw [← takeUpdated_link] at aside
      exact .quiet rfl rfl aside
  | meanwhile change => exact .quiet rfl rfl ⟨rfl, rfl⟩

/-! ## Histories -/

/-- An open session was opened at some moment of the past, and the flag says whether it was
acknowledged since. -/
structure Remembers (past : List (Moment T)) (link : Link T) : Prop where
  opening : link.session ≠ none → ∃ early opening, past = early ++ opening :: sinceOpened past ∧
    opening.opens = true ∧ opening.after.session = link.session
  known : link.session ≠ none →
    (link.connectedOnce = true ↔ ∃ moment ∈ sinceOpened past, moment.establishes = true)

theorem Remembers.step {past : List (Moment T)} {link : Link T} (remembers : Remembers past link)
    (step : Step T) : Remembers (past ++ [⟨link, step⟩]) (step.run link) := by
  have course := Moment.course ⟨link, step⟩
  cases course with
  | opened opens unknown =>
      have since : sinceOpened (past ++ [⟨link, step⟩]) = [] := by
        rw [sinceOpened_concat, if_pos opens]
      refine ⟨fun _ => ⟨past, ⟨link, step⟩, by rw [since], opens, rfl⟩, fun _ => ?_⟩
      rw [since]
      change (step.run link).connectedOnce = false at unknown
      rw [unknown]
      constructor
      · intro known
        cases known
      · rintro ⟨_, inside, _⟩
        cases inside
  | closed still session =>
      exact ⟨fun opened => absurd session opened, fun opened => absurd session opened⟩
  | kept still session known =>
      change (step.run link).session = link.session at session
      change (step.run link).connectedOnce = _ at known
      have since : sinceOpened (past ++ [⟨link, step⟩]) = sinceOpened past ++ [⟨link, step⟩] := by
        rw [sinceOpened_concat, still]
        rfl
      refine ⟨fun opened => ?_, fun opened => ?_⟩
      · rw [session] at opened ⊢
        obtain ⟨early, opening, parts, opens, same⟩ := remembers.opening opened
        refine ⟨early, opening, ?_, opens, same⟩
        rw [since, ← List.cons_append, ← List.append_assoc, ← parts]
      · rw [session] at opened
        rw [known, since, Bool.or_eq_true, remembers.known opened]
        simp only [List.mem_append, List.mem_singleton, or_and_right, exists_or, exists_eq_left]

theorem Reaches.remembers {start link : Link T} {past : List (Moment T)}
    (bare : start.session = none) (reached : Reaches start past link) : Remembers past link := by
  induction reached with
  | refl => exact ⟨fun opened => absurd bare opened, fun opened => absurd bare opened⟩
  | tail before step ih => exact ih.step step

theorem Reaches.lostConnection_iff {start link : Link T} {past : List (Moment T)}
    (bare : start.session = none) (reached : Reaches start past link) :
    link.lostConnection = true ↔ link.isOpen = true ∧ link.state = .disconnected ∧
      ∃ moment ∈ sinceOpened past, moment.establishes = true := by
  have remembers := reached.remembers bare
  simp only [lostConnection, isOpen, Bool.and_eq_true, beq_iff_eq, Option.isSome_iff_ne_none]
  constructor
  · rintro ⟨⟨opened, known⟩, down⟩
    exact ⟨opened, down, (remembers.known opened).mp known⟩
  · rintro ⟨opened, down, established⟩
    exact ⟨⟨opened, (remembers.known opened).mpr established⟩, down⟩

/-- Whatever happens to a link, it has lost its connection exactly if its session is open, it is
disconnected, and since the moment that opened this very session an event took it from disconnected
to connected.  So after a session was opened nothing is lost until such an event, and after
disconnecting nothing is. -/
theorem lost_iff_established_and_gone (instanceName : String) (aliasName : Option String)
    (transport : T) (operations : List (Operation T)) :
    let start := fresh instanceName aliasName transport
    let link := start.run operations
    let past := start.history operations
    (link.lostConnection = true ↔ link.isOpen = true ∧ link.state = .disconnected ∧
        ∃ moment ∈ sinceOpened past, moment.establishes = true) ∧
      (link.isOpen = true → ∃ early opening, past = early ++ opening :: sinceOpened past ∧
        opening.opens = true ∧ opening.after.session = link.session) ∧
      (link.connect.value.2.isOk = true → ∀ more : List (Operation T),
        (∀ moment ∈ link.connect.value.1.history more, moment.establishes = false) →
          (link.connect.value.1.run more).lostConnection = false) ∧
      link.disconnect.value.1.lostConnection = false := by
  intro start link past
  have reached : Reaches start past link := reaches_run start operations
  refine ⟨reached.lostConnection_iff rfl, fun opened => ?_, fun granted more silent => ?_, ?_⟩
  · exact (reached.remembers rfl).opening (Option.isSome_iff_ne_none.mp opened)
  · rw [Bool.eq_false_iff]
    intro lost
    have later : Reaches start (past ++ [⟨link, .connect⟩] ++ link.connect.value.1.history more)
        (link.connect.value.1.run more) := (reached.tail .connect).operations more
    obtain ⟨_, _, moment, inside, established⟩ := (later.lostConnection_iff rfl).mp lost
    rw [List.append_assoc] at inside
    have opens : (⟨link, .connect⟩ : Moment T).opens = true := granted
    have recent := mem_of_mem_sinceOpened opens inside
    cases (silent moment recent).symm.trans established
  · rw [lostConnection, isOpen, link.disconnect_cases.closes]
    rfl

/-- The peer comes and goes while no session is open; then a session is opened and acknowledged, and
the peer goes again. -/
def comingsAndGoings : List (Operation Simulator) :=
  [.dispatch (.linkStateChanged .connected none), .dispatch (.linkStateChanged .disconnected none),
    .connect, .dispatch (.linkStateChanged .connected none),
    .dispatch (.linkStateChanged .disconnected none)].map .single

example : ((List.range 6).map fun count =>
    ((fresh "line" none ({} : Simulator)).run (comingsAndGoings.take count)).lostConnection) =
      [false, false, false, false, false, true] := by
  decide

end DatasetSync.Link
