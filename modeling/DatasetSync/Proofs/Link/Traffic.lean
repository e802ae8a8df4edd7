import DatasetSync.Proofs.Link.Sessions
import DatasetSync.Proofs.Link.Table

/-!
# Traffic on the wire

Three parties keep books about what a link sends: each channel counts its payloads, the transport
counts all of them and their bytes, and the wire has the frames.  A channel is charged after its
payload was sent, with several refusals on the way, and still the books never part: every moment of
a history is entered in all three or in none.
-/

namespace DatasetSync

theorem payloadsOn_concat (id : ChannelId) (frames : List Frame) (frame : Frame) :
    payloadsOn id (frames ++ [frame]) =
      if frame.channel = id then payloadsOn id frames ++ [frame.payload]
      else payloadsOn id frames := by
  rw [payloadsOn_append]
  by_cases same : frame.channel = id
  · simp [payloadsOn, same]
  · simp [payloadsOn, same]

/-! ## The account of a channel -/

structure Account where
  byteSize : Nat
  published : Nat
  /-- The value, if none can come in. -/
  shown : Option (List UInt8)

namespace Account

def opened (spec : ChannelSpec) : Account where
  byteSize := spec.byteSize
  published := 0
  shown := if spec.direction.canSubscribe then none else some (List.replicate spec.byteSize 0)

def charged (account : Account) (payload : List UInt8) : Account :=
  { account with
    published := account.published + 1
    shown := account.shown.map fun _ => payload }

/-- An account tells the truth about the payloads that were sent. -/
structure Tallies (account : Account) (payloads : List (List UInt8)) : Prop where
  counted : payloads.length = account.published
  fits {payload : List UInt8} (inside : payload ∈ payloads) : payload.length = account.byteSize
  shown {bytes : List UInt8} (shows : account.shown = some bytes) :
    bytes = payloads.getLast?.getD (List.replicate account.byteSize 0)

theorem opened_tallies (spec : ChannelSpec) : (opened spec).Tallies [] := by
  constructor
  · rfl
  · intro payload inside
    cases inside
  · intro bytes shows
    simp only [opened] at shows
    split at shows
    · cases shows
    · cases shows
      rfl

theorem Tallies.charged {account : Account} {payloads : List (List UInt8)} {payload : List UInt8}
    (tallies : account.Tallies payloads) (fits : payload.length = account.byteSize) :
    (account.charged payload).Tallies (payloads ++ [payload]) := by
  constructor
  · simp [Account.charged, tallies.counted]
  · intro other inside
    rcases List.mem_append.mp inside with old | last
    · exact tallies.fits old
    · rw [List.mem_singleton.mp last]
      exact fits
  · intro bytes shows
    obtain ⟨_, _, rfl⟩ := Option.map_eq_some_iff.mp shows
    simp

end Account

namespace Channel

def account (channel : Channel) : Account where
  byteSize := channel.byteSize
  published := channel.published
  shown := if channel.direction.canSubscribe then none else some channel.value.bytes

theorem Made.account_eq {id : ChannelId} {spec : ChannelSpec} {channel : Channel}
    (made : Made id spec channel) : channel.account = .opened spec := by
  simp [account, Account.opened, byteSize, made.value_eq, made.published_eq, made.direction_eq,
    Dataset.zeros, Dataset.size]

theorem Takes.account_eq {channel : Channel} {payload : List UInt8}
    (takes : channel.Takes payload) :
    (channel.sentOn payload).account = channel.account.charged payload := by
  have fits := takes.fits
  simp only [account, sentOn, Account.charged, byteSize, Dataset.size] at fits ⊢
  rw [fits]
  by_cases hears : channel.direction.canSubscribe = true <;> simp [hears]

/-- A value that comes in is not on account. -/
theorem Receiving.account_eq {channel after : Channel} {payload : List UInt8}
    {sent now : Nettime} {answer : Except Error Reception}
    (received : Receiving channel payload sent now after answer) :
    after.account = channel.account := by
  cases received with
  | unwanted deaf => rfl
  | misfit wanted misfits => rfl
  | replaced wanted fits single =>
      simp only [account, byteSize, Dataset.size, wanted, if_true] at fits ⊢
      rw [fits]
  | queued wanted fits buffered room => rfl
  | overflowed wanted fits buffered full => rfl

theorem onEvent_account (channel : Channel) (id : ChannelId) (link : ConnectionState)
    (now : Nettime) (event : InboundEvent) :
    (channel.onEvent id link now event).account = channel.account := by
  rcases channel.onEvent_cases id link now event with
    ⟨_, _, _, _, moved⟩ | ⟨_, _, _, received⟩
  · rw [moved]
    rfl
  · exact received.account_eq

end Channel

/-! ## The books -/

/-- The frames on the wire, the accounts of the channels and the counts of the transport agree. -/
structure Balanced (frames : List Frame) (accounts : List Account) (traffic : Traffic) : Prop where
  known {frame : Frame} (inside : frame ∈ frames) : frame.channel < accounts.length
  tallies {id : ChannelId} {account : Account} (found : accounts[id]? = some account) :
    account.Tallies (payloadsOn id frames)
  sent : traffic.sent = (accounts.map Account.published).sum
  bytes : traffic.bytes = (accounts.map fun account => account.published * account.byteSize).sum

namespace Balanced

variable {frames : List Frame} {accounts : List Account} {traffic later : Traffic}

theorem nil : Balanced [] [] Traffic.none := by
  constructor
  · intro frame inside
    cases inside
  · intro id account found
    cases found
  · rfl
  · rfl

/-- Counts of other things have no part in it. -/
theorem same (balanced : Balanced frames accounts traffic) (sent : later.sent = traffic.sent)
    (bytes : later.bytes = traffic.bytes) : Balanced frames accounts later :=
  ⟨balanced.known, balanced.tallies, sent.trans balanced.sent, bytes.trans balanced.bytes⟩

/-- No frame was ever sent on a channel that is new. -/
theorem payloadsOn_new (balanced : Balanced frames accounts traffic) :
    payloadsOn accounts.length frames = [] := by
  rw [payloadsOn, List.map_eq_nil_iff, List.filter_eq_nil_iff]
  intro frame inside same
  have place : frame.channel = accounts.length := beq_iff_eq.mp same
  exact Nat.lt_irrefl _ (place ▸ balanced.known inside)

theorem add (balanced : Balanced frames accounts traffic) (spec : ChannelSpec) :
    Balanced frames (accounts ++ [.opened spec]) traffic := by
  constructor
  · intro frame inside
    rw [List.length_append]
    exact Nat.lt_add_right _ (balanced.known inside)
  · intro id account found
    rcases Nat.lt_or_ge id accounts.length with old | beyond
    · rw [List.getElem?_append_left old] at found
      exact balanced.tallies found
    · rw [List.getElem?_append_right beyond, List.getElem?_singleton] at found
      split at found
      · rename_i last
        cases found
        rw [Nat.le_antisymm (Nat.le_of_sub_eq_zero last) beyond, balanced.payloadsOn_new]
        exact Account.opened_tallies spec
      · cases found
  · simp [balanced.sent, Account.opened]
  · simp [balanced.bytes, Account.opened]

theorem send (balanced : Balanced frames accounts traffic) {id : ChannelId} {account : Account}
    {payload : List UInt8} (found : accounts[id]? = some account)
    (fits : payload.length = account.byteSize) (session : Session)
    (sent : later.sent = traffic.sent + 1) (bytes : later.bytes = traffic.bytes + payload.length) :
    Balanced (frames ++ [⟨session, id, payload⟩]) (accounts.set id (account.charged payload))
      later := by
  constructor
  · intro frame inside
    rw [List.length_set]
    rcases List.mem_append.mp inside with old | last
    · exact balanced.known old
    · rw [List.mem_singleton.mp last]
      exact (List.getElem?_eq_some_iff.mp found).1
  · intro other entry there
    rw [getElem?_set_eq_map found (·.charged payload)] at there
    obtain ⟨before, present, rfl⟩ := Option.map_eq_some_iff.mp there
    rw [payloadsOn_concat]
    -- One account is charged; on all other channels there is no new frame.
    by_cases same : id = other
    · subst same
      cases found.symm.trans present
      rw [if_pos rfl, if_pos rfl]
      exact (balanced.tallies found).charged fits
    · rw [if_neg same, if_neg same]
      exact balanced.tallies present
  · have total := sum_map_set found (account.charged payload) Account.published
    have counted : (account.charged payload).published = account.published + 1 := rfl
    have before := balanced.sent
    omega
  · have total := sum_map_set found (account.charged payload)
      fun account => account.published * account.byteSize
    have counted : (account.charged payload).published * (account.charged payload).byteSize =
        account.published * account.byteSize + account.byteSize := Nat.succ_mul _ _
    have before := balanced.bytes
    simp only [counted] at total
    omega

end Balanced

namespace Link

/-! ## What a moment enters in the books -/

section Accounts

variable {T : Type}

def accounts (link : Link T) : List Account :=
  link.channels.map Channel.account

theorem accounts_eq_some {link : Link T} {id : ChannelId} {channel : Channel}
    (found : link.channels[id]? = some channel) : link.accounts[id]? = some channel.account := by
  rw [accounts, List.getElem?_map, found, Option.map_some]

variable [Transport T]

def abortedBy : Except Error Unit → Bool
  | .ok _ => false
  | .error error => error.kind == .transportAborted

/-- The owner wanted to send a payload, and the transport refused it. -/
def Moment.refused (moment : Moment T) : Bool :=
  match moment.step with
  | .publish id payload => abortedBy (moment.before.publish id payload).value.2
  | _ => false

def Step.Passive : Step T → Prop
  | .addChannel _ => False
  | .publish _ _ => False
  | _ => True

/-- A passive step is not entered in any account. -/
theorem Step.accounts_run {step : Step T} (passive : step.Passive) (link : Link T) :
    (step.run link).accounts = link.accounts := by
  apply Step.map_channels
  · rintro spec rfl
    exact passive
  · intro id channel found
    cases step with
    | addChannel spec => exact passive.elim
    | connect =>
        rw [Step.act]
        split <;> rfl
    | setOperational => rfl
    | disconnect =>
        rw [Step.act]
        split <;> rfl
    | publish target payload => exact passive.elim
    | popInto target destination =>
        rw [Step.act]
        split <;> rfl
    | takeUpdated target =>
        rw [Step.act]
        split <;> rfl
    | dispatch event => exact channel.onEvent_account id link.state link.nettime event
    | meanwhile change => rfl

end Accounts

def Moment.frames (moment : Moment Simulator) : List Frame :=
  moment.after.transport.frames.drop moment.before.transport.frames.length

def wire (past : List (Moment Simulator)) : List Frame :=
  past.flatMap Moment.frames

/-- What a moment enters in the books. -/
inductive Moment.Posting (moment : Moment Simulator) : Prop where
  | idle (granted : moment.refused = false)
      (same : moment.before.transport.SameTraffic moment.after.transport)
      (accounts : moment.after.accounts = moment.before.accounts)
  | added {spec : ChannelSpec} (granted : moment.refused = false)
      (same : moment.before.transport.SameTraffic moment.after.transport)
      (accounts : moment.after.accounts = moment.before.accounts ++ [.opened spec])
  | failed (refused : moment.refused = true)
      (frames : moment.after.transport.frames = moment.before.transport.frames)
      (counted : moment.after.transport.traffic.sent = moment.before.transport.traffic.sent ∧
        moment.after.transport.traffic.bytes = moment.before.transport.traffic.bytes ∧
        moment.after.transport.traffic.failed = moment.before.transport.traffic.failed + 1)
      (accounts : moment.after.accounts = moment.before.accounts)
  | sent {id : ChannelId} {payload : List UInt8} {session : Session} {account : Account}
      (granted : moment.refused = false) (asked : moment.step = .publish id payload)
      (opened : moment.before.session = some session)
      (found : moment.before.accounts[id]? = some account)
      (fits : payload.length = account.byteSize)
      (frames : moment.after.transport.frames =
        moment.before.transport.frames ++ [⟨session, id, payload⟩])
      (counted : moment.after.transport.traffic.sent = moment.before.transport.traffic.sent + 1 ∧
        moment.after.transport.traffic.bytes =
          moment.before.transport.traffic.bytes + payload.length ∧
        moment.after.transport.traffic.failed = moment.before.transport.traffic.failed)
      (accounts : moment.after.accounts = moment.before.accounts.set id (account.charged payload))

section Requests

variable {link after : Link Simulator} {answer : Except Error Unit} {calls : List Call}

theorem Connecting.sameTraffic (outcome : Connecting link after answer calls) :
    link.transport.SameTraffic after.transport := by
  cases outcome with
  | refused shut => exact .refl _
  | opened may granted =>
      have same := link.transport.register_sameTraffic link.instanceName
        (link.prepare.channels.map Channel.descriptor)
      rw [granted] at same
      exact same
  | failed may refused =>
      have same := link.transport.register_sameTraffic link.instanceName
        (link.prepare.channels.map Channel.descriptor)
      rw [refused] at same
      exact same

theorem Promoting.sameTraffic (outcome : Promoting link after answer calls) :
    link.transport.SameTraffic after.transport := by
  cases outcome with
  | refused unfit => exact .refl _
  | @asked _ session connected opened granted =>
      have same := link.transport.promote_sameTraffic session
      rw [granted] at same
      exact same
  | @failed _ session _ connected opened refused =>
      have same := link.transport.promote_sameTraffic session
      rw [refused] at same
      exact same

theorem Disconnecting.sameTraffic (outcome : Disconnecting link after answer calls) :
    link.transport.SameTraffic after.transport := by
  cases outcome with
  | refused nothing => exact .refl _
  | closed may =>
      change link.transport.SameTraffic link.closedTransport
      unfold closedTransport
      split
      · exact .refl _
      · exact link.transport.deregister_sameTraffic _

/-- A payload is sent, or refused by the transport, or nothing happens at all. -/
theorem Publishing.posting {id : ChannelId} {payload : List UInt8}
    (outcome : Publishing link id payload after answer calls)
    (value : (link.publish id payload).value = (after, answer))
    (agrees : link.transport.session = link.session) :
    (Moment.mk link (.publish id payload)).Posting := by
  have ends : (Moment.mk link (.publish id payload)).after = after := congrArg Prod.fst value
  have told : (Moment.mk link (.publish id payload)).refused = abortedBy answer := by
    change abortedBy (link.publish id payload).value.2 = _
    rw [value]
  cases outcome with
  | @refused error harmless waits =>
      apply Moment.Posting.idle
      · rw [told, abortedBy]
        exact beq_eq_false_iff_ne.mpr harmless
      · rw [ends]
        exact .refl _
      · rw [ends]
  | failed found takes opened connected refused =>
      -- A handle that is not open would be refused without a count, but the sessions agree.
      apply Moment.Posting.failed
      · rw [told]
        rfl
      · rw [ends]
        exact (Simulator.send_refused refused).frames
      · rw [ends]
        exact Simulator.send_failure_counted (agrees.trans opened) refused
      · rw [ends]
        rfl
  | @sent channel session transport found takes opened connected granted =>
      refine .sent ?_ rfl opened (accounts_eq_some found) takes.fits ?_ ?_ ?_
      · rw [told]
        rfl
      · rw [ends]
        exact (Simulator.send_granted granted).1
      · rw [ends]
        exact Simulator.send_counted granted
      · rw [ends, ← takes.account_eq]
        exact List.map_set

/-- A channel opens an account when it is added. -/
theorem Adding.posting {spec : ChannelSpec} {answer : Except Obstacle ChannelId}
    (outcome : Adding link spec after answer) (value : (link.addChannel spec).1 = after) :
    (Moment.mk link (.addChannel spec)).Posting := by
  have ends : (Moment.mk link (.addChannel spec)).after = after := value
  cases outcome with
  | refused barred =>
      refine .idle rfl ?_ ?_
      · rw [ends]
        exact .refl _
      · rw [ends]
  | @added channel closed free made =>
      have opens : (Moment.mk link (.addChannel spec)).after.accounts =
          link.accounts ++ [.opened spec] := by
        rw [ends, ← (Channel.made_of_new made).account_eq]
        exact List.map_append
      refine .added rfl ?_ opens
      rw [ends]
      exact .refl _

end Requests

/-- Every step is entered in the books, as long as the link and the transport agree on the session
and the transport sends nothing by itself. -/
theorem Moment.posting (moment : Moment Simulator)
    (agrees : moment.before.transport.session = moment.before.session)
    (silent : ∀ change, moment.step = .meanwhile change →
      moment.before.transport.SameTraffic (change moment.before.transport)) :
    moment.Posting := by
  obtain ⟨link, step⟩ := moment
  have idle (passive : step.Passive)
      (same : link.transport.SameTraffic (step.run link).transport) :
      (Moment.mk link step).Posting := by
    refine .idle ?_ same (Step.accounts_run passive link)
    cases step with
    | publish id payload => exact passive.elim
    | _ => rfl
  cases step with
  | addChannel spec => exact (link.addChannel_cases spec).posting rfl
  | connect => exact idle trivial link.connect_cases.sameTraffic
  | setOperational => exact idle trivial link.setOperational_cases.sameTraffic
  | disconnect => exact idle trivial link.disconnect_cases.sameTraffic
  | publish id payload => exact (link.publish_cases id payload).posting rfl agrees
  | popInto id destination =>
      refine idle trivial ?_
      rw [Step.run, popInto_link, changeChannel_frame]
      exact .refl _
  | takeUpdated id =>
      refine idle trivial ?_
      rw [Step.run, takeUpdated_link, changeChannel_frame]
      exact .refl _
  | dispatch event =>
      refine idle trivial ?_
      rw [Step.run, (link.dispatch_spec event).1.transport]
      exact .refl _
  | meanwhile change => exact idle trivial (silent change rfl)

/-! ## Whole histories -/

namespace Moment

variable {moment : Moment Simulator}

theorem frames_of_same (same : moment.before.transport.SameTraffic moment.after.transport) :
    moment.frames = [] := by
  rcases same.frames with kept | fetched
  · rw [frames, kept, List.drop_length]
  · rw [frames, fetched, List.drop_nil]

/-- What is put on the wire goes out in the session that is open, as the owner asked. -/
theorem Posting.signed (posting : moment.Posting) {frame : Frame} (inside : frame ∈ moment.frames) :
    moment.before.session = some frame.session ∧
      moment.step = .publish frame.channel frame.payload := by
  cases posting with
  | idle granted same accounts =>
      rw [frames_of_same same] at inside
      cases inside
  | added granted same accounts =>
      rw [frames_of_same same] at inside
      cases inside
  | failed refused kept counted accounts =>
      rw [frames, kept, List.drop_length] at inside
      cases inside
  | sent granted asked opened found fits more counted accounts =>
      rw [frames, more, List.drop_left] at inside
      cases List.mem_singleton.mp inside
      exact ⟨opened, asked⟩

end Moment

structure Books (past : List (Moment Simulator)) (link : Link Simulator) : Prop where
  balanced : Balanced (wire past) link.accounts link.transport.traffic
  failed : link.transport.traffic.failed = past.countP Moment.refused
  /-- What the peer has not fetched yet went out last. -/
  waiting : link.transport.frames <:+ wire past

namespace Books

variable {past : List (Moment Simulator)} {moment : Moment Simulator}

theorem wire_concat (past : List (Moment Simulator)) (moment : Moment Simulator) :
    wire (past ++ [moment]) = wire past ++ moment.frames := by
  simp [wire]

/-- A moment without traffic. -/
theorem quiet (books : Books past moment.before) (granted : moment.refused = false)
    (same : moment.before.transport.SameTraffic moment.after.transport)
    (balanced : Balanced (wire past) moment.after.accounts moment.before.transport.traffic) :
    Books (past ++ [moment]) moment.after := by
  constructor
  · rw [wire_concat, Moment.frames_of_same same, List.append_nil]
    exact balanced.same same.sent same.bytes
  · rw [same.failed, books.failed]
    simp [List.countP_append, granted]
  · rw [wire_concat, Moment.frames_of_same same, List.append_nil]
    rcases same.frames with kept | fetched
    · rw [kept]
      exact books.waiting
    · rw [fetched]
      exact List.nil_suffix

/-- A moment is entered in the books, and they balance again. -/
theorem post (books : Books past moment.before) (posting : moment.Posting) :
    Books (past ++ [moment]) moment.after := by
  cases posting with
  | idle granted same accounts =>
      apply books.quiet granted same
      rw [accounts]
      exact books.balanced
  | @added spec granted same accounts =>
      apply books.quiet granted same
      rw [accounts]
      exact books.balanced.add spec
  | failed refused kept counted accounts =>
      have nothing : moment.frames = [] := by rw [Moment.frames, kept, List.drop_length]
      obtain ⟨sent, bytes, failed⟩ := counted
      constructor
      · rw [wire_concat, nothing, List.append_nil, accounts]
        exact books.balanced.same sent bytes
      · rw [failed, books.failed]
        simp [List.countP_append, refused]
      · rw [wire_concat, nothing, List.append_nil, kept]
        exact books.waiting
  | @sent id payload session account granted asked opened found fits more counted accounts =>
      have one : moment.frames = [⟨session, id, payload⟩] := by
        rw [Moment.frames, more, List.drop_left]
      obtain ⟨sent, bytes, failed⟩ := counted
      constructor
      · rw [wire_concat, one, accounts]
        exact books.balanced.send found fits session sent bytes
      · rw [failed, books.failed]
        simp [List.countP_append, granted]
      · rw [wire_concat, one, more]
        obtain ⟨early, whole⟩ := books.waiting
        exact ⟨early, by rw [← whole, List.append_assoc]⟩

end Books

theorem Reaches.books {start link : Link Simulator} {past : List (Moment Simulator)}
    (reached : Reaches start past link) (initial : Books [] start)
    (postings : ∀ moment ∈ past, moment.Posting) : Books past link := by
  induction reached with
  | refl => exact initial
  | @tail past link before step ih =>
      rw [List.forall_mem_append, List.forall_mem_singleton] at postings
      exact (ih postings.1).post postings.2

/-- A transport that changes of itself sends nothing: it is polled, or its peer changes it. -/
theorem Operation.sameTraffic {operation : Operation Simulator} (fair : operation.ByPeer)
    {link : Link Simulator} {moment : Moment Simulator}
    (inside : moment ∈ moments link (operation.steps link)) {change : Simulator → Simulator}
    (meanwhile : moment.step = .meanwhile change) :
    moment.before.transport.SameTraffic (change moment.before.transport) := by
  cases operation with
  | single step =>
      cases List.mem_singleton.mp inside
      cases meanwhile
      obtain ⟨action, rfl⟩ := fair
      exact action.act_sameTraffic link.transport
  | process =>
      simp only [Operation.steps] at inside
      split at inside
      · cases inside
      · rename_i session opened
        rcases List.mem_cons.mp inside with rfl | later
        · cases meanwhile
          exact link.transport.poll_sameTraffic session
        · obtain ⟨event, _, same⟩ := List.mem_map.mp (step_mem_of_mem_moments later)
          cases same.trans meanwhile

/-- Whatever the owner of a new link and the peer do, every channel has counted the frames that went
out on it, each of its size, and a channel that takes nothing in shows the last of them.  Every
frame went out in the session that was open when it was published.  The transport has counted all of
them, their bytes, and the payloads that it refused. -/
theorem publications_match_the_wire (instanceName : String) (aliasName : Option String)
    (operations : List (Operation Simulator)) (fair : ∀ operation ∈ operations, operation.ByPeer) :
    let start := Link.fresh instanceName aliasName ({} : Simulator)
    let link := start.run operations
    let past := start.history operations
    (∀ (id : ChannelId) channel, link.channels[id]? = some channel →
        (payloadsOn id (wire past)).length = channel.published ∧
        (∀ payload ∈ payloadsOn id (wire past), payload.length = channel.byteSize) ∧
        (channel.direction = .publish → channel.value.bytes =
          (payloadsOn id (wire past)).getLast?.getD (List.replicate channel.byteSize 0))) ∧
      (∀ frame ∈ wire past, ∃ channel, link.channels[frame.channel]? = some channel) ∧
      (∀ moment ∈ past, ∀ frame ∈ moment.frames,
        moment.before.session = some frame.session ∧
          moment.step = .publish frame.channel frame.payload) ∧
      link.transport.frames <:+ wire past ∧
      link.transport.traffic.sent = (link.channels.map Channel.published).sum ∧
      link.transport.traffic.bytes =
        (link.channels.map fun channel => channel.published * channel.byteSize).sum ∧
      link.transport.traffic.failed = past.countP Moment.refused := by
  intro start link past
  have postings : ∀ moment ∈ past, moment.Posting := by
    intro moment inside
    refine moment.posting ((fresh_ledger instanceName aliasName).history fair inside) ?_
    intro change meanwhile
    obtain ⟨middle, operation, among, there⟩ := operation_of_mem_history inside
    exact Operation.sameTraffic (fair operation among) there meanwhile
  have books : Books past link :=
    (reaches_run start operations).books ⟨.nil, rfl, List.suffix_rfl⟩ postings
  refine ⟨?_, ?_, ?_, books.waiting, ?_, ?_, books.failed⟩
  · intro id channel found
    have tallies := books.balanced.tallies (accounts_eq_some found)
    refine ⟨tallies.counted, fun payload inside => tallies.fits inside, fun mute => ?_⟩
    apply tallies.shown
    rw [Channel.account, mute]
    rfl
  · intro frame inside
    have known := books.balanced.known inside
    rw [accounts, List.length_map] at known
    exact ⟨_, List.getElem?_eq_getElem known⟩
  · intro moment inside frame there
    exact (postings moment inside).signed there
  · rw [books.balanced.sent, accounts, List.map_map]
    rfl
  · rw [books.balanced.bytes, accounts, List.map_map]
    rfl

/-- A payload is refused and ends the first session; in the second one the peer has fetched the
first frame before two more go out. -/
def refusedOnce : List (Operation Simulator) :=
  [.single (.addChannel ⟨"setpoint", .publish, 1, none⟩),
    .single (.addChannel ⟨"samples", .both, 2, none⟩), .single .connect, .process,
    .single (.publish 0 [5]),
    .single (.meanwhile fun sim => (PeerAction.failSend abortedByTransport).act sim),
    .single (.publish 0 [6]), .single .disconnect, .single .connect, .process,
    .single (.meanwhile fun sim => PeerAction.takeFrames.act sim),
    .single (.publish 1 [1, 2]), .single (.publish 0 [7])]

theorem refused_payload_is_on_no_account :
    let start := Link.fresh "line" none ({} : Simulator)
    let link := start.run refusedOnce
    (∀ operation ∈ refusedOnce, operation.ByPeer) ∧
      wire (start.history refusedOnce) = [⟨1, 0, [5]⟩, ⟨2, 1, [1, 2]⟩, ⟨2, 0, [7]⟩] ∧
      (link.channels[0]?.map fun channel => (channel.published, channel.value.bytes)) =
        some (2, [7]) ∧
      link.transport.frames <:+ [⟨1, 0, [5]⟩, ⟨2, 1, [1, 2]⟩, ⟨2, 0, [7]⟩] ∧
      link.transport.traffic.sent = 3 ∧ link.transport.traffic.bytes = 4 ∧
      link.transport.traffic.failed = 1 := by
  have fair : ∀ operation ∈ refusedOnce, operation.ByPeer := by
    simp only [refusedOnce, List.forall_mem_cons, Operation.ByPeer, true_and]
    exact ⟨⟨.failSend abortedByTransport, rfl⟩, ⟨.takeFrames, rfl⟩, fun _ inside => by cases inside⟩
  have account := publications_match_the_wire "line" none refusedOnce fair
  have sent : wire ((Link.fresh "line" none ({} : Simulator)).history refusedOnce) =
      [⟨1, 0, [5]⟩, ⟨2, 1, [1, 2]⟩, ⟨2, 0, [7]⟩] := by decide +kernel
  have refused : ((Link.fresh "line" none ({} : Simulator)).history refusedOnce).countP
      Moment.refused = 1 := by decide +kernel
  have first : (((Link.fresh "line" none ({} : Simulator)).run refusedOnce).channels[0]?.map
      Channel.direction) = some .publish := by decide +kernel
  have total : (((Link.fresh "line" none ({} : Simulator)).run refusedOnce).channels.map
      Channel.published).sum = 3 := by decide +kernel
  have size : (((Link.fresh "line" none ({} : Simulator)).run refusedOnce).channels.map
      fun channel => channel.published * channel.byteSize).sum = 4 := by decide +kernel
  -- From here on the account speaks for the run, which need not be computed again.
  generalize refusedOnce = operations at *
  obtain ⟨channels, _, _, waiting, counted, bytes, failed⟩ := account
  refine ⟨fair, sent, ?_, sent ▸ waiting, counted.trans total, bytes.trans size,
    failed.trans refused⟩
  obtain ⟨channel, found, direction⟩ := Option.map_eq_some_iff.mp first
  obtain ⟨published, _, shown⟩ := channels 0 channel found
  rw [sent] at published shown
  rw [found, Option.map_some, ← published, shown direction]
  rfl

end Link

end DatasetSync
