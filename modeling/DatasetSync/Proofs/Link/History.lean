import DatasetSync.Proofs.Link.Requests

/-!
# Histories of links

A history is everything that happens to a link, one step at a time: what its owner asks of it, the
inbound events in the order they are applied, and changes of the transport that are not the link's
doing.  Fetching events is not a step of its own; it is a change of the transport and the events it
handed over.

Then come the requests that reach the transport on the way, and last what a step does to one channel
of the table.
-/

namespace DatasetSync.Link

variable {T : Type}

/-- A link as it is made: disconnected, with no session and no channels. -/
def fresh (instanceName : String) (aliasName : Option String) (transport : T) : Link T :=
  { Link.new instanceName transport with aliasName }

/-! ## Changing one channel -/

def changeChannel (link : Link T) (target : ChannelId) (change : Channel → Channel) : Link T :=
  match link.channels[target]? with
  | none => link
  | some owner => link.setChannel target (change owner)

theorem getElem?_changeChannel (link : Link T) (target : ChannelId) (change : Channel → Channel)
    (id : ChannelId) :
    (link.changeChannel target change).channels[id]? =
      link.channels[id]?.map fun channel => if target = id then change channel else channel := by
  unfold changeChannel
  cases found : link.channels[target]? with
  | none =>
      cases there : link.channels[id]? with
      | none => rfl
      | some other =>
          have apart : target ≠ id := by
            intro same
            rw [same, there] at found
            cases found
          rw [Option.map_some, if_neg apart]
  | some owner => exact getElem?_setChannel found change id

theorem changeChannel_frame (link : Link T) (target : ChannelId) (change : Channel → Channel) :
    link.changeChannel target change =
      { link with channels := (link.changeChannel target change).channels } := by
  unfold changeChannel
  cases link.channels[target]? <;> rfl

theorem popInto_link (link : Link T) (target : ChannelId) (destination : Sample) :
    (link.popInto target destination).1 =
      link.changeChannel target (·.afterPop destination) := by
  unfold popInto changeChannel channel
  cases link.channels[target]? with
  | none => rfl
  | some owner => exact congrArg (link.setChannel target) (owner.popInto_fst destination)

theorem takeUpdated_link (link : Link T) (target : ChannelId) :
    (link.takeUpdated target).1 =
      link.changeChannel target fun channel => { channel with updated := false } := by
  unfold takeUpdated changeChannel channel
  cases link.channels[target]? <;> rfl

/-! ## Adding channels -/

/-- What keeps a channel from being added: a session, a name that is taken, or a channel that cannot
be made. -/
inductive Barred (link : Link T) (spec : ChannelSpec) : Obstacle → Prop where
  | opened {session : Session} (opened : link.session = some session) :
      Barred link spec (.refused (.badState "add channel" link.state))
  | taken (closed : link.session = none)
      (taken : link.channels.any (·.name == spec.name) = true) :
      Barred link spec (.refused
        (.config s!"channel '{spec.name}' already exists in link '{link.instanceName}'"))
  | unmade {obstacle : Obstacle} (closed : link.session = none)
      (free : link.channels.any (·.name == spec.name) = false)
      (failed : Channel.new link.channels.length spec = .error obstacle) :
      Barred link spec obstacle

/-- What adding a channel comes to. -/
inductive Adding (link : Link T) (spec : ChannelSpec) :
    Link T → Except Obstacle ChannelId → Prop where
  | refused {obstacle : Obstacle} (barred : Barred link spec obstacle) :
      Adding link spec link (.error obstacle)
  | added {channel : Channel} (closed : link.session = none)
      (free : link.channels.any (·.name == spec.name) = false)
      (made : Channel.new link.channels.length spec = .ok channel) :
      Adding link spec { link with channels := link.channels ++ [channel] }
        (.ok link.channels.length)

theorem addChannel_cases (link : Link T) (spec : ChannelSpec) :
    Adding link spec (link.addChannel spec).1 (link.addChannel spec).2 := by
  unfold addChannel
  by_cases opened : link.isOpen = true
  · obtain ⟨session, there⟩ := Option.isSome_iff_exists.mp opened
    rw [if_pos opened]
    exact .refused (.opened there)
  · have closed : link.session = none := Option.not_isSome_iff_eq_none.mp opened
    rw [if_neg opened]
    cases taken : link.channels.any (·.name == spec.name) with
    | true => exact .refused (.taken closed taken)
    | false =>
        rw [if_neg Bool.false_ne_true]
        cases made : Channel.new link.channels.length spec with
        | error obstacle => exact .refused (.unmade closed taken made)
        | ok channel => exact .added closed taken made

/-- A channel is added only without a session and under a name that no channel has; it is made from
its description and stands at the end of the table. -/
theorem addChannel_granted {link after : Link T} {spec : ChannelSpec} {id : ChannelId}
    (granted : link.addChannel spec = (after, .ok id)) :
    link.session = none ∧ (∀ channel ∈ link.channels, channel.name ≠ spec.name) ∧
      id = link.channels.length ∧
      ∃ channel, Channel.new link.channels.length spec = .ok channel ∧
        after = { link with channels := link.channels ++ [channel] } := by
  have outcome := link.addChannel_cases spec
  rw [granted] at outcome
  cases outcome with
  | added closed free made =>
      refine ⟨closed, fun other inside same => ?_, rfl, _, made, rfl⟩
      exact List.any_eq_false.mp free other inside (beq_iff_eq.mpr same)

theorem Adding.unchanged {link after : Link T} {spec : ChannelSpec} {obstacle : Obstacle}
    (outcome : Adding link spec after (.error obstacle)) : after = link := by
  cases outcome with
  | refused barred => rfl

theorem Adding.channels {link after : Link T} {spec : ChannelSpec}
    {answer : Except Obstacle ChannelId} (outcome : Adding link spec after answer)
    (id : ChannelId) :
    after.channels[id]? = link.channels[id]? ∨
      ∃ channel, link.session = none ∧ id = link.channels.length ∧
        Channel.new id spec = .ok channel ∧ after.channels[id]? = some channel := by
  cases outcome with
  | refused barred => exact .inl rfl
  | @added channel closed free made =>
      rcases Nat.lt_trichotomy id link.channels.length with old | last | beyond
      · exact .inl (List.getElem?_append_left old)
      · subst last
        refine .inr ⟨channel, closed, rfl, made, ?_⟩
        simp
      · refine .inl ?_
        rw [List.getElem?_eq_none (Nat.le_of_lt beyond), List.getElem?_eq_none]
        rw [List.length_append, List.length_singleton]
        exact beyond

/-- Channels that were added in order are made as they were described. -/
theorem addChannels_made {link after : Link T} {specs : List ChannelSpec}
    (built : link.addChannels specs = .ok after)
    (made : ∀ (id : ChannelId) channel, link.channels[id]? = some channel →
      ∃ spec, Channel.Made id spec channel) :
    (∀ (id : ChannelId) channel, after.channels[id]? = some channel →
      ∃ spec, Channel.Made id spec channel) ∧
      after = { link with channels := after.channels } := by
  induction specs generalizing link with
  | nil =>
      cases built
      exact ⟨made, rfl⟩
  | cons spec rest ih =>
      have outcome := link.addChannel_cases spec
      rw [addChannels] at built
      rcases added : link.addChannel spec with ⟨next, obstacle | number⟩
      · rw [added] at built
        cases built
      · rw [added] at outcome built
        obtain ⟨later, same⟩ := ih built fun id channel found => by
          rcases outcome.channels id with kept | ⟨new, _, _, fresh, there⟩
          · exact made id channel (kept.symm.trans found)
          · cases there.symm.trans found
            exact ⟨spec, Channel.made_of_new fresh⟩
        refine ⟨later, same.trans ?_⟩
        cases outcome
        rfl

/-! ## Steps and runs -/

/-- One thing that happens to a link.  Taking a sample out is exchanging it for an empty one. -/
inductive Step (T : Type) where
  | addChannel (spec : ChannelSpec)
  | connect
  | setOperational
  | disconnect
  | publish (id : ChannelId) (payload : List UInt8)
  | popInto (id : ChannelId) (destination : Sample)
  | takeUpdated (id : ChannelId)
  | dispatch (event : InboundEvent)
  /-- The transport changes without the link's doing. -/
  | meanwhile (change : T → T)

inductive Operation (T : Type) where
  | single (step : Step T)
  | process

section Runs

variable [Transport T]

def Step.run (link : Link T) : Step T → Link T
  | .addChannel spec => (link.addChannel spec).1
  | .connect => link.connect.value.1
  | .setOperational => link.setOperational.value.1
  | .disconnect => link.disconnect.value.1
  | .publish id payload => (link.publish id payload).value.1
  | .popInto id destination => (link.popInto id destination).1
  | .takeUpdated id => (link.takeUpdated id).1
  | .dispatch event => (link.dispatch event).value.1
  | .meanwhile change => { link with transport := change link.transport }

def Operation.run (link : Link T) : Operation T → Link T
  | .single step => step.run link
  | .process => link.process.value.1

def Operation.steps (link : Link T) : Operation T → List (Step T)
  | .single step => [step]
  | .process =>
      match link.session with
      | none => []
      | some session =>
          let polled := (Transport.poll link.transport session).value
          .meanwhile (fun _ => polled.1) :: polled.2.map .dispatch

/-- A link that something is about to happen to. -/
structure Moment (T : Type) where
  before : Link T
  step : Step T

def Moment.after (moment : Moment T) : Link T :=
  moment.step.run moment.before

def runSteps (link : Link T) (steps : List (Step T)) : Link T :=
  steps.foldl Step.run link

def moments (link : Link T) : List (Step T) → List (Moment T)
  | [] => []
  | step :: rest => ⟨link, step⟩ :: moments (step.run link) rest

def run (link : Link T) (operations : List (Operation T)) : Link T :=
  operations.foldl Operation.run link

/-- Everything that happens to a link while operations are run in order. -/
def history (link : Link T) : List (Operation T) → List (Moment T)
  | [] => []
  | operation :: rest => moments link (operation.steps link) ++ history (operation.run link) rest

/-- A link comes to be another through the moments of a history. -/
inductive Reaches (start : Link T) : List (Moment T) → Link T → Prop where
  | refl : Reaches start [] start
  | tail {past : List (Moment T)} {link : Link T} (before : Reaches start past link)
      (step : Step T) : Reaches start (past ++ [⟨link, step⟩]) (step.run link)

/-- An operation does what its steps do. -/
theorem Operation.run_eq (link : Link T) (operation : Operation T) :
    operation.run link = runSteps link (operation.steps link) := by
  cases operation with
  | single step => rfl
  | process =>
      unfold Operation.run Operation.steps runSteps
      cases opened : link.session with
      | none => exact (process_closed opened).1
      | some session =>
          rw [(process_opened opened rfl).1, List.foldl_cons, List.foldl_map]
          rfl

namespace Reaches

variable {start middle link : Link T} {past later : List (Moment T)}

theorem trans (first : Reaches start past middle) (second : Reaches middle later link) :
    Reaches start (past ++ later) link := by
  induction second with
  | refl =>
      rw [List.append_nil]
      exact first
  | tail before step ih =>
      rw [← List.append_assoc]
      exact ih.tail step

theorem steps (reached : Reaches start past link) (steps : List (Step T)) :
    Reaches start (past ++ moments link steps) (runSteps link steps) := by
  induction steps generalizing past link with
  | nil => simpa [moments, runSteps] using reached
  | cons step rest ih => simpa [moments, runSteps] using ih (reached.tail step)

theorem operations (reached : Reaches start past link) (operations : List (Operation T)) :
    Reaches start (past ++ history link operations) (link.run operations) := by
  induction operations generalizing past link with
  | nil => simpa [history, run] using reached
  | cons operation rest ih =>
      have first := reached.steps (operation.steps link)
      rw [← operation.run_eq] at first
      simpa [history, run] using ih first

/-- Every moment of a history was reached by the moments before it. -/
theorem of_mem (reached : Reaches start past link) {moment : Moment T} (inside : moment ∈ past) :
    ∃ earlier, Reaches start earlier moment.before := by
  induction reached with
  | refl => cases inside
  | tail before step ih =>
      rcases List.mem_append.mp inside with old | last
      · exact ih old
      · cases List.mem_singleton.mp last
        exact ⟨_, before⟩

/-- What holds at the start and is kept by every step holds of everything reached. -/
theorem invariant {Holds : Link T → Prop} (reached : Reaches start past link)
    (initial : Holds start) (step : ∀ link, Holds link → ∀ step : Step T, Holds (step.run link)) :
    Holds link := by
  induction reached with
  | refl => exact initial
  | tail before next ih => exact step _ ih next

end Reaches

/-- The moments of some steps are about these steps. -/
theorem step_mem_of_mem_moments {link : Link T} {steps : List (Step T)} {moment : Moment T}
    (inside : moment ∈ moments link steps) : moment.step ∈ steps := by
  induction steps generalizing link with
  | nil => cases inside
  | cons step rest ih =>
      rcases List.mem_cons.mp inside with rfl | later
      · exact List.mem_cons_self
      · exact List.mem_cons_of_mem _ (ih later)

/-- A moment of a history belongs to one of the operations. -/
theorem operation_of_mem_history {link : Link T} {operations : List (Operation T)}
    {moment : Moment T} (inside : moment ∈ history link operations) :
    ∃ middle, ∃ operation ∈ operations, moment ∈ moments middle (operation.steps middle) := by
  induction operations generalizing link with
  | nil => cases inside
  | cons operation rest ih =>
      rcases List.mem_append.mp inside with now | later
      · exact ⟨link, operation, List.mem_cons_self, now⟩
      · obtain ⟨middle, other, among, there⟩ := ih later
        exact ⟨middle, other, List.mem_cons_of_mem _ among, there⟩

/-- Operations in order reach their last link through their history. -/
theorem reaches_run (link : Link T) (operations : List (Operation T)) :
    Reaches link (history link operations) (link.run operations) :=
  Reaches.refl.operations operations

theorem run_append (link : Link T) (early late : List (Operation T)) :
    link.run (early ++ late) = (link.run early).run late :=
  List.foldl_append

/-! ## Requests on the way -/

def Step.calls (link : Link T) : Step T → List Call
  | .addChannel _ => []
  | .connect => link.connect.calls
  | .setOperational => link.setOperational.calls
  | .disconnect => link.disconnect.calls
  | .publish id payload => (link.publish id payload).calls
  | .popInto _ _ => []
  | .takeUpdated _ => []
  | .dispatch event => (link.dispatch event).calls
  | .meanwhile _ => []

def Operation.calls (link : Link T) : Operation T → List Call
  | .single step => step.calls link
  | .process => link.process.calls

def callsOf (link : Link T) : List (Operation T) → List Call
  | [] => []
  | operation :: rest => operation.calls link ++ callsOf (operation.run link) rest

/-! ## What a step does to one channel -/

/-- What a step does to the channel with identifier `id`. -/
def Step.act (link : Link T) (id : ChannelId) (channel : Channel) : Step T → Channel
  | .connect => if link.MayConnect then channel.prepare else channel
  | .disconnect => if link.MayDisconnect then channel.reset else channel
  | .publish target payload =>
      if target = id ∧ (link.publish target payload).value.2.isOk = true then
        channel.sentOn payload
      else channel
  | .popInto target destination => if target = id then channel.afterPop destination else channel
  | .takeUpdated target => if target = id then { channel with updated := false } else channel
  | .dispatch event => channel.onEvent id link.state link.nettime event
  | .addChannel _ => channel
  | .setOperational => channel
  | .meanwhile _ => channel

theorem Connecting.channels {link after : Link T} {answer : Except Error Unit}
    {calls : List Call} (outcome : Connecting link after answer calls) (id : ChannelId) :
    after.channels[id]? = link.channels[id]?.map (Step.connect.act link id) := by
  cases outcome with
  | refused shut => simp [Step.act, shut]
  | opened may answer =>
      simp only [Step.act, if_pos may]
      exact List.getElem?_map
  | failed may answer =>
      simp only [Step.act, if_pos may]
      exact List.getElem?_map

theorem Promoting.channels {link after : Link T} {answer : Except Error Unit}
    {calls : List Call} (outcome : Promoting link after answer calls) :
    after.channels = link.channels := by
  cases outcome <;> rfl

theorem Disconnecting.channels {link after : Link T} {answer : Except Error Unit}
    {calls : List Call} (outcome : Disconnecting link after answer calls) (id : ChannelId) :
    after.channels[id]? = link.channels[id]?.map (Step.disconnect.act link id) := by
  cases outcome with
  | refused nothing => simp [Step.act, nothing]
  | closed may =>
      simp only [Step.act, if_pos may]
      exact List.getElem?_map

theorem Publishing.channels {link after : Link T} {target : ChannelId} {payload : List UInt8}
    {answer : Except Error Unit} {calls : List Call}
    (outcome : Publishing link target payload after answer calls) (id : ChannelId) :
    after.channels[id]? = link.channels[id]?.map fun channel =>
      if target = id ∧ answer.isOk = true then channel.sentOn payload else channel := by
  cases outcome with
  | refused harmless waits => simp [Except.isOk, Except.toBool]
  | failed found takes opened connected answer =>
      simp [Except.isOk, Except.toBool, refusedBy]
  | sent found takes opened connected answer =>
      simp only [Except.isOk, Except.toBool, and_true]
      exact getElem?_setChannel found (·.sentOn payload) id

/-- A step changes the channels there are, each by itself, or adds one at the end. -/
theorem run_channels (link : Link T) (step : Step T) (id : ChannelId) :
    (step.run link).channels[id]? = link.channels[id]?.map (step.act link id) ∨
      ∃ spec channel, step = .addChannel spec ∧ link.session = none ∧
        id = link.channels.length ∧ Channel.new id spec = .ok channel ∧
        (step.run link).channels[id]? = some channel := by
  cases step with
  | addChannel spec =>
      rcases (addChannel_cases link spec).channels id with
        kept | ⟨channel, closed, last, made, there⟩
      · refine .inl ?_
        simp [Step.run, kept, Step.act]
      · exact .inr ⟨spec, channel, rfl, closed, last, made, there⟩
  | connect => exact .inl ((connect_cases link).channels id)
  | setOperational =>
      refine .inl ?_
      simp [Step.run, (setOperational_cases link).channels, Step.act]
  | disconnect => exact .inl ((disconnect_cases link).channels id)
  | publish target payload => exact .inl ((publish_cases link target payload).channels id)
  | popInto target destination =>
      refine .inl ?_
      simp only [Step.run, popInto_link, getElem?_changeChannel]
      rfl
  | takeUpdated target =>
      refine .inl ?_
      simp only [Step.run, takeUpdated_link, getElem?_changeChannel]
      rfl
  | dispatch event => exact .inl ((dispatch_spec link event).1.channels id)
  | meanwhile change =>
      refine .inl ?_
      simp [Step.run, Step.act]

/-- What a step leaves alone in each channel stays as it is in all of them, unless one is added. -/
theorem Step.map_channels {α : Type} {link : Link T} {step : Step T} {read : Channel → α}
    (other : ∀ spec, step ≠ .addChannel spec)
    (kept : ∀ (id : ChannelId) channel, link.channels[id]? = some channel →
      read (step.act link id channel) = read channel) :
    (step.run link).channels.map read = link.channels.map read := by
  refine List.ext_getElem? fun id => ?_
  have channels := (run_channels link step id).resolve_right fun ⟨spec, _, same, _⟩ =>
    other spec same
  rw [List.getElem?_map, List.getElem?_map, channels, Option.map_map]
  cases found : link.channels[id]? with
  | none => rfl
  | some channel => exact congrArg some (kept id channel found)

end Runs

end DatasetSync.Link
