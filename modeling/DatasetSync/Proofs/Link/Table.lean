import DatasetSync.Link.Setup
import DatasetSync.Proofs.Link.Samples

/-!
# The table of channels

The table of a link is what it announces of its channels: the place, the name, the size and the
direction of each.  It grows at the end while no session is open, and changes in no other way.  So
it stays as sound as it was made, and in a session it is the one the transport was told.
-/

namespace DatasetSync

/-! ## What is announced of a channel -/

namespace Channel

theorem Receiving.descriptor_eq {channel after : Channel} {payload : List UInt8}
    {sent now : Nettime} {answer : Except Error Reception}
    (received : Receiving channel payload sent now after answer) :
    after.descriptor = channel.descriptor := by
  cases received with
  | unwanted deaf => rfl
  | misfit wanted misfits => rfl
  | replaced wanted fits single =>
      simp only [descriptor, byteSize, Dataset.size] at fits ⊢
      rw [fits]
  | queued wanted fits buffered room => rfl
  | overflowed wanted fits buffered full => rfl

/-- No inbound event changes what is announced of a channel. -/
theorem onEvent_descriptor (channel : Channel) (id : ChannelId) (link : ConnectionState)
    (now : Nettime) (event : InboundEvent) :
    (channel.onEvent id link now event).descriptor = channel.descriptor := by
  rcases channel.onEvent_cases id link now event with
    ⟨_, _, _, _, moved⟩ | ⟨_, _, _, received⟩
  · rw [moved]
    rfl
  · exact received.descriptor_eq

/-- A payload that is sent has the size that was announced. -/
theorem Takes.descriptor_eq {channel : Channel} {payload : List UInt8}
    (takes : channel.Takes payload) : (channel.sentOn payload).descriptor = channel.descriptor := by
  have fits := takes.fits
  simp only [descriptor, sentOn, byteSize, Dataset.size] at fits ⊢
  rw [fits]

end Channel

/-! ## Tables -/

/-- A table is in order: every entry names its own place, every name is there once and has letters,
and every size is positive. -/
structure SoundTable (table : List Descriptor) : Prop where
  place {id : ChannelId} {entry : Descriptor} (found : table[id]? = some entry) : entry.id = id
  named {entry : Descriptor} (inside : entry ∈ table) : entry.name ≠ ""
  sized {entry : Descriptor} (inside : entry ∈ table) : 0 < entry.byteSize
  distinct : (table.map Descriptor.name).Nodup

namespace SoundTable

variable {table : List Descriptor} {entry : Descriptor}

theorem nil : SoundTable [] := by
  constructor
  · intro id entry found
    cases found
  · intro entry inside
    cases inside
  · intro entry inside
    cases inside
  · exact List.nodup_nil

/-- A new entry at the end, under a new name. -/
theorem concat (sound : SoundTable table) (place : entry.id = table.length)
    (named : entry.name ≠ "") (sized : 0 < entry.byteSize)
    (unused : ∀ other ∈ table, other.name ≠ entry.name) : SoundTable (table ++ [entry]) := by
  constructor
  · intro id other found
    rcases Nat.lt_or_ge id table.length with old | beyond
    · rw [List.getElem?_append_left old] at found
      exact sound.place found
    · rw [List.getElem?_append_right beyond, List.getElem?_singleton] at found
      split at found
      · rename_i last
        cases found
        exact place.trans (Nat.le_antisymm beyond (Nat.le_of_sub_eq_zero last))
      · cases found
  · intro other inside
    rcases List.mem_append.mp inside with old | new
    · exact sound.named old
    · rw [List.mem_singleton.mp new]
      exact named
  · intro other inside
    rcases List.mem_append.mp inside with old | new
    · exact sound.sized old
    · rw [List.mem_singleton.mp new]
      exact sized
  · rw [List.map_append, List.map_singleton, List.nodup_append]
    refine ⟨sound.distinct, List.nodup_singleton _, ?_⟩
    intro name inside last added same
    obtain ⟨other, there, rfl⟩ := List.mem_map.mp inside
    rw [List.mem_singleton.mp added] at same
    exact unused other there same

/-- Entries with the same name are at the same place. -/
theorem place_unique (sound : SoundTable table) {first second : ChannelId} {left right : Descriptor}
    (found : table[first]? = some left) (beside : table[second]? = some right)
    (same : left.name = right.name) : first = second := by
  have entry : left = right := List.inj_on_of_nodup_map sound.distinct
    (List.mem_of_getElem? found) (List.mem_of_getElem? beside) same
  rw [← sound.place found, ← sound.place beside, entry]

end SoundTable

namespace Link

variable {T : Type}

/-- What a link announces of its channels, in order. -/
def table (link : Link T) : List Descriptor :=
  link.channels.map Channel.descriptor

theorem table_eq_some {link : Link T} {id : ChannelId} {channel : Channel}
    (found : link.channels[id]? = some channel) : link.table[id]? = some channel.descriptor := by
  rw [table, List.getElem?_map, found, Option.map_some]

theorem table_prepare (link : Link T) : link.prepare.table = link.table := by
  simp [table, prepare, Function.comp_def, Channel.prepare, Channel.descriptor, Channel.byteSize]

/-- A channel may change in what is not announced. -/
theorem table_setChannel {link : Link T} {id : ChannelId} {channel new : Channel}
    (found : link.channels[id]? = some channel) (same : new.descriptor = channel.descriptor) :
    (link.setChannel id new).table = link.table := by
  rw [table, setChannel, List.map_set, same, ← List.map_set, set_eq_self found]
  rfl

/-- A channel is announced as it was described. -/
theorem table_addChannel {link after : Link T} {spec : ChannelSpec} {id : ChannelId}
    (granted : link.addChannel spec = (after, .ok id)) :
    after.table = link.table ++
      [⟨link.channels.length, spec.name, spec.byteSize, spec.direction⟩] := by
  obtain ⟨_, _, _, channel, new, rfl⟩ := addChannel_granted granted
  have made := Channel.made_of_new new
  simp [table, Channel.descriptor, made.id_eq, made.name_eq, made.direction_eq, Channel.byteSize,
    made.value_eq, Dataset.zeros, Dataset.size]

theorem soundTable_addChannel {link after : Link T} {spec : ChannelSpec} {id : ChannelId}
    (sound : SoundTable link.table) (granted : link.addChannel spec = (after, .ok id)) :
    SoundTable after.table := by
  obtain ⟨_, unused, _, channel, new, _⟩ := addChannel_granted granted
  obtain ⟨named, sized⟩ := Channel.named_and_sized (Channel.validate_of_new new)
  rw [table_addChannel granted]
  refine sound.concat ?_ named (Nat.pos_of_ne_zero sized) ?_
  · exact List.length_map _ |>.symm
  · intro entry inside
    obtain ⟨other, there, rfl⟩ := List.mem_map.mp inside
    exact unused other there

/-- A name is found exactly where a channel has it. -/
theorem channelId_eq_ok {link : Link T} (sound : SoundTable link.table) {name : String}
    {id : ChannelId} :
    link.channelId name = .ok id ↔
      ∃ channel, link.channels[id]? = some channel ∧ channel.name = name := by
  unfold channelId
  constructor
  · intro answered
    cases search : link.channels.find? (·.name == name) with
    | none =>
        rw [search] at answered
        cases answered
    | some channel =>
        rw [search] at answered
        cases answered
        obtain ⟨place, found⟩ := List.mem_iff_getElem?.mp (List.mem_of_find?_eq_some search)
        have named := List.find?_some search
        have same : channel.id = place := sound.place (table_eq_some found)
        exact ⟨channel, same ▸ found, eq_of_beq named⟩
  · rintro ⟨channel, found, named⟩
    cases search : link.channels.find? (·.name == name) with
    | none =>
        have unnamed := List.find?_eq_none.mp search channel (List.mem_of_getElem? found)
        exact (unnamed (beq_iff_eq.mpr named)).elim
    | some other =>
        obtain ⟨place, there⟩ := List.mem_iff_getElem?.mp (List.mem_of_find?_eq_some search)
        have searched := List.find?_some search
        have alike : other.descriptor.name = channel.descriptor.name :=
          (eq_of_beq searched).trans named.symm
        have same : place = id :=
          sound.place_unique (table_eq_some there) (table_eq_some found) alike
        have numbered : other.id = place := sound.place (table_eq_some there)
        exact congrArg Except.ok (numbered.trans same)

/-! ## Samples that can be taken -/

/-- What is taken out of a channel is at the front of its ring. -/
theorem popInto_granted {link after : Link T} {id : ChannelId} {destination sample : Sample}
    (granted : link.popInto id destination = (after, sample, .ok ())) :
    ∃ channel ring, link.channels[id]? = some channel ∧ channel.buffer = some ring ∧
      ring.peek = some sample := by
  unfold popInto Link.channel at granted
  cases found : link.channels[id]? with
  | none => simp [found] at granted
  | some channel =>
      cases buffered : channel.buffer with
      | none => simp [found, Channel.popInto, buffered] at granted
      | some ring =>
          cases front : ring.peek with
          | none => simp [found, Channel.popInto, buffered, Ring.popInto, front] at granted
          | some record =>
              simp [found, Channel.popInto, buffered, Ring.popInto, front] at granted
              exact ⟨channel, ring, rfl, buffered, front.trans (congrArg some granted.2)⟩

/-- A sample that was accepted has the size that was asked for. -/
theorem Moment.length_of_accepted? {moment : Moment T} {id : ChannelId} {size capacity : Nat}
    {sample : Sample} (accepted : moment.accepted? id size capacity = some sample) :
    sample.bytes.length = size := by
  unfold accepted? offered? at accepted
  split at accepted
  · split at accepted
    · split at accepted
      · rename_i offered
        cases accepted
        exact offered.2.1
      · cases accepted
    · cases accepted
  · cases accepted

theorem Adding.session {link after : Link T} {spec : ChannelSpec}
    {answer : Except Obstacle ChannelId} (outcome : Adding link spec after answer) :
    after.session = link.session := by
  cases outcome <;> rfl

section Runs

variable [Transport T]

/-- Every sample that waits was accepted, so it has the size of its channel, whatever was left
behind in the slots that samples were taken from. -/
theorem Reaches.samples_fit {start link : Link T} {past : List (Moment T)} {id : ChannelId}
    {channel : Channel} {ring : Ring Sample} {sample : Sample} (bare : start.channels = [])
    (reached : Reaches start past link) (found : link.channels[id]? = some channel)
    (buffered : channel.buffer = some ring) (front : ring.peek = some sample) :
    sample.bytes.length = channel.byteSize := by
  have accounts := reached.accounts bare found buffered
  rw [accounts.wellFormed.peek_eq] at front
  have waits : sample ∈ (sinceConnect past).filterMap (Moment.taken? id) ++ ring.toList :=
    List.mem_append_right _ (List.mem_of_mem_head? front)
  rw [accounts.order] at waits
  obtain ⟨moment, _, accepted⟩ := List.mem_filterMap.mp waits
  exact Moment.length_of_accepted? accepted

/-! ## What a step does to the table -/

theorem Step.act_descriptor {link : Link T} {id : ChannelId} {channel : Channel}
    (found : link.channels[id]? = some channel) (step : Step T) :
    (step.act link id channel).descriptor = channel.descriptor := by
  cases step with
  | addChannel spec => rfl
  | connect =>
      rw [Step.act]
      split <;> rfl
  | setOperational => rfl
  | disconnect =>
      rw [Step.act]
      split <;> rfl
  | publish target payload =>
      rw [Step.act]
      split
      · rename_i sent
        obtain ⟨rfl, granted⟩ := sent
        exact ((link.publish_cases target payload).takes granted found).descriptor_eq
      · rfl
  | popInto target destination =>
      rw [Step.act]
      split <;> rfl
  | takeUpdated target =>
      rw [Step.act]
      split <;> rfl
  | dispatch event => exact channel.onEvent_descriptor id link.state link.nettime event
  | meanwhile change => rfl

/-- A step that adds no channel leaves the table as it is. -/
theorem Step.table_run {link : Link T} {step : Step T} (other : ∀ spec, step ≠ .addChannel spec) :
    (step.run link).table = link.table :=
  Step.map_channels other fun _ _ found => Step.act_descriptor found step

/-- The table changes by a channel that is added, and by nothing else. -/
theorem Step.table_cases (link : Link T) (step : Step T) :
    (step.run link).table = link.table ∨
      ∃ spec id, step = .addChannel spec ∧ link.addChannel spec = (step.run link, .ok id) := by
  by_cases adds : ∃ spec, step = .addChannel spec
  · obtain ⟨spec, rfl⟩ := adds
    cases answer : (link.addChannel spec).2 with
    | error obstacle =>
        have outcome := link.addChannel_cases spec
        rw [answer] at outcome
        exact .inl (congrArg table outcome.unchanged)
    | ok id => exact .inr ⟨spec, id, rfl, Prod.ext rfl answer⟩
  · exact .inl (Step.table_run fun spec same => adds ⟨spec, same⟩)

theorem Step.table_grows (link : Link T) (step : Step T) :
    link.table <+: (step.run link).table := by
  rcases step.table_cases link with same | ⟨spec, id, _, granted⟩
  · rw [same]
  · rw [table_addChannel granted]
    exact List.prefix_append _ _

theorem Step.soundTable {link : Link T} (sound : SoundTable link.table) (step : Step T) :
    SoundTable (step.run link).table := by
  rcases step.table_cases link with same | ⟨spec, id, _, granted⟩
  · rw [same]
    exact sound
  · exact soundTable_addChannel sound granted

/-! ## Sessions -/

/-- A session begins: the link connects, and the transport grants the registration of its table. -/
structure Moment.Opens (moment : Moment T) (session : Session) : Prop where
  connects : moment.step = .connect
  granted : (Transport.register moment.before.transport moment.before.instanceName
    moment.before.prepare.table).value = (moment.after.transport, .ok session)
  opened : moment.after.session = some session

theorem Connecting.session {link after : Link T} {answer : Except Error Unit} {calls : List Call}
    (outcome : Connecting link after answer calls) :
    after.session = link.session ∨ ∃ session, after.session = some session ∧
      (Transport.register link.transport link.instanceName link.prepare.table).value =
        (after.transport, .ok session) := by
  cases outcome with
  | refused shut => exact .inl rfl
  | @opened transport session may answer => exact .inr ⟨session, rfl, answer⟩
  | failed may answer => exact .inl rfl

theorem Promoting.session {link after : Link T} {answer : Except Error Unit} {calls : List Call}
    (outcome : Promoting link after answer calls) : after.session = link.session := by
  cases outcome <;> rfl

theorem Publishing.session {link after : Link T} {id : ChannelId} {payload : List UInt8}
    {answer : Except Error Unit} {calls : List Call}
    (outcome : Publishing link id payload after answer calls) : after.session = link.session := by
  cases outcome <;> rfl

theorem Disconnecting.session {link after : Link T} {answer : Except Error Unit}
    {calls : List Call} (outcome : Disconnecting link after answer calls) :
    after.session = link.session ∨ after.session = none := by
  cases outcome with
  | refused nothing => exact .inl rfl
  | closed may => exact .inr rfl

/-- A session that is open was open before, or it is opened now. -/
theorem Step.session_cases {link : Link T} {step : Step T} {session : Session}
    (opened : (step.run link).session = some session) :
    link.session = some session ∨ (Moment.mk link step).Opens session := by
  cases step with
  | addChannel spec => exact .inl ((link.addChannel_cases spec).session.symm.trans opened)
  | connect =>
      rcases link.connect_cases.session with same | ⟨current, there, granted⟩
      · exact .inl (same.symm.trans opened)
      · cases there.symm.trans opened
        exact .inr ⟨rfl, granted, opened⟩
  | setOperational => exact .inl (link.setOperational_cases.session.symm.trans opened)
  | disconnect =>
      rcases link.disconnect_cases.session with same | closed
      · exact .inl (same.symm.trans opened)
      · cases closed.symm.trans opened
  | publish id payload => exact .inl ((link.publish_cases id payload).session.symm.trans opened)
  | popInto id destination =>
      rw [Step.run, popInto_link, changeChannel_frame] at opened
      exact .inl opened
  | takeUpdated id =>
      rw [Step.run, takeUpdated_link, changeChannel_frame] at opened
      exact .inl opened
  | dispatch event =>
      rw [Step.run, (link.dispatch_spec event).1.session] at opened
      exact .inl opened
  | meanwhile change => exact .inl opened

/-- In a session the table stays as it is. -/
theorem Step.table_frozen {link : Link T} {session : Session} (opened : link.session = some session)
    (step : Step T) : (step.run link).table = link.table := by
  rcases step.table_cases link with same | ⟨spec, id, _, granted⟩
  · exact same
  · have closed := (addChannel_granted granted).1
    rw [opened] at closed
    cases closed

/-! ## Whole histories -/

/-- The table of the past is the beginning of the table that there is. -/
theorem Reaches.table_grows {start link : Link T} {past : List (Moment T)}
    (reached : Reaches start past link) {moment : Moment T} (inside : moment ∈ past) :
    moment.before.table <+: moment.after.table ∧ moment.after.table <+: link.table := by
  induction reached with
  | refl => cases inside
  | @tail past link before step ih =>
      rcases List.mem_append.mp inside with old | last
      · obtain ⟨first, second⟩ := ih old
        exact ⟨first, second.trans (step.table_grows link)⟩
      · cases List.mem_singleton.mp last
        exact ⟨step.table_grows link, List.prefix_rfl⟩

/-- A channel that was added is announced as it was described, ever after. -/
theorem Reaches.announced {start link : Link T} {past : List (Moment T)}
    (reached : Reaches start past link) {moment : Moment T} (inside : moment ∈ past)
    {spec : ChannelSpec} (adds : moment.step = .addChannel spec) {id : ChannelId} {after : Link T}
    (granted : moment.before.addChannel spec = (after, .ok id)) :
    link.table[id]? = some ⟨id, spec.name, spec.byteSize, spec.direction⟩ := by
  have grown := (reached.table_grows inside).2
  have same : moment.after = after := by
    rw [Moment.after, adds, Step.run, granted]
  rw [same, table_addChannel granted] at grown
  obtain ⟨rest, whole⟩ := grown
  have last := (addChannel_granted granted).2.2.1
  have place : moment.before.table.length = id := (List.length_map _).trans last.symm
  rw [← whole, List.append_assoc, List.getElem?_append_right (Nat.le_of_eq place), place,
    Nat.sub_self, last]
  rfl

theorem Reaches.soundTable {start link : Link T} {past : List (Moment T)}
    (reached : Reaches start past link) (sound : SoundTable start.table) :
    SoundTable link.table := by
  induction reached with
  | refl => exact sound
  | tail before step ih => exact step.soundTable ih

/-- The session that is open was opened at some moment with the table that there is, and has not
been interrupted since. -/
theorem Reaches.opening {start link : Link T} {past : List (Moment T)} {session : Session}
    (closed : start.session = none) (reached : Reaches start past link)
    (opened : link.session = some session) :
    ∃ early moment late, past = early ++ moment :: late ∧ moment.Opens session ∧
      moment.before.prepare.table = link.table ∧
      ∀ later ∈ late, later.before.session = some session := by
  induction reached with
  | refl => cases closed.symm.trans opened
  | @tail past link before step ih =>
      rcases Step.session_cases opened with kept | opens
      · obtain ⟨early, moment, late, rfl, opens, same, since⟩ := ih kept
        refine ⟨early, moment, late ++ [⟨link, step⟩], by simp, opens, ?_, ?_⟩
        · rw [step.table_frozen kept]
          exact same
        · exact List.forall_mem_append.mpr ⟨since, List.forall_mem_singleton.mpr kept⟩
      · refine ⟨past, ⟨link, step⟩, [], rfl, opens, ?_, fun _ inside => by cases inside⟩
        have connects : step = .connect := opens.connects
        subst connects
        rw [table_prepare, Step.table_run fun spec same => by cases same]

/-! ## How links are made -/

/-- A link as it is made, by itself or from a configuration. -/
inductive Origin : Link T → Prop where
  | new (instanceName : String) (aliasName : Option String) (transport : T) :
      Origin (fresh instanceName aliasName transport)
  | configured {config : LinkConfig} {transport : T} {link : Link T}
      (built : ofConfig config transport = .ok link) : Origin link

/-- Channels that are added in order are added one by one. -/
theorem Reaches.addChannels {start link after : Link T} {past : List (Moment T)}
    {specs : List ChannelSpec} (reached : Reaches start past link)
    (built : link.addChannels specs = .ok after) : ∃ later, Reaches start later after := by
  induction specs generalizing link past with
  | nil =>
      cases built
      exact ⟨past, reached⟩
  | cons spec rest ih =>
      rw [Link.addChannels] at built
      rcases added : link.addChannel spec with ⟨next, obstacle | id⟩
      · rw [added] at built
        cases built
      · have onwards := reached.tail (.addChannel spec)
        rw [Step.run, added] at onwards
        rw [added] at built
        exact ih onwards built

omit [Transport T] in
/-- A link from a configuration is a new link to which channels were added. -/
theorem Origin.built {link : Link T} (origin : link.Origin) :
    ∃ instanceName aliasName transport specs,
      (fresh instanceName aliasName transport).addChannels specs = .ok link := by
  cases origin with
  | new instanceName aliasName transport => exact ⟨instanceName, aliasName, transport, [], rfl⟩
  | @configured config transport _ built =>
      unfold ofConfig at built
      cases valid : config.validate with
      | error error =>
          rw [valid] at built
          cases built
      | ok done =>
          rw [valid] at built
          exact ⟨config.instanceName, config.aliasName, transport, _, built⟩

omit [Transport T] in
/-- Every channel of a new link is as it was described. -/
theorem Origin.made {link : Link T} (origin : link.Origin) {id : ChannelId} {channel : Channel}
    (found : link.channels[id]? = some channel) : ∃ spec, Channel.Made id spec channel := by
  obtain ⟨_, _, _, _, built⟩ := origin.built
  exact (addChannels_made built fun _ _ found => by cases found).1 id channel found

theorem Origin.reached {link : Link T} (origin : link.Origin) :
    ∃ instanceName aliasName transport past,
      Reaches (fresh instanceName aliasName transport) past link ∧ link.session = none := by
  obtain ⟨instanceName, aliasName, transport, specs, built⟩ := origin.built
  obtain ⟨past, reached⟩ := Reaches.refl.addChannels built
  refine ⟨instanceName, aliasName, transport, past, reached, ?_⟩
  obtain ⟨_, same⟩ := addChannels_made built fun _ _ found => by cases found
  rw [same]
  rfl

/-- However a link was made and whatever happens to it, every channel stands at the place it names
and has a name of its own, by which it is found, and a size; what can be taken out of it has that
size.  A channel that was added is announced as it was described, now and ever after, and in a
session the table is the one that the registration was granted for. -/
theorem table_is_sound_and_frozen {start : Link T} (origin : start.Origin)
    (operations : List (Operation T)) :
    let link := start.run operations
    let past := start.history operations
    (∀ (id : ChannelId) channel, link.channels[id]? = some channel →
        channel.id = id ∧ channel.name ≠ "" ∧ 0 < channel.byteSize ∧
          channel.value.bytes.length = channel.byteSize) ∧
      (link.channels.map Channel.name).Nodup ∧
      (∀ name id, link.channelId name = .ok id ↔
        ∃ channel, link.channels[id]? = some channel ∧ channel.name = name) ∧
      (∀ id destination sample after, link.popInto id destination = (after, sample, .ok ()) →
        ∃ channel, link.channels[id]? = some channel ∧
          sample.bytes.length = channel.byteSize) ∧
      (∀ moment ∈ past, moment.before.table <+: link.table ∧
        ∀ spec id after, moment.step = .addChannel spec →
          moment.before.addChannel spec = (after, .ok id) →
          link.table[id]? = some ⟨id, spec.name, spec.byteSize, spec.direction⟩) ∧
      ∀ session, link.session = some session →
        ∃ early moment late, past = early ++ moment :: late ∧ moment.Opens session ∧
          moment.before.prepare.table = link.table ∧
          ∀ later ∈ late, later.before.session = some session := by
  intro link past
  obtain ⟨instanceName, aliasName, transport, before, made, closed⟩ := origin.reached
  have reached : Reaches start past link := reaches_run start operations
  have whole := made.trans reached
  have sound : SoundTable link.table := whole.soundTable SoundTable.nil
  refine ⟨?_, ?_, ?_, ?_, ?_, ?_⟩
  · intro id channel found
    have inside := List.mem_of_getElem? (table_eq_some found)
    exact ⟨sound.place (table_eq_some found), sound.named inside, sound.sized inside, rfl⟩
  · have distinct := sound.distinct
    rw [table, List.map_map] at distinct
    exact distinct
  · intro name id
    exact channelId_eq_ok sound
  · intro id destination sample after granted
    obtain ⟨channel, ring, found, buffered, front⟩ := popInto_granted granted
    exact ⟨channel, found, whole.samples_fit rfl found buffered front⟩
  · intro moment inside
    obtain ⟨first, second⟩ := reached.table_grows inside
    exact ⟨first.trans second, fun spec id after adds granted =>
      reached.announced inside adds granted⟩
  · intro session opened
    exact reached.opening closed opened

end Runs

/-- A link that is configured with two channels, one of which keeps samples. -/
def twoChannels : LinkConfig where
  instanceName := "line"
  channels := [{ name := "setpoint", byteSize := 1 },
    { name := "samples", direction := .subscribe, byteSize := 2, buffered := true,
      bufferCapacity := 3 }]

def configuredLine : Link Simulator :=
  ofBuilt (ofConfig twoChannels {}) rfl

/-- A sample is exchanged for one of another size, and a third channel is refused in the first
session and added after it. -/
def thirdChannel : List (Operation Simulator) :=
  [.single .connect, .process, .single (.dispatch (.channelUpdated 1 [1, 2] 10)),
    .single (.popInto 1 ⟨[7, 7, 7], 7⟩), .single (.addChannel ⟨"trend", .both, 4, none⟩),
    .single .disconnect, .single (.addChannel ⟨"trend", .both, 4, none⟩), .single .connect,
    .process, .single (.dispatch (.channelUpdated 1 [3, 4] 20))]

theorem third_channel_is_in_the_second_registration :
    let link := configuredLine.run thirdChannel
    ofConfig twoChannels {} = .ok configuredLine ∧ link.channelId "trend" = .ok 2 ∧
      (∃ sample after, link.popInto 1 default = (after, sample, .ok ()) ∧
        sample.bytes.length = 2) ∧
      ∃ early moment late, configuredLine.history thirdChannel = early ++ moment :: late ∧
        moment.Opens 2 ∧ moment.before.prepare.table =
          [⟨0, "setpoint", 1, .publish⟩, ⟨1, "samples", 2, .subscribe⟩,
            ⟨2, "trend", 4, .both⟩] := by
  have built : ofConfig twoChannels {} = .ok configuredLine := rfl
  have general (operations : List (Operation Simulator)) :=
    table_is_sound_and_frozen (.configured built) operations
  obtain ⟨_, _, named, popped, _, opened⟩ := general thirdChannel
  have table : (configuredLine.run thirdChannel).table =
      [⟨0, "setpoint", 1, .publish⟩, ⟨1, "samples", 2, .subscribe⟩, ⟨2, "trend", 4, .both⟩] := by
    decide +kernel
  have session : (configuredLine.run thirdChannel).session = some 2 := by decide +kernel
  have last : (configuredLine.run thirdChannel).channels[2]?.map Channel.name = some "trend" := by
    decide +kernel
  have sized : (configuredLine.run thirdChannel).channels[1]?.map Channel.byteSize = some 2 := by
    decide +kernel
  have waits : ((configuredLine.run thirdChannel).popInto 1 default).2.2 = .ok () := by
    decide +kernel
  refine ⟨built, (named "trend" 2).mpr (Option.map_eq_some_iff.mp last), ?_, ?_⟩
  · rcases taken : (configuredLine.run thirdChannel).popInto 1 default with
      ⟨after, sample, answer⟩
    rw [taken] at waits
    cases waits
    obtain ⟨channel, found, fits⟩ := popped 1 default sample after taken
    rw [found, Option.map_some, Option.some.injEq] at sized
    exact ⟨sample, after, rfl, fits.trans sized⟩
  · obtain ⟨early, moment, late, shape, opens, told, _⟩ := opened 2 session
    exact ⟨early, moment, late, shape, opens, told.trans table⟩

end Link

end DatasetSync
