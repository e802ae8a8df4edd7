import DatasetSync.Link.Setup
import DatasetSync.Proofs.Link.History
import DatasetSync.Transport.Simulator

/-!
# Configured links

A link is checked twice: its configuration as a whole, and each channel once more when it is added.
The two checks are made in a different order and look for names in a different way.  Side by side
they accept the same channels, and stop at the same one for a reason of the same kind, as long as
the channels that were accepted can be addressed: that is found out only when they are made.
-/

namespace DatasetSync

/-! ## Descriptions -/

namespace ChannelSpec

/-- Apart from the lack of a name, all that can be wrong with a description is of one kind. -/
theorem kind_of_validate {spec : ChannelSpec} {error : Error} (named : spec.name ≠ "")
    (invalid : spec.validate = .error error) : error.kind = .config := by
  rw [validate, if_neg named] at invalid
  split at invalid
  · cases invalid
    rfl
  · split at invalid
    · cases invalid
    · unfold validateBuffer at invalid
      split at invalid
      · cases invalid
        rfl
      · split at invalid
        · cases invalid
          rfl
        · cases invalid

end ChannelSpec

/-- A channel is what an entry of a configuration asks for. -/
structure ChannelConfig.Describes (entry : ChannelConfig) (channel : Channel) : Prop where
  name_eq : channel.name = entry.name
  direction_eq : channel.direction = entry.direction
  byteSize_eq : channel.byteSize = entry.byteSize
  buffered_eq : channel.isBuffered = entry.buffered
  capacity_eq {ring : Ring Sample} (there : channel.buffer = some ring) :
    ring.capacity = entry.bufferCapacity

theorem ChannelConfig.describes_of_made {entry : ChannelConfig} {channel : Channel}
    {id : ChannelId} (made : Channel.Made id entry.spec channel) : entry.Describes channel := by
  have size : channel.byteSize = entry.byteSize := by
    rw [Channel.byteSize, made.value_eq]
    exact List.length_replicate
  have origin := made.buffer_eq
  have asked : entry.spec.capacity =
      if entry.buffered then some entry.bufferCapacity else none := rfl
  refine ⟨made.name_eq, made.direction_eq, size, ?_, ?_⟩
  · unfold Channel.isBuffered
    cases buffered : channel.buffer with
    | none =>
        rw [buffered, asked] at origin
        cases flag : entry.buffered with
        | false => rfl
        | true => simp [flag] at origin
    | some ring =>
        rw [buffered] at origin
        obtain ⟨capacity, given, _, _⟩ := origin
        cases flag : entry.buffered with
        | true => rfl
        | false => simp [asked, flag] at given
  · intro ring there
    rw [there] at origin
    obtain ⟨capacity, given, new, _⟩ := origin
    rw [asked] at given
    split at given
    · cases given
      exact (Ring.wellFormed_of_new new).2.1
    · cases given

/-! ## The check of the configuration -/

namespace LinkConfig

variable {entry : ChannelConfig} {instanceName : String} {seen : List String}

def Addressable (config : LinkConfig) : Prop :=
  ∀ bytes ∈ config.blocks, bytes < addressLimit

instance (config : LinkConfig) : Decidable config.Addressable :=
  inferInstanceAs (Decidable (∀ bytes ∈ config.blocks, bytes < addressLimit))

theorem addressable_iff {config : LinkConfig} :
    config.Addressable ↔ ∀ channel ∈ config.channels, channel.spec.Addressable := by
  simp only [Addressable, ChannelSpec.Addressable, blocks, List.mem_flatMap, forall_exists_index,
    and_imp]
  exact ⟨fun fits channel inside bytes asked => fits bytes channel inside asked,
    fun fits bytes channel inside asked => fits channel inside bytes asked⟩

/-- An entry that is in order is passed by. -/
theorem validateChannels_passed (valid : entry.spec.validate = .ok ()) (unseen : entry.name ∉ seen)
    (rest : List ChannelConfig) :
    validateChannels instanceName seen (entry :: rest) =
      validateChannels instanceName (entry.name :: seen) rest := by
  rw [validateChannels, valid, if_neg (by simpa using unseen)]
  rfl

theorem validateChannels_invalid {error : Error} (invalid : entry.spec.validate = .error error)
    (rest : List ChannelConfig) :
    validateChannels instanceName seen (entry :: rest) = .error error := by
  rw [validateChannels, invalid]
  rfl

theorem validateChannels_repeated (valid : entry.spec.validate = .ok ()) (again : entry.name ∈ seen)
    (rest : List ChannelConfig) :
    validateChannels instanceName seen (entry :: rest) =
      .error (.config s!"duplicate channel name '{entry.name}' in link '{instanceName}'") := by
  rw [validateChannels, valid, if_pos (by simpa using again)]
  rfl

/-- What the check makes of an entry after the names already seen. -/
inductive Judged (seen : List String) (entry : ChannelConfig) : Prop where
  | passed (valid : entry.spec.validate = .ok ()) (unseen : entry.name ∉ seen)
  | repeated (valid : entry.spec.validate = .ok ()) (again : entry.name ∈ seen)
  | invalid {error : Error} (invalid : entry.spec.validate = .error error)

theorem judged (seen : List String) (entry : ChannelConfig) : Judged seen entry := by
  cases valid : entry.spec.validate with
  | error error => exact .invalid valid
  | ok done =>
      by_cases again : entry.name ∈ seen
      · exact .repeated valid again
      · exact .passed valid again

/-- Whether the entries before it were in order does not depend on an entry. -/
theorem validateChannels_append {early : List ChannelConfig}
    (valid : validateChannels instanceName seen early = .ok ()) (rest : List ChannelConfig) :
    validateChannels instanceName seen (early ++ rest) =
      validateChannels instanceName ((early.map ChannelConfig.name).reverse ++ seen) rest := by
  induction early generalizing seen with
  | nil => rfl
  | cons entry early ih =>
      cases judged seen entry with
      | invalid invalid => cases (validateChannels_invalid invalid early).symm.trans valid
      | repeated valid' again =>
          cases (validateChannels_repeated valid' again early).symm.trans valid
      | passed valid' unseen =>
          rw [validateChannels_passed valid' unseen] at valid
          rw [List.cons_append, validateChannels_passed valid' unseen, ih valid, List.map_cons,
            List.reverse_cons, List.append_assoc]
          rfl

/-- A check that fails does so at an entry, after others that are in order and whatever follows. -/
theorem validateChannels_error {entries : List ChannelConfig} {error : Error}
    (wrong : validateChannels instanceName seen entries = .error error) :
    ∃ early entry late, entries = early ++ entry :: late ∧
      validateChannels instanceName seen early = .ok () ∧
      ∀ rest, validateChannels instanceName ((early.map ChannelConfig.name).reverse ++ seen)
        (entry :: rest) = .error error := by
  induction entries generalizing seen with
  | nil => cases wrong
  | cons entry rest ih =>
      cases judged seen entry with
      | invalid invalid =>
          cases (validateChannels_invalid invalid rest).symm.trans wrong
          exact ⟨[], entry, rest, rfl, rfl, validateChannels_invalid invalid⟩
      | repeated valid again =>
          cases (validateChannels_repeated valid again rest).symm.trans wrong
          exact ⟨[], entry, rest, rfl, rfl, validateChannels_repeated valid again⟩
      | passed valid unseen =>
          rw [validateChannels_passed valid unseen] at wrong
          obtain ⟨early, last, late, split, valid', stops⟩ := ih wrong
          refine ⟨entry :: early, last, late, congrArg (entry :: ·) split, ?_, fun rest => ?_⟩
          · rw [validateChannels_passed valid unseen, valid']
          · rw [List.map_cons, List.reverse_cons, List.append_assoc]
            exact stops rest

end LinkConfig

/-! ## One entry -/

namespace Link

variable {T : Type} {link : Link T} {entry : ChannelConfig} {instanceName : String}
  {seen : List String}

/-- The names that the check has seen are the names of the channels so far, and there is something
to every one of them. -/
structure Tracks (link : Link T) (seen : List String) : Prop where
  closed : link.session = none
  names (name : String) : name ∈ seen ↔ link.channels.any (·.name == name) = true
  named : "" ∉ seen

theorem Tracks.shut (tracks : link.Tracks seen) : ¬ link.isOpen = true := by
  simp [isOpen, tracks.closed]

theorem Tracks.free (tracks : link.Tracks seen) (unseen : entry.name ∉ seen) :
    ¬ link.channels.any (·.name == entry.spec.name) = true :=
  fun taken => unseen ((tracks.names entry.name).mpr taken)

/-- A channel is added under each name that was not seen. -/
theorem Tracks.addChannel_made (tracks : link.Tracks seen) (unseen : entry.name ∉ seen)
    {channel : Channel} (made : Channel.new link.channels.length entry.spec = .ok channel) :
    link.addChannel entry.spec =
      ({ link with channels := link.channels ++ [channel] }, .ok link.channels.length) := by
  rw [addChannel, if_neg tracks.shut, if_neg (tracks.free unseen), made]

/-- It is not added if it cannot be made. -/
theorem Tracks.addChannel_unmade (tracks : link.Tracks seen) (unseen : entry.name ∉ seen)
    {obstacle : Obstacle} (failed : Channel.new link.channels.length entry.spec = .error obstacle) :
    link.addChannel entry.spec = (link, .error obstacle) := by
  rw [addChannel, if_neg tracks.shut, if_neg (tracks.free unseen), failed]

theorem Tracks.addChannel_seen (tracks : link.Tracks seen) (again : entry.name ∈ seen) :
    link.addChannel entry.spec = (link, .error (.refused (.config
      s!"channel '{entry.spec.name}' already exists in link '{link.instanceName}'"))) := by
  have taken : link.channels.any (·.name == entry.spec.name) = true :=
    (tracks.names entry.name).mp again
  rw [addChannel, if_neg tracks.shut, if_pos taken]

theorem Tracks.added (tracks : link.Tracks seen) {channel : Channel}
    (valid : entry.spec.validate = .ok ()) (name_eq : channel.name = entry.name) :
    Tracks { link with channels := link.channels ++ [channel] } (entry.name :: seen) := by
  refine ⟨tracks.closed, fun name => ?_, ?_⟩
  · rw [List.mem_cons, tracks.names, List.any_append, Bool.or_eq_true, or_comm]
    simp only [List.any_cons, List.any_nil, Bool.or_false, beq_iff_eq, name_eq]
    exact or_congr_right eq_comm
  · have named : entry.name ≠ "" := (Channel.named_and_sized valid).1
    simpa [Ne.symm named] using tracks.named

/-- Where an entry is neither valid nor new, one check complains of the first and the other of the
second.  As there is something to a name that was seen, both complaints are of one kind. -/
theorem Tracks.refused (tracks : link.Tracks seen) {error : Error}
    (stops : LinkConfig.validateChannels instanceName seen [entry] = .error error) :
    ∃ cause, link.addChannel entry.spec = (link, .error (.refused cause)) ∧
      cause.kind = error.kind := by
  cases LinkConfig.judged seen entry with
  | passed valid unseen =>
      cases (LinkConfig.validateChannels_passed valid unseen []).symm.trans stops
  | repeated valid again =>
      cases (LinkConfig.validateChannels_repeated valid again []).symm.trans stops
      exact ⟨_, tracks.addChannel_seen again, rfl⟩
  | invalid invalid =>
      cases (LinkConfig.validateChannels_invalid invalid []).symm.trans stops
      by_cases again : entry.name ∈ seen
      · have named : entry.spec.name ≠ "" := fun nameless => tracks.named (nameless ▸ again)
        have kind := ChannelSpec.kind_of_validate named invalid
        exact ⟨_, tracks.addChannel_seen again, kind.symm⟩
      · have failed := Channel.new_of_invalid link.channels.length invalid
        exact ⟨error, tracks.addChannel_unmade again failed, rfl⟩

/-! ## All entries -/

/-- What is built of entries that are in order: all of them, unless one cannot be addressed. -/
inductive Built (link : Link T) (seen : List String) (entries : List ChannelConfig) :
    Except Obstacle (Link T) → Prop where
  | whole {channels : List Channel} (fits : ∀ entry ∈ entries, entry.spec.Addressable)
      (tracks : Tracks { link with channels := link.channels ++ channels }
        ((entries.map ChannelConfig.name).reverse ++ seen))
      (described : List.Forall₂ ChannelConfig.Describes entries channels) :
      Built link seen entries (.ok { link with channels := link.channels ++ channels })
  | large (large : ¬ ∀ entry ∈ entries, entry.spec.Addressable) :
      Built link seen entries (.error .outOfRange)

theorem addChannels_append (early late : List ChannelSpec) :
    link.addChannels (early ++ late) =
      link.addChannels early >>= fun reached => reached.addChannels late := by
  induction early generalizing link with
  | nil => rfl
  | cons spec early ih =>
      rw [List.cons_append, addChannels, addChannels]
      split
      · rfl
      · exact ih

theorem Tracks.built (tracks : link.Tracks seen) {entries : List ChannelConfig}
    (valid : LinkConfig.validateChannels instanceName seen entries = .ok ()) :
    Built link seen entries (link.addChannels (entries.map ChannelConfig.spec)) := by
  induction entries generalizing link seen with
  | nil =>
      have same : { link with channels := link.channels ++ [] } = link := by rw [List.append_nil]
      have whole : Built link seen [] (.ok { link with channels := link.channels ++ [] }) :=
        .whole nofun (by rw [same]; exact tracks) .nil
      rw [same] at whole
      exact whole
  | cons entry rest ih =>
      cases LinkConfig.judged seen entry with
      | invalid invalid =>
          cases (LinkConfig.validateChannels_invalid invalid rest).symm.trans valid
      | repeated valid' again =>
          cases (LinkConfig.validateChannels_repeated valid' again rest).symm.trans valid
      | passed valid' unseen =>
          rw [LinkConfig.validateChannels_passed valid' unseen] at valid
          have making := Channel.new_cases link.channels.length entry.spec
          rw [List.map_cons, addChannels]
          generalize new : Channel.new link.channels.length entry.spec = result at making
          cases making with
          | invalid wrong => cases wrong.symm.trans valid'
          | large _ large =>
              rw [tracks.addChannel_unmade unseen new]
              exact .large fun fits => large (fits entry List.mem_cons_self)
          | @made channel _ fits made =>
              have onwards := ih (tracks.added valid' made.name_eq) valid
              rw [tracks.addChannel_made unseen new]
              dsimp only
              generalize Link.addChannels _ _ = built at onwards
              cases onwards with
              | large large =>
                  exact .large fun fits => large fun entry inside =>
                    fits entry (List.mem_cons_of_mem _ inside)
              | @whole channels fits' tracks' described =>
                  have joined : link.channels ++ [channel] ++ channels =
                      link.channels ++ channel :: channels := List.append_assoc ..
                  have names : (rest.map ChannelConfig.name).reverse ++ entry.name :: seen =
                      ((entry :: rest).map ChannelConfig.name).reverse ++ seen := by simp
                  dsimp only at tracks' ⊢
                  rw [joined, names] at tracks'
                  rw [joined]
                  exact .whole (List.forall_mem_cons.mpr ⟨fits, fits'⟩) tracks'
                    (.cons (ChannelConfig.describes_of_made made) described)

/-- Where the check of the configuration stops, the adding stops as well, unless it has stopped
before at a channel that cannot be addressed. -/
theorem Tracks.stopped (tracks : link.Tracks seen) {entries : List ChannelConfig} {error : Error}
    (wrong : LinkConfig.validateChannels instanceName seen entries = .error error) :
    ∃ early entry late, entries = early ++ entry :: late ∧
      LinkConfig.validateChannels instanceName seen early = .ok () ∧
      LinkConfig.validateChannels instanceName seen (early ++ [entry]) = .error error ∧
      ((∀ entry ∈ early, entry.spec.Addressable) →
        ∃ reached cause, link.addChannels (early.map ChannelConfig.spec) = .ok reached ∧
          reached.addChannel entry.spec = (reached, .error (.refused cause)) ∧
          link.addChannels (entries.map ChannelConfig.spec) = .error (.refused cause) ∧
          cause.kind = error.kind) ∧
      ((¬ ∀ entry ∈ early, entry.spec.Addressable) →
        link.addChannels (early.map ChannelConfig.spec) = .error .outOfRange ∧
          link.addChannels (entries.map ChannelConfig.spec) = .error .outOfRange) := by
  obtain ⟨early, entry, late, rfl, valid, invalid⟩ := LinkConfig.validateChannels_error wrong
  have built := tracks.built valid
  rw [List.map_append, addChannels_append]
  refine ⟨early, entry, late, rfl, valid, ?_, ?_⟩
  · rw [LinkConfig.validateChannels_append valid]
    exact invalid []
  · generalize link.addChannels (early.map ChannelConfig.spec) = result at built
    cases built with
    | large large => exact ⟨fun fits => absurd fits large, fun _ => ⟨rfl, rfl⟩⟩
    | whole fits tracks described =>
        obtain ⟨cause, refused, alike⟩ := tracks.refused (invalid [])
        refine ⟨fun _ => ⟨_, cause, rfl, refused, ?_, alike⟩, fun large => absurd fits large⟩
        change addChannels _ (entry.spec :: late.map ChannelConfig.spec) = _
        rw [addChannels, refused]

theorem Tracks.addChannels_isOk (tracks : link.Tracks seen) (instanceName : String)
    (entries : List ChannelConfig) :
    (∃ after, link.addChannels (entries.map ChannelConfig.spec) = .ok after) ↔
      LinkConfig.validateChannels instanceName seen entries = .ok () ∧
        ∀ entry ∈ entries, entry.spec.Addressable := by
  cases checked : LinkConfig.validateChannels instanceName seen entries with
  | ok done =>
      have built := tracks.built checked
      generalize link.addChannels (entries.map ChannelConfig.spec) = result at built
      cases built with
      | whole fits _ _ => exact ⟨fun _ => ⟨rfl, fits⟩, fun _ => ⟨_, rfl⟩⟩
      | large large =>
          refine ⟨?_, fun known => absurd known.2 large⟩
          rintro ⟨_, same⟩
          cases same
  | error error =>
      obtain ⟨early, _, _, _, _, _, stops, exceeds⟩ := tracks.stopped checked
      refine ⟨?_, nofun⟩
      rintro ⟨after, built⟩
      by_cases fits : ∀ entry ∈ early, entry.spec.Addressable
      · obtain ⟨_, _, _, _, failed, _⟩ := stops fits
        cases failed.symm.trans built
      · cases (exceeds fits).2.symm.trans built

theorem Tracks.addChannels_large (tracks : link.Tracks seen) {entries : List ChannelConfig}
    (valid : LinkConfig.validateChannels instanceName seen entries = .ok ())
    (large : ¬ ∀ entry ∈ entries, entry.spec.Addressable) :
    link.addChannels (entries.map ChannelConfig.spec) = .error .outOfRange := by
  have built := tracks.built valid
  generalize link.addChannels (entries.map ChannelConfig.spec) = result at built
  cases built with
  | whole fits _ _ => exact absurd fits large
  | large _ => rfl

theorem tracks_new (instanceName : String) (aliasName : Option String) (transport : T) :
    Tracks { new instanceName transport with aliasName } [] := by
  refine ⟨rfl, fun name => ?_, List.not_mem_nil⟩
  simp [new]

/-- What building a link comes to: its configuration is checked, and all channels of one that is
valid are added unless one of them cannot be addressed. -/
inductive Building (config : LinkConfig) (transport : T) : Except Obstacle (Link T) → Prop where
  | invalid {error : Error} (wrong : config.validate = .error error) :
      Building config transport (.error (.refused error))
  | large (valid : config.validate = .ok ()) (large : ¬ config.Addressable) :
      Building config transport (.error .outOfRange)
  | whole {channels : List Channel} (valid : config.validate = .ok ()) (fits : config.Addressable)
      (described : List.Forall₂ ChannelConfig.Describes config.channels channels) :
      Building config transport (.ok { new config.instanceName transport with
        aliasName := config.aliasName, channels })

theorem ofConfig_cases (config : LinkConfig) (transport : T) :
    Building config transport (ofConfig config transport) := by
  unfold ofConfig
  cases checked : config.validate with
  | error error => exact .invalid checked
  | ok done =>
      have valid : LinkConfig.validateChannels config.instanceName [] config.channels = .ok () := by
        unfold LinkConfig.validate at checked
        split at checked
        · cases checked
        · exact checked
      have built := (tracks_new config.instanceName config.aliasName transport).built valid
      change Building config transport (addChannels _ _)
      generalize addChannels _ _ = result at built
      cases built with
      | large large => exact .large checked (large ∘ LinkConfig.addressable_iff.mp)
      | whole fits _ described =>
          exact .whole checked (LinkConfig.addressable_iff.mpr fits) described

theorem ofConfig_isOk (config : LinkConfig) (transport : T) :
    (∃ link, ofConfig config transport = .ok link) ↔
      config.validate = .ok () ∧ config.Addressable := by
  have building := ofConfig_cases config transport
  generalize ofConfig config transport = result at building
  cases building with
  | invalid wrong =>
      constructor
      · rintro ⟨_, same⟩
        cases same
      · rintro ⟨valid, _⟩
        cases wrong.symm.trans valid
  | large _ large =>
      refine ⟨?_, fun known => absurd known.2 large⟩
      rintro ⟨_, same⟩
      cases same
  | whole valid fits _ => exact ⟨fun _ => ⟨valid, fits⟩, fun _ => ⟨_, rfl⟩⟩

theorem ofConfig_large {config : LinkConfig} (valid : config.validate = .ok ())
    (large : ¬ config.Addressable) (transport : T) :
    ofConfig config transport = .error .outOfRange := by
  have building := ofConfig_cases config transport
  generalize ofConfig config transport = result at building
  cases building with
  | invalid wrong => cases wrong.symm.trans valid
  | large _ _ => rfl
  | whole _ fits _ => exact absurd fits large

/-- For a link with a name, all channels of its configuration can be added to a new link one by one
if and only if the configuration is valid and each of them can be addressed.  If it is not valid,
both checks pass the same channels and stop at the same one, for a reason of the same kind, unless
one of the channels passed cannot be addressed: there the adding stops.  A link can be built from
its configuration if and only if that is valid and can be addressed; if it only is valid, the
building stops at the block that is too large and nothing is refused.  The link that is built is
disconnected, and has one channel for each entry, in order, as the entry says. -/
theorem validation_agrees_with_construction (config : LinkConfig) (transport : T)
    (named : config.instanceName ≠ "") :
    let start := Link.new config.instanceName transport
    let specs := config.channels.map ChannelConfig.spec
    ((∃ link, start.addChannels specs = .ok link) ↔
        config.validate = .ok () ∧ config.Addressable) ∧
      (∀ error, config.validate = .error error →
        ∃ early entry late, config.channels = early ++ entry :: late ∧
          { config with channels := early }.validate = .ok () ∧
          { config with channels := early ++ [entry] }.validate = .error error ∧
          (({ config with channels := early } : LinkConfig).Addressable →
            ∃ reached cause, start.addChannels (early.map ChannelConfig.spec) = .ok reached ∧
              reached.addChannel entry.spec = (reached, .error (.refused cause)) ∧
              start.addChannels specs = .error (.refused cause) ∧ cause.kind = error.kind) ∧
          (¬ ({ config with channels := early } : LinkConfig).Addressable →
            start.addChannels (early.map ChannelConfig.spec) = .error .outOfRange ∧
              start.addChannels specs = .error .outOfRange)) ∧
      ((∃ link, ofConfig config transport = .ok link) ↔
        config.validate = .ok () ∧ config.Addressable) ∧
      (config.validate = .ok () → ¬ config.Addressable →
        start.addChannels specs = .error .outOfRange ∧
          ofConfig config transport = .error .outOfRange) ∧
      ∀ link, ofConfig config transport = .ok link →
        link.state = .disconnected ∧ link.session = none ∧
          link.instanceName = config.instanceName ∧ link.aliasName = config.aliasName ∧
          List.Forall₂ ChannelConfig.Describes config.channels link.channels := by
  intro start specs
  have validate (entries : List ChannelConfig) : { config with channels := entries }.validate =
      LinkConfig.validateChannels config.instanceName [] entries := if_neg named
  have whole : config.validate =
      LinkConfig.validateChannels config.instanceName [] config.channels := validate config.channels
  have tracks : start.Tracks [] := tracks_new config.instanceName none transport
  have addressable {entries : List ChannelConfig} :
      ({ config with channels := entries } : LinkConfig).Addressable ↔
        ∀ entry ∈ entries, entry.spec.Addressable := LinkConfig.addressable_iff
  refine ⟨?_, ?_, ofConfig_isOk config transport, ?_, ?_⟩
  · rw [whole, LinkConfig.addressable_iff]
    exact tracks.addChannels_isOk config.instanceName config.channels
  · intro error wrong
    obtain ⟨early, entry, late, split, valid, invalid, stops, exceeds⟩ :=
      tracks.stopped (whole.symm.trans wrong)
    exact ⟨early, entry, late, split, (validate early).trans valid, (validate _).trans invalid,
      stops ∘ addressable.mp, exceeds ∘ mt addressable.mpr⟩
  · intro valid large
    exact ⟨tracks.addChannels_large (whole.symm.trans valid) (mt addressable.mpr large),
      ofConfig_large valid large transport⟩
  · intro link made
    have building := ofConfig_cases config transport
    rw [made] at building
    cases building with
    | whole _ _ described => exact ⟨rfl, rfl, rfl, rfl, described⟩

/-- A configuration whose third channel has the name of the first and no size. -/
def hollowTwin : LinkConfig where
  instanceName := "line"
  aliasName := some "north"
  channels := [{ name := "level", direction := .both, byteSize := 2, buffered := true },
    { name := "setpoint", byteSize := 1 }, { name := "level", byteSize := 0 },
    { name := "", byteSize := 1 }]

/-- One check misses the size of the hollow twin and the other finds its name taken.  Both stop
there, and without it and what follows the link can be built. -/
theorem both_checks_stop_at_the_hollow_twin :
    let start := Link.new "line" ({} : Simulator)
    hollowTwin.instanceName ≠ "" ∧
      hollowTwin.validate = .error (.config "channel 'level' has a zero byte size") ∧
      (∃ early entry late, hollowTwin.channels = early ++ entry :: late ∧
        { hollowTwin with channels := early }.validate = .ok () ∧
        { hollowTwin with channels := early ++ [entry] }.validate =
          .error (.config "channel 'level' has a zero byte size") ∧
        ∃ reached cause, start.addChannels (early.map ChannelConfig.spec) = .ok reached ∧
          reached.addChannel entry.spec = (reached, .error (.refused cause)) ∧
          start.addChannels (hollowTwin.channels.map ChannelConfig.spec) =
            .error (.refused cause) ∧ cause.kind = .config) ∧
      ∃ link, ofConfig { hollowTwin with channels := hollowTwin.channels.take 2 }
        ({} : Simulator) = .ok link := by
  intro start
  have named : hollowTwin.instanceName ≠ "" := by decide
  have wrong : hollowTwin.validate = .error (.config "channel 'level' has a zero byte size") := rfl
  have fits : hollowTwin.Addressable := by decide
  obtain ⟨early, entry, late, split, valid, invalid, stops, _⟩ :=
    (validation_agrees_with_construction hollowTwin ({} : Simulator) named).2.1 _ wrong
  have builds := (validation_agrees_with_construction
    { hollowTwin with channels := hollowTwin.channels.take 2 } ({} : Simulator) named).2.2.1
  have early_fits : ({ hollowTwin with channels := early } : LinkConfig).Addressable := by
    intro bytes inside
    obtain ⟨channel, there, asked⟩ := List.mem_flatMap.mp inside
    refine fits bytes (List.mem_flatMap.mpr ⟨channel, ?_, asked⟩)
    rw [split]
    exact List.mem_append_left _ there
  exact ⟨named, wrong, ⟨early, entry, late, split, valid, invalid, stops early_fits⟩,
    builds.mpr ⟨rfl, by decide⟩⟩

/-- A configuration with a channel of half the address space. -/
def boundlessLine : LinkConfig where
  instanceName := "line"
  channels := [{ name := "level", direction := .subscribe, byteSize := 0x8000000000000000 }]

/-- The check sets no bound to the size of a channel, but there is one where the channel is made. -/
theorem boundless_line_is_valid_but_cannot_be_built :
    boundlessLine.instanceName ≠ "" ∧ boundlessLine.validate = .ok () ∧
      (Link.new "line" ({} : Simulator)).addChannels
        (boundlessLine.channels.map ChannelConfig.spec) = .error .outOfRange ∧
      ¬ ∃ link, ofConfig boundlessLine ({} : Simulator) = .ok link := by
  have failed : ofConfig boundlessLine ({} : Simulator) = .error .outOfRange := by decide +kernel
  refine ⟨by decide, rfl, by decide +kernel, ?_⟩
  rintro ⟨link, built⟩
  cases failed.symm.trans built

end Link

end DatasetSync
