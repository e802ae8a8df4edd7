import DatasetSync.Proofs.Config.Omission

/-!
# Configurations are saved without loss

The text of a configuration, in either format, reads back as the configuration.  If keys are left
out of the text, at any depth, the defaults of the enclosing part stand for them.
-/

namespace DatasetSync

open Toml

/-! ## The documents of configurations -/

def RoomBelow (limit : Nat) (value : Int) : Prop :=
  0 ≤ value ∧ value < limit

section Shapes

variable {limit : Nat}

theorem writable_text (depth : Nat) (content : String) :
    Writable (RoomBelow limit) depth (.text content) :=
  .plain depth (.text _ content)

theorem writable_bool (depth : Nat) (truth : Bool) :
    Writable (RoomBelow limit) depth (.bool truth) :=
  .plain depth (.bool _ truth)

theorem writable_natCast (depth : Nat) {number : Nat} (small : number < limit) :
    Writable (RoomBelow limit) depth (.integer number) :=
  .plain depth (.integer _ ⟨Int.natCast_nonneg number, Int.ofNat_lt.mpr small⟩)

theorem writable_option (depth : Nat) (content : Option String) :
    Writable (RoomBelow limit) depth ((content.map Tree.text).getD .null) := by
  cases content with
  | none => exact .null depth
  | some content => exact writable_text depth content

theorem writable_texts (depth : Nat) (names : List String) :
    Writable (RoomBelow limit) depth (.list (names.map Tree.text)) := by
  refine .plain depth (.list fun item member => ?_)
  obtain ⟨name, _, rfl⟩ := List.mem_map.mp member
  exact .text _ name

theorem named_of_names {entries : List (String × Tree)} (names : List String)
    (spelled : entries.map Prod.fst = names) (bare : names.all isBareName = true)
    (distinct : names.Nodup) : Named entries := by
  subst spelled
  exact ⟨fun entry member => List.all_eq_true.mp bare entry.1 (List.mem_map_of_mem member),
    distinct⟩

theorem ChannelConfig.toTree_writable {channel : ChannelConfig} (fits : channel.Fits limit)
    (depth : Nat) : Writable (RoomBelow limit) (depth + 1) channel.toTree := by
  refine .table (named_of_names ChannelConfig.fieldNames rfl (by decide) (by decide))
    fun entry member => ?_
  simp only [List.mem_cons, List.not_mem_nil, or_false] at member
  rcases member with rfl | rfl | rfl | rfl | rfl
  · exact writable_text _ _
  · exact writable_text _ _
  · exact writable_natCast _ fits.byteSize
  · exact writable_bool _ _
  · exact writable_natCast _ fits.bufferCapacity

theorem writable_channels {channels : List ChannelConfig}
    (fits : ∀ channel ∈ channels, channel.Fits limit) (depth : Nat) :
    Writable (RoomBelow limit) (depth + 1) (.list (channels.map ChannelConfig.toTree)) := by
  by_cases something : channels = []
  · subst something
    exact writable_texts _ []
  · refine .tables ?_ ?_ fun item member => ?_
    · rwa [Ne, List.map_eq_nil_iff]
    · refine List.all_eq_true.mpr fun item member => ?_
      obtain ⟨channel, _, rfl⟩ := List.mem_map.mp member
      rfl
    · obtain ⟨channel, there, rfl⟩ := List.mem_map.mp member
      exact ChannelConfig.toTree_writable (fits channel there) depth

theorem LinkConfig.toTree_writable {link : LinkConfig} (fits : link.Fits limit) (depth : Nat) :
    Writable (RoomBelow limit) (depth + 2) link.toTree := by
  refine .table (named_of_names ["instance_name", "alias", "channels"] rfl (by decide) (by decide))
    fun entry member => ?_
  simp only [List.mem_cons, List.not_mem_nil, or_false] at member
  rcases member with rfl | rfl | rfl
  · exact writable_text _ _
  · exact writable_option _ _
  · exact writable_channels fits depth

theorem CycleConfig.toTree_writable {cycle : CycleConfig} (fits : cycle.milliseconds < limit)
    (depth : Nat) : Writable (RoomBelow limit) (depth + 1) cycle.toTree := by
  refine .table (named_of_names ["cycle_time_ms"] rfl (by decide) (by decide))
    fun entry member => ?_
  rw [List.mem_singleton.mp member]
  exact writable_natCast _ fits

theorem Log.Filter.toTree_writable (filter : Log.Filter) (depth : Nat) :
    Writable (RoomBelow limit) (depth + 1) filter.toTree := by
  refine .table (named_of_names ["level", "type_mask", "console_echo", "excluded_module_names"]
    rfl (by decide) (by decide)) fun entry member => ?_
  simp only [List.mem_cons, List.not_mem_nil, or_false] at member
  rcases member with rfl | rfl | rfl | rfl
  · exact writable_text _ _
  · exact writable_text _ _
  · exact writable_bool _ _
  · exact writable_texts _ _

theorem LogConfig.toTree_writable (log : LogConfig) (depth : Nat) :
    Writable (RoomBelow limit) (depth + 2) log.toTree := by
  refine .table (named_of_names ["module_name", "log_dir", "default_filter"] rfl (by decide)
    (by decide)) fun entry member => ?_
  simp only [List.mem_cons, List.not_mem_nil, or_false] at member
  rcases member with rfl | rfl | rfl
  · exact writable_text _ _
  · exact writable_option _ _
  · exact Log.Filter.toTree_writable log.filter depth

theorem Config.toTree_writable {config : Config} (fits : config.Fits limit) :
    Writable (RoomBelow limit) 3 config.toTree := by
  refine .table (named_of_names ["link", "driver", "log"] rfl (by decide) (by decide))
    fun entry member => ?_
  simp only [List.mem_cons, List.not_mem_nil, or_false] at member
  rcases member with rfl | rfl | rfl
  · exact LinkConfig.toTree_writable fits.link 0
  · exact CycleConfig.toTree_writable fits.cycle 1
  · exact LogConfig.toTree_writable config.log 0

end Shapes

/-! ## Texts -/

/-- A document for whose integers there is room reads back as what the format keeps of it. -/
theorem Format.parse_print (format : Format) {depth : Nat} {entries : List (String × Tree)}
    (writable : Writable (RoomBelow format.integerLimit) depth (.table entries))
    (short : depth < depthLimit) :
    ∃ text, format.print (.table entries) = .ok text ∧
      format.parse text = .ok (format.retained (.table entries)) := by
  cases format with
  | toml =>
      -- There is room for negative integers too, but a configuration has none.
      have wider (value : Int) (below : RoomBelow Toml.integerLimit value) : Toml.Fits value :=
        ⟨Int.le_trans (by decide) below.1, below.2⟩
      exact Toml.parse_print (writable.mono wider) short
  | json => exact ⟨_, rfl, Json.parse_pretty writable.native⟩

namespace Config

/-- No channel loses its name or its size. -/
structure Keeps (removed : Removal) : Prop where
  name : ∀ place, removed [.key "link", .key "channels", .item place, .key "name"] = false
  byteSize : ∀ place,
    removed [.key "link", .key "channels", .item place, .key "byte_size"] = false

theorem parse_print_prune (format : Format) {config : Config}
    (fits : config.Fits format.integerLimit) (removed : Removal) :
    ∃ text, format.print (config.toTree.prune removed) = .ok text ∧
      format.parse text = .ok (format.retained (config.toTree.prune removed)) := by
  have writable := (toTree_writable fits).prune removed
  rw [toTree, Tree.prune] at writable ⊢
  exact format.parse_print writable (by decide)

/-- Keys that are left out of the document of a configuration read as defaults, from what the format
keeps of the document and from its text. -/
theorem read_without (format : Format) {config : Config} (fits : config.Fits format.integerLimit)
    {removed : Removal} (keeps : Keeps removed) :
    ofTree format (format.retained (config.toTree.prune removed)) = .ok (config.without removed) ∧
      ∃ text, format.print (config.toTree.prune removed) = .ok text ∧
        (format.parse text).bind (ofTree format) = .ok (config.without removed) := by
  have kept := ofTree_without format fits ⟨keeps.name, keeps.byteSize⟩
  obtain ⟨text, written, read⟩ := parse_print_prune format fits removed
  refine ⟨kept, text, written, ?_⟩
  rw [read]
  exact kept

/-- With nothing left out, the configuration itself is read. -/
theorem read_whole (format : Format) {config : Config} (fits : config.Fits format.integerLimit) :
    ofTree format (format.retained config.toTree) = .ok config ∧
      ∃ text, format.print config.toTree = .ok text ∧
        (format.parse text).bind (ofTree format) = .ok config := by
  have keeps : Keeps .nothing := ⟨fun _ => rfl, fun _ => rfl⟩
  have read := read_without format fits keeps
  rw [Tree.prune_nothing (toTree_writable fits).native, without_nothing] at read
  exact read

/-- A valid configuration reads back from its text. -/
theorem ofText_toText (format : Format) {config : Config}
    (fits : config.Fits format.integerLimit) (valid : config.validate = .ok ()) :
    ∃ text, toText format config = .ok text ∧ ofText format text = .ok config := by
  obtain ⟨_, text, written, read⟩ := read_whole format fits
  refine ⟨text, ?_, ?_⟩
  · rw [toText, written]
    rfl
  · rw [ofText, read]
    simp only [bind, Except.bind, Except.mapError, valid]
    rfl

/--
Saving and loading a configuration loses nothing, in either format, as long as its integers are in
the range of the format.  If any set of keys is left out of the document, at any depth, apart from
the names and sizes of channels, then what is read is the configuration with the defaults of the
enclosing part in the place of what was left out.  Both hold of the document itself, as far as the
format keeps it, and of its text.
-/
theorem documents_are_lossless_with_defaults (format : Format) (config : Config)
    (fits : config.Fits format.integerLimit) :
    ofTree format (format.retained config.toTree) = .ok config ∧
    (config.validate = .ok () →
      ∃ text, toText format config = .ok text ∧ ofText format text = .ok config) ∧
    ∀ removed : Removal, Keeps removed →
      ofTree format (format.retained (config.toTree.prune removed)) =
          .ok (config.without removed) ∧
        ∃ text, format.print (config.toTree.prune removed) = .ok text ∧
          (format.parse text).bind (ofTree format) = .ok (config.without removed) :=
  ⟨(read_whole format fits).1, ofText_toText format fits,
    fun _ keeps => read_without format fits keeps⟩

/-- A drive with two channels, of which one is buffered, and a log that names a directory. -/
def drive : Config where
  link :=
    { instanceName := "drive_1"
      channels := [
        { name := "speed", direction := .subscribe, byteSize := 8, buffered := true,
          bufferCapacity := 4 },
        { name := "torque", byteSize := 2 }] }
  cycle := { milliseconds := 20 }
  log :=
    { moduleName := "drive", directory := some "C:\\logs\n",
      filter := ⟨.debug, ⟨0x89⟩, true, ["net"]⟩ }

/-- The direction of the first channel is left out, and so is the level of the log. -/
def driveRemoval : Removal := fun path =>
  path == [.key "link", .key "channels", .item 0, .key "direction"] ||
    path == [.key "log", .key "default_filter", .key "level"]

theorem drive_is_saved_and_read_with_defaults :
    drive.Fits Format.toml.integerLimit ∧ drive.validate = .ok () ∧ Keeps driveRemoval ∧
      (drive.without driveRemoval).link.channels.map ChannelConfig.direction =
        [.publish, .publish] ∧
      (drive.without driveRemoval).log.filter.level = .success ∧
      (∃ text, toText .toml drive = .ok text ∧ ofText .toml text = .ok drive) ∧
      ofTree .toml (Format.toml.retained (drive.toTree.prune driveRemoval)) =
        .ok (drive.without driveRemoval) ∧
      ∃ text, Format.toml.print (drive.toTree.prune driveRemoval) = .ok text ∧
        (Format.toml.parse text).bind (ofTree .toml) = .ok (drive.without driveRemoval) := by
  have fits : drive.Fits Format.toml.integerLimit := by
    refine ⟨fun channel member => ?_, by decide⟩
    simp only [drive, List.mem_cons, List.not_mem_nil, or_false] at member
    rcases member with rfl | rfl
    · exact ⟨by decide, by decide⟩
    · exact ⟨by decide, by decide⟩
  have valid : drive.validate = .ok () := by rfl
  have keeps : Keeps driveRemoval :=
    ⟨fun _ => by simp [driveRemoval], fun _ => by simp [driveRemoval]⟩
  obtain ⟨_, lossless, defaults⟩ := documents_are_lossless_with_defaults .toml drive fits
  exact ⟨fits, valid, keeps, by decide, by decide, lossless valid, defaults driveRemoval keeps⟩

end Config

end DatasetSync
