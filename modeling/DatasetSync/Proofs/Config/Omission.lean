import DatasetSync.Proofs.Document.Omission
import DatasetSync.Proofs.Log.Mask

/-!
# Configurations with parts left out

Every key of a configuration may be left out except the name and the size of a channel.  Whatever
set of keys is taken out of the document of a configuration, what is left reads as the configuration
with the defaults of the enclosing part in the place of what was taken out.
-/

namespace DatasetSync

/-! ## Values -/

/-- The greatest integer that a document of the format holds, plus one. -/
def Format.integerLimit : Format → Nat
  | .toml => Toml.integerLimit
  | .json => Decode.wordLimit

theorem Format.integerLimit_le (format : Format) : format.integerLimit ≤ Decode.wordLimit := by
  cases format <;> decide

section Values

variable (format : Format) (removed : Removal)

theorem Format.retained_text (content : String) :
    format.retained ((Tree.text content).prune removed) = .text content := by
  cases format <;> rfl

theorem Format.retained_bool (truth : Bool) :
    format.retained ((Tree.bool truth).prune removed) = .bool truth := by
  cases format <;> rfl

theorem Format.retained_integer (number : Int) :
    format.retained ((Tree.integer number).prune removed) = .integer number := by
  cases format <;> rfl

/-- The items of a list are kept one by one. -/
theorem Format.retained_items {α : Type} (toTree : α → Tree) (values : List α) :
    format.retained ((Tree.list (values.map toTree)).prune removed) =
      .list (values.mapIdx fun place value =>
        format.retained ((toTree value).prune (removed.under (.item place)))) := by
  rw [Tree.prune, Format.retained_list, Tree.pruneItems_eq]
  refine congrArg Tree.list (List.ext_getElem? fun place => ?_)
  simp only [List.getElem?_map, List.getElem?_mapIdx, Option.map_map, Nat.zero_add]
  rfl

end Values

theorem mapIdx_eq_self {α : Type} {given : Nat → α → α}
    (same : ∀ place value, given place value = value) (values : List α) :
    values.mapIdx given = values := by
  refine List.ext_getElem? fun place => ?_
  have whole : given place = id := funext (same place)
  rw [List.getElem?_mapIdx, whole, Option.map_id, id]

theorem mapM_mapIdx {α β : Type} {decode : Tree → Except Problem β} {given : Nat → α → Tree}
    {read : Nat → α → β} {values : List α}
    (each : ∀ place, ∀ value ∈ values, decode (given place value) = .ok (read place value)) :
    (values.mapIdx given).mapM decode = .ok (values.mapIdx read) := by
  induction values generalizing given read with
  | nil => rfl
  | cons value values ih =>
      have rest := ih fun place other member =>
        each (place + 1) other (List.mem_cons_of_mem _ member)
      rw [List.mapIdx_cons, List.mapIdx_cons, List.mapM_cons, each 0 value List.mem_cons_self, rest]
      rfl

theorem Decode.word_natCast {number : Nat} (small : number < Decode.wordLimit) :
    Decode.word (.integer number) = .ok number := by
  rw [Decode.word, if_pos ⟨Int.natCast_nonneg number, Int.ofNat_lt.mpr small⟩]
  rfl

theorem Direction.ofTree_toTree (format : Format) (direction : Direction) :
    ofTree format direction.toTree = .ok direction := by
  cases direction <;> rfl

theorem Log.Level.ofTree_toTree (format : Format) (level : Log.Level) :
    ofTree format level.toTree = .ok level := by
  cases level <;> rfl

theorem Log.Mask.ofTree_toTree (mask : Log.Mask) : ofTree mask.toTree = .ok mask := by
  unfold ofTree toTree Decode.text
  simp only [bind, Except.bind, ofText?_text]
  rfl

/-! ## Channels -/

namespace ChannelConfig

/-- The integers of the channel lie below a limit. -/
structure Fits (limit : Nat) (channel : ChannelConfig) : Prop where
  byteSize : channel.byteSize < limit
  bufferCapacity : channel.bufferCapacity < limit

/-- The channel with the defaults of a channel in the place of what is taken out. -/
def without (removed : Removal) (channel : ChannelConfig) : ChannelConfig :=
  let standard : ChannelConfig := { name := channel.name, byteSize := channel.byteSize }
  { channel with
    direction := if removed.drops "direction" then standard.direction else channel.direction
    buffered := if removed.drops "buffered" then standard.buffered else channel.buffered
    bufferCapacity :=
      if removed.drops "buffer_capacity" then standard.bufferCapacity
      else channel.bufferCapacity }

theorem ofTree_without (format : Format) {removed : Removal} {channel : ChannelConfig}
    (fits : channel.Fits format.integerLimit) (named : removed.drops "name" = false)
    (sized : removed.drops "byte_size" = false) :
    ofTree format (format.retained (channel.toTree.prune removed)) =
      .ok (channel.without removed) := by
  have distinct : ([("name", Tree.text channel.name), ("direction", channel.direction.toTree),
      ("byte_size", .integer channel.byteSize), ("buffered", .bool channel.buffered),
      ("buffer_capacity", .integer channel.bufferCapacity)].map Prod.fst).Nodup := by
    simp
  have size := Decode.word_natCast (Nat.lt_of_lt_of_le fits.byteSize format.integerLimit_le)
  have capacity :=
    Decode.word_natCast (Nat.lt_of_lt_of_le fits.bufferCapacity format.integerLimit_le)
  have name : Decode.required (Decode.left format removed _) "name" Decode.text =
      .ok channel.name :=
    Decode.required_left format removed distinct
      (congrArg Decode.text (format.retained_text _ _)) rfl nofun named
  have direction : Decode.field (Decode.left format removed _) "direction"
      (Direction.ofTree format) .publish = .ok (channel.without removed).direction :=
    Decode.field_left format removed distinct
      ((congrArg (Direction.ofTree format) (format.retained_text _ _)).trans
        (Direction.ofTree_toTree format channel.direction)) rfl nofun _
  have byteSize : Decode.required (Decode.left format removed _) "byte_size" Decode.word =
      .ok channel.byteSize :=
    Decode.required_left format removed distinct
      ((congrArg Decode.word (format.retained_integer _ _)).trans size) rfl nofun sized
  have buffered : Decode.field (Decode.left format removed _) "buffered" Decode.bool false =
      .ok (channel.without removed).buffered :=
    Decode.field_left format removed distinct
      (congrArg Decode.bool (format.retained_bool _ _)) rfl nofun _
  have bufferCapacity : Decode.field (Decode.left format removed _) "buffer_capacity" Decode.word
      Ring.standardCapacity = .ok (channel.without removed).bufferCapacity :=
    Decode.field_left format removed distinct
      ((congrArg Decode.word (format.retained_integer _ _)).trans capacity) rfl nofun _
  rw [ofTree, toTree, Decode.fields_left format removed distinct]
  simp only [bind, Except.bind, name, direction, byteSize, buffered, bufferCapacity]
  rfl

end ChannelConfig

/-! ## The link -/

namespace LinkConfig

def Fits (limit : Nat) (link : LinkConfig) : Prop :=
  ∀ channel ∈ link.channels, channel.Fits limit

structure Keeps (removed : Removal) : Prop where
  name : ∀ place, removed [.key "channels", .item place, .key "name"] = false
  byteSize : ∀ place, removed [.key "channels", .item place, .key "byte_size"] = false

def without (removed : Removal) (link : LinkConfig) : LinkConfig :=
  let standard : LinkConfig := {}
  { instanceName :=
      if removed.drops "instance_name" then standard.instanceName else link.instanceName
    aliasName := if removed.drops "alias" then standard.aliasName else link.aliasName
    channels :=
      if removed.drops "channels" then standard.channels
      else link.channels.mapIdx fun place channel =>
        channel.without ((removed.under (.key "channels")).under (.item place)) }

theorem channels_without (format : Format) {removed : Removal} {link : LinkConfig}
    (fits : link.Fits format.integerLimit) (keeps : Keeps removed) :
    Decode.list (ChannelConfig.ofTree format) (format.retained
        ((Tree.list (link.channels.map ChannelConfig.toTree)).prune
          (removed.under (.key "channels")))) =
      .ok (link.channels.mapIdx fun place channel =>
        channel.without ((removed.under (.key "channels")).under (.item place))) := by
  rw [format.retained_items]
  exact mapM_mapIdx fun place channel member =>
    ChannelConfig.ofTree_without format (fits channel member) (keeps.name place)
      (keeps.byteSize place)

theorem ofTree_without (format : Format) {removed : Removal} {link : LinkConfig}
    (fits : link.Fits format.integerLimit) (keeps : Keeps removed) :
    ofTree format (format.retained (link.toTree.prune removed)) = .ok (link.without removed) := by
  have distinct : ([("instance_name", Tree.text link.instanceName),
      ("alias", (link.aliasName.map Tree.text).getD .null),
      ("channels", .list (link.channels.map ChannelConfig.toTree))].map Prod.fst).Nodup := by
    simp
  have instanceName : Decode.field (Decode.left format removed _) "instance_name" Decode.text
      "exsync_0" = .ok (link.without removed).instanceName :=
    Decode.field_left format removed distinct
      (congrArg Decode.text (format.retained_text _ _)) rfl nofun _
  have aliasName : Decode.field (Decode.left format removed _) "alias"
      (Decode.option Decode.text) none = .ok (link.without removed).aliasName :=
    Decode.field_option_left format removed distinct rfl
  have channels : Decode.field (Decode.left format removed _) "channels"
      (Decode.list (ChannelConfig.ofTree format)) [] = .ok (link.without removed).channels :=
    Decode.field_left format removed distinct (channels_without format fits keeps) rfl nofun _
  rw [ofTree, toTree, Decode.fields_left format removed distinct]
  simp only [bind, Except.bind, instanceName, aliasName, channels]
  rfl

end LinkConfig

/-! ## The cycle -/

namespace CycleConfig

def without (removed : Removal) (cycle : CycleConfig) : CycleConfig :=
  let standard : CycleConfig := {}
  { milliseconds :=
      if removed.drops "cycle_time_ms" then standard.milliseconds else cycle.milliseconds }

theorem ofTree_without (format : Format) (removed : Removal) {cycle : CycleConfig}
    (fits : cycle.milliseconds < format.integerLimit) :
    ofTree format (format.retained (cycle.toTree.prune removed)) =
      .ok (cycle.without removed) := by
  have distinct : ([("cycle_time_ms", Tree.integer cycle.milliseconds)].map Prod.fst).Nodup := by
    simp
  have read := Decode.word_natCast (Nat.lt_of_lt_of_le fits format.integerLimit_le)
  have milliseconds : Decode.field (Decode.left format removed _) "cycle_time_ms" Decode.word 10 =
      .ok (cycle.without removed).milliseconds :=
    Decode.field_left format removed distinct
      ((congrArg Decode.word (format.retained_integer _ _)).trans read) rfl nofun _
  rw [ofTree, toTree, Decode.fields_left format removed distinct]
  simp only [bind, Except.bind, milliseconds]
  rfl

end CycleConfig

/-! ## The log -/

namespace Log.Filter

def without (removed : Removal) (filter : Filter) : Filter where
  level := if removed.drops "level" then standard.level else filter.level
  mask := if removed.drops "type_mask" then standard.mask else filter.mask
  echo := if removed.drops "console_echo" then standard.echo else filter.echo
  excluded := if removed.drops "excluded_module_names" then standard.excluded else filter.excluded

theorem excluded_without (format : Format) (removed : Removal) (names : List String) :
    Decode.list Decode.text
        (format.retained ((Tree.list (names.map Tree.text)).prune removed)) = .ok names := by
  have read : (names.mapIdx fun place name =>
      format.retained ((Tree.text name).prune (removed.under (.item place)))).mapM Decode.text =
        .ok (names.mapIdx fun _ name => name) :=
    mapM_mapIdx fun place name member => congrArg Decode.text (format.retained_text _ name)
  rw [format.retained_items, Decode.list, read, mapIdx_eq_self fun _ _ => rfl]

theorem ofTree_without (format : Format) (removed : Removal) (filter : Filter) :
    ofTree format (format.retained (filter.toTree.prune removed)) =
      .ok (filter.without removed) := by
  have distinct : ([("level", filter.level.toTree), ("type_mask", filter.mask.toTree),
      ("console_echo", .bool filter.echo),
      ("excluded_module_names", Tree.list (filter.excluded.map .text))].map Prod.fst).Nodup := by
    simp
  have level : Decode.field (Decode.left format removed _) "level" (Level.ofTree format)
      standard.level = .ok (filter.without removed).level :=
    Decode.field_left format removed distinct
      ((congrArg (Level.ofTree format) (format.retained_text _ _)).trans
        (Level.ofTree_toTree format filter.level)) rfl nofun _
  have mask : Decode.field (Decode.left format removed _) "type_mask" Mask.ofTree standard.mask =
      .ok (filter.without removed).mask :=
    Decode.field_left format removed distinct
      ((congrArg Mask.ofTree (format.retained_text _ _)).trans
        (Mask.ofTree_toTree filter.mask)) rfl nofun _
  have echo : Decode.field (Decode.left format removed _) "console_echo" Decode.bool
      standard.echo = .ok (filter.without removed).echo :=
    Decode.field_left format removed distinct
      (congrArg Decode.bool (format.retained_bool _ _)) rfl nofun _
  have excluded : Decode.field (Decode.left format removed _) "excluded_module_names"
      (Decode.list Decode.text) standard.excluded = .ok (filter.without removed).excluded :=
    Decode.field_left format removed distinct (excluded_without format _ _) rfl nofun _
  rw [ofTree, toTree, Decode.fields_left format removed distinct]
  simp only [bind, Except.bind, level, mask, echo, excluded]
  rfl

end Log.Filter

namespace LogConfig

def without (removed : Removal) (log : LogConfig) : LogConfig :=
  let standard : LogConfig := {}
  { moduleName := if removed.drops "module_name" then standard.moduleName else log.moduleName
    directory := if removed.drops "log_dir" then standard.directory else log.directory
    filter :=
      if removed.drops "default_filter" then standard.filter
      else log.filter.without (removed.under (.key "default_filter")) }

theorem ofTree_without (format : Format) (removed : Removal) (log : LogConfig) :
    ofTree format (format.retained (log.toTree.prune removed)) = .ok (log.without removed) := by
  have distinct : ([("module_name", Tree.text log.moduleName),
      ("log_dir", (log.directory.map Tree.text).getD .null),
      ("default_filter", log.filter.toTree)].map Prod.fst).Nodup := by
    simp
  have moduleName : Decode.field (Decode.left format removed _) "module_name" Decode.text
      "exsync" = .ok (log.without removed).moduleName :=
    Decode.field_left format removed distinct
      (congrArg Decode.text (format.retained_text _ _)) rfl nofun _
  have directory : Decode.field (Decode.left format removed _) "log_dir"
      (Decode.option Decode.text) none = .ok (log.without removed).directory :=
    Decode.field_option_left format removed distinct rfl
  have filter : Decode.field (Decode.left format removed _) "default_filter"
      (Log.Filter.ofTree format) Log.Filter.standard = .ok (log.without removed).filter :=
    Decode.field_left format removed distinct
      (Log.Filter.ofTree_without format _ log.filter) rfl nofun _
  rw [ofTree, toTree, Decode.fields_left format removed distinct]
  simp only [bind, Except.bind, moduleName, directory, filter]
  rfl

end LogConfig

/-! ## The whole -/

namespace Config

structure Fits (limit : Nat) (config : Config) : Prop where
  link : config.link.Fits limit
  cycle : config.cycle.milliseconds < limit

/-- The configuration with defaults in the place of what is taken out. -/
def without (removed : Removal) (config : Config) : Config where
  link :=
    if removed.drops "link" then standard.link
    else config.link.without (removed.under (.key "link"))
  cycle :=
    if removed.drops "driver" then standard.cycle
    else config.cycle.without (removed.under (.key "driver"))
  log :=
    if removed.drops "log" then standard.log
    else config.log.without (removed.under (.key "log"))

/-- A configuration out of which nothing is taken stays as it is. -/
theorem without_nothing (config : Config) : config.without .nothing = config := by
  have channels : (config.link.without .nothing).channels = config.link.channels :=
    mapIdx_eq_self (fun _ _ => rfl) config.link.channels
  have link : config.link.without .nothing = config.link :=
    congrArg (LinkConfig.mk config.link.instanceName config.link.aliasName) channels
  exact congrArg (Config.mk · config.cycle config.log) link

/-- What is left of the document of a configuration reads as the configuration with defaults. -/
theorem ofTree_without (format : Format) {removed : Removal} {config : Config}
    (fits : config.Fits format.integerLimit)
    (keeps : LinkConfig.Keeps (removed.under (.key "link"))) :
    ofTree format (format.retained (config.toTree.prune removed)) =
      .ok (config.without removed) := by
  have distinct : ([("link", config.link.toTree), ("driver", config.cycle.toTree),
      ("log", config.log.toTree)].map Prod.fst).Nodup := by
    simp
  have link : Decode.field (Decode.left format removed _) "link" (LinkConfig.ofTree format)
      standard.link = .ok (config.without removed).link :=
    Decode.field_left format removed distinct
      (LinkConfig.ofTree_without format fits.link keeps) rfl nofun _
  have cycle : Decode.field (Decode.left format removed _) "driver" (CycleConfig.ofTree format)
      standard.cycle = .ok (config.without removed).cycle :=
    Decode.field_left format removed distinct
      (CycleConfig.ofTree_without format _ fits.cycle) rfl nofun _
  have log : Decode.field (Decode.left format removed _) "log" (LogConfig.ofTree format)
      standard.log = .ok (config.without removed).log :=
    Decode.field_left format removed distinct
      (LogConfig.ofTree_without format _ config.log) rfl nofun _
  rw [ofTree, toTree, Decode.fields_left format removed distinct]
  simp only [bind, Except.bind, link, cycle, log]
  rfl

end Config

end DatasetSync
