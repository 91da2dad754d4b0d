import Mathlib.Data.List.Nodup
import FabricUpgrade.PlanSettings
import FabricUpgrade.Proofs.Settling
import FabricUpgrade.UnitGroup

/-!
# Groups and settings carry what they do not know

How groups and plan settings are read and written, name by name.  A group that was read is written with
the members that have a meaning here in front, each name once, and what it carries along behind them
(`UnitGroup.get?_toJson`), and it reads back as it was (`UnitGroup.ofJson?_toJson`).  The same goes for
plan settings.
-/

namespace FabricUpgrade

open Json Record

namespace Json

variable {names : List String} {value : Json}

/-- The record that members say by name. -/
def recordOf (members : Members) : Record :=
  ⟨fun name => members.lookup name, false⟩

/-- A value opens as a record exactly if it is an object in which no known name stands twice. -/
theorem objectRecord?_eq_some_iff {record : Record} :
    objectRecord? names value = some record ↔
      ∃ members, value = .object members ∧ (∀ name ∈ names, Members.count name members ≤ 1) ∧
        record = recordOf members := by
  cases value with
  | object members =>
    simp only [objectRecord?, Option.ite_none_right_eq_some, List.all_eq_true, decide_eq_true_eq,
      Option.some.injEq]
    constructor
    · rintro ⟨once, rfl⟩
      exact ⟨members, rfl, once, rfl⟩
    · rintro ⟨_, same, once, rfl⟩
      cases same
      exact ⟨once, rfl⟩
  | null | bool _ | number _ | string _ | array _ | unreadable =>
    constructor
    · intro opened
      cases opened
    · rintro ⟨_, same, _⟩
      cases same

/-- An optional member has its own name, if it stands there at all. -/
theorem names_memberOfOption_sublist {α : Type} {encode : α → Json} {datum : Option α} {name : String} :
    (namesOf (memberOfOption name encode datum)).Sublist [name] := by
  cases datum with
  | none => exact List.nil_sublist _
  | some _ => exact .refl _

/-- A member for a list has its own name, if it stands there at all. -/
theorem names_memberOfList_sublist {α : Type} {encode : α → Json} {values : List α} {name : String} :
    (namesOf (memberOfList name encode values)).Sublist [name] := by
  rw [memberOfList_eq]
  exact names_memberOfOption_sublist

/-- A datum that is written as an optional member reads back. -/
theorem optional_of_written {α : Type} {record : Record} {name : String} {decode : Json → Option α}
    {encode : α → Json} {datum : Option α} (field : record.field name = datum.map encode)
    (solid : ∀ value, encode value ≠ .null)
    (reads : ∀ value ∈ datum, decode (encode value) = some value) :
    record.optional name decode = some datum := by
  cases datum with
  | none => simp [Record.optional, field]
  | some value => simp [Record.optional, field, solid value, reads value rfl]

/-- A list that is written as a member where it has items reads back. -/
theorem withDefault_of_written {α : Type} {record : Record} {name : String}
    {decode : Json → Option α} {encode : α → Json} {values : List α}
    (field : record.field name = (listed? values).map fun values => .array (values.map encode))
    (reads : ∀ value ∈ values, decode (encode value) = some value) :
    record.withDefault name [] (list? decode) = some values := by
  cases values with
  | nil => simp [Record.withDefault, field, listed?]
  | cons first rest =>
    have read : list? decode (.array ((first :: rest).map encode)) = some (first :: rest) :=
      list?_array_map reads
    simpa [Record.withDefault, field, listed?] using read

/-- An object is opened that gives the names in front, each once at most, and a leftover behind. -/
theorem objectRecord?_append {own other : Members} (leftover : Leftover names other)
    (distinct : names.Nodup) (inOrder : (namesOf own).Sublist names) :
    objectRecord? names (.object (own ++ other)) = some (recordOf (own ++ other)) := by
  refine objectRecord?_eq_some_iff.2 ⟨_, rfl, fun name known => ?_, rfl⟩
  have apart := leftover.count_eq_zero known
  have least := List.nodup_iff_count_le_one.1 (distinct.sublist inOrder) name
  have counted : Members.count name own = (namesOf own).count name := by
    simp only [Members.count, namesOf, List.count, List.countP_map, Function.comp_def,
      beq_eq_decide]
  unfold Members.count at apart counted ⊢
  rw [List.countP_append]
  omega

end Json

/-- A bag is read back. -/
theorem Bag.ofJson?_toJson (bag : Bag) : Bag.ofJson? bag.toJson = some bag :=
  list?_array_map fun _ _ => rfl

namespace UnitGroup

variable {value : Json} {group : UnitGroup} {record : Record}

/-- The group is what the value says, opened as a record. -/
structure ReadFrom (value : Json) (record : Record) (group : UnitGroup) : Prop where
  carries : ∃ carried,
    (object (value.membersOf.filter fun member => member.1 ∉ fieldNames)).carried? = some carried ∧
      carried.membersOf = group.other
  id : record.required "id" string? = some group.id
  displayName : record.optional "display_name" string? = some group.displayName
  type : record.withDefault "type" "" string? = some group.type
  enabled : record.withDefault "enabled" false bool? = some group.enabled
  parallel : record.withDefault "parallel" false bool? = some group.parallel
  pauseAfterEachUnit : record.withDefault "pause_after_each_upgrade_unit" false bool? =
    some group.pauseAfterEachUnit
  extendedConfig : record.withDefault "extended_configuration" [] Bag.ofJson? =
    some group.extendedConfig

/-- A value is read as a unit group exactly if it opens as a record that says what the group is. -/
theorem ofJson?_eq_some_iff :
    UnitGroup.ofJson? value = some group ↔
      ∃ record, objectRecord? fieldNames value = some record ∧ group.ReadFrom value record := by
  simp only [ofJson?, Option.bind_eq_bind, Option.bind_eq_some_iff, Option.pure_def,
    Option.some.injEq]
  refine exists_congr fun record => and_congr_right fun _ => ⟨?_, fun read => ?_⟩
  · rintro ⟨carried, carries, id, readId, displayName, readDisplayName, type, readType, enabled,
      readEnabled, parallel, readParallel, pauses, readPauses, config, readConfig, rfl⟩
    exact ⟨⟨carried, carries, rfl⟩, readId, readDisplayName, readType, readEnabled, readParallel,
      readPauses, readConfig⟩
  · obtain ⟨carried, carries, same⟩ := read.carries
    refine ⟨carried, carries, _, read.id, _, read.displayName, _, read.type, _, read.enabled, _,
      read.parallel, _, read.pauseAfterEachUnit, _, read.extendedConfig, ?_⟩
    rw [same]

/-- What a unit group carries along is left over from its known fields. -/
theorem leftover_of_ofJson? (read : UnitGroup.ofJson? value = some group) :
    Leftover fieldNames group.other := by
  obtain ⟨record, -, read⟩ := ofJson?_eq_some_iff.1 read
  obtain ⟨carried, carries, same⟩ := read.carries
  exact same ▸ leftover_of_carried? carries

/-- The members of a group that have a meaning here. -/
def ownMembers (group : UnitGroup) : Members :=
  [("id", .string group.id)]
    ++ memberOfOption "display_name" .string group.displayName
    ++ [("type", .string group.type), ("enabled", .bool group.enabled),
      ("parallel", .bool group.parallel),
      ("pause_after_each_upgrade_unit", .bool group.pauseAfterEachUnit)]
    ++ memberOfList "extended_configuration" BagEntry.toJson group.extendedConfig

/-- A unit group is written as its own members and those it carries along. -/
theorem toJson_eq (group : UnitGroup) : group.toJson = .object (group.ownMembers ++ group.other) :=
  rfl

/-- Of the names with a meaning here each is written once at most, and no others. -/
theorem names_ownMembers_sublist (group : UnitGroup) :
    (namesOf group.ownMembers).Sublist fieldNames := by
  simp only [ownMembers, namesOf, List.map_append]
  exact ((List.Sublist.refl ["id"]).append names_memberOfOption_sublist).append
    (List.Sublist.refl _) |>.append names_memberOfList_sublist

/-- The fields of a unit group have different names. -/
theorem nodup_fieldNames : fieldNames.Nodup := by
  decide

/-- What is written under a name that has a meaning here. -/
def written? (group : UnitGroup) (name : String) : Option Json :=
  match name with
  | "id" => some (.string group.id)
  | "display_name" => group.displayName.map .string
  | "type" => some (.string group.type)
  | "enabled" => some (.bool group.enabled)
  | "parallel" => some (.bool group.parallel)
  | "pause_after_each_upgrade_unit" => some (.bool group.pauseAfterEachUnit)
  | "extended_configuration" =>
    (listed? group.extendedConfig).map fun entries => .array (entries.map BagEntry.toJson)
  | _ => none

/-- A name holds what is written under it, or else what is carried along. -/
theorem get?_toJson (group : UnitGroup) (name : String) :
    group.toJson.get? name = (group.written? name).or (group.other.lookup name) := by
  rw [toJson_eq, get?, List.lookup_append]
  congr 1
  unfold written?
  split <;>
    simp_all [ownMembers, List.lookup_append, lookup_memberOfOption, lookup_memberOfList]

/-- Under each known name stands what is written of the unit group there. -/
theorem get?_toJson_of_known (leftover : Leftover fieldNames group.other) {name : String}
    (known : name ∈ fieldNames) : group.toJson.get? name = group.written? name := by
  rw [get?_toJson, leftover.lookup_eq_none known, Option.or_none]

/-- A group that carries along what is left over beside its own names reads back. -/
theorem ofJson?_toJson (leftover : Leftover fieldNames group.other) :
    UnitGroup.ofJson? group.toJson = some group := by
  have opened := objectRecord?_append leftover nodup_fieldNames group.names_ownMembers_sublist
  have field (name : String) (known : name ∈ fieldNames) :
      (recordOf (group.ownMembers ++ group.other)).field name = group.written? name :=
    get?_toJson_of_known leftover known
  refine ofJson?_eq_some_iff.2 ⟨_, opened, ?_⟩
  exact
    { carries := ⟨_, leftover.carried?_append fun name there =>
        group.names_ownMembers_sublist.subset there, rfl⟩
      id := by simp [Record.required, field "id" (by decide), written?, string?]
      displayName := optional_of_written (field "display_name" (by decide)) nofun fun _ _ => rfl
      type := by simp [Record.withDefault, field "type" (by decide), written?, string?]
      enabled := by simp [Record.withDefault, field "enabled" (by decide), written?, bool?]
      parallel := by simp [Record.withDefault, field "parallel" (by decide), written?, bool?]
      pauseAfterEachUnit := by
        simp [Record.withDefault, field "pause_after_each_upgrade_unit" (by decide), written?, bool?]
      extendedConfig := withDefault_of_written (field "extended_configuration" (by decide))
        fun _ _ => rfl }

end UnitGroup

namespace PlanSettings

variable {value : Json} {settings : PlanSettings} {record : Record}

/-- The settings are what the value says, opened as a record. -/
structure ReadFrom (value : Json) (record : Record) (settings : PlanSettings) : Prop where
  carries : ∃ carried,
    (object (value.membersOf.filter fun member => member.1 ∉ fieldNames)).carried? = some carried ∧
      carried.membersOf = settings.other
  parallel : record.optional "parallel" bool? = some settings.parallel
  pauseOnError : record.optional "pause_on_error" bool? = some settings.pauseOnError

/-- A value is read as plan settings exactly if it opens as a record that says what they are. -/
theorem ofJson?_eq_some_iff :
    PlanSettings.ofJson? value = some settings ↔
      ∃ record, objectRecord? fieldNames value = some record ∧ settings.ReadFrom value record := by
  simp only [ofJson?, Option.bind_eq_bind, Option.bind_eq_some_iff, Option.pure_def,
    Option.some.injEq]
  refine exists_congr fun record => and_congr_right fun _ => ⟨?_, fun read => ?_⟩
  · rintro ⟨carried, carries, parallel, readParallel, pauses, readPauses, rfl⟩
    exact ⟨⟨carried, carries, rfl⟩, readParallel, readPauses⟩
  · obtain ⟨carried, carries, same⟩ := read.carries
    refine ⟨carried, carries, _, read.parallel, _, read.pauseOnError, ?_⟩
    rw [same]

/-- What plan settings carry along is left over from their known fields. -/
theorem leftover_of_ofJson? (read : PlanSettings.ofJson? value = some settings) :
    Leftover fieldNames settings.other := by
  obtain ⟨record, -, read⟩ := ofJson?_eq_some_iff.1 read
  obtain ⟨carried, carries, same⟩ := read.carries
  exact same ▸ leftover_of_carried? carries

/-- The members of settings that have a meaning here. -/
def ownMembers (settings : PlanSettings) : Members :=
  memberOfOption "parallel" .bool settings.parallel
    ++ memberOfOption "pause_on_error" .bool settings.pauseOnError

/-- Plan settings are written as their own members and those they carry along. -/
theorem toJson_eq (settings : PlanSettings) :
    settings.toJson = .object (settings.ownMembers ++ settings.other) :=
  rfl

/-- Their own members have their names in the order of the fields. -/
theorem names_ownMembers_sublist (settings : PlanSettings) :
    (namesOf settings.ownMembers).Sublist fieldNames := by
  simp only [ownMembers, namesOf, List.map_append]
  exact List.Sublist.append names_memberOfOption_sublist names_memberOfOption_sublist

/-- The fields of plan settings have different names. -/
theorem nodup_fieldNames : fieldNames.Nodup := by
  decide

/-- What is written under a name that has a meaning here. -/
def written? (settings : PlanSettings) (name : String) : Option Json :=
  match name with
  | "parallel" => settings.parallel.map .bool
  | "pause_on_error" => settings.pauseOnError.map .bool
  | _ => none

/-- A name holds what is written under it, or else what is carried along. -/
theorem get?_toJson (settings : PlanSettings) (name : String) :
    settings.toJson.get? name = (settings.written? name).or (settings.other.lookup name) := by
  rw [toJson_eq, get?, List.lookup_append]
  congr 1
  unfold written?
  split <;> simp_all [ownMembers, List.lookup_append, lookup_memberOfOption]

/-- Under each known name stands what is written of the plan settings there. -/
theorem get?_toJson_of_known (leftover : Leftover fieldNames settings.other) {name : String}
    (known : name ∈ fieldNames) : settings.toJson.get? name = settings.written? name := by
  rw [get?_toJson, leftover.lookup_eq_none known, Option.or_none]

/-- Settings that carry along what is left over beside their own names read back. -/
theorem ofJson?_toJson (leftover : Leftover fieldNames settings.other) :
    PlanSettings.ofJson? settings.toJson = some settings := by
  have opened := objectRecord?_append leftover nodup_fieldNames settings.names_ownMembers_sublist
  have field (name : String) (known : name ∈ fieldNames) :
      (recordOf (settings.ownMembers ++ settings.other)).field name = settings.written? name :=
    get?_toJson_of_known leftover known
  refine ofJson?_eq_some_iff.2 ⟨_, opened, ?_⟩
  exact
    { carries := ⟨_, leftover.carried?_append fun name there =>
        settings.names_ownMembers_sublist.subset there, rfl⟩
      parallel := optional_of_written (field "parallel" (by decide)) nofun fun _ _ => rfl
      pauseOnError := optional_of_written (field "pause_on_error" (by decide)) nofun
        fun _ _ => rfl }

end PlanSettings

end FabricUpgrade
