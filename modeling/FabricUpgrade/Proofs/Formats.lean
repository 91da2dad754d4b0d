import FabricUpgrade.Proofs.Encoding
import FabricUpgrade.Proofs.Legible

/-!
# Texts that are read and written again

Twelve formats of texts are read and written here.  Each is `Format.Faithful`: what was decoded decodes
from its encoding, and the encoding is sound wherever the value was scanned.  So a text that is accepted
can be written again from what it was decoded to, is accepted again as the same, and from then on stays
as it is (`WireType.rewrites`).  The one assumption is that the decimals among the members that are
carried along come back.
-/

namespace FabricUpgrade

open Json

/-!
## What is encoded is sound
-/

section Sound

variable {limit : Nat}

/-- A signed integer of sixty-four bits fits into a word. -/
theorem Json.isWord_of_isInt64 {value : Int} (fits : IsInt64 value) : IsWord value := by
  obtain ⟨least, greatest⟩ := fits
  refine ⟨least, ?_⟩
  have narrower : negativeCount < wordCount := by decide
  omega

/-- A natural number below the count of the words fits into one. -/
theorem Json.isWord_nat {value : Nat} (fits : value < wordCount) : IsWord value :=
  ⟨by omega, by omega⟩

theorem BagEntry.sound_toJson (entry : BagEntry) : Sound (limit + 1) entry.toJson :=
  Sound.object_iff.2 (by simp)

theorem Bag.sound_toJson (bag : Bag) : Sound (limit + 2) bag.toJson :=
  Sound.array_map fun entry _ => entry.sound_toJson

/-- A unit group is written soundly if the members it carries along are sound. -/
theorem UnitGroup.sound_toJson {group : UnitGroup} (other : Members.Sound (limit + 2) group.other) :
    Sound (limit + 3) group.toJson := by
  have id : Members.Sound (limit + 2) [("id", .string group.id)] := by simp
  have options : Members.Sound (limit + 2) [("type", .string group.type),
      ("enabled", .bool group.enabled), ("parallel", .bool group.parallel),
      ("pause_after_each_upgrade_unit", .bool group.pauseAfterEachUnit)] := by simp
  exact Sound.object_iff.2 (id.append .text |>.append options
    |>.append (.memberOfList fun entry _ => BagEntry.sound_toJson entry) |>.append other)

/-- A unit group carries along only sound members of what could be read. -/
theorem UnitGroup.sound_other {value : Json} {group : UnitGroup} (scanned : Scanned (limit + 1) value)
    (decoded : UnitGroup.ofJson? value = some group) : Members.Sound limit group.other := by
  obtain ⟨record, -, read⟩ := UnitGroup.ofJson?_eq_some_iff.1 decoded
  obtain ⟨carried, carries, same⟩ := read.carries
  exact same ▸ sound_of_carried? scanned carries

/-- Plan settings are written soundly if the members they carry along are sound. -/
theorem PlanSettings.sound_toJson {settings : PlanSettings}
    (other : Members.Sound limit settings.other) : Sound (limit + 1) settings.toJson := by
  have flag {name : String} {datum : Option Bool} :
      Members.Sound limit (memberOfOption name .bool datum) :=
    .memberOfOption fun flag _ => .bool flag
  exact Sound.object_iff.2 (flag.append flag |>.append other)

/-- Plan settings carry along only sound members of what could be read. -/
theorem PlanSettings.sound_other {value : Json} {settings : PlanSettings}
    (scanned : Scanned (limit + 1) value) (decoded : PlanSettings.ofJson? value = some settings) :
    Members.Sound limit settings.other := by
  obtain ⟨record, -, read⟩ := PlanSettings.ofJson?_eq_some_iff.1 decoded
  obtain ⟨carried, carries, same⟩ := read.carries
  exact same ▸ sound_of_carried? scanned carries

theorem ComponentRecord.sound_toJson (record : ComponentRecord) :
    Sound (limit + 1) record.toJson := by
  have front : Members.Sound limit
      [("component_type", .string record.type), ("status", record.status.toJson)] := by
    simp [Status.toJson]
  exact Sound.object_iff.2 (front.append .text |>.append .text)

theorem Summary.sound_toJson (summary : Summary) : Sound (limit + 3) summary.toJson := by
  have components : Sound (limit + 2) (.array (summary.components.map ComponentRecord.toJson)) :=
    .array_map fun record _ => record.sound_toJson
  exact Sound.object_iff.2 (by simp [Status.toJson, components])

theorem GroupStatus.sound_toJson (status : GroupStatus) : Sound (limit + 1) status.toJson :=
  Sound.object_iff.2 (by simp [Status.toJson])

theorem Placement.sound_toJson (placement : Placement) : Sound (limit + 1) placement.toJson :=
  Sound.object_iff.2 (by simp)

theorem PlanEntry.sound_toJson (entry : PlanEntry) : Sound (limit + 2) entry.toJson := by
  have map : Sound (limit + 1) (ofMap entry.extendedConfig) :=
    Sound.object_iff.2 (List.forall_mem_map.2 fun pair _ => .string pair.2)
  refine Sound.object_iff.2 (.append (by simp) ?_)
  split
  · exact .nil
  · exact Members.Sound.cons_iff.2 ⟨map, .nil⟩

theorem GroupState.sound_toJson (state : GroupState) : Sound (limit + 1) state.toJson :=
  Sound.object_iff.2 (by simp [Status.toJson])

theorem ComponentState.sound_toJson (state : ComponentState) : Sound (limit + 3) state.toJson := by
  have front : Members.Sound (limit + 2)
      [("type", .string state.type), ("status", state.status.toJson)] := by simp [Status.toJson]
  have groups : Sound (limit + 2) (.array (state.groupStates.map GroupState.toJson)) :=
    .array_map fun state _ => state.sound_toJson
  exact Sound.object_iff.2 (front.append .text |>.append .text
    |>.append (Members.Sound.cons_iff.2 ⟨groups, .nil⟩))

theorem Outputs.sound_toJson (outputs : Outputs) : Sound (limit + 5) outputs.toJson := by
  have plan : Sound (limit + 4) (.array (outputs.plan.map PlanEntry.toJson)) :=
    .array_map fun entry _ => entry.sound_toJson
  have state : Sound (limit + 4) (.array (outputs.state.map ComponentState.toJson)) :=
    .array_map fun state _ => state.sound_toJson
  exact Sound.object_iff.2 (by simp [plan, state])

/-- A condition is written soundly if its generation fits. -/
theorem Condition.sound_toJson {condition : Condition} (fits : condition.Fits) :
    Sound (limit + 1) condition.toJson :=
  Sound.object_iff.2 (.append (by simp) (.memberOfOption fun generation there =>
    .int (isWord_of_isInt64 (fits generation there))))

theorem ManagerRef.sound_toJson (ref : ManagerRef) : Sound (limit + 2) ref.toJson := by
  have credentials : Sound (limit + 1) ref.credentials.toJson := Sound.object_iff.2 (by simp)
  exact Sound.object_iff.2 (by simp [credentials])

theorem EdgeGroup.sound_toJson (group : EdgeGroup) : Sound (limit + 1) group.toJson :=
  Sound.object_iff.2 (by simp)

theorem HostGroup.sound_toJson (group : HostGroup) : Sound (limit + 1) group.toJson := by
  have front : Members.Sound limit [("id", .string group.id), ("enabled", .bool group.enabled),
      ("parallel", .bool group.parallel),
      ("pauseAfterEachUpgradeUnit", .bool group.pauseAfterEachUnit)] := by simp
  have flags : Members.Sound limit
      [("maintenanceModeConfigEvacuatePoweredOffVms", .bool group.config.evacuatePoweredOffVms),
        ("rebootlessUpgrade", .bool group.config.rebootlessUpgrade)] := by simp
  exact Sound.object_iff.2 (front.append (.memberOfOption fun mode _ => .string (HostMode.wire mode))
    |>.append (.memberOfOption fun mode _ => .string (VsanMode.wire mode)) |>.append flags)

theorem EdgeSetting.sound_toJson (setting : EdgeSetting) : Sound (limit + 1) setting.toJson :=
  Sound.object_iff.2 (by simp)

theorem HostSetting.sound_toJson (setting : HostSetting) : Sound (limit + 1) setting.toJson :=
  Sound.object_iff.2 (by simp)

/-- A spec is written soundly if its numbers fit. -/
theorem Spec.sound_toJson {spec : Spec} (fits : spec.Fits) : Sound (limit + 3) spec.toJson := by
  have time {value : Nat} (fits : value < wordCount) : Sound (limit + 2) (nat value) :=
    .int (isWord_nat fits)
  have times : Members.Sound (limit + 2) [("timeout", nat spec.wait.timeout),
      ("interval", nat spec.wait.interval), ("delay", nat spec.wait.delay)] := by
    simp [time fits.timeout, time fits.interval, time fits.delay]
  have front : Members.Sound (limit + 2)
      [("upgradePrepareReadyId", .string spec.upgradePrepareReadyId),
        ("manager", spec.manager.toJson)] := by simp [spec.manager.sound_toJson]
  exact Sound.object_iff.2 (front
    |>.append (.memberOfList fun group _ => EdgeGroup.sound_toJson group)
    |>.append (.memberOfList fun group _ => HostGroup.sound_toJson group)
    |>.append (.memberOfOption fun setting _ => EdgeSetting.sound_toJson setting)
    |>.append (.memberOfOption fun setting _ => HostSetting.sound_toJson setting)
    |>.append times)

/-- A status is written soundly if its numbers fit. -/
theorem RunStatus.sound_toJson {status : RunStatus} (fits : status.Fits) :
    Sound (limit + 5) status.toJson := by
  have phase : Members.Sound (limit + 4) [("phase", status.phase.toJson)] := by simp [Phase.toJson]
  exact Sound.object_iff.2 (phase.append .text |>.append .text
    |>.append (.memberOfList fun entry _ => PlanEntry.sound_toJson entry)
    |>.append (.memberOfList fun state _ => ComponentState.sound_toJson state) |>.append .text
    |>.append (.memberOfOption fun generation there =>
      .int (isWord_of_isInt64 (fits.generation generation there)))
    |>.append .text
    |>.append (.memberOfList fun condition there =>
      Condition.sound_toJson (fits.conditions condition there)))

end Sound

/-!
## Formats
-/

/-- A format of texts: what it is about, and how that is read and written. -/
structure Format where
  Carrier : Type
  decode? : Json → Option Carrier
  encode : Carrier → Json

namespace Format

variable {format : Format} {text : String} {datum : format.Carrier}

/-- What a text says, if it is accepted. -/
def parse? (format : Format) (text : String) : Option format.Carrier :=
  (read? text).bind format.decode?

/-- The text that says something. -/
def print (format : Format) (datum : format.Carrier) : String :=
  write (format.encode datum)

/-- The text that a text becomes when it is read and written again. -/
def rewrite? (format : Format) (text : String) : Option String :=
  (format.parse? text).map format.print

/-- What was decoded decodes from its encoding, which is sound wherever the value was scanned. -/
structure Faithful (format : Format) : Prop where
  decodes : ∀ value datum, format.decode? value = some datum →
    format.decode? (format.encode datum) = some datum
  sound : ∀ value datum, Scanned depthLimit value → format.decode? value = some datum →
    Sound depthLimit (format.encode datum)

/-- What a text says can be written and is read again as the same. -/
theorem Faithful.parse?_print (faithful : format.Faithful) (parsed : format.parse? text = some datum)
    (survive : (format.encode datum).DecimalsSurvive) :
    format.parse? (format.print datum) = some datum := by
  obtain ⟨value, read, decoded⟩ := Option.bind_eq_some_iff.1 parsed
  have sound := faithful.sound value datum (scanned_of_read? read) decoded
  have again : read? (format.print datum) = some (format.encode datum) :=
    sound.read?_write survive
  rw [parse?, again, Option.bind_some]
  exact faithful.decodes value datum decoded

end Format

/-- The types of the texts that are read and written. -/
inductive WireType where
  | unitGroup
  | planSettings
  | extendedConfig
  | summary
  | groupStatus
  | placement
  | planEntry
  | componentState
  | outputs
  | condition
  | spec
  | runStatus
deriving DecidableEq, Repr

namespace WireType

/-- The format of a type. -/
def format : WireType → Format
  | unitGroup => ⟨UnitGroup, UnitGroup.ofJson?, UnitGroup.toJson⟩
  | planSettings => ⟨PlanSettings, PlanSettings.ofJson?, PlanSettings.toJson⟩
  | extendedConfig => ⟨Bag, Bag.ofJson?, Bag.toJson⟩
  | summary => ⟨Summary, Summary.ofJson?, Summary.toJson⟩
  | groupStatus => ⟨GroupStatus, GroupStatus.ofJson?, GroupStatus.toJson⟩
  | placement => ⟨Placement, Placement.ofJson?, Placement.toJson⟩
  | planEntry => ⟨PlanEntry, PlanEntry.ofJson?, PlanEntry.toJson⟩
  | componentState => ⟨ComponentState, ComponentState.ofJson?, ComponentState.toJson⟩
  | outputs => ⟨Outputs, Outputs.ofJson?, Outputs.toJson⟩
  | condition => ⟨Condition, Condition.ofJson?, Condition.toJson⟩
  | spec => ⟨Spec, Spec.ofJson?, Spec.toJson⟩
  | runStatus => ⟨RunStatus, RunStatus.ofJson?, RunStatus.toJson⟩

/-- Every type on the wire has a faithful format. -/
theorem faithful_format (wire : WireType) : wire.format.Faithful := by
  cases wire with
  | unitGroup => exact
      { decodes := fun _ _ decoded => UnitGroup.ofJson?_toJson (UnitGroup.leftover_of_ofJson? decoded)
        sound := fun _ _ scanned decoded =>
          UnitGroup.sound_toJson (UnitGroup.sound_other scanned decoded) }
  | planSettings => exact
      { decodes := fun _ _ decoded =>
          PlanSettings.ofJson?_toJson (PlanSettings.leftover_of_ofJson? decoded)
        sound := fun _ _ scanned decoded =>
          PlanSettings.sound_toJson (PlanSettings.sound_other scanned decoded) }
  | extendedConfig => exact
      { decodes := fun _ bag _ => bag.ofJson?_toJson
        sound := fun _ bag _ _ => bag.sound_toJson }
  | summary => exact
      { decodes := fun _ summary _ => summary.ofJson?_toJson
        sound := fun _ summary _ _ => summary.sound_toJson }
  | groupStatus => exact
      { decodes := fun _ status _ => status.ofJson?_toJson
        sound := fun _ status _ _ => status.sound_toJson }
  | placement => exact
      { decodes := fun _ placement _ => placement.ofJson?_toJson
        sound := fun _ placement _ _ => placement.sound_toJson }
  | planEntry => exact
      { decodes := fun value entry decoded =>
          PlanEntry.ofJson?_toJson (PlanEntry.ordered_of_ofJson? value entry decoded)
        sound := fun _ entry _ _ => entry.sound_toJson }
  | componentState => exact
      { decodes := fun _ state _ => state.ofJson?_toJson
        sound := fun _ state _ _ => state.sound_toJson }
  | outputs => exact
      { decodes := fun _ _ decoded => Outputs.ofJson?_toJson (Outputs.fits_of_ofJson? decoded)
        sound := fun _ outputs _ _ => outputs.sound_toJson }
  | condition => exact
      { decodes := fun value condition decoded =>
          Condition.ofJson?_toJson (Condition.fits_of_ofJson? value condition decoded)
        sound := fun value condition _ decoded =>
          Condition.sound_toJson (Condition.fits_of_ofJson? value condition decoded) }
  | spec => exact
      { decodes := fun _ _ decoded => Spec.ofJson?_toJson (Spec.fits_of_ofJson? decoded)
        sound := fun _ _ _ decoded => Spec.sound_toJson (Spec.fits_of_ofJson? decoded) }
  | runStatus => exact
      { decodes := fun _ _ decoded => RunStatus.ofJson?_toJson (RunStatus.fits_of_ofJson? decoded)
        sound := fun _ _ _ decoded => RunStatus.sound_toJson (RunStatus.fits_of_ofJson? decoded) }

/-- A text that is accepted can be written again from what it says, and what is written is accepted
as the same and stays as it is when it is read and written once more.  The decimals among the members
that are carried along are to come back. -/
theorem rewrites (wire : WireType) (text : String) (datum : wire.format.Carrier)
    (parsed : wire.format.parse? text = some datum)
    (survive : (wire.format.encode datum).DecimalsSurvive) :
    ∃ again, wire.format.rewrite? text = some again ∧ wire.format.parse? again = some datum ∧
      wire.format.rewrite? again = some again := by
  have parsedAgain := (faithful_format wire).parse?_print parsed survive
  refine ⟨wire.format.print datum, ?_, parsedAgain, ?_⟩
  · rw [Format.rewrite?, parsed, Option.map_some]
  · rw [Format.rewrite?, parsedAgain, Option.map_some]

/-- A group with members that have no meaning here. -/
def revisedGroup : UnitGroup where
  id := "rack"
  enabled := true
  other := [("_revision", int 8), ("tags", .array [.object [("scope", .string "x")]])]

/-- The group as it may be given, with one of the members standing twice. -/
def revisedValue : Json :=
  .object [("tags", .array [.object [("scope", .string "x")]]), ("_revision", int 7),
    ("id", .string "rack"), ("display_name", .null), ("enabled", .bool true), ("_revision", int 8)]

/-- The text of it. -/
def revisedText : String :=
  "\x7b\"tags\":[\x7b\"scope\":\"x\"\x7d],\"_revision\":7,\"id\":\"rack\","
    ++ "\"display_name\":null,\"enabled\":true,\"_revision\":8\x7d"

/-- The revised text is read as the revised value. -/
theorem read?_revisedText : read? revisedText = some revisedValue := by
  have written : write revisedValue = revisedText := by decide +kernel
  have survive : ∀ number ∈ revisedValue.numbers, number.Survives :=
    List.forall_mem_cons.2 ⟨Number.survives_integer ⟨by decide, by decide⟩,
      List.forall_mem_singleton.2 (Number.survives_integer ⟨by decide, by decide⟩)⟩
  exact written ▸ Json.read?_write rfl (by decide) survive

/-- The revised group comes through a rewriting unchanged, its members that are not known included. -/
theorem rewrites_revised :
    unitGroup.format.parse? revisedText = some revisedGroup ∧
    (unitGroup.format.encode revisedGroup).DecimalsSurvive ∧
    ∃ again, unitGroup.format.rewrite? revisedText = some again ∧
      unitGroup.format.parse? again = some revisedGroup ∧
      unitGroup.format.rewrite? again = some again := by
  have parsed : unitGroup.format.parse? revisedText = some revisedGroup := by
    rw [Format.parse?, read?_revisedText]
    rfl
  have survive : (unitGroup.format.encode revisedGroup).DecimalsSurvive := by
    intro negative digits exponent occurs
    cases List.mem_singleton.1 occurs
  exact ⟨parsed, survive, rewrites .unitGroup revisedText revisedGroup parsed survive⟩

end WireType

end FabricUpgrade
