import FabricUpgrade.Proofs.Carrying
import FabricUpgrade.Proofs.Overlay

/-!
# What is encoded decodes

The records that are read and written as a whole read back as they were written: what the manager says
of an upgrade and of its groups, placements, outputs, and the two sides of a declared run.  For most
nothing has to be known of the record; a spec has to have waiting times of 64 bits, and outputs maps in
the order of their keys, as they do when they were read themselves.
-/

namespace FabricUpgrade

open Json Record

namespace Json

variable {names : List String}

/-- An object is opened as a record if it gives some of the names in their order, each once. -/
theorem record?_object {own : Members} (distinct : names.Nodup)
    (inOrder : (namesOf own).Sublist names) : record? names (.object own) = some (recordOf own) := by
  have nothing : Leftover names [] := ⟨nofun, rfl, rfl⟩
  have opened := objectRecord?_append nothing distinct inOrder
  rwa [List.append_nil] at opened

/-- A natural number that fits into a word is read back. -/
theorem word64?_nat {value : Nat} (fits : value < wordCount) : word64? (nat value) = some value := by
  have within : (0 : Int) ≤ value ∧ (value : Int) ≤ wordCount - 1 := by omega
  simp [word64?, natBelow?, intWithin?, nat, int, within]

/-- A word that is read fits into one. -/
theorem lt_of_word64? {value : Json} {number : Nat} (read : value.word64? = some number) :
    number < wordCount := by
  obtain ⟨integer, within, rfl⟩ := Option.map_eq_some_iff.1 read
  unfold intWithin? at within
  split at within
  · obtain ⟨⟨least, greatest⟩, same⟩ := Option.ite_none_right_eq_some.1 within
    cases same
    omega
  · cases within

end Json

/-!
## What the manager says
-/

theorem ComponentRecord.ofJson?_toJson (record : ComponentRecord) :
    ComponentRecord.ofJson? record.toJson = some record := by
  obtain ⟨type, status, details, targetVersion⟩ := record
  calc ComponentRecord.ofJson? _ = (Status.ofJson? status.toJson).bind fun status =>
        some ⟨type, status, details, targetVersion⟩ := by
        cases details <;> cases targetVersion <;> rfl
    _ = some _ := by rw [Status.ofJson?_toJson, Option.bind_some]

theorem Summary.ofJson?_toJson (summary : Summary) :
    Summary.ofJson? summary.toJson = some summary := by
  obtain ⟨overall, components⟩ := summary
  have records : list? ComponentRecord.ofJson? (.array (components.map ComponentRecord.toJson)) =
      some components := list?_array_map fun record _ => record.ofJson?_toJson
  calc Summary.ofJson? _ = (Status.ofJson? overall.toJson).bind fun overall =>
        (list? ComponentRecord.ofJson? (.array (components.map ComponentRecord.toJson))).bind
          fun components => some ⟨overall, components⟩ := rfl
    _ = some _ := by rw [Status.ofJson?_toJson, Option.bind_some, records, Option.bind_some]

theorem GroupStatus.ofJson?_toJson (status : GroupStatus) :
    GroupStatus.ofJson? status.toJson = some status := by
  calc GroupStatus.ofJson? status.toJson = (Status.ofJson? status.status.toJson).bind fun shown =>
        some ⟨status.groupId, status.groupName, shown⟩ := rfl
    _ = some status := by rw [Status.ofJson?_toJson, Option.bind_some]

theorem Placement.ofJson?_toJson (placement : Placement) :
    Placement.ofJson? placement.toJson = some placement :=
  rfl

/-!
## Outputs
-/

namespace Outputs

/-- The maps of the groups are in the order of their keys. -/
def Fits (outputs : Outputs) : Prop :=
  ∀ entry ∈ outputs.plan, SortedMap.Ordered entry.extendedConfig

/-- Outputs whose maps are in order are read back. -/
theorem ofJson?_toJson {outputs : Outputs} (fits : outputs.Fits) :
    Outputs.ofJson? outputs.toJson = some outputs := by
  have plan : list? PlanEntry.ofJson? (.array (outputs.plan.map PlanEntry.toJson)) =
      some outputs.plan := list?_array_map fun entry there => PlanEntry.ofJson?_toJson (fits entry there)
  have state : list? ComponentState.ofJson? (.array (outputs.state.map ComponentState.toJson)) =
      some outputs.state := list?_array_map fun state _ => state.ofJson?_toJson
  calc Outputs.ofJson? outputs.toJson =
        (list? PlanEntry.ofJson? (.array (outputs.plan.map PlanEntry.toJson))).bind fun plan =>
          (list? ComponentState.ofJson? (.array (outputs.state.map ComponentState.toJson))).bind
            fun state => some ⟨plan, state⟩ := rfl
    _ = some outputs := by rw [plan, Option.bind_some, state, Option.bind_some]

/-- The maps of outputs that were read are in order. -/
theorem fits_of_ofJson? {value : Json} {outputs : Outputs}
    (read : Outputs.ofJson? value = some outputs) : outputs.Fits := by
  simp only [ofJson?, Option.bind_eq_bind, Option.bind_eq_some_iff, Option.pure_def,
    Option.some.injEq] at read
  obtain ⟨record, -, plan, readPlan, state, -, rfl⟩ := read
  have ordered : ∀ entry ∈ plan, SortedMap.Ordered entry.extendedConfig :=
    withDefault_sound nofun (fun _ _ => forall_mem_of_list? PlanEntry.ordered_of_ofJson?) readPlan
  exact ordered

end Outputs

/-!
## Specs
-/

theorem ManagerRef.ofJson?_toJson (ref : ManagerRef) :
    ManagerRef.ofJson? ref.toJson = some ref :=
  rfl

theorem EdgeGroup.ofJson?_toJson (group : EdgeGroup) :
    EdgeGroup.ofJson? group.toJson = some group :=
  rfl

theorem HostGroup.ofJson?_toJson (group : HostGroup) :
    HostGroup.ofJson? group.toJson = some group := by
  obtain ⟨id, enabled, parallel, pauses, upgradeMode, vsanMode, evacuates, rebootless⟩ := group
  have mode : upgradeMode.elim (some none) (fun mode => (HostMode.ofWire? mode.wire).map some) =
      some upgradeMode := by
    cases upgradeMode <;> simp [HostMode.ofWire?_wire]
  have vsan : vsanMode.elim (some none) (fun mode => (VsanMode.ofWire? mode.wire).map some) =
      some vsanMode := by
    cases vsanMode <;> simp [VsanMode.ofWire?_wire]
  calc HostGroup.ofJson? _ =
        (upgradeMode.elim (some none) fun mode => (HostMode.ofWire? mode.wire).map some).bind
          fun upgradeMode =>
            (vsanMode.elim (some none) fun mode => (VsanMode.ofWire? mode.wire).map some).bind
              fun vsanMode =>
                some ⟨id, enabled, parallel, pauses, upgradeMode, vsanMode, evacuates, rebootless⟩ := by
        cases upgradeMode <;> cases vsanMode <;> rfl
    _ = some _ := by rw [mode, Option.bind_some, vsan, Option.bind_some]

theorem EdgeSetting.ofJson?_toJson (setting : EdgeSetting) :
    EdgeSetting.ofJson? setting.toJson = some setting :=
  rfl

theorem HostSetting.ofJson?_toJson (setting : HostSetting) :
    HostSetting.ofJson? setting.toJson = some setting :=
  rfl

namespace Spec

variable {value : Json} {spec : Spec}

/-- The waiting times have 64 bits. -/
structure Fits (spec : Spec) : Prop where
  timeout : spec.wait.timeout < wordCount
  interval : spec.wait.interval < wordCount
  delay : spec.wait.delay < wordCount

/-- The waiting times of a spec that was read fit into a word. -/
theorem fits_of_ofJson? (read : Spec.ofJson? value = some spec) : spec.Fits := by
  simp only [ofJson?, Option.bind_eq_bind, Option.bind_eq_some_iff, Option.pure_def,
    Option.some.injEq] at read
  obtain ⟨record, -, id, -, manager, -, edges, -, hosts, -, edge, -, host, -, timeout, readTimeout,
    interval, readInterval, delay, readDelay, rfl⟩ := read
  have bounded {name : String} {default number : Nat} (fits : default < wordCount)
      (read : record.withDefault name default word64? = some number) : number < wordCount := by
    unfold Record.withDefault at read
    split at read
    · cases read
      exact fits
    · exact lt_of_word64? read
  exact ⟨bounded (by decide) readTimeout, bounded (by decide) readInterval,
    bounded (by decide) readDelay⟩

/-- The names of the fields of a spec. -/
def fieldNames : List String :=
  ["upgradePrepareReadyId", "manager", "edgeGroups", "hostGroups", "edgeUpgradeSetting",
    "hostUpgradeSetting", "timeout", "interval", "delay"]

/-- The members that a spec is written as. -/
def members (spec : Spec) : Members :=
  [("upgradePrepareReadyId", .string spec.upgradePrepareReadyId), ("manager", spec.manager.toJson)]
    ++ memberOfList "edgeGroups" EdgeGroup.toJson spec.edgeGroups
    ++ memberOfList "hostGroups" HostGroup.toJson spec.hostGroups
    ++ memberOfOption "edgeUpgradeSetting" EdgeSetting.toJson spec.edgeSetting
    ++ memberOfOption "hostUpgradeSetting" HostSetting.toJson spec.hostSetting
    ++ [("timeout", nat spec.wait.timeout), ("interval", nat spec.wait.interval),
      ("delay", nat spec.wait.delay)]

/-- A spec is written as the object of its members. -/
theorem toJson_eq (spec : Spec) : spec.toJson = .object spec.members :=
  rfl

/-- The members of a spec have their names in the order of the fields. -/
theorem names_members_sublist (spec : Spec) : (namesOf spec.members).Sublist fieldNames := by
  simp only [members, namesOf, List.map_append]
  exact List.Sublist.refl ["upgradePrepareReadyId", "manager"]
    |>.append names_memberOfList_sublist |>.append names_memberOfList_sublist
    |>.append names_memberOfOption_sublist |>.append names_memberOfOption_sublist
    |>.append (.refl _)

/-- What is written under a name. -/
def written? (spec : Spec) (name : String) : Option Json :=
  match name with
  | "upgradePrepareReadyId" => some (.string spec.upgradePrepareReadyId)
  | "manager" => some spec.manager.toJson
  | "edgeGroups" =>
    (listed? spec.edgeGroups).map fun groups => .array (groups.map EdgeGroup.toJson)
  | "hostGroups" =>
    (listed? spec.hostGroups).map fun groups => .array (groups.map HostGroup.toJson)
  | "edgeUpgradeSetting" => spec.edgeSetting.map EdgeSetting.toJson
  | "hostUpgradeSetting" => spec.hostSetting.map HostSetting.toJson
  | "timeout" => some (nat spec.wait.timeout)
  | "interval" => some (nat spec.wait.interval)
  | "delay" => some (nat spec.wait.delay)
  | _ => none

/-- Under each name stands what is written of the spec there. -/
theorem lookup_members (name : String) : spec.members.lookup name = spec.written? name := by
  unfold written?
  split <;>
    simp_all [members, List.lookup_append, lookup_memberOfOption, lookup_memberOfList]

/-- A spec reads back as it was written. -/
theorem ofJson?_toJson (fits : spec.Fits) : Spec.ofJson? spec.toJson = some spec := by
  have opened : record? fieldNames (.object spec.members) = some (recordOf spec.members) :=
    record?_object (by decide) spec.names_members_sublist
  have field (name : String) : (recordOf spec.members).field name = spec.written? name :=
    lookup_members name
  have id : (recordOf spec.members).required "upgradePrepareReadyId" string? =
      some spec.upgradePrepareReadyId := by
    rw [Record.required, field]
    rfl
  have manager : (recordOf spec.members).required "manager" ManagerRef.ofJson? =
      some spec.manager := by
    rw [Record.required, field]
    exact spec.manager.ofJson?_toJson
  have edges := withDefault_of_written (field "edgeGroups") fun group _ => group.ofJson?_toJson
  have hosts := withDefault_of_written (field "hostGroups") fun group _ => group.ofJson?_toJson
  have edge := optional_of_written (field "edgeUpgradeSetting") (fun _ null => by cases null)
    fun setting _ => setting.ofJson?_toJson
  have host := optional_of_written (field "hostUpgradeSetting") (fun _ null => by cases null)
    fun setting _ => setting.ofJson?_toJson
  have timeout : (recordOf spec.members).withDefault "timeout" 3600 word64? =
      some spec.wait.timeout := by
    rw [Record.withDefault, field]
    exact word64?_nat fits.timeout
  have interval : (recordOf spec.members).withDefault "interval" 30 word64? =
      some spec.wait.interval := by
    rw [Record.withDefault, field]
    exact word64?_nat fits.interval
  have delay : (recordOf spec.members).withDefault "delay" 30 word64? = some spec.wait.delay := by
    rw [Record.withDefault, field]
    exact word64?_nat fits.delay
  unfold fieldNames at opened
  simp only [Spec.ofJson?, toJson_eq, opened, id, manager, edges, hosts, edge, host, timeout, interval,
    delay, Option.bind_eq_bind, Option.bind_some, Option.pure_def]

end Spec

/-!
## Recorded statuses
-/

namespace RunStatus

variable {status : RunStatus}

/-- The members of a status have their names in the order of the fields. -/
theorem names_members_sublist (status : RunStatus) :
    (namesOf status.members).Sublist fieldNames := by
  simp only [members, namesOf, List.map_append]
  exact names_memberOfOption_sublist.append names_memberOfOption_sublist
    |>.append names_memberOfOption_sublist |>.append names_memberOfList_sublist
    |>.append names_memberOfList_sublist |>.append names_memberOfOption_sublist
    |>.append names_memberOfOption_sublist |>.append names_memberOfOption_sublist
    |>.append names_memberOfList_sublist

/-- Under each name stands what is written of the status there. -/
theorem lookup_members (name : String) : status.members.lookup name = status.written? name := by
  unfold written?
  split <;>
    simp_all [members, List.lookup_append, lookup_memberOfOption, lookup_memberOfList]

/-- A status reads back as it was written: it is laid over one in which there is nothing. -/
theorem ofJson?_toJson (fits : status.Fits) : RunStatus.ofJson? status.toJson = some status := by
  have opened : record? fieldNames (.object status.members) = some (recordOf status.members) :=
    record?_object (by decide) status.names_members_sublist
  have field (name : String) : (mergeMembers status.members []).lookup name =
      status.members.lookup name := by
    rw [lookup_mergeMembers_members, lookup_members, List.lookup_nil, Option.or_none]
  have nothing : ({} : RunStatus).ReadFrom (recordOf []) := ⟨rfl, rfl, rfl, rfl, rfl, rfl, rfl, rfl, rfl⟩
  have same : status.laidOver {} = status :=
    laidOver_eq_self_iff.2 ⟨fun _ => rfl, fun _ => rfl, fun _ => rfl, fun _ => rfl, fun _ => rfl,
      fun _ => rfl, fun _ => rfl, fun _ => rfl⟩
  have read := nothing.laidOver fits fun _ => rfl
  rw [same, funext field] at read
  exact ofJson?_eq_some_iff.2 ⟨_, opened, read⟩

end RunStatus

end FabricUpgrade
