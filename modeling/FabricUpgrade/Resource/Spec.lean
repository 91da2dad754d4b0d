import FabricUpgrade.Run

/-!
# The declared spec

`Spec` is what the author of a run writes down: the manager and where its credentials are, the
groups of the edge nodes and of the hosts, the plan settings, and the waiting times.  `Spec.toRun`
is the run that it declares.
-/

namespace FabricUpgrade

/-- The secret that holds the credentials of a manager, and the keys they are under. -/
structure CredentialsRef where
  name : String
  usernameKey : String := "username"
  passwordKey : String := "password"
deriving DecidableEq, Repr

namespace CredentialsRef

/-- Reads a reference to credentials. -/
def ofJson? (value : Json) : Option CredentialsRef := do
  let record ← Json.record? ["name", "usernameKey", "passwordKey"] value
  return {
    name := ← record.required "name" Json.string?
    usernameKey := ← record.withDefault "usernameKey" "username" Json.string?
    passwordKey := ← record.withDefault "passwordKey" "password" Json.string? }

/-- Writes a reference to credentials. -/
def toJson (ref : CredentialsRef) : Json :=
  .object [("name", .string ref.name), ("usernameKey", .string ref.usernameKey),
    ("passwordKey", .string ref.passwordKey)]

end CredentialsRef

/-- The manager of a fabric. -/
structure ManagerRef where
  url : String
  credentials : CredentialsRef
  insecureSkipVerify : Bool := false
deriving DecidableEq, Repr

namespace ManagerRef

/-- Reads a reference to a manager. -/
def ofJson? (value : Json) : Option ManagerRef := do
  let record ← Json.record? ["url", "credentialsSecret", "insecureSkipVerify"] value
  return {
    url := ← record.required "url" Json.string?
    credentials := ← record.required "credentialsSecret" CredentialsRef.ofJson?
    insecureSkipVerify := ← record.withDefault "insecureSkipVerify" false Json.bool? }

/-- Writes a reference to a manager. -/
def toJson (ref : ManagerRef) : Json :=
  .object [("url", .string ref.url), ("credentialsSecret", ref.credentials.toJson),
    ("insecureSkipVerify", .bool ref.insecureSkipVerify)]

end ManagerRef

/-- A group of edge nodes as it is written down. -/
structure EdgeGroup where
  id : String
  enabled : Bool := true
  pauseAfterEachUnit : Bool := false
deriving DecidableEq, Repr

namespace EdgeGroup

/-- Reads a group of edge nodes. -/
def ofJson? (value : Json) : Option EdgeGroup := do
  let record ← Json.record? ["id", "enabled", "pauseAfterEachUpgradeUnit"] value
  return {
    id := ← record.required "id" Json.string?
    enabled := ← record.withDefault "enabled" true Json.bool?
    pauseAfterEachUnit := ← record.withDefault "pauseAfterEachUpgradeUnit" false Json.bool? }

/-- Writes a group of edge nodes. -/
def toJson (group : EdgeGroup) : Json :=
  .object [("id", .string group.id), ("enabled", .bool group.enabled),
    ("pauseAfterEachUpgradeUnit", .bool group.pauseAfterEachUnit)]

/-- The declared group. -/
def declared (group : EdgeGroup) : DeclaredGroup :=
  { id := group.id, enabled := group.enabled, pauseAfterEachUnit := group.pauseAfterEachUnit }

end EdgeGroup

/-- A group of hosts as it is written down. -/
structure HostGroup where
  id : String
  enabled : Bool := true
  parallel : Bool := true
  pauseAfterEachUnit : Bool := false
  config : HostConfig := {}
deriving DecidableEq, Repr

namespace HostGroup

/-- Reads a group of hosts. -/
def ofJson? (value : Json) : Option HostGroup := do
  let record ← Json.record?
    ["id", "enabled", "parallel", "pauseAfterEachUpgradeUnit", "upgradeMode",
      "maintenanceModeConfigVsanMode", "maintenanceModeConfigEvacuatePoweredOffVms",
      "rebootlessUpgrade"] value
  return {
    id := ← record.required "id" Json.string?
    enabled := ← record.withDefault "enabled" true Json.bool?
    parallel := ← record.withDefault "parallel" true Json.bool?
    pauseAfterEachUnit := ← record.withDefault "pauseAfterEachUpgradeUnit" false Json.bool?
    config := {
      upgradeMode := ← record.optional "upgradeMode" HostMode.ofJson?
      vsanMode := ← record.optional "maintenanceModeConfigVsanMode" VsanMode.ofJson?
      evacuatePoweredOffVms := ←
        record.withDefault "maintenanceModeConfigEvacuatePoweredOffVms" false Json.bool?
      rebootlessUpgrade := ← record.withDefault "rebootlessUpgrade" true Json.bool? } }

/-- Writes a group of hosts. -/
def toJson (group : HostGroup) : Json :=
  .object ([("id", .string group.id), ("enabled", .bool group.enabled),
      ("parallel", .bool group.parallel),
      ("pauseAfterEachUpgradeUnit", .bool group.pauseAfterEachUnit)]
    ++ Json.memberOfOption "upgradeMode" (fun mode => .string mode.wire) group.config.upgradeMode
    ++ Json.memberOfOption "maintenanceModeConfigVsanMode" (fun mode => .string mode.wire)
      group.config.vsanMode
    ++ [("maintenanceModeConfigEvacuatePoweredOffVms", .bool group.config.evacuatePoweredOffVms),
      ("rebootlessUpgrade", .bool group.config.rebootlessUpgrade)])

/-- The declared group. -/
def declared (group : HostGroup) : DeclaredGroup where
  id := group.id
  enabled := group.enabled
  parallel := group.parallel
  pauseAfterEachUnit := group.pauseAfterEachUnit
  hostConfig := some group.config

end HostGroup

/-- The plan settings of the edge nodes as they are written down. -/
structure EdgeSetting where
  postUpgradeCheck : Bool := true
  parallel : Bool := true
deriving DecidableEq, Repr

namespace EdgeSetting

/-- Reads the plan settings of the edge nodes. -/
def ofJson? (value : Json) : Option EdgeSetting := do
  let record ← Json.record? ["postUpgradeCheck", "parallel"] value
  return {
    postUpgradeCheck := ← record.withDefault "postUpgradeCheck" true Json.bool?
    parallel := ← record.withDefault "parallel" true Json.bool? }

/-- Writes the plan settings of the edge nodes. -/
def toJson (setting : EdgeSetting) : Json :=
  .object [("postUpgradeCheck", .bool setting.postUpgradeCheck),
    ("parallel", .bool setting.parallel)]

/-- The declared settings; edge nodes always stop on an error. -/
def declared (setting : EdgeSetting) : DeclaredSettings where
  parallel := setting.parallel
  stopOnError := true
  postUpgradeCheck := setting.postUpgradeCheck

end EdgeSetting

/-- The plan settings of the hosts as they are written down. -/
structure HostSetting where
  postUpgradeCheck : Bool := true
  parallel : Bool := true
  stopOnError : Bool := false
deriving DecidableEq, Repr

namespace HostSetting

/-- Reads the plan settings of the hosts. -/
def ofJson? (value : Json) : Option HostSetting := do
  let record ← Json.record? ["postUpgradeCheck", "parallel", "stopOnError"] value
  return {
    postUpgradeCheck := ← record.withDefault "postUpgradeCheck" true Json.bool?
    parallel := ← record.withDefault "parallel" true Json.bool?
    stopOnError := ← record.withDefault "stopOnError" false Json.bool? }

/-- Writes the plan settings of the hosts. -/
def toJson (setting : HostSetting) : Json :=
  .object [("postUpgradeCheck", .bool setting.postUpgradeCheck),
    ("parallel", .bool setting.parallel), ("stopOnError", .bool setting.stopOnError)]

/-- The declared settings. -/
def declared (setting : HostSetting) : DeclaredSettings :=
  ⟨setting.parallel, setting.stopOnError, setting.postUpgradeCheck⟩

end HostSetting

/-- What the author of a run writes down. -/
structure Spec where
  /-- The preparation that the run belongs to. -/
  upgradePrepareReadyId : String
  manager : ManagerRef
  edgeGroups : List EdgeGroup := []
  hostGroups : List HostGroup := []
  edgeSetting : Option EdgeSetting := none
  hostSetting : Option HostSetting := none
  wait : WaitTimes := {}
deriving DecidableEq, Repr

namespace Spec

/-- Reads a spec. -/
def ofJson? (value : Json) : Option Spec := do
  let record ← Json.record?
    ["upgradePrepareReadyId", "manager", "edgeGroups", "hostGroups", "edgeUpgradeSetting",
      "hostUpgradeSetting", "timeout", "interval", "delay"] value
  return {
    upgradePrepareReadyId := ← record.required "upgradePrepareReadyId" Json.string?
    manager := ← record.required "manager" ManagerRef.ofJson?
    edgeGroups := ← record.withDefault "edgeGroups" [] (Json.list? EdgeGroup.ofJson?)
    hostGroups := ← record.withDefault "hostGroups" [] (Json.list? HostGroup.ofJson?)
    edgeSetting := ← record.optional "edgeUpgradeSetting" EdgeSetting.ofJson?
    hostSetting := ← record.optional "hostUpgradeSetting" HostSetting.ofJson?
    wait := {
      timeout := ← record.withDefault "timeout" 3600 Json.word64?
      interval := ← record.withDefault "interval" 30 Json.word64?
      delay := ← record.withDefault "delay" 30 Json.word64? } }

/-- Writes a spec: lists and settings only where there are any. -/
def toJson (spec : Spec) : Json :=
  .object ([("upgradePrepareReadyId", .string spec.upgradePrepareReadyId),
      ("manager", spec.manager.toJson)]
    ++ Json.memberOfList "edgeGroups" EdgeGroup.toJson spec.edgeGroups
    ++ Json.memberOfList "hostGroups" HostGroup.toJson spec.hostGroups
    ++ Json.memberOfOption "edgeUpgradeSetting" EdgeSetting.toJson spec.edgeSetting
    ++ Json.memberOfOption "hostUpgradeSetting" HostSetting.toJson spec.hostSetting
    ++ [("timeout", Json.nat spec.wait.timeout), ("interval", Json.nat spec.wait.interval),
      ("delay", Json.nat spec.wait.delay)])

/-- The run that a spec declares. -/
def toRun (spec : Spec) : Run where
  prepareReadyId := spec.upgradePrepareReadyId
  edge :=
    { groups := spec.edgeGroups.map EdgeGroup.declared
      settings := spec.edgeSetting.map EdgeSetting.declared }
  host :=
    { groups := spec.hostGroups.map HostGroup.declared
      settings := spec.hostSetting.map HostSetting.declared }
  wait := spec.wait

end Spec

end FabricUpgrade
