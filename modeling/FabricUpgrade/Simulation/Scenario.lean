import FabricUpgrade.Json.Member
import FabricUpgrade.Resource.Spec
import FabricUpgrade.Simulation.Cluster
import FabricUpgrade.Simulation.Fabric
import FabricUpgrade.Upgrade.Wait

/-!
# Scenarios

A scenario describes in JSON what is simulated: the fabric with its scripts, the faults, the
declared run, and errors that are taken as given.  The functions here read such descriptions; what
is left out has a default.
-/

namespace FabricUpgrade.Simulation.Scenario

open Json

/-- Reads a component by its name. -/
def component? : Json → Option Component :=
  named? Component.ofWire?

/-- Reads a status by its name. -/
def status? : Json → Option Status :=
  named? Status.ofWire?

/-- Reads a list of statuses. -/
def statuses? : Json → Option (List Status) :=
  list? status?

/-- Reads why a call failed. -/
def managerError? (value : Json) : Option ManagerError := do
  let message ← value.textOr "message" ""
  match ← value.text? "kind" with
  | "ServiceUnavailable" => return .serviceUnavailable message
  | "Timeout" => return .timeout message
  | "NotFound" => return .notFound message
  | "Transport" => return .transport message
  | "Decode" => return .decode message
  | "Api" => return .api (← value.required "status" word64?) message
  | _ => none

/-- Reads an observation. -/
def observation? (value : Json) : Option Observation := do
  return ⟨← value.required "status" status?, ← value.textOr "detail" ""⟩

/-- Reads why an upgrade ended early. -/
def failure? (value : Json) : Option Failure := do
  let component ← value.optional "component" component?
  match ← value.text? "kind" with
  | "Remote" =>
    return .call (← value.required "operation" (named? Operation.ofLabel?)) component
      (← value.optional "target" string?) (← value.required "source" managerError?)
  | "WaitTimeout" =>
    return .waitTimeout component (.ofList (← value.required "target" statuses?))
      (← value.required "timeout" word64?) (← value.optional "last" observation?)
  | "UnexpectedStatus" =>
    return .unexpectedStatus component (.ofList (← value.required "target" statuses?))
      (← value.required "observed" observation?)
  | "StatusNotFound" => return .statusNotFound (← component)
  | "Cancelled" => return .cancelled component
  | _ => none

/-- Reads the options of a host group. -/
def hostConfig? (value : Json) : Option HostConfig := do
  return {
    upgradeMode := ← value.optional "upgrade_mode" (named? HostMode.ofWire?)
    vsanMode := ← value.optional "vsan_mode" (named? VsanMode.ofWire?)
    evacuatePoweredOffVms := ← value.boolOr "evacuate_powered_off_vms" false
    rebootlessUpgrade := ← value.boolOr "rebootless_upgrade" true }

/-- Reads a declared group. -/
def declaredGroup? (value : Json) : Option DeclaredGroup := do
  return {
    id := ← value.text? "id"
    enabled := ← value.boolOr "enabled" true
    parallel := ← value.boolOr "parallel" true
    pauseAfterEachUnit := ← value.boolOr "pause" false
    hostConfig := ← value.optional "host_config" hostConfig? }

/-- Reads declared settings. -/
def declaredSettings? (value : Json) : Option DeclaredSettings := do
  return {
    parallel := ← value.boolOr "parallel" true
    stopOnError := ← value.boolOr "stop_on_error" false
    postUpgradeCheck := ← value.boolOr "post_upgrade_check" true }

/-- Reads how to wait. -/
def waitTimes? (value : Json) : Option WaitTimes := do
  return {
    timeout := ← value.required "timeout" word64?
    interval := ← value.required "interval" word64?
    delay := ← value.required "delay" word64? }

/-- Reads what is declared of a component. -/
def componentPlan? (value : Json) : Option ComponentPlan := do
  return {
    groups := ← value.listOf "groups" declaredGroup?
    settings := ← value.optional "settings" declaredSettings? }

/-- Reads a declared run, or the spec that it comes from. -/
def run? (value : Json) : Option Run := do
  match ← value.optional "spec" any? with
  | some spec => return (← Spec.ofJson? spec).toRun
  | none =>
    return {
      edge := ← value.withDefault "edge" {} componentPlan?
      host := ← value.withDefault "host" {} componentPlan?
      wait := ← value.withDefault "wait" {} waitTimes? }

/-- Reads a transition. -/
def transition? (value : Json) : Option Transition := do
  match ← value.text? "make" with
  | "until_stable" => return .untilStable
  | "component_upgrade" => return .ofUpgrade (← value.required "partial" bool?)
  | "new" =>
    return .ofLists (← value.required "pending" statuses?) (← value.required "target" statuses?)
  | _ => none

/-- Reads a tolerance. -/
def tolerance? : Json → Option Tolerance :=
  named? fun
    | "management" => some .managementRestart
    | "none" => some .none
    | _ => none

/-- Reads a step of a script; the name of a status alone is a step to it. -/
def scriptStep? (value : Json) : Option ScriptStep := do
  match value with
  | .string name => return .turn (← Status.ofWire? name) none
  | value =>
    match ← value.optional "error" managerError? with
    | some error => return .fail error
    | none => return .turn (← value.required "status" status?) (← value.optional "details" string?)

/-- Changes a component as it is described; what is left out stays. -/
def editComponent? (component : FabricComponent) (value : Json) : Option FabricComponent := do
  let details ← value.optional "details" string?
  let targetVersion ← value.optional "target_version" string?
  return {
    type := component.type
    status := ← value.withDefault "status" component.status status?
    details := details.orElse fun _ => component.details
    targetVersion := targetVersion.orElse fun _ => component.targetVersion
    script := ← value.withDefault "script" component.script (list? scriptStep?)
    upgradeScript :=
      ← value.withDefault "upgrade_script" component.upgradeScript (list? scriptStep?) }

/-- Reads a component of a fabric. -/
def fabricComponent? (value : Json) : Option FabricComponent := do
  editComponent? { type := ← value.text? "type" } value

/-- Reads a fault of a fabric. -/
def fabricFault? (value : Json) : Option (Fault (Operation × Option String) ManagerError) := do
  return {
    subject :=
      (← value.required "op" (named? Operation.ofLabel?), ← value.optional "target" string?)
    error := ← value.required "error" managerError?
    skip := ← value.withDefault "skip" 0 word64?
    times := ← value.optional "times" word64? }

/-- Replaces the lists of a fabric that are described. -/
def editLists? (fabric : Fabric) (value : Json) : Option Fabric := do
  return { fabric with
    groups := ← value.withDefault "groups" fabric.groups (list? UnitGroup.ofJson?)
    overall := ← value.withDefault "overall" fabric.overall statuses?
    hidden := ← value.withDefault "hidden" fabric.hidden (list? string?)
    faults := ← value.withDefault "failures" fabric.faults (list? fabricFault?) }

/-- Reads a fabric. -/
def fabric? (value : Json) : Option Fabric := do
  let settings ← value.withDefault "settings" [] (entries? PlanSettings.ofJson?)
  let components := Fabric.components {}
  let fabric : Fabric :=
    { settings := ← settings.mapM fun entry => do return (← Component.ofWire? entry.1, entry.2)
      components := ← value.withDefault "components" components (list? fabricComponent?)
      linger := ← value.withDefault "linger" 0 word64? }
  editLists? fabric value

/-- Changes the first component of the described type. -/
def editComponents? (components : List FabricComponent) (value : Json) :
    Option (List FabricComponent) := do
  let type ← value.text? "type"
  let current ← components.find? fun component => component.type = type
  let changed ← editComponent? current value
  return Fabric.modifyFirst (fun component => component.type = type) (fun _ => changed) components

/-- Changes the components that are described and replaces the lists that are. -/
def editFabric? (fabric : Fabric) (value : Json) : Option Fabric := do
  let edits ← value.listOf "components" any?
  let components ← edits.foldlM editComponents? fabric.components
  editLists? { fabric with components } value

/-- Reads a fault of a cluster. -/
def storeFault? (value : Json) : Option (Fault (String × StoreKind) Nat) := do
  return {
    subject := (← value.text? "method", ← value.required "kind" (named? StoreKind.ofLabel?))
    error := ← value.required "code" word64?
    skip := ← value.withDefault "skip" 0 word64?
    times := ← value.optional "times" word64? }

/-- Reads a measurement. -/
def measurement? (value : Json) : Option Measurement := do
  let space ← value.textOr "namespace" "default"
  let name ← value.textOr "name" "run"
  match ← value.text? "op" with
  | "reconcile" => return .reconciled space name (← value.required "secs" float?)
  | "error" => return .reconcileFailed space name
  | "run" =>
    return .runEnded space name (← value.text? "phase") (← value.required "secs" float?)
  | "component" =>
    return .componentUpgraded space name (← value.text? "component")
      (← value.required "done" bool?)
  | _ => none

end FabricUpgrade.Simulation.Scenario
