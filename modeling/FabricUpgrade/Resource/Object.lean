import FabricUpgrade.Outputs
import FabricUpgrade.Resource.Condition
import FabricUpgrade.Resource.Spec
import FabricUpgrade.Text.Timestamp

/-!
# Declared runs as stored objects

`RunStatus` is the recorded side of a declared run, `Metadata` what the store keeps of any object,
and `RunObject` the whole: metadata, spec and status.
-/

namespace FabricUpgrade

/-- What is recorded of a declared run. -/
structure RunStatus where
  phase : Phase := .pending
  /-- The identity that the run got when it was first executed. -/
  runId : Option String := none
  /-- The preparation that the run was first executed for. -/
  upgradePrepareReadyId : Option String := none
  upgradePlan : List PlanEntry := []
  state : List ComponentState := []
  errorMessage : Option String := none
  /-- The generation of the spec that was executed or rejected last. -/
  observedGeneration : Option Int := none
  /-- When an execution ended last. -/
  lastRunAt : Option String := none
  conditions : Conditions := []
deriving DecidableEq, Repr

namespace RunStatus

/-- Reads a status. -/
def ofJson? (value : Json) : Option RunStatus := do
  let record ← Json.record?
    ["phase", "runId", "upgradePrepareReadyId", "upgradePlan", "state", "errorMessage",
      "observedGeneration", "lastRunAt", "conditions"] value
  return {
    phase := ← record.withDefault "phase" .pending Phase.ofJson?
    runId := ← record.optional "runId" Json.string?
    upgradePrepareReadyId := ← record.optional "upgradePrepareReadyId" Json.string?
    upgradePlan := ← record.withDefault "upgradePlan" [] (Json.list? PlanEntry.ofJson?)
    state := ← record.withDefault "state" [] (Json.list? ComponentState.ofJson?)
    errorMessage := ← record.optional "errorMessage" Json.string?
    observedGeneration := ← record.optional "observedGeneration" Json.int64?
    lastRunAt := ← record.optional "lastRunAt" Json.string?
    conditions := ← record.withDefault "conditions" [] (Json.list? Condition.ofJson?) }

/-- Writes a status: the phase always, all else only where there is something to write. -/
def toJson (status : RunStatus) : Json :=
  .object ([("phase", status.phase.toJson)]
    ++ Json.memberOfOption "runId" .string status.runId
    ++ Json.memberOfOption "upgradePrepareReadyId" .string status.upgradePrepareReadyId
    ++ Json.memberOfList "upgradePlan" PlanEntry.toJson status.upgradePlan
    ++ Json.memberOfList "state" ComponentState.toJson status.state
    ++ Json.memberOfOption "errorMessage" .string status.errorMessage
    ++ Json.memberOfOption "observedGeneration" Json.int status.observedGeneration
    ++ Json.memberOfOption "lastRunAt" .string status.lastRunAt
    ++ Json.memberOfList "conditions" Condition.toJson status.conditions)

/-- The outputs that are recorded. -/
def outputs (status : RunStatus) : Outputs :=
  ⟨status.upgradePlan, status.state⟩

/-- Records outputs. -/
def withOutputs (status : RunStatus) (outputs : Outputs) : RunStatus :=
  { status with upgradePlan := outputs.plan, state := outputs.state }

end RunStatus

/-- What the store keeps of any object. -/
structure Metadata where
  name : Option String := none
  generateName : Option String := none
  namespaceName : Option String := none
  generation : Option Int := none
  finalizers : Option (List String) := none
  deletionTimestamp : Option String := none
deriving DecidableEq, Repr

namespace Metadata

/-- Passes over a field of the right form, or over none. -/
def checked {α : Type} (decode : Json → Option α) (name : String) (record : Json.Record) :
    Option Unit :=
  (record.optional name decode).map fun _ => ()

/-- Reads a timestamp. -/
def timestamp? (value : Json) : Option String :=
  (Json.string? value).filter fun text => Text.Timestamp.isValid text

/-- Passes over a reference to an owner. -/
def checkOwner (value : Json) : Option Unit := do
  let record ← Json.objectRecord? [] value
  for name in ["apiVersion", "kind", "name", "uid"] do
    checked Json.string? name record
  checked Json.bool? "blockOwnerDeletion" record
  checked Json.bool? "controller" record

/-- Passes over a note on who manages which fields. -/
def checkManager (value : Json) : Option Unit := do
  let record ← Json.objectRecord? [] value
  for name in ["apiVersion", "fieldsType", "manager", "operation", "subresource"] do
    checked Json.string? name record
  checked timestamp? "time" record

/-- Reads metadata.  Fields without a use here still have to have their form. -/
def ofJson? (value : Json) : Option Metadata := do
  let record ← Json.objectRecord? [] value
  checked (Json.entries? Json.string?) "annotations" record
  checked (Json.entries? Json.string?) "labels" record
  checked timestamp? "creationTimestamp" record
  checked Json.int64? "deletionGracePeriodSeconds" record
  checked (Json.list? checkManager) "managedFields" record
  checked (Json.list? checkOwner) "ownerReferences" record
  for name in ["resourceVersion", "selfLink", "uid"] do
    checked Json.string? name record
  return {
    name := ← record.optional "name" Json.string?
    generateName := ← record.optional "generateName" Json.string?
    namespaceName := ← record.optional "namespace" Json.string?
    generation := ← record.optional "generation" Json.int64?
    finalizers := ← record.optional "finalizers" (Json.list? Json.string?)
    deletionTimestamp := ← record.optional "deletionTimestamp" timestamp? }

/-- The name of an object, or what its name is generated from, or nothing. -/
def anyName (metadata : Metadata) : String :=
  (metadata.name.orElse fun _ => metadata.generateName).getD ""

/-- The namespace of an object. -/
def anyNamespace (metadata : Metadata) : String :=
  metadata.namespaceName.getD "default"

/-- The finalizers of an object. -/
def allFinalizers (metadata : Metadata) : List String :=
  metadata.finalizers.getD []

end Metadata

/-- A declared run as it is stored. -/
structure RunObject where
  metadata : Metadata
  spec : Spec
  status : Option RunStatus := none
deriving DecidableEq, Repr

namespace RunObject

/-- Reads a declared run. -/
def ofJson? (value : Json) : Option RunObject := do
  let record ← Json.record? ["metadata", "spec", "status"] value
  return {
    metadata := ← record.required "metadata" Metadata.ofJson?
    spec := ← record.required "spec" Spec.ofJson?
    status := ← record.nullable "status" RunStatus.ofJson? }

/-- What is recorded of the run, which at first is nothing. -/
def recorded (run : RunObject) : RunStatus :=
  run.status.getD {}

end RunObject

end FabricUpgrade
