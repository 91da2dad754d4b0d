import FabricUpgrade.Resource.Phase

/-!
# Conditions of a declared run

The phase of a run is also told as three conditions, Ready, Progressing and Degraded, of which each
occurs once.
-/

namespace FabricUpgrade

/-- A condition of a resource. -/
structure Condition where
  type : String
  status : String
  reason : String
  message : String
  lastTransitionTime : String
  observedGeneration : Option Int := none
deriving DecidableEq, Repr

namespace Condition

/-- The text of a truth value. -/
def statusText (holds : Bool) : String :=
  if holds then "True" else "False"

/-- A condition at a time. -/
def make (time type : String) (holds : Bool) (reason message : String) (generation : Option Int) :
    Condition :=
  ⟨type, statusText holds, reason, message, time, generation⟩

/-- Whether the condition holds. -/
def isTrue (condition : Condition) : Bool :=
  condition.status = "True"

/-- Reads a condition. -/
def ofJson? (value : Json) : Option Condition := do
  let record ← Json.record?
    ["type", "status", "reason", "message", "lastTransitionTime", "observedGeneration"] value
  return {
    type := ← record.required "type" Json.string?
    status := ← record.required "status" Json.string?
    reason := ← record.required "reason" Json.string?
    message := ← record.required "message" Json.string?
    lastTransitionTime := ← record.required "lastTransitionTime" Json.string?
    observedGeneration := ← record.nullable "observedGeneration" Json.int64? }

/-- Writes a condition. -/
def toJson (condition : Condition) : Json :=
  .object ([("type", .string condition.type), ("status", .string condition.status),
      ("reason", .string condition.reason), ("message", .string condition.message),
      ("lastTransitionTime", .string condition.lastTransitionTime)]
    ++ Json.memberOfOption "observedGeneration" Json.int condition.observedGeneration)

end Condition

/-- The conditions of a resource, in order. -/
abbrev Conditions := List Condition

namespace Conditions

/-- Gives a condition the place of the first one of its type, else the last place. -/
def set : Conditions → Condition → Conditions
  | [], condition => [condition]
  | first :: rest, condition =>
    if first.type = condition.type then condition :: rest
    else first :: Conditions.set rest condition

/-- The first condition of a type. -/
def find? (conditions : Conditions) (type : String) : Option Condition :=
  List.find? (fun condition => condition.type = type) conditions

/-- Whether the condition of a type holds. -/
def holds (conditions : Conditions) (type : String) : Bool :=
  (conditions.find? type).any Condition.isTrue

/-- The reason of the condition of a type. -/
def reason? (conditions : Conditions) (type : String) : Option String :=
  (conditions.find? type).map Condition.reason

/-- Ready, Progressing and Degraded with one reason and message. -/
def triple (time : String) (ready progressing degraded : Bool) (reason message : String)
    (generation : Option Int) : Conditions :=
  let make (type : String) (holds : Bool) : Condition :=
    Condition.make time type holds reason message generation
  Conditions.set (Conditions.set (Conditions.set [] (make "Ready" ready))
    (make "Progressing" progressing)) (make "Degraded" degraded)

/-- The conditions of a phase.  The error is the message of a run that has failed. -/
def ofPhase (time : String) (phase : Phase) (error : Option String) (generation : Option Int) :
    Conditions :=
  match phase with
  | .pending => triple time false false false "Pending" "Run has not started" generation
  | .running => triple time false true false "Running" "Upgrade run in progress" generation
  | .completed =>
    triple time true false false "UpgradeCompleted" "All components upgraded" generation
  | .partiallyCompleted =>
    triple time false false true "PartialUpgrade"
      "Some upgrade unit groups were not upgraded; MP upgrade skipped" generation
  | .failed =>
    triple time false false true "RunFailed" (error.getD "Upgrade run failed") generation

end Conditions

end FabricUpgrade
