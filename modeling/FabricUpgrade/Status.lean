import FabricUpgrade.Component

/-!
# Upgrade statuses

`Status` is what the manager says of a component or of the whole upgrade, `Observation` a status
with the manager's words beside it.  A `Transition` tells which statuses keep a wait going and which
ones end it well.  `Summary` is the manager's answer to a status request.
-/

namespace FabricUpgrade

/-- The status of a component or of the whole upgrade. -/
inductive Status where
  | notStarted
  | inProgress
  | pausing
  | paused
  | success
  | failed
deriving DecidableEq, Repr, Inhabited

namespace Status

/-- Every status. -/
def all : List Status :=
  [notStarted, inProgress, pausing, paused, success, failed]

/-- The statuses in which the manager is at work. -/
def inFlight : List Status :=
  [inProgress, pausing]

/-- The statuses in which the manager is not at work. -/
def stable : List Status :=
  [notStarted, paused, success, failed]

/-- Whether the manager is at work. -/
def isInFlight (status : Status) : Bool :=
  status ∈ inFlight

/-- Whether the manager is not at work. -/
def isStable (status : Status) : Bool :=
  !status.isInFlight

/-- The name of a status in requests and answers. -/
def wire : Status → String
  | notStarted => "NOT_STARTED"
  | inProgress => "IN_PROGRESS"
  | pausing => "PAUSING"
  | paused => "PAUSED"
  | success => "SUCCESS"
  | failed => "FAILED"

/-- The name of a status for people. -/
def label : Status → String
  | notStarted => "NotStarted"
  | inProgress => "InProgress"
  | pausing => "Pausing"
  | paused => "Paused"
  | success => "Success"
  | failed => "Failed"

/-- The status of a name. -/
def ofWire? (name : String) : Option Status :=
  all.find? fun status => status.wire = name

/-- Reads a status. -/
def ofJson? : Json → Option Status :=
  Json.case? ofWire?

/-- Writes a status. -/
def toJson (status : Status) : Json :=
  status.wire

theorem ofWire?_wire (status : Status) : ofWire? status.wire = some status := by
  cases status <;> decide

end Status

/-- Statuses in the order in which they were first named, each once. -/
structure StatusSet where
  list : List Status
  nodup : list.Nodup
deriving DecidableEq

namespace StatusSet

/-- Keeps the first of equal statuses. -/
def firsts : List Status → List Status
  | [] => []
  | status :: rest => status :: (firsts rest).filter (· ≠ status)

/-- Of equal statuses only one is kept. -/
theorem nodup_firsts (statuses : List Status) : (firsts statuses).Nodup := by
  induction statuses with
  | nil => exact List.Pairwise.nil
  | cons status rest inductionHypothesis =>
    refine List.nodup_cons.2 ⟨?_, inductionHypothesis.sublist List.filter_sublist⟩
    simp

/-- Keeping the first of equal statuses loses none. -/
theorem mem_firsts {status : Status} {statuses : List Status} :
    status ∈ firsts statuses ↔ status ∈ statuses := by
  induction statuses with
  | nil => exact Iff.rfl
  | cons first rest inductionHypothesis =>
    by_cases equal : status = first <;> simp [firsts, inductionHypothesis, equal]

/-- The set of the listed statuses. -/
def ofList (statuses : List Status) : StatusSet :=
  ⟨firsts statuses, nodup_firsts statuses⟩

instance : Membership Status StatusSet where
  mem statuses status := status ∈ statuses.list

instance (status : Status) (statuses : StatusSet) : Decidable (status ∈ statuses) :=
  inferInstanceAs (Decidable (status ∈ statuses.list))

/-- The set of a list has the statuses of the list. -/
@[simp]
theorem mem_ofList {status : Status} {statuses : List Status} :
    status ∈ ofList statuses ↔ status ∈ statuses :=
  mem_firsts

/-- The names of the statuses in brackets. -/
def label (statuses : StatusSet) : String :=
  "[" ++ ", ".intercalate (statuses.list.map Status.wire) ++ "]"

end StatusSet

/-- Which statuses keep a wait going and which ones end it well. -/
structure Transition where
  pending : StatusSet
  target : StatusSet
deriving DecidableEq

namespace Transition

/-- The transition between two lists of statuses. -/
def ofLists (pending target : List Status) : Transition :=
  ⟨StatusSet.ofList pending, StatusSet.ofList target⟩

/-- Waits until the manager is not at work. -/
def untilStable : Transition :=
  ofLists Status.inFlight Status.stable

/-- Waits for the upgrade of a component.  A partial upgrade may also end in a pause. -/
def ofUpgrade (staysPartial : Bool) : Transition :=
  if staysPartial then ofLists [.inProgress, .pausing] [.success, .paused]
  else ofLists [.inProgress] [.success]

end Transition

/-- A status as it was seen, with the manager's words beside it. -/
structure Observation where
  status : Status
  detail : String
deriving DecidableEq, Repr, Inhabited

/-- The sentence about a status that was seen. -/
def Observation.message (observed : Observation) : String :=
  s!"Current status: {observed.status.wire}. Details: {observed.detail}"

/-- What a summary says of one component; the type may be one that is not known here. -/
structure ComponentRecord where
  type : String
  status : Status
  details : Option String
  targetVersion : Option String
deriving DecidableEq, Repr

namespace ComponentRecord

/-- Reads the record of a component. -/
def ofJson? (value : Json) : Option ComponentRecord := do
  let record ← Json.record?
    ["component_type", "status", "details", "target_component_version"] value
  return {
    type := ← record.required "component_type" Json.string?
    status := ← record.required "status" Status.ofJson?
    details := ← record.optional "details" Json.string?
    targetVersion := ← record.optional "target_component_version" Json.string? }

/-- Writes the record of a component. -/
def toJson (record : ComponentRecord) : Json :=
  .object ([("component_type", .string record.type), ("status", record.status.toJson)]
    ++ Json.memberOfOption "details" .string record.details
    ++ Json.memberOfOption "target_component_version" .string record.targetVersion)

end ComponentRecord

/-- The manager's answer to a status request. -/
structure Summary where
  overall : Status
  components : List ComponentRecord
deriving DecidableEq, Repr

namespace Summary

/-- The first record of a component. -/
def find? (summary : Summary) (component : Component) : Option ComponentRecord :=
  summary.components.find? fun record => record.type = component.wire

/-- Reads a summary. -/
def ofJson? (value : Json) : Option Summary := do
  let record ← Json.record? ["overall_upgrade_status", "component_status"] value
  return {
    overall := ← record.required "overall_upgrade_status" Status.ofJson?
    components := ← record.withDefault "component_status" [] (Json.list? ComponentRecord.ofJson?) }

/-- Writes a summary. -/
def toJson (summary : Summary) : Json :=
  .object [("overall_upgrade_status", summary.overall.toJson),
    ("component_status", .array (summary.components.map ComponentRecord.toJson))]

end Summary

end FabricUpgrade
