import FabricUpgrade.Operator.Error
import FabricUpgrade.Resource.Object
import FabricUpgrade.Text.Blank

/-!
# Validating a spec

`RunObject.fault?` finds the first rule that a declared run breaks, in this order: the preparation,
the manager, the waiting times, the edge groups, the host groups, and that the preparation is still
the recorded one.
-/

namespace FabricUpgrade

open Text

/-- The rule that a declared run breaks. -/
inductive SpecFault where
  | noPreparation
  | noUrl
  | foreignScheme (url : String)
  | noSecretName
  | belowMinimum (field : String) (value : Nat)
  | aboveMaximum (field : String) (value : Nat)
  | emptyGroupId (field : String) (index : Nat)
  | repeatedGroupId (field id : String)
  | changedPreparation (recorded declared : String)
deriving DecidableEq, Repr

namespace SpecFault

/-- The least number of seconds for the timeout and the interval. -/
def leastSeconds : Nat :=
  1

/-- The greatest number of seconds for any waiting time: thirty days. -/
def mostSeconds : Nat :=
  30 * 24 * 3600

/-- The error that a broken rule is. -/
def error : SpecFault → ReconcileError
  | noPreparation => .missingField "spec.upgradePrepareReadyId"
  | noUrl => .missingField "spec.manager.url"
  | foreignScheme url =>
    .validation s!"manager url '{url}' must start with https:// or http://"
  | noSecretName => .missingField "spec.manager.credentialsSecret.name"
  | belowMinimum field value =>
    .validation s!"{field} {value} is below minimum {leastSeconds}"
  | aboveMaximum field value =>
    .validation s!"{field} {value} exceeds maximum {mostSeconds}"
  | emptyGroupId field index => .validation s!"{field}[{index}].id must not be empty"
  | repeatedGroupId field id => .validation s!"{field} declares group '{id}' more than once"
  | changedPreparation recorded declared =>
    .validation (s!"upgradePrepareReadyId is immutable (was '{recorded}', now '{declared}'); "
      ++ "create a new NsxUpgradeRun instead")

end SpecFault

/-- Whether a text is empty but for blanks. -/
def Text.isBlankText (text : String) : Bool :=
  (trim text).isEmpty

namespace Spec

/-- The first fault of the manager. -/
def managerFault? (spec : Spec) : Option SpecFault :=
  let url := trim spec.manager.url
  if url.isEmpty then some .noUrl
  else if !("https://".toList.isPrefixOf url.toList || "http://".toList.isPrefixOf url.toList) then
    some (.foreignScheme url)
  else if isBlankText spec.manager.credentials.name then some .noSecretName
  else none

/-- The first fault of the waiting times. -/
def waitFault? (spec : Spec) : Option SpecFault :=
  let bounded := [("timeout", spec.wait.timeout), ("interval", spec.wait.interval),
    ("delay", spec.wait.delay)]
  let tooShort := (bounded.take 2).find? fun entry => entry.2 < SpecFault.leastSeconds
  let tooLong := bounded.find? fun entry => SpecFault.mostSeconds < entry.2
  (tooShort.map fun entry => SpecFault.belowMinimum entry.1 entry.2).orElse fun _ =>
    tooLong.map fun entry => SpecFault.aboveMaximum entry.1 entry.2

/-- The first fault of group names; those seen before and their number are given. -/
def idFaultAfter? (field : String) (seen : List String) : List String → Option SpecFault
  | [] => none
  | id :: rest =>
    if isBlankText id then some (.emptyGroupId field seen.length)
    else if id ∈ seen then some (.repeatedGroupId field id)
    else idFaultAfter? field (id :: seen) rest

/-- The first fault of the names of groups. -/
def idFault? (field : String) (ids : List String) : Option SpecFault :=
  idFaultAfter? field [] ids

/-- The first fault of a spec on its own. -/
def fault? (spec : Spec) : Option SpecFault :=
  if isBlankText spec.upgradePrepareReadyId then some .noPreparation
  else
    [spec.managerFault?, spec.waitFault?, idFault? "edgeGroups" (spec.edgeGroups.map EdgeGroup.id),
      idFault? "hostGroups" (spec.hostGroups.map HostGroup.id)].findSome? id

/-- The fault of a spec whose preparation is not the recorded one. -/
def immutabilityFault? (spec : Spec) (recorded : Option String) : Option SpecFault :=
  match recorded with
  | none => none
  | some recorded =>
    if recorded = spec.upgradePrepareReadyId then none
    else some (.changedPreparation recorded spec.upgradePrepareReadyId)

end Spec

/-- The first fault of a declared run. -/
def RunObject.fault? (run : RunObject) : Option SpecFault :=
  run.spec.fault?.orElse fun _ =>
    run.spec.immutabilityFault? (run.status.bind RunStatus.upgradePrepareReadyId)

end FabricUpgrade
