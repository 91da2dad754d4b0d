import FabricUpgrade.Resource.Object
import FabricUpgrade.Text.Target

/-!
# The object store

What the operator asks of the store: to get and to patch a declared run, to write its status, to get
a secret, and to publish an event.  Patches are merge patches.
-/

namespace FabricUpgrade

/-- A remark about a declared run for those who watch it. -/
structure Notice where
  isWarning : Bool
  reason : String
  action : String
  note : String
  /-- The name of the run. -/
  regarding : Option String
deriving DecidableEq, Repr

/-- A request to the store; each one but the last names a namespace and an object in it. -/
inductive StoreRequest where
  | getRun (space name : String)
  | patchRun (space name : String) (patch : Json)
  | writeStatus (space name : String) (status : RunStatus)
  | getSecret (space name : String)
  | publish (space : String) (notice : Notice)

namespace StoreRequest

/-- The name under which the operator writes. -/
def writer : String :=
  "nsx-upgrade-operator"

/-- The path of the declared runs of one namespace, or of all. -/
def runsPath (space : Option String) : String :=
  let within := space.elim "" fun space => "/namespaces/" ++ space
  "/apis/nsx-upgrade.smoketurner.com/v1alpha1" ++ within ++ "/nsxupgraderuns"

/-- The object that a request is about. -/
def name? : StoreRequest → Option String
  | getRun _ name | patchRun _ name _ | writeStatus _ name _ | getSecret _ name => some name
  | publish _ _ => none

/-- The method of a request. -/
def method : StoreRequest → String
  | getRun _ _ | getSecret _ _ => "GET"
  | patchRun _ _ _ | writeStatus _ _ _ => "PATCH"
  | publish _ _ => "POST"

/-- The text of the target of a request.  The namespace and the name stand in it as they are. -/
def targetText : StoreRequest → String
  | getRun space name => runsPath (some space) ++ "/" ++ name
  | patchRun space name _ => runsPath (some space) ++ "/" ++ name ++ "?"
  | writeStatus space name _ =>
    runsPath (some space) ++ "/" ++ name ++ "/status?&fieldManager=" ++ writer
  | getSecret space name => "/api/v1/namespaces/" ++ space ++ "/secrets/" ++ name
  | publish space _ => "/apis/events.k8s.io/v1/namespaces/" ++ space ++ "/events?"

/-- The target of a request.  A question mark or a number sign in a namespace or a name ends the
path. -/
def target (request : StoreRequest) : Text.Target :=
  Text.Target.ofText request.targetText

/-- Whether a request can be sent: its object has a name, and its target may be sent as it is. -/
def isSendable (request : StoreRequest) : Bool :=
  request.name? ≠ some "" && Text.Target.isValid request.targetText

/-- The query of a request without the separator in front, if anything is left of it. -/
def query? (request : StoreRequest) : Option String :=
  let query := (request.target.query.getD "").toList.dropWhile (· = '&')
  if query.isEmpty then none else some (String.ofList query)

/-- The patch that writes a status. -/
def statusPatch (status : RunStatus) : Json :=
  .object [("status", status.toJson)]

/-- The patch that writes finalizers. -/
def finalizersPatch (finalizers : List String) : Json :=
  .object [("metadata", .object [("finalizers", Json.strings finalizers)])]

/-- The patch that a request sends. -/
def patch? : StoreRequest → Option Json
  | patchRun _ _ patch => some patch
  | writeStatus _ _ status => some (statusPatch status)
  | _ => none

end StoreRequest

end FabricUpgrade
