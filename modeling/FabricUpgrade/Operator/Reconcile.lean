import FabricUpgrade.Manager.Client
import FabricUpgrade.Operator.Claims
import FabricUpgrade.Operator.Credentials
import FabricUpgrade.Operator.Metrics
import FabricUpgrade.Operator.Retries
import FabricUpgrade.Operator.Store
import FabricUpgrade.Resource.Validation
import FabricUpgrade.Upgrade.Collection
import FabricUpgrade.Upgrade.Execution

/-!
# Reconciling a declared run

A generation of a spec that has not been observed yet is executed: the spec is validated, the
manager is claimed, the run is recorded as running, the upgrade is executed, and its end is recorded
together with the outputs.  A generation that has been observed only has its outputs refreshed.  A
run that is being deleted loses the operator's finalizer, and a run without it gets it first.
-/

namespace FabricUpgrade

namespace Reconcile

/-- What a reconcile asks for. -/
inductive Question where
  /-- A request to the store. -/
  | store (request : StoreRequest)
  /-- A question of an upgrade at a manager. -/
  | manager (endpoint : Endpoint) (question : Session.Question)
  /-- To claim the manager of a URL. -/
  | claim (url : String)
  /-- To give up the claim on the manager of a URL. -/
  | release (url : String)
  /-- To build a client, with or without a look at the certificate of the manager. -/
  | buildClient (insecureSkipVerify : Bool)
  /-- An identity for a run. -/
  | newRunId
  /-- The date and time as a text. -/
  | timestamp
  /-- The time in milliseconds. -/
  | clock
  /-- To take a measurement in. -/
  | measure (measurement : Measurement)
  /-- To forget the failures of a resource. -/
  | forgetFailures (resource : String)

/-- The answers to the questions of a reconcile. -/
def Answer : Question → Type
  | .store _ => Except StoreError Json
  | .manager _ question => Session.Answer question
  | .claim _ => Bool
  | .release _ => Unit
  | .buildClient _ => Except String Unit
  | .newRunId => String
  | .timestamp => String
  | .clock => Nat
  | .measure _ => Unit
  | .forgetFailures _ => Unit

end Reconcile

/-- A conversation of a reconcile with its surroundings. -/
abbrev Reconcile : Type → Type :=
  Program Reconcile.Question Reconcile.Answer

/-- A reconcile that may end early. -/
abbrev Reconciling : Type → Type :=
  ExceptT ReconcileError Reconcile

namespace Reconcile

/-- The finalizer of the operator. -/
def finalizer : String :=
  "nsx-upgrade.smoketurner.com/finalizer"

/-- The seconds between two refreshes of the outputs. -/
def refreshSeconds : Nat :=
  300

/-- Asks the store, if the request can be sent. -/
def askStore (request : StoreRequest) : Reconcile (Except StoreError Json) :=
  if request.isSendable then Program.question (Question.store request)
  else return .error .malformed

/-- Asks the store for something that has to be there and of its form. -/
def fromStore {α : Type} (decode : Json → Option α) (request : StoreRequest) : Reconciling α := do
  match ← askStore request with
  | .error error => throw (.store error)
  | .ok value =>
    match decode value with
    | some read => return read
    | none => throw (.store .malformed)

/-- Claims the manager of a URL; the answer says whether the claim is made. -/
def claim (url : String) : Reconcile Bool :=
  Program.question (Question.claim url)

/-- Gives up the claim on the manager of a URL. -/
def release (url : String) : Reconcile Unit :=
  Program.question (Question.release url)

/-- Builds a client; where that fails, it is told why. -/
def buildClient (insecureSkipVerify : Bool) : Reconcile (Except String Unit) :=
  Program.question (Question.buildClient insecureSkipVerify)

/-- Asks for an identity for a run. -/
def newRunId : Reconcile String :=
  Program.question Question.newRunId

/-- Asks for the date and time. -/
def timestamp : Reconcile String :=
  Program.question Question.timestamp

/-- Asks for the time in milliseconds. -/
def clock : Reconcile Nat :=
  Program.question Question.clock

/-- Takes a measurement in. -/
def measure (measurement : Measurement) : Reconcile Unit :=
  Program.question (Question.measure measurement)

/-- Milliseconds as seconds. -/
def seconds (milliseconds : Nat) : Float :=
  Float.ofNat milliseconds / 1000.0

/-- Runs a procedure of an upgrade at a manager. -/
def atManager {α : Type} (endpoint : Endpoint) (session : Session α) : Reconcile α :=
  session.interpret fun question => Program.question (Question.manager endpoint question)

variable (run : RunObject)

/-- The namespace of the run. -/
def space : String :=
  run.metadata.anyNamespace

/-- The name of the run. -/
def name : String :=
  run.metadata.anyName

/-- Adds the operator's finalizer to the stored run, unless it is there. -/
def addFinalizer : Reconciling Unit := do
  let stored ← fromStore RunObject.ofJson? (.getRun (space run) (name run))
  let finalizers := stored.metadata.allFinalizers
  if finalizer ∈ finalizers then return
  let patch := StoreRequest.finalizersPatch (finalizers ++ [finalizer])
  let _ ← fromStore RunObject.ofJson? (.patchRun (space run) (name run) patch)

/-- Takes the operator's finalizer out of the stored run, unless it or the run is gone. -/
def removeFinalizer : Reconciling Unit := do
  match ← askStore (.getRun (space run) (name run)) with
  | .error error => if error.isNotFound then return else throw (.store error)
  | .ok value =>
    match RunObject.ofJson? value with
    | none => throw (.store .malformed)
    | some stored =>
      let finalizers := stored.metadata.allFinalizers
      let others := finalizers.filter (· ≠ finalizer)
      if others.length = finalizers.length then return
      let patch := StoreRequest.finalizersPatch others
      let _ ← fromStore RunObject.ofJson? (.patchRun (space run) (name run) patch)

/-- Writes the status of the run. -/
def writeStatus (status : RunStatus) : Reconciling Unit := do
  let _ ← fromStore RunObject.ofJson? (.writeStatus (space run) (name run) status)

/-- Publishes a remark about the run; that it cannot be published does not matter. -/
def publish (isWarning : Bool) (reason action note : String) : Reconcile Unit := do
  let _ ← askStore
    (.publish (space run) ⟨isWarning, reason, action, note, run.metadata.name⟩)

/-- The phase that an event leads to. -/
def nextPhase (phase : Phase) (event : RunEvent) (partialComponents : Nat) : Reconciling Phase :=
  match phase.step? event partialComponents with
  | some edge => return edge.destination
  | none => throw (.noTransition phase event)

/-- Reads the credentials of the manager, a name and a password. -/
def readCredentials : Reconciling (String × String) := do
  let ref := run.spec.manager.credentials
  match ← askStore (.getSecret (space run) ref.name) with
  | .error error =>
    if error.isNotFound then throw (.transient s!"credentials secret '{ref.name}' not found")
    else throw (.store error)
  | .ok value =>
    match Secret.ofJson? value with
    | none => throw (.store .malformed)
    | some secret =>
      let username ← secret.text ref.usernameKey
      let password ← secret.text ref.passwordKey
      return (username, password)

/-- Reads the credentials, builds a client and tells how to reach the manager. -/
def connect : Reconciling Endpoint := do
  let manager := run.spec.manager
  let (username, password) ← readCredentials run
  match ← buildClient manager.insecureSkipVerify with
  | .error complaint => throw (.unbuiltClient complaint)
  | .ok () => return Endpoint.ofUrl manager.url username password manager.insecureSkipVerify

/-- Takes in which components are upgraded. -/
def measureComponents : List ComponentState → Reconcile Unit
  | [] => return
  | state :: rest => do
    measure (.componentUpgraded (space run) (name run) state.type (state.status = .success))
    measureComponents rest

/-- Records that the spec was rejected. -/
def reject (fault : SpecFault) : Reconciling Action := do
  let error := fault.error
  let phase ← nextPhase run.recorded.phase .validationFailed 0
  let time ← timestamp
  let generation := run.metadata.generation
  writeStatus run
    { run.recorded with
      phase
      errorMessage := some error.message
      observedGeneration := generation
      conditions := Conditions.ofPhase time phase (some error.message) generation }
  publish run true "ValidationFailed" "Validate" error.message
  return .awaitChange

/-- Records that the run is running, and gives back what is recorded. -/
def recordStart : Reconciling RunStatus := do
  let recorded := run.recorded
  let runId ← match recorded.runId with
    | some runId => pure runId
    | none => newRunId
  let phase ← nextPhase recorded.phase (.starting recorded.phase) 0
  let time ← timestamp
  let running : RunStatus :=
    { recorded with
      phase
      runId := some runId
      upgradePrepareReadyId := some run.spec.upgradePrepareReadyId
      errorMessage := none
      conditions := Conditions.ofPhase time phase none run.metadata.generation }
  writeStatus run running
  return running

/-- Publishes how an execution ended. -/
def publishEnd (phase : Phase) : Except Failure Report → Reconcile Unit
  | .error failure => publish run true "UpgradeFailed" "Upgrade" failure.message
  | .ok report =>
    if phase = .partiallyCompleted then
      let components := ", ".intercalate (report.partialComponents.map Component.wire)
      publish run false "UpgradePartiallyCompleted" "Upgrade"
        s!"Components {components} left groups for a later run; MP upgrade skipped"
    else publish run false "UpgradeCompleted" "Upgrade" "All components upgraded"

/-- Records how an execution ended that was started with the given status at the given time. -/
def recordEnd (endpoint : Endpoint) (running : RunStatus) (started : Nat)
    (result : Except Failure Report) : Reconciling Unit := do
  let partialComponents := match result with
    | .ok report => report.partialComponents.length
    | .error _ => 0
  let phase ← nextPhase running.phase (.ending result) partialComponents
  let errorMessage := match result with
    | .ok _ => none
    | .error failure => some failure.message
  let collected ← (atManager endpoint Outputs.collect.run : Reconcile (Except Failure Outputs))
  let time ← timestamp
  let generation := run.metadata.generation
  let ended : RunStatus :=
    { running with
      phase
      errorMessage
      observedGeneration := generation
      lastRunAt := some time
      conditions := Conditions.ofPhase time phase errorMessage generation }
  let ended ← match collected with
    | .ok outputs =>
      measureComponents run outputs.state
      pure (ended.withOutputs outputs)
    | .error _ => pure ended
  writeStatus run ended
  let now ← clock
  measure (.runEnded (space run) (name run) phase.label (seconds (now - started)))
  publishEnd run phase result

/-- Executes the run while its manager is claimed. -/
def executeClaimed (policy : Policy) : Reconciling Action := do
  let endpoint ← connect run
  let running ← recordStart run
  publish run false "RunStarted" "Upgrade"
    s!"Upgrading fabric managed by {run.spec.manager.url}"
  let started ← clock
  let result ← (atManager endpoint (run.spec.toRun.execute policy).run :
    Reconcile (Except Failure Report))
  match result with
  | .error (.cancelled _) => return .requeue 5
  | result =>
    recordEnd run endpoint running started result
    return .requeue refreshSeconds

/-- Claims the manager for as long as the body takes. -/
def claiming (url : String) (body : Reconciling Action) : Reconciling Action :=
  ExceptT.mk do
    if ← claim url then
      let result ← (body.run : Reconcile (Except ReconcileError Action))
      release url
      return result
    else return .error (.runInProgress url)

/-- Executes a generation that has not been observed yet. -/
def execute (policy : Policy) : Reconciling Action :=
  match run.fault? with
  | some fault => reject run fault
  | none => claiming run.spec.manager.url (executeClaimed run policy)

/-- Refreshes the outputs of a generation that has been observed. -/
def refresh : Reconciling Action := do
  let endpoint ← connect run
  match ← (atManager endpoint Outputs.collect.run : Reconcile (Except Failure Outputs)) with
  | .error failure => throw (.upgrade failure)
  | .ok outputs =>
    measureComponents run outputs.state
    unless run.recorded.outputs = outputs do
      writeStatus run (run.recorded.withOutputs outputs)
    return .requeue refreshSeconds

/-- Forgets the failures of the run. -/
def forgetFailures : Reconcile Unit :=
  Program.question (Question.forgetFailures (Retries.key (space run) (name run)))

/-- Whether the generation of the run has been observed. -/
def isObserved : Bool :=
  run.metadata.generation.isSome && run.recorded.observedGeneration = run.metadata.generation

/-- Reconciles a declared run. -/
def reconcile (policy : Policy) : Reconciling Action := do
  let started ← clock
  if run.metadata.deletionTimestamp.isSome then
    removeFinalizer run
    forgetFailures run
    return .awaitChange
  if finalizer ∉ run.metadata.allFinalizers then
    addFinalizer run
    return .requeue 1
  let action ← if isObserved run then refresh run else execute run policy
  let now ← clock
  measure (.reconciled (space run) (name run) (seconds (now - started)))
  forgetFailures run
  return action

end Reconcile

end FabricUpgrade
