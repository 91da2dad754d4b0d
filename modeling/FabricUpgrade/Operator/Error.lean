import FabricUpgrade.Resource.Phase
import FabricUpgrade.Upgrade.Failure

/-!
# Failed reconciles

`StoreError` is why a request to the object store failed, `ReconcileError` why a reconcile failed.
Errors that may pass by themselves are retried after a delay that doubles from five seconds up to
five minutes; all others wait for five minutes.
-/

namespace FabricUpgrade

/-- Why a request to the object store failed. -/
inductive StoreError where
  /-- The store answered with an error status. -/
  | api (code : Nat)
  /-- The store could not be reached. -/
  | unreachable
  /-- The request or the answer could not be handled. -/
  | malformed
deriving DecidableEq, Repr

namespace StoreError

/-- The sentence about a failed request. -/
def message : StoreError → String
  | api code => s!"the server answered with status {code}"
  | unreachable => "the server could not be reached"
  | malformed => "the request or its answer could not be handled"

/-- Whether the store does not know the object. -/
def isNotFound (error : StoreError) : Bool :=
  error = api 404

/-- Whether the request may do better later. -/
def isRetryable : StoreError → Bool
  | api code => 500 ≤ code || code = 429
  | unreachable => true
  | malformed => false

end StoreError

/-- Why a reconcile failed. -/
inductive ReconcileError where
  | store (error : StoreError)
  | upgrade (failure : Failure)
  | missingField (field : String)
  | validation (text : String)
  /-- Another run is being executed against the manager of this URL. -/
  | runInProgress (url : String)
  | transient (text : String)
  | permanent (text : String)
deriving DecidableEq

namespace ReconcileError

/-- The sentence about a failed reconcile. -/
def message : ReconcileError → String
  | store error => s!"Kubernetes API error: {error.message}"
  | upgrade failure => s!"Upgrade API error: {failure.message}"
  | missingField field => s!"Missing required field: {field}"
  | validation text => s!"Validation error: {text}"
  | runInProgress url => s!"Run in progress against {url}"
  | transient text => s!"Transient error: {text}"
  | permanent text => s!"Permanent error: {text}"

/-- That an event leads on from a phase to none. -/
def noTransition (phase : Phase) (event : RunEvent) : ReconcileError :=
  permanent s!"no transition from {phase.label} on event {event.label}"

/-- That no client can be built for a manager. -/
def unbuiltClient (complaint : String) : ReconcileError :=
  permanent s!"cannot build manager client: {(ManagerError.transport complaint).message}"

/-- Whether the object is gone. -/
def isNotFound : ReconcileError → Bool
  | store error => error.isNotFound
  | _ => false

/-- Whether the reconcile may do better by itself. -/
def isRetryable : ReconcileError → Bool
  | store error => error.isRetryable
  | upgrade failure => failure.isTransient
  | transient _ => true
  | runInProgress _ => true
  | missingField _ | validation _ | permanent _ => false

/-- The longest delay, in seconds. -/
def longestDelay : Nat :=
  300

/-- The delay before the next reconcile, in seconds, after a number of earlier failures. -/
def delayAfter (error : ReconcileError) (failures : Nat) : Nat :=
  if error.isRetryable then min longestDelay (5 * Nat.pow 2 (min failures 16)) else longestDelay

end ReconcileError

end FabricUpgrade
