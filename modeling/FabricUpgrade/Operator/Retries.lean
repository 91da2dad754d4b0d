import FabricUpgrade.Operator.Error

/-!
# Retrying failed reconciles

`Retries` counts the failures of each resource since its last success, and `Retries.answer` decides
how a failed reconcile goes on.
-/

namespace FabricUpgrade

/-- How a reconcile goes on. -/
inductive Action where
  /-- Not before the resource changes. -/
  | awaitChange
  /-- Again after a number of seconds. -/
  | requeue (seconds : Nat)
deriving DecidableEq, Repr

/-- The failures of each resource since its last success. -/
structure Retries where
  counts : List (String × Nat) := []

namespace Retries

/-- The key of a resource. -/
def key (space name : String) : String :=
  s!"{space}/{name}"

/-- The greatest number that is counted. -/
def greatest : Nat :=
  4294967295

/-- The failures of a resource. -/
def count (retries : Retries) (resource : String) : Nat :=
  (retries.counts.lookup resource).getD 0

/-- Forgets the failures of a resource. -/
def reset (retries : Retries) (resource : String) : Retries :=
  ⟨retries.counts.filter fun entry => entry.1 ≠ resource⟩

/-- Counts one more failure of a resource. -/
def recordFailure (retries : Retries) (resource : String) : Retries :=
  ⟨(resource, min (retries.count resource + 1) greatest) :: (retries.reset resource).counts⟩

/-- Decides how a failed reconcile of a resource goes on: a resource that is gone waits for a
change, and only errors that are retried are counted. -/
def answer (retries : Retries) (resource : String) (error : ReconcileError) : Action × Retries :=
  if error.isNotFound then (.awaitChange, retries)
  else if error.isRetryable then
    (.requeue (error.delayAfter (retries.count resource)), retries.recordFailure resource)
  else (.requeue ReconcileError.longestDelay, retries)

end Retries

end FabricUpgrade
