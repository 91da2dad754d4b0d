import FabricUpgrade.Upgrade.Execution

/-!
# Phases of a declared run

A declared run is in one of five phases.  It moves along the edges of `PhaseEdge.table` only: an
event leads from a phase to the phase of its edge, provided the edge is open for the number of
components that were upgraded in part.
-/

namespace FabricUpgrade

/-- Where a declared run stands. -/
inductive Phase where
  | pending
  | running
  | completed
  | partiallyCompleted
  | failed
deriving DecidableEq, Repr, Inhabited

namespace Phase

/-- Every phase. -/
def all : List Phase :=
  [pending, running, completed, partiallyCompleted, failed]

/-- The name of a phase. -/
def label : Phase → String
  | pending => "Pending"
  | running => "Running"
  | completed => "Completed"
  | partiallyCompleted => "PartiallyCompleted"
  | failed => "Failed"

/-- The phase of a name. -/
def ofLabel? (name : String) : Option Phase :=
  all.find? fun phase => phase.label = name

/-- Whether the run has ended until its spec changes. -/
def isTerminal : Phase → Bool
  | completed | partiallyCompleted | failed => true
  | pending | running => false

/-- Reads a phase. -/
def ofJson? : Json → Option Phase :=
  Json.case? ofLabel?

/-- Writes a phase. -/
def toJson (phase : Phase) : Json :=
  phase.label

theorem ofLabel?_label (phase : Phase) : ofLabel? phase.label = some phase := by
  cases phase <;> decide

end Phase

/-- What moves a declared run from phase to phase. -/
inductive RunEvent where
  /-- The execution of a generation has started. -/
  | started
  /-- Every component has succeeded. -/
  | allComponentsSucceeded
  /-- A component was upgraded in part. -/
  | partialUpgrade
  /-- The execution has failed. -/
  | runFailed
  /-- A run that had ended has a new spec. -/
  | specChanged
  /-- The spec was rejected before the execution. -/
  | validationFailed
deriving DecidableEq, Repr

namespace RunEvent

/-- Every event. -/
def all : List RunEvent :=
  [started, allComponentsSucceeded, partialUpgrade, runFailed, specChanged, validationFailed]

/-- The name of an event. -/
def label : RunEvent → String
  | started => "Started"
  | allComponentsSucceeded => "AllComponentsSucceeded"
  | partialUpgrade => "PartialUpgrade"
  | runFailed => "RunFailed"
  | specChanged => "SpecChanged"
  | validationFailed => "ValidationFailed"

/-- The event of a name. -/
def ofLabel? (name : String) : Option RunEvent :=
  all.find? fun event => event.label = name

/-- The event that starts an execution from a phase. -/
def starting (phase : Phase) : RunEvent :=
  if phase.isTerminal then specChanged else started

/-- The event that ends an execution. -/
def ending : Except Failure Report → RunEvent
  | .error _ => runFailed
  | .ok report => if report.isPartial then partialUpgrade else allComponentsSucceeded

end RunEvent

/-- A way from one phase to another. -/
structure PhaseEdge where
  source : Phase
  destination : Phase
  event : RunEvent
  description : String
deriving DecidableEq, Repr

namespace PhaseEdge

/-- The ways on from a phase in which a run has ended. -/
def reentries (source : Phase) : List PhaseEdge :=
  [⟨source, .running, .specChanged, "Re-enter the run with the new spec"⟩,
    ⟨source, .failed, .validationFailed, "New spec rejected before any remote call"⟩]

/-- All ways between phases. -/
def table : List PhaseEdge :=
  [⟨.pending, .running, .started, "First run of the declared plan"⟩,
    ⟨.pending, .failed, .validationFailed, "Spec rejected before any remote call"⟩,
    ⟨.running, .running, .started, "Resume a run interrupted by an operator restart"⟩,
    ⟨.running, .completed, .allComponentsSucceeded, "Every component upgraded"⟩,
    ⟨.running, .partiallyCompleted, .partialUpgrade,
      "Declared groups left for a later run, MP skipped"⟩,
    ⟨.running, .failed, .runFailed, "Run aborted on the first non-recoverable error"⟩,
    ⟨.running, .failed, .validationFailed, "Spec rejected before resuming"⟩]
    ++ reentries .completed ++ reentries .partiallyCompleted ++ reentries .failed

/-- Whether an edge is open for a number of components that were upgraded in part. -/
def isOpen (edge : PhaseEdge) (partialComponents : Nat) : Bool :=
  match edge.source, edge.destination with
  | .running, .partiallyCompleted => 0 < partialComponents
  | .running, .completed => partialComponents = 0
  | _, _ => true

end PhaseEdge

namespace Phase

/-- The edge that an event takes from a phase, if there is one and it is open. -/
def step? (phase : Phase) (event : RunEvent) (partialComponents : Nat) : Option PhaseEdge :=
  (PhaseEdge.table.find? fun edge => edge.source = phase ∧ edge.event = event).filter fun edge =>
    edge.isOpen partialComponents

/-- Whether a phase can stay or lead to another one. -/
def canReach (phase next : Phase) : Bool :=
  phase = next || PhaseEdge.table.any fun edge => edge.source = phase ∧ edge.destination = next

/-- The phases that the edges of a phase lead to. -/
def successors (phase : Phase) : List Phase :=
  (PhaseEdge.table.filter fun edge => edge.source = phase).map PhaseEdge.destination

end Phase

end FabricUpgrade
