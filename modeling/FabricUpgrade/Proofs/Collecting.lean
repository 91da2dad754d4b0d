import FabricUpgrade.Proofs.Waiting
import FabricUpgrade.Upgrade.Collection

/-!
# Collecting the outputs

The outputs of an upgrade are collected by calls that only read.
-/

namespace FabricUpgrade

open Program Session

/-- The questions by which outputs are collected. -/
inductive Session.Reads : Question → Prop where
  | listGroups (component : Option Component) : Reads (.call (.listGroups component))
  | getStatus (component : Option Component) : Reads (.call (.getStatus component))
  | getGroupStatus (component : Component) : Reads (.call (.getGroupStatus component))

/-- What reads changes nothing. -/
theorem Session.Reads.not_changes {call : Call} (reads : Reads (.call call)) :
    call.changes = false := by
  cases reads <;> rfl

namespace Outputs

variable {past : History}

/-- Only questions by which outputs are collected are asked. -/
def OnlyReads {Value : Type} (part : Procedure Value) : Prop :=
  ∀ past, part.run.Obeys (fun _ asked => Reads asked) (fun _ _ => True) past

/-- A sequence only reads if its parts do. -/
theorem onlyReads_bind {First Second : Type} {first : Procedure First}
    {next : First → Procedure Second} (begins : OnlyReads first)
    (continues : ∀ value, OnlyReads (next value)) : OnlyReads (first >>= next) :=
  only_bind begins continues

/-- A value that is just returned reads nothing. -/
theorem onlyReads_pure {Value : Type} (value : Value) : OnlyReads (pure value) :=
  fun _ => trivial

/-- A call that reads only reads, whatever it is answered. -/
theorem onlyReads_perform {call : Call} {component : Option Component} {target : Option String}
    (reads : Reads (.call call)) : OnlyReads (Procedure.perform call component target) := fun _ =>
  Procedure.obeys_perform reads (fun _ => trivial) fun _ => trivial

/-- Collecting the states of groups only reads. -/
theorem onlyReads_collectGroupStates {type : String} : OnlyReads (collectGroupStates type) := by
  unfold collectGroupStates
  cases Component.ofWire? type with
  | none => exact onlyReads_pure _
  | some component =>
    exact onlyReads_bind (onlyReads_perform (.getGroupStatus component)) fun _ => onlyReads_pure _

/-- Collecting the states of components only reads. -/
theorem onlyReads_collectStates {records : List ComponentRecord} :
    OnlyReads (collectStates records) := by
  induction records with
  | nil => exact onlyReads_pure _
  | cons record rest inductionHypothesis =>
    exact onlyReads_bind onlyReads_collectGroupStates fun _ =>
      onlyReads_bind inductionHypothesis fun _ => onlyReads_pure _

/-- Collecting the outputs only reads. -/
theorem onlyReads_collect : OnlyReads collect :=
  onlyReads_bind (onlyReads_perform (.listGroups none)) fun _ =>
    onlyReads_bind (onlyReads_perform (.getStatus none)) fun _ =>
      onlyReads_bind onlyReads_collectStates fun _ => onlyReads_pure _

/-- Whatever is asked to collect the outputs only reads. -/
theorem reads_of_asks {said : History} {asked : Question} (asks : Asks collect.run said asked) :
    Reads asked :=
  (onlyReads_collect []).permits asks

end Outputs

end FabricUpgrade
