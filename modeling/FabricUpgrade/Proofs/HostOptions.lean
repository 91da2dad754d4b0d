import FabricUpgrade.Proofs.Amending

/-!
# Host options in a bag

Host options are written into a bag as a unit: their four keys are taken out, wherever and however
often they stand, and the options are put behind what is left.  So nothing that stood under these
keys before has any influence, and each of them is there once or not at all.  A look-up takes the
first entry of a key and the view as a map takes the last one; of the keys of host options both show
the same (`HostConfig.applyTo_overwrites`).
-/

namespace FabricUpgrade

open Json

namespace Bag

variable {bag first second : Bag} {key : String}

/-- An entry is found in the first of two bags, or else in the second. -/
theorem get?_append : get? (first ++ second) key = (get? first key).or (get? second key) := by
  rw [get?, List.find?_append, Option.map_or]
  rfl

/-- Nothing is found under a key that no entry has. -/
theorem get?_eq_none (absent : ∀ entry ∈ bag, entry.key ≠ key) : get? bag key = none := by
  have unfound : bag.find? (fun entry => entry.key = key) = none :=
    List.find?_eq_none.2 fun entry there => by simpa using absent entry there
  rw [get?, unfound, Option.map_none]

/-- Where no key stands twice, it makes no difference from which end a key is looked for. -/
theorem get?_reverse (once : (bag.map BagEntry.key).Nodup) :
    get? bag.reverse key = get? bag key := by
  induction bag with
  | nil => rfl
  | cons entry rest inductionHypothesis =>
    obtain ⟨unrepeated, once⟩ := List.nodup_cons.1 once
    have front : get? ([entry] ++ rest) key = (get? [entry] key).or (get? rest key) := get?_append
    rw [List.singleton_append] at front
    rw [List.reverse_cons, get?_append, inductionHypothesis once, front]
    by_cases same : entry.key = key
    · have absent : get? rest key = none := get?_eq_none fun other there found =>
        unrepeated (same.trans found.symm ▸ List.mem_map_of_mem there)
      rw [absent, Option.none_or, Option.or_none]
    · have absent : get? [entry] key = none := get?_eq_none (by simpa using same)
      rw [absent, Option.none_or, Option.or_none]

/-- An entry is found in a list of pairs as it is in the bag. -/
theorem lookup_entries (bag : Bag) :
    (bag.map fun entry => (entry.key, entry.value)).lookup key = get? bag key := by
  induction bag with
  | nil => rfl
  | cons entry rest inductionHypothesis =>
    rw [List.map_cons, Members.lookup_cons, inductionHypothesis]
    by_cases same : entry.key = key
    · simp [get?, same]
    · simp [get?, same, Ne.symm same]

/-- The view as a map shows the last entry of a key. -/
theorem lookup_toMap (bag : Bag) : bag.toMap.lookup key = get? bag.reverse key := by
  rw [toMap, SortedMap.lookup_ofEntries, ← List.map_reverse, lookup_entries]

end Bag

/-- Different modes of a host are written differently. -/
theorem HostMode.wire_injective : Function.Injective HostMode.wire := by
  intro first second same
  rw [← Option.some.injEq, ← ofWire?_wire first, same, ofWire?_wire]

/-- Different modes of a storage cluster are written differently. -/
theorem VsanMode.wire_injective : Function.Injective VsanMode.wire := by
  intro first second same
  rw [← Option.some.injEq, ← ofWire?_wire first, same, ofWire?_wire]

namespace HostConfig

variable {config : HostConfig} {bag : Bag} {key : String}

/-- Different flags are written differently. -/
theorem flag_injective : Function.Injective flag := by
  intro first second
  revert first second
  decide

/-- The bag of the options of a host is the list of their entries. -/
theorem toBag_eq (config : HostConfig) : config.toBag = config.entries := by
  rw [toBag, applyTo_eq, List.filter_nil, List.nil_append]

/-- Every entry of the options has one of their keys. -/
theorem key_mem_of_mem_entries {entry : BagEntry} (there : entry ∈ config.entries) :
    entry.key ∈ keys :=
  config.keys_entries_sublist.subset (List.mem_map_of_mem there)

/-- What options say under a key: the modes only where there is one, the flags always, and nothing
under any other key. -/
def value? (config : HostConfig) (key : String) : Option String :=
  if key = upgradeModeKey then config.upgradeMode.map HostMode.wire
  else if key = vsanModeKey then config.vsanMode.map VsanMode.wire
  else if key = evacuateKey then some (flag config.evacuatePoweredOffVms)
  else if key = rebootlessKey then some (flag config.rebootlessUpgrade)
  else none

/-- Under each of their keys stands the value of the option, if it is given. -/
theorem get?_entries (owned : key ∈ keys) : Bag.get? config.entries key = config.value? key := by
  obtain ⟨upgradeMode, vsanMode, _, _⟩ := config
  simp only [keys, List.mem_cons, List.not_mem_nil, or_false] at owned
  rcases owned with rfl | rfl | rfl | rfl <;> cases upgradeMode <;> cases vsanMode <;> rfl

/-- Under the keys of options there is nothing just where a mode is not given. -/
theorem value?_eq_none_iff (owned : key ∈ keys) :
    config.value? key = none ↔
      (key = upgradeModeKey ∧ config.upgradeMode = none) ∨
        (key = vsanModeKey ∧ config.vsanMode = none) := by
  simp only [keys, List.mem_cons, List.not_mem_nil, or_false] at owned
  rcases owned with rfl | rfl | rfl | rfl <;>
    simp [value?, upgradeModeKey, vsanModeKey, evacuateKey, rebootlessKey]

/-- Options that say the same under each of their keys are the same. -/
theorem eq_of_value?_eq {other : HostConfig}
    (same : ∀ key ∈ keys, other.value? key = config.value? key) :
    other = config := by
  have upgradeMode : other.upgradeMode.map HostMode.wire = config.upgradeMode.map HostMode.wire :=
    same upgradeModeKey (by decide)
  have vsanMode : other.vsanMode.map VsanMode.wire = config.vsanMode.map VsanMode.wire :=
    same vsanModeKey (by decide)
  have evacuates :
      some (flag other.evacuatePoweredOffVms) = some (flag config.evacuatePoweredOffVms) :=
    same evacuateKey (by decide)
  have rebootless : some (flag other.rebootlessUpgrade) = some (flag config.rebootlessUpgrade) :=
    same rebootlessKey (by decide)
  obtain ⟨_, _, _, _⟩ := other
  obtain ⟨_, _, _, _⟩ := config
  rw [mk.injEq]
  exact ⟨Option.map_injective HostMode.wire_injective upgradeMode,
    Option.map_injective VsanMode.wire_injective vsanMode,
    flag_injective (Option.some.inj evacuates), flag_injective (Option.some.inj rebootless)⟩

/-- Of a key of options, a bag that they were written into shows what they say, from whichever end
it is looked at. -/
theorem get?_applyTo (owned : key ∈ keys) :
    Bag.get? (config.applyTo bag) key = config.value? key := by
  have absent : Bag.get? (bag.filter fun entry => entry.key ∉ keys) key = none :=
    Bag.get?_eq_none fun entry there found =>
      of_decide_eq_true (List.mem_filter.1 there).2 (found ▸ owned)
  rw [applyTo_eq, Bag.get?_append, absent, Option.none_or, get?_entries owned]

/-- In the map as well, under each of their keys stands the value of the option. -/
theorem lookup_toMap_applyTo (owned : key ∈ keys) :
    (config.applyTo bag).toMap.lookup key = config.value? key := by
  have distinct : (config.entries.map BagEntry.key).Nodup :=
    List.Nodup.sublist config.keys_entries_sublist (by decide)
  have absent : Bag.get? (bag.filter fun entry => entry.key ∉ keys).reverse key = none :=
    Bag.get?_eq_none fun entry there found =>
      of_decide_eq_true (List.mem_filter.1 (List.mem_reverse.1 there)).2 (found ▸ owned)
  rw [Bag.lookup_toMap, applyTo_eq, List.reverse_append, Bag.get?_append, absent, Option.or_none,
    Bag.get?_reverse distinct, get?_entries owned]

/-- Options that are written into a bag leave nothing there of options that were written before. -/
theorem applyTo_applyTo (config earlier : HostConfig) (bag : Bag) :
    config.applyTo (earlier.applyTo bag) = config.applyTo bag := by
  have own : earlier.entries.filter (fun entry => entry.key ∉ keys) = [] :=
    List.filter_eq_nil_iff.2 fun entry there => by simpa using key_mem_of_mem_entries there
  rw [applyTo_eq, applyTo_eq earlier, applyTo_eq, List.filter_append, own, List.append_nil,
    List.filter_filter]
  simp only [Bool.and_self]

/-- Options leave the entries of other keys as they are, in their order and as often as they stand,
and put their own behind them: the modes where there is one, and the flags.  So to write them once
more changes nothing, and of options that were written before nothing is left.  Afterwards a look-up
and the view as a map agree on their keys, and show nothing just for a mode that is not given.  From
their own entries options can be told apart. -/
theorem applyTo_overwrites (config : HostConfig) (bag : Bag) :
    config.applyTo bag = (bag.filter fun entry => entry.key ∉ keys) ++ config.toBag ∧
    config.toBag = config.entries ∧
    config.applyTo (config.applyTo bag) = config.applyTo bag ∧
    (∀ earlier : HostConfig, config.applyTo (earlier.applyTo bag) = config.applyTo bag) ∧
    (∀ key ∈ keys,
      Bag.get? (config.applyTo bag) key = config.value? key ∧
      (config.applyTo bag).toMap.lookup key = config.value? key ∧
      (config.value? key = none ↔
        (key = upgradeModeKey ∧ config.upgradeMode = none) ∨
          (key = vsanModeKey ∧ config.vsanMode = none))) ∧
    ∀ other : HostConfig, other.toBag = config.toBag → other = config := by
  refine ⟨?_, config.toBag_eq, applyTo_applyTo config config bag,
    fun earlier => applyTo_applyTo config earlier bag,
    fun key owned => ⟨get?_applyTo owned, lookup_toMap_applyTo owned, value?_eq_none_iff owned⟩, ?_⟩
  · rw [applyTo_eq, toBag_eq]
  · intro other same
    refine eq_of_value?_eq fun key owned => ?_
    rw [toBag_eq, toBag_eq] at same
    rw [← get?_entries owned, same, get?_entries owned]

/-- A bag with keys that stand twice, of host options and others. -/
def crowdedBag : Bag :=
  [⟨upgradeModeKey, "in_place"⟩, ⟨"rack", "4"⟩, ⟨rebootlessKey, "false"⟩, ⟨"rack", "7"⟩,
    ⟨upgradeModeKey, "maintenance_mode"⟩]

/-- No mode is left of the two that the bag had, from whichever end it is looked at. -/
theorem applyTo_overwrites_crowdedBag :
    ({} : HostConfig).applyTo crowdedBag =
      [⟨"rack", "4"⟩, ⟨"rack", "7"⟩] ++ ({} : HostConfig).toBag ∧
    upgradeModeKey ∈ keys ∧
    Bag.get? (({} : HostConfig).applyTo crowdedBag) upgradeModeKey = none ∧
    (({} : HostConfig).applyTo crowdedBag).toMap.lookup upgradeModeKey = none ∧
    ({ rebootlessUpgrade := true } : HostConfig).toBag = ({} : HostConfig).toBag ∧
    ({ rebootlessUpgrade := true } : HostConfig) = {} := by
  have owned : upgradeModeKey ∈ keys := by decide
  have same : ({ rebootlessUpgrade := true } : HostConfig).toBag = ({} : HostConfig).toBag := rfl
  obtain ⟨overwritten, -, -, -, shows, told⟩ := applyTo_overwrites {} crowdedBag
  obtain ⟨first, last, -⟩ := shows upgradeModeKey owned
  exact ⟨overwritten, owned, first, last, same, told _ same⟩

end HostConfig

end FabricUpgrade
