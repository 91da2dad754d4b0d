import FabricUpgrade.Proofs.Watching

/-!
# Configurations at a plant

A plant finds, changes and moves its groups by their ids.  Configuring a component leaves the parts
of the plant as they are, and whether it succeeds is a matter of which groups there are, not of
their order (`Run.prepare_traces`); so it succeeds again at a plant where it has succeeded before.
-/

namespace FabricUpgrade

namespace Plant

variable {plant : Plant} {id : String}

/-- A group whose id is there is found. -/
theorem exists_group (member : id ∈ plant.ids) :
    ∃ group, (plant.groups.find? fun group => group.id = id) = some group ∧ group.id = id := by
  obtain ⟨group, there, same⟩ := List.mem_map.1 member
  cases found : plant.groups.find? fun group => group.id = id with
  | none => exact absurd (List.find?_eq_none.1 found group there) (by simp [same])
  | some group => exact ⟨group, rfl, by simpa using List.find?_some found⟩

/-- A plant shows a group that it has. -/
theorem respond_getGroup (member : id ∈ plant.ids) :
    ∃ group, plant.respond (.getGroup id) = (.ok group, plant) ∧ group.id = id := by
  obtain ⟨group, found, same⟩ := exists_group member
  refine ⟨group, ?_, same⟩
  rw [respond]
  simp only [found]

/-- A plant complains about a group that it does not have. -/
theorem respond_getGroup_absent (absent : id ∉ plant.ids) :
    (plant.respond (.getGroup id)).1 = .error (noGroup id) := by
  have none : (plant.groups.find? fun group => group.id = id) = none := by
    rw [List.find?_eq_none]
    intro group there
    simpa using fun same : group.id = id => absent (List.mem_map.2 ⟨group, there, same⟩)
  rw [respond]
  simp only [none]

/-- A group that is replaced under its id leaves the ids as they are. -/
theorem map_modifyFirst {groups : List UnitGroup} {group : UnitGroup} (same : group.id = id) :
    (Simulation.Fabric.modifyFirst (fun other => other.id = id) (fun _ => group) groups).map
      UnitGroup.id = groups.map UnitGroup.id := by
  induction groups with
  | nil => rfl
  | cons first rest inductionHypothesis =>
    rw [Simulation.Fabric.modifyFirst]
    by_cases found : first.id = id
    · simp [found, same]
    · simp [found, inductionHypothesis]

/-- A plant takes a group that it has, and keeps its parts and its ids. -/
theorem respond_updateGroup {group : UnitGroup} (same : group.id = id) (member : id ∈ plant.ids) :
    (plant.respond (.updateGroup id group)).1 = .ok group ∧
      (plant.respond (.updateGroup id group)).2.part = plant.part ∧
      (plant.respond (.updateGroup id group)).2.ids = plant.ids := by
  have there : (plant.groups.any fun other => other.id = id) = true := by
    simpa [ids] using member
  rw [respond, if_pos there]
  exact ⟨rfl, rfl, map_modifyFirst same⟩

/-- A group that is inserted at an anchor that is there is among the others. -/
theorem map_insertAt {groups : List UnitGroup} {group : UnitGroup} {placement : Placement}
    (there : placement.anchor ∈ groups.map UnitGroup.id) :
    ((Simulation.Fabric.insertAt group placement groups).map UnitGroup.id).Perm
      (group.id :: groups.map UnitGroup.id) := by
  induction groups with
  | nil => cases there
  | cons first rest inductionHypothesis =>
    rw [Simulation.Fabric.insertAt]
    by_cases found : first.id = placement.anchor
    · rw [if_pos found]
      cases placement.isBefore with
      | true => exact List.Perm.refl _
      | false => exact List.Perm.swap _ _ _
    · rw [if_neg found]
      have later : placement.anchor ∈ rest.map UnitGroup.id := by
        rcases List.mem_cons.1 there with here | later
        · exact absurd here.symm found
        · exact later
      exact ((inductionHypothesis later).cons _).trans (List.Perm.swap _ _ _)

/-- A group that is taken out takes its id out. -/
theorem map_eraseP (groups : List UnitGroup) (id : String) :
    (groups.eraseP fun group => group.id = id).map UnitGroup.id =
      (groups.map UnitGroup.id).erase id := by
  rw [List.erase_eq_eraseP, List.eraseP_map]
  congr 2
  funext group
  rw [Bool.eq_iff_iff, decide_eq_true_iff]
  exact eq_comm.trans beq_iff_eq.symm

/-- A plant moves a group to an anchor that is there, and keeps its parts and its ids up to their
order. -/
theorem respond_reorderGroup (placement : Placement) (member : id ∈ plant.ids)
    (anchored : placement.anchor ∈ plant.ids.erase id) :
    (plant.respond (.reorderGroup id placement)).1 = .ok () ∧
      (plant.respond (.reorderGroup id placement)).2.part = plant.part ∧
      (plant.respond (.reorderGroup id placement)).2.ids.Perm plant.ids := by
  obtain ⟨group, found, same⟩ := exists_group member
  have there : placement.anchor ∈ (plant.groups.eraseP fun group => group.id = id).map UnitGroup.id := by
    rwa [map_eraseP]
  have any : ((plant.groups.eraseP fun group => group.id = id).any fun other =>
      other.id = placement.anchor) = true := by
    simpa using there
  have moved : (plant.respond (.reorderGroup id placement)) = (.ok (), { plant with
      groups := Simulation.Fabric.insertAt group placement
        (plant.groups.eraseP fun group => group.id = id) }) := by
    rw [respond]
    simp only [found, any, if_true]
  rw [moved]
  refine ⟨rfl, rfl, (map_insertAt there).trans ?_⟩
  rw [map_eraseP, same]
  exact (List.perm_cons_erase member).symm

/-- A plant that has a group complains about an anchor that is not there. -/
theorem respond_reorderGroup_unanchored (placement : Placement) (member : id ∈ plant.ids)
    (loose : placement.anchor ∉ plant.ids.erase id) :
    (plant.respond (.reorderGroup id placement)).1 = .error (noGroup placement.anchor) := by
  obtain ⟨group, found, -⟩ := exists_group member
  have none : ((plant.groups.eraseP fun group => group.id = id).any fun other =>
      other.id = placement.anchor) = false := by
    rw [ids, ← map_eraseP] at loose
    simpa using loose
  rw [respond]
  simp only [found, none]
  rfl

end Plant

namespace Plan

variable (ids : List String) (parts : Parts) (component : Component)

/-- Whether groups can be configured, where there are groups of these ids: each is there, and so is
the one that it is put behind. -/
def fits (ids : List String) : Option String → List DeclaredGroup → Bool
  | _, [] => true
  | previous, declared :: rest =>
    decide (declared.id ∈ ids) &&
      (previous.all fun anchor => decide (anchor ∈ ids.erase declared.id)) &&
      fits ids (some declared.id) rest

/-- Whether configuring groups succeeds is a matter of which groups there are. -/
theorem configureGroupsAfter_traces (previous : Option String) (declared : List DeclaredGroup) :
    Traces ids 0 (configureGroupsAfter component previous declared) parts
      (if fits ids previous declared then .returning () parts else .failing) := by
  induction declared generalizing previous with
  | nil => exact traces_pure ()
  | cons group rest inductionHypothesis =>
    rw [configureGroupsAfter, fits]
    by_cases member : group.id ∈ ids
    · refine traces_perform_bind parts (fun fetched => fetched.id = group.id) ?_ fun fetched same => ?_
      · rintro plant rfl named
        obtain ⟨fetched, responded, same⟩ := Plant.respond_getGroup (named.mem_iff.2 member)
        rw [responded]
        exact ⟨fetched, rfl, same, rfl, named⟩
      refine traces_perform_bind parts (fun _ => True) ?_ fun _ _ => ?_
      · rintro plant rfl named
        have changed : (group.applyTo component fetched).id = group.id := same
        obtain ⟨replied, part, names⟩ := Plant.respond_updateGroup changed (named.mem_iff.2 member)
        exact ⟨_, replied, trivial, part, names ▸ named⟩
      cases previous with
      | none =>
        simp only [member, decide_true, Option.all_none, Bool.true_and]
        exact inductionHypothesis (some group.id)
      | some anchor =>
        by_cases anchored : anchor ∈ ids.erase group.id
        · simp only [member, anchored, decide_true, Option.all_some, Bool.true_and]
          refine traces_perform_bind parts (fun _ => True) ?_ fun _ _ =>
            inductionHypothesis (some group.id)
          rintro plant rfl named
          obtain ⟨replied, part, names⟩ := Plant.respond_reorderGroup (.after anchor)
            (named.mem_iff.2 member) ((named.erase _).mem_iff.2 anchored)
          exact ⟨_, replied, trivial, part, names.trans named⟩
        · simp only [anchored, decide_false, Option.all_some, Bool.and_false, Bool.false_and]
          refine traces_perform_bind_refused ?_
          intro plant _ named
          refine ⟨_, Plant.respond_reorderGroup_unanchored (.after anchor)
            (named.mem_iff.2 member) ?_⟩
          exact fun there => anchored ((named.erase _).mem_iff.1 there)
    · simp only [member, decide_false, Bool.false_and]
      refine traces_perform_bind_refused ?_
      intro plant _ named
      exact ⟨_, Plant.respond_getGroup_absent fun there => member (named.mem_iff.1 there)⟩

/-- The settings are configured without anything moving. -/
theorem configureSettings_traces (declared : Option DeclaredSettings) :
    Traces ids 0 (configureSettings component declared) parts (.returning () parts) := by
  cases declared with
  | none => exact traces_pure ()
  | some declared =>
    refine traces_perform_bind parts (fun _ => True) ?_ fun settings _ => ?_
    · rintro plant rfl named
      exact ⟨plant.settings component, rfl, trivial, rfl, named⟩
    refine traces_perform_bind parts (fun _ => True) ?_ fun _ _ => traces_pure ()
    rintro plant rfl named
    exact ⟨_, rfl, trivial, rfl, named⟩

end Plan

namespace Run

/-- Whether a component can be configured, where there are groups of these ids. -/
def configures (run : Run) (ids : List String) (component : Component) : Bool :=
  (run.plan? component).all fun plan => Plan.fits ids none plan.groups

/-- What preparing a component does to the parts of a plant. -/
theorem prepare_traces (run : Run) (ids : List String) (component : Component) (parts : Parts) :
    Traces ids 0 (run.prepare component) parts
      (if run.configures ids component then .returning () (parts.change component Part.reset)
        else .failing) := by
  refine traces_perform_bind (parts.change component Part.reset) (fun _ => True) ?_ fun _ _ => ?_
  · rintro plant rfl named
    exact ⟨(), rfl, trivial, rfl, named⟩
  cases declares : run.plan? component with
  | none =>
    rw [configures, declares]
    exact traces_pure ()
  | some plan =>
    have configured := traces_bind
      (Plan.configureGroupsAfter_traces ids (parts.change component Part.reset) component none
        plan.groups)
      fun _ parts => Plan.configureSettings_traces ids parts component plan.settings
    rw [configures, declares, Option.all_some]
    cases fits : Plan.fits ids none plan.groups with
    | true =>
      simp only [fits, if_true] at configured ⊢
      exact configured
    | false =>
      rw [fits] at configured
      exact configured

end Run

end FabricUpgrade
