import FabricUpgrade.Proofs.Arrangement
import FabricUpgrade.Proofs.Timetable

/-!
# A plant and a simulated fabric

A `Plant` and a `Simulation.Fabric` are two accounts of a fabric that follows scripts, and a plant may
be mirrored by a simulated fabric (`Mirrors`).  They differ in two points.  On a plant a pause replaces
what is left of the script of a part in progress, on a simulated fabric only a script of which nothing
is left; and where a group is named that is not there, they complain in different words.  Every other
call `Agrees`: both answer it alike and mirror each other afterwards (`Mirrors.answer`).  So a session of
such calls goes on a stage as it goes in the world of the plant (`Stages.hold`), and an upgrade is the
same in both (`Plant.hold_execution`).
-/

namespace FabricUpgrade

open Program Session Simulation

/-- Different components are written differently. -/
theorem Component.wire_injective : Function.Injective Component.wire := by
  intro first second same
  rw [← Option.some.injEq, ← ofWire?_wire first, same, ofWire?_wire]

/-- A part as a component of a simulated fabric. -/
def Part.mirrored (component : Component) (part : Part) : FabricComponent where
  type := component.wire
  status := part.status
  details := part.details
  targetVersion := some "4.2.1.0.0"
  script := part.script.map fun status => .turn status none
  upgradeScript := part.upgradeScript.map fun status => .turn status none

/-- The simulated fabric has the groups, the settings and the parts of the plant, and nothing else is
made to happen on it. -/
structure Mirrors (fabric : Fabric) (plant : Plant) : Prop where
  groups : fabric.groups = plant.groups
  settings : ∀ component, fabric.settingsOf component = plant.settings component
  components : fabric.components =
    Component.ordered.map fun component => (plant.part component).mirrored component
  overall : fabric.overall = []
  linger : fabric.linger = 0
  hidden : fabric.hidden = []
  faults : fabric.faults = []

namespace Plant

/-- The call is one that a simulated fabric answers alike. -/
def Agrees (plant : Plant) : Call → Prop
  | .getGroup id | .updateGroup id _ => id ∈ plant.ids
  | .reorderGroup id placement =>
    id ∈ plant.ids ∧
      placement.anchor ∈ (plant.groups.eraseP fun group => group.id = id).map UnitGroup.id
  | .pause => ∀ component ∈ Component.ordered, (plant.part component).status = .inProgress →
      (plant.part component).script = [] ∨ (plant.part component).script = [.paused]
  | _ => True

instance (plant : Plant) : (call : Call) → Decidable (plant.Agrees call)
  | .getGroup id | .updateGroup id _ => inferInstanceAs (Decidable (id ∈ plant.ids))
  | .reorderGroup _ _ => inferInstanceAs (Decidable (_ ∧ _))
  | .pause => inferInstanceAs (Decidable (∀ component ∈ Component.ordered, _))
  | .getStatus _ | .listGroups _ | .getSettings _ | .updateSettings _ _ | .reset _ | .upgrade _
  | .getGroupStatus _ | .checkUpgraded _ => .isTrue trivial

/-- Every call is one that a simulated fabric answers alike after the calls in front of it. -/
def AgreesAll (plant : Plant) : List Call → Prop
  | [] => True
  | call :: rest => plant.Agrees call ∧ (plant.respond call).2.AgreesAll rest

instance decidableAgreesAll (plant : Plant) : (calls : List Call) → Decidable (plant.AgreesAll calls)
  | [] => .isTrue trivial
  | call :: rest =>
    have := decidableAgreesAll (plant.respond call).2 rest
    inferInstanceAs (Decidable (_ ∧ _))

/-- The plant as a simulated fabric. -/
def mirror (plant : Plant) : Fabric where
  groups := plant.groups
  settings := Component.ordered.map fun component => (component, plant.settings component)
  components := Component.ordered.map fun component => (plant.part component).mirrored component

/-- A plant is mirrored by what it is as a simulated fabric. -/
theorem mirrors_mirror (plant : Plant) : Mirrors plant.mirror plant where
  groups := rfl
  settings component := by cases component <;> rfl
  components := rfl
  overall := rfl
  linger := rfl
  hidden := rfl
  faults := rfl

end Plant

namespace Mirrors

variable {fabric : Fabric} {plant : Plant} {component : Component} {id : String}

/-- The status of the whole upgrade is the same on both. -/
theorem computedOverall_eq (mirrors : Mirrors fabric plant) :
    fabric.computedOverall = plant.part.overall := by
  rw [Fabric.computedOverall, mirrors.components, List.any_map, List.all_map]
  rfl

/-- The parts that are shown of the mirrored component. -/
theorem records_eq (mirrors : Mirrors fabric plant) (component : Component) :
    (fabric.records fun entry => entry.type = component.wire) =
      [(plant.part component).record component] := by
  rw [Fabric.records, mirrors.components, mirrors.hidden]
  cases component <;> rfl

/-- A part that is changed in the same way on both goes on being mirrored. -/
theorem modifyType (mirrors : Mirrors fabric plant) (component : Component) {change : Part → Part}
    {changeToo : FabricComponent → FabricComponent}
    (alike : ∀ part : Part, changeToo (part.mirrored component) = (change part).mirrored component) :
    Mirrors (fabric.modifyType component.wire changeToo)
      { plant with part := plant.part.change component change } :=
  { mirrors with
    components := by
      rw [Fabric.modifyType, mirrors.components, List.map_map]
      refine List.map_congr_left fun other _ => ?_
      change (if other.wire = component.wire then _ else _) = _
      by_cases same : other = component
      · subst same
        rw [if_pos rfl, alike]
        exact congrArg _ (Parts.change_same plant.part other change).symm
      · have differs : other.wire ≠ component.wire := fun wires =>
          same (Component.wire_injective wires)
        rw [if_neg differs]
        exact congrArg _ (Parts.change_of_ne same plant.part change).symm }

/-- The first component of a type is the only one. -/
theorem modifyFirst_mirrored (parts : Parts) (component : Component) (change : Part → Part) :
    Fabric.modifyFirst (fun entry => entry.type = component.wire)
        (fun _ => (change (parts component)).mirrored component)
        (Component.ordered.map fun other => (parts other).mirrored other) =
      Component.ordered.map fun other => (parts.change component change other).mirrored other := by
  cases component <;> rfl

/-- A step of a script is a step of the mirrored script. -/
theorem advance (mirrors : Mirrors fabric plant) (component : Component) :
    (fabric.advance component.wire).1 = none ∧
      Mirrors (fabric.advance component.wire).2
        { plant with part := plant.part.change component Part.advanced } := by
  have found : fabric.components.find? (fun entry => entry.type = component.wire) =
      some ((plant.part component).mirrored component) := by
    rw [mirrors.components]
    cases component <;> rfl
  rw [Fabric.advance, found]
  cases script : (plant.part component).script with
  | nil =>
    have stays : plant.part.change component Part.advanced = plant.part := by
      rw [Parts.change, Part.advanced, script]
      exact Function.update_eq_self component plant.part
    have ended : ((plant.part component).mirrored component).script = [] := by
      rw [Part.mirrored, script, List.map_nil]
    simp only [ended, stays]
    exact ⟨trivial, mirrors⟩
  | cons status rest =>
    have next : ((plant.part component).mirrored component).script =
        .turn status none :: rest.map fun status => .turn status none := by
      rw [Part.mirrored, script, List.map_cons]
    have advanced : Part.advanced (plant.part component) =
        { plant.part component with status, script := rest } := by
      rw [Part.advanced, script]
    simp only [next]
    refine ⟨trivial, { mirrors with components := ?_, overall := ?_ }⟩
    · rw [mirrors.components, ← modifyFirst_mirrored, advanced]
      rfl
    · simp [mirrors.overall, mirrors.linger]

/-- A status request about a component takes a step of both scripts and shows the same. -/
theorem componentSummary (mirrors : Mirrors fabric plant) (component : Component) :
    (fabric.componentSummary component).1 =
        .ok ((plant.part.change component Part.advanced).summary [component]) ∧
      Mirrors (fabric.componentSummary component).2
        { plant with part := plant.part.change component Part.advanced } := by
  obtain ⟨succeeds, advanced⟩ := mirrors.advance component
  rw [Fabric.componentSummary]
  cases taken : fabric.advance component.wire with
  | mk error next =>
    rw [taken] at succeeds advanced
    cases succeeds
    refine ⟨?_, advanced⟩
    simp only [advanced.computedOverall_eq, advanced.records_eq]
    rfl

/-- A status request about the whole upgrade shows the same and changes nothing. -/
theorem overallSummary (mirrors : Mirrors fabric plant) :
    fabric.overallSummary = (plant.part.summary Component.ordered, fabric) := by
  have shown : fabric.records (fun _ => true) =
      Component.ordered.map fun component => (plant.part component).record component := by
    rw [Fabric.records, mirrors.components, mirrors.hidden]
    rfl
  rw [Fabric.overallSummary, mirrors.overall, mirrors.computedOverall_eq, shown]
  rfl

/-- A pause goes alike where nothing is left of the scripts of the parts in progress but a pause. -/
theorem pauseAll (mirrors : Mirrors fabric plant) (agrees : plant.Agrees .pause) :
    Mirrors fabric.pauseAll { plant with part := plant.part.pausing } :=
  { mirrors with
    components := by
      rw [Fabric.pauseAll, mirrors.components, List.map_map]
      refine List.map_congr_left fun component member => ?_
      have agreed := agrees component member
      change _ = (plant.part component).pausing.mirrored component
      simp only [Function.comp_apply]
      generalize plant.part component = part at agreed ⊢
      by_cases working : part.status = .inProgress
      · rcases agreed working with script | script <;>
          simp [Part.mirrored, Part.pausing, working, script]
      · simp [Part.mirrored, Part.pausing, working] }

/-- A reset does the same to both. -/
theorem reset_mirrored (part : Part) :
    Fabric.resetComponent (part.mirrored component) = part.reset.mirrored component := by
  rw [Part.reset]
  unfold Fabric.resetComponent
  change (if part.status = .paused ∨ part.status = .failed then _ else _) = _
  split <;> rfl

/-- The groups have the same statuses on both. -/
theorem groupStatuses (mirrors : Mirrors fabric plant) (component : Component) :
    fabric.groupStatuses component =
      (plant.groups.filter fun group => group.type = component.wire).map fun group =>
        ⟨group.id, group.displayName.getD "",
          if group.enabled then (plant.part component).status else .notStarted⟩ := by
  rw [Fabric.groupStatuses, mirrors.components, mirrors.groups]
  cases component <;> rfl

/-- Settings that are stored are shown, and no others are changed. -/
theorem settingsOf_storeSettings (fabric : Fabric) (component other : Component)
    (settings : PlanSettings) :
    (fabric.storeSettings component settings).settingsOf other =
      if other = component then settings else fabric.settingsOf other := by
  rw [Fabric.settingsOf, Fabric.storeSettings, List.find?_append]
  by_cases same : other = component
  · have absent : (fabric.settings.filter fun entry => entry.1 ≠ component).find?
        (fun entry => entry.1 = other) = none := by
      simp [List.find?_filter, same]
    rw [absent, if_pos same]
    simp [same]
  · have kept : (fabric.settings.filter fun entry => entry.1 ≠ component).find?
        (fun entry => entry.1 = other) = fabric.settings.find? fun entry => entry.1 = other := by
      rw [List.find?_filter]
      congr 1
      funext entry
      by_cases there : entry.1 = other <;> simp [there, same]
    rw [kept, if_neg same, Fabric.settingsOf]
    simp [Ne.symm same]

/-- Settings that are stored on both are shown on both. -/
theorem storeSettings (mirrors : Mirrors fabric plant) (component : Component)
    (settings : PlanSettings) :
    Mirrors (fabric.storeSettings component settings)
      { plant with settings := Function.update plant.settings component settings } :=
  { mirrors with
    settings := fun other => by
      rw [settingsOf_storeSettings, mirrors.settings]
      exact (Function.update_apply _ _ _ _).symm }

/-- A call that agrees is answered alike, and the two go on mirroring each other. -/
theorem answer (mirrors : Mirrors fabric plant) {call : Call} (agrees : plant.Agrees call) :
    (fabric.answer call).1 = (plant.respond call).1 ∧
      Mirrors (fabric.answer call).2 (plant.respond call).2 := by
  have unhindered : fabric.answer call = fabric.carryOut call := by
    obtain ⟨groups, settings, components, overall, linger, hidden, faults⟩ := fabric
    obtain rfl : faults = [] := mirrors.faults
    rfl
  rw [unhindered]
  cases call with
  | getGroup id =>
    obtain ⟨group, found, -⟩ := Plant.exists_group agrees
    rw [Fabric.carryOut, Plant.respond, mirrors.groups, found]
    exact ⟨rfl, mirrors⟩
  | updateGroup id group =>
    have there : (plant.groups.any fun other => other.id = id) = true := by
      simpa [Plant.Agrees, Plant.ids] using agrees
    rw [Fabric.carryOut, Plant.respond, mirrors.groups, if_pos there, if_pos there]
    exact ⟨rfl, { mirrors with groups := rfl }⟩
  | reorderGroup id placement =>
    obtain ⟨group, found, -⟩ := Plant.exists_group agrees.1
    have there : ((plant.groups.eraseP fun group => group.id = id).any fun other =>
        other.id = placement.anchor) = true := by
      simpa using agrees.2
    rw [Fabric.carryOut, Fabric.reorder, Plant.respond, mirrors.groups, found]
    simp only [there, if_true]
    exact ⟨rfl, { mirrors with groups := rfl }⟩
  | listGroups component =>
    cases component with
    | none =>
      rw [Fabric.carryOut, Plant.respond, mirrors.groups]
      exact ⟨by simp, mirrors⟩
    | some component =>
      rw [Fabric.carryOut, Plant.respond, mirrors.groups]
      exact ⟨rfl, mirrors⟩
  | getSettings component => exact ⟨congrArg Except.ok (mirrors.settings component), mirrors⟩
  | updateSettings component settings => exact ⟨rfl, mirrors.storeSettings component settings⟩
  | pause => exact ⟨rfl, mirrors.pauseAll agrees⟩
  | reset component => exact ⟨rfl, mirrors.modifyType component fun part => reset_mirrored part⟩
  | upgrade component => exact ⟨rfl, mirrors.modifyType component fun _ => rfl⟩
  | getStatus account =>
    cases account with
    | none =>
      rw [Fabric.carryOut, mirrors.overallSummary]
      exact ⟨rfl, mirrors⟩
    | some component => exact mirrors.componentSummary component
  | getGroupStatus component => exact ⟨congrArg Except.ok (mirrors.groupStatuses component), mirrors⟩
  | checkUpgraded component => exact ⟨rfl, mirrors⟩

end Mirrors

/-- On the stage is a mirror of the plant, and the stage stands where the world of the plant does after
the exchanges. -/
structure Stages (stage : Stage Fabric) (plant : Plant) (past : History) : Prop where
  calm : stage = .calm stage.manager (Plant.elapsed past) stage.calls
  mirrors : Mirrors stage.manager (plant.after (calls past))
  noted : stage.calls.map Prod.fst = (calls past).reverse

namespace Stages

variable {stage : Stage Fabric} {plant : Plant} {past : History}

/-- A question that is not a call is answered on the stage as in the world, if it takes as long. -/
theorem pass (stages : Stages stage plant past) (asked : Question) (answer : Answer asked)
    (quiet : asked.call? = none) :
    Stages { stage with now := stage.now + Plant.passed ⟨asked, answer⟩ } plant
      (past ++ [⟨asked, answer⟩]) := by
  have uncalled : calls [⟨asked, answer⟩] = [] := List.filterMap_cons_none quiet
  refine ⟨?_, ?_, ?_⟩
  · rw [Plant.elapsed_snoc, stages.calm]
    rfl
  · rw [calls_append, uncalled, List.append_nil]
    exact stages.mirrors
  · rw [calls_append, uncalled, List.append_nil]
    exact stages.noted

/-- Where all calls agree, the first exchange does, and the others do behind it. -/
theorem agreesAll_cons {exchange : Exchange Question Answer} {later : History}
    (agrees : (plant.after (calls past)).AgreesAll (calls (exchange :: later))) :
    (∀ made ∈ exchange.question.call?, (plant.after (calls past)).Agrees made) ∧
      (plant.after (calls (past ++ [exchange]))).AgreesAll (calls later) := by
  obtain ⟨asked, answer⟩ := exchange
  rw [calls_append, Plant.after_append]
  cases asked with
  | call made =>
    obtain ⟨agreed, agreeLater⟩ := agrees
    refine ⟨?_, agreeLater⟩
    rintro _ ⟨⟩
    exact agreed
  | now => exact ⟨nofun, agrees⟩
  | sleep milliseconds => exact ⟨nofun, agrees⟩
  | stopRequested => exact ⟨nofun, agrees⟩

/-- A question is answered on the stage as in the world, and both go on together. -/
theorem answer (stages : Stages stage plant past) (asked : Question)
    (agrees : ∀ made ∈ asked.call?, (plant.after (calls past)).Agrees made) :
    ((Stage.answer Fabric.answer asked).run stage).1 =
        plant.world.answer World.undisturbed past asked ∧
      Stages ((Stage.answer Fabric.answer asked).run stage).2 plant
        (past ++ [⟨asked, plant.world.answer World.undisturbed past asked⟩]) := by
  cases asked with
  | call made =>
    obtain ⟨alike, mirrors⟩ := stages.mirrors.answer (agrees made rfl)
    have called : (Stage.answer Fabric.answer (.call made)).run stage =
        ((stage.manager.answer made).1, .calm (stage.manager.answer made).2 (Plant.elapsed past)
          ((made, Plant.elapsed past) :: stage.calls)) := by
      rw [stages.calm]
      rfl
    rw [called]
    refine ⟨alike, ?_, ?_, ?_⟩
    · rw [Plant.elapsed_snoc]
      rfl
    · rw [calls_append, Plant.after_append]
      exact mirrors
    · rw [calls_append, List.reverse_append, ← stages.noted]
      rfl
  | now =>
    have instant : stage.now = Plant.elapsed past := by rw [stages.calm]; rfl
    exact ⟨instant, stages.pass .now _ rfl⟩
  | sleep milliseconds =>
    have slept : (Stage.answer Fabric.answer (.sleep milliseconds)).run stage =
        (true, { stage with now := stage.now + milliseconds }) := by
      rw [stages.calm]
      rfl
    rw [slept]
    exact ⟨rfl, stages.pass (.sleep milliseconds) true rfl⟩
  | stopRequested =>
    have running : stage.stopped = false := by rw [stages.calm]; rfl
    exact ⟨running, stages.pass .stopRequested _ rfl⟩

/-- A session goes on the stage as in the world if what it calls there agrees: it has the same result,
and the same calls are made. -/
theorem hold {Result : Type} {session : Session Result} {exchanges : History}
    (stages : Stages stage plant past)
    (goes : (session.converse (plant.world.answer World.undisturbed) past).1 = past ++ exchanges)
    (agrees : (plant.after (calls past)).AgreesAll (calls exchanges)) :
    (stage.hold Fabric.answer session).1 =
        (session.converse (plant.world.answer World.undisturbed) past).2 ∧
      Stages (stage.hold Fabric.answer session).2 plant (past ++ exchanges) := by
  induction session generalizing stage past exchanges with
  | done result =>
    obtain rfl : exchanges = [] := List.self_eq_append_right.1 goes
    exact ⟨rfl, (List.append_nil past).symm ▸ stages⟩
  | ask asked resume inductionHypothesis =>
    obtain ⟨later, split, -⟩ := converse_spec (plant.world.answer World.undisturbed)
      (resume (plant.world.answer World.undisturbed past asked))
      (past ++ [⟨asked, plant.world.answer World.undisturbed past asked⟩])
    obtain rfl : exchanges = ⟨asked, plant.world.answer World.undisturbed past asked⟩ :: later := by
      rw [converse, split, List.append_assoc] at goes
      exact (List.append_cancel_left goes).symm
    obtain ⟨agreed, agreeLater⟩ := agreesAll_cons agrees
    obtain ⟨alike, next⟩ := stages.answer asked agreed
    have goesOn : stage.hold Fabric.answer (.ask asked resume) =
        ((Stage.answer Fabric.answer asked).run stage).2.hold Fabric.answer
          (resume ((Stage.answer Fabric.answer asked).run stage).1) := rfl
    have held := inductionHypothesis _ next split agreeLater
    rw [← List.append_cons] at held
    rw [goesOn, alike]
    exact held

end Stages

namespace Plant

/-- A calm stage with the plant on it. -/
def stage (plant : Plant) : Stage Fabric :=
  .calm plant.mirror 0 []

/-- The calm stage begins where the world of the plant does. -/
theorem stages_stage (plant : Plant) : Stages plant.stage plant [] where
  calm := rfl
  mirrors := plant.mirrors_mirror
  noted := rfl

/-- An upgrade whose calls agree is on the stage what it is in the world of the plant. -/
theorem hold_execution (plant : Plant) (run : Run)
    (agrees : plant.AgreesAll (calls (plant.world.execution run World.undisturbed).1)) :
    (plant.stage.hold Fabric.answer (run.execute {}).run).1 =
        (plant.world.execution run World.undisturbed).2 ∧
      (plant.stage.hold Fabric.answer (run.execute {}).run).2.calls.map Prod.fst =
        (calls (plant.world.execution run World.undisturbed).1).reverse := by
  obtain ⟨same, stages⟩ := plant.stages_stage.hold (List.nil_append _).symm agrees
  exact ⟨same, stages.noted⟩

/-- On a plant with one group the calls of an upgrade that configures it agree. -/
example : Plant.AgreesAll { part := fun _ => {}, groups := [{ id := "rack" }] }
    (calls ((Plant.world { part := fun _ => {}, groups := [{ id := "rack" }] }).execution
      Run.oneGroup World.undisturbed).1) := by
  decide +kernel

end Plant

end FabricUpgrade
