import FabricUpgrade.Proofs.Arrangement
import FabricUpgrade.Proofs.Turn

/-!
# A run at a plant

What a run does to the parts of a plant, turn by turn.  `Run.arriving` is the beginning of a turn, up
to where its component has settled, and `Run.concluding` is the rest of it; `Run.driving` is all the
turns.  `Run.execute_traces` says that this is what the run does at every plant with these parts and
groups, if the clock can show the time of all its waits.
-/

namespace FabricUpgrade

open Program Session

namespace Run

variable (run : Run) (ids : List String) (component : Component)

/-- Making a component settle that was looked at. -/
def settling (entry : Observation) (parts : Parts) : Trace Observation :=
  if component.customizable && entry.status.isInFlight then
    (if entry.status = .inProgress then parts.pausing else parts).await run.wait (some component)
      .untilStable
  else if entry.status = .pausing then parts.await run.wait (some component) .untilStable
  else .returning entry parts

/-- Looking at a component and making it settle. -/
def arriving (parts : Parts) : Trace Observation :=
  run.settling component ((parts.asked (some component)).seen (some component))
    (parts.asked (some component))

/-- Launching a component once everything is at rest. -/
def launching (parts : Parts) : Trace Unit :=
  (parts.await run.wait none .untilStable).andThen fun _ parts =>
    if run.configures ids component then .returning () (parts.change component Part.launched)
    else .failing

/-- The report of a component that was upgraded. -/
def upgradeReport (final : Observation) : ComponentReport :=
  ⟨component, if run.isPartial component then .partiallyCompleted else .completed, some final⟩

/-- Waiting for the upgrade of a component. -/
def finishing (parts : Parts) : Trace ComponentReport :=
  (parts.await run.wait (some component) (.ofUpgrade (run.isPartial component))).andThen
    fun final => .returning (run.upgradeReport component final)

/-- What is left of a turn when its component has settled. -/
def concluding (entry : Observation) (parts : Parts) : Trace ComponentReport :=
  if entry.status = .success then .returning ⟨component, .alreadySucceeded, some entry⟩ parts
  else if entry.status.isInFlight then run.finishing component parts
  else (run.launching ids component parts).andThen fun _ => run.finishing component

/-- The turn of a component. -/
def turning (parts : Parts) : Trace ComponentReport :=
  (run.arriving component parts).andThen (run.concluding ids component)

/-- The turns of components in order. -/
def driving : List Component → Bool → Parts → Trace (List ComponentReport)
  | [], _, parts => .returning [] parts
  | component :: rest, partialSeen, parts =>
    .pausing parts <|
      if component = .management && partialSeen then
        (driving rest partialSeen parts).andThen fun reports =>
          .returning (⟨component, .skipped, none⟩ :: reports)
      else
        (run.turning ids component parts).andThen fun report parts =>
          (driving rest (partialSeen || report.outcome = .partiallyCompleted) parts).andThen
            fun reports => .returning (report :: reports)

variable (entry : Observation) (parts : Parts)

theorem settle_traces :
    Traces ids run.wait.longest (run.settle {} component entry) parts
      (run.settling component entry parts) := by
  rw [settle, settling]
  by_cases working : (component.customizable && entry.status.isInFlight) = true
  · rw [if_pos working, if_pos working]
    by_cases pausable : entry.status = .inProgress
    · rw [if_pos pausable, if_pos pausable]
      refine traces_perform_bind parts.pausing (fun _ => True) ?_ fun _ _ => Wait.await_traces
      rintro plant rfl named
      exact ⟨(), rfl, trivial, rfl, named⟩
    · rw [if_neg pausable, if_neg pausable]
      exact Wait.await_traces
  · rw [if_neg working, if_neg working]
    by_cases pausing : entry.status = .pausing
    · rw [if_pos pausing, if_pos pausing]
      exact Wait.await_traces
    · rw [if_neg pausing, if_neg pausing]
      exact (traces_pure entry).mono (Nat.zero_le _)

/-- A launch has the trace of its one change. -/
theorem upgrade_traces :
    Traces ids 0 (Procedure.perform (.upgrade component) (some component) none) parts
      (.returning () (parts.change component Part.launched)) := by
  rintro scene rfl named -
  rw [Procedure.perform_run]
  refine ⟨rfl, nofun, ?_, nofun⟩
  rintro _ _ ⟨⟩
  exact ⟨rfl, rfl, named, Nat.le_refl _⟩

/-- The launch of a component, behind the wait for the whole upgrade, has its trace. -/
theorem launch_traces :
    Traces ids run.wait.longest (run.launch {} component) parts
      (run.launching ids component parts) := by
  refine (traces_bind Wait.await_traces fun _ parts => ?_).mono (Nat.le_refl (_ + 0))
  by_cases customizable : component.customizable = true
  · simp only [customizable]
    have prepared := traces_bind (prepare_traces run ids component parts) fun _ parts =>
      upgrade_traces ids component parts
    cases configures : run.configures ids component with
    | true =>
      simp only [configures, if_true] at prepared ⊢
      rw [← Parts.change_launched_reset]
      exact prepared
    | false =>
      simp only [configures] at prepared ⊢
      exact prepared
  · have configures : run.configures ids component = true := by
      cases component <;> first | rfl | exact absurd rfl customizable
    simp only [customizable, configures, if_true]
    exact upgrade_traces ids component _

theorem finish_traces :
    Traces ids run.wait.longest (run.finish component) parts (run.finishing component parts) :=
  traces_bind Wait.await_traces fun _ _ => traces_pure _

theorem conclude_traces :
    Traces ids (run.wait.longest + run.wait.longest) (run.conclude component entry) parts
      (run.concluding ids component entry parts) := by
  rw [conclude, concluding]
  by_cases succeeded : entry.status = .success
  · rw [if_pos succeeded, if_pos succeeded]
    exact (traces_pure _).mono (Nat.zero_le _)
  · rw [if_neg succeeded, if_neg succeeded]
    by_cases working : entry.status.isInFlight = true
    · rw [if_pos working]
      simp only [working, if_true]
      exact (finish_traces run ids component parts).mono (Nat.le_add_left _ _)
    · rw [if_neg working]
      simp only [working]
      exact traces_bind (launch_traces run ids component parts) fun _ parts =>
        finish_traces run ids component parts

theorem driveComponent_traces :
    Traces ids (3 * run.wait.longest) (run.driveComponent {} component) parts
      (run.turning ids component parts) := by
  rw [driveComponent_eq]
  intro scene part named fits
  refine Wait.observe_bind_fits part named fun plant part named => ?_
  have rest := traces_bind (settle_traces run ids component
    ((parts.asked (some component)).seen (some component)) (parts.asked (some component)))
    fun entry parts => conclude_traces run ids component entry parts
  exact (rest.mono (by omega)) ⟨plant, scene.now⟩ part named fits

/-- On a plant all checks can be started. -/
theorem hold_startChecks (components : List Component) (scene : Scene) :
    scene.hold (startChecks components) = ⟨[], components, scene⟩ := by
  induction components with
  | nil => rfl
  | cons component rest inductionHypothesis =>
    change scene.hold ((startChecks rest).andThen fun started => .done (component :: started)) = _
    rw [Scene.hold_andThen, inductionHypothesis]
    rfl

/-- The checks are dispatched without anything moving. -/
theorem dispatchChecks_traces :
    Traces ids 0 (liftM run.dispatchChecks : Procedure (List Component)) parts
      (.returning (Component.ordered.filter run.wantsCheck) parts) := by
  rintro scene rfl named -
  change (scene.hold (run.dispatchChecks.andThen fun started => .done (.ok started))).Fits _ _ _
  rw [Scene.hold_andThen, dispatchChecks, hold_startChecks]
  exact pure_fits _ rfl named (Nat.le_refl _)

/-- Driving some components has the trace of their turns. -/
theorem drive_traces (components : List Component) (partialSeen : Bool) :
    Traces ids (components.length * (3 * run.wait.longest))
      (run.drive {} components partialSeen) parts
      (run.driving ids components partialSeen parts) := by
  induction components generalizing partialSeen parts with
  | nil => exact (traces_pure _).mono (Nat.zero_le _)
  | cons component rest inductionHypothesis =>
    have enough : (component :: rest).length * (3 * run.wait.longest) =
        3 * run.wait.longest + rest.length * (3 * run.wait.longest) := by
      rw [List.length_cons, Nat.add_mul, Nat.one_mul, Nat.add_comm]
    rw [enough, driving]
    apply traces_stopRequested_bind
    by_cases skipped : (decide (component = .management) && partialSeen) = true
    · rw [if_pos skipped]
      simp only [skipped, if_true]
      refine (traces_bind (inductionHypothesis parts partialSeen) fun _ _ => traces_pure _).mono ?_
      omega
    · rw [if_neg skipped]
      simp only [skipped]
      exact traces_bind (driveComponent_traces run ids component parts) fun report parts =>
        traces_bind (inductionHypothesis parts _) fun _ _ => traces_pure _

/-- The clock can show the time of all the waits of a run. -/
def FitsClock : Prop :=
  9 * run.wait.longest ≤ Wait.horizon

instance : Decidable run.FitsClock :=
  inferInstanceAs (Decidable (_ ≤ _))

/-- What a run does at every plant. -/
theorem execute_traces (parts : Parts) :
    Traces ids (9 * run.wait.longest) (run.execute {}) parts
      ((run.driving ids Component.ordered false parts).andThen fun components =>
        .returning { components, postChecks := Component.ordered.filter run.wantsCheck }) := by
  refine (traces_bind (drive_traces run ids parts Component.ordered false) fun components parts =>
    traces_bind (dispatchChecks_traces run ids parts) fun _ _ => traces_pure _).mono ?_
  · simp [Component.ordered]
    omega

end Run

end FabricUpgrade
