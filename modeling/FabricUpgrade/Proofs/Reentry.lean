import FabricUpgrade.Proofs.Order
import FabricUpgrade.Proofs.Resumption
import FabricUpgrade.Resource.Phase

/-!
# Executing a run on what it left behind

An execution is broken off, or its end is not recorded, and the run is executed again on the fabric
that is left.  Whether that is bound to end as the first execution would have ended can be told from
the report of an execution that nobody disturbs (`Plant.resumes_iff`): what was upgraded in part has
to show in a component that is left paused, for nothing else is remembered; and once a component is
left paused no later one may be upgraded, for the paused one is launched again, which waits in vain
while the later one is at work.
-/

namespace FabricUpgrade

open Program Session

/-- The run may be executed again on the fabric that it leaves behind. -/
structure Report.Repeats (report : Report) : Prop where
  /-- What was upgraded in part shows. -/
  lasting : report.isPartial = true → report.components.any ComponentReport.pauses = true
  /-- No component is upgraded after one that is left paused. -/
  allowed : report.components.Pairwise ComponentReport.Allows

/-- Two reports end alike exactly if both or neither of them tell of a part. -/
theorem RunEvent.ending_eq_iff {first second : Report} :
    RunEvent.ending (.ok first) = RunEvent.ending (.ok second) ↔
      first.isPartial = second.isPartial := by
  rw [ending, ending]
  cases first.isPartial <;> cases second.isPartial <;> decide

namespace Plant

variable {plant : Plant} {run : Run} {ids : List String} {report : Report}

/-- How a run is held at a plant with groups of these ids. -/
theorem held_fits (named : plant.ids.Perm ids) (shown : run.FitsClock) :
    (plant.held run).Fits ids (0 + 9 * run.wait.longest)
      ((run.driving ids Component.ordered false plant.part).andThen fun components =>
        .returning { components, postChecks := Component.ordered.filter run.wantsCheck }) :=
  run.execute_traces ids plant.part ⟨plant, 0⟩ rfl named (by simpa [Run.FitsClock] using shown)

/-- A run on a plant ends well exactly if the trace of its turns does, and then it reports those
turns. -/
theorem execution_ok_iff (named : plant.ids.Perm ids)
    (shown : run.FitsClock) :
    (plant.world.execution run World.undisturbed).2 = .ok report ↔
      ∃ components after,
        (run.driving ids Component.ordered false plant.part).ends = some (components, after) ∧
        report = { components, postChecks := Component.ordered.filter run.wantsCheck } := by
  have fits := held_fits named shown
  rw [(plant.execution_eq_held run).1]
  cases ends : (run.driving ids Component.ordered false plant.part).ends with
  | none =>
    obtain ⟨failure, failed⟩ := fits.failed (by rw [Trace.andThen_of_fails ends])
    rw [failed]
    simp
  | some ended =>
    obtain ⟨components, after⟩ := ended
    have returned := (fits.returned _ after (Trace.andThen_ends_iff.2 ⟨_, _, ends, rfl⟩)).1
    rw [returned]
    constructor
    · intro same
      cases same
      exact ⟨components, after, rfl, rfl⟩
    · rintro ⟨_, _, same, rfl⟩
      cases same
      rfl

/-- What a run leaves behind of the parts of a plant when it is broken off at some moment, and of the
groups. -/
theorem leftBy_parts {components : List ComponentReport} {after : Parts}
    (shown : run.FitsClock)
    (drives : (run.driving plant.ids Component.ordered false plant.part).ends =
      some (components, after)) (told : History → Bool) :
    (plant.leftBy run told).ids.Perm plant.ids ∧
      ((plant.leftBy run told).part = after ∨
        (plant.leftBy run told).part ∈
          (run.driving plant.ids Component.ordered false plant.part).stops) := by
  have fits := held_fits (List.Perm.refl plant.ids) shown
  obtain ⟨-, part, named, -⟩ :=
    fits.returned _ after (Trace.andThen_ends_iff.2 ⟨_, _, drives, rfl⟩)
  rcases plant.leftBy_cases run told with same | member
  · rw [same]
    exact ⟨named, .inl part⟩
  · refine ⟨fits.named _ member, .inr ?_⟩
    have stop : (plant.leftBy run told).part ∈ (plant.held run).stops.map Plant.part :=
      List.mem_map_of_mem member
    rw [fits.stops] at stop
    rcases Trace.mem_andThen_stops.1 stop with here | ⟨_, _, _, none⟩
    · exact here
    · cases none

/-- All of that is left behind at some moment. -/
theorem exists_leftBy_parts {components : List ComponentReport} {after stop : Parts}
    (shown : run.FitsClock)
    (drives : (run.driving plant.ids Component.ordered false plant.part).ends =
      some (components, after))
    (left : stop = after ∨
      stop ∈ (run.driving plant.ids Component.ordered false plant.part).stops) :
    ∃ count, (plant.leftBy run (World.stoppedAfter count)).part = stop := by
  have fits := held_fits (List.Perm.refl plant.ids) shown
  rcases left with rfl | member
  · obtain ⟨count, same⟩ := plant.exists_leftBy_end run
    rw [← (fits.returned _ stop (Trace.andThen_ends_iff.2 ⟨_, _, drives, rfl⟩)).2.1]
    exact ⟨count, congrArg Plant.part same⟩
  · have stop : stop ∈ (plant.held run).stops.map Plant.part := by
      rw [fits.stops]
      exact Trace.mem_andThen_stops.2 (.inl member)
    obtain ⟨left, heeded, rfl⟩ := List.mem_map.1 stop
    obtain ⟨count, same⟩ := plant.exists_leftBy heeded
    exact ⟨count, congrArg Plant.part same⟩

/-- Whenever a run is broken off, or after it has ended, it can be executed again on what it left and
then ends as it would have ended: this holds exactly if the report of the run that nobody disturbs
says so. -/
theorem resumes_iff (lifelike : plant.part.Lifelike)
    (shown : run.FitsClock)
    (ends : (plant.world.execution run World.undisturbed).2 = .ok report) :
    (∀ count, ∃ again,
        ((plant.leftBy run (World.stoppedAfter count)).world.execution run
          World.undisturbed).2 = .ok again ∧
        RunEvent.ending (.ok again) = RunEvent.ending (.ok report)) ↔
      report.Repeats := by
  obtain ⟨components, after, drives, rfl⟩ := (execution_ok_iff (.refl _) shown).1 ends
  constructor
  · intro resumes
    -- Whatever parts are left behind, the turns that are taken with them go well.
    have goesOn : ∀ stop, (stop = after ∨
        stop ∈ (run.driving plant.ids Component.ordered false plant.part).stops) →
        ∃ again left, (run.driving plant.ids Component.ordered false stop).ends =
          some (again, left) ∧
          again.any ComponentReport.isPartial = components.any ComponentReport.isPartial := by
      intro stop left
      obtain ⟨count, rfl⟩ := exists_leftBy_parts shown drives left
      obtain ⟨again, execution, ending⟩ := resumes count
      obtain ⟨others, left, drives, rfl⟩ :=
        (execution_ok_iff (leftBy_parts shown drives _).1 shown).1 execution
      exact ⟨others, left, drives, RunEvent.ending_eq_iff.1 ending⟩
    constructor
    · intro isPartial
      by_contra none
      obtain ⟨again, left, drivesAgain, same⟩ := goesOn after (.inl rfl)
      have settled := Run.driving_succeeds List.suffix_rfl lifelike drives none
      have nothing := Run.not_isPartial_of_succeeded List.suffix_rfl
        (Run.driving_lifelike lifelike drives) settled drivesAgain
      rw [nothing] at same
      rw [show components.any ComponentReport.isPartial = true from isPartial] at same
      cases same
    · by_contra barred
      obtain ⟨stop, heeded, fails⟩ :=
        Run.exists_driving_fails List.suffix_rfl lifelike drives barred
      obtain ⟨again, left, drivesAgain, -⟩ := goesOn stop (.inr heeded)
      rw [fails] at drivesAgain
      cases drivesAgain
  · intro repeats count
    obtain ⟨named, left⟩ := leftBy_parts shown drives (World.stoppedAfter count)
    obtain ⟨again, rest, drivesAgain, same⟩ : ∃ again rest,
        (run.driving plant.ids Component.ordered false
          (plant.leftBy run (World.stoppedAfter count)).part).ends = some (again, rest) ∧
        again.any ComponentReport.isPartial = components.any ComponentReport.isPartial :=
      Run.driving_again List.suffix_rfl lifelike drives left id repeats.lasting repeats.allowed
    exact ⟨_, (execution_ok_iff named shown).2 ⟨again, rest, drivesAgain, rfl⟩,
      RunEvent.ending_eq_iff.2 same⟩

/-- A plant with one group of edge nodes, whose upgrade goes through some statuses. -/
def rack (steps : List Status) : Plant where
  part
    | .edge => { upgradeScript := steps }
    | .host => { status := .success }
    | .management => {}
  groups := [{ id := "rack", type := "EDGE" }]

/-- The edge nodes were upgraded in part and have succeeded, and the run is told to stop before the
turn of the hosts.  When it is executed again, nothing shows that a part was left for later, and the
management plane is upgraded. -/
theorem not_resumes_rack :
    ((rack [.inProgress, .success]).world.execution Run.leavingRack World.undisturbed).2 = .ok {
        components := [⟨.edge, .partiallyCompleted, some ⟨.success, ""⟩⟩,
          ⟨.host, .alreadySucceeded, some ⟨.success, ""⟩⟩, ⟨.management, .skipped, none⟩]
        postChecks := [.edge, .host] } ∧
      ((rack [.inProgress, .success]).world.execution Run.leavingRack
        (World.stoppedAfter 16)).2 = .error (.cancelled (some .host)) ∧
      (((rack [.inProgress, .success]).leftBy Run.leavingRack
          (World.stoppedAfter 16)).world.execution Run.leavingRack World.undisturbed).2 = .ok {
        components := [⟨.edge, .alreadySucceeded, some ⟨.success, ""⟩⟩,
          ⟨.host, .alreadySucceeded, some ⟨.success, ""⟩⟩,
          ⟨.management, .completed, some ⟨.success, ""⟩⟩]
        postChecks := [.edge, .host] } := by
  refine ⟨?_, ?_, ?_⟩
  · rfl
  · rfl
  · rfl

/-- Edge nodes that are left paused are launched again, and the management plane is not driven. -/
theorem resumes_iff_rack :
    ∃ again,
      (((rack [.inProgress, .paused]).leftBy Run.leavingRack
        (World.stoppedAfter 16)).world.execution Run.leavingRack World.undisturbed).2 = .ok again ∧
      RunEvent.ending (.ok again) = .partialUpgrade := by
  have lifelike : (rack [.inProgress, .paused]).part.Lifelike := by
    intro component
    cases component with
    | edge => exact ⟨by decide, by decide⟩
    | host => exact ⟨by decide, by decide⟩
    | management => exact ⟨by decide, by decide⟩
  have ends : ((rack [.inProgress, .paused]).world.execution Run.leavingRack
      World.undisturbed).2 = .ok {
        components := [⟨.edge, .partiallyCompleted, some ⟨.paused, ""⟩⟩,
          ⟨.host, .alreadySucceeded, some ⟨.success, ""⟩⟩, ⟨.management, .skipped, none⟩]
        postChecks := [.edge, .host] } := by
    rfl
  have resumes := resumes_iff lifelike (by decide) ends
  exact resumes.2 ⟨fun _ => rfl, by decide⟩ 16

end Plant

end FabricUpgrade
