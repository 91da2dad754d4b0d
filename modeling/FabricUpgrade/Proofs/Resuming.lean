import FabricUpgrade.Proofs.Driving
import FabricUpgrade.Proofs.Lifelike

/-!
# Turns that are taken again

A turn that comes to an end without failing moves nothing but its component, which it leaves at rest
(`Run.turning_ends`).  Wherever it is broken off, the turn that is taken after that ends with the
parts as the first one would have left them; but if its component succeeds before that turn can make
it pause, the turn reports a component that had succeeded before (`Run.turning_again`).
-/

namespace FabricUpgrade

namespace Parts

variable {parts before after : Parts} {component : Component} {times : WaitTimes}
  {ended : Observation × Parts}

/-- Something is in flight exactly if not everything is at rest. -/
theorem any_inFlight_iff :
    (Component.ordered.any fun component => (parts component).status.isInFlight) = true ↔
      ¬ parts.Rest := by
  rw [List.any_eq_true, Rest, not_forall]
  constructor
  · rintro ⟨component, -, works⟩
    exact ⟨component, by simp [works]⟩
  · rintro ⟨component, works⟩
    exact ⟨component, by cases component <;> decide, by simpa using works⟩

/-- At rest the whole upgrade is stable. -/
theorem overall_of_rest (rests : parts.Rest) : parts.overall.isStable = true := by
  rw [overall, if_neg fun works => any_inFlight_iff.1 works rests]
  split <;> rfl

/-- Otherwise the whole upgrade is in progress. -/
theorem overall_of_not_rest (works : ¬ parts.Rest) : parts.overall = .inProgress :=
  if_pos (any_inFlight_iff.2 works)

/-- The whole upgrade is at rest when it is first looked at. -/
theorem await_of_rest (rests : parts.Rest) :
    parts.await times none .untilStable =
      .pausing parts (.returning ⟨parts.overall, ""⟩ parts) := by
  have reached : ((parts.asked none).seen none).status ∈ Transition.untilStable.target :=
    Transition.mem_untilStable_target.2 (overall_of_rest rests)
  rw [await, watch_of_reached reached]
  rfl

/-- A wait for the whole upgrade moves nothing, so it ends only if everything is at rest. -/
theorem rest_of_watch {pauses : Nat}
    (ends : (parts.watch none .untilStable pauses).ends = some ended) : parts.Rest := by
  induction parts, pauses, ends using watch_induct with
  | arrives parts pauses ends reached same =>
    by_contra works
    rw [Transition.mem_untilStable_target] at reached
    change parts.overall.isStable = true at reached
    rw [overall_of_not_rest works] at reached
    cases reached
  | goesOn parts pauses ends unreached pending rest inductionHypothesis => exact inductionHypothesis

end Parts

namespace Run

variable {run : Run} {ids : List String} {component : Component} {parts after stop : Parts}
  {entry : Observation} {report : ComponentReport} {ended : Observation × Parts}

/-!
## From the launch to the end of a turn
-/

/-- What is launched when everything is at rest. -/
theorem launching_of_rest (rests : parts.Rest) (configures : run.configures ids component = true) :
    run.launching ids component parts =
      .pausing parts (.returning () (parts.change component Part.launched)) := by
  rw [launching, Parts.await_of_rest rests]
  simp only [Trace.andThen, Trace.pausing, Trace.returning, configures, if_true]
  rfl

/-- A launch that does not fail found everything at rest and what it had to configure. -/
theorem launching_ends {launched : Unit}
    (ends : (run.launching ids component parts).ends = some (launched, after)) :
    parts.Rest ∧ run.configures ids component = true := by
  obtain ⟨overall, middle, waited, ends⟩ := Trace.andThen_ends_iff.1 ends
  refine ⟨Parts.rest_of_watch waited, ?_⟩
  by_contra configures
  rw [if_neg configures] at ends
  cases ends

/-- The end of an upgrade that does not fail is that of the wait for it, and is reported. -/
theorem finishing_ends_iff :
    (run.finishing component parts).ends = some (report, after) ↔
      ∃ final, (parts.watch (some component) (.ofUpgrade (run.isPartial component))
          run.wait.pauses).ends = some (final, after) ∧ report = run.upgradeReport component final := by
  rw [finishing, Trace.andThen_ends_iff]
  constructor
  · rintro ⟨final, middle, waited, ends⟩
    cases ends
    exact ⟨final, waited, rfl⟩
  · rintro ⟨final, waited, rfl⟩
    exact ⟨final, after, waited, rfl⟩

/-- The end of an upgrade may be stopped in front of its wait or in it. -/
theorem mem_finishing_stops :
    stop ∈ (run.finishing component parts).stops ↔
      stop = parts ∨ stop ∈ (parts.watch (some component) (.ofUpgrade (run.isPartial component))
        run.wait.pauses).stops := by
  rw [finishing, Trace.mem_andThen_stops]
  constructor
  · rintro (here | ⟨_, _, _, none⟩)
    · exact List.mem_cons.1 here
    · cases none
  · intro here
    exact .inl (List.mem_cons.2 here)

/-- A component that has succeeded is reported so at once. -/
theorem concluding_of_success (succeeded : entry.status = .success) :
    run.concluding ids component entry parts =
      .returning ⟨component, .alreadySucceeded, some entry⟩ parts :=
  if_pos succeeded

/-- A component at work is waited for. -/
theorem concluding_of_working (works : entry.status.isInFlight = true) :
    run.concluding ids component entry parts = run.finishing component parts := by
  have unfinished : entry.status ≠ .success := by
    intro succeeded
    rw [succeeded] at works
    cases works
  rw [concluding, if_neg unfinished]
  simp only [works, if_true]

/-- A component at rest that has not succeeded is launched and waited for. -/
theorem concluding_of_rest (unfinished : entry.status ≠ .success)
    (rests : parts.Rest) (still : entry.status.isInFlight = false)
    (configures : run.configures ids component = true) :
    run.concluding ids component entry parts =
      .pausing parts (run.finishing component (parts.change component Part.launched)) := by
  rw [concluding, if_neg unfinished, launching_of_rest rests configures]
  simp only [still]
  rfl

/-- A turn whose component has settled and that does not fail finds that it has succeeded, waits for
it, or launches it when everything is at rest. -/
theorem concluding_cases
    (ends : (run.concluding ids component entry parts).ends = some (report, after)) :
    (entry.status = .success ∧ report = ⟨component, .alreadySucceeded, some entry⟩ ∧
        after = parts) ∨
      (entry.status.isInFlight = true ∧
        (run.finishing component parts).ends = some (report, after)) ∨
      (entry.status ≠ .success ∧ entry.status.isInFlight = false ∧ parts.Rest ∧
        run.configures ids component = true ∧
        (run.finishing component (parts.change component Part.launched)).ends =
          some (report, after)) := by
  by_cases succeeded : entry.status = .success
  · rw [concluding_of_success succeeded] at ends
    cases ends
    exact .inl ⟨succeeded, rfl, rfl⟩
  · cases works : entry.status.isInFlight with
    | true =>
      rw [concluding_of_working works] at ends
      exact .inr (.inl ⟨rfl, ends⟩)
    | false =>
      have launches := ends
      rw [concluding, if_neg succeeded] at launches
      simp only [works] at launches
      obtain ⟨launched, middle, launches, -⟩ := Trace.andThen_ends_iff.1 launches
      obtain ⟨rests, configures⟩ := launching_ends launches
      rw [concluding_of_rest succeeded rests works configures] at ends
      exact .inr (.inr ⟨succeeded, rfl, rests, configures, ends⟩)

/-!
## Up to where a component has settled
-/

/-- A turn begins by making its component pause, by waiting for it or by taking it as it is. -/
theorem arriving_cases (run : Run) (component : Component) (parts : Parts) :
    (component.customizable = true ∧
        (parts.asked (some component) component).status = .inProgress ∧
        run.arriving component parts = (parts.asked (some component)).pausing.await run.wait
          (some component) .untilStable) ∨
      ((parts.asked (some component) component).status = .pausing ∧
        run.arriving component parts = (parts.asked (some component)).await run.wait
          (some component) .untilStable) ∨
      (((parts.asked (some component) component).status.isInFlight = false ∨
          component.customizable = false ∧
            (parts.asked (some component) component).status = .inProgress) ∧
        run.arriving component parts =
          .returning ((parts.asked (some component)).seen (some component))
            (parts.asked (some component))) := by
  have seen : ((parts.asked (some component)).seen (some component)).status =
      (parts.asked (some component) component).status := rfl
  rw [arriving, settling, seen]
  generalize (parts.asked (some component) component).status = status
  cases customizable : component.customizable <;> cases status <;>
    simp [Status.isInFlight, Status.inFlight]

/-- A part in progress that was made to pause is paused when it is looked at. -/
theorem pausing_asked (works : (parts component).status = .inProgress) :
    (parts.pausing.asked (some component) component).status = .paused := by
  rw [Parts.asked, Parts.change_same, Parts.pausing, Part.pausing, if_pos works]
  rfl

/-- What is made to pause and then waited for is asked once. -/
theorem await_pausing (run : Run) (works : (parts component).status = .inProgress) :
    (parts.pausing.await run.wait (some component) .untilStable).ends =
      some ((parts.pausing.asked (some component)).seen (some component),
        parts.pausing.asked (some component)) := by
  have reached : ((parts.pausing.asked (some component)).seen (some component)).status ∈
      Transition.untilStable.target := by
    rw [Transition.mem_untilStable_target]
    change Status.isStable (parts.pausing.asked (some component) component).status = true
    rw [pausing_asked works]
    rfl
  rw [Parts.await, Parts.watch_of_reached reached]
  rfl

/-- Where a component settles that a turn has arrived at. -/
structure Arrived (component : Component) (parts : Parts) (entry : Observation) (after : Parts) :
    Prop where
  lifelike : after.Lifelike
  seen : entry = (after component).observation
  /-- Only a component that cannot be made to pause is still at work. -/
  settled : entry.status.isInFlight = true → component.customizable = false
  launched : (after component).launched = (parts component).launched
  /-- The others are as they were, unless the component was made to pause. -/
  others : (∀ other, other ≠ component → after other = parts other) ∨
    entry.status = .paused ∧ ∀ other, other ≠ component → after other = (parts other).pausing

/-- Whatever the first part of a turn sees, it arrives there. -/
theorem arriving_ends (lifelike : parts.Lifelike)
    (ends : (run.arriving component parts).ends = some (entry, after)) :
    Arrived component parts entry after := by
  rcases run.arriving_cases component parts with ⟨_, works, same⟩ | ⟨_, same⟩ | ⟨still, same⟩
  · rw [same, await_pausing run works] at ends
    cases ends
    have paused := pausing_asked works
    refine ⟨lifelike.asked.pausing.asked, rfl, ?_, ?_, .inr ⟨paused, ?_⟩⟩
    · intro works
      change Status.isInFlight (((parts.asked (some component)).pausing.asked (some component))
        component).status = true at works
      rw [paused] at works
      cases works
    · rw [Parts.asked, Parts.change_same, Part.launched_advanced, Parts.pausing,
        Part.launched_pausing, Parts.asked, Parts.change_same, Part.launched_advanced]
    · intro other differs
      rw [Parts.asked, Parts.change_of_ne differs, Parts.pausing, Parts.asked,
        Parts.change_of_ne differs]
  · rw [same] at ends
    obtain ⟨moves, left, seen, reached⟩ := Parts.watch_ends lifelike.asked ends
    have moves := (Parts.Moves.asked component parts).trans moves
    refine ⟨left, seen, ?_, moves.launched, .inl moves.others⟩
    intro works
    rw [seen] at works
    have still := Transition.untilStable_settling.target _ reached
    exact absurd works (by simp [Part.observation, still])
  · rw [same] at ends
    cases ends
    have moves := Parts.Moves.asked component parts
    refine ⟨lifelike.asked, rfl, ?_, moves.launched, .inl moves.others⟩
    intro works
    rcases still with still | ⟨fixed, -⟩
    · exact absurd works (by simp [Parts.seen, Part.observation, still])
    · exact fixed

/-- A turn arrives where a wait for rest would have ended, unless it finds its component in progress
and makes it pause. -/
theorem arriving_again (lifelike : parts.Lifelike)
    (again : (parts.watch (some component) .untilStable run.wait.pauses).ends = some ended)
    (settling : (parts.asked (some component) component).status ≠ .inProgress) :
    (run.arriving component parts).ends = some ended := by
  rcases run.arriving_cases component parts with ⟨_, works, _⟩ | ⟨_, same⟩ | ⟨still, same⟩
  · exact absurd works settling
  · rw [same]
    exact Parts.watch_asked lifelike Transition.untilStable_settling again
  · rw [same]
    rcases Parts.watch_cases again with ⟨_, rfl⟩ | ⟨_, pending, _⟩
    · rfl
    · have works := Transition.untilStable_settling.pending _ pending
      rcases still with still | ⟨_, works⟩
      · exact absurd works (by simp [Parts.seen, Part.observation, still])
      · exact absurd works settling

/-- Wherever a wait for a pausing component is broken off, a turn that is taken after that arrives
where the wait would have ended. -/
theorem arriving_after_await (lifelike : parts.Lifelike)
    (pausing : (parts component).status = .pausing)
    (ends : (parts.await run.wait (some component) .untilStable).ends = some ended)
    (member : stop ∈ (parts.await run.wait (some component) .untilStable).stops) :
    (run.arriving component stop).ends = some ended ∧ Parts.Moves component parts stop := by
  obtain ⟨moves, left, again, pausing⟩ : Parts.Moves component parts stop ∧ stop.Lifelike ∧
      (stop.watch (some component) .untilStable run.wait.pauses).ends = some ended ∧
      (stop component).status = .pausing := by
    rcases List.mem_cons.1 member with rfl | later
    · exact ⟨.refl component stop, lifelike, ends, pausing⟩
    · have left := Parts.watch_stops lifelike Transition.untilStable_settling ends stop later
      exact ⟨left.moves, left.lifelike, left.again, left.pausing pausing⟩
  refine ⟨arriving_again left again ?_, moves⟩
  rw [Parts.asked, Parts.change_same]
  exact (left component).advanced_status_ne pausing

/-- Wherever the beginning of a turn is broken off, a turn that is taken after that arrives where it
would have arrived. -/
theorem arriving_stops (lifelike : parts.Lifelike)
    (ends : (run.arriving component parts).ends = some ended)
    (member : stop ∈ (run.arriving component parts).stops) :
    (run.arriving component stop).ends = some ended ∧
      ∀ other, other ≠ component →
        stop other = parts other ∨ stop other = (parts other).pausing := by
  rcases run.arriving_cases component parts with ⟨_, works, same⟩ | ⟨pausing, same⟩ | ⟨_, same⟩
  · rw [same] at ends member
    have pausing : ((parts.asked (some component)).pausing component).status = .pausing := by
      rw [Parts.pausing, Part.pausing, if_pos works]
    obtain ⟨again, moves⟩ := arriving_after_await lifelike.asked.pausing pausing ends member
    refine ⟨again, fun other differs => .inr ?_⟩
    rw [moves.others other differs, Parts.pausing, Parts.asked, Parts.change_of_ne differs]
  · rw [same] at ends member
    obtain ⟨again, moves⟩ := arriving_after_await lifelike.asked pausing ends member
    refine ⟨again, fun other differs => .inl ?_⟩
    rw [moves.others other differs, Parts.asked, Parts.change_of_ne differs]
  · rw [same] at member
    cases member

/-!
## Turns
-/

/-- Where everything is at rest nothing but the component has moved. -/
theorem Arrived.moves (arrived : Arrived component parts entry after)
    (rests : after.Rest ∨ entry.status ≠ .paused) : Parts.Moves component parts after := by
  refine ⟨?_, arrived.launched⟩
  rcases arrived.others with others | ⟨paused, others⟩
  · exact others
  · have rests := rests.resolve_right fun unpaused => unpaused paused
    intro other differs
    have still := rests other
    rw [others other differs] at still
    rw [others other differs, Part.pausing_eq_of_rest still]

/-- How a turn that does not fail ends. -/
structure Turned (run : Run) (ids : List String) (component : Component) (parts : Parts)
    (report : ComponentReport) (after : Parts) : Prop where
  moves : Parts.Moves component parts after
  lifelike : after.Lifelike
  about : report.component = component
  final : report.final = some (after component).observation
  outcome : report.outcome = .alreadySucceeded ∧ (after component).status = .success ∨
    report.outcome =
        (if run.isPartial component then .partiallyCompleted else .completed) ∧
      ((after component).status = .success ∨
        run.isPartial component = true ∧ (after component).status = .paused)
  /-- A turn that ends in a pause may be taken again. -/
  repeats : (after component).status = .paused →
    after.Rest ∧ (run.turning ids component after).ends = some (report, after)

/-- A turn that does not fail ends with a wait for its component unless that had succeeded. -/
theorem turned_of_finishing {middle : Parts} (lifelike : middle.Lifelike)
    (moves : Parts.Moves component parts middle)
    (ends : (run.finishing component middle).ends = some (report, after))
    (repeats : run.isPartial component = true → after.Lifelike → Parts.Moves component middle after →
      (after component).status = .paused →
      after.Rest ∧ (run.turning ids component after).ends = some (report, after)) :
    Turned run ids component parts report after := by
  obtain ⟨final, waited, rfl⟩ := finishing_ends_iff.1 ends
  obtain ⟨rest, left, seen, reached⟩ := Parts.watch_ends lifelike waited
  rw [Transition.mem_ofUpgrade_target] at reached
  refine ⟨moves.trans rest, left, rfl, by rw [upgradeReport, seen], .inr ⟨rfl, reached⟩, ?_⟩
  intro paused
  have isPartial : run.isPartial component = true := by
    rcases reached with succeeded | ⟨isPartial, -⟩
    · rw [paused] at succeeded
      cases succeeded
    · exact isPartial
  exact repeats isPartial left rest paused

/-- The turn of a component at rest goes by what is seen of it at once. -/
theorem turning_of_rest (lifelike : (parts component).Lifelike)
    (still : (parts component).status.isInFlight = false) :
    run.turning ids component parts =
      run.concluding ids component (parts component).observation parts := by
  have same := Parts.asked_eq lifelike still
  rcases run.arriving_cases component parts with ⟨_, works, _⟩ | ⟨pausing, _⟩ | ⟨_, arrives⟩
  · rw [same] at works
    rw [works] at still
    cases still
  · rw [same] at pausing
    rw [pausing] at still
    cases still
  · rw [same] at arrives
    rw [turning, arrives]
    rfl

/-- Whatever a turn that does not fail has come to, it was a turn. -/
theorem turning_ends (lifelike : parts.Lifelike)
    (ends : (run.turning ids component parts).ends = some (report, after)) :
    Turned run ids component parts report after := by
  obtain ⟨entry, middle, arrives, ends⟩ := Trace.andThen_ends_iff.1 ends
  have arrived := arriving_ends lifelike arrives
  rcases concluding_cases ends with ⟨succeeded, rfl, rfl⟩ | ⟨works, ends⟩ |
    ⟨unfinished, still, rests, configures, ends⟩
  · have seen : (after component).status = .success := by
      rw [← succeeded, arrived.seen]
      rfl
    refine ⟨arrived.moves (.inr (by simp [succeeded])), arrived.lifelike, rfl,
      congrArg some arrived.seen, .inl ⟨rfl, seen⟩, ?_⟩
    intro paused
    rw [seen] at paused
    cases paused
  · have unpaused : entry.status ≠ .paused := by
      intro paused
      rw [paused] at works
      cases works
    refine turned_of_finishing arrived.lifelike (arrived.moves (.inr unpaused)) ends ?_
    intro isPartial
    rw [isPartial_eq_false (arrived.settled works)] at isPartial
    cases isPartial
  · have launches : Parts.Moves component middle (middle.change component Part.launched) :=
      .of_change (Part.launched_launched _)
    refine turned_of_finishing (arrived.lifelike.change Part.Lifelike.launched)
      ((arrived.moves (.inl rests)).trans launches) ends ?_
    intro isPartial left rest paused
    have atRest : after.Rest := (launches.trans rest).rest rests (by rw [paused]; rfl)
    refine ⟨atRest, ?_⟩
    have unfinished : (after component).observation.status ≠ .success := by
      simp [Part.observation, paused]
    rw [turning_of_rest (left component) (atRest component),
      concluding_of_rest unfinished atRest (atRest component) configures,
      (launches.trans rest).change_launched]
    exact ends

/-!
## The same turn once more
-/

/-- What a turn reports that is taken after the same turn was broken off. -/
def Matches (component : Component) (after : Parts) (report again : ComponentReport) : Prop :=
  again = report ∨ again.outcome = .alreadySucceeded ∧ (after component).status = .success

/-- A component that has settled where its turn would have left it is done, or its turn goes the
same way again. -/
theorem concluding_again (turned : Turned run ids component parts report after) :
    ∃ again, (run.concluding ids component (after component).observation after).ends =
      some (again, after) ∧ Matches component after report again := by
  by_cases succeeded : (after component).status = .success
  · refine ⟨⟨component, .alreadySucceeded, some (after component).observation⟩, ?_,
      .inr ⟨rfl, succeeded⟩⟩
    rw [concluding_of_success succeeded]
    rfl
  · have paused : (after component).status = .paused := by
      rcases turned.outcome with ⟨_, done⟩ | ⟨_, done | ⟨_, paused⟩⟩
      · exact absurd done succeeded
      · exact absurd done succeeded
      · exact paused
    obtain ⟨rests, repeats⟩ := turned.repeats paused
    rw [turning_of_rest (turned.lifelike component) (rests component)] at repeats
    exact ⟨report, repeats, .inl rfl⟩

/-- A component that is found in progress after its launch is made to pause and launched again. -/
theorem turning_relaunches {middle : Parts} (customizable : component.customizable = true)
    (works : (stop.asked (some component) component).status = .inProgress)
    (moves : Parts.Moves component middle stop) (rests : middle.Rest)
    (configures : run.configures ids component = true)
    (ends : (run.finishing component (middle.change component Part.launched)).ends =
      some (report, after)) :
    (run.turning ids component stop).ends = some (report, after) := by
  rcases run.arriving_cases component stop with ⟨_, _, arrives⟩ | ⟨pausing, _⟩ | ⟨still, _⟩
  · have halted := await_pausing run works
    have paused := pausing_asked works
    rw [← arrives] at halted
    have halts : Parts.Moves component middle
        ((stop.asked (some component)).pausing.asked (some component)) := by
      refine ⟨fun other differs => ?_, ?_⟩
      · have still := rests other
        rw [← moves.others other differs] at still ⊢
        rw [Parts.asked, Parts.change_of_ne differs, Parts.pausing, Parts.asked,
          Parts.change_of_ne differs, Part.pausing_eq still]
      · rw [Parts.asked, Parts.change_same, Part.launched_advanced, Parts.pausing,
          Part.launched_pausing, Parts.asked, Parts.change_same, Part.launched_advanced,
          moves.launched]
    generalize (stop.asked (some component)).pausing.asked (some component) = left at *
    have atRest : left.Rest := halts.rest rests (by rw [paused]; rfl)
    have seen : (left.seen (some component)).status = .paused := paused
    refine Trace.andThen_ends_iff.2 ⟨_, left, halted, ?_⟩
    rw [concluding_of_rest (by simp [seen]) atRest (by rw [seen]; rfl) configures,
      halts.change_launched]
    exact ends
  · rw [works] at pausing
    cases pausing
  · rw [works, customizable] at still
    simp [Status.isInFlight, Status.inFlight] at still

/-- What is left when the last wait of a turn is broken off. -/
theorem finishing_stops {final : Observation} (lifelike : parts.Lifelike)
    (waited : (parts.watch (some component) (.ofUpgrade (run.isPartial component))
      run.wait.pauses).ends = some (final, after))
    (member : stop ∈ (run.finishing component parts).stops) :
    Parts.Moves component parts stop ∧ stop.Lifelike ∧
      (stop.watch (some component) (.ofUpgrade (run.isPartial component))
        run.wait.pauses).ends = some (final, after) := by
  rcases mem_finishing_stops.1 member with rfl | later
  · exact ⟨.refl component stop, lifelike, waited⟩
  · have left := Parts.watch_stops lifelike (Transition.ofUpgrade_settling _) waited stop later
    exact ⟨left.moves, left.lifelike, left.again⟩

/-- Wherever the last wait of a turn is broken off, a turn that is taken after that leaves the parts
where the wait would have ended. -/
theorem turning_after_finishing {middle : Parts} (lifelike : middle.Lifelike)
    (turned : Turned run ids component parts report after)
    (ends : (run.finishing component middle).ends = some (report, after))
    (member : stop ∈ (run.finishing component middle).stops)
    (relaunches : component.customizable = true →
      (stop.asked (some component) component).status = .inProgress →
      Parts.Moves component middle stop →
      (run.turning ids component stop).ends = some (report, after)) :
    ∃ again, (run.turning ids component stop).ends = some (again, after) ∧
      Matches component after report again := by
  obtain ⟨final, waited, same⟩ := finishing_ends_iff.1 ends
  have settling := Transition.ofUpgrade_settling (run.isPartial component)
  obtain ⟨moves, left, again⟩ := finishing_stops lifelike waited member
  obtain ⟨-, -, seen, -⟩ := Parts.watch_ends lifelike waited
  by_cases works : (stop.asked (some component) component).status = .inProgress
  · rcases run.arriving_cases component stop with ⟨customizable, _, _⟩ | ⟨pausing, _⟩ |
      ⟨still, arrives⟩
    · exact ⟨report, relaunches customizable works moves, .inl rfl⟩
    · rw [works] at pausing
      cases pausing
    · refine ⟨report, ?_, .inl rfl⟩
      have inFlight : ((stop.asked (some component)).seen (some component)).status.isInFlight =
          true := by
        change Status.isInFlight (stop.asked (some component) component).status = true
        rw [works]
        rfl
      rw [turning, arrives]
      change (run.concluding ids component _ _).ends = _
      rw [concluding_of_working inFlight]
      exact finishing_ends_iff.2 ⟨final, Parts.watch_asked left settling again, same⟩
  · have arrives := arriving_again left (Parts.watch_untilStable settling again) works
    obtain ⟨again, concludes, fits⟩ := concluding_again turned
    rw [← seen] at concludes
    exact ⟨again, Trace.andThen_ends_iff.2 ⟨final, after, arrives, concludes⟩, fits⟩

/-- Wherever a turn is broken off, a turn that is taken after that leaves the parts where it would
have left them. -/
theorem turning_again (lifelike : parts.Lifelike)
    (ends : (run.turning ids component parts).ends = some (report, after))
    (member : stop ∈ (run.turning ids component parts).stops) :
    ∃ again, (run.turning ids component stop).ends = some (again, after) ∧
      Matches component after report again := by
  have turned := turning_ends lifelike ends
  obtain ⟨entry, middle, arrives, ends⟩ := Trace.andThen_ends_iff.1 ends
  have arrived := arriving_ends lifelike arrives
  rcases Trace.mem_andThen_stops.1 member with early | ⟨other, left, same, late⟩
  · obtain ⟨again, -⟩ := arriving_stops lifelike arrives early
    exact ⟨report, Trace.andThen_ends_iff.2 ⟨entry, middle, again, ends⟩, .inl rfl⟩
  · rw [arrives] at same
    cases same
    rcases concluding_cases ends with ⟨succeeded, -, -⟩ | ⟨works, finishes⟩ |
      ⟨unfinished, still, rests, configures, finishes⟩
    · rw [concluding_of_success succeeded] at late
      cases late
    · rw [concluding_of_working works] at late
      refine turning_after_finishing arrived.lifelike turned finishes late ?_
      intro customizable
      rw [arrived.settled works] at customizable
      cases customizable
    · rw [concluding_of_rest unfinished rests still configures] at late
      rcases List.mem_cons.1 late with rfl | late
      · refine ⟨report, ?_, .inl rfl⟩
        rw [turning_of_rest (arrived.lifelike component) (rests component), ← arrived.seen]
        exact ends
      · have launches : Parts.Moves component middle (middle.change component Part.launched) :=
          .of_change (Part.launched_launched _)
        refine turning_after_finishing (arrived.lifelike.change Part.Lifelike.launched) turned
          finishes late ?_
        intro customizable works moves
        exact turning_relaunches customizable works (launches.trans moves) rests configures finishes

/-- While a turn goes on the other components are as they were, or made to pause. -/
theorem turning_stops (lifelike : parts.Lifelike)
    (ends : (run.turning ids component parts).ends = some (report, after))
    (member : stop ∈ (run.turning ids component parts).stops) {other : Component}
    (differs : other ≠ component) : stop other = parts other ∨ stop other = (parts other).pausing := by
  obtain ⟨entry, middle, arrives, ends⟩ := Trace.andThen_ends_iff.1 ends
  have arrived := arriving_ends lifelike arrives
  have others : middle other = parts other ∨ middle other = (parts other).pausing := by
    rcases arrived.others with others | ⟨_, others⟩
    · exact .inl (others other differs)
    · exact .inr (others other differs)
  rcases Trace.mem_andThen_stops.1 member with early | ⟨_, left, same, late⟩
  · exact (arriving_stops lifelike arrives early).2 other differs
  · rw [arrives] at same
    cases same
    suffices still : stop other = middle other by rwa [still]
    rcases concluding_cases ends with ⟨succeeded, -, -⟩ | ⟨works, finishes⟩ |
      ⟨unfinished, still, rests, configures, finishes⟩
    · rw [concluding_of_success succeeded] at late
      cases late
    · rw [concluding_of_working works] at late
      obtain ⟨final, waited, -⟩ := finishing_ends_iff.1 finishes
      exact (finishing_stops arrived.lifelike waited late).1.others other differs
    · rw [concluding_of_rest unfinished rests still configures] at late
      rcases List.mem_cons.1 late with rfl | late
      · rfl
      · obtain ⟨final, waited, -⟩ := finishing_ends_iff.1 finishes
        have moves := (finishing_stops (arrived.lifelike.change Part.Lifelike.launched) waited late).1
        rw [moves.others other differs, Parts.change_of_ne differs]

/-- A turn that upgrades its component would heed a stop while that is at work. -/
theorem exists_turning_stop
    (ends : (run.turning ids component parts).ends = some (report, after))
    (upgraded : report.outcome ≠ .alreadySucceeded) (lifelike : parts.Lifelike) :
    ∃ stop ∈ (run.turning ids component parts).stops,
      (stop component).status.isInFlight = true := by
  obtain ⟨entry, middle, arrives, ends⟩ := Trace.andThen_ends_iff.1 ends
  have arrived := arriving_ends lifelike arrives
  rcases concluding_cases ends with ⟨-, rfl, -⟩ | ⟨works, -⟩ |
    ⟨unfinished, still, rests, configures, -⟩
  · exact absurd rfl upgraded
  · refine ⟨middle, Trace.mem_andThen_stops.2 (.inr ⟨entry, middle, arrives, ?_⟩), ?_⟩
    · rw [concluding_of_working works]
      exact mem_finishing_stops.2 (.inl rfl)
    · rwa [arrived.seen] at works
  · refine ⟨middle.change component Part.launched,
      Trace.mem_andThen_stops.2 (.inr ⟨entry, middle, arrives, ?_⟩), ?_⟩
    · rw [concluding_of_rest unfinished rests still configures]
      exact List.mem_cons_of_mem _ (mem_finishing_stops.2 (.inl rfl))
    · rw [Parts.change_same]
      rfl

/-- Nothing happens in the turn of a component that is found at rest and not upgraded. -/
theorem turning_still (lifelike : parts.Lifelike)
    (still : (parts component).status.isInFlight = false)
    (ends : (run.turning ids component parts).ends = some (report, after))
    (succeeded : report.outcome = .alreadySucceeded) :
    after = parts ∧ (run.turning ids component parts).stops = [] := by
  rw [turning_of_rest (lifelike component) still] at ends ⊢
  have upgraded : ∀ middle, (run.finishing component middle).ends ≠ some (report, after) := by
    intro middle finishes
    obtain ⟨final, -, rfl⟩ := finishing_ends_iff.1 finishes
    rw [upgradeReport] at succeeded
    split at succeeded <;> cases succeeded
  rcases concluding_cases ends with ⟨succeeded, -, same⟩ | ⟨_, finishes⟩ | ⟨_, _, _, _, finishes⟩
  · rw [concluding_of_success succeeded]
    exact ⟨same, rfl⟩
  · exact absurd finishes (upgraded _)
  · exact absurd finishes (upgraded _)

end Run

end FabricUpgrade
