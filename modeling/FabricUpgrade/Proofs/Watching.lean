import FabricUpgrade.Proofs.Trace

/-!
# Waits at a plant

What a wait does to the parts of a plant: the component is looked at again and again, each time one
step of its script further, for as many pauses as fit the time of the wait (`Wait.await_traces`).
-/

namespace FabricUpgrade

open Program Session

namespace Parts

/-- The parts after a status request. -/
def asked (parts : Parts) : Option Component → Parts
  | none => parts
  | some component => parts.change component Part.advanced

/-- What is seen of a component, or of the whole upgrade. -/
def seen (parts : Parts) : Option Component → Observation
  | none => ⟨parts.overall, ""⟩
  | some component => (parts component).observation

/-- One round of a wait, with the rounds that come after it. -/
def round (parts : Parts) (account : Option Component) (transition : Transition)
    (later : Trace Observation) : Trace Observation :=
  let after := parts.asked account
  let observed := after.seen account
  if observed.status ∈ transition.target then .returning observed after
  else if observed.status ∉ transition.pending then .failing
  else later

/-- The rounds of a wait that has time for so many pauses. -/
def watch (account : Option Component) (transition : Transition) :
    Nat → Parts → Trace Observation
  | 0, parts => parts.round account transition .failing
  | pauses + 1, parts =>
    parts.round account transition
      ((watch account transition pauses (parts.asked account)).pausing (parts.asked account))

end Parts

namespace WaitTimes

variable (times : WaitTimes)

/-- The time from one probe to the next, in milliseconds. -/
def step : Nat :=
  max (times.interval * 1000) Wait.leastInterval

/-- How many pauses fit so much time; the last one is shorter. -/
def pausesIn (left : Nat) : Nat :=
  (left + (times.step - 1)) / times.step

/-- How many pauses there are in a wait after the first one. -/
def pauses : Nat :=
  times.pausesIn (times.timeout * 1000 - times.delay * 1000)

/-- The time that a wait takes at most, in milliseconds. -/
def longest : Nat :=
  max (times.timeout * 1000) (times.delay * 1000)

/-- Every round of a wait takes time. -/
theorem step_pos : 0 < times.step :=
  Nat.lt_of_lt_of_le (by decide) (Nat.le_max_right _ _)

/-- Without time left there is no pause. -/
@[simp]
theorem pausesIn_zero : times.pausesIn 0 = 0 := by
  have positive := times.step_pos
  exact Nat.div_eq_of_lt (by omega)

/-- After one more pause there is time for one pause less. -/
theorem pausesIn_of_pos {left : Nat} (positive : 0 < left) :
    times.pausesIn left = times.pausesIn (left - min times.step left) + 1 := by
  have step := times.step_pos
  by_cases short : left ≤ times.step
  · rw [Nat.min_eq_right short, Nat.sub_self, pausesIn_zero, pausesIn]
    have sum : left + (times.step - 1) = left - 1 + times.step := by omega
    rw [sum, Nat.add_div_right _ step, Nat.div_eq_of_lt (by omega)]
  · rw [Nat.min_eq_left (Nat.le_of_not_le short), pausesIn, pausesIn, ← Nat.add_div_right _ step]
    congr 1
    omega

end WaitTimes

/-- A wait for a component, or for the whole upgrade. -/
def Parts.await (parts : Parts) (times : WaitTimes) (account : Option Component)
    (transition : Transition) : Trace Observation :=
  (parts.watch account transition times.pauses).pausing parts

namespace Wait

variable {ids : List String} {parts : Parts} {tolerates : Tolerance} {account : Option Component}
  {transition : Transition} {times : WaitTimes}

/-- A status request to a plant shows the parts that were asked, and keeps its ids. -/
theorem respond_getStatus (plant : Plant) (account : Option Component) :
    ∃ summary, (plant.respond (.getStatus account)).1 = .ok summary ∧
      observationOf account summary = .ok ((plant.part.asked account).seen account) ∧
      (plant.respond (.getStatus account)).2.part = plant.part.asked account ∧
      (plant.respond (.getStatus account)).2.ids = plant.ids := by
  cases account with
  | none => exact ⟨_, rfl, rfl, rfl, rfl⟩
  | some component =>
    refine ⟨_, rfl, ?_, rfl, rfl⟩
    simp [observationOf, Parts.summary, Summary.find?, Part.record, Parts.seen, Parts.asked,
      Part.observation]

/-- A status request, and what is done with what it shows. -/
theorem observe_bind_fits {Next : Type} {next : Observation → Procedure Next} {scene : Scene}
    {limit : Nat} {trace : Trace Next} (part : scene.plant.part = parts)
    (named : scene.plant.ids.Perm ids)
    (continues : ∀ plant : Plant, plant.part = parts.asked account → plant.ids.Perm ids →
      (Scene.hold (next ((parts.asked account).seen account)).run ⟨plant, scene.now⟩).Fits ids limit
        trace) :
    (scene.hold (observe tolerates account >>= next).run).Fits ids limit trace := by
  subst part
  obtain ⟨summary, answered, observed, part, same⟩ := respond_getStatus scene.plant account
  rw [run_bind_of_ask (observe_run tolerates account)]
  simp only [Scene.hold, Scene.answer, answered, reading, observed, Question.heeds]
  exact continues _ part (same ▸ named)

/-- A look at the clock, and what is done with what it shows. -/
theorem now_bind_fits {Next : Type} {next : Nat → Procedure Next} {scene : Scene} {limit : Nat}
    {trace : Trace Next} (continues : (scene.hold (next scene.now).run).Fits ids limit trace) :
    (scene.hold (liftM Session.now >>= next : Procedure Next).run).Fits ids limit trace :=
  continues

/-- A pause, and what comes after it. -/
theorem rest_bind_fits {Next : Type} {milliseconds : Nat} {next : Unit → Procedure Next}
    {scene : Scene} {limit : Nat} {trace : Trace Next} (part : scene.plant.part = parts)
    (named : scene.plant.ids.Perm ids)
    (continues : (Scene.hold (next ()).run ⟨scene.plant, scene.now + milliseconds⟩).Fits ids limit
      trace) :
    (scene.hold (Procedure.rest account milliseconds >>= next).run).Fits ids limit
      (trace.pausing parts) := by
  rw [run_bind_of_ask (Procedure.rest_run account milliseconds)]
  subst part
  refine ⟨?_, ?_, continues.returned, continues.failed⟩
  · exact congrArg _ continues.stops
  · intro plant member
    rcases List.mem_cons.1 member with rfl | later
    · exact named
    · exact continues.named plant later

/-- One round of a wait up to an instant, given the rounds after it. -/
theorem pollRound_fits {again : Option (Unit → Procedure Observation)} {scene : Scene}
    {deadline limit : Nat} {later : Trace Observation} (part : scene.plant.part = parts)
    (named : scene.plant.ids.Perm ids) (begun : scene.now ≤ limit)
    (late : deadline ≤ scene.now → later = .failing) (last : again = none → deadline ≤ scene.now)
    (goesOn : ∀ next ∈ again, scene.now < deadline →
      ∃ rest, later = rest.pausing (parts.asked account) ∧
        ∀ plant : Plant, plant.part = parts.asked account → plant.ids.Perm ids →
          (Scene.hold (next ()).run
            ⟨plant, scene.now + min times.step (deadline - scene.now)⟩).Fits ids limit rest) :
    (scene.hold
      (pollRound tolerates account transition times (some deadline) again).run).Fits ids limit
      (parts.round account transition later) := by
  refine observe_bind_fits part named fun plant part named => ?_
  rw [Parts.round]
  by_cases reached : ((parts.asked account).seen account).status ∈ transition.target
  · simp only [reached, if_true]
    exact pure_fits _ part named begun
  · simp only [reached, if_false]
    by_cases pending : ((parts.asked account).seen account).status ∈ transition.pending
    · simp only [pending, not_true, if_false]
      refine now_bind_fits ?_
      by_cases expired : deadline ≤ scene.now
      · simp only [late expired, pauseAt?, if_pos expired]
        cases again with
        | none => exact throw_fits _
        | some next => exact throw_fits _
      · simp only [pauseAt?, if_neg expired]
        cases again with
        | none => exact absurd (last rfl) expired
        | some next =>
          obtain ⟨rest, rfl, continues⟩ := goesOn next rfl (Nat.lt_of_not_le expired)
          exact rest_bind_fits part named (continues plant part named)
    · simp only [pending, not_false_iff, if_true]
      exact throw_fits _

/-- However many rounds are left, polling fits the trace of the watch for the pauses that the
deadline leaves. -/
theorem pollUntil_fits {scene : Scene} {bound deadline limit : Nat}
    (part : scene.plant.part = parts) (named : scene.plant.ids.Perm ids)
    (begun : scene.now ≤ limit) (within : deadline ≤ limit) (bounds : deadline - scene.now ≤ bound) :
    (scene.hold
      (pollUntil tolerates account transition times (some deadline) bound).run).Fits ids limit
      (parts.watch account transition (times.pausesIn (deadline - scene.now))) := by
  induction bound generalizing scene parts with
  | zero =>
    have expired : deadline - scene.now = 0 := by omega
    rw [expired, WaitTimes.pausesIn_zero]
    exact pollRound_fits part named begun (fun _ => rfl) (fun _ => by omega) nofun
  | succ bound inductionHypothesis =>
    by_cases expired : deadline ≤ scene.now
    · rw [Nat.sub_eq_zero_of_le expired, WaitTimes.pausesIn_zero]
      refine pollRound_fits part named begun (fun _ => rfl) (fun _ => expired) ?_
      intro next _ early
      exact absurd expired (Nat.not_le_of_lt early)
    · have left : 0 < deadline - scene.now := by omega
      rw [times.pausesIn_of_pos left]
      refine pollRound_fits part named begun (fun late => absurd late expired) nofun ?_
      rintro _ ⟨⟩ early
      have step := times.step_pos
      refine ⟨_, rfl, fun plant part named => ?_⟩
      have rest : deadline - (scene.now + min times.step (deadline - scene.now)) =
          deadline - scene.now - min times.step (deadline - scene.now) := by omega
      rw [← rest]
      exact inductionHypothesis part named (by dsimp only; omega) (by dsimp only; omega)

/-- What a wait does to the parts of a plant. -/
theorem await_traces :
    Traces ids times.longest (await tolerates account transition times) parts
      (parts.await times account transition) := by
  intro scene part named fits
  have longest : times.timeout * 1000 ≤ times.longest ∧ times.delay * 1000 ≤ times.longest :=
    ⟨Nat.le_max_left _ _, Nat.le_max_right _ _⟩
  have deadline : deadline? scene.now times.timeout = some (scene.now + times.timeout * 1000) :=
    if_pos (by omega)
  change (Scene.hold (ExceptT.run (do
    Procedure.rest account (times.delay * 1000)
    pollUntil tolerates account transition times (deadline? scene.now times.timeout)
      ((deadline? scene.now times.timeout).getD horizon - scene.now))) scene).Fits ids _ _
  rw [deadline]
  refine rest_bind_fits part named ?_
  have left : scene.now + times.timeout * 1000 - (scene.now + times.delay * 1000) =
      times.timeout * 1000 - times.delay * 1000 := by omega
  rw [WaitTimes.pauses, ← left]
  refine pollUntil_fits part named ?_ ?_ ?_
  · dsimp only
    omega
  · omega
  · dsimp only [Option.getD]
    omega

end Wait

end FabricUpgrade
