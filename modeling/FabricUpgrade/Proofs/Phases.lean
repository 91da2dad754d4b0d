import FabricUpgrade.Proofs.Endings
import FabricUpgrade.Proofs.Identity

/-!
# How the recorded phase moves

A status that is written takes the run from the recorded phase along an edge of the table, or leaves
it in its phase: a run is rejected from any phase, it is started from any phase, and it ends only
while it is recorded as running.  Every status that changes the phase brings the conditions of its
phase with it, so they agree in every history of a run that was stored without a status.
-/

namespace FabricUpgrade

open Program

/-- The two permanent errors are told in different words. -/
theorem ReconcileError.noTransition_ne_unbuiltClient {phase : Phase} {event : RunEvent}
    {complaint : String} : noTransition phase event ≠ unbuiltClient complaint := by
  intro same
  have first := congrArg (fun text : String => text.toList.head?) (permanent.inj same)
  simp [toString] at first

/-- The run stays in its phase, or an event leads on to the next one. -/
def Phase.Follows (phase next : Phase) : Prop :=
  next = phase ∨ ∃ event partialComponents edge,
    phase.step? event partialComponents = some edge ∧ edge.destination = next

namespace Conditions

/-- The three conditions occur once each and tell of the phase. -/
structure Tells (conditions : Conditions) (phase : Phase) : Prop where
  once : ∀ type ∈ ["Ready", "Progressing", "Degraded"],
    conditions.countP (fun condition => condition.type = type) = 1
  ready : conditions.holds "Ready" = true ↔ phase = .completed
  progressing : conditions.holds "Progressing" = true ↔ phase = .running
  degraded : conditions.holds "Degraded" = true ↔ phase = .partiallyCompleted ∨ phase = .failed

/-- The triple of conditions is ready, progressing and degraded, in that order. -/
theorem triple_eq (time reason message : String) (ready progressing degraded : Bool)
    (generation : Option Int) :
    triple time ready progressing degraded reason message generation =
      [.make time "Ready" ready reason message generation,
        .make time "Progressing" progressing reason message generation,
        .make time "Degraded" degraded reason message generation] := by
  simp [triple, set, Condition.make]

/-- A condition that is made is true exactly if it holds. -/
theorem isTrue_make {time type reason message : String} {holds : Bool} {generation : Option Int} :
    (Condition.make time type holds reason message generation).isTrue = holds := by
  cases holds <;> simp [Condition.make, Condition.isTrue, Condition.statusText]

/-- The triple tells a phase if each of its conditions holds in the phases that it is for. -/
theorem tells_triple {time reason message : String} {ready progressing degraded : Bool}
    {generation : Option Int} {phase : Phase} (isReady : ready = true ↔ phase = .completed)
    (isProgressing : progressing = true ↔ phase = .running)
    (isDegraded : degraded = true ↔ phase = .partiallyCompleted ∨ phase = .failed) :
    Tells (triple time ready progressing degraded reason message generation) phase := by
  rw [triple_eq]
  have types : ∀ type holds, (Condition.make time type holds reason message generation).type =
      type := fun _ _ => rfl
  refine ⟨?_, ?_, ?_, ?_⟩
  · simp [types]
  · simpa [holds, find?, types, isTrue_make] using isReady
  · simpa [holds, find?, types, isTrue_make] using isProgressing
  · simpa [holds, find?, types, isTrue_make] using isDegraded

/-- The conditions of a phase tell of it. -/
theorem tells_ofPhase (time : String) (phase : Phase) (error : Option String)
    (generation : Option Int) : Tells (ofPhase time phase error generation) phase := by
  cases phase <;> exact tells_triple (by simp) (by simp) (by simp)

end Conditions

namespace Reconcile

/-- Where a reconcile finds the next phase there is an edge to it. -/
theorem follows_of_nextPhase {phase next : Phase} {event : RunEvent} {count : Nat}
    (leads : nextPhase phase event count = pure next) : phase.Follows next := by
  unfold nextPhase at leads
  cases taken : phase.step? event count with
  | none =>
    rw [taken] at leads
    cases leads
  | some edge =>
    rw [taken] at leads
    cases leads
    exact .inr ⟨event, count, edge, taken, rfl⟩

namespace Moment

variable {before after : Moment} {run : RunObject} {ledger : Ledger} {stored status : RunStatus}

/-- A status that is written leads on from the recorded phase. -/
theorem Writing.follows (writing : Writing run ledger stored status) :
    stored.phase.Follows status.phase := by
  cases writing with
  | reject time _ _ _ same => exact follows_of_nextPhase (nextPhase_validationFailed stored.phase)
  | start time _ starts same => exact follows_of_nextPhase (nextPhase_starting stored.phase)
  | refresh outputs _ same => exact .inl (by rw [same]; rfl)
  | @finish _ _ _ result _ _ _ underway _ _ ends =>
    -- The number of the components that were upgraded in part is that of the report.
    have leads : nextPhase .running (.ending result)
        (match result with
          | .ok report => report.partialComponents.length
          | .error _ => 0) = pure (.ofEnd result) :=
      nextPhase_ending (by rintro _ rfl; rfl)
    rw [ends.phase, underway.phase]
    exact follows_of_nextPhase leads

/-- A status that is written has the recorded phase and conditions, or the conditions of its own
phase. -/
theorem Writing.conditions (writing : Writing run ledger stored status) :
    (status.phase = stored.phase ∧ status.conditions = stored.conditions) ∨
      ∃ time error generation,
        status.conditions = Conditions.ofPhase time status.phase error generation := by
  cases writing with
  | reject time _ _ _ same => exact .inr ⟨time, _, _, rfl⟩
  | start time _ starts same => exact .inr ⟨time, none, _, rfl⟩
  | refresh outputs _ same => exact .inl (by rw [same]; exact ⟨rfl, rfl⟩)
  | finish _ _ _ _ _ ends =>
    cases ends with
    | plain time => exact .inr ⟨time, _, _, rfl⟩
    | withOutputs time _ => exact .inr ⟨time, _, _, rfl⟩

/-- The conditions of a status that is written are recorded as they were written, and they tell of
its phase if the recorded ones did. -/
theorem Writing.tells {shown : RunStatus} (writing : Writing run ledger stored status)
    (which : shown = stored ∨ shown = {})
    (told : stored.conditions ≠ [] → stored.conditions.Tells stored.phase) :
    (status.laidOver shown).conditions ≠ [] →
      (status.laidOver shown).conditions.Tells status.phase := by
  have covers : status.conditions = [] → shown.conditions = [] := by
    intro nothing
    rcases writing.conditions with ⟨-, same⟩ | ⟨time, error, generation, same⟩
    · rcases which with rfl | rfl
      · exact same ▸ nothing
      · rfl
    · exact absurd (same ▸ nothing) (Conditions.ofPhase_ne_nil _ _ _ _)
  have laid : (status.laidOver shown).conditions = status.conditions :=
    RunStatus.getD_listed?_eq_left_iff.2 covers
  rw [laid]
  rcases writing.conditions with ⟨phase, same⟩ | ⟨time, error, generation, same⟩
  · rw [phase, same]
    exact told
  · rw [same]
    exact fun _ => Conditions.tells_ofPhase time status.phase error generation

/-- The stored status can be read, and its conditions tell of its phase if it has any. -/
structure Told (moment : Moment) : Prop where
  read : RunObject.statusIn? moment.members = some moment.recorded
  tells : moment.recorded.conditions ≠ [] →
    moment.recorded.conditions.Tells moment.recorded.phase

/-- A run without a status tells nothing wrong. -/
theorem told_of_fresh {members : Json.Members} (fresh : members.lookup "status" = none) :
    Told ⟨members, none⟩ := by
  have read : RunObject.statusIn? members = some {} := by simp [RunObject.statusIn?, fresh]
  have recorded : (Moment.mk members none).recorded = {} := by simp [Moment.recorded, read]
  refine ⟨by rw [recorded]; exact read, fun told => ?_⟩
  rw [recorded] at told
  exact absurd rfl told

/-- What was told stays told through every step. -/
theorem told_of_step (sound : Sound before) (told : Told before) (step : Step before after) :
    Told after := by
  rcases statusIn?_of_step sound step with same | records
  · have recorded : after.recorded = before.recorded := by simp only [Moment.recorded, same]
    refine ⟨by rw [same, recorded, told.read], ?_⟩
    rw [recorded]
    exact told.tells
  · cases records with
    | @write _ _ _ _ status shown _ reply members _ writing which laid =>
      refine ⟨by simp only [recorded, laid, Option.getD_some], ?_⟩
      simp only [recorded, laid, Option.getD_some]
      exact writing.tells which told.tells

/-- What was told stays told through however many steps. -/
theorem told_of_leads (sound : Sound before) (told : Told before) (leads : Leads before after) :
    Told after := by
  induction leads with
  | refl => exact told
  | tail leads step inductionHypothesis =>
    exact told_of_step (sound_of_leads sound leads) inductionHypothesis step

/-- In every step the recorded phase stays or follows from the one that was recorded. -/
theorem follows_of_step (sound : Sound before) (step : Step before after) :
    before.recorded.phase.Follows after.recorded.phase := by
  rcases recorded_of_step sound step with same | records
  · exact .inl (by rw [same])
  · cases records with
    | write reply working writing which laid =>
      simp only [recorded, laid, Option.getD_some]
      exact writing.follows

/-- In every history of a stored run that begins without a status, whatever its spec is edited to,
whatever manager and store answer and wherever its reconciles are left: the stored status can be
read, the recorded phase stays or follows from the recorded one in every step, no reconcile ends
because a way from phase to phase is missing (that no client can be built is the only permanent error
there is), and if the stored status has conditions, Ready, Progressing and Degraded are there once
each and tell of its phase. -/
theorem phases_consistent {members : Json.Members} (fresh : members.lookup "status" = none)
    (leads : Leads ⟨members, none⟩ before) :
    RunObject.statusIn? before.members = some before.recorded ∧
    (∀ after, Step before after → before.recorded.phase.Follows after.recorded.phase) ∧
    (∀ run past error, before.worker = some ⟨run, past, .done (.error error)⟩ →
      (∀ phase event, error ≠ .noTransition phase event) ∧
        ∀ text, error = .permanent text → ∃ complaint, error = .unbuiltClient complaint) ∧
    (before.recorded.conditions ≠ [] →
      before.recorded.conditions.Tells before.recorded.phase) := by
  have sound : Sound before := sound_of_reachable ⟨members, leads⟩
  have told : Told before :=
    told_of_leads (fun _ working => by cases working) (told_of_fresh fresh) leads
  refine ⟨told.read, fun after => follows_of_step sound, ?_, told.tells⟩
  intro run past error working
  have ends : Converses (reconcile run {}).run past (.error error) :=
    converses_iff_reaches_done.2 (sound _ working).begun
  have closing : Closing run past (.error error) := (reconcile_closes run).concludes ends
  cases closing with
  | failed _ excused =>
    refine ⟨fun phase event missing => ?_, excused.passable⟩
    obtain ⟨complaint, unbuilt⟩ := excused.passable _ missing
    exact ReconcileError.noTransition_ne_unbuiltClient (missing.symm.trans unbuilt)

/-- A plain run comes to be running, with three conditions that tell so. -/
theorem phases_consistent_plain :
    ∃ moment : Moment, RunObject.plainMembers.lookup "status" = none ∧
      Leads ⟨RunObject.plainMembers, none⟩ moment ∧ moment.recorded.phase = .running ∧
      moment.recorded.conditions.length = 3 ∧
      moment.recorded.conditions.Tells .running := by
  have fresh : RunObject.plainMembers.lookup "status" = none := by decide
  have leads : Leads ⟨RunObject.plainMembers, none⟩ plainChanging :=
    (leads_of_reaches (reaches_steer answerUntouched 14 _)).head
      (.start rfl RunObject.ofJson?_plainMembers)
  have recorded : plainChanging.recorded.phase = .running ∧
      plainChanging.recorded.conditions.length = 3 := by
    decide +kernel
  obtain ⟨-, -, -, tells⟩ := phases_consistent fresh leads
  have some : plainChanging.recorded.conditions ≠ [] := by
    intro nothing
    simp [nothing] at recorded
  exact ⟨plainChanging, fresh, leads, recorded.1, recorded.2, recorded.1 ▸ tells some⟩

end Moment

end Reconcile

end FabricUpgrade
