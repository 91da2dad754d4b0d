import FabricUpgrade.Proofs.Overlay
import FabricUpgrade.Proofs.PlainRun
import FabricUpgrade.Proofs.Reconciling

/-!
# When a status is recorded as it was written

Every status that a reconcile writes can be read back, so writing it leaves it behind laid over the
stored one.  It is recorded as it was written exactly if it covers the stored one.  A status that
says that a run is running does not if an error was recorded, and refreshed outputs do not where
they became empty.
-/

namespace FabricUpgrade

open Program

/-- The map of each collected plan entry is in the order of its keys. -/
theorem Outputs.Collected.ordered {outputs : Outputs} (collected : outputs.Collected) :
    ∀ entry ∈ outputs.plan, SortedMap.Ordered entry.extendedConfig := by
  obtain ⟨exchanges, conversation⟩ := collected
  obtain ⟨_, _, groups, -, -, summarizing⟩ := conversation.of_bind_ok
  obtain ⟨_, _, summary, -, -, collecting⟩ := summarizing.of_bind_ok
  obtain ⟨_, _, state, -, -, ending⟩ := collecting.of_bind_ok
  obtain rfl : outputs = ⟨List.map PlanEntry.ofGroup groups, state⟩ := by
    cases ending
    rfl
  intro entry member
  obtain ⟨group, -, rfl⟩ := List.mem_map.1 member
  exact SortedMap.ordered_ofEntries _

namespace Conditions

/-- A condition that is set is the one put in, or it was there before. -/
theorem mem_set {conditions : Conditions} {condition member : Condition}
    (there : member ∈ conditions.set condition) : member = condition ∨ member ∈ conditions := by
  induction conditions with
  | nil => exact .inl (List.mem_singleton.1 there)
  | cons first rest inductionHypothesis =>
    unfold set at there
    split at there
    · exact (List.mem_cons.1 there).imp_right (List.mem_cons_of_mem _)
    · rcases List.mem_cons.1 there with rfl | there
      · exact .inr List.mem_cons_self
      · exact (inductionHypothesis there).imp_right (List.mem_cons_of_mem _)

/-- All three conditions were observed at the generation that they are told for. -/
theorem observedGeneration_of_mem_triple {time reason message : String}
    {ready progressing degraded : Bool} {generation : Option Int} {condition : Condition}
    (member : condition ∈ triple time ready progressing degraded reason message generation) :
    condition.observedGeneration = generation := by
  rcases mem_set member with rfl | member
  · rfl
  rcases mem_set member with rfl | member
  · rfl
  rcases mem_set member with rfl | member
  · rfl
  cases member

/-- The conditions of a phase were observed at the generation that they are told for. -/
theorem observedGeneration_of_mem_ofPhase {time : String} {phase : Phase} {error : Option String}
    {generation : Option Int} {condition : Condition}
    (member : condition ∈ ofPhase time phase error generation) :
    condition.observedGeneration = generation := by
  cases phase <;> exact observedGeneration_of_mem_triple member

/-- Every phase has conditions. -/
theorem ofPhase_ne_nil (time : String) (phase : Phase) (error : Option String)
    (generation : Option Int) : ofPhase time phase error generation ≠ [] := by
  cases phase <;> exact List.cons_ne_nil _ _

end Conditions

/-- The generation in metadata that were read has sixty-four bits. -/
theorem Metadata.isInt64_generation {value : Json} {metadata : Metadata}
    (read : Metadata.ofJson? value = some metadata) :
    ∀ generation ∈ metadata.generation, Json.IsInt64 generation := by
  simp only [ofJson?, Option.bind_eq_bind, Option.bind_eq_some_iff, Option.pure_def,
    Option.some.injEq] at read
  obtain ⟨record, -, -, -, -, -, -, -, -, -, -, -, -, -, -, -, name, -, generateName, -, space, -,
    generation, readGeneration, finalizers, -, deletion, -, rfl⟩ := read
  exact Json.Record.optional_sound (fun _ _ => Json.isInt64_of_int64?) readGeneration

namespace RunObject

/-- What the run says of itself can be written and read back. -/
structure Fits (run : RunObject) : Prop where
  generation : ∀ generation ∈ run.metadata.generation, Json.IsInt64 generation
  recorded : run.recorded.Fits

/-- A run that was read can be written and read back. -/
theorem fits_of_ofJson? {source : Json} {run : RunObject}
    (read : RunObject.ofJson? source = some run) : run.Fits := by
  obtain ⟨record, -, read⟩ := ofJson?_eq_some_iff.1 read
  obtain ⟨metadata, -, readMetadata⟩ := Option.bind_eq_some_iff.1 read.metadata
  refine ⟨Metadata.isInt64_generation readMetadata, ?_⟩
  have recorded : ∀ status ∈ run.status, status.Fits :=
    Json.Record.nullable_sound (fun _ _ => RunStatus.fits_of_ofJson?) read.status
  cases status : run.status with
  | none => simpa [RunObject.recorded, status] using RunStatus.fits_of_ofJson? ofJson?_empty
  | some status' => simpa [RunObject.recorded, status] using recorded status' status

variable {run : RunObject} {status : RunStatus}

/-- The conditions of a phase fit if the generation of the run does. -/
theorem Fits.ofPhase (fits : run.Fits) (time : String) (phase : Phase) (error : Option String) :
    ∀ condition ∈ Conditions.ofPhase time phase error run.metadata.generation, condition.Fits := by
  intro condition member
  unfold Condition.Fits
  rw [Conditions.observedGeneration_of_mem_ofPhase member]
  exact fits.generation

/-- The status that the run is running fits. -/
theorem Fits.runningStatus (fits : run.Fits) (runId time : String) :
    (run.runningStatus runId time).Fits :=
  ⟨fits.recorded.plan, fits.recorded.generation, fits.ofPhase time .running none⟩

/-- The status that the run has ended fits. -/
theorem Fits.endedStatus (fits : run.Fits) {running : RunStatus} (runningFits : running.Fits)
    (result : Except Failure Report) (time : String) : (run.endedStatus running result time).Fits :=
  ⟨runningFits.plan, fits.generation, fits.ofPhase time (.ofEnd result) _⟩

/-- Whatever a reconcile writes can be written and read back. -/
theorem Writes.fits (fits : run.Fits) (writes : run.Writes status) : status.Fits := by
  cases writes with
  | rejected fault time =>
    exact ⟨fits.recorded.plan, fits.generation,
      fits.ofPhase time .failed (some fault.error.message)⟩
  | running runId time => exact fits.runningStatus runId time
  | ended runId started time result =>
    exact fits.endedStatus (fits.runningStatus runId started) result time
  | endedWith runId started time result collected =>
    have ended := fits.endedStatus (fits.runningStatus runId started) result time
    exact ⟨collected.ordered, ended.generation, ended.conditions⟩
  | refreshed collected =>
    exact ⟨collected.ordered, fits.recorded.generation, fits.recorded.conditions⟩

/-- A status that says that the run is running hides all that is recorded but an error. -/
theorem covers_runningStatus_iff {runId time : String} :
    (run.runningStatus runId time).Covers run.recorded ↔ run.recorded.errorMessage = none := by
  constructor
  · intro covers
    exact covers.errorMessage rfl
  · intro clear
    exact
      { runId := fun missing => by cases missing
        upgradePrepareReadyId := fun missing => by cases missing
        upgradePlan := id
        state := id
        errorMessage := fun _ => clear
        observedGeneration := id
        lastRunAt := id
        conditions := fun missing =>
          absurd missing (Conditions.ofPhase_ne_nil time .running none run.metadata.generation) }

/-- Refreshed outputs hide the recorded ones except where they became empty. -/
theorem covers_withOutputs_iff {outputs : Outputs} :
    (run.recorded.withOutputs outputs).Covers run.recorded ↔
      (outputs.plan = [] → run.recorded.upgradePlan = []) ∧
        (outputs.state = [] → run.recorded.state = []) := by
  constructor
  · intro covers
    exact ⟨covers.upgradePlan, covers.state⟩
  · rintro ⟨plan, state⟩
    exact ⟨id, id, plan, state, id, id, id, id⟩

end RunObject

namespace Reconcile

attribute [local irreducible] reconcile

/-- A status that a reconcile of a run writes comes to be laid over the stored one.  It is recorded
as it was written exactly if it covers the stored one, and nothing but the status changes. -/
theorem recorded_eq_iff_covers {source : Json} {run stored : RunObject} {past : History}
    {target other : String} {status : RunStatus} {members : Json.Members}
    (read : RunObject.ofJson? source = some run)
    (asks : Asks (reconcile run {}).run past (.store (.writeStatus target other status)))
    (found : RunObject.ofJson? (.object members) = some stored) :
    ∃ after, RunObject.ofJson? ((StoreRequest.statusPatch status).mergePatch (.object members)) =
        some after ∧
      after.metadata = stored.metadata ∧ after.spec = stored.spec ∧
      after.status = some (status.laidOver (RunObject.baseStatus (.object members))) ∧
      (after.status = some status ↔ status.Covers (RunObject.baseStatus (.object members))) ∧
      ((∀ items, members.lookup "status" ≠ some (.array items)) →
        RunObject.baseStatus (.object members) = stored.recorded) := by
  have lawful : Lawful run past (.store (.writeStatus target other status)) :=
    (reconcile_obeys Ledger.ofHistory_nil).permits asks
  obtain ⟨-, -, writes⟩ := lawful.writing target other status rfl
  have fits : status.Fits := writes.fits (RunObject.fits_of_ofJson? read)
  refine ⟨_, RunObject.ofJson?_statusPatch fits found, rfl, rfl, rfl, ?_,
    RunObject.baseStatus_eq_recorded found⟩
  rw [Option.some.injEq]
  exact RunStatus.laidOver_eq_self_iff

/-- Outputs that are refreshed over what is recorded of a run come to be recorded as they were
collected exactly if none of them has become empty. -/
theorem recorded_withOutputs_iff {run : RunObject} {members : Json.Members} {outputs : Outputs}
    (read : RunObject.ofJson? (.object members) = some run) (collected : outputs.Collected)
    (named : ∀ items, members.lookup "status" ≠ some (.array items)) :
    ∃ after, RunObject.ofJson? ((StoreRequest.statusPatch
        (run.recorded.withOutputs outputs)).mergePatch (.object members)) = some after ∧
      (after.status = some (run.recorded.withOutputs outputs) ↔
        (outputs.plan = [] → run.recorded.upgradePlan = []) ∧
          (outputs.state = [] → run.recorded.state = [])) := by
  have fits : (run.recorded.withOutputs outputs).Fits :=
    RunObject.Writes.fits (RunObject.fits_of_ofJson? read) (.refreshed collected)
  have patched := RunObject.ofJson?_statusPatch fits read
  rw [RunObject.baseStatus_eq_recorded read named] at patched
  refine ⟨_, patched, ?_⟩
  rw [← RunObject.covers_withOutputs_iff, Option.some.injEq]
  exact RunStatus.laidOver_eq_self_iff

/-- A plain run writes that it is running right after it has claimed its manager. -/
theorem asks_running_plain {url : String} {status : Option RunStatus}
    (sound : (RunObject.plain url status).fault? = none)
    (fresh : (RunObject.plain url status).recorded.runId = none) :
    ∃ past, Asks (reconcile (.plain url status) {}).run past
      (.store (.writeStatus "default" "upgrade"
        ((RunObject.plain url status).runningStatus "id" "time"))) := by
  obtain ⟨endpoint, resume, begun⟩ := reconcile_plain_reaches sound fresh
  have start : plainStart url status = (plainStart url status).take 4 ++
      ⟨.store (.writeStatus "default" "upgrade"
          ((RunObject.plain url status).runningStatus "id" "time")),
        (.ok (.object RunObject.plainMembers) : Except StoreError Json)⟩ ::
      (plainStart url status).drop 5 := rfl
  rw [start, ← List.cons_append, ← List.cons_append] at begun
  exact ⟨_, begun.asks⟩

/-- The first status of a plain run is recorded as it was written. -/
theorem recorded_eq_iff_covers_plain :
    ∃ after, RunObject.ofJson? ((StoreRequest.statusPatch
        ((RunObject.plain "http://nsx.test").runningStatus "id" "time")).mergePatch
          (.object RunObject.plainMembers)) = some after ∧
      after.status = some ((RunObject.plain "http://nsx.test").runningStatus "id" "time") := by
  have sound : (RunObject.plain "http://nsx.test").fault? = none := by
    decide +kernel
  obtain ⟨past, asks⟩ := asks_running_plain sound rfl
  obtain ⟨after, patched, -, -, -, exact_iff, base⟩ := recorded_eq_iff_covers
    RunObject.ofJson?_plainMembers asks RunObject.ofJson?_plainMembers
  have named : ∀ items, RunObject.plainMembers.lookup "status" ≠ some (.array items) := by
    simp [RunObject.plainMembers]
  rw [base named] at exact_iff
  exact ⟨after, patched, exact_iff.2 (RunObject.covers_runningStatus_iff.2 rfl)⟩

/-- A plain run that has failed. -/
def failedRun : RunObject :=
  .plain "http://nsx.test" (some { phase := .failed, errorMessage := some "slow" })

/-- The members of the stored plain run that has failed. -/
def failedMembers : Json.Members :=
  RunObject.plainMembers ++
    [("status", .object [("phase", "Failed"), ("errorMessage", "slow")])]

/-- When the run that has failed is executed again, the status that is written has no error message,
and the stored one keeps the old one. -/
theorem not_recorded_as_written_failedRun :
    RunObject.ofJson? (.object failedMembers) = some failedRun ∧
      (∃ past, Asks (reconcile failedRun {}).run past
        (.store (.writeStatus "default" "upgrade" (failedRun.runningStatus "id" "time")))) ∧
      ∃ after, RunObject.ofJson? ((StoreRequest.statusPatch
          (failedRun.runningStatus "id" "time")).mergePatch (.object failedMembers)) = some after ∧
        after.recorded.errorMessage = some "slow" ∧
        after.status ≠ some (failedRun.runningStatus "id" "time") := by
  have sound : failedRun.fault? = none := by
    decide +kernel
  have found : RunObject.ofJson? (.object failedMembers) = some failedRun := by
    decide +kernel
  have fits : failedRun.Fits := RunObject.fits_of_ofJson? found
  have named : ∀ items, failedMembers.lookup "status" ≠ some (.array items) := by
    simp [failedMembers, RunObject.plainMembers]
  have patched := RunObject.ofJson?_statusPatch (fits.runningStatus "id" "time") found
  -- The stored status is an object, so the status is laid over what is recorded.
  rw [RunObject.baseStatus_eq_recorded found named] at patched
  refine ⟨found, asks_running_plain sound rfl, _, patched, rfl, fun same => ?_⟩
  have covers := RunStatus.laidOver_eq_self_iff.1 (Option.some.inj same)
  have clear : failedRun.recorded.errorMessage = none := RunObject.covers_runningStatus_iff.1 covers
  cases clear

end Reconcile

end FabricUpgrade
