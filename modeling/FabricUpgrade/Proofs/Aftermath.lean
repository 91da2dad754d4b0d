import FabricUpgrade.Proofs.Endings
import FabricUpgrade.Proofs.Moments

/-!
# What a failed reconcile leaves behind

A reconcile that ends in an error has either written nothing, and then what is recorded is what was
recorded before, or it has written that its run is running and nothing else.  It has given its claim
up, and unless the start of the run was written it has not said anything at the manager to execute
it.  A request that fails changes nothing here: a store that makes a change and loses the answer is
another matter.
-/

namespace FabricUpgrade

open Program

namespace Reconcile

/-- How a question may be answered where a change is made exactly if the answer says so, and what
becomes of the stored members. -/
inductive Honest (members : Json.Members) :
    (asked : Question) → Answer asked → Json.Members → Prop where
  | made (request : StoreRequest) {patch : Json} (reply : Except StoreError Json)
      (patches : request.patch? = some patch) (told : isWritten reply = true) :
      Honest members (.store request) reply (patch.mergePatch (.object members)).membersOf
  | failed (request : StoreRequest) (reply : Except StoreError Json)
      (told : isWritten reply = false) : Honest members (.store request) reply members
  | idle (request : StoreRequest) (reply : Except StoreError Json)
      (patchless : request.patch? = none) : Honest members (.store request) reply members
  | other (asked : Question) (reply : Answer asked)
      (elsewhere : ∀ request, asked ≠ .store request) : Honest members asked reply members

/-- What the stored members may have become when a reconcile has the exchanges behind it.  Meanwhile
anybody may edit all but the status. -/
inductive Becomes (members : Json.Members) : History → Json.Members → Prop where
  | begun : Becomes members [] members
  | edited {past : History} {before : Json.Members} (after : Json.Members)
      (becomes : Becomes members past before)
      (unwritten : after.lookup "status" = before.lookup "status") : Becomes members past after
  | answered {past : History} {before after : Json.Members} {asked : Question}
      (reply : Answer asked) (becomes : Becomes members past before)
      (honest : Honest before asked reply after) :
      Becomes members (past ++ [⟨asked, reply⟩]) after

/-- That the run is running was written. -/
def Started (run : RunObject) (past : History) : Prop :=
  ∃ runId time, run.runningStatus runId time ∈ recordings past

section Aftermath

variable {run : RunObject} {initial stored : RunStatus} {members before after : Json.Members}
  {past exchanges : History} {rest : Reconcile (Except ReconcileError Action)}
  {error : ReconcileError}

open Moment (Stands or_of_which getD_of_which)

-- A reconcile is known by what it obeys; to compute it would be to compute on texts.
attribute [local irreducible] reconcile

/-- Where a question is answered honestly, what was recorded stands or was written over. -/
theorem Honest.stands {asked : Question} {reply : Answer asked}
    (honest : Honest before asked reply after) (fits : run.Fits)
    (undertaking : Undertaking run (task run) past asked)
    (read : RunObject.statusIn? before = some stored)
    (stands : Stands initial (recordings past) stored) :
    ∃ stored, RunObject.statusIn? after = some stored ∧
      Stands initial (recordings (past ++ [⟨asked, reply⟩])) stored := by
  have kept : recording? ⟨asked, reply⟩ = none →
      RunObject.statusIn? after = RunObject.statusIn? before →
      ∃ stored, RunObject.statusIn? after = some stored ∧
        Stands initial (recordings (past ++ [⟨asked, reply⟩])) stored := by
    intro unrecorded same
    refine ⟨stored, same.trans read, ?_⟩
    simpa [recordings_snoc, unrecorded] using stands
  cases honest with
  | other _ _ elsewhere => exact kept (recording?_of_unwriting fun _ _ _ => elsewhere _) rfl
  | failed request reply told =>
    refine kept ?_ rfl
    cases request with
    | writeStatus target other status => simp [recording?, told]
    | getRun _ _ | patchRun _ _ _ | getSecret _ _ | publish _ _ => rfl
  | idle request reply patchless =>
    refine kept ?_ rfl
    cases request with
    | writeStatus target other status => cases patchless
    | getRun _ _ | patchRun _ _ _ | getSecret _ _ | publish _ _ => rfl
  | made request reply patches told =>
    cases request with
    | getRun _ _ | getSecret _ _ | publish _ _ => cases patches
    | patchRun target other patch =>
      obtain ⟨-, finalizers, rfl⟩ := undertaking.patching
      obtain rfl : StoreRequest.finalizersPatch finalizers = _ := Option.some.inj patches
      refine kept rfl ?_
      simp only [RunObject.statusIn?, RunObject.lookup_status_finalizersPatch]
    | writeStatus target other status =>
      obtain rfl : StoreRequest.statusPatch status = _ := Option.some.inj patches
      have writes : run.Writes status := (undertaking.lawful.writing _ _ _ rfl).2.2
      obtain ⟨shown, which, laid⟩ :=
        RunObject.statusIn?_mergeMembers_status (writes.fits fits) read
      refine ⟨status.laidOver shown, by rw [RunObject.statusPatch_eq]; exact laid, ?_⟩
      have recorded : recording? ⟨.store (.writeStatus target other status), reply⟩ =
          some status := by
        simp [recording?, told]
      rw [recordings_snoc, recorded]
      exact .laid status stands which

/-- At every point of a reconcile the statuses that were written stand over what was recorded. -/
theorem Becomes.stands (becomes : Becomes members past after) (fits : run.Fits)
    (recorded : RunObject.statusIn? members = some initial)
    (begun : Reaches (reconcile run {}).run past rest) :
    ∃ stored, RunObject.statusIn? after = some stored ∧
      Stands initial (recordings past) stored := by
  induction becomes generalizing rest with
  | begun => exact ⟨initial, recorded, .nothing⟩
  | edited after becomes unwritten inductionHypothesis =>
    obtain ⟨stored, readBefore, stands⟩ := inductionHypothesis begun
    exact ⟨stored, by simpa only [RunObject.statusIn?, unwritten] using readBefore, stands⟩
  | @answered past before after asked reply becomes honest inductionHypothesis =>
    obtain ⟨resume, reached⟩ : Asks (reconcile run {}).run past asked := begun.asks
    obtain ⟨stored, readBefore, stands⟩ := inductionHypothesis reached
    have undertaking : Undertaking run (task run) past asked :=
      (reconcile_obeys_task Ledger.ofHistory_nil).permits ⟨resume, reached⟩
    exact honest.stands fits undertaking readBefore stands

/-- What a failed reconcile of a run leaves recorded where something was recorded at first. -/
structure Spared (run : RunObject) (initial : RunStatus) (past : History) (stored : RunStatus) :
    Prop where
  unstarted : ¬ Started run past → stored = initial
  started : Started run past → stored.phase = .running
  observedGeneration : initial = run.recorded →
    stored.observedGeneration = initial.observedGeneration
  lastRunAt : initial = run.recorded → stored.lastRunAt = initial.lastRunAt
  upgradePlan : initial = run.recorded → stored.upgradePlan = initial.upgradePlan
  state : initial = run.recorded → stored.state = initial.state

/-- Where nothing was written everything is spared. -/
theorem spared_of_unwritten (unwritten : recordings past = []) :
    Spared run initial past initial where
  unstarted _ := rfl
  started := by
    rintro ⟨_, _, started⟩
    rw [unwritten] at started
    cases started
  observedGeneration _ := rfl
  lastRunAt _ := rfl
  upgradePlan _ := rfl
  state _ := rfl

/-- The start of a run changes none of what an earlier run has left behind. -/
theorem spared_of_started {runId time : String} {shown : RunStatus}
    (written : recordings past = [run.runningStatus runId time])
    (which : shown = initial ∨ shown = {}) :
    Spared run initial past ((run.runningStatus runId time).laidOver shown) := by
  have started : Started run past :=
    ⟨runId, time, by rw [written]; exact List.mem_singleton_self _⟩
  have kept : ∀ {Datum : Type} (datum : RunStatus → Option Datum), datum {} = none →
      (datum initial).or (datum shown) = datum initial :=
    fun datum nothing => or_of_which datum nothing which
  have listed : ∀ {Datum : Type} (data : RunStatus → List Datum), data {} = [] →
      (Json.listed? (data initial)).getD (data shown) = data initial :=
    fun data nothing => getD_of_which data nothing which
  refine ⟨fun unstarted => absurd started unstarted, fun _ => rfl, ?_, ?_, ?_, ?_⟩
  · rintro rfl
    exact kept RunStatus.observedGeneration rfl
  · rintro rfl
    exact kept RunStatus.lastRunAt rfl
  · rintro rfl
    exact listed RunStatus.upgradePlan rfl
  · rintro rfl
    exact listed RunStatus.state rfl

/-- What stands when nothing but the start of the run was written is spared. -/
theorem Excused.spared (excused : Excused run (recordings past) error)
    (stands : Stands initial (recordings past) stored) : Spared run initial past stored := by
  rcases excused.unfinished with unwritten | ⟨-, runId, time, written⟩
  · rw [unwritten] at stands
    obtain rfl := stands.of_nil
    exact spared_of_unwritten unwritten
  · rw [written] at stands
    obtain ⟨shown, which, rfl⟩ := stands.of_singleton
    exact spared_of_started written which

/-- An execution says something at the manager only after the start of the run was written. -/
theorem started_of_managing {endpoint : Endpoint} {asked : Session.Question}
    (executes : task run = .execute)
    (asks : Asks (reconcile run {}).run past (.manager endpoint asked)) : Started run past := by
  have undertaking : Undertaking run (task run) past (.manager endpoint asked) :=
    (reconcile_obeys_task Ledger.ofHistory_nil).permits asks
  rw [executes] at undertaking
  have underway : ∀ {runId time managed}, Ledger.ofHistory past = .underway run runId time managed →
      Started run past := by
    intro runId time managed known
    refine ⟨runId, time, ?_⟩
    rw [recordings_of_kept (by rw [known]; rfl), known]
    exact List.mem_singleton_self _
  cases undertaking with
  | quiet _ quiet => cases quiet
  | drive _ known _ _ => exact underway known
  | collect _ known _ _ _ => exact underway known

/-- A reconcile that has started stays started. -/
theorem Started.append {later : History} (started : Started run past) :
    Started run (past ++ later) := by
  obtain ⟨runId, time, written⟩ := started
  refine ⟨runId, time, ?_⟩
  rw [recordings, List.filterMap_append]
  exact List.mem_append_left _ written

/-- Whatever manager and store answer, a reconcile that ends in an error leaves nothing
half-changed.  What is recorded is what was recorded before, unless the start of the run was
written; then the run is recorded as running, and the observed generation, the time of the last run
and the outputs are still the ones that were recorded, if the run was reconciled as it was recorded.
The reconcile holds no claim any more and has given up none but its own.  If the run was to be
executed and its start was not written, nothing was said at the manager. -/
theorem failed_reconcile_spares {source : Json} (read : RunObject.ofJson? source = some run)
    (recorded : RunObject.statusIn? members = some initial)
    (fails : Converses (reconcile run {}).run exchanges (.error error))
    (becomes : Becomes members exchanges after) :
    (∃ stored, RunObject.statusIn? after = some stored ∧ Spared run initial exchanges stored) ∧
    (Ledger.ofHistory exchanges).claim = none ∧
    (∀ earlier url answer later, exchanges = earlier ++ ⟨.release url, answer⟩ :: later →
      (Ledger.ofHistory earlier).claim = some url) ∧
    (task run = .execute → ¬ Started run exchanges →
      ∀ exchange ∈ exchanges, ∀ endpoint asked, exchange.question ≠ .manager endpoint asked) := by
  have begun := converses_iff_reaches_done.1 fails
  refine ⟨?_, ?_, ?_, ?_⟩
  · have fits : run.Fits := RunObject.fits_of_ofJson? read
    obtain ⟨stored, readAfter, stands⟩ := becomes.stands fits recorded begun
    have closing : Closing run exchanges (.error error) := (reconcile_closes run).concludes fails
    cases closing with
    | failed _ excused => exact ⟨stored, readAfter, excused.spared stands⟩
  · have yielded : Yielded run (Ledger.ofHistory exchanges) (.error error) :=
      (reconcile_obeys Ledger.ofHistory_nil).concludes fails
    exact yielded.unclaimed
  · rintro earlier url answer later rfl
    have lawful : Lawful run earlier (.release url) :=
      (reconcile_obeys Ledger.ofHistory_nil).permits begun.asks
    exact lawful.releasing url rfl
  · rintro executes unstarted ⟨question, answer⟩ member endpoint asked rfl
    obtain ⟨earlier, later, rfl⟩ := List.append_of_mem member
    exact unstarted (started_of_managing executes begun.asks).append

/-- What becomes of the stored members where each change is made of which the answer says so. -/
def heed (members : Json.Members) (exchange : Exchange Question Answer) : Json.Members :=
  match exchange with
  | ⟨.store request, answer⟩ =>
    if isWritten answer then Moment.serve members ⟨.store request, answer⟩ else members
  | _ => members

/-- A store that makes the changes it tells of, and no others, is honest. -/
theorem honest_heed (asked : Question) (reply : Answer asked) :
    Honest members asked reply (heed members ⟨asked, reply⟩) := by
  cases asked with
  | store request =>
    cases told : isWritten reply with
    | false => simpa [heed, told] using Honest.failed request reply told
    | true =>
      cases patches : request.patch? with
      | none => simpa [heed, told, Moment.serve, patches] using Honest.idle request reply patches
      | some patch =>
        simpa [heed, told, Moment.serve, patches] using Honest.made request reply patches told
  | manager _ _ | claim _ | release _ | buildClient _ | newRunId | timestamp | clock | measure _
  | forgetFailures _ => exact .other _ reply (by simp)

/-- What such a store makes of its members, exchange by exchange, is what becomes of them. -/
theorem becomes_heed (exchanges : History) :
    Becomes members exchanges (exchanges.foldl heed members) := by
  induction exchanges using List.reverseRecOn with
  | nil => exact .begun
  | append_singleton past exchange inductionHypothesis =>
    rw [List.foldl_append]
    exact .answered exchange.answer inductionHypothesis (honest_heed _ _)

/-- What a reconcile is answered where the end of the run cannot be written. -/
def answerFailing : (asked : Question) → Answer asked
  | .store (.writeStatus _ _ status) =>
    if status.phase = .running then .ok smallRunStored else .error (.api 500)
  | asked => answerReconcile asked

/-- The reconcile of a plain run fails after its start and leaves it running. -/
theorem failed_reconcile_spares_plain :
    ∃ exchanges error after stored,
      Converses (reconcile (.plain "http://nsx.test") {}).run exchanges (.error error) ∧
      Becomes RunObject.plainMembers exchanges after ∧
      Started (.plain "http://nsx.test") exchanges ∧
      RunObject.statusIn? after = some stored ∧ stored.phase = .running ∧
      stored.lastRunAt = none := by
  have failed : ((reconcile (.plain "http://nsx.test") {}).run.play answerFailing).2.isOk = false ∧
      recordings ((reconcile (.plain "http://nsx.test") {}).run.play answerFailing).1 ≠ [] := by
    decide +kernel
  have fails := converses_play answerFailing (reconcile (.plain "http://nsx.test") {}).run
  generalize (reconcile (.plain "http://nsx.test") {}).run.play answerFailing = played
    at failed fails
  obtain ⟨exchanges, result⟩ := played
  cases result with
  | ok action => simp [Except.isOk, Except.toBool] at failed
  | error error =>
    obtain ⟨⟨stored, readAfter, spared⟩, -⟩ := failed_reconcile_spares
      RunObject.ofJson?_plainMembers
      (RunObject.statusIn?_of_ofJson? RunObject.ofJson?_plainMembers) fails (becomes_heed exchanges)
    have closing : Closing (.plain "http://nsx.test") exchanges (.error error) :=
      (reconcile_closes _).concludes fails
    have started : Started (.plain "http://nsx.test") exchanges := by
      obtain ⟨-, -, unwritten | ⟨-, runId, time, written⟩⟩ := closing
      · exact absurd unwritten failed.2
      · exact ⟨runId, time, by rw [written]; exact List.mem_singleton_self _⟩
    exact ⟨exchanges, error, _, stored, fails, becomes_heed exchanges, started, readAfter,
      spared.started started, spared.lastRunAt rfl⟩

end Aftermath

end Reconcile

end FabricUpgrade
