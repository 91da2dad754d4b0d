import Mathlib.Logic.Relation
import FabricUpgrade.Proofs.Exclusion
import FabricUpgrade.Proofs.Progress
import FabricUpgrade.Proofs.Recording

/-!
# The history of a stored run

A stored run is reconciled again and again, by one reconcile at a time, each begun with what is
stored then.  In between and meanwhile anybody may edit all but its status.  A request that changes
it is carried out or not, and where it is carried out the answer may still be lost.  A reconcile may
be left at any moment.  `Moment.Sound` is what holds at every moment of such a history: what is
stored fits what the reconcile on its way has asked to be written.
-/

namespace FabricUpgrade

open Program

namespace RunObject

/-- What is recorded while the upgrade of the run is driven under the identity. -/
structure Underway (run : RunObject) (runId : String) (stored : RunStatus) : Prop where
  phase : stored.phase = .running
  runId : stored.runId = some runId
  upgradePrepareReadyId : stored.upgradePrepareReadyId = some run.spec.upgradePrepareReadyId
  observedGeneration : stored.observedGeneration = run.recorded.observedGeneration

end RunObject

namespace Reconcile

/-- A moment in the history of a stored run: the members of the stored object, and the reconcile of
it that is on its way, if there is one. -/
structure Moment where
  members : Json.Members
  worker : Option Worker := none

namespace Moment

/-- What the stored run records. -/
def recorded (moment : Moment) : RunStatus :=
  (RunObject.statusIn? moment.members).getD {}

/-- The operator's finalizer is in the stored run. -/
def Guarded (members : Json.Members) : Prop :=
  ∃ metadata, RunObject.metadataIn? members = some metadata ∧
    finalizer ∈ metadata.allFinalizers

/-- How a question may be answered and what becomes of the stored members. -/
inductive Serves (members : Json.Members) :
    (asked : Question) → Answer asked → Json.Members → Prop where
  /-- A change of the run is made, whatever the answer to it is. -/
  | changed (request : StoreRequest) {patch : Json} (reply : Except StoreError Json)
      (patches : request.patch? = some patch) :
      Serves members (.store request) reply (patch.mergePatch (.object members)).membersOf
  /-- A request that changes nothing is answered, or a change is not made and the answer says so. -/
  | unchanged (request : StoreRequest) (reply : Except StoreError Json)
      (unmade : request.patch?.isSome = true → isWritten reply = false) :
      Serves members (.store request) reply members
  | other (asked : Question) (reply : Answer asked)
      (elsewhere : ∀ request, asked ≠ .store request) :
      Serves members asked reply members

/-- A step in the history of a stored run. -/
inductive Step (before : Moment) : Moment → Prop where
  /-- Somebody edits the run.  They leave its status and the operator's finalizer alone. -/
  | edit (members : Json.Members)
      (unwritten : members.lookup "status" = before.members.lookup "status")
      (guarded : Guarded before.members → Guarded members) :
      Step before { before with members }
  /-- A reconcile begins with what is stored. -/
  | start {run : RunObject} (idle : before.worker = none)
      (read : RunObject.ofJson? (.object before.members) = some run) :
      Step before { before with worker := some ⟨run, [], (reconcile run {}).run⟩ }
  /-- The question of the reconcile is answered. -/
  | answer {run : RunObject} {past : History} {asked : Question}
      {resume : Answer asked → Reconcile (Except ReconcileError Action)} (reply : Answer asked)
      {members : Json.Members} (working : before.worker = some ⟨run, past, .ask asked resume⟩)
      (serves : Serves before.members asked reply members) :
      Step before ⟨members, some ⟨run, past ++ [⟨asked, reply⟩], resume reply⟩⟩
  /-- The reconcile is left, finished or not. -/
  | leave : Step before { before with worker := none }

/-- One moment leads to another. -/
abbrev Leads : Moment → Moment → Prop :=
  Relation.ReflTransGen Step

/-- The moments that there can be, beginning with any stored object and no reconcile. -/
def Reachable (moment : Moment) : Prop :=
  ∃ members, Leads ⟨members, none⟩ moment

/-- What is stored after statuses were written in turn over what was stored at first.  A status that
was given by position does not show below. -/
inductive Stands (initial : RunStatus) : List RunStatus → RunStatus → Prop where
  | nothing : Stands initial [] initial
  | laid {written : List RunStatus} {stored shown : RunStatus} (status : RunStatus)
      (stands : Stands initial written stored) (which : shown = stored ∨ shown = {}) :
      Stands initial (written ++ [status]) (status.laidOver shown)

section Stands

variable {initial stored status : RunStatus} {run : RunObject} {runId time : String}

/-- Where nothing was written the initial status stands. -/
theorem Stands.of_nil (stands : Stands initial [] stored) : stored = initial := by
  generalize none : ([] : List RunStatus) = written at stands
  cases stands with
  | nothing => rfl
  | laid => simp at none

/-- What was written last lies over what stood or over nothing. -/
theorem Stands.of_snoc {written : List RunStatus}
    (stands : Stands initial (written ++ [status]) stored) :
    ∃ under shown, Stands initial written under ∧ (shown = under ∨ shown = {}) ∧
      stored = status.laidOver shown := by
  generalize longer : written ++ [status] = all at stands
  cases stands with
  | nothing => simp at longer
  | @laid earlier under shown last stands which =>
    obtain ⟨rfl, rfl⟩ : written = earlier ∧ status = last := by simpa using longer
    exact ⟨under, shown, stands, which, rfl⟩

/-- A single status lies over the initial one or over nothing. -/
theorem Stands.of_singleton (stands : Stands initial [status] stored) :
    ∃ shown, (shown = initial ∨ shown = {}) ∧ stored = status.laidOver shown := by
  rw [← List.nil_append [status]] at stands
  obtain ⟨under, shown, stands, which, laid⟩ := stands.of_snoc
  exact ⟨shown, stands.of_nil ▸ which, laid⟩

/-- Of a datum that is written as it is recorded it does not matter whether the old one shows. -/
theorem or_of_which {α : Type} {shown : RunStatus} (datum : RunStatus → Option α)
    (nothing : datum {} = none) (which : shown = stored ∨ shown = {}) :
    (datum stored).or (datum shown) = datum stored := by
  rcases which with rfl | rfl
  · exact Option.or_self
  · rw [nothing, Option.or_none]

/-- The same of data that are lists. -/
theorem getD_of_which {Datum : Type} {shown : RunStatus} (data : RunStatus → List Datum)
    (nothing : data {} = []) (which : shown = stored ∨ shown = {}) :
    (Json.listed? (data stored)).getD (data shown) = data stored := by
  rw [RunStatus.getD_listed?_eq_left_iff]
  intro missing
  rcases which with rfl | rfl
  · exact missing
  · exact nothing

/-- After the start the recorded status tells that the run is underway. -/
theorem Stands.underway (stands : Stands run.recorded [run.runningStatus runId time] stored) :
    run.Underway runId stored := by
  obtain ⟨shown, which, rfl⟩ := stands.of_singleton
  have observed : run.recorded.observedGeneration.or shown.observedGeneration =
      run.recorded.observedGeneration := or_of_which RunStatus.observedGeneration rfl which
  exact ⟨rfl, rfl, rfl, observed⟩

end Stands

/-- The status that a reconcile asks to be written when this is stored. -/
inductive Writing (run : RunObject) (ledger : Ledger) (stored : RunStatus) : RunStatus → Prop where
  | reject {fault : SpecFault} (time : String) (executes : task run = .execute)
      (faulty : run.fault? = some fault) (written : ledger.written = [])
      (same : stored = run.recorded) : Writing run ledger stored (run.rejectedStatus fault time)
  | start {runId : String} (time : String) (executes : task run = .execute)
      (starts : run.Starts runId) (same : stored = run.recorded) :
      Writing run ledger stored (run.runningStatus runId time)
  | finish {runId time : String} {driven : Session.History} {result : Except Failure Report}
      {status : RunStatus} (executes : task run = .execute)
      (written : ledger.written = [run.runningStatus runId time])
      (underway : run.Underway runId stored) (drove : Drove run ledger driven result)
      (uncancelled : ∀ component, result ≠ .error (.cancelled component))
      (ends : run.Ends (run.runningStatus runId time) result status) :
      Writing run ledger stored status
  | refresh (outputs : Outputs) (refreshes : task run = .refresh) (same : stored = run.recorded) :
      Writing run ledger stored (run.recorded.withOutputs outputs)

/-- What holds of the reconcile on its way and what is stored. -/
structure Attended (members : Json.Members) (worker : Worker) : Prop where
  begun : Reaches (reconcile worker.run {}).run worker.past worker.rest
  fits : worker.run.Fits
  /-- Unless a status was lost, what is stored is what was asked to be written. -/
  stands : ∃ stored, RunObject.statusIn? members = some stored ∧
    ((Ledger.ofHistory worker.past).lost = false →
      Stands worker.run.recorded (Ledger.ofHistory worker.past).written stored)
  guarded : task worker.run = .execute → Guarded members

/-- What holds at every moment. -/
def Sound (moment : Moment) : Prop :=
  ∀ worker, moment.worker = some worker → Attended moment.members worker

-- A reconcile is known by what it obeys; to compute it would be to compute on texts.
attribute [local irreducible] reconcile

namespace Attended

variable {members after : Json.Members} {run : RunObject} {past : History} {asked : Question}
  {resume : Answer asked → Reconcile (Except ReconcileError Action)} {worker : Worker}

/-- Whatever a worker asks next belongs to its task. -/
theorem undertaking (attended : Attended members ⟨run, past, .ask asked resume⟩) :
    Undertaking run (task run) past asked :=
  (reconcile_obeys_task Ledger.ofHistory_nil).permits ⟨resume, attended.begun⟩

/-- The reconcile that has just begun. -/
theorem of_read (read : RunObject.ofJson? (.object members) = some run) :
    Attended members ⟨run, [], (reconcile run {}).run⟩ where
  begun := .here _
  fits := RunObject.fits_of_ofJson? read
  stands := ⟨_, RunObject.statusIn?_of_ofJson? read, fun _ => .nothing⟩
  guarded executes := by
    refine ⟨_, RunObject.metadataIn?_of_ofJson? read, ?_⟩
    have kept : ¬ (run.metadata.deletionTimestamp.isSome = true ∨
        finalizer ∉ run.metadata.allFinalizers) := by
      intro finalizes
      have finalizes : task run = .finalize := if_pos finalizes
      cases finalizes.symm.trans executes
    exact Classical.not_not.1 (not_or.1 kept).2

/-- Edits of the run leave what was asked to be written where it is. -/
theorem edited (attended : Attended members worker)
    (unwritten : after.lookup "status" = members.lookup "status")
    (guarded : task worker.run = .execute → Guarded members → Guarded after) :
    Attended after worker where
  begun := attended.begun
  fits := attended.fits
  stands := by
    obtain ⟨stored, read, stands⟩ := attended.stands
    exact ⟨stored, by simpa only [RunObject.statusIn?, unwritten] using read, stands⟩
  guarded executes := guarded executes (attended.guarded executes)

/-- A question that writes no status takes the reconcile further and leaves what was asked to be
written where it is. -/
theorem moved (attended : Attended members ⟨run, past, .ask asked resume⟩) (reply : Answer asked)
    (elsewhere : ∀ target other status, asked ≠ .store (.writeStatus target other status)) :
    Attended members ⟨run, past ++ [⟨asked, reply⟩], resume reply⟩ where
  begun := attended.begun.answered reply
  fits := attended.fits
  stands := by
    obtain ⟨stored, read, stands⟩ := attended.stands
    have entered : ((Ledger.ofHistory past).enter ⟨asked, reply⟩).written =
          (Ledger.ofHistory past).written ∧
        ((Ledger.ofHistory past).enter ⟨asked, reply⟩).lost = (Ledger.ofHistory past).lost :=
      Ledger.written_enter elsewhere
    refine ⟨stored, read, ?_⟩
    simp only [Ledger.ofHistory_snoc, entered.1, entered.2]
    exact stands
  guarded := attended.guarded

/-- Whatever a reconcile asks to be written, all that was asked before was written, and it is made
from what is stored. -/
theorem writing {target other : String} {status : RunStatus}
    {resume : Answer (.store (.writeStatus target other status)) →
      Reconcile (Except ReconcileError Action)}
    (attended : Attended members
      ⟨run, past, .ask (.store (.writeStatus target other status)) resume⟩) :
    ∃ stored, RunObject.statusIn? members = some stored ∧ (Ledger.ofHistory past).lost = false ∧
      Stands run.recorded (Ledger.ofHistory past).written stored ∧
      Writing run (Ledger.ofHistory past) stored status := by
  obtain ⟨stored, read, stands⟩ := attended.stands
  have undertaking := attended.undertaking
  refine ⟨stored, read, ?_⟩
  cases assigned : task run with
  | finalize =>
    rw [assigned] at undertaking
    rcases undertaking with ⟨_, quiet⟩
    cases quiet
  | refresh =>
    rw [assigned] at undertaking
    rcases undertaking with ⟨_, quiet⟩ | _ | ⟨known, _⟩
    · cases quiet
    · rw [known] at stands ⊢
      exact ⟨rfl, stands rfl, .refresh _ assigned (stands rfl).of_nil⟩
  | execute =>
    rw [assigned] at undertaking
    cases undertaking with
    | quiet _ quiet => cases quiet
    | reject time known faulty =>
      rw [known] at stands ⊢
      exact ⟨rfl, stands rfl, .reject time assigned faulty rfl (stands rfl).of_nil⟩
    | start time known starts =>
      rw [known] at stands ⊢
      exact ⟨rfl, stands rfl, .start time assigned starts (stands rfl).of_nil⟩
    | finish known starts drives ends =>
      rw [known] at stands ⊢
      exact ⟨rfl, stands rfl, .finish assigned rfl (stands rfl).underway ⟨drives.ends, _, rfl⟩
        drives.uncancelled ends⟩

/-- What is asked to be written can be written and read back. -/
theorem fits_of_write {target other : String} {status : RunStatus}
    {resume : Answer (.store (.writeStatus target other status)) →
      Reconcile (Except ReconcileError Action)}
    (attended : Attended members
      ⟨run, past, .ask (.store (.writeStatus target other status)) resume⟩) :
    status.Fits := by
  have lawful : Lawful run past (.store (.writeStatus target other status)) :=
    attended.undertaking.lawful
  obtain ⟨-, -, writes⟩ := lawful.writing target other status rfl
  exact writes.fits attended.fits

/-- A status that was written is laid over what was stored. -/
theorem written {target other : String} {status : RunStatus}
    {resume : Answer (.store (.writeStatus target other status)) →
      Reconcile (Except ReconcileError Action)}
    (attended : Attended members
      ⟨run, past, .ask (.store (.writeStatus target other status)) resume⟩)
    (reply : Except StoreError Json) :
    Attended (Json.mergeMembers [("status", status.toJson)] members)
      ⟨run, past ++ [⟨.store (.writeStatus target other status), reply⟩], resume reply⟩ where
  begun := attended.begun.answered reply
  fits := attended.fits
  stands := by
    obtain ⟨stored, read, -, stands, -⟩ := attended.writing
    obtain ⟨shown, which, read⟩ :=
      RunObject.statusIn?_mergeMembers_status attended.fits_of_write read
    refine ⟨_, read, fun _ => ?_⟩
    rw [Ledger.ofHistory_snoc]
    exact .laid status stands which
  guarded executes := by
    obtain ⟨metadata, read, guards⟩ := attended.guarded executes
    refine ⟨metadata, ?_, guards⟩
    simpa [RunObject.metadataIn?, RunObject.lookup_mergeMembers_status] using read

/-- A status that was not written is lost. -/
theorem unwritten {target other : String} {status : RunStatus}
    {resume : Answer (.store (.writeStatus target other status)) →
      Reconcile (Except ReconcileError Action)}
    (attended : Attended members
      ⟨run, past, .ask (.store (.writeStatus target other status)) resume⟩)
    {reply : Except StoreError Json} (unmade : isWritten reply = false) :
    Attended members
      ⟨run, past ++ [⟨.store (.writeStatus target other status), reply⟩], resume reply⟩ where
  begun := attended.begun.answered reply
  fits := attended.fits
  stands := by
    obtain ⟨stored, read, -⟩ := attended.stands
    refine ⟨stored, read, fun kept => ?_⟩
    simp [Ledger.enter, unmade] at kept
  guarded := attended.guarded

/-- Only a reconcile that does not execute the run patches it, and then only its finalizers. -/
theorem patching {target other : String} {patch : Json}
    {resume : Answer (.store (.patchRun target other patch)) →
      Reconcile (Except ReconcileError Action)}
    (attended : Attended members ⟨run, past, .ask (.store (.patchRun target other patch)) resume⟩) :
    task run = .finalize ∧ ∃ finalizers, patch = StoreRequest.finalizersPatch finalizers :=
  attended.undertaking.patching

end Attended

/-- A step in which a status is written. -/
inductive Records (before : Moment) : Moment → Prop where
  | write {run : RunObject} {past : History} {target other : String} {status shown : RunStatus}
      {resume : Answer (.store (.writeStatus target other status)) →
        Reconcile (Except ReconcileError Action)} (reply : Except StoreError Json)
      {members : Json.Members}
      (working : before.worker =
        some ⟨run, past, .ask (.store (.writeStatus target other status)) resume⟩)
      (writing : Writing run (Ledger.ofHistory past) before.recorded status)
      (which : shown = before.recorded ∨ shown = {})
      (laid : RunObject.statusIn? members = some (status.laidOver shown)) :
      Records before ⟨members,
        some ⟨run, past ++ [⟨.store (.writeStatus target other status), reply⟩], resume reply⟩⟩

variable {before after : Moment}

/-- Soundness is kept by every step. -/
theorem sound_of_step (sound : Sound before) (step : Step before after) : Sound after := by
  intro worker working
  cases step with
  | edit members unwritten guarded =>
    exact (sound worker working).edited unwritten fun _ => guarded
  | start idle read =>
    cases working
    exact .of_read read
  | leave => cases working
  | @answer run past asked resume reply members busy serves =>
    cases working
    have attended := sound _ busy
    cases serves with
    | other _ _ elsewhere => exact attended.moved reply fun _ _ _ => elsewhere _
    | unchanged request reply unmade =>
      cases request with
      | writeStatus target other status => exact attended.unwritten (unmade rfl)
      | getRun _ _ | patchRun _ _ _ | getSecret _ _ | publish _ _ =>
        exact attended.moved reply (by simp)
    | changed request reply patches =>
      cases request with
      | getRun _ _ | getSecret _ _ | publish _ _ => cases patches
      | writeStatus target other status =>
        obtain rfl : StoreRequest.statusPatch status = _ := Option.some.inj patches
        rw [RunObject.statusPatch_eq]
        exact attended.written reply
      | patchRun target other patch =>
        obtain ⟨finalizes, finalizers, rfl⟩ := attended.patching
        obtain rfl : StoreRequest.finalizersPatch finalizers = _ := Option.some.inj patches
        -- The patch may take the finalizer away, but a run that is patched is not executed.
        refine (attended.moved reply (by simp)).edited
          (RunObject.lookup_status_finalizersPatch finalizers) fun executes => ?_
        cases finalizes.symm.trans executes

/-- The stored status changes only where a reconcile writes one. -/
theorem statusIn?_of_step (sound : Sound before) (step : Step before after) :
    RunObject.statusIn? after.members = RunObject.statusIn? before.members ∨
      Records before after := by
  cases step with
  | edit members unwritten guarded =>
    exact .inl (by simp only [RunObject.statusIn?, unwritten])
  | start idle read => exact .inl rfl
  | leave => exact .inl rfl
  | @answer run past asked resume reply members busy serves =>
    have attended := sound _ busy
    cases serves with
    | other _ _ _ => exact .inl rfl
    | unchanged _ _ _ => exact .inl rfl
    | changed request reply patches =>
      cases request with
      | getRun _ _ | getSecret _ _ | publish _ _ => cases patches
      | writeStatus target other status =>
        obtain rfl : StoreRequest.statusPatch status = _ := Option.some.inj patches
        obtain ⟨stored, read, -, -, writing⟩ := attended.writing
        obtain rfl : before.recorded = stored := by simp [recorded, read]
        obtain ⟨shown, which, laid⟩ :=
          RunObject.statusIn?_mergeMembers_status attended.fits_of_write read
        exact .inr (.write reply busy writing which (by rw [RunObject.statusPatch_eq]; exact laid))
      | patchRun target other patch =>
        obtain ⟨-, finalizers, rfl⟩ := attended.patching
        obtain rfl : StoreRequest.finalizersPatch finalizers = _ := Option.some.inj patches
        refine .inl ?_
        simp only [RunObject.statusIn?, RunObject.lookup_status_finalizersPatch]

/-- What is recorded changes only where a reconcile writes a status. -/
theorem recorded_of_step (sound : Sound before) (step : Step before after) :
    after.recorded = before.recorded ∨ Records before after :=
  (statusIn?_of_step sound step).imp_left fun same => by simp only [recorded, same]

/-- Soundness is kept by however many steps. -/
theorem sound_of_leads (sound : Sound before) (leads : Leads before after) : Sound after := by
  induction leads with
  | refl => exact sound
  | tail _ step inductionHypothesis => exact sound_of_step inductionHypothesis step

/-- Every moment that can be reached is sound. -/
theorem sound_of_reachable (reachable : Reachable before) : Sound before := by
  obtain ⟨members, leads⟩ := reachable
  exact sound_of_leads (fun _ working => by cases working) leads

/-- What becomes of the stored members where every change is made. -/
def serve (members : Json.Members) (exchange : Exchange Question Answer) : Json.Members :=
  match exchange.question with
  | .store request =>
    request.patch?.elim members fun patch => (patch.mergePatch (.object members)).membersOf
  | _ => members

/-- What a serving store makes of its members is one of the ways to serve a question. -/
theorem serves_serve (members : Json.Members) (asked : Question) (answer : Answer asked) :
    Serves members asked answer (serve members ⟨asked, answer⟩) := by
  cases asked with
  | store request =>
    cases patches : request.patch? with
    | none =>
      simp only [serve, patches, Option.elim_none]
      exact .unchanged request answer (by simp [patches])
    | some patch =>
      simp only [serve, patches, Option.elim_some]
      exact .changed request answer patches
  | manager _ _ | claim _ | release _ | buildClient _ | newRunId | timestamp | clock | measure _
  | forgetFailures _ => exact .other _ answer (by simp)

/-- A reconcile may go on in any way where every change is made. -/
theorem leads_of_reaches {members : Json.Members} {run : RunObject} {past exchanges : History}
    {program rest : Reconcile (Except ReconcileError Action)}
    (begun : Reaches program exchanges rest) :
    Leads ⟨members, some ⟨run, past, program⟩⟩
      ⟨exchanges.foldl serve members, some ⟨run, past ++ exchanges, rest⟩⟩ := by
  induction begun generalizing members past with
  | here _ =>
    rw [List.append_nil]
    exact .refl
  | @ask asked resume exchanges rest reply _ inductionHypothesis =>
    have step : Step ⟨members, some ⟨run, past, .ask asked resume⟩⟩
        ⟨serve members ⟨asked, reply⟩, some ⟨run, past ++ [⟨asked, reply⟩], resume reply⟩⟩ :=
      .answer reply rfl (serves_serve members asked reply)
    have leads : Leads
        ⟨serve members ⟨asked, reply⟩, some ⟨run, past ++ [⟨asked, reply⟩], resume reply⟩⟩
        ⟨exchanges.foldl serve (serve members ⟨asked, reply⟩),
          some ⟨run, (past ++ [⟨asked, reply⟩]) ++ exchanges, rest⟩⟩ := inductionHypothesis
    rw [List.append_assoc] at leads
    exact leads.head step

/-- Every beginning of a reconcile of what is stored belongs to a history. -/
theorem reachable_of_reaches {members : Json.Members} {run : RunObject} {exchanges : History}
    {rest : Reconcile (Except ReconcileError Action)}
    (read : RunObject.ofJson? (.object members) = some run)
    (begun : Reaches (reconcile run {}).run exchanges rest) :
    Reachable ⟨exchanges.foldl serve members, some ⟨run, exchanges, rest⟩⟩ :=
  ⟨members, (leads_of_reaches begun).head (.start rfl read)⟩

end Moment

end Reconcile

end FabricUpgrade
