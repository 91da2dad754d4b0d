import Mathlib.Data.List.Induction
import FabricUpgrade.Proofs.Lawful

/-!
# How a reconcile ends

A reconcile that ends in an error has written nothing, or nothing but that its run is running.  It
forgets the failures of its run at its very end, and only if it ends well; one that puts the
operator's finalizer in ends well and does not.  `Reconcile.Closing` says so, and each part of a
reconcile is followed once for it.
-/

namespace FabricUpgrade

open Program

/-- A secret that does not hold a text under a key is not valid. -/
theorem Secret.validation_of_text {secret : Secret} {key : String} {error : ReconcileError}
    (failed : secret.text key = .error error) : ∃ text, error = .validation text := by
  unfold text at failed
  cases held : secret.data.lookup key with
  | none =>
    simp only [held] at failed
    exact ⟨_, (Except.error.inj failed).symm⟩
  | some bytes =>
    cases decoded : Text.Utf8.decode bytes with
    | ok text => simp [held, decoded] at failed
    | error fault =>
      simp only [held, decoded] at failed
      exact ⟨_, (Except.error.inj failed).symm⟩

namespace Reconcile

/-- The status that an exchange shows to be written. -/
def recording? : Program.Exchange Question Answer → Option RunStatus
  | ⟨.store (.writeStatus _ _ status), answer⟩ => if isWritten answer then some status else none
  | _ => none

/-- The statuses that were written so far, in order. -/
def recordings (past : History) : List RunStatus :=
  past.filterMap recording?

/-- The resource whose failures an exchange forgets. -/
def forgetting? : Program.Exchange Question Answer → Option String
  | ⟨.forgetFailures resource, _⟩ => some resource
  | _ => none

/-- The resources whose failures were forgotten so far, in order. -/
def forgotten (past : History) : List String :=
  past.filterMap forgetting?

/-- The question forgets no failures. -/
def Question.Remembers (asked : Question) : Prop :=
  ∀ resource, asked ≠ .forgetFailures resource

/-- The question writes no status and forgets no failures. -/
def Question.isInert : Question → Bool
  | .store (.writeStatus _ _ _) | .forgetFailures _ => false
  | _ => true

def Question.Inert (asked : Question) : Prop :=
  asked.isInert = true

/-- An inert question forgets no failures. -/
theorem Question.Inert.remembers {asked : Question} (inert : asked.Inert) : asked.Remembers := by
  rintro resource rfl
  cases inert

/-- An inert question writes no status. -/
theorem Question.Inert.unwriting {asked : Question} (inert : asked.Inert)
    (target other : String) (status : RunStatus) :
    asked ≠ .store (.writeStatus target other status) := by
  rintro rfl
  cases inert

/-- The run has no finalizer of the operator, and its reconcile does no more than put it in. -/
def Adopts (run : RunObject) : Prop :=
  run.metadata.deletionTimestamp = none ∧ finalizer ∉ run.metadata.allFinalizers

/-- A reconcile of the run may end in the error when these statuses were written. -/
structure Excused (run : RunObject) (written : List RunStatus) (error : ReconcileError) : Prop where
  /-- No way from one phase to another was missing: only a client that cannot be built is for good. -/
  passable : ∀ text, error = .permanent text → ∃ complaint, error = .unbuiltClient complaint
  unfinished : written = [] ∨
    task run = .execute ∧ ∃ runId time, written = [run.runningStatus runId time]

/-- What holds when a part of a reconcile is over: its value fits what was written, or its error is
excused. -/
def Accounts {Value : Type} (run : RunObject) (holds : List RunStatus → Value → Prop) :
    History → Except ReconcileError Value → Prop
  | past, .ok value => holds (recordings past) value
  | past, .error error => Excused run (recordings past) error

/-- How a reconcile of the run may end. -/
inductive Closing (run : RunObject) (past : History) : Except ReconcileError Action → Prop where
  | failed {error : ReconcileError} (kept : forgotten past = [])
      (excused : Excused run (recordings past) error) : Closing run past (.error error)
  | adopted {action : Action} (adopts : Adopts run) (kept : forgotten past = []) :
      Closing run past (.ok action)
  | cleared {action : Action} (settled : ¬ Adopts run)
      (cleared : forgotten past = [Retries.key (space run) (name run)]) :
      Closing run past (.ok action)

section Exchanges

variable {past : History} {exchange : Program.Exchange Question Answer}

/-- An exchange adds the status that it shows to be written. -/
theorem recordings_snoc :
    recordings (past ++ [exchange]) = recordings past ++ (recording? exchange).toList := by
  cases recorded : recording? exchange <;> simp [recordings, recorded]

/-- An exchange adds the resource whose failures it forgets. -/
theorem forgotten_snoc :
    forgotten (past ++ [exchange]) = forgotten past ++ (forgetting? exchange).toList := by
  cases forgets : forgetting? exchange <;> simp [forgotten, forgets]

/-- A question that writes no status adds none. -/
theorem recording?_of_unwriting
    (elsewhere : ∀ target other status,
      exchange.question ≠ .store (.writeStatus target other status)) :
    recording? exchange = none := by
  obtain ⟨asked, answer⟩ := exchange
  cases asked with
  | store request =>
    cases request with
    | writeStatus target other status => exact absurd rfl (elsewhere target other status)
    | getRun _ _ | patchRun _ _ _ | getSecret _ _ | publish _ _ => rfl
  | manager _ _ | claim _ | release _ | buildClient _ | newRunId | timestamp | clock | measure _
  | forgetFailures _ => rfl

/-- A question that remembers adds no resource. -/
theorem forgetting?_of_remembers (remembers : exchange.question.Remembers) :
    forgetting? exchange = none := by
  obtain ⟨asked, answer⟩ := exchange
  cases asked with
  | forgetFailures resource => exact absurd rfl (remembers resource)
  | store _ | manager _ _ | claim _ | release _ | buildClient _ | newRunId | timestamp | clock
  | measure _ => rfl

/-- Where no status was lost, those that were asked to be written were written. -/
theorem recordings_of_kept (kept : (Ledger.ofHistory past).lost = false) :
    recordings past = (Ledger.ofHistory past).written := by
  induction past using List.reverseRecOn with
  | nil => rfl
  | append_singleton past exchange inductionHypothesis =>
    rw [Ledger.ofHistory_snoc] at kept ⊢
    rw [recordings_snoc]
    obtain ⟨asked, answer⟩ := exchange
    by_cases writes : ∃ target other status, asked = .store (.writeStatus target other status)
    · obtain ⟨target, other, status, rfl⟩ := writes
      obtain ⟨keptBefore, written⟩ : (Ledger.ofHistory past).lost = false ∧
          isWritten answer = true := by
        simpa [Ledger.enter] using kept
      simp [inductionHypothesis keptBefore, recording?, written, Ledger.enter]
    · have elsewhere : ∀ target other status,
          asked ≠ .store (.writeStatus target other status) := by
        intro target other status same
        exact writes ⟨target, other, status, same⟩
      have same : ((Ledger.ofHistory past).enter ⟨asked, answer⟩).written =
            (Ledger.ofHistory past).written ∧
          ((Ledger.ofHistory past).enter ⟨asked, answer⟩).lost = (Ledger.ofHistory past).lost :=
        Ledger.written_enter elsewhere
      have unrecorded : recording? ⟨asked, answer⟩ = none := recording?_of_unwriting elsewhere
      rw [same.1, unrecorded, inductionHypothesis (same.2 ▸ kept)]
      simp

end Exchanges

section Parts

variable {run : RunObject} {past : History} {written : List RunStatus} {First Value : Type}
  {reached : List RunStatus → First → Prop} {holds : List RunStatus → Value → Prop}

/-- Nothing was written, so any error may end the reconcile that comes from outside of it. -/
theorem excused_of_nil {error : ReconcileError}
    (passable : ∀ text, error = .permanent text → ∃ complaint, error = .unbuiltClient complaint)
    (known : recordings past = []) : Excused run (recordings past) error :=
  ⟨passable, .inl known⟩

/-- Inert questions leave what was written as it is. -/
theorem inert_remembers {program : Reconcile Value} (inert : Only Question.Inert program)
    (known : recordings past = written) :
    program.Obeys (fun _ asked => asked.Remembers) (fun past _ => recordings past = written)
      past := by
  refine (inert.keeps (fun past => recordings past = written) known ?_).mono
    (fun _ _ permitted => permitted.2.remembers) fun _ _ ended => ended
  intro past exchange inert known
  rw [recordings_snoc, recording?_of_unwriting inert.unwriting, known]
  simp

/-- A sequence accounts for itself if its parts do, the second one for whatever the first comes to. -/
theorem obeys_accounts_bind {first : Reconciling First} {next : First → Reconciling Value}
    (begins : first.run.Obeys (fun _ asked => asked.Remembers) (Accounts run reached) past)
    (continues : ∀ past value, reached (recordings past) value →
      (next value).run.Obeys (fun _ asked => asked.Remembers) (Accounts run holds) past) :
    (first >>= next).run.Obeys (fun _ asked => asked.Remembers) (Accounts run holds) past :=
  obeys_bind begins continues fun _ _ excused => excused

/-- A part that asks only inert questions and cannot fail. -/
theorem obeys_inert_lift {program : Reconcile Value} (inert : Only Question.Inert program)
    (known : recordings past = written) :
    (liftM program : Reconciling Value).run.Obeys (fun _ asked => asked.Remembers)
      (Accounts run fun recorded _ => recorded = written) past :=
  obeys_lift (inert_remembers inert known)

/-- What only asks inert questions is accounted for by what comes behind it. -/
theorem obeys_inert_bind {first : Reconcile First} {next : First → Reconciling Value}
    (inert : Only Question.Inert first) (known : recordings past = written)
    (continues : ∀ past value, recordings past = written →
      (next value).run.Obeys (fun _ asked => asked.Remembers) (Accounts run holds) past) :
    (liftM first >>= next).run.Obeys (fun _ asked => asked.Remembers) (Accounts run holds) past :=
  obeys_accounts_bind (obeys_inert_lift inert known) continues

/-- A session at a manager only asks inert questions. -/
theorem inert_atManager {endpoint : Endpoint} {session : Session Value} :
    Only Question.Inert (atManager endpoint session) := by
  induction session with
  | done result => exact only_done _
  | ask asked resume inductionHypothesis =>
    exact fun past => ⟨rfl, fun reply => inductionHypothesis reply _⟩

attribute [local irreducible] askStore

/-- What the store has to be asked for before anything is written. -/
theorem fromStore_accounts {decode : Json → Option Value} {request : StoreRequest}
    (inert : (Question.store request).Inert) (known : recordings past = []) :
    (fromStore decode request).run.Obeys (fun _ asked => asked.Remembers)
      (Accounts run fun recorded _ => recorded = []) past := by
  refine obeys_inert_bind (only_askStore inert) known fun past answer known => ?_
  cases answer with
  | error error => exact excused_of_nil nofun known
  | ok value =>
    cases read : decode value with
    | none => simp only [read]; exact excused_of_nil nofun known
    | some _ => simp only [read]; exact known

/-- Reading the credentials writes no status. -/
theorem readCredentials_accounts (known : recordings past = []) :
    (readCredentials run).run.Obeys (fun _ asked => asked.Remembers)
      (Accounts run fun recorded _ => recorded = []) past := by
  refine obeys_inert_bind (only_askStore rfl) known fun past answer known => ?_
  cases answer with
  | error error =>
    by_cases missing : error.isNotFound = true
    · simp only [missing, if_true]
      exact excused_of_nil nofun known
    · simp only [missing]
      exact excused_of_nil nofun known
  | ok value =>
    cases read : Secret.ofJson? value with
    | none => simp only [read]; exact excused_of_nil nofun known
    | some secret =>
      simp only [read]
      cases hasUsername : secret.text run.spec.manager.credentials.usernameKey with
      | error _ =>
        obtain ⟨_, rfl⟩ := Secret.validation_of_text hasUsername
        exact excused_of_nil nofun known
      | ok username =>
        cases hasPassword : secret.text run.spec.manager.credentials.passwordKey with
        | error _ =>
          obtain ⟨_, rfl⟩ := Secret.validation_of_text hasPassword
          exact excused_of_nil nofun known
        | ok password => exact known

/-- Connecting writes no status. -/
theorem connect_accounts (known : recordings past = []) :
    (connect run).run.Obeys (fun _ asked => asked.Remembers)
      (Accounts run fun recorded _ => recorded = []) past := by
  refine obeys_accounts_bind (readCredentials_accounts known) fun past credentials known => ?_
  refine obeys_inert_bind (only_question rfl) known fun past built known => ?_
  cases built with
  | error complaint => exact excused_of_nil (fun _ _ => ⟨complaint, rfl⟩) known
  | ok _ => exact known

/-- A status that is not written leaves what was written as it is. -/
theorem writeStatus_accounts {status : RunStatus} (known : recordings past = written)
    (excused : ∀ error, Excused run written (.store error)) :
    (writeStatus run status).run.Obeys (fun _ asked => asked.Remembers)
      (Accounts run fun recorded _ => recorded = written ++ [status]) past := by
  refine obeys_andThen.2 ?_
  change (fromStore _ _).run.Obeys _ _ _
  by_cases sendable :
      (StoreRequest.writeStatus (space run) (name run) status).isSendable = true
  · rw [fromStore_run sendable]
    refine ⟨nofun, fun answer => ?_⟩
    cases answer with
    | error error =>
      change Excused run (recordings (past ++ [_])) _
      rw [recordings_snoc, known]
      simpa [recording?, isWritten] using excused error
    | ok value =>
      cases read : RunObject.ofJson? value with
      | none =>
        simp only [readAnswer, read]
        change Excused run (recordings (past ++ [_])) _
        rw [recordings_snoc, known]
        simpa [recording?, isWritten, read] using excused .malformed
      | some _ =>
        simp only [readAnswer, read]
        change recordings (past ++ [_]) = _
        rw [recordings_snoc, known]
        simp [recording?, isWritten, read]
  · rw [fromStore_run_of_not_sendable sendable]
    change Excused run (recordings past) _
    rw [known]
    exact excused .malformed

/-- A rejection accounts for the status that it writes. -/
theorem reject_accounts {fault : SpecFault} (known : recordings past = []) :
    (reject run fault).run.Obeys (fun _ asked => asked.Remembers)
      (Accounts run fun _ _ => True) past := by
  unfold reject
  simp only [nextPhase_validationFailed]
  refine obeys_inert_bind (only_question rfl) known fun past time known => ?_
  refine obeys_accounts_bind (writeStatus_accounts known fun _ => ⟨nofun, .inl rfl⟩)
    fun past _ known => ?_
  exact obeys_inert_bind (only_publish fun _ => rfl) known fun _ _ _ => trivial

/-- What begins an upgrade writes the status that it is running, and only that. -/
theorem recordStart_accounts (known : recordings past = []) :
    (recordStart run).run.Obeys (fun _ asked => asked.Remembers)
      (Accounts run fun recorded running => ∃ runId time,
        running = run.runningStatus runId time ∧ recorded = [running]) past := by
  have identified : ∀ past runId, recordings past = [] →
      (do
        let time ← timestamp
        let running := run.runningStatus runId time
        writeStatus run running
        return running : Reconciling RunStatus).run.Obeys (fun _ asked => asked.Remembers)
      (Accounts run fun recorded running => ∃ runId time,
        running = run.runningStatus runId time ∧ recorded = [running]) past := by
    intro past runId known
    refine obeys_inert_bind (only_question rfl) known fun past time known => ?_
    exact obeys_accounts_bind (writeStatus_accounts known fun _ => ⟨nofun, .inl rfl⟩)
      fun past _ known => ⟨runId, time, rfl, known⟩
  unfold recordStart
  simp only [nextPhase_starting]
  cases recorded : run.recorded.runId with
  | some runId => exact identified past runId known
  | none =>
    exact obeys_inert_bind (only_question rfl) known fun past runId known =>
      identified past runId known

/-- What ends an upgrade accounts for the status that it was running and for the one that it writes. -/
theorem recordEnd_accounts {endpoint : Endpoint} {runId began : String} {started : Nat}
    {result : Except Failure Report} (executes : task run = .execute)
    (known : recordings past = [run.runningStatus runId began]) :
    (recordEnd run endpoint (run.runningStatus runId began) started result).run.Obeys
      (fun _ asked => asked.Remembers) (Accounts run fun _ _ => True) past := by
  unfold recordEnd
  simp only [show (run.runningStatus runId began).phase = .running from rfl]
  rw [nextPhase_ending (by rintro _ rfl; rfl), bind_of_pure]
  have written : ∀ past status, recordings past = [run.runningStatus runId began] →
      (do
        writeStatus run status
        let now ← clock
        measure
          (.runEnded (space run) (name run) (Phase.ofEnd result).label (seconds (now - started)))
        publishEnd run (.ofEnd result) result : Reconciling Unit).run.Obeys
      (fun _ asked => asked.Remembers) (Accounts run fun _ _ => True) past := by
    intro past status known
    refine obeys_accounts_bind (writeStatus_accounts known fun _ =>
      ⟨nofun, .inr ⟨executes, runId, began, rfl⟩⟩) fun past _ known => ?_
    refine obeys_inert_bind (only_question rfl) known fun past now known => ?_
    refine obeys_inert_bind (only_question rfl) known fun past _ known => ?_
    exact obeys_lift ((inert_remembers (only_publishEnd fun _ => rfl) known).mono
      (fun _ _ remembers => remembers) fun _ _ _ => trivial)
  refine obeys_inert_bind inert_atManager known fun past outcome known => ?_
  refine obeys_inert_bind (only_question rfl) known fun past time known => ?_
  cases outcome with
  | error _ => exact written past _ known
  | ok outputs =>
    exact obeys_inert_bind (only_measureComponents fun _ => rfl) known
      fun past _ known => written past _ known

/-- An upgrade under a claim accounts for what it writes. -/
theorem executeClaimed_accounts (executes : task run = .execute) (known : recordings past = []) :
    (executeClaimed run {}).run.Obeys (fun _ asked => asked.Remembers)
      (Accounts run fun _ _ => True) past := by
  unfold executeClaimed
  refine obeys_accounts_bind (connect_accounts known) fun past endpoint known => ?_
  refine obeys_accounts_bind (recordStart_accounts known) fun past running started => ?_
  obtain ⟨runId, began, rfl, known⟩ := started
  refine obeys_inert_bind (only_publish fun _ => rfl) known fun past _ known => ?_
  refine obeys_inert_bind (only_question rfl) known fun past started known => ?_
  refine obeys_inert_bind inert_atManager known fun past result known => ?_
  have recorded : (do
        recordEnd run endpoint (run.runningStatus runId began) started result
        return .requeue refreshSeconds : Reconciling Action).run.Obeys
      (fun _ asked => asked.Remembers) (Accounts run fun _ _ => True) past :=
    obeys_accounts_bind (recordEnd_accounts executes known) fun _ _ _ => trivial
  cases result with
  | ok report => exact recorded
  | error failure =>
    cases failure with
    | cancelled component => trivial
    | call _ _ _ _ | waitTimeout _ _ _ _ | unexpectedStatus _ _ _ | statusNotFound _ =>
      exact recorded

/-- An upgrade accounts for what it writes, whether the claim was granted or not. -/
theorem execute_accounts (executes : task run = .execute) (known : recordings past = []) :
    (execute run {}).run.Obeys (fun _ asked => asked.Remembers)
      (Accounts run fun _ _ => True) past := by
  unfold execute
  cases run.fault? with
  | some fault => exact reject_accounts known
  | none =>
    refine ⟨nofun, fun granted => ?_⟩
    have claimed : recordings (past ++ [⟨.claim run.spec.manager.url, granted⟩]) = [] := by
      rw [recordings_snoc, known]
      rfl
    cases granted with
    | false => exact excused_of_nil nofun claimed
    | true =>
      change Obeys _ _ ((executeClaimed run {}).run.andThen fun result =>
        (release run.spec.manager.url).andThen fun _ => .done result) _
      refine obeys_andThen.2 ((executeClaimed_accounts executes claimed).mono
        (fun _ _ remembers => remembers) fun past result ended => ⟨nofun, fun _ => ?_⟩)
      cases result with
      | ok _ => trivial
      | error error =>
        have excused : Excused run (recordings past) error := ended
        change Excused run (recordings (past ++ [_])) error
        rw [recordings_snoc]
        simpa [recording?] using excused

/-- A refresh accounts for the status that it writes. -/
theorem refresh_accounts (known : recordings past = []) :
    (refresh run).run.Obeys (fun _ asked => asked.Remembers)
      (Accounts run fun _ _ => True) past := by
  unfold refresh
  refine obeys_accounts_bind (connect_accounts known) fun past endpoint known => ?_
  refine obeys_inert_bind inert_atManager known fun past outcome known => ?_
  cases outcome with
  | error failure => exact excused_of_nil nofun known
  | ok outputs =>
    refine obeys_inert_bind (only_measureComponents fun _ => rfl) known
      fun past _ known => ?_
    by_cases unchanged : run.recorded.outputs = outputs
    · simp only [unchanged, if_true]
      trivial
    · simp only [unchanged, if_false]
      exact obeys_accounts_bind (writeStatus_accounts known fun _ => ⟨nofun, .inl rfl⟩)
        fun _ _ _ => trivial

/-- Changing the finalizers writes no status. -/
theorem patchFinalizers_accounts {finalizers : List String} (known : recordings past = []) :
    (do
      let _ ← fromStore RunObject.ofJson? (.patchRun (space run) (name run)
        (StoreRequest.finalizersPatch finalizers)) : Reconciling Unit).run.Obeys
      (fun _ asked => asked.Remembers) (Accounts run fun _ _ => True) past :=
  obeys_accounts_bind (fromStore_accounts rfl known) fun _ _ _ => trivial

/-- Putting the finalizer in writes no status. -/
theorem addFinalizer_accounts (known : recordings past = []) :
    (addFinalizer run).run.Obeys (fun _ asked => asked.Remembers)
      (Accounts run fun _ _ => True) past := by
  refine obeys_accounts_bind (fromStore_accounts rfl known) fun past stored known => ?_
  by_cases present : finalizer ∈ stored.metadata.allFinalizers
  · simp only [present, if_true]
    trivial
  · simp only [present, if_false]
    exact patchFinalizers_accounts known

/-- Taking the finalizer out writes no status. -/
theorem removeFinalizer_accounts (known : recordings past = []) :
    (removeFinalizer run).run.Obeys (fun _ asked => asked.Remembers)
      (Accounts run fun _ _ => True) past := by
  refine obeys_inert_bind (only_askStore rfl) known fun past answer known => ?_
  cases answer with
  | error error =>
    by_cases missing : error.isNotFound = true
    · simp only [missing, if_true]
      trivial
    · simp only [missing]
      exact excused_of_nil nofun known
  | ok value =>
    cases read : RunObject.ofJson? value with
    | none =>
      simp only [read]
      exact excused_of_nil nofun known
    | some stored =>
      simp only [read]
      by_cases absent : (stored.metadata.allFinalizers.filter (· ≠ finalizer)).length =
          stored.metadata.allFinalizers.length
      · simp only [absent, if_true]
        trivial
      · simp only [absent, if_false]
        exact patchFinalizers_accounts known

-- From here on an execution is known by how it ends.
attribute [local irreducible] execute

/-- A part that is over has forgotten no failures. -/
theorem obeys_kept_forgotten {part : Reconciling Value}
    {ends : History → Except ReconcileError Value → Prop} (kept : forgotten past = [])
    (obeys : part.run.Obeys (fun _ asked => asked.Remembers) ends past) :
    part.run.Obeys (fun _ _ => True) (fun past outcome => forgotten past = [] ∧ ends past outcome)
      past := by
  have step : ∀ past (exchange : Exchange Question Answer), exchange.question.Remembers →
      forgotten past = [] → forgotten (past ++ [exchange]) = [] := by
    intro past exchange remembers kept
    rw [forgotten_snoc, forgetting?_of_remembers remembers, kept]
    rfl
  exact (obeys.keeps (fun past => forgotten past = []) kept step).mono (fun _ _ _ => trivial)
    fun _ _ ended => ended

/-- Where a reconcile forgets the failures of its run, that is the last thing that it does. -/
theorem forgetFailures_closes {action : Action} (settled : ¬ Adopts run)
    (kept : forgotten past = []) :
    (do
      forgetFailures run
      return action : Reconciling Action).run.Obeys (fun _ _ => True) (Closing run) past := by
  refine ⟨trivial, fun _ => .cleared settled ?_⟩
  rw [forgotten_snoc, kept]
  rfl

/-- What comes after a refresh or an execution tells of it and forgets the failures. -/
theorem told_closes {part : Reconciling Action} (started : Nat) (settled : ¬ Adopts run)
    (kept : forgotten past = [])
    (accounts : part.run.Obeys (fun _ asked => asked.Remembers)
      (Accounts run fun _ _ => True) past) :
    (do
      let action ← part
      let now ← clock
      measure (.reconciled (space run) (name run) (seconds (now - started)))
      forgetFailures run
      return action : Reconciling Action).run.Obeys (fun _ _ => True) (Closing run) past := by
  refine obeys_bind (obeys_kept_forgotten kept accounts) (fun past action ended => ?_)
    fun past error ended => .failed ended.1 ended.2
  refine obeys_question_bind trivial fun now => obeys_question_bind trivial fun _ => ?_
  refine forgetFailures_closes settled ?_
  rw [forgotten_snoc, forgotten_snoc, ended.1]
  rfl

end Parts

attribute [local irreducible] execute

/-- Every reconcile ends as `Closing` says. -/
theorem reconcile_closes (run : RunObject) :
    (reconcile run {}).run.Obeys (fun _ _ => True) (Closing run) [] := by
  unfold reconcile
  refine obeys_question_bind trivial fun started => ?_
  have known : recordings ([] ++ [⟨.clock, started⟩]) = [] := rfl
  have kept : forgotten ([] ++ [⟨.clock, started⟩]) = [] := rfl
  by_cases deleted : run.metadata.deletionTimestamp.isSome = true
  · have settled : ¬ Adopts run := fun adopts => by simp [adopts.1] at deleted
    simp only [deleted, if_true]
    exact obeys_bind (obeys_kept_forgotten kept (removeFinalizer_accounts known))
      (fun past _ ended => forgetFailures_closes settled ended.1)
      fun past error ended => .failed ended.1 ended.2
  · simp only [deleted]
    have lasting : run.metadata.deletionTimestamp = none := by simpa using deleted
    by_cases missing : finalizer ∉ run.metadata.allFinalizers
    · simp only [missing]
      exact obeys_bind (obeys_kept_forgotten kept (addFinalizer_accounts known))
        (fun past _ ended => .adopted ⟨lasting, missing⟩ ended.1)
        fun past error ended => .failed ended.1 ended.2
    · simp only [missing]
      have settled : ¬ Adopts run := fun adopts => missing adopts.2
      have attended : ¬ (run.metadata.deletionTimestamp.isSome = true ∨
          finalizer ∉ run.metadata.allFinalizers) := not_or.2 ⟨deleted, missing⟩
      by_cases observed : isObserved run = true
      · simp only [observed, if_true]
        exact told_closes started settled kept (refresh_accounts known)
      · have executes : task run = .execute := (if_neg attended).trans (if_neg observed)
        simp only [observed]
        exact told_closes started settled kept (execute_accounts executes known)

end Reconcile

end FabricUpgrade
