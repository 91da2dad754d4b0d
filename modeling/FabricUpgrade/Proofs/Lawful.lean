import FabricUpgrade.Proofs.Stages

/-!
# What a reconcile may ask and how it ends

What a reconcile does with a run is one of three tasks, and the run decides which
(`Reconcile.task`).  `Reconcile.Executing`, `Reconcile.Refreshing` and `Reconcile.Finalizing` are the
rules for their questions; each says at what point of its task a question comes.  `Reconcile.Lawful` is what the
three have in common: nothing is asked after a refused claim, the upgrade is driven only under a
claim, and only statuses of `RunObject.Writes` are written.  `Reconcile.Ending` is what the ledger
can look like when an execution is over.
-/

namespace FabricUpgrade

open Program

namespace RunObject

/-- The run is accepted, and the identity is the recorded one, if there is one. -/
structure Starts (run : RunObject) (runId : String) : Prop where
  sound : run.fault? = none
  identity : ∀ recorded ∈ run.recorded.runId, recorded = runId

/-- The upgrade of the run ended by itself, with the result. -/
structure Drives (run : RunObject) (driven : Session.History) (result : Except Failure Report) :
    Prop where
  ends : Converses run.driver driven result
  uncancelled : ∀ component, result ≠ .error (.cancelled component)

/-- The statuses that may be written of a run when its upgrade has ended. -/
inductive Ends (run : RunObject) (running : RunStatus) (result : Except Failure Report) :
    RunStatus → Prop where
  | plain (time : String) : Ends run running result (run.endedStatus running result time)
  | withOutputs (time : String) {outputs : Outputs} (collected : outputs.Collected) :
      Ends run running result ((run.endedStatus running result time).withOutputs outputs)

/-- The status that is written of a run when its upgrade has ended and its outputs were collected
with the outcome: with the outputs, if there are any. -/
def closingStatus (run : RunObject) (running : RunStatus) (result : Except Failure Report)
    (time : String) : Except Failure Outputs → RunStatus
  | .ok outputs => (run.endedStatus running result time).withOutputs outputs
  | .error _ => run.endedStatus running result time

variable {run : RunObject} {running status : RunStatus} {result : Except Failure Report}

/-- Whatever comes of collecting the outputs, the status that closes the run is one that ends it. -/
theorem Ends.closing {said : Session.History} {outcome : Except Failure Outputs}
    (collects : Converses Outputs.collect.run said outcome) (time : String) :
    run.Ends running result (run.closingStatus running result time outcome) := by
  cases outcome with
  | ok outputs => exact .withOutputs time ⟨said, collects⟩
  | error _ => exact .plain time

/-- Every status that ends a run tells the phase of its result. -/
theorem Ends.phase (ends : run.Ends running result status) : status.phase = .ofEnd result := by
  cases ends <;> rfl

/-- Every status that ends a run is one that may be written of it. -/
theorem Ends.writes {runId started : String}
    (ends : run.Ends (run.runningStatus runId started) result status) : run.Writes status := by
  cases ends with
  | plain time => exact .ended runId started time result
  | withOutputs time collected => exact .endedWith runId started time result collected

end RunObject

namespace Reconcile

/-- The tasks of a reconcile. -/
inductive Task where
  /-- To put the operator's finalizer in, or to take it out. -/
  | finalize
  /-- To refresh the outputs of a run that has been observed. -/
  | refresh
  /-- To execute the run. -/
  | execute
deriving DecidableEq

/-- The task of a reconcile of the run. -/
def task (run : RunObject) : Task :=
  if run.metadata.deletionTimestamp.isSome ∨ finalizer ∉ run.metadata.allFinalizers then .finalize
  else if isObserved run then .refresh
  else .execute

/-- The ledger while the upgrade of a run is driven and its outputs are collected. -/
def Ledger.underway (run : RunObject) (runId time : String)
    (managed : Session.History) : Ledger where
  written := [run.runningStatus runId time]
  managed := managed
  claim := some run.spec.manager.url

/-- The question may be asked when the finalizers of the run are seen to. -/
inductive Finalizing (run : RunObject) (past : History) : Question → Prop where
  | quiet {question : Question} (known : Ledger.ofHistory past = {})
      (quiet : question.isQuiet = true) : Finalizing run past question
  | patch (finalizers : List String) (known : Ledger.ofHistory past = {}) :
      Finalizing run past
        (.store (.patchRun (space run) (name run) (StoreRequest.finalizersPatch finalizers)))

/-- The question may be asked when the outputs of the run are refreshed. -/
inductive Refreshing (run : RunObject) (past : History) : Question → Prop where
  | quiet {question : Question} (unrefused : (Ledger.ofHistory past).refused = false)
      (quiet : question.isQuiet = true) : Refreshing run past question
  | collect (endpoint : Endpoint) {said : Session.History} {asked : Session.Question}
      (known : Ledger.ofHistory past = { managed := said })
      (asks : Asks Outputs.collect.run said asked) :
      Refreshing run past (.manager endpoint asked)
  | record {said : Session.History} {outputs : Outputs}
      (known : Ledger.ofHistory past = { managed := said })
      (collects : Converses Outputs.collect.run said (.ok outputs)) :
      Refreshing run past
        (.store (.writeStatus (space run) (name run) (run.recorded.withOutputs outputs)))

/-- The question may be asked when the run is executed. -/
inductive Executing (run : RunObject) (past : History) : Question → Prop where
  | quiet {question : Question} (unrefused : (Ledger.ofHistory past).refused = false)
      (quiet : question.isQuiet = true) : Executing run past question
  | reject {fault : SpecFault} (time : String) (known : Ledger.ofHistory past = {})
      (faulty : run.fault? = some fault) :
      Executing run past
        (.store (.writeStatus (space run) (name run) (run.rejectedStatus fault time)))
  | claim (known : Ledger.ofHistory past = {}) : Executing run past (.claim run.spec.manager.url)
  | start {runId : String} (time : String)
      (known : Ledger.ofHistory past = { claim := some run.spec.manager.url })
      (starts : run.Starts runId) :
      Executing run past
        (.store (.writeStatus (space run) (name run) (run.runningStatus runId time)))
  | drive (endpoint : Endpoint) {runId time : String} {driven : Session.History}
      {asked : Session.Question} (known : Ledger.ofHistory past = .underway run runId time driven)
      (starts : run.Starts runId) (asks : Asks run.driver driven asked) :
      Executing run past (.manager endpoint asked)
  | collect (endpoint : Endpoint) {runId time : String} {driven said : Session.History}
      {result : Except Failure Report} {asked : Session.Question}
      (known : Ledger.ofHistory past = .underway run runId time (driven ++ said))
      (starts : run.Starts runId) (drives : run.Drives driven result)
      (asks : Asks Outputs.collect.run said asked) : Executing run past (.manager endpoint asked)
  | finish {runId time : String} {driven said : Session.History} {result : Except Failure Report}
      {status : RunStatus}
      (known : Ledger.ofHistory past = .underway run runId time (driven ++ said))
      (starts : run.Starts runId) (drives : run.Drives driven result)
      (ends : run.Ends (run.runningStatus runId time) result status) :
      Executing run past (.store (.writeStatus (space run) (name run) status))
  | release {url : String} (unrefused : (Ledger.ofHistory past).refused = false)
      (claimed : (Ledger.ofHistory past).claim = some url) : Executing run past (.release url)

/-- The question may be asked when the task is seen to. -/
def Undertaking (run : RunObject) : Task → Rule Question Answer
  | .finalize => Finalizing run
  | .refresh => Refreshing run
  | .execute => Executing run

/-- The question may be asked in a reconcile of the run, whatever its task is. -/
structure Lawful (run : RunObject) (past : History) (question : Question) : Prop where
  unrefused : (Ledger.ofHistory past).refused = false
  /-- The upgrade is driven while the manager is claimed. -/
  managing : ∀ endpoint asked, question = .manager endpoint asked →
    Asks run.driver (Ledger.ofHistory past).managed asked →
    (Ledger.ofHistory past).claim = some run.spec.manager.url
  writing : ∀ target other status, question = .store (.writeStatus target other status) →
    target = space run ∧ other = name run ∧ run.Writes status
  claiming : ∀ url, question = .claim url →
    url = run.spec.manager.url ∧ (Ledger.ofHistory past).claim = none
  releasing : ∀ url, question = .release url → (Ledger.ofHistory past).claim = some url

namespace Lawful

variable {run : RunObject} {past : History} {question : Question}

/-- A quiet question is lawful while no claim was refused. -/
theorem of_isQuiet (unrefused : (Ledger.ofHistory past).refused = false)
    (quiet : question.isQuiet = true) : Lawful run past question where
  unrefused := unrefused
  managing := by
    rintro _ _ rfl
    cases quiet
  writing := by
    rintro _ _ _ rfl
    cases quiet
  claiming := by
    rintro _ rfl
    cases quiet
  releasing := by
    rintro _ rfl
    cases quiet

/-- A change of the finalizers is lawful while no claim was refused. -/
theorem of_patch {patch : Json} (unrefused : (Ledger.ofHistory past).refused = false) :
    Lawful run past (.store (.patchRun (space run) (name run) patch)) where
  unrefused := unrefused
  managing := by simp
  writing := by simp
  claiming := by simp
  releasing := by simp

/-- A status that may be written of the run is written lawfully while no claim was refused. -/
theorem of_write {status : RunStatus} (unrefused : (Ledger.ofHistory past).refused = false)
    (writes : run.Writes status) :
    Lawful run past (.store (.writeStatus (space run) (name run) status)) where
  unrefused := unrefused
  managing := by simp
  writing := by
    rintro _ _ _ same
    cases same
    exact ⟨rfl, rfl, writes⟩
  claiming := by simp
  releasing := by simp

/-- The manager is asked lawfully if what an upgrade asks is asked under its claim. -/
theorem of_manager {endpoint : Endpoint} {asked : Session.Question}
    (unrefused : (Ledger.ofHistory past).refused = false)
    (claimed : Asks run.driver (Ledger.ofHistory past).managed asked →
      (Ledger.ofHistory past).claim = some run.spec.manager.url) :
    Lawful run past (.manager endpoint asked) where
  unrefused := unrefused
  managing := by
    rintro _ _ same
    cases same
    exact claimed
  writing := by simp
  claiming := by simp
  releasing := by simp

/-- A claim is lawful if there is none yet. -/
theorem of_claim (unrefused : (Ledger.ofHistory past).refused = false)
    (unclaimed : (Ledger.ofHistory past).claim = none) :
    Lawful run past (.claim run.spec.manager.url) where
  unrefused := unrefused
  managing := by simp
  writing := by simp
  claiming := by
    rintro _ same
    cases same
    exact ⟨rfl, unclaimed⟩
  releasing := by simp

/-- Giving a claim up is lawful if it is held. -/
theorem of_release {url : String} (unrefused : (Ledger.ofHistory past).refused = false)
    (claimed : (Ledger.ofHistory past).claim = some url) : Lawful run past (.release url) where
  unrefused := unrefused
  managing := by simp
  writing := by simp
  claiming := by simp
  releasing := by
    rintro _ same
    cases same
    exact claimed

end Lawful

section Undertaking

variable {run : RunObject} {past : History} {question : Question}

/-- What may be asked when the finalizers are seen to is lawful. -/
theorem Finalizing.lawful (finalizing : Finalizing run past question) :
    Lawful run past question := by
  cases finalizing with
  | quiet known quiet => exact .of_isQuiet (by rw [known]) quiet
  | patch finalizers known => exact .of_patch (by rw [known])

/-- The upgrade and the collection of the outputs begin with different questions, so a collection
on its own is never taken for an upgrade. -/
theorem not_asks_of_collects {said : Session.History} {asked : Session.Question}
    (collects : Asks Outputs.collect.run said asked) : ¬ Asks run.driver said asked := by
  obtain ⟨drive, driver⟩ : ∃ resume, run.driver = .ask .stopRequested resume := ⟨_, rfl⟩
  obtain ⟨list, collect⟩ : ∃ resume, Outputs.collect.run =
    .ask (.call (.listGroups none)) resume := ⟨_, rfl⟩
  rintro ⟨_, driven⟩
  obtain ⟨_, collected⟩ := collects
  rw [driver] at driven
  rw [collect] at collected
  cases driven with
  | here => cases collected
  | ask _ _ => cases collected

/-- What may be asked when the outputs are refreshed is lawful. -/
theorem Refreshing.lawful (refreshing : Refreshing run past question) :
    Lawful run past question := by
  cases refreshing with
  | quiet unrefused quiet => exact .of_isQuiet unrefused quiet
  | collect endpoint known asks =>
    refine .of_manager (by rw [known]) fun drives => ?_
    rw [known] at drives
    exact absurd drives (not_asks_of_collects asks)
  | record known collects => exact .of_write (by rw [known]) (.refreshed ⟨_, collects⟩)

/-- What may be asked when the run is executed is lawful. -/
theorem Executing.lawful (executing : Executing run past question) : Lawful run past question := by
  cases executing with
  | quiet unrefused quiet => exact .of_isQuiet unrefused quiet
  | reject time known faulty => exact .of_write (by rw [known]) (.rejected _ time)
  | claim known => exact .of_claim (by rw [known]) (by rw [known])
  | start time known starts => exact .of_write (by rw [known]) (.running _ time)
  | drive endpoint known starts asks =>
    exact .of_manager (by rw [known]; rfl) fun _ => by rw [known]; rfl
  | collect endpoint known starts drives asks =>
    exact .of_manager (by rw [known]; rfl) fun _ => by rw [known]; rfl
  | finish known starts drives ends => exact .of_write (by rw [known]; rfl) ends.writes
  | release unrefused claimed => exact .of_release unrefused claimed

/-- What may be asked for a task is lawful, whichever the task. -/
theorem Undertaking.lawful {task : Task} (undertaking : Undertaking run task past question) :
    Lawful run past question := by
  cases task with
  | finalize => exact Finalizing.lawful undertaking
  | refresh => exact Refreshing.lawful undertaking
  | execute => exact Executing.lawful undertaking

/-- Only the finalizers of a run are patched, and only where they are seen to. -/
theorem Undertaking.patching {task : Task} {target other : String} {patch : Json}
    (undertaking : Undertaking run task past (.store (.patchRun target other patch))) :
    task = .finalize ∧ ∃ finalizers, patch = StoreRequest.finalizersPatch finalizers := by
  cases task with
  | finalize =>
    rcases undertaking with ⟨_, quiet⟩ | ⟨finalizers, _⟩
    · cases quiet
    · exact ⟨rfl, finalizers, rfl⟩
  | refresh | execute =>
    cases undertaking with
    | quiet _ quiet => cases quiet

end Undertaking

/-- What the ledger can look like when the execution of a run is over. -/
inductive Ending (run : RunObject) (ledger : Ledger) : Prop where
  /-- A status was not written. -/
  | spoilt (unwritten : ledger.lost = true ∨ ¬ CanWrite run)
  /-- The spec was rejected. -/
  | rejected (faulty : run.fault?.isSome = true) (phase : ledger.lastPhase? = some .failed)
      (idle : ledger.managed = [])
  /-- The execution never got as far as the upgrade. -/
  | unstarted (sound : run.fault? = none) (unwritten : ledger.written = [])
      (idle : ledger.managed = [])
  /-- The upgrade was stopped. -/
  | cancelled (sound : run.fault? = none) (phase : ledger.lastPhase? = some .running)
      {component : Option Component}
      (driven : Converses run.driver ledger.managed (.error (.cancelled component)))
  /-- The upgrade ended by itself. -/
  | ended (sound : run.fault? = none) {driven collecting : Session.History}
      {result : Except Failure Report} (managed : ledger.managed = driven ++ collecting)
      (ends : Converses run.driver driven result)
      (uncancelled : ∀ component, result ≠ .error (.cancelled component))
      (phase : ledger.lastPhase? = some (.ofEnd result))

/-- How far the execution of a run came, and what was written where the upgrade ended by itself. -/
inductive Balanced (run : RunObject) (ledger : Ledger) : Prop where
  /-- Nothing was said at the manager. -/
  | unstarted (idle : ledger.managed = [])
  /-- The upgrade was stopped. -/
  | cancelled {runId began : String} {component : Option Component}
      (driven : Converses run.driver ledger.managed (.error (.cancelled component)))
      (written : ledger.written = [run.runningStatus runId began])
  /-- The upgrade ended by itself, and the outputs were collected or not. -/
  | recorded {runId began time : String} {driven collecting : Session.History}
      {result : Except Failure Report} {outcome : Except Failure Outputs}
      (drives : run.Drives driven result)
      (collects : Converses Outputs.collect.run collecting outcome)
      (managed : ledger.managed = driven ++ collecting)
      (written : ledger.written = [run.runningStatus runId began,
        run.closingStatus (run.runningStatus runId began) result time outcome])

end Reconcile

end FabricUpgrade
