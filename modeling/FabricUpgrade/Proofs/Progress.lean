import FabricUpgrade.Proofs.Outcome

/-!
# How far an execution has come

At every moment of an execution its ledger says how far it has come: `Reconcile.Progress` has one
case for each point that can be told apart, and each question that the rule of executions permits
leads from one of them to another.  When the run was rejected, when its upgrade was stopped and when
its end was asked to be written the execution is closed: nothing more is written, and nothing more is
said at the manager.
-/

namespace FabricUpgrade

open Program

namespace Reconcile

/-- How far an execution of the run has come. -/
inductive Progress (run : RunObject) (ledger : Ledger) : Prop where
  /-- Nothing was asked to be written. -/
  | opening (written : ledger.written = []) (unsaid : ledger.managed = [])
      (kept : ledger.lost = false)
  /-- The run was rejected. -/
  | rejected {fault : SpecFault} {time : String}
      (written : ledger.written = [run.rejectedStatus fault time]) (unsaid : ledger.managed = [])
  /-- The start of the run was not written. -/
  | unstarted {runId time : String} (written : ledger.written = [run.runningStatus runId time])
      (unsaid : ledger.managed = []) (lost : ledger.lost = true)
  /-- The upgrade is driven, or it was driven to its end or stopped. -/
  | driving {runId time : String} {rest : Session (Except Failure Report)}
      (starts : run.Starts runId) (written : ledger.written = [run.runningStatus runId time])
      (begun : Reaches run.driver ledger.managed rest) (kept : ledger.lost = false)
  /-- The outputs are collected after the upgrade. -/
  | collecting {runId time : String} {driven said : Session.History}
      {result : Except Failure Report} (written : ledger.written = [run.runningStatus runId time])
      (managed : ledger.managed = driven ++ said) (drives : run.Drives driven result)
  /-- The end of the upgrade was asked to be written. -/
  | finished {runId time : String} {status : RunStatus} {driven said : Session.History}
      {result : Except Failure Report}
      (written : ledger.written = [run.runningStatus runId time, status])
      (managed : ledger.managed = driven ++ said) (drives : run.Drives driven result)

section Progress

variable {run : RunObject} {past : History} {ledger before after : Ledger}

/-- How far an execution has come has nothing to do with the claim. -/
theorem Progress.congr (progress : Progress run before) (written : after.written = before.written)
    (managed : after.managed = before.managed) (lost : after.lost = before.lost) :
    Progress run after := by
  cases progress with
  | opening wrote unsaid kept =>
    exact .opening (written.trans wrote) (managed.trans unsaid) (lost.trans kept)
  | rejected wrote unsaid => exact .rejected (written.trans wrote) (managed.trans unsaid)
  | unstarted wrote unsaid gone =>
    exact .unstarted (written.trans wrote) (managed.trans unsaid) (lost.trans gone)
  | driving starts wrote begun kept =>
    exact .driving starts (written.trans wrote) (managed ▸ begun) (lost.trans kept)
  | collecting wrote said drives =>
    exact .collecting (written.trans wrote) (managed.trans said) drives
  | finished wrote said drives => exact .finished (written.trans wrote) (managed.trans said) drives

/-- Each question of an execution leads from one point of it to another. -/
theorem Progress.snoc {exchange : Exchange Question Answer}
    (progress : Progress run (Ledger.ofHistory past))
    (executing : Executing run past exchange.question) :
    Progress run (Ledger.ofHistory (past ++ [exchange])) := by
  obtain ⟨asked, answer⟩ := exchange
  rw [Ledger.ofHistory_snoc]
  cases executing with
  | quiet _ quiet =>
    rw [Ledger.enter_of_isQuiet quiet]
    exact progress
  | reject time known _ =>
    rw [known]
    exact .rejected rfl rfl
  | claim known =>
    rw [known]
    cases answer <;> exact .opening rfl rfl rfl
  | @start runId time known starts =>
    rw [known]
    cases written : isWritten answer with
    | true => exact .driving starts rfl (.here _) (by simp [Ledger.enter, written])
    | false => exact .unstarted rfl rfl (by simp [Ledger.enter, written])
  | drive endpoint known starts asks =>
    obtain ⟨resume, begun⟩ := asks
    rw [known]
    exact .driving starts rfl (begun.answered answer) rfl
  | collect endpoint known starts drives _ =>
    rw [known]
    exact .collecting rfl (List.append_assoc _ _ _) drives
  | finish known starts drives _ =>
    rw [known]
    exact .finished rfl rfl drives
  | release _ _ => exact progress.congr rfl rfl rfl

/-- Where an upgrade was stopped, the start of its run was written, and nothing after it. -/
theorem Progress.of_cancelled {driven : Session.History} {component : Option Component}
    (progress : Progress run ledger)
    (drove : Drove run ledger driven (.error (.cancelled component))) :
    ∃ runId time, run.Starts runId ∧ ledger.written = [run.runningStatus runId time] ∧
      ledger.lost = false := by
  have lasting : ∀ {other said result}, ledger.managed = other ++ said →
      run.Drives other result → False := fun managed drives =>
    drives.uncancelled component (Drove.unique ⟨drives.ends, _, managed⟩ drove).2
  cases progress with
  | opening _ unsaid _ | rejected _ unsaid | unstarted _ unsaid _ => exact absurd unsaid drove.said
  | driving starts written _ kept => exact ⟨_, _, starts, written, kept⟩
  | collecting _ managed drives | finished _ managed drives => exact (lasting managed drives).elim

/-- Nothing more is written, and nothing more is said at the manager. -/
inductive Closed (run : RunObject) (ledger : Ledger) : Prop where
  | rejected {fault : SpecFault} {time : String}
      (written : ledger.written = [run.rejectedStatus fault time])
  | cancelled {driven : Session.History} {component : Option Component}
      (drove : Drove run ledger driven (.error (.cancelled component)))
  | finished {runId time : String} {status : RunStatus}
      (written : ledger.written = [run.runningStatus runId time, status])

/-- Something was written or said where an execution is closed. -/
theorem Closed.begun (closed : Closed run ledger) : ledger.written ≠ [] ∨ ledger.managed ≠ [] := by
  cases closed with
  | rejected written => exact .inl (by simp [written])
  | cancelled drove => exact .inr drove.said
  | finished written => exact .inl (by simp [written])

/-- The upgrade of a closed execution is over, and it was stopped if its end was not written. -/
theorem Closed.of_underway {runId time : String} {managed : Session.History}
    (closed : Closed run (.underway run runId time managed)) :
    ∃ driven component, Drove run (.underway run runId time managed) driven
      (.error (.cancelled component)) := by
  cases closed with
  | rejected written =>
    have same := congrArg RunStatus.phase (List.cons.inj written).1
    cases same
  | cancelled drove => exact ⟨_, _, drove⟩
  | finished written => cases (List.cons.inj written).2

/-- A closed execution only tells of what was done and gives its claim up. -/
theorem Closed.settles (closed : Closed run (Ledger.ofHistory past)) {asked : Question}
    (executing : Executing run past asked) : asked.isQuiet = true ∨ ∃ url, asked = .release url := by
  cases executing with
  | quiet _ quiet => exact .inl quiet
  | release _ _ => exact .inr ⟨_, rfl⟩
  | reject _ known _ | claim known | start _ known _ =>
    have begun := closed.begun
    simp [known] at begun
  | drive endpoint known starts asks =>
    rw [known] at closed
    obtain ⟨driven, component, converses, later, managed⟩ := closed.of_underway
    obtain ⟨resume, begun⟩ := asks
    obtain rfl : _ = driven ++ later := managed
    -- An upgrade that was stopped has nothing more to ask.
    cases ((converses_iff_reaches_done.1 converses).resumed begun).of_done.2
  | collect _ known _ drives _ | finish known _ drives _ =>
    rw [known] at closed
    obtain ⟨driven, component, drove⟩ := closed.of_underway
    exact (drives.uncancelled component (Drove.unique ⟨drives.ends, _, rfl⟩ drove).2).elim

/-- An execution that is closed stays closed. -/
theorem Closed.snoc (closed : Closed run (Ledger.ofHistory past))
    {exchange : Exchange Question Answer} (executing : Executing run past exchange.question) :
    Closed run (Ledger.ofHistory (past ++ [exchange])) := by
  obtain ⟨asked, answer⟩ := exchange
  rw [Ledger.ofHistory_snoc]
  rcases closed.settles executing with quiet | ⟨url, rfl⟩
  · rw [Ledger.enter_of_isQuiet quiet]
    exact closed
  · cases closed with
    | rejected written => exact .rejected written
    | cancelled drove => exact .cancelled drove
    | finished written => exact .finished written

end Progress

end Reconcile

end FabricUpgrade
