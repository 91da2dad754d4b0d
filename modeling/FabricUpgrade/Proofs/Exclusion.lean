import FabricUpgrade.Proofs.Holders
import FabricUpgrade.Proofs.Reconciling

/-!
# Drivers of one manager

A process reconciles any number of runs at the same time.  Its reconciles are interleaved question
by question, they share the claims, and each may be left at any moment, which gives its claim up.
What holds of every reachable process is that a reconcile drives an upgrade only under its own
claim, and that no two claims have the same key.  Which drivers exclude each other is therefore
decided by the keys of their URLs.
-/

namespace FabricUpgrade

open Program

namespace Reconcile

/-- A reconcile on its way. -/
structure Worker where
  run : RunObject
  past : History
  rest : Reconcile (Except ReconcileError Action)

namespace Worker

/-- The URL whose manager the reconcile has claimed. -/
def claim (worker : Worker) : Option String :=
  (Ledger.ofHistory worker.past).claim

/-- The reconcile is at a question of the upgrade that it drives. -/
def Driving (worker : Worker) : Prop :=
  ∃ endpoint asked resume, worker.rest = .ask (.manager endpoint asked) resume ∧
    Asks worker.run.driver (Ledger.ofHistory worker.past).managed asked

end Worker

/-- The reconciles of a process and the claims that they share. -/
structure Process where
  claims : Claims := .empty
  workers : Nat → Option Worker := fun _ => none

namespace Process

/-- Puts a reconcile in a place, or takes it out, and changes the claims. -/
def put (process : Process) (place : Nat) (worker : Option Worker) (claims : Claims) : Process where
  claims := claims
  workers other := if other = place then worker else process.workers other

@[simp]
theorem put_workers_same {process : Process} {place : Nat} {worker : Option Worker}
    {claims : Claims} : (process.put place worker claims).workers place = worker :=
  if_pos rfl

@[simp]
theorem put_workers_other {process : Process} {place other : Nat} {worker : Option Worker}
    {claims : Claims} (there : other ≠ place) :
    (process.put place worker claims).workers other = process.workers other :=
  if_neg there

/-- How the claims of a process answer a question and what becomes of them.  To all other questions
there may be any answer. -/
inductive Answers (claims : Claims) : (asked : Question) → Answer asked → Claims → Prop where
  | granted (url : String) (after : Claims) (free : claims.claim? url = some after) :
      Answers claims (.claim url) true after
  | refused (url : String) (taken : claims.claim? url = none) :
      Answers claims (.claim url) false claims
  | released (url : String) :
      Answers claims (.release url) () (claims.release (Claims.key url))
  | other (asked : Question) (reply : Answer asked) (unclaiming : ∀ url, asked ≠ .claim url)
      (unreleasing : ∀ url, asked ≠ .release url) : Answers claims asked reply claims

/-- A step of one of the reconciles of a process. -/
inductive Step (process : Process) : Process → Prop where
  /-- A reconcile of any run starts in a free place. -/
  | start (place : Nat) (run : RunObject) (free : process.workers place = none) :
      Step process
        (process.put place (some ⟨run, [], (reconcile run {}).run⟩) process.claims)
  /-- The question of a reconcile is answered. -/
  | answer (place : Nat) (run : RunObject) (past : History) {asked : Question}
      {resume : Answer asked → Reconcile (Except ReconcileError Action)}
      (reply : Answer asked) (claims : Claims)
      (working : process.workers place = some ⟨run, past, .ask asked resume⟩)
      (answers : Answers process.claims asked reply claims) :
      Step process (process.put place (some ⟨run, past ++ [⟨asked, reply⟩], resume reply⟩) claims)
  /-- A reconcile is left, finished or not, and its claim is given up. -/
  | leave (place : Nat) (worker : Worker) (working : process.workers place = some worker) :
      Step process (process.put place none
        (worker.claim.elim process.claims fun url => process.claims.release (Claims.key url)))

/-- The processes that there can be, beginning with no reconcile and no claim. -/
inductive Reachable : Process → Prop where
  | idle : Reachable {}
  | step {before after : Process} (reachable : Reachable before) (step : Step before after) :
      Reachable after

/-- What holds of every reachable process. -/
structure Sound (process : Process) : Prop where
  /-- Each reconcile is a beginning of a conversation of its run. -/
  begun : ∀ place worker, process.workers place = some worker →
    Reaches (reconcile worker.run {}).run worker.past worker.rest
  /-- The key of each claim is taken. -/
  taken : ∀ place worker url, process.workers place = some worker → worker.claim = some url →
    Claims.key url ∈ process.claims.keys
  /-- Different reconciles have claims with different keys. -/
  apart : ∀ first second left right url other, first ≠ second →
    process.workers first = some left → process.workers second = some right →
    left.claim = some url → right.claim = some other → Claims.key url ≠ Claims.key other

variable {process before after : Process}

-- A reconcile is known by what it obeys; to compute it would be to compute on texts.
attribute [local irreducible] reconcile

/-- What a step has to show: that the claims of the reconcile it is about, and of all others, are
taken, and that they are apart. -/
theorem Sound.put (sound : Sound process) {place : Nat} {worker : Option Worker} {claims : Claims}
    (begun : ∀ moved ∈ worker, Reaches (reconcile moved.run {}).run moved.past moved.rest)
    (taken : ∀ moved ∈ worker, ∀ url, moved.claim = some url → Claims.key url ∈ claims.keys)
    (others : ∀ other standing url, other ≠ place → process.workers other = some standing →
      standing.claim = some url → Claims.key url ∈ claims.keys ∧
        ∀ moved ∈ worker, ∀ own, moved.claim = some own → Claims.key own ≠ Claims.key url) :
    Sound (process.put place worker claims) := by
  refine ⟨fun other standing working => ?_, fun other standing url working claimed => ?_, ?_⟩
  · by_cases here : other = place
    · subst here
      exact begun standing (by simpa using working)
    · exact sound.begun other standing (by simpa [here] using working)
  · by_cases here : other = place
    · subst here
      exact taken standing (by simpa using working) url claimed
    · exact (others other standing url here (by simpa [here] using working) claimed).1
  · intro first second left right url other different leftWorks rightWorks leftClaims rightClaims
    by_cases leftHere : first = place
    · subst leftHere
      rw [put_workers_same] at leftWorks
      rw [put_workers_other different.symm] at rightWorks
      exact (others second right other different.symm rightWorks rightClaims).2 left leftWorks url
        leftClaims
    · rw [put_workers_other leftHere] at leftWorks
      by_cases rightHere : second = place
      · subst rightHere
        rw [put_workers_same] at rightWorks
        exact ((others first left url leftHere leftWorks leftClaims).2 right rightWorks other
          rightClaims).symm
      · rw [put_workers_other rightHere] at rightWorks
        exact sound.apart first second left right url other different leftWorks rightWorks
          leftClaims rightClaims

/-- Only claims and releases change what a reconcile has claimed. -/
theorem claim_enter {ledger : Ledger} {asked : Question} {reply : Answer asked}
    (unclaiming : ∀ url, asked ≠ .claim url) (unreleasing : ∀ url, asked ≠ .release url) :
    (ledger.enter ⟨asked, reply⟩).claim = ledger.claim := by
  cases asked with
  | store request => cases request <;> rfl
  | claim url => exact absurd rfl (unclaiming url)
  | release url => exact absurd rfl (unreleasing url)
  | manager _ _ | buildClient _ | newRunId | timestamp | clock | measure _ | forgetFailures _ => rfl

/-- The claims of the other reconciles stay as they are when a claim of this one is given up. -/
theorem Sound.released (sound : Sound process) {place : Nat} {worker : Worker} {url : String}
    (working : process.workers place = some worker) (claimed : worker.claim = some url) :
    ∀ other standing own, other ≠ place → process.workers other = some standing →
      standing.claim = some own →
      Claims.key own ∈ (process.claims.release (Claims.key url)).keys := by
  intro other standing own there stands owns
  exact Claims.mem_keys_release.2 ⟨sound.taken other standing own stands owns,
    sound.apart other place standing worker own url there stands working owns claimed⟩

/-- A process stays sound when a reconcile starts, which holds no claim yet. -/
theorem Sound.start (sound : Sound process) {place : Nat} (run : RunObject) :
    Sound (process.put place (some ⟨run, [], (reconcile run {}).run⟩) process.claims) := by
  refine sound.put ?_ ?_ fun other standing url _ stands claims =>
    ⟨sound.taken other standing url stands claims, ?_⟩
  · rintro _ ⟨⟩
    exact .here _
  · rintro _ ⟨⟩ url claimed
    cases claimed
  · rintro _ ⟨⟩ url claimed
    cases claimed

/-- A process stays sound when a worker leaves, whose claim is given up. -/
theorem Sound.leave (sound : Sound process) {place : Nat} {worker : Worker}
    (working : process.workers place = some worker) :
    Sound (process.put place none
      (worker.claim.elim process.claims fun url => process.claims.release (Claims.key url))) := by
  refine sound.put (by simp) (by simp) fun other standing url there stands claims =>
    ⟨?_, by simp⟩
  cases claimed : worker.claim with
  | none => exact sound.taken other standing url stands claims
  | some own => exact sound.released working claimed other standing url there stands claims

/-- A reconcile that keeps its claim leaves all claims as they are. -/
theorem Sound.move (sound : Sound process) {place : Nat} {worker moved : Worker}
    (working : process.workers place = some worker)
    (begun : Reaches (reconcile moved.run {}).run moved.past moved.rest)
    (same : moved.claim = worker.claim) :
    Sound (process.put place (some moved) process.claims) := by
  refine sound.put ?_ ?_ fun other standing own there stands owns => ⟨?_, ?_⟩
  · rintro _ ⟨⟩
    exact begun
  · rintro _ ⟨⟩ url claimed
    exact sound.taken place worker url working (same ▸ claimed)
  · exact sound.taken other standing own stands owns
  · rintro _ ⟨⟩ url claimed
    exact sound.apart place other worker standing url own (Ne.symm there) working stands
      (same ▸ claimed) owns

/-- A process stays sound when a question is answered, also one about claims. -/
theorem Sound.answer (sound : Sound process) {place : Nat} {run : RunObject} {past : History}
    {asked : Question} {resume : Answer asked → Reconcile (Except ReconcileError Action)}
    {reply : Answer asked} {claims : Claims}
    (working : process.workers place = some ⟨run, past, .ask asked resume⟩)
    (answers : Answers process.claims asked reply claims) :
    Sound (process.put place (some ⟨run, past ++ [⟨asked, reply⟩], resume reply⟩) claims) := by
  have begun := sound.begun place _ working
  have lawful : Lawful run past asked :=
    (reconcile_obeys Ledger.ofHistory_nil).permits ⟨resume, begun⟩
  have moved : (Worker.mk run (past ++ [⟨asked, reply⟩]) (resume reply)).claim =
      ((Ledger.ofHistory past).enter ⟨asked, reply⟩).claim := by
    simp [Worker.claim]
  cases answers with
  | granted url after free =>
    obtain ⟨new, keys⟩ := Claims.claim?_eq_some_iff.1 free
    refine sound.put ?_ ?_ fun other standing own there stands owns => ⟨?_, ?_⟩
    · rintro _ ⟨⟩
      exact begun.answered _
    · rintro _ ⟨⟩ own claimed
      rw [moved] at claimed
      obtain rfl : url = own := Option.some.inj claimed
      simp [keys]
    · rw [keys]
      exact List.mem_cons_of_mem _ (sound.taken other standing own stands owns)
    · rintro _ ⟨⟩ mine claimed same
      rw [moved] at claimed
      obtain rfl : url = mine := Option.some.inj claimed
      rw [same] at new
      exact new (sound.taken other standing own stands owns)
  | refused url taken => exact sound.move working (begun.answered _) moved
  | released url =>
    have claimed : (Worker.mk run past (.ask (.release url) resume)).claim = some url :=
      lawful.releasing url rfl
    refine sound.put ?_ ?_ fun other standing own there stands owns => ⟨?_, ?_⟩
    · rintro _ ⟨⟩
      exact begun.answered _
    · rintro _ ⟨⟩ own owns
      rw [moved] at owns
      cases owns
    · exact sound.released working claimed other standing own there stands owns
    · rintro _ ⟨⟩ own mine
      rw [moved] at mine
      cases mine
  | other _ _ unclaiming unreleasing =>
    exact sound.move working (begun.answered _)
      (moved.trans (claim_enter unclaiming unreleasing))

/-- Soundness is kept by every step. -/
theorem sound_of_step (sound : Sound before) (step : Step before after) : Sound after := by
  cases step with
  | start place run free => exact sound.start run
  | answer place run past reply claims working answers => exact sound.answer working answers
  | leave place worker working => exact sound.leave working

/-- Every process that can be reached is sound. -/
theorem sound_of_reachable (reachable : Reachable process) : Sound process := by
  induction reachable with
  | idle => exact ⟨by simp, by simp, by simp⟩
  | step _ step inductionHypothesis => exact sound_of_step inductionHypothesis step

/-- A reconcile drives the upgrade under a claim of its own. -/
theorem Sound.claimed (sound : Sound process) {place : Nat} {worker : Worker}
    (working : process.workers place = some worker) (driving : worker.Driving) :
    worker.claim = some worker.run.spec.manager.url := by
  obtain ⟨endpoint, asked, resume, rest, drives⟩ := driving
  have begun := sound.begun place worker working
  rw [rest] at begun
  have lawful : Lawful worker.run worker.past (.manager endpoint asked) :=
    (reconcile_obeys Ledger.ofHistory_nil).permits ⟨resume, begun⟩
  exact lawful.managing endpoint asked rfl drives

/-- Two reconciles that drive an upgrade at the same time have claimed different keys. -/
theorem key_ne_of_driving (reachable : Reachable process) {first second : Nat} {left right : Worker}
    (different : first ≠ second) (leftWorks : process.workers first = some left)
    (rightWorks : process.workers second = some right) (leftDrives : left.Driving)
    (rightDrives : right.Driving) :
    Claims.key left.run.spec.manager.url ≠ Claims.key right.run.spec.manager.url :=
  (sound_of_reachable reachable).apart first second left right _ _ different leftWorks rightWorks
    ((sound_of_reachable reachable).claimed leftWorks leftDrives)
    ((sound_of_reachable reachable).claimed rightWorks rightDrives)

/-- A reconcile whose claim was refused is over, and it has neither written a status nor said
anything at a manager. -/
theorem over_of_refused (reachable : Reachable process) {place : Nat} {worker : Worker}
    (working : process.workers place = some worker)
    (refused : (Ledger.ofHistory worker.past).refused = true) :
    worker.rest = .done (.error (.runInProgress worker.run.spec.manager.url)) ∧
      (Ledger.ofHistory worker.past).written = [] ∧
      (Ledger.ofHistory worker.past).managed = [] := by
  have begun := (sound_of_reachable reachable).begun place worker working
  have obeys : worker.rest.Obeys (Lawful worker.run)
      (fun after result => Yielded worker.run (Ledger.ofHistory after) result) worker.past :=
    (reconcile_obeys Ledger.ofHistory_nil).reaches begun
  cases rest : worker.rest with
  | done result =>
    rw [rest] at obeys
    obtain ⟨ended, unwritten, unsaid⟩ := obeys.refused refused
    exact ⟨congrArg _ ended, unwritten, unsaid⟩
  | ask asked resume =>
    rw [rest] at obeys
    simp [obeys.1.unrefused] at refused

end Process

end Reconcile

end FabricUpgrade
