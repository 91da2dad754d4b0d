import FabricUpgrade.Proofs.Exclusion
import FabricUpgrade.Proofs.PlainRun

/-!
# Where the claims fail to keep drivers apart

The key of a claim forgets the slashes at the end of a URL and the case of its letters, but not the
blanks around it, which the validation of a spec passes over.  A plain run can always be driven as
long as the key of its URL is free.  So the claims keep the drivers of two URLs of one manager apart
exactly if the URLs have the same key.
-/

namespace FabricUpgrade

open Program

namespace Reconcile

namespace Process

-- A reconcile of a plain run is known by how it begins.
attribute [local irreducible] reconcile

/-- Questions that neither claim nor give up leave the claims as they are. -/
def Unclaiming (asked : Question) : Prop :=
  (∀ url, asked ≠ .claim url) ∧ ∀ url, asked ≠ .release url

/-- What is put last stands at the place. -/
theorem put_put {process : Process} {place : Nat} {first second : Option Worker}
    {claims after : Claims} :
    (process.put place first claims).put place second after = process.put place second after := by
  refine congrArg (Process.mk after) (funext fun other => ?_)
  by_cases here : other = place
  · simp [here]
  · simp [here, put]

/-- To put what is there changes nothing. -/
theorem put_self {process : Process} {place : Nat} {worker : Worker}
    (working : process.workers place = some worker) :
    process.put place (some worker) process.claims = process := by
  refine congrArg (Process.mk process.claims) (funext fun other => ?_)
  by_cases here : other = place
  · simp [here, working]
  · simp [here]

variable {process : Process} {place : Nat} {run : RunObject}

/-- A reconcile may go on alone for as long as it neither claims nor gives up. -/
theorem Reachable.goOn {past exchanges : History}
    {start rest : Reconcile (Except ReconcileError Action)} (reachable : Reachable process)
    (working : process.workers place = some ⟨run, past, start⟩)
    (begun : Reaches start exchanges rest)
    (unclaiming : ∀ exchange ∈ exchanges, Unclaiming exchange.question) :
    Reachable (process.put place (some ⟨run, past ++ exchanges, rest⟩) process.claims) := by
  -- Along the exchanges the same place is put again and again, and only the last time counts.
  induction begun generalizing process past with
  | here _ =>
    rw [List.append_nil, put_self working]
    exact reachable
  | ask reply later inductionHypothesis =>
    obtain ⟨first, others⟩ := List.forall_mem_cons.1 unclaiming
    have step := Step.answer place run past reply process.claims working
      (.other _ reply first.1 first.2)
    have reached := inductionHypothesis (reachable.step step) put_workers_same others
    rw [put_put, List.append_assoc] at reached
    exact reached

/-- A manager that nobody has claimed can be claimed. -/
theorem claim?_of_not_mem {claims : Claims} {url : String}
    (unclaimed : Claims.key url ∉ claims.keys) :
    ∃ after, claims.claim? url = some after ∧ after.keys = Claims.key url :: claims.keys := by
  cases made : claims.claim? url with
  | none => exact absurd (Claims.claim?_eq_none_iff.1 made) unclaimed
  | some after => exact ⟨after, rfl, (Claims.claim?_eq_some_iff.1 made).2⟩

/-- A plain run may begin to be driven in a free place if the key of its URL is free. -/
theorem Reachable.drivePlain {url : String} (reachable : Reachable process) (place : Nat)
    (free : process.workers place = none) (sound : (RunObject.plain url).fault? = none)
    (unclaimed : Claims.key url ∉ process.claims.keys) : ∃ worker claims,
      Reachable (process.put place (some worker) claims) ∧ worker.run = .plain url ∧
      worker.Driving ∧ claims.keys = Claims.key url :: process.claims.keys := by
  obtain ⟨endpoint, resume, begun⟩ := reconcile_plain_reaches sound rfl
  obtain ⟨claims, made, keys⟩ := claim?_of_not_mem unclaimed
  have started := reachable.step (.start place (.plain url) free)
  obtain ⟨timing, atClock, begun⟩ := begun.of_cons
  obtain ⟨claiming, atClaim, begun⟩ := begun.of_cons
  rw [atClock] at started
  -- The claim changes what the reconciles share, so it is answered by itself.
  have told : Answers process.claims .clock (0 : Nat) process.claims :=
    .other _ _ (by simp) (by simp)
  have timed := started.step (.answer place (.plain url) [] _ _ put_workers_same told)
  rw [put_put, atClaim] at timed
  have granted : Answers process.claims (.claim url) true claims := .granted url claims made
  have claimed := timed.step (.answer place (.plain url) _ _ _ put_workers_same granted)
  rw [put_put] at claimed
  have driven := claimed.goOn put_workers_same begun (by simp [plainStart, Unclaiming])
  rw [put_put] at driven
  exact ⟨_, claims, driven, rfl, ⟨endpoint, .stopRequested, resume, rfl, _, .here _⟩, keys⟩

/-- Drivers of two accepted URLs with different keys do not exclude each other. -/
theorem exists_both_driving {first second : RunObject} (accepted : first.fault? = none)
    (acceptedToo : second.fault? = none)
    (different : Claims.key first.spec.manager.url ≠ Claims.key second.spec.manager.url) :
    ∃ process, Reachable process ∧ ∃ left right, process.workers 0 = some left ∧
      process.workers 1 = some right ∧
      left.run.spec.manager.url = first.spec.manager.url ∧
      right.run.spec.manager.url = second.spec.manager.url ∧ left.Driving ∧ right.Driving := by
  have firstFree : Claims.key first.spec.manager.url ∉ Claims.empty.keys := by simp [Claims.empty]
  obtain ⟨left, claims, reachable, leftRun, leftDrives, keys⟩ :=
    Reachable.idle.drivePlain 0 rfl (RunObject.fault?_plain accepted) firstFree
  have secondFree : Claims.key second.spec.manager.url ∉ claims.keys := by
    simp [keys, Claims.empty, different.symm]
  obtain ⟨right, after, reachable, rightRun, rightDrives, -⟩ :=
    reachable.drivePlain 1 rfl (RunObject.fault?_plain acceptedToo) secondFree
  refine ⟨_, reachable, left, right, rfl, rfl, ?_, ?_, leftDrives, rightDrives⟩
  · rw [leftRun]
    rfl
  · rw [rightRun]
    rfl

/-- The URL passes the validation of a spec. -/
def Accepted (url : String) : Prop :=
  ∃ run : RunObject, run.spec.manager.url = url ∧ run.fault? = none

/-- The URLs name one manager: only blanks around them, slashes at the end and the case of letters
tell them apart. -/
def SameManager (url other : String) : Prop :=
  Text.lowerAscii (Text.trimSlashes (Text.trim url)) =
    Text.lowerAscii (Text.trimSlashes (Text.trim other))

/-- Runs with the second URL stand back for a run with the first one. -/
structure Excludes (url other : String) : Prop where
  /-- Their upgrades are never driven at the same time. -/
  apart : ∀ process, Reachable process → ∀ first second left right, first ≠ second →
    process.workers first = some left → process.workers second = some right →
    left.run.spec.manager.url = url → right.run.spec.manager.url = other →
    ¬(left.Driving ∧ right.Driving)
  /-- While the first one is driven, the second one ends with its claim, before it has written a
  status or said anything at a manager. -/
  behind : ∀ process, Reachable process → ∀ first second left run past resume,
    process.workers first = some left → left.run.spec.manager.url = url → left.Driving →
    process.workers second = some ⟨run, past, .ask (.claim other) resume⟩ →
    ∀ reply claims, Answers process.claims (.claim other) reply claims →
      claims = process.claims ∧ resume reply = .done (.error (.runInProgress other)) ∧
        (Ledger.ofHistory past).written = [] ∧ (Ledger.ofHistory past).managed = []

/-- A taken key is not granted again. -/
theorem Answers.refused_of_mem {claims after : Claims} {url : String} {reply : Bool}
    (answers : Answers claims (.claim url) reply after) (taken : Claims.key url ∈ claims.keys) :
    reply = false ∧ after = claims := by
  cases answers with
  | granted _ _ free => exact absurd taken (Claims.claim?_eq_some_iff.1 free).1
  | refused _ _ => exact ⟨rfl, rfl⟩
  | other _ _ unclaiming _ => exact absurd rfl (unclaiming url)

/-- URLs with the same key exclude one another. -/
theorem Excludes.of_key_eq {url other : String} (same : Claims.key url = Claims.key other) :
    Excludes url other where
  apart := by
    rintro process reachable first second left right different leftWorks rightWorks rfl rfl
      ⟨leftDrives, rightDrives⟩
    exact key_ne_of_driving reachable different leftWorks rightWorks leftDrives rightDrives same
  behind := by
    rintro process reachable first second left run past resume leftWorks rfl leftDrives rightWorks
      reply claims answers
    have sound := sound_of_reachable reachable
    have held := sound.taken first left _ leftWorks (sound.claimed leftWorks leftDrives)
    rw [same] at held
    obtain ⟨rfl, rfl⟩ := answers.refused_of_mem held
    have lawful : Lawful run past (.claim other) :=
      (reconcile_obeys Ledger.ofHistory_nil).permits ⟨resume, sound.begun second _ rightWorks⟩
    obtain ⟨rfl, -⟩ := lawful.claiming other rfl
    have answered := reachable.step (.answer second run past _ _ rightWorks answers)
    have entered : Ledger.ofHistory (past ++ [⟨.claim run.spec.manager.url, false⟩]) =
        { Ledger.ofHistory past with refused := true } := Ledger.ofHistory_snoc
    obtain ⟨ended, unwritten, unsaid⟩ :=
      over_of_refused answered put_workers_same (congrArg Ledger.refused entered)
    rw [entered] at unwritten unsaid
    exact ⟨rfl, ended, unwritten, unsaid⟩

/-- URLs of the same manager with nothing around them have the same key. -/
theorem key_eq_of_trimmed {url other : String} (same : SameManager url other)
    (trimmed : Text.trim url = url) (trimmedToo : Text.trim other = other) :
    Claims.key url = Claims.key other := by
  simpa only [SameManager, Claims.key, trimmed, trimmedToo] using same

/-- Runs with accepted URLs of one manager stand back for each other exactly if the URLs have the
same key, which they have if there are no blanks around them. -/
theorem excludes_iff_key_eq {url other : String} (accepted : Accepted url)
    (acceptedToo : Accepted other) (same : SameManager url other) :
    (Excludes url other ↔ Claims.key url = Claims.key other) ∧
      (Text.trim url = url → Text.trim other = other → Excludes url other) := by
  refine ⟨⟨fun excludes => ?_, .of_key_eq⟩,
    fun trimmed trimmedToo => .of_key_eq (key_eq_of_trimmed same trimmed trimmedToo)⟩
  obtain ⟨first, rfl, firstSound⟩ := accepted
  obtain ⟨second, rfl, secondSound⟩ := acceptedToo
  refine Decidable.byContradiction fun different => ?_
  obtain ⟨process, reachable, left, right, leftWorks, rightWorks, leftUrl, rightUrl, driving⟩ :=
    exists_both_driving firstSound secondSound different
  exact excludes.apart process reachable 0 1 left right (by decide) leftWorks rightWorks leftUrl
    rightUrl driving

/-- The slash at the end and the case of the letters do not tell managers apart. -/
theorem excludes_iff_key_eq_slash :
    Accepted "http://nsx.test" ∧ Accepted "http://NSX.test/" ∧
      SameManager "http://nsx.test" "http://NSX.test/" ∧
      Excludes "http://nsx.test" "http://NSX.test/" := by
  have accepted : Accepted "http://nsx.test" := ⟨.plain _, rfl, by decide +kernel⟩
  have acceptedToo : Accepted "http://NSX.test/" := ⟨.plain _, rfl, by decide +kernel⟩
  have same : SameManager "http://nsx.test" "http://NSX.test/" := by
    unfold SameManager
    decide +kernel
  have sameKey : Claims.key "http://nsx.test" = Claims.key "http://NSX.test/" := by
    decide +kernel
  exact ⟨accepted, acceptedToo, same, (excludes_iff_key_eq accepted acceptedToo same).1.2 sameKey⟩

/-- A blank in front of a URL tells one manager apart from itself. -/
theorem not_excludes_blank :
    Accepted "http://nsx.test" ∧ Accepted " http://nsx.test" ∧
      SameManager "http://nsx.test" " http://nsx.test" ∧
      ¬Excludes "http://nsx.test" " http://nsx.test" := by
  have accepted : (RunObject.plain "http://nsx.test").fault? = none := by decide +kernel
  have acceptedToo : (RunObject.plain " http://nsx.test").fault? = none := by decide +kernel
  refine ⟨⟨_, rfl, accepted⟩, ⟨_, rfl, acceptedToo⟩, ?_, fun excludes => ?_⟩
  · unfold SameManager
    decide +kernel
  · have different : Claims.key "http://nsx.test" ≠ Claims.key " http://nsx.test" := by
      decide +kernel
    obtain ⟨process, reachable, left, right, leftWorks, rightWorks, leftUrl, rightUrl, driving⟩ :=
      exists_both_driving accepted acceptedToo different
    exact excludes.apart process reachable 0 1 left right (by decide) leftWorks rightWorks leftUrl
      rightUrl driving

end Process

end Reconcile

end FabricUpgrade
