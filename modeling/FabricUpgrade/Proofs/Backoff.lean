import FabricUpgrade.Proofs.Endings
import FabricUpgrade.Proofs.Outcome
import FabricUpgrade.Proofs.PlainRun

/-!
# How long a failed reconcile waits

A resource that fails again and again waits longer and longer.  What is counted are its retried
failures since its last reconcile that ended well and forgot them, which is every one that ended
well but those that put the operator's finalizer in.  So the wait is the one that the failures since
the last good end ask for, unless such a reconcile lies in between; from the sixth failure on the
wait does not grow any more, and then it does not matter.
-/

namespace FabricUpgrade

open Program

/-- An error about an object that is gone is not retried. -/
theorem ReconcileError.isRetryable_of_isNotFound {error : ReconcileError}
    (missing : error.isNotFound = true) : error.isRetryable = false := by
  cases error with
  | store error =>
    obtain rfl : error = .api 404 := by simpa [isNotFound, StoreError.isNotFound] using missing
    rfl
  | upgrade _ | missingField _ | validation _ | runInProgress _ | transient _ | permanent _ =>
    cases missing

namespace Retries

variable {retries : Retries} {resource other : String} {count : Nat}

/-- What was filtered out is not found. -/
theorem lookup_filter_same (entries : List (String × Nat)) :
    (entries.filter fun entry => entry.1 ≠ resource).lookup resource = none := by
  simpa [List.lookup_eq_none_iff] using
    fun (key : String) (count : Nat) (_ : (key, count) ∈ entries) => Ne.symm (a := key)

/-- Everything else is found as before. -/
theorem lookup_filter_other (entries : List (String × Nat)) (differs : other ≠ resource) :
    (entries.filter fun entry => entry.1 ≠ resource).lookup other = entries.lookup other := by
  induction entries with
  | nil => rfl
  | cons entry rest inductionHypothesis =>
    obtain ⟨key, count⟩ := entry
    by_cases removed : key = resource
    · have elsewhere : (other == key) = false := beq_eq_false_iff_ne.2 (removed ▸ differs)
      rw [List.filter_cons_of_neg (by simpa using removed), List.lookup_cons, elsewhere]
      exact inductionHypothesis
    · rw [List.filter_cons_of_pos (by simpa using removed), List.lookup_cons, List.lookup_cons,
        inductionHypothesis]

/-- After a reset no failures of the resource are counted. -/
@[simp]
theorem count_reset_same : (retries.reset resource).count resource = 0 := by
  rw [count, reset, lookup_filter_same]
  rfl

/-- A reset leaves the counts of the other resources as they are. -/
@[simp]
theorem count_reset_other (differs : other ≠ resource) :
    (retries.reset resource).count other = retries.count other := by
  rw [count, reset, lookup_filter_other _ differs]
  rfl

/-- A failure adds one to the count of its resource, up to a greatest count. -/
@[simp]
theorem count_recordFailure_same :
    (retries.recordFailure resource).count resource =
      min (retries.count resource + 1) greatest := by
  rw [count, recordFailure, List.lookup_cons_self]
  rfl

/-- A failure leaves the counts of the other resources as they are. -/
@[simp]
theorem count_recordFailure_other (differs : other ≠ resource) :
    (retries.recordFailure resource).count other = retries.count other := by
  have elsewhere : (other == resource) = false := beq_eq_false_iff_ne.2 differs
  have same : (retries.reset resource).count other = retries.count other :=
    count_reset_other differs
  rw [← same, count, recordFailure, List.lookup_cons, elsewhere]
  rfl

/-- Where namespaces have no slash in them, the key of a resource tells it from all others. -/
theorem key_injective {space otherSpace name otherName : String} (plain : '/' ∉ space.toList)
    (plainToo : '/' ∉ otherSpace.toList) (same : key space name = key otherSpace otherName) :
    space = otherSpace ∧ name = otherName := by
  have cut : ∀ (text rest : List Char), '/' ∉ text →
      (text ++ '/' :: rest).takeWhile (· ≠ '/') = text := by
    intro text rest plain
    have kept : ∀ letter ∈ text, decide (letter ≠ '/') = true := by
      intro letter member
      simpa using fun isSlash : letter = '/' => plain (isSlash ▸ member)
    rw [List.takeWhile_append_of_pos kept]
    simp
  have texts : space.toList ++ '/' :: name.toList =
      otherSpace.toList ++ '/' :: otherName.toList := by
    have lists : (space ++ "/" ++ name).toList = (otherSpace ++ "/" ++ otherName).toList :=
      congrArg String.toList same
    simpa using lists
  have spaces : space.toList = otherSpace.toList := by
    rw [← cut _ name.toList plain, texts, cut _ _ plainToo]
  rw [spaces] at texts
  have names : name.toList = otherName.toList := by simpa using texts
  exact ⟨String.toList_inj.1 spaces, String.toList_inj.1 names⟩

/-- The seconds that a failure waits that so many others came before. -/
def delay (failures : Nat) : Nat :=
  min ReconcileError.longestDelay (5 * Nat.pow 2 failures)

/-- From the sixth failure on the delay is the longest one. -/
theorem delay_of_le {failures : Nat} (many : 6 ≤ failures) : delay failures = 300 := by
  have power : Nat.pow 2 6 ≤ Nat.pow 2 failures := Nat.pow_le_pow_right (by decide) many
  have sixtyFour : Nat.pow 2 6 = 64 := rfl
  simp only [delay, ReconcileError.longestDelay]
  omega

/-- The powers of two below the longest delay are small. -/
theorem pow_le_of_lt {failures : Nat} (few : failures < 6) : Nat.pow 2 failures ≤ 32 :=
  Nat.pow_le_pow_right (by decide) (Nat.le_of_lt_succ few : failures ≤ 5)

/-- Before that the delay doubles with each failure. -/
theorem delay_of_lt {failures : Nat} (few : failures < 6) :
    delay failures = 5 * Nat.pow 2 failures := by
  have power : Nat.pow 2 failures ≤ 32 := pow_le_of_lt few
  simp only [delay, ReconcileError.longestDelay]
  omega

/-- From the sixth failure on the delay does not grow any more. -/
theorem delay_eq_iff {failures others : Nat} :
    delay failures = delay others ↔ failures = others ∨ 6 ≤ failures ∧ 6 ≤ others := by
  constructor
  · intro same
    rcases Nat.lt_or_ge failures 6 with few | many
    · rcases Nat.lt_or_ge others 6 with fewToo | manyToo
      · rw [delay_of_lt few, delay_of_lt fewToo] at same
        have powers : Nat.pow 2 failures = Nat.pow 2 others := by omega
        exact .inl ((Nat.pow_right_inj (by decide)).1 powers)
      · have power : Nat.pow 2 failures ≤ 32 := pow_le_of_lt few
        rw [delay_of_lt few, delay_of_le manyToo] at same
        omega
    · rcases Nat.lt_or_ge others 6 with fewToo | manyToo
      · have power : Nat.pow 2 others ≤ 32 := pow_le_of_lt fewToo
        rw [delay_of_le many, delay_of_lt fewToo] at same
        omega
      · exact .inr ⟨many, manyToo⟩
  · rintro (rfl | ⟨many, manyToo⟩)
    · rfl
    · rw [delay_of_le many, delay_of_le manyToo]

/-- Neither the greatest number that is counted nor the greatest exponent shows in a delay. -/
theorem delayAfter_min {error : ReconcileError} (retried : error.isRetryable = true)
    (failures : Nat) : error.delayAfter (min failures greatest) = delay failures := by
  have capped : error.delayAfter (min failures greatest) =
      delay (min (min failures greatest) 16) := by
    simp [ReconcileError.delayAfter, retried, delay]
  rw [capped, delay_eq_iff]
  simp only [greatest]
  omega

end Retries

namespace Reconcile

variable {run : RunObject}

instance : Decidable (Adopts run) :=
  inferInstanceAs (Decidable (_ ∧ _))

/-- A reconcile of a stored run from its beginning to its end. -/
structure Attempt where
  run : RunObject
  exchanges : History
  result : Except ReconcileError Action
  converses : Converses (reconcile run {}).run exchanges result
  /-- The store knows no namespace with a slash in its name. -/
  plain : '/' ∉ (space run).toList

namespace Attempt

/-- The namespace and the name of the run. -/
def resource (attempt : Attempt) : String × String :=
  (space attempt.run, name attempt.run)

/-- The key under which the failures of the run are counted. -/
def key (attempt : Attempt) : String :=
  Retries.key (space attempt.run) (name attempt.run)

/-- The reconcile failed in a way that is retried. -/
def isRetried (attempt : Attempt) : Bool :=
  match attempt.result with
  | .ok _ => false
  | .error error => error.isRetryable

/-- The reconcile ended well and did more than to put the finalizer in. -/
def clears (attempt : Attempt) : Bool :=
  attempt.result.isOk && !decide (Adopts attempt.run)

/-- How it goes on after the reconcile, and the failures that are counted then.  An error is settled
after whatever failures the reconcile has forgotten. -/
def settle (attempt : Attempt) (retries : Retries) : Action × Retries :=
  let retries := (forgotten attempt.exchanges).foldl Retries.reset retries
  match attempt.result with
  | .ok action => (action, retries)
  | .error error => retries.answer attempt.key error

/-- The failures that are counted after the attempts. -/
def settleAll (attempts : List Attempt) : Retries :=
  attempts.foldl (fun retries attempt => (attempt.settle retries).2) {}

/-- The attempts at the same resource. -/
def earlier (attempt : Attempt) (attempts : List Attempt) : List Attempt :=
  attempts.filter fun other => other.resource = attempt.resource

/-- The retried failures since the last attempt that ends the count. -/
def failuresSince (ends : Attempt → Bool) (attempts : List Attempt) : Nat :=
  (attempts.reverse.takeWhile fun attempt => !ends attempt).countP isRetried

/-- A retried failure has not been cleared since. -/
def Outstanding (attempts : List Attempt) : Prop :=
  ∃ before failure later, attempts = before ++ failure :: later ∧ failure.isRetried = true ∧
    ∀ other ∈ later, other.clears = false

/-- While a retried failure was outstanding an attempt ended well without clearing it, and none has
cleared it since. -/
def Overcounted (attempts : List Attempt) : Prop :=
  ∃ before adoption later, attempts = before ++ adoption :: later ∧ Outstanding before ∧
    adoption.result.isOk = true ∧ ∀ other ∈ adoption :: later, other.clears = false

section Counting

variable {ends : Attempt → Bool} {attempts : List Attempt} {attempt : Attempt}

/-- An attempt that ends the count leaves nothing counted. -/
theorem failuresSince_ends (ended : ends attempt = true) :
    failuresSince ends (attempts ++ [attempt]) = 0 := by
  simp [failuresSince, ended]

/-- Any other attempt adds to the count if it is retried. -/
theorem failuresSince_goesOn (goesOn : ends attempt = false) :
    failuresSince ends (attempts ++ [attempt]) =
      failuresSince ends attempts + attempt.isRetried.toNat := by
  cases retried : attempt.isRetried <;> simp [failuresSince, goesOn, retried]

/-- What has ended well is not retried. -/
theorem isRetried_of_ok (ended : attempt.result.isOk = true) : attempt.isRetried = false := by
  unfold isRetried
  cases same : attempt.result with
  | ok _ => rfl
  | error _ => simp [same, Except.isOk, Except.toBool] at ended

/-- An attempt that clears the count has ended well. -/
theorem isOk_of_clears (cleared : attempt.clears = true) : attempt.result.isOk = true := by
  simp only [clears, Bool.and_eq_true] at cleared
  exact cleared.1

/-- Where a list that ends in an element is cut, the element is at the cut or behind it. -/
theorem snoc_eq_iff {before later : List Attempt} {other : Attempt} :
    attempts ++ [attempt] = before ++ other :: later ↔
      (attempts = before ∧ attempt = other ∧ later = []) ∨
        ∃ rest, later = rest ++ [attempt] ∧ attempts = before ++ other :: rest := by
  constructor
  · intro same
    rcases List.eq_nil_or_concat later with rfl | ⟨rest, last, rfl⟩
    · obtain ⟨front, back⟩ := List.append_inj' same rfl
      exact .inl ⟨front, List.singleton_inj.1 back, rfl⟩
    · rw [List.concat_eq_append] at same ⊢
      have regrouped : attempts ++ [attempt] = (before ++ other :: rest) ++ [last] := by
        simpa using same
      obtain ⟨front, back⟩ := List.append_inj' regrouped rfl
      obtain rfl := List.singleton_inj.1 back
      exact .inr ⟨rest, rfl, front⟩
  · rintro (⟨rfl, rfl, rfl⟩ | ⟨rest, rfl, rfl⟩)
    · rfl
    · simp

/-- A failure is outstanding after one attempt more if that is one, or if it does not clear the one
before. -/
theorem outstanding_snoc : Outstanding (attempts ++ [attempt]) ↔
    attempt.isRetried = true ∨ attempt.clears = false ∧ Outstanding attempts := by
  constructor
  · rintro ⟨before, failure, later, same, retried, uncleared⟩
    rcases snoc_eq_iff.1 same with ⟨rfl, rfl, rfl⟩ | ⟨rest, rfl, rfl⟩
    · exact .inl retried
    · exact .inr ⟨uncleared _ (by simp), before, failure, rest, rfl, retried,
        fun other member => uncleared other (by simp [member])⟩
  · rintro (retried | ⟨cleared, before, failure, later, rfl, retried, uncleared⟩)
    · exact ⟨attempts, attempt, [], rfl, retried, by simp⟩
    · refine ⟨before, failure, later ++ [attempt], by simp, retried, ?_⟩
      intro other member
      rcases List.mem_append.1 member with member | member
      · exact uncleared other member
      · exact List.mem_singleton.1 member ▸ cleared

/-- The count is too high after one attempt more if it does not clear the count, and has ended well
over an outstanding failure or came after such an attempt. -/
theorem overcounted_snoc : Overcounted (attempts ++ [attempt]) ↔ attempt.clears = false ∧
    (attempt.result.isOk = true ∧ Outstanding attempts ∨ Overcounted attempts) := by
  constructor
  · rintro ⟨before, adoption, later, same, outstanding, ended, uncleared⟩
    rcases snoc_eq_iff.1 same with ⟨rfl, rfl, rfl⟩ | ⟨rest, rfl, rfl⟩
    · exact ⟨uncleared _ (by simp), .inl ⟨ended, outstanding⟩⟩
    · refine ⟨uncleared _ (by simp), .inr ⟨before, adoption, rest, rfl, outstanding, ended, ?_⟩⟩
      intro other member
      refine uncleared other ?_
      rcases List.mem_cons.1 member with rfl | member
      · exact List.mem_cons_self
      · exact List.mem_cons_of_mem _ (List.mem_append_left _ member)
  · rintro ⟨cleared, ⟨ended, outstanding⟩ |
      ⟨before, adoption, later, rfl, outstanding, ended, uncleared⟩⟩
    · exact ⟨attempts, attempt, [], rfl, outstanding, ended, by simpa using cleared⟩
    · refine ⟨before, adoption, later ++ [attempt], by simp, outstanding, ended, ?_⟩
      intro other member
      rcases List.mem_append.1 (List.cons_append.symm ▸ member) with member | member
      · exact uncleared other member
      · exact List.mem_singleton.1 member ▸ cleared

/-- A failure is outstanding exactly if some are counted since the last attempt that clears them. -/
theorem outstanding_iff : Outstanding attempts ↔ 0 < failuresSince clears attempts := by
  induction attempts using List.reverseRecOn with
  | nil => simp [Outstanding, failuresSince]
  | append_singleton attempts attempt inductionHypothesis =>
    rw [outstanding_snoc, inductionHypothesis]
    cases cleared : attempt.clears with
    | true => simp [failuresSince_ends, cleared, isRetried_of_ok (isOk_of_clears cleared)]
    | false =>
      rw [failuresSince_goesOn cleared]
      cases attempt.isRetried <;> simp

/-- More failures are counted than came since the last good end exactly where some are
overcounted. -/
theorem overcounted_iff (attempts : List Attempt) :
    failuresSince (fun attempt => attempt.result.isOk) attempts ≤ failuresSince clears attempts ∧
    (Overcounted attempts ↔ failuresSince (fun attempt => attempt.result.isOk) attempts ≠
      failuresSince clears attempts) := by
  induction attempts using List.reverseRecOn with
  | nil => simp [Overcounted, failuresSince]
  | append_singleton attempts attempt inductionHypothesis =>
    obtain ⟨fewer, overcounted⟩ := inductionHypothesis
    rw [overcounted_snoc, overcounted]
    cases cleared : attempt.clears with
    | true =>
      have ended : attempt.result.isOk = true := isOk_of_clears cleared
      rw [failuresSince_ends cleared, failuresSince_ends (by exact ended)]
      simp
    | false =>
      rw [failuresSince_goesOn cleared]
      cases ended : attempt.result.isOk with
      | true =>
        rw [failuresSince_ends (by exact ended), isRetried_of_ok ended, outstanding_iff]
        simp only [Bool.toNat_false, true_and]
        omega
      | false =>
        rw [failuresSince_goesOn (by exact ended)]
        simp only [Bool.false_eq_true, false_and, false_or, true_and]
        omega

end Counting

-- A reconcile is known by how it ends; to compute it would be to compute on texts.
attribute [local irreducible] reconcile

/-- The failures that a reconcile has forgotten are those of its own run, and those only if it has
cleared them. -/
theorem forgotten_eq (attempt : Attempt) :
    forgotten attempt.exchanges = if attempt.clears then [attempt.key] else [] := by
  obtain ⟨run, exchanges, result, converses⟩ := attempt
  have closing : Closing run exchanges result := (reconcile_closes run).concludes converses
  cases closing with
  | failed kept _ => simp [clears, kept, Except.isOk, Except.toBool]
  | adopted adopts kept => simp [clears, adopts, kept]
  | cleared settled cleared =>
    simp [clears, settled, cleared, key, Except.isOk, Except.toBool]

/-- What a reconcile does to the failures that are counted under a key. -/
theorem count_settle (attempt : Attempt) (retries : Retries) (key : String) :
    (attempt.settle retries).2.count key =
      if attempt.key = key then
        if attempt.clears then 0
        else if attempt.isRetried then min (retries.count key + 1) Retries.greatest
        else retries.count key
      else retries.count key := by
  unfold settle
  rw [forgotten_eq]
  cases cleared : attempt.clears with
  | true =>
    obtain ⟨action, ended⟩ : ∃ action, attempt.result = .ok action := by
      cases result : attempt.result with
      | ok action => exact ⟨action, rfl⟩
      | error _ => simp [clears, result, Except.isOk, Except.toBool] at cleared
    simp only [ended, if_true, List.foldl_cons, List.foldl_nil]
    by_cases same : attempt.key = key
    · simp [same]
    · simp [same, Retries.count_reset_other (Ne.symm same)]
  | false =>
    cases result : attempt.result with
    | ok action =>
      have kept : attempt.isRetried = false := isRetried_of_ok (by rw [result]; rfl)
      simp [kept]
    | error error =>
      have retried : attempt.isRetried = error.isRetryable := by simp [isRetried, result]
      by_cases missing : error.isNotFound = true
      · have unretried : error.isRetryable = false :=
          ReconcileError.isRetryable_of_isNotFound missing
        simp [Retries.answer, missing, retried, unretried]
      · cases retryable : error.isRetryable with
        | false => simp [Retries.answer, missing, retried, retryable]
        | true =>
          by_cases same : attempt.key = key
          · subst same
            simp [Retries.answer, missing, retried, retryable]
          · simp [Retries.answer, missing, retryable, same,
              Retries.count_recordFailure_other (Ne.symm same)]

/-- Attempts have the same key exactly if they are at the same resource. -/
theorem key_eq_iff {first second : Attempt} :
    first.key = second.key ↔ first.resource = second.resource := by
  constructor
  · intro same
    obtain ⟨spaces, names⟩ := Retries.key_injective first.plain second.plain same
    exact Prod.ext spaces names
  · intro same
    obtain ⟨spaces, names⟩ := Prod.ext_iff.1 same
    exact congrArg₂ Retries.key spaces names

/-- What is counted for a resource are its retried failures since its last attempt that cleared
them, as far as can be counted. -/
theorem count_settleAll (attempt : Attempt) (attempts : List Attempt) :
    (settleAll attempts).count attempt.key =
      min (failuresSince clears (attempt.earlier attempts)) Retries.greatest := by
  induction attempts using List.reverseRecOn with
  | nil => rfl
  | append_singleton attempts last inductionHypothesis =>
    have step : (settleAll (attempts ++ [last])).count attempt.key =
        (last.settle (settleAll attempts)).2.count attempt.key := by
      simp [settleAll, List.foldl_append]
    rw [step, count_settle, inductionHypothesis]
    by_cases own : last.resource = attempt.resource
    · have listed : attempt.earlier (attempts ++ [last]) = attempt.earlier attempts ++ [last] := by
        simp [earlier, List.filter_append, own]
      rw [listed, if_pos (key_eq_iff.2 own)]
      cases cleared : last.clears with
      | true => simp [failuresSince_ends cleared]
      | false =>
        rw [failuresSince_goesOn cleared]
        cases last.isRetried with
        | false => simp
        | true =>
          simp only [Bool.false_eq_true, if_true, if_false, Bool.toNat_true]
          omega
    · have unlisted : attempt.earlier (attempts ++ [last]) = attempt.earlier attempts := by
        simp [earlier, List.filter_append, own]
      rw [unlisted, if_neg (mt key_eq_iff.1 own)]

/-- Among any attempts at any resources: one that fails because its object is gone waits for a
change, and one that is not retried waits for five minutes.  One that is retried waits for a time
that doubles with the retried failures of its own resource since the last attempt at it that cleared
them.  It is the wait for those since its last attempt that ended well exactly if none are
overcounted or there are six of them. -/
theorem requeue_counts (attempts : List Attempt) {attempt : Attempt} {error : ReconcileError}
    (failed : attempt.result = .error error) :
    (error.isNotFound = true → (attempt.settle (settleAll attempts)).1 = .awaitChange) ∧
    (error.isNotFound = false → error.isRetryable = false →
      (attempt.settle (settleAll attempts)).1 = .requeue 300) ∧
    (error.isRetryable = true →
      (attempt.settle (settleAll attempts)).1 =
        .requeue (min 300 (5 * Nat.pow 2 (failuresSince clears (attempt.earlier attempts)))) ∧
      ((attempt.settle (settleAll attempts)).1 = .requeue (min 300 (5 * Nat.pow 2
          (failuresSince (fun other => other.result.isOk) (attempt.earlier attempts)))) ↔
        ¬ Overcounted (attempt.earlier attempts) ∨
          6 ≤ failuresSince (fun other => other.result.isOk) (attempt.earlier attempts))) := by
  have unforgotten : forgotten attempt.exchanges = [] := by
    rw [forgotten_eq]
    simp [clears, failed, Except.isOk, Except.toBool]
  have settled : attempt.settle (settleAll attempts) =
      (settleAll attempts).answer attempt.key error := by
    simp only [settle, unforgotten, failed, List.foldl_nil]
  rw [settled]
  refine ⟨fun missing => ?_, fun present final => ?_, fun retried => ?_⟩
  · simp [Retries.answer, missing]
  · simp [Retries.answer, present, final, ReconcileError.longestDelay]
  · have present : error.isNotFound = false := by
      by_contra missing
      have final := ReconcileError.isRetryable_of_isNotFound (by simpa using missing)
      simp [final] at retried
    have waits : ((settleAll attempts).answer attempt.key error).1 =
        .requeue (Retries.delay (failuresSince clears (attempt.earlier attempts))) := by
      simp [Retries.answer, present, retried, count_settleAll, Retries.delayAfter_min]
    refine ⟨waits, ?_⟩
    obtain ⟨fewer, overcounted⟩ := overcounted_iff (attempt.earlier attempts)
    rw [waits, overcounted]
    change Action.requeue (Retries.delay _) = Action.requeue (Retries.delay _) ↔ _
    rw [Action.requeue.injEq, Retries.delay_eq_iff]
    omega

/-- What a reconcile is answered while the store does not work. -/
def answerDown : (asked : Question) → Answer asked
  | .store _ => .error (.api 500)
  | asked => answerReconcile asked

/-- The reconcile of a run whose questions are always answered alike. -/
def ofPlay (run : RunObject) (answer : (asked : Question) → Answer asked)
    (plain : '/' ∉ (space run).toList) : Attempt :=
  ⟨run, _, _, converses_play answer _, plain⟩

/-- A reconcile of a plain run, which has the finalizer, while the store does not work. -/
def failing : Attempt :=
  ofPlay (.plain "http://nsx.test") answerDown (by decide)

/-- A reconcile of the same run where the store works and the fabric has been upgraded. -/
def upgrading : Attempt :=
  ofPlay (.plain "http://nsx.test") answerReconcile (by decide)

/-- A reconcile of another run while the store does not work. -/
def failingElsewhere : Attempt :=
  ofPlay { RunObject.plain "http://nsx.test" with
    metadata := { name := some "other", finalizers := some [finalizer] } } answerDown (by decide)

/-- Reconciles of two runs: one fails twice, is upgraded and fails again, and the other one fails in
between. -/
def interleaved : List Attempt :=
  [failing, failingElsewhere, failing, upgrading, failingElsewhere, failing, failingElsewhere]

/-- A reconcile of the same run before it has the finalizer, while the store does not work. -/
def failingBefore : Attempt :=
  ofPlay smallRun answerDown (by decide)

/-- The reconcile that puts the finalizer in. -/
def adopting : Attempt :=
  ofPlay smallRun answerReconcile (by decide)

/-- The reconcile fails with the error of the store. -/
theorem result_failing : failing.result = .error (.store (.api 500)) := by
  decide +kernel

/-- After the upgrade in between the one failure that is outstanding counts, and those of the other
run do not. -/
theorem requeue_counts_failing :
    failing.result = .error (.store (.api 500)) ∧
      upgrading.resource = failing.resource ∧ upgrading.clears = true ∧
      failingElsewhere.resource ≠ failing.resource ∧ failingElsewhere.isRetried = true ∧
      (failing.settle (settleAll interleaved)).1 = .requeue 10 := by
  have cleared : upgrading.resource = failing.resource ∧ upgrading.clears = true := by
    decide +kernel
  have elsewhere : failingElsewhere.resource ≠ failing.resource ∧
      failingElsewhere.isRetried = true := by
    decide +kernel
  have retried : failing.isRetried = true := by
    rw [isRetried, result_failing]
    rfl
  have uncleared : failing.clears = false := by
    rw [clears, result_failing]
    rfl
  -- Of its own reconciles the last one failed, behind the upgrade.
  have own : failing.earlier interleaved = [failing, failing, upgrading] ++ [failing] := by
    simp [earlier, interleaved, cleared.1, elsewhere.1]
  have counted : failuresSince clears (failing.earlier interleaved) = 1 := by
    rw [own, failuresSince_goesOn uncleared, retried]
    exact congrArg (· + 1) (failuresSince_ends cleared.2 : failuresSince clears ([failing, failing] ++ [upgrading]) = 0)
  have waits := ((requeue_counts interleaved result_failing).2.2 rfl).1
  rw [counted] at waits
  exact ⟨result_failing, cleared.1, cleared.2, elsewhere.1, elsewhere.2, waits⟩

/-- A run whose finalizer could not be put in at first and then was: its next failure is the first
one since a reconcile of it that ended well, and it waits ten seconds. -/
theorem not_requeue_consecutive_adopted :
    failing.result = .error (.store (.api 500)) ∧ adopting.result.isOk = true ∧
      adopting.resource = failing.resource ∧
      failuresSince (fun other => other.result.isOk)
        (failing.earlier [failingBefore, adopting]) = 0 ∧
      (failing.settle (settleAll [failingBefore, adopting])).1 = .requeue 10 ∧
      (failing.settle (settleAll [failingBefore, adopting])).1 ≠
        .requeue (min 300 (5 * Nat.pow 2 (failuresSince (fun other => other.result.isOk)
          (failing.earlier [failingBefore, adopting])))) := by
  decide +kernel

end Attempt

end Reconcile

end FabricUpgrade
