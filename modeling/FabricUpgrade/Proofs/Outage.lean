import FabricUpgrade.Manager.Client
import FabricUpgrade.Proofs.Pacing

/-!
# Waits through an outage

While a manager restarts the requests for its status fail in ways of their own, and a wait for the
upgrade of the management plane takes these failures for progress.  What decides is the error that
the client makes of a failed request.  Of all the ways in which a restart shows only one is taken
for a failure: that the time limit passes within the body of a successful answer
(`Wait.await_outlasts_iff`).
-/

namespace FabricUpgrade

open Program Session
open Plant (elapsed passed)

namespace HttpOutcome

/-- The time limit has passed within the body of a successful answer. -/
def CutOff (outcome : HttpOutcome) : Prop :=
  ∃ status, isSuccess status = true ∧ outcome = .answered status .timedOut

/-- What comes of the requests for the status of a component at a manager that restarts. -/
inductive Restarting (component : Component) : HttpOutcome → Prop where
  /-- No connection can be made. -/
  | refused : Restarting component .refused
  /-- The time limit has passed before there was an answer. -/
  | timedOut : Restarting component .timedOut
  | unavailable (body : HttpBody) : Restarting component (.answered 503 body)
  | gatewayTimedOut (body : HttpBody) : Restarting component (.answered 504 body)
  | cutOff {outcome : HttpOutcome} (cutOff : outcome.CutOff) : Restarting component outcome
  /-- The answer shows that the manager is at work on the component. -/
  | progress {status : Nat} {body : HttpBody} {summary : Summary} {record : ComponentRecord}
      (success : isSuccess status = true)
      (reads : body.json?.bind Summary.ofJson? = some summary)
      (listed : summary.find? component = some record) (working : record.status = .inProgress) :
      Restarting component (.answered status body)

variable {outcome : HttpOutcome} {url : Text.Url} {component : Component}

/-- An answer that is cut off is told as one that cannot be decoded. -/
theorem value_of_cutOff (cutOff : outcome.CutOff) :
    outcome.value Summary.ofJson? url = .error (.decode ManagerError.decodingFailed) := by
  obtain ⟨status, success, rfl⟩ := cutOff
  simp [value, body, success, HttpBody.json?]

/-- Every other outcome of a restart is an error that shows the restart or an answer that shows
progress. -/
theorem value_of_restarting (restarting : outcome.Restarting component) (whole : ¬ outcome.CutOff) :
    (∃ error, outcome.value Summary.ofJson? url = .error error ∧ error.isRestart = true) ∨
      ∃ summary record, outcome.value Summary.ofJson? url = .ok summary ∧
        summary.find? component = some record ∧ record.status = .inProgress := by
  cases restarting with
  | refused => exact .inl ⟨_, rfl, rfl⟩
  | timedOut => exact .inl ⟨_, rfl, rfl⟩
  | unavailable body => exact .inl ⟨_, rfl, rfl⟩
  | gatewayTimedOut body => exact .inl ⟨_, rfl, rfl⟩
  | cutOff cutOff => exact absurd cutOff whole
  | progress success reads listed working =>
    exact .inr ⟨_, _, by simp [value, body, success, reads], listed, working⟩

end HttpOutcome

namespace Endpoint

/-- The client makes the answer of what comes of its request for a status. -/
def Meets (endpoint : Endpoint) (component : Option Component)
    (answer : Except ManagerError Summary) (outcome : HttpOutcome) : Prop :=
  ∃ pages request,
    Converses (endpoint.perform pages (.getStatus component)) [⟨request, outcome⟩] answer

/-- An answer that meets an outcome is its value at some URL. -/
theorem Meets.value {endpoint : Endpoint} {component : Option Component}
    {answer : Except ManagerError Summary} {outcome : HttpOutcome}
    (meets : endpoint.Meets component answer outcome) :
    ∃ url, answer = outcome.value Summary.ofJson? url := by
  obtain ⟨pages, request, converses⟩ := meets
  simp only [perform, fetch, send] at converses
  cases addressed : endpoint.urlOf (route (.getStatus component)) with
  | error error =>
    rw [addressed] at converses
    cases converses
  | ok url =>
    rw [addressed] at converses
    cases converses with
    | ask _ ended =>
      cases ended
      exact ⟨url, rfl⟩

/-- Where a request can be sent every outcome makes an answer. -/
theorem meets_value {endpoint : Endpoint} {component : Option Component} {url : Text.Url}
    (addressed : endpoint.urlOf (route (.getStatus component)) = .ok url) (outcome : HttpOutcome) :
    endpoint.Meets component (outcome.value Summary.ofJson? url) outcome := by
  simp only [Meets, perform, fetch, send, addressed]
  exact ⟨0, _, .ask _ (.done _)⟩

end Endpoint

namespace Session

/-- The answer to a status request. -/
def statusReply? : Exchange Question Answer → Option (Except ManagerError Summary)
  | ⟨.call (.getStatus _), answer⟩ => some answer
  | _ => none

/-- The answers to status requests. -/
def statusReplies (past : History) : List (Except ManagerError Summary) :=
  past.filterMap statusReply?

/-- The status replies of two stretches are those of the one and then those of the other. -/
@[simp]
theorem statusReplies_append (first second : History) :
    statusReplies (first ++ second) = statusReplies first ++ statusReplies second :=
  List.filterMap_append

/-- Between two looks at the clock it has moved on by the pauses in between at least.  Everything
else may take time as well. -/
def KeepsTime (earlier : History) : Exchange Question Answer → Prop
  | ⟨.now, (now : Nat)⟩ => ∀ before (shown : Nat) since,
      earlier = before ++ ⟨.now, shown⟩ :: since → shown + elapsed since ≤ now
  | _ => True

/-- A clock that moves with the pauses only keeps time. -/
theorem keepsTime_of_onTime {start : Nat} {past : History}
    (onTime : Throughout (OnTime start) past) : Throughout KeepsTime past := by
  intro earlier exchange later split
  obtain ⟨asked, answer⟩ := exchange
  cases asked with
  | call _ => trivial
  | sleep _ => trivial
  | stopRequested => trivial
  | now =>
    rintro before shown since rfl
    have first := onTime before ⟨.now, shown⟩ (since ++ ⟨.now, answer⟩ :: later) (by simp [split])
    have last := onTime _ _ _ split
    obtain rfl : shown = start + elapsed before := first
    obtain rfl : answer = start + elapsed (before ++ ⟨.now, start + elapsed before⟩ :: since) :=
      last
    simp only [elapsed_append, elapsed_cons, passed]
    omega

end Session

namespace Wait

/-- The answer to a status request can be read as a status. -/
def Readable (tolerates : Tolerance) (component : Option Component)
    (answer : Except ManagerError Summary) : Prop :=
  ∃ observed, reading tolerates component answer = .ok observed

/-- How a wait ends that no answer has ended. -/
inductive Outlasts (times : WaitTimes) : History → Except Failure Observation → Prop where
  /-- It has seen on the clock that its deadline has come. -/
  | expired {start now : Nat} {between : History} {component : Option Component}
      {target : StatusSet} {last : Option Observation}
      (late : (deadline? start times.timeout).getD horizon ≤ now) :
      Outlasts times (⟨.now, start⟩ :: between ++ [⟨.now, now⟩])
        (.error (.waitTimeout component target times.timeout last))
  /-- It was told to stop within a pause. -/
  | stopped (earlier : History) (milliseconds : Nat) (component : Option Component) :
      Outlasts times (earlier ++ [⟨.sleep milliseconds, false⟩]) (.error (.cancelled component))

variable {tolerates : Tolerance} {component : Option Component} {transition : Transition}
  {times : WaitTimes} {own : History} {outcome : Except Failure Observation}

section Clock

variable {deadline : Option Nat} {start : Nat} {since : History}

/-- If the time of a wait is up, the last exchange is a look at the clock, and it shows the instant
or a later one. -/
def ExpiresLate (limit : Nat) (past now : History) (outcome : Except Failure Observation) : Prop :=
  Throughout KeepsTime now → Expired outcome →
    ∃ (between : History) (shown : Nat), now = past ++ between ++ [⟨.now, shown⟩] ∧ limit ≤ shown

/-- Of a wait that has not expired nothing is said. -/
theorem expiresLate_of_not_expired {limit : Nat} {past now : History}
    (unexpired : ¬ Expired outcome) : ExpiresLate limit past now outcome :=
  fun _ expired => absurd expired unexpired

/-- What is said of later exchanges holds of earlier ones. -/
theorem ExpiresLate.before {limit : Nat} {past more now : History}
    (late : ExpiresLate limit (past ++ more) now outcome) : ExpiresLate limit past now outcome := by
  intro timely expired
  obtain ⟨between, shown, split, reached⟩ := late timely expired
  exact ⟨more ++ between, shown, by rw [split, List.append_assoc past], reached⟩

/-- No pause is empty. -/
theorem pauseAt?_pos {now milliseconds : Nat}
    (paused : pauseAt? times deadline now = some milliseconds) : 1 ≤ milliseconds := by
  have step := times.step_pos
  cases deadline with
  | none =>
    obtain rfl := Option.some.inj paused
    exact step
  | some limit =>
    obtain ⟨more, rfl⟩ := pauseAt?_eq_some_iff.1 paused
    omega

/-- Where there is no pause the deadline has come. -/
theorem le_of_pauseAt?_eq_none {now limit : Nat} (unpaused : pauseAt? times deadline now = none) :
    deadline.getD limit ≤ now := by
  cases deadline with
  | none => cases unpaused
  | some instant =>
    change instant ≤ now
    by_contra early
    rw [pauseAt?_eq_some_iff.2 ⟨Nat.lt_of_not_le early, rfl⟩] at unpaused
    cases unpaused

/-- A round that begins with no more pauses left only when the instant has come. -/
theorem pollRound_expiresLate {limit : Nat} {again : Option (Unit → Procedure Observation)}
    (last : again = none → deadline.getD limit ≤ start + elapsed since)
    (goesOn : ∀ next ∈ again, ∀ later : History, elapsed since < elapsed later →
      (next ()).run.Obeys (fun _ _ => True)
        (ExpiresLate (deadline.getD limit) (⟨.now, start⟩ :: later)) (⟨.now, start⟩ :: later)) :
    (pollRound tolerates component transition times deadline again).run.Obeys (fun _ _ => True)
      (ExpiresLate (deadline.getD limit) (⟨.now, start⟩ :: since)) (⟨.now, start⟩ :: since) := by
  refine pollRound_obeys_exchanges (fun _ _ => expiresLate_of_not_expired) ?_
    (fun _ _ _ _ => expiresLate_of_not_expired) ?_
  · rintro answer shown _ (ended | unpaused) timely _
    · refine ⟨[⟨.call (.getStatus component), answer⟩], shown, by simp, ?_⟩
      have kept := (throughout_snoc_iff.1 timely).2 [] start
        (since ++ [⟨.call (.getStatus component), answer⟩]) rfl
      simp only [elapsed_append, elapsed_cons, elapsed_nil, passed] at kept
      exact Nat.le_trans (last ended) kept
    · exact ⟨[⟨.call (.getStatus component), answer⟩], shown, by simp,
        le_of_pauseAt?_eq_none unpaused⟩
  · intro next member answer shown milliseconds paused
    have positive := pauseAt?_pos paused
    let round : History := [⟨.call (.getStatus component), answer⟩, ⟨.now, shown⟩,
      ⟨.sleep milliseconds, true⟩]
    have later := goesOn next member (since ++ round) (by simp [round, passed]; omega)
    have split : ⟨.now, start⟩ :: since ++ [⟨.call (.getStatus component), answer⟩] ++
        [⟨.now, shown⟩] ++ [⟨.sleep milliseconds, true⟩] =
          (⟨.now, start⟩ :: (since ++ round) : History) := by
      simp [round]
    rw [split]
    exact later.mono (fun _ _ permitted => permitted) fun _ _ late => late.before

/-- However many rounds are left, a wait expires only when the deadline has come. -/
theorem pollUntil_expiresLate {limit bound : Nat}
    (bounds : deadline.getD limit ≤ start + elapsed since + bound) :
    (pollUntil tolerates component transition times deadline bound).run.Obeys (fun _ _ => True)
      (ExpiresLate (deadline.getD limit) (⟨.now, start⟩ :: since)) (⟨.now, start⟩ :: since) := by
  induction bound generalizing since with
  | zero => exact pollRound_expiresLate (fun _ => bounds) nofun
  | succ bound inductionHypothesis =>
    refine pollRound_expiresLate nofun ?_
    rintro _ ⟨⟩ later slept
    exact inductionHypothesis (by omega)

end Clock

/-- On a clock that keeps time a wait whose time is up has seen that its deadline has come. -/
theorem outlasts_of_expired {account : Option Component} {target : StatusSet}
    {last : Option Observation}
    (converses : Converses (await tolerates component transition times).run own
      (.error (.waitTimeout account target times.timeout last)))
    (timely : Throughout KeepsTime own) :
    Outlasts times own (.error (.waitTimeout account target times.timeout last)) := by
  rw [await_run] at converses
  cases converses with
  | @ask _ _ _ _ start converses =>
    change Nat at start
    cases converses with
    | @ask _ _ own _ all converses =>
      cases all with
      | false => cases converses
      | true =>
        have bounds : (deadline? start times.timeout).getD horizon ≤
            start + elapsed [⟨.sleep (times.delay * 1000), true⟩] +
              ((deadline? start times.timeout).getD horizon - start) := by
          generalize (deadline? start times.timeout).getD horizon = limit
          omega
        have late := (pollUntil_expiresLate bounds).concludes converses
        obtain ⟨between, shown, split, reached⟩ := late timely ⟨_, _, _, _, rfl⟩
        have ended : (⟨.now, start⟩ :: ⟨.sleep (times.delay * 1000), true⟩ :: own : History) =
            ⟨.now, start⟩ :: (⟨.sleep (times.delay * 1000), true⟩ :: between) ++ [⟨.now, shown⟩] :=
          split
        rw [ended]
        exact .expired reached

/-- While every answer that can be read shows progress, a wait goes on until its deadline, until it
is told to stop, or until an answer that cannot be read ends it. -/
theorem outlasts_or_unreadable
    (converses : Converses (await tolerates component transition times).run own outcome)
    (timely : Throughout KeepsTime own)
    (waited : .inProgress ∉ transition.target ∧ .inProgress ∈ transition.pending)
    (working : ∀ answer ∈ statusReplies own, ∀ observed,
      reading tolerates component answer = .ok observed → observed.status = .inProgress) :
    (Outlasts times own outcome ∧
      ∀ answer ∈ statusReplies own, Readable tolerates component answer) ∨
      ∃ answer ∈ statusReplies own, ∃ failure,
        reading tolerates component answer = .error failure ∧ outcome = .error failure := by
  -- While the wait goes on all answers can be read.
  let kept : History → Prop := fun past =>
    ∀ answer ∈ statusReplies past, Readable tolerates component answer
  have unasked {past : History} {exchange : Exchange Question Answer} (holds : kept past)
      (other : statusReply? exchange = none) : kept (past ++ [exchange]) := by
    have nothing : statusReplies [exchange] = [] := List.filterMap_cons_none other
    intro answer member
    rw [statusReplies_append, nothing, List.append_nil] at member
    exact holds answer member
  have read {past : History} {answer : Except ManagerError Summary} (holds : kept past)
      (reads : Readable tolerates component answer) :
      kept (past ++ [⟨.call (.getStatus component), answer⟩]) := by
    intro other member
    rw [statusReplies_append] at member
    rcases List.mem_append.1 member with old | new
    · exact holds other old
    · obtain rfl := List.mem_singleton.1 new
      exact reads
  have last {earlier : History} {answer : Except ManagerError Summary} :
      answer ∈ statusReplies (earlier ++ [⟨.call (.getStatus component), answer⟩]) := by
    rw [statusReplies_append]
    exact List.mem_append_right _ (List.mem_singleton.2 rfl)
  have ended : Ended tolerates component transition times kept ([] ++ own) outcome :=
    (await_obeys_ended (fun _ _ _ _ => trivial) (fun _ _ holds => unasked holds rfl)
      (fun _ _ holds => unasked holds rfl)
      (fun _ _ observed holds _ reads => read holds ⟨observed, reads⟩)
      (List.forall_mem_nil _)).concludes converses
  rw [List.nil_append] at ended
  cases ended with
  | arrived _ _ reads reached =>
    exact absurd (working _ last _ reads ▸ reached) waited.1
  | unread _ _ reads => exact .inr ⟨_, last, _, reads, rfl⟩
  | strayed _ _ reads _ unexpected =>
    exact absurd (working _ last _ reads ▸ waited.2) unexpected
  | expired now holds _ reads _ _ =>
    exact .inl ⟨outlasts_of_expired converses timely, unasked (read holds ⟨_, reads⟩) rfl⟩
  | stopped milliseconds holds => exact .inl ⟨.stopped _ _ _, unasked holds rfl⟩

/-- How a wait for the management plane fails whose status request is answered by something that is
not a summary. -/
def undecoded : Failure :=
  .call .statusGet (some .management) none (.decode ManagerError.decodingFailed)

/-- An answer that cannot be decoded ends a wait, so that wait does not outlast it. -/
theorem not_outlasts_undecoded : ¬ Outlasts times own (.error undecoded) := by
  rintro ⟨⟩

/-- What comes of a request at a manager that restarts is read as progress, unless the time limit
passes within the body of a successful answer. -/
theorem reading_of_restarting {endpoint : Endpoint} {answer : Except ManagerError Summary}
    {fault : HttpOutcome} (meets : endpoint.Meets (some .management) answer fault)
    (restarting : fault.Restarting .management) :
    (¬ fault.CutOff ∧ ∃ observed,
        reading Tolerance.managementRestart (some .management) answer = .ok observed ∧
          observed.status = .inProgress) ∨
      fault.CutOff ∧
        reading Tolerance.managementRestart (some .management) answer = .error undecoded := by
  obtain ⟨url, rfl⟩ := meets.value
  by_cases cutOff : fault.CutOff
  · refine .inr ⟨cutOff, ?_⟩
    rw [HttpOutcome.value_of_cutOff cutOff]
    rfl
  · refine .inl ⟨cutOff, ?_⟩
    rcases HttpOutcome.value_of_restarting restarting cutOff with
      ⟨error, failed, tolerated⟩ | ⟨summary, record, answered, listed, working⟩
    · rw [failed]
      exact ⟨⟨.inProgress, error.message⟩,
        by simp [reading, Tolerance.managementRestart, tolerated], rfl⟩
    · rw [answered]
      exact ⟨⟨record.status, record.details.getD ""⟩, by simp [reading, observationOf, listed],
        working⟩

/-- What is in the first of two related lists is related to something in the second. -/
theorem exists_mem_of_forall₂ {First Second : Type} {related : First → Second → Prop}
    {first : List First} {second : List Second} {one : First}
    (relates : List.Forall₂ related first second) (member : one ∈ first) :
    ∃ other ∈ second, related one other := by
  induction relates with
  | nil => cases member
  | cons here _ inductionHypothesis =>
    rcases List.mem_cons.1 member with rfl | member
    · exact ⟨_, List.mem_cons_self, here⟩
    · obtain ⟨other, later, relates⟩ := inductionHypothesis member
      exact ⟨other, List.mem_cons_of_mem _ later, relates⟩

/-- A wait for the upgrade of the management plane, whose manager restarts, outlasts the restart
just if the time limit never passes within the body of a successful answer.  If it does, the wait
fails. -/
theorem await_outlasts_iff {endpoint : Endpoint} {staysPartial : Bool} {times : WaitTimes}
    {own : History} {outcome : Except Failure Observation} {met : List HttpOutcome}
    (converses : Converses (await Tolerance.managementRestart (some .management)
      (.ofUpgrade staysPartial) times).run own outcome)
    (timely : Throughout KeepsTime own)
    (meets : List.Forall₂ (endpoint.Meets (some .management)) (statusReplies own) met)
    (restarting : ∀ fault ∈ met, fault.Restarting .management) :
    (Outlasts times own outcome ↔ ∀ fault ∈ met, ¬ fault.CutOff) ∧
      ((∃ fault ∈ met, fault.CutOff) → outcome = .error undecoded) := by
  have waited : .inProgress ∉ (Transition.ofUpgrade staysPartial).target ∧
      .inProgress ∈ (Transition.ofUpgrade staysPartial).pending := by
    cases staysPartial <;> decide
  -- Behind each answer there is an outcome, and behind each outcome an answer.
  have sorted : ∀ answer ∈ statusReplies own, ∃ fault ∈ met,
      endpoint.Meets (some .management) answer fault :=
    fun _ member => exists_mem_of_forall₂ meets member
  have answered : ∀ fault ∈ met, ∃ answer ∈ statusReplies own,
      endpoint.Meets (some .management) answer fault :=
    fun _ member => exists_mem_of_forall₂ meets.flip member
  have working : ∀ answer ∈ statusReplies own, ∀ observed,
      reading Tolerance.managementRestart (some .management) answer = .ok observed →
        observed.status = .inProgress := by
    intro answer asked observed reads
    obtain ⟨fault, member, met⟩ := sorted answer asked
    rcases reading_of_restarting met (restarting fault member) with
      ⟨-, shown, readsToo, working⟩ | ⟨-, unread⟩
    · rw [reads] at readsToo
      exact Except.ok.inj readsToo ▸ working
    · rw [reads] at unread
      cases unread
  rcases outlasts_or_unreadable converses timely waited working with
    ⟨outlasts, readable⟩ | ⟨answer, asked, failure, unread, rfl⟩
  · have whole : ∀ fault ∈ met, ¬ fault.CutOff := by
      intro fault member cutOff
      obtain ⟨answer, asked, met⟩ := answered fault member
      obtain ⟨observed, reads⟩ := readable answer asked
      rcases reading_of_restarting met (restarting fault member) with ⟨whole, -⟩ | ⟨-, unread⟩
      · exact whole cutOff
      · rw [reads] at unread
        cases unread
    refine ⟨⟨fun _ => whole, fun _ => outlasts⟩, ?_⟩
    rintro ⟨fault, member, cutOff⟩
    exact absurd cutOff (whole fault member)
  · obtain ⟨fault, member, met⟩ := sorted answer asked
    rcases reading_of_restarting met (restarting fault member) with
      ⟨-, observed, reads, -⟩ | ⟨cutOff, undecoded⟩
    · rw [reads] at unread
      cases unread
    · obtain rfl := Except.error.inj (unread.symm.trans undecoded)
      exact ⟨⟨fun outlasts => absurd outlasts not_outlasts_undecoded,
        fun whole => absurd cutOff (whole fault member)⟩, fun _ => rfl⟩

/-- The endpoint of a manager that restarts. -/
def restartingEndpoint : Endpoint :=
  .ofUrl "http://nsx.test" "admin" "" false

/-- The status of the management plane can be asked for at the endpoint of the example. -/
theorem restartingEndpoint_addressed :
    ∃ url, restartingEndpoint.urlOf (Endpoint.route (.getStatus (some .management))) = .ok url := by
  have addressed : (restartingEndpoint.urlOf
      (Endpoint.route (.getStatus (some .management)))).isOk = true := by
    decide +kernel
  cases sent : restartingEndpoint.urlOf (Endpoint.route (.getStatus (some .management))) with
  | error error =>
    rw [sent] at addressed
    cases addressed
  | ok url => exact ⟨url, rfl⟩

/-- A manager that is unavailable at first and then refuses connections is waited for to the
deadline. -/
theorem await_outlasts_iff_refused : ∃ own outcome,
    Converses (await Tolerance.managementRestart (some .management) (.ofUpgrade false)
      ⟨1, 1, 0⟩).run own outcome ∧
    Throughout KeepsTime own ∧
    List.Forall₂ (restartingEndpoint.Meets (some .management)) (statusReplies own)
      [.answered 503 .brokenOff, .refused] ∧
    Outlasts ⟨1, 1, 0⟩ own outcome := by
  obtain ⟨url, addressed⟩ := restartingEndpoint_addressed
  let unavailable : HttpOutcome := .answered 503 .brokenOff
  let own : History := [⟨.now, (0 : Nat)⟩, ⟨.sleep 0, true⟩,
    ⟨.call (.getStatus (some .management)), unavailable.value Summary.ofJson? url⟩,
    ⟨.now, (0 : Nat)⟩, ⟨.sleep 1000, true⟩,
    ⟨.call (.getStatus (some .management)), HttpOutcome.refused.value Summary.ofJson? url⟩,
    ⟨.now, (1000 : Nat)⟩]
  have converses : Converses (await Tolerance.managementRestart (some .management)
      (.ofUpgrade false) ⟨1, 1, 0⟩).run own (.error (.waitTimeout (some .management)
        (Transition.ofUpgrade false).target 1 (some ⟨.inProgress,
          (ManagerError.serviceUnavailable (ManagerError.sendingFailed url)).message⟩))) := by
    rw [await_run]
    exact .ask _ (.ask _ (.ask _ (.ask _ (.ask _ (.ask _ (.ask _ (.done _)))))))
  have timely : Throughout KeepsTime own := by
    have onTime : Throughout (OnTime 0) own := by
      simp [own, throughout_onTime_cons, throughout_nil, OnTime, passed]
    exact keepsTime_of_onTime onTime
  have meets : List.Forall₂ (restartingEndpoint.Meets (some .management)) (statusReplies own)
      [unavailable, .refused] :=
    .cons (Endpoint.meets_value addressed _) (.cons (Endpoint.meets_value addressed _) .nil)
  have restarting : ∀ fault ∈ [unavailable, HttpOutcome.refused], fault.Restarting .management := by
    simpa [unavailable] using ⟨.unavailable .brokenOff, .refused⟩
  have whole : ∀ fault ∈ [unavailable, HttpOutcome.refused], ¬ fault.CutOff := by
    simp [unavailable, HttpOutcome.CutOff]
  exact ⟨own, _, converses, timely, meets,
    (await_outlasts_iff converses timely meets restarting).1.2 whole⟩

/-- With a minute left the wait fails when the time limit passes within the body of the first
answer. -/
theorem not_outlasts_cutOff : ∃ own outcome,
    Converses (await Tolerance.managementRestart (some .management) (.ofUpgrade false)
      ⟨60, 10, 0⟩).run own outcome ∧
    Throughout KeepsTime own ∧
    List.Forall₂ (restartingEndpoint.Meets (some .management)) (statusReplies own)
      [.answered 200 .timedOut] ∧
    (HttpOutcome.answered 200 .timedOut).Restarting .management ∧
    ¬ Outlasts ⟨60, 10, 0⟩ own outcome := by
  obtain ⟨url, addressed⟩ := restartingEndpoint_addressed
  let cutOff : HttpOutcome := .answered 200 .timedOut
  let own : History := [⟨.now, (0 : Nat)⟩, ⟨.sleep 0, true⟩,
    ⟨.call (.getStatus (some .management)), cutOff.value Summary.ofJson? url⟩]
  have converses : Converses (await Tolerance.managementRestart (some .management)
      (.ofUpgrade false) ⟨60, 10, 0⟩).run own (.error undecoded) := by
    rw [await_run]
    exact .ask _ (.ask _ (.ask _ (.done _)))
  have onTime : Throughout (OnTime 0) own := by
    simp [own, throughout_onTime_cons, throughout_nil, OnTime, passed]
  have meets : List.Forall₂ (restartingEndpoint.Meets (some .management)) (statusReplies own)
      [cutOff] :=
    .cons (Endpoint.meets_value addressed _) .nil
  exact ⟨own, _, converses, keepsTime_of_onTime onTime, meets, .cutOff ⟨200, rfl, rfl⟩,
    not_outlasts_undecoded⟩

end Wait

end FabricUpgrade
