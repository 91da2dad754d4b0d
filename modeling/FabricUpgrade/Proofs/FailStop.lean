import Mathlib.Data.List.Basic
import FabricUpgrade.Proofs.Argument
import FabricUpgrade.Proofs.Execution

/-!
# The first failure is the last thing that happens

A call that fails ends the run, unless it starts a check or asks for the status of the management
plane while that is being waited for and its manager restarts.  `Session.Fatal` says which exchange
ends a run with which failure, and `Run.GivesUp` with which failure a wait is given up after a probe
that is all right by itself.  Each step of a run ends in one of the two ways, is stopped or goes on
unharmed (`Run.Told`), and so does the whole.
-/

namespace FabricUpgrade

open Program Session

namespace Session

/-- The component whose status is asked for. -/
def Question.probed? : Question → Option Component
  | .call (.getStatus component) => component
  | _ => none

/-- The component that is being driven: the one whose status was asked for last. -/
def driven? (past : History) : Option Component :=
  past.foldl (fun driven exchange => exchange.question.probed?.or driven) none

/-- On whose account a call is made after the exchanges: a status request is made on that of the
component that it asks about, if there is one, and any other call on that of the component that is
being driven. -/
def account (past : History) : Call → Option Component
  | .getStatus component => component
  | _ => driven? past

/-- The failed calls that do not end a run. -/
inductive Excused (past : History) : Call → ManagerError → Prop where
  /-- A check cannot be started. -/
  | check (component : Component) (error : ManagerError) :
      Excused past (.checkUpgraded component) error
  /-- The manager restarts while the management plane is being waited for. -/
  | restart (error : ManagerError) (waiting : Paused past) (restarts : error.isRestart = true) :
      Excused past (.getStatus (some .management)) error

/-- The exchange that comes after the others ends the run with the failure. -/
inductive Fatal (past : History) : Exchange Question Answer → Failure → Prop where
  /-- A call fails. -/
  | call (call : Call) (error : ManagerError) (unexcused : ¬ Excused past call error) :
      Fatal past ⟨.call call, .error error⟩
        (.call call.operation (account past call) call.group? error)
  /-- A summary has no record of the component that was asked for. -/
  | unlisted (component : Component) (summary : Summary)
      (missing : summary.find? component = none) :
      Fatal past ⟨.call (.getStatus (some component)), .ok summary⟩ (.statusNotFound component)

/-- Nothing fatal has happened. -/
def Unharmed (past : History) : Prop :=
  ∀ earlier exchange later failure, past = earlier ++ exchange :: later →
    ¬ Fatal earlier exchange failure

/-- The answer tells the run to stop. -/
inductive Stops : Exchange Question Answer → Prop where
  | asked : Stops ⟨.stopRequested, true⟩
  | woken (milliseconds : Nat) : Stops ⟨.sleep milliseconds, false⟩

variable {past : History} {exchange : Exchange Question Answer} {component : Component}

/-- The component that is driven is the one that was probed last. -/
@[simp]
theorem driven?_snoc :
    driven? (past ++ [exchange]) = exchange.question.probed?.or (driven? past) := by
  simp [driven?, List.foldl_append]

/-- A run that asked nothing is unharmed. -/
theorem unharmed_nil : Unharmed [] := by
  intro earlier exchange later failure split
  simp at split

/-- One exchange more leaves a run unharmed exactly if it is not fatal. -/
theorem unharmed_snoc_iff :
    Unharmed (past ++ [exchange]) ↔ Unharmed past ∧ ∀ failure, ¬ Fatal past exchange failure := by
  constructor
  · intro unharmed
    refine ⟨fun earlier other later failure split fatal => ?_, fun failure fatal => ?_⟩
    · exact unharmed earlier other (later ++ [exchange]) failure (by simp [split]) fatal
    · exact unharmed past exchange [] failure rfl fatal
  · rintro ⟨unharmed, harmless⟩ earlier other later failure split fatal
    rcases List.eq_nil_or_concat' later with rfl | ⟨before, last, rfl⟩
    · obtain ⟨rfl, same⟩ := List.append_inj' split rfl
      cases same
      exact harmless failure fatal
    · rw [← List.cons_append, ← List.append_assoc] at split
      exact unharmed earlier other before failure (List.append_inj' split rfl).1 fatal

/-- What an exchange ends the run with is settled. -/
theorem Fatal.unique {first second : Failure} (fatal : Fatal past exchange first)
    (also : Fatal past exchange second) : first = second := by
  cases fatal with
  | call call error unexcused =>
    cases also
    rfl
  | unlisted component summary missing =>
    cases also
    rfl

/-- Only calls are fatal. -/
theorem not_fatal_of_uncalled (uncalled : ∀ call, exchange.question ≠ .call call)
    (failure : Failure) : ¬ Fatal past exchange failure := by
  rintro (⟨call, _, _⟩ | ⟨component, _, _⟩)
  · exact uncalled call rfl
  · exact uncalled _ rfl

/-- No wait is going on right after it was asked whether to stop. -/
theorem not_paused_asked {stop : Bool} : ¬ Paused (past ++ [⟨.stopRequested, stop⟩]) := by
  rintro ⟨earlier, milliseconds, same⟩
  cases (List.append_inj' same rfl).2

/-- The run has come so far unharmed and is driving the component. -/
structure Steers (component : Component) (past : History) : Prop where
  unharmed : Unharmed past
  driving : driven? past = some component

end Session

namespace Run

/-- A wait is given up with a failure, although nothing fatal has happened. -/
inductive GivesUp (run : Run) : History → Failure → Prop where
  /-- The last probe of a wait showed a status that is neither waited for nor waited through. -/
  | strayed {component : Option Component} {transition : Transition} {earlier : History}
      {answer : Except ManagerError Summary} {observed : Observation}
      (awaits : run.Awaits component transition)
      (reads : Wait.reading .managementRestart component answer = .ok observed)
      (unreached : observed.status ∉ transition.target)
      (unexpected : observed.status ∉ transition.pending) :
      GivesUp run (earlier ++ [⟨.call (.getStatus component), answer⟩])
        (.unexpectedStatus component transition.target observed)
  /-- The time of a wait was up when it was looked at the clock after a probe. -/
  | expired {component : Option Component} {transition : Transition} {earlier : History}
      {answer : Except ManagerError Summary} {observed : Observation} (now : Nat)
      (awaits : run.Awaits component transition)
      (reads : Wait.reading .managementRestart component answer = .ok observed)
      (unreached : observed.status ∉ transition.target)
      (pending : observed.status ∈ transition.pending) :
      GivesUp run (earlier ++ [⟨.call (.getStatus component), answer⟩] ++ [⟨.now, now⟩])
        (.waitTimeout component transition.target run.wait.timeout (some observed))

/-- A step of a run ended as what happened says: with a value after nothing fatal, with the failure
of a fatal exchange right after it, with a wait that was given up, or because it was told to stop. -/
inductive Told (run : Run) {Value : Type} (suits : History → Value → Prop) :
    History → Except Failure Value → Prop where
  | fine {past : History} {value : Value} (holds : suits past value) :
      Told run suits past (.ok value)
  | fatal {past : History} {exchange : Exchange Question Answer} {failure : Failure}
      (unharmed : Unharmed past) (fatal : Fatal past exchange failure) :
      Told run suits (past ++ [exchange]) (.error failure)
  | givenUp {past : History} {failure : Failure} (unharmed : Unharmed past)
      (givesUp : run.GivesUp past failure) : Told run suits past (.error failure)
  | stopped {past : History} {exchange : Exchange Question Answer} (component : Option Component)
      (unharmed : Unharmed (past ++ [exchange])) (stops : Stops exchange) :
      Told run suits (past ++ [exchange]) (.error (.cancelled component))

/-- Whatever is answered after the exchanges of the past, a step of a run ends as what happened
says. -/
def Tells (run : Run) {Value : Type} (suits : History → Value → Prop) (step : Procedure Value)
    (past : History) : Prop :=
  step.run.Obeys (fun _ _ => True) (run.Told suits) past

section Steps

variable {run : Run} {past : History} {component : Component} {First Second : Type}
  {suits : History → Second → Prop}

/-- A sequence ends as what happened says if its parts do. -/
theorem tells_bind {holds : History → First → Prop} {first : Procedure First}
    {next : First → Procedure Second} (begins : run.Tells holds first past)
    (continues : ∀ past value, holds past value → run.Tells suits (next value) past) :
    run.Tells suits (first >>= next) past := by
  refine obeys_bind begins (fun past value told => ?_) fun past failure told => ?_
  · cases told with
    | fine holds => exact continues past value holds
  · cases told with
    | fatal unharmed fatal => exact .fatal unharmed fatal
    | givenUp unharmed givesUp => exact .givenUp unharmed givesUp
    | stopped component unharmed stops => exact .stopped component unharmed stops

/-- A value that suits is told as the end of a part. -/
theorem tells_pure {value : Second} (holds : suits past value) :
    run.Tells suits (pure value) past :=
  .fine holds

/-- Answers that are no failed calls leave a run unharmed. -/
theorem steers_snoc {exchange : Exchange Question Answer} (steers : Steers component past)
    (harmless : ∀ failure, ¬ Fatal past exchange failure)
    (other : exchange.question.probed? = none) : Steers component (past ++ [exchange]) :=
  ⟨unharmed_snoc_iff.2 ⟨steers.unharmed, harmless⟩, by simp [other, steers.driving]⟩

/-- A call that has to succeed is put down to the component that is being driven. -/
theorem tells_perform {call : Call} (steers : Steers component past)
    (unasking : ∀ asked, call ≠ .getStatus asked)
    (unchecking : ∀ asked, call ≠ .checkUpgraded asked) :
    run.Tells (fun past _ => Steers component past)
      (Procedure.perform call (some component) call.group?) past := by
  have account : account past call = some component := by
    rw [← steers.driving]
    cases call <;> first | rfl | exact absurd rfl (unasking _)
  have unprobed : Question.probed? (.call call) = none := by
    cases call <;> first | rfl | exact absurd rfl (unasking _)
  refine Procedure.obeys_perform trivial (fun reply => ?_) fun error => ?_
  · refine .fine (steers_snoc steers ?_ unprobed)
    rintro _ (⟨_, _, _⟩ | ⟨asked, _, _⟩)
    exact unasking _ rfl
  · refine account ▸ Told.fatal steers.unharmed (.call call error ?_)
    rintro (⟨asked, _⟩ | ⟨_, _, _⟩)
    · exact unchecking asked rfl
    · exact unasking _ rfl

/-- Without a record of the component there is nothing to be read, and a failed request is read only
where it is tolerated. -/
theorem not_fatal_of_reading {tolerates : Tolerance} {asked : Option Component}
    {answer : Except ManagerError Summary} {observed : Observation}
    (reads : Wait.reading tolerates asked answer = .ok observed)
    (excuses : ∀ error, tolerates asked error = true → Excused past (.getStatus asked) error)
    (failure : Failure) : ¬ Fatal past ⟨.call (.getStatus asked), answer⟩ failure := by
  rintro (⟨_, error, unexcused⟩ | ⟨component, summary, missing⟩)
  · refine unexcused (excuses error ?_)
    by_cases tolerated : tolerates asked error = true
    · exact tolerated
    · simp [Wait.reading, tolerated] at reads
  · simp [Wait.reading, Wait.observationOf, missing] at reads

/-- What cannot be read is fatal, where what is tolerated is excused. -/
theorem fatal_of_reading {tolerates : Tolerance} {asked : Option Component}
    {answer : Except ManagerError Summary} {failure : Failure}
    (reads : Wait.reading tolerates asked answer = .error failure)
    (excuses : ∀ error, Excused past (.getStatus asked) error → tolerates asked error = true) :
    Fatal past ⟨.call (.getStatus asked), answer⟩ failure := by
  cases answer with
  | error error =>
    by_cases tolerated : tolerates asked error = true
    · simp [Wait.reading, tolerated] at reads
    · obtain rfl : Failure.call .statusGet asked none error = failure := by
        simpa [Wait.reading, tolerated] using reads
      exact .call (.getStatus asked) error fun excused => tolerated (excuses error excused)
  | ok summary =>
    cases asked with
    | none => simp [Wait.reading, Wait.observationOf] at reads
    | some component =>
      cases found : summary.find? component with
      | some record => simp [Wait.reading, Wait.observationOf, found] at reads
      | none =>
        obtain rfl : Failure.statusNotFound component = failure := by
          simpa [Wait.reading, Wait.observationOf, found] using reads
        exact .unlisted component summary found

/-- While a wait goes on, exactly the restarts of the manager are excused. -/
theorem excused_iff_of_paused {asked : Option Component} {error : ManagerError}
    (paused : Paused past) : Excused past (.getStatus asked) error ↔
      Tolerance.managementRestart asked error = true := by
  constructor
  · rintro (_ | ⟨_, _, restarts⟩)
    simp [Tolerance.managementRestart, restarts]
  · intro tolerated
    obtain ⟨rfl, restarts⟩ : asked = some .management ∧ error.isRestart = true := by
      simpa [Tolerance.managementRestart] using tolerated
    exact .restart error paused restarts

/-- A wait in the turn of a component, for it or for the whole upgrade. -/
theorem tells_await {asked : Option Component} {transition : Transition}
    (awaits : run.Awaits asked transition) (within : ∀ other, asked = some other → other = component)
    (steers : Steers component past) :
    run.Tells (fun past _ => Steers component past) (run.await {} asked transition) past := by
  have probed : ∀ past answer observed, Steers component past → Paused past →
      Wait.reading .managementRestart asked answer = .ok observed →
      Steers component (past ++ [⟨.call (.getStatus asked), answer⟩]) := by
    intro past answer observed steers paused reads
    refine ⟨unharmed_snoc_iff.2 ⟨steers.unharmed, not_fatal_of_reading reads
      fun _ => (excused_iff_of_paused paused).2⟩, ?_⟩
    cases asked with
    | none => simp [Question.probed?, steers.driving]
    | some other => simp [Question.probed?, within other rfl]
  have timed : ∀ past (now : Nat), Steers component past →
      Steers component (past ++ [⟨.now, now⟩]) := fun past now steers =>
    steers_snoc steers (not_fatal_of_uncalled nofun) rfl
  have slept : ∀ past milliseconds (passed : Bool), Steers component past →
      Steers component (past ++ [⟨.sleep milliseconds, passed⟩]) :=
    fun past milliseconds passed steers => steers_snoc steers (not_fatal_of_uncalled nofun) rfl
  -- Whatever a wait ends with, the exchanges in front of that have been harmless.
  refine (Wait.await_obeys_ended (fun _ _ _ _ => trivial)
    (fun past milliseconds => slept past milliseconds true) timed probed steers).mono
      (fun _ _ permitted => permitted) ?_
  rintro _ _ (⟨steers, paused, reads, reached⟩ | ⟨steers, paused, reads⟩ |
    ⟨steers, paused, reads, unreached, unexpected⟩ |
    ⟨now, steers, paused, reads, unreached, pending⟩ | ⟨milliseconds, steers⟩)
  · exact .fine (probed _ _ _ steers paused reads)
  · exact .fatal steers.unharmed (fatal_of_reading reads fun _ => (excused_iff_of_paused paused).1)
  · exact .givenUp (probed _ _ _ steers paused reads).unharmed
      (.strayed awaits reads unreached unexpected)
  · exact .givenUp (timed _ now (probed _ _ _ steers paused reads)).unharmed
      (.expired now awaits reads unreached pending)
  · exact .stopped asked (slept _ milliseconds false steers).unharmed (.woken milliseconds)

/-- The first probe of a turn comes right at its beginning, where nothing is excused. -/
theorem tells_probe (unharmed : Unharmed past) (unpaused : ¬ Paused past) :
    run.Tells (fun past _ => Steers component past) (Wait.probe (some component)) past := by
  refine Wait.obeys_observe trivial fun answer => ?_
  cases reads : Wait.reading Tolerance.none (some component) answer with
  | error failure =>
    refine .fatal unharmed (fatal_of_reading reads ?_)
    rintro error (_ | ⟨_, paused, _⟩)
    exact absurd paused unpaused
  | ok observed =>
    refine .fine ⟨unharmed_snoc_iff.2 ⟨unharmed, not_fatal_of_reading reads nofun⟩, ?_⟩
    simp [Question.probed?]

/-- A check that cannot be started does no harm. -/
theorem startChecks_unharmed {checked : List Component} (unharmed : Unharmed past) :
    (startChecks checked).Obeys (fun _ _ => True) (fun past _ => Unharmed past) past := by
  induction checked generalizing past with
  | nil => exact unharmed
  | cons component rest inductionHypothesis =>
    refine ⟨trivial, fun answer => ?_⟩
    have asked : Unharmed (past ++ [⟨.call (.checkUpgraded component), answer⟩]) := by
      refine unharmed_snoc_iff.2 ⟨unharmed, ?_⟩
      rintro _ (⟨_, error, unexcused⟩ | _)
      exact unexcused (.check component error)
    cases answer with
    | ok _ =>
      change Obeys _ _ ((startChecks rest).andThen fun started => .done (component :: started)) _
      exact obeys_andThen.2 (inductionHypothesis asked)
    | error _ => exact inductionHypothesis asked

/-- What is known at a place of a run that has come so far unharmed. -/
def Fares : Place → History → Prop
  | .between => Unharmed
  | .turn component => Steers component

/-- Every step of a run ends as what happened says. -/
def telling (run : Run) : run.Argument where
  holds := Fares
  leads place step past := run.Tells (fun past _ => Fares place past) step past
  leads_pure _ holds := tells_pure holds
  leads_bind begins continues := tells_bind begins continues
  leads_stop unharmed goesOn := by
    refine obeys_question_bind trivial fun stop => ?_
    have asked : Unharmed (_ ++ [⟨.stopRequested, stop⟩]) :=
      unharmed_snoc_iff.2 ⟨unharmed, not_fatal_of_uncalled nofun⟩
    cases stop with
    | true => exact .stopped _ asked .asked
    | false => exact goesOn _ asked not_paused_asked
  leads_probe unharmed unpaused := tells_probe unharmed unpaused
  leads_perform unasking unchecking steers := tells_perform steers unasking unchecking
  leads_await awaits within steers := tells_await awaits within steers
  leaves steers := steers.unharmed
  leads_checks unharmed := obeys_lift ((startChecks_unharmed unharmed).mono
    (fun _ _ permitted => permitted) fun _ _ unharmed => .fine unharmed)

/-- A run ends as what happened says. -/
theorem tells_execute (run : Run) :
    run.Tells (fun past _ => Unharmed past) (run.execute {}) [] :=
  run.telling.execute unharmed_nil

end Steps

/-- Where a step ended as what happened says, a fatal exchange was the last one, and the step ended
with its failure. -/
theorem Told.of_fatal {run : Run} {Value : Type} {exchanges earlier later : History}
    {result : Except Failure Value} {exchange : Exchange Question Answer} {failure : Failure}
    (told : run.Told (fun past _ => Unharmed past) exchanges result)
    (split : exchanges = earlier ++ exchange :: later) (fatal : Fatal earlier exchange failure) :
    later = [] ∧ result = .error failure := by
  cases told with
  | fine unharmed => exact absurd fatal (unharmed _ _ _ _ split)
  | givenUp unharmed _ => exact absurd fatal (unharmed _ _ _ _ split)
  | stopped _ unharmed _ => exact absurd fatal (unharmed _ _ _ _ split)
  | fatal unharmed last =>
    rcases List.eq_nil_or_concat' later with rfl | ⟨before, other, rfl⟩
    · obtain ⟨rfl, same⟩ := List.append_inj' split rfl
      cases same
      exact ⟨rfl, congrArg Except.error (last.unique fatal)⟩
    · rw [← List.cons_append, ← List.append_assoc] at split
      exact absurd fatal (unharmed _ _ _ _ (List.append_inj' split rfl).1)

/-- A failed call is told right after it. -/
theorem Told.of_call {run : Run} {Value : Type} {suits : History → Value → Prop}
    {exchanges : History} {operation : Operation} {component : Option Component}
    {target : Option String} {error : ManagerError}
    (told : run.Told suits exchanges (.error (.call operation component target error))) :
    ∃ earlier call, exchanges = earlier ++ [⟨.call call, .error error⟩] := by
  cases told with
  | fatal _ fatal =>
    cases fatal with
    | call call _ _ => exact ⟨_, call, rfl⟩
  | givenUp _ givesUp => cases givesUp

/-- What a run ends in is what happened to it. -/
structure FailStop (run : Run) (exchanges : History) (result : Except Failure Report) : Prop where
  /-- A fatal exchange is the last one, and the run fails with its failure. -/
  stops : ∀ earlier exchange later failure, exchanges = earlier ++ exchange :: later →
    Fatal earlier exchange failure → later = [] ∧ result = .error failure
  /-- A failure is told right after what it is about. -/
  explained : ∀ failure, result = .error failure →
    (∃ earlier exchange, exchanges = earlier ++ [exchange] ∧ Fatal earlier exchange failure) ∨
      run.GivesUp exchanges failure ∨
      ∃ earlier exchange component, exchanges = earlier ++ [exchange] ∧ Stops exchange ∧
        failure = .cancelled component
  /-- A run to which nothing fatal happens, that gives up no wait and that is not told to stop ends
  well. -/
  finishes : Unharmed exchanges → (∀ failure, ¬ run.GivesUp exchanges failure) →
    (∀ exchange ∈ exchanges, ¬ Stops exchange) → ∃ report, result = .ok report

/-- Whatever is answered and whenever the execution is stopped, the first call that fails and is not
excused is the last one and is told as the reason, put down to the component that is being driven;
no other failure is told but right after the probe that it is about, or because of a stop. -/
theorem execute_failStop (run : Run) (exchanges : History) (result : Except Failure Report)
    (converses : Converses (run.execute {}).run exchanges result) :
    run.FailStop exchanges result := by
  have told : run.Told (fun past _ => Unharmed past) exchanges result :=
    (tells_execute run).concludes converses
  refine ⟨fun _ _ _ _ split fatal => told.of_fatal split fatal, ?_, ?_⟩
  · rintro failure rfl
    cases told with
    | fatal _ fatal => exact .inl ⟨_, _, rfl, fatal⟩
    | givenUp _ givesUp => exact .inr (.inl givesUp)
    | stopped component _ stops => exact .inr (.inr ⟨_, _, component, rfl, stops, rfl⟩)
  · intro unharmed unbroken unstopped
    cases told with
    | fine _ => exact ⟨_, rfl⟩
    | fatal _ fatal => exact absurd fatal ((unharmed_snoc_iff.1 unharmed).2 _)
    | givenUp _ givesUp => exact absurd givesUp (unbroken _)
    | stopped _ _ stops => exact absurd stops (unstopped _ (by simp))

/-- The manager refuses to change the group. -/
def oneGroupRefusal : Exchange Question Answer :=
  ⟨.call (.updateGroup "rack" { id := "rack", enabled := true }), .error (.api 400 "no such host")⟩

/-- A group that cannot be updated fails the run with the operation, the component and the group. -/
theorem execute_failStop_oneGroup :
    ∃ result, Converses (oneGroup.execute {}).run (oneGroupReset ++ [oneGroupRefusal]) result ∧
      result = .error (.call .groupUpdate (some .edge) (some "rack") (.api 400 "no such host")) := by
  have converses : Converses (oneGroup.execute {}).run (oneGroupReset ++ [oneGroupRefusal])
      (.error (.call .groupUpdate (some .edge) (some "rack") (.api 400 "no such host"))) :=
    .ask _ (.ask _ (.ask _ (.ask _ (.ask _ (.ask _ (.ask _ (.ask _ (.done _))))))))
  have fatal : Fatal oneGroupReset oneGroupRefusal
      (.call .groupUpdate (some .edge) (some "rack") (.api 400 "no such host")) := by
    refine .call _ _ ?_
    rintro (_ | _)
  exact ⟨_, converses,
    ((execute_failStop oneGroup _ _ converses).stops oneGroupReset oneGroupRefusal [] _ rfl fatal).2⟩

end Run

end FabricUpgrade
