import FabricUpgrade.Proofs.FailStop
import FabricUpgrade.Proofs.Order

/-!
# Being told to stop

A run learns in two ways that it should stop: it asks, in front of each turn, and its pauses are
broken off.  Either way it ends at once and asks nothing more (`Session.Heedful`), and it says on
whose account: that of the component whose turn has come up, or of whatever it was waiting for.
-/

namespace FabricUpgrade

open Program Session

namespace Session

/-- Whether the answer to the question may tell to stop. -/
def Question.heeds : Question → Bool
  | .sleep _ | .stopRequested => true
  | _ => false

/-- What comes after a question ends at once if it was told to stop.  A pause that passes is followed
by a status request for what is waited for. -/
def Heeds {Value : Type} :
    (asked : Question) → (Answer asked → Session (Except Failure Value)) → Prop
  | .sleep _, resume => ∃ account later, resume false = .done (.error (.cancelled account)) ∧
      resume true = .ask (.call (.getStatus account)) later
  | .stopRequested, resume => ∃ account, resume true = .done (.error (.cancelled account))
  | _, _ => True

/-- Whatever is answered, the session ends at once when it is told to stop. -/
def Heedful {Value : Type} : Session (Except Failure Value) → Prop
  | .done _ => True
  | .ask asked resume => Heeds asked resume ∧ ∀ reply, Heedful (resume reply)

section Heedful

variable {First Second : Type}

/-- A heedful session stays so. -/
theorem Heedful.reaches {program rest : Session (Except Failure First)} {past : History}
    (heedful : Heedful program) (begun : Reaches program past rest) : Heedful rest := by
  induction begun with
  | here _ => exact heedful
  | ask reply _ inductionHypothesis => exact inductionHypothesis (heedful.2 reply)

/-- An end because of a stop is the end of a sequence as well. -/
theorem heedful_andThen {first : Session (Except Failure First)}
    {next : Except Failure First → Session (Except Failure Second)} (begins : Heedful first)
    (ends : ∀ failure, next (.error failure) = .done (.error failure))
    (continues : ∀ value, Heedful (next (.ok value))) : Heedful (first.andThen next) := by
  induction first with
  | done result =>
    cases result with
    | ok value => exact continues value
    | error failure =>
      rw [andThen_done, ends failure]
      trivial
  | ask asked resume inductionHypothesis =>
    refine ⟨?_, fun reply => inductionHypothesis reply (begins.2 reply)⟩
    have heeds := begins.1
    cases asked with
    | call _ => trivial
    | now => trivial
    | sleep _ =>
      obtain ⟨account, later, stopped, passed⟩ := heeds
      refine ⟨account, fun reply => (later reply).andThen next, ?_, ?_⟩
      · exact (congrArg (fun rest => rest.andThen next) stopped).trans (ends _)
      · exact congrArg (fun rest => rest.andThen next) passed
    | stopRequested =>
      obtain ⟨account, stopped⟩ := heeds
      exact ⟨account, (congrArg (fun rest => rest.andThen next) stopped).trans (ends _)⟩

/-- A sequence is heedful if its parts are. -/
theorem heedful_bind {first : Procedure First} {next : First → Procedure Second}
    (begins : Heedful first.run) (continues : ∀ value, Heedful (next value).run) :
    Heedful (first >>= next).run :=
  heedful_andThen begins (fun _ => rfl) continues

/-- Nothing has to be heeded of a question that does not tell of a stop. -/
theorem heeds_of_unheeding {asked : Question}
    {resume : Answer asked → Session (Except Failure First)} (unheeding : asked.heeds = false) :
    Heeds asked resume := by
  cases asked with
  | call _ => trivial
  | now => trivial
  | sleep _ => cases unheeding
  | stopRequested => cases unheeding

/-- A session that neither pauses nor asks whether to stop has nothing to heed. -/
theorem heedful_of_obeys {program : Session (Except Failure First)}
    {ends : History → Except Failure First → Prop} {past : History}
    (obeys : program.Obeys (fun _ asked => asked.heeds = false) ends past) : Heedful program := by
  induction program generalizing past with
  | done result => trivial
  | ask asked resume inductionHypothesis =>
    exact ⟨heeds_of_unheeding obeys.1, fun reply => inductionHypothesis reply (obeys.2 reply)⟩

/-- A question with nothing to heed in front of what is done with its answer. -/
theorem heedful_question_bind {asked : Question} {next : Answer asked → Procedure First}
    (unheeding : asked.heeds = false) (continues : ∀ reply, Heedful (next reply).run) :
    Heedful (liftM (question asked : Session (Answer asked)) >>= next).run :=
  ⟨heeds_of_unheeding unheeding, continues⟩

/-- A call is heedful: it does not tell of a stop. -/
theorem heedful_perform {call : Call} {account : Option Component} {target : Option String} :
    Heedful (Procedure.perform call account target).run := by
  have obeys : (Procedure.perform call account target).run.Obeys
      (fun _ asked => asked.heeds = false) (fun _ _ => True) [] :=
    Procedure.obeys_perform rfl (fun _ => trivial) fun _ => trivial
  exact heedful_of_obeys obeys

theorem heedful_observe {tolerates : Tolerance} {asked : Option Component} :
    Heedful (Wait.observe tolerates asked).run := by
  rw [Wait.observe_run]
  exact ⟨trivial, fun _ => trivial⟩

/-- The pause of a wait, in front of its next status request. -/
theorem heedful_rest_bind {account : Option Component} {milliseconds : Nat}
    {next : Unit → Procedure First} (continues : Heedful (next ()).run)
    (asks : ∃ later, (next ()).run = .ask (.call (.getStatus account)) later) :
    Heedful (Procedure.rest account milliseconds >>= next).run := by
  obtain ⟨later, asks⟩ := asks
  rw [run_bind_of_ask (Procedure.rest_run account milliseconds)]
  refine ⟨⟨account, later, rfl, asks⟩, fun passed => ?_⟩
  cases passed with
  | true => exact continues
  | false => trivial

end Heedful

end Session

namespace Wait

variable {tolerates : Tolerance} {component : Option Component} {transition : Transition}
  {times : WaitTimes}

/-- A round begins with a look at the status. -/
theorem pollRound_asks {deadline : Option Nat} {again : Option (Unit → Procedure Observation)} :
    ∃ later, (pollRound tolerates component transition times deadline again).run =
      .ask (.call (.getStatus component)) later :=
  ⟨_, run_bind_of_ask (observe_run _ _)⟩

/-- A round is heedful if what it goes on with is and begins with a look at the status. -/
theorem heedful_pollRound {deadline : Option Nat} {again : Option (Unit → Procedure Observation)}
    (goesOn : ∀ next ∈ again, Heedful (next ()).run ∧
      ∃ later, (next ()).run = .ask (.call (.getStatus component)) later) :
    Heedful (pollRound tolerates component transition times deadline again).run := by
  refine heedful_bind heedful_observe fun observed => ?_
  by_cases reached : observed.status ∈ transition.target
  · simp only [reached, if_true]
    trivial
  · simp only [reached, if_false]
    by_cases pending : observed.status ∈ transition.pending
    · simp only [pending, not_true, if_false]
      refine heedful_question_bind rfl fun now => ?_
      cases again with
      | none => trivial
      | some next =>
        cases paused : pauseAt? times deadline now with
        | none => trivial
        | some milliseconds => exact heedful_rest_bind (goesOn next rfl).1 (goesOn next rfl).2
    · simp only [pending, not_false_iff, if_true]
      trivial

/-- However many rounds are left, polling is heedful. -/
theorem heedful_pollUntil {deadline : Option Nat} (bound : Nat) :
    Heedful (pollUntil tolerates component transition times deadline bound).run ∧
      ∃ later, (pollUntil tolerates component transition times deadline bound).run =
        .ask (.call (.getStatus component)) later := by
  induction bound with
  | zero => exact ⟨heedful_pollRound nofun, pollRound_asks⟩
  | succ bound inductionHypothesis =>
    refine ⟨heedful_pollRound fun next member => ?_, pollRound_asks⟩
    obtain rfl := Option.some.inj member
    exact inductionHypothesis

theorem heedful_await : Heedful (await tolerates component transition times).run := by
  refine ⟨trivial, fun start => ?_⟩
  exact heedful_rest_bind (heedful_pollUntil _).1 (heedful_pollUntil _).2

end Wait

namespace Run

variable {run : Run}

/-- There is nothing to heed while checks are started. -/
theorem startChecks_unheeding {checked : List Component} {past : History} :
    (startChecks checked).Obeys (fun _ asked => asked.heeds = false) (fun _ _ => True) past := by
  induction checked generalizing past with
  | nil => trivial
  | cons component rest inductionHypothesis =>
    refine ⟨rfl, fun answer => ?_⟩
    cases answer with
    | ok _ =>
      change Obeys _ _ ((startChecks rest).andThen fun started => .done (component :: started)) _
      exact obeys_andThen.2 inductionHypothesis
    | error _ => exact inductionHypothesis

/-- Every step of a run heeds what it is told. -/
def heeding (run : Run) : run.Argument where
  holds _ _ := True
  leads _ step _ := Heedful step.run
  leads_pure _ _ := trivial
  leads_bind begins continues := heedful_bind begins fun value => continues [] value trivial
  leads_stop _ goesOn := by
    refine ⟨⟨_, rfl⟩, fun stop => ?_⟩
    cases stop with
    | true => trivial
    | false => exact goesOn [] trivial (by rintro ⟨_, _, same⟩; simp at same)
  leads_probe _ _ := heedful_observe
  leads_perform _ _ _ := heedful_perform
  leads_await _ _ _ := Wait.heedful_await
  leaves _ := trivial
  leads_checks {checked past} _ := by
    have obeys : (liftM (startChecks checked) : Procedure (List Component)).run.Obeys
        (fun _ asked => asked.heeds = false) (fun _ _ => True) past :=
      obeys_lift startChecks_unheeding
    exact heedful_of_obeys obeys

/-- A run ends at once when it is told to stop. -/
theorem heedful_execute (run : Run) : Heedful (run.execute {}).run := by
  have begins : run.heeding.holds .between [] := True.intro
  exact run.heeding.execute begins

/-- Where it was told to stop at the beginning of a turn, it is said which turn that was. -/
def NamesTurn {Value : Type} (past : History) (result : Except Failure Value) : Prop :=
  ∀ account earlier, result = .error (.cancelled account) →
    past = earlier ++ [⟨.stopRequested, true⟩] →
    ∃ component, account = some component ∧ Component.ordered[turns earlier]? = some component

/-- A run names the component whose turn has come when it is stopped. -/
theorem drive_namesTurn {done rest : List Component} {partialSeen : Bool} {past : History}
    (split : done ++ rest = Component.ordered) (turned : turns past = done.length) :
    (run.drive {} rest partialSeen).run.Obeys (fun _ _ => True) NamesTurn past := by
  induction rest generalizing done partialSeen past with
  | nil => exact nofun
  | cons component rest inductionHypothesis =>
    have next : done ++ [component] ++ rest = Component.ordered := by
      rw [List.append_assoc]
      exact split
    refine obeys_question_bind trivial fun stop => ?_
    have asked : turns (past ++ [⟨.stopRequested, stop⟩]) = (done ++ [component]).length := by
      rw [turns_append, turned, List.length_append]
      rfl
    cases stop with
    | true =>
      intro account earlier cancelled last
      cases cancelled
      obtain ⟨rfl, -⟩ := List.append_inj' last rfl
      refine ⟨component, rfl, ?_⟩
      rw [turned, ← split]
      simp
    | false =>
      by_cases skipped : (decide (component = .management) && partialSeen) = true
      · rw [if_neg Bool.false_ne_true, if_pos skipped]
        exact obeys_bind (inductionHypothesis next asked) (fun _ _ _ => nofun)
          fun past failure names account earlier cancelled => by
            cases cancelled
            exact names account earlier rfl
      · rw [if_neg Bool.false_ne_true, if_neg skipped]
        have turn := (driveComponent_onCourse run component).after (past ++ [⟨.stopRequested, false⟩])
        rw [List.append_nil] at turn
        refine obeys_bind (turn.mono (fun _ _ _ => trivial) fun _ _ ended => ended) ?_ ?_
        · rintro _ report ⟨own, rfl, onCourse, -⟩
          have turned : turns (past ++ [⟨.stopRequested, false⟩] ++ own) =
              (done ++ [component]).length := by
            rw [turns_append, asked, onCourse.turns_eq]
            rfl
          exact obeys_bind (inductionHypothesis next turned) (fun _ _ _ => nofun)
            fun past failure names account earlier cancelled => by
              cases cancelled
              exact names account earlier rfl
        · rintro _ failure ⟨own, rfl, onCourse, asks⟩ account earlier - last
          exact absurd last (onCourse.not_asked_last asks)

/-- A run that is stopped names the component whose turn has come. -/
theorem execute_namesTurn (run : Run) :
    (run.execute {}).run.Obeys (fun _ _ => True) NamesTurn [] := by
  have split : [] ++ Component.ordered = Component.ordered := rfl
  refine obeys_bind (drive_namesTurn split rfl) ?_ ?_
  · intro past reports _
    have checked : (liftM run.dispatchChecks : Procedure (List Component)).run.Obeys
        (fun _ _ => True) (fun _ outcome => ∃ started, outcome = .ok started) past :=
      obeys_lift (startChecks_unheeding.mono (fun _ _ _ => trivial) fun _ started _ => ⟨started, rfl⟩)
    refine obeys_bind checked (fun _ _ _ => nofun) ?_
    rintro past failure ⟨started, same⟩
    cases same
  · intro past failure names account earlier cancelled
    cases cancelled
    exact names account earlier rfl

/-- How the exchanges of a run end that was told to stop, and on whose account it ended. -/
inductive Halted (run : Run) : History → Option Component → Prop where
  /-- The turn of a component has come up. -/
  | turning {earlier : History} {component : Component}
      (first : Component.ordered[turns earlier]? = some component) :
      Halted run (earlier ++ [⟨.stopRequested, true⟩]) (some component)
  /-- A pause was broken off after which the status would have been asked for. -/
  | waiting {earlier : History} {account : Option Component} (milliseconds : Nat)
      (next : Asks (run.execute {}).run (earlier ++ [⟨.sleep milliseconds, true⟩])
        (.call (.getStatus account))) :
      Halted run (earlier ++ [⟨.sleep milliseconds, false⟩]) account

/-- A run that ends because of a stop says on whose account. -/
theorem halted_of_cancelled {run : Run} {exchanges : History} {account : Option Component}
    (converses : Converses (run.execute {}).run exchanges (.error (.cancelled account))) :
    Halted run exchanges account := by
  have names := (execute_namesTurn run).concludes converses
  have begun := converses_iff_reaches_done.1 converses
  rcases (execute_failStop run _ _ converses).explained _ rfl with ⟨_, _, _, fatal⟩ | givesUp |
    ⟨earlier, exchange, _, rfl, stops, _⟩
  · cases fatal
  · cases givesUp
  · cases stops with
    | asked =>
      obtain ⟨component, rfl, first⟩ := names account earlier rfl rfl
      exact .turning first
    | woken milliseconds =>
      obtain ⟨resume, asked⟩ := begun.asks
      obtain ⟨named, later, stopped, passed⟩ := ((heedful_execute run).reaches asked).1
      obtain rfl : named = account := by
        cases stopped.symm.trans (converses.of_last asked)
        rfl
      refine .waiting milliseconds ⟨later, ?_⟩
      rw [← passed]
      exact asked.answered true

end Run

end FabricUpgrade
