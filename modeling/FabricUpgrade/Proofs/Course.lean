import FabricUpgrade.Proofs.Argument

/-!
# The course of a turn

`Session.InTurn` says what may be asked in the turn of a component, with one constructor for each
kind of step, by what was asked in that turn before: waits at any time, a pause right after a probe,
a reset before anything else is changed, the configuration after it, and one launch.
`Run.driveComponent_inTurn` says that turns keep to this.
-/

namespace FabricUpgrade

open Program Session

namespace Session

/-- No plan has been reset and nothing has been launched. -/
def Unplanned (during : History) : Prop :=
  ∀ exchange ∈ during, ¬ Replans exchange.question

/-- The upgrade of the component has not been asked for. -/
def Unlaunched (component : Component) (during : History) : Prop :=
  ∀ exchange ∈ during, exchange.question ≠ .call (.upgrade component)

/-- What may be asked in the turn of a component after what was asked in it before. -/
inductive InTurn (component : Component) (during : History) : Question → Prop where
  | waiting {asked : Option Component} {question : Question}
      (within : ∀ other, asked = some other → other = component) (waits : Waits asked question) :
      InTurn component during question
  | pausing {earlier : History} {probe : Exchange Question Answer}
      (customizable : component.customizable = true) (last : during = earlier ++ [probe])
      (probes : probe.question = .call (.getStatus (some component))) :
      InTurn component during (.call .pause)
  | resetting (customizable : component.customizable = true) (unplanned : Unplanned during) :
      InTurn component during (.call (.reset component))
  | configuring {call : Call} (customizable : component.customizable = true)
      (configures : call.configures = true)
      (within : ∀ other, (Question.call call).component? = some other → other = component)
      (preparing : Preparing component during) : InTurn component during (.call call)
  | launching (unlaunched : Unlaunched component during) :
      InTurn component during (.call (.upgrade component))

/-- Everything that was asked in the turn of the component might be asked in it. -/
def OnCourse (component : Component) (during : History) : Prop :=
  Throughout (fun earlier exchange => InTurn component earlier exchange.question) during

variable {component other : Component} {during : History} {question : Question} {call : Call}
  {exchange : Exchange Question Answer}

/-- A turn stays unplanned while nothing in it changes the plan. -/
theorem Unplanned.snoc (unplanned : Unplanned during) (keeps : ¬ Replans exchange.question) :
    Unplanned (during ++ [exchange]) := by
  intro asked member
  rcases List.mem_append.1 member with old | new
  · exact unplanned asked old
  · rw [List.mem_singleton.1 new]
    exact keeps

/-- What is not planned is not launched. -/
theorem Unplanned.unlaunched (unplanned : Unplanned during) : Unlaunched component during :=
  fun exchange member launches => unplanned exchange member ⟨component, .inr launches⟩

/-- A component stays unlaunched until it is launched. -/
theorem Unlaunched.snoc (unlaunched : Unlaunched component during)
    (keeps : exchange.question ≠ .call (.upgrade component)) :
    Unlaunched component (during ++ [exchange]) := by
  intro asked member
  rcases List.mem_append.1 member with old | new
  · exact unlaunched asked old
  · rw [List.mem_singleton.1 new]
    exact keeps

/-- A wait neither resets nor launches anything. -/
theorem Waits.not_replans {asked : Option Component} (waits : Waits asked question) :
    ¬ Replans question := by
  rintro ⟨component, rfl | rfl⟩
  · cases waits
  · cases waits

/-- What configures neither resets nor launches anything. -/
theorem not_replans_of_configures (configures : call.configures = true) :
    ¬ Replans (.call call) := by
  rintro ⟨component, same | same⟩
  · cases same
    cases configures
  · cases same
    cases configures

end Session

namespace Run

variable {run : Run} {component : Component} {during : History}

/-- A wait in a turn keeps up whatever each of its questions keeps up. -/
theorem await_inTurn {asked : Option Component} {transition : Transition} (kept : History → Prop)
    (within : ∀ other, asked = some other → other = component)
    (keeps : ∀ during (exchange : Exchange Question Answer), kept during →
      Waits asked exchange.question → kept (during ++ [exchange])) (holds : kept during) :
    (run.await {} asked transition).run.Obeys (InTurn component)
      (Returning fun during _ => kept during) during := by
  refine Wait.await_obeys ?_ keeps ?_ ?_ holds
  · intro during question _ waits
    exact .waiting within waits
  · intro during answer observed holds _ _
    exact keeps during _ holds .probe
  · intro during failure _
    trivial

/-- A wait keeps to its turn and plans nothing. -/
theorem await_inTurn_unplanned {asked : Option Component} {transition : Transition}
    (within : ∀ other, asked = some other → other = component) (unplanned : Unplanned during) :
    (run.await {} asked transition).run.Obeys (InTurn component)
      (Returning fun during _ => Unplanned during) during :=
  await_inTurn Unplanned within (fun _ _ unplanned waits => unplanned.snoc waits.not_replans) unplanned

/-- A probe keeps to its turn, plans nothing and is the last that was asked. -/
theorem probe_inTurn (unplanned : Unplanned during) :
    (Wait.probe (some component)).run.Obeys (InTurn component)
      (Returning fun during _ => Unplanned during ∧ ∃ earlier probe, during = earlier ++ [probe] ∧
        probe.question = .call (.getStatus (some component))) during := by
  apply Wait.obeys_observe
  · exact .waiting (fun _ => own) .probe
  · intro answer
    cases Wait.reading Tolerance.none (some component) answer with
    | error failure => trivial
    | ok observed => exact ⟨unplanned.snoc (Waits.not_replans .probe), during, _, rfl, rfl⟩

/-- Settling keeps to its turn and plans nothing, with the pause right behind the probe. -/
theorem settle_inTurn {entry : Observation} {earlier : History}
    {probe : Exchange Question Answer} (unplanned : Unplanned (earlier ++ [probe]))
    (probes : probe.question = .call (.getStatus (some component))) :
    (run.settle {} component entry).run.Obeys (InTurn component)
      (Returning fun during _ => Unplanned during) (earlier ++ [probe]) := by
  rcases settle_cases run component entry with ⟨customizable, _, same⟩ | same | ⟨_, same⟩
  · rw [same]
    apply Procedure.obeys_perform_bind
    · exact .pausing customizable rfl probes
    · intro reply
      apply await_inTurn_unplanned (fun _ => own)
      apply unplanned.snoc
      rintro ⟨component, pauses | pauses⟩ <;> cases pauses
  · rw [same]
    exact await_inTurn_unplanned (fun _ => own) unplanned
  · rw [same]
    exact unplanned

/-- While a component is configured its plan has been reset and it has not been launched. -/
theorem obeys_configuring {Next : Type} {call : Call} {target : Option String}
    {next : call.Reply → Procedure Next} {suits : History → Next → Prop}
    (customizable : component.customizable = true) (configures : call.configures = true)
    (within : ∀ other, (Question.call call).component? = some other → other = component)
    (preparing : Preparing component during) (unlaunched : Unlaunched component during)
    (continues : ∀ during reply, Preparing component during → Unlaunched component during →
      (next reply).run.Obeys (InTurn component) (Returning suits) during) :
    (Procedure.perform call (some component) target >>= next).run.Obeys (InTurn component)
      (Returning suits) during := by
  have unplanning : ¬ Replans (.call call) := not_replans_of_configures configures
  apply Procedure.obeys_perform_bind
  · exact .configuring customizable configures within preparing
  · intro reply
    apply continues
    · exact preparing.snoc unplanning
    · exact unlaunched.snoc fun launches => unplanning ⟨component, .inr launches⟩

/-- Configuring the groups keeps to the turn, behind its reset and in front of its launch. -/
theorem configureGroupsAfter_inTurn {previous : Option String} {declared : List DeclaredGroup}
    (customizable : component.customizable = true) (preparing : Preparing component during)
    (unlaunched : Unlaunched component during) :
    (Plan.configureGroupsAfter component previous declared).run.Obeys (InTurn component)
      (Returning fun during _ => Preparing component during ∧ Unlaunched component during)
      during := by
  induction declared generalizing previous during with
  | nil => exact ⟨preparing, unlaunched⟩
  | cons group rest inductionHypothesis =>
    refine obeys_configuring customizable rfl nofun preparing unlaunched
      fun during group preparing unlaunched => ?_
    refine obeys_configuring customizable rfl nofun preparing unlaunched
      fun during _ preparing unlaunched => ?_
    cases previous with
    | none => exact inductionHypothesis preparing unlaunched
    | some anchor =>
      refine obeys_configuring customizable rfl nofun preparing unlaunched
        fun during _ preparing unlaunched => ?_
      exact inductionHypothesis preparing unlaunched

/-- Configuring the settings keeps to the turn, in front of its launch. -/
theorem configureSettings_inTurn {declared : Option DeclaredSettings}
    (customizable : component.customizable = true) (preparing : Preparing component during)
    (unlaunched : Unlaunched component during) :
    (Plan.configureSettings component declared).run.Obeys (InTurn component)
      (Returning fun during _ => Unlaunched component during) during := by
  cases declared with
  | none => exact unlaunched
  | some settings =>
    refine obeys_configuring customizable rfl (fun _ => own) preparing unlaunched
      fun during _ preparing unlaunched => ?_
    refine obeys_configuring customizable rfl (fun _ => own) preparing unlaunched
      fun during _ preparing unlaunched => ?_
    exact unlaunched

/-- Preparing the component keeps to its turn and launches nothing. -/
theorem prepare_inTurn (customizable : component.customizable = true)
    (unplanned : Unplanned during) :
    (run.prepare component).run.Obeys (InTurn component)
      (Returning fun during _ => Unlaunched component during) during := by
  apply Procedure.obeys_perform_bind
  · exact .resetting customizable unplanned
  · intro reply
    have preparing : Preparing component (during ++ [⟨.call (.reset component), .ok reply⟩]) :=
      .of_reset rfl
    have unlaunched : Unlaunched component (during ++ [⟨.call (.reset component), .ok reply⟩]) :=
      unplanned.unlaunched.snoc nofun
    cases run.plan? component with
    | none => exact unlaunched
    | some plan =>
      apply obeys_bind_returning
      · exact configureGroupsAfter_inTurn customizable preparing unlaunched
      · intro during _ configured
        exact configureSettings_inTurn customizable configured.1 configured.2

/-- Launching the component keeps to its turn. -/
theorem launch_inTurn (unplanned : Unplanned during) :
    (run.launch {} component).run.Obeys (InTurn component) (Returning fun _ _ => True) during := by
  have launches : ∀ {during}, Unlaunched component during →
      (Procedure.perform (.upgrade component) (some component) none).run.Obeys (InTurn component)
        (Returning fun _ _ => True) during := by
    intro during unlaunched
    exact Procedure.obeys_perform (.launching unlaunched) (fun _ => trivial) fun _ => trivial
  refine obeys_bind_returning (await_inTurn_unplanned nofun unplanned) ?_
  intro during overall unplanned
  by_cases customizable : component.customizable = true
  · simp only [customizable]
    apply obeys_bind_returning (prepare_inTurn customizable unplanned)
    intro during _ unlaunched
    exact launches unlaunched
  · simp only [customizable]
    exact launches unplanned.unlaunched

/-- Waiting for the upgrade of the component keeps to its turn. -/
theorem finish_inTurn : (run.finish component).run.Obeys (InTurn component)
    (Returning fun _ _ => True) during := by
  apply obeys_bind_returning
  · exact await_inTurn (fun _ => True) (fun _ => own) (fun _ _ _ _ => trivial) trivial
  · intro during final _
    trivial

/-- Whatever driving a component asks belongs to its turn. -/
theorem driveComponent_inTurn (run : Run) (component : Component) :
    (run.driveComponent {} component).run.Obeys (InTurn component) (fun _ _ => True) [] := by
  have unplanned : Unplanned [] := by
    intro exchange member
    cases member
  have obeys : (run.driveComponent {} component).run.Obeys (InTurn component)
      (Returning fun _ _ => True) [] := by
    rw [driveComponent_eq]
    refine obeys_bind_returning (probe_inTurn unplanned) ?_
    rintro _ entry ⟨unplanned, earlier, probe, rfl, probes⟩
    refine obeys_bind_returning (settle_inTurn unplanned probes) ?_
    intro during entry unplanned
    rcases conclude_cases run component entry with ⟨_, same⟩ | ⟨_, same⟩ | ⟨_, _, same⟩
    · rw [same]
      trivial
    · rw [same]
      exact finish_inTurn
    · rw [same]
      refine obeys_bind_returning (launch_inTurn unplanned) ?_
      intro during _ _
      exact finish_inTurn
  exact obeys.mono (fun _ _ permitted => permitted) fun _ _ _ => trivial

/-- A turn begins with a probe of its component. -/
theorem driveComponent_run (run : Run) (component : Component) :
    ∃ resume, (run.driveComponent {} component).run =
      .ask (.call (.getStatus (some component))) resume := by
  have probed : (Wait.probe (some component)).run =
      .ask (.call (.getStatus (some component))) fun answer =>
        .done (Wait.reading Tolerance.none (some component) answer) :=
    Wait.observe_run _ _
  rw [driveComponent_eq]
  exact ⟨_, run_bind_of_ask probed⟩

/-- Turns keep to their course, from a first probe on. -/
theorem driveComponent_onCourse (run : Run) (component : Component) :
    (run.driveComponent {} component).run.Obeys
      (fun during question => (OnCourse component during ∧ InTurn component during question) ∧
        (during = [] → question = .call (.getStatus (some component))))
      (fun during _ => OnCourse component during ∧ during ≠ []) [] := by
  have obeys := (driveComponent_inTurn run component).throughout
  obtain ⟨resume, asks⟩ := driveComponent_run run component
  rw [asks] at obeys ⊢
  apply obeys.opens.mono
  · intro during question permitted
    exact permitted
  · intro during result ended
    exact ⟨ended.1.1, ended.2⟩

end Run

end FabricUpgrade
