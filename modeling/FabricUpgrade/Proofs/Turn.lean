import FabricUpgrade.Proofs.Discipline
import FabricUpgrade.Proofs.Waiting

/-!
# The turn of a component

Each step of a turn has one lemma, which says both which questions the step asks and what is known
when it ends.  `Session.Permitted` is the rule for the questions: each names no other component, and
each call is disciplined.  What is known at the end of a turn is that its report is truthful.
-/

namespace FabricUpgrade

open Program Session

namespace Session

/-- The component that a question names. -/
def Question.component? : Question → Option Component
  | .call (.getStatus component) | .call (.listGroups component) => component
  | .call (.getSettings component) | .call (.updateSettings component _)
  | .call (.reset component) | .call (.upgrade component)
  | .call (.getGroupStatus component) | .call (.checkUpgraded component) => some component
  | _ => none

/-- The question may be asked in the turn of the component. -/
structure Permitted (run : Run) (component : Component) (past : History) (question : Question) :
    Prop where
  /-- It names no other component. -/
  within : ∀ other, question.component? = some other → other = component
  orderly : Orderly run past question

/-- The upgrade of the component was launched. -/
def Launched (component : Component) (past : History) : Prop :=
  ∃ exchange ∈ past, ∃ reply, exchange = ⟨.call (.upgrade component), .ok reply⟩

variable {run : Run} {past : History} {component other : Component} {call : Call}
  {question : Question} {exchange : Program.Exchange Question Answer}

/-- A component may be named in its own turn. -/
theorem own (same : some component = some other) : other = component :=
  (Option.some.inj same).symm

namespace Permitted

/-- A disciplined call is permitted in the turn of the component that it concerns. -/
theorem of_call (within : ∀ other, (Question.call call).component? = some other →
    other = component) (disciplined : Disciplined run past call) :
    Permitted run component past (.call call) :=
  ⟨within, disciplined.orderly⟩

/-- A call that only reads may be made where it names no other component. -/
theorem of_reading (within : ∀ other, (Question.call call).component? = some other →
    other = component) (reads : call.changes = false) :
    Permitted run component past (.call call) :=
  of_call within (.of_reading reads)

/-- What a wait asks is permitted in the turn of the component that it waits for. -/
theorem of_waits {asked : Option Component} (waits : Waits asked question)
    (within : ∀ other, asked = some other → other = component) :
    Permitted run component past question := by
  cases waits with
  | probe => exact of_reading within rfl
  | now => exact ⟨nofun, nofun⟩
  | sleep _ => exact ⟨nofun, nofun⟩

/-- It may always be asked whether to stop. -/
theorem stopRequested : Permitted run component past .stopRequested :=
  ⟨nofun, nofun⟩

end Permitted

namespace Launched

/-- What was launched stays launched. -/
theorem snoc (launched : Launched component past) : Launched component (past ++ [exchange]) := by
  obtain ⟨launch, member, launches⟩ := launched
  exact ⟨launch, List.mem_append_left _ member, launches⟩

/-- What is launched with success was launched. -/
theorem of_upgrade {reply : Unit} :
    Launched component (past ++ [⟨.call (.upgrade component), .ok reply⟩]) :=
  ⟨_, by simp, reply, rfl⟩

/-- Only a launch of the component launches it. -/
theorem of_snoc (launched : Launched component (past ++ [exchange]))
    (other : exchange.question ≠ .call (.upgrade component)) : Launched component past := by
  obtain ⟨launch, member, reply, rfl⟩ := launched
  rcases List.mem_append.1 member with old | new
  · exact ⟨_, old, reply, rfl⟩
  · exact absurd (by rw [← List.mem_singleton.1 new]) other

end Launched

/-- The turn of another component launches nothing of this one. -/
theorem Permitted.not_upgrade (permitted : Permitted run other past question)
    (differs : component ≠ other) : question ≠ .call (.upgrade component) := by
  rintro rfl
  exact differs (permitted.within component rfl)

/-- No other component is looked at in a turn. -/
theorem Permitted.not_probe (permitted : Permitted run other past question)
    (differs : component ≠ other) : question ≠ .call (.getStatus (some component)) := by
  rintro rfl
  exact differs (permitted.within component rfl)

end Session

/-- What the report of a component says is what was done and what was seen last. -/
structure ComponentReport.Truthful (run : Run) (past : History) (report : ComponentReport) :
    Prop where
  seen : ∀ observed, report.final = some observed →
    ∃ since, LatestProbe (some report.component) past observed since
  succeeded : report.outcome = .alreadySucceeded ∨ report.outcome = .completed →
    ∃ observed, report.final = some observed ∧ observed.status = .success
  stopped : report.outcome = .partiallyCompleted → ∃ observed, report.final = some observed ∧
    (observed.status = .success ∨ observed.status = .paused)
  launched : report.outcome = .partiallyCompleted ↔
    Launched report.component past ∧ run.isPartial report.component = true

/-- A report stays truthful while its component is neither looked at nor launched. -/
theorem ComponentReport.Truthful.snoc {run : Run} {past : History} {report : ComponentReport}
    {exchange : Exchange Question Answer} (truthful : report.Truthful run past)
    (unprobed : exchange.question ≠ .call (.getStatus (some report.component)))
    (unlaunched : exchange.question ≠ .call (.upgrade report.component)) :
    report.Truthful run (past ++ [exchange]) where
  seen observed final := by
    obtain ⟨since, latest⟩ := truthful.seen observed final
    exact ⟨since ++ [exchange], latest.snoc unprobed⟩
  succeeded := truthful.succeeded
  stopped := truthful.stopped
  launched := by
    rw [truthful.launched]
    constructor
    · rintro ⟨launched, isPartial⟩
      exact ⟨launched.snoc, isPartial⟩
    · rintro ⟨launched, isPartial⟩
      exact ⟨launched.of_snoc unlaunched, isPartial⟩

/-- A call that has to succeed, in front of what is done with its reply. -/
theorem Procedure.obeys_perform_bind {Next : Type} {rule : Rule Question Answer} {past : History}
    {call : Call} {component : Option Component} {target : Option String}
    {next : call.Reply → Procedure Next} {suits : History → Next → Prop}
    (permitted : rule past (.call call))
    (continues : ∀ reply, (next reply).run.Obeys rule (Returning suits)
      (past ++ [⟨.call call, .ok reply⟩])) :
    (perform call component target >>= next).run.Obeys rule (Returning suits) past := by
  -- The reply is the answer of the last exchange, which the plain rule for sequences would forget.
  refine obeys_andThen.2 ((obeys_perform permitted (fun reply => ?_) fun error => ?_))
  · exact continues reply
  · trivial

namespace Plan

variable {run : Run} {past : History} {component : Component}

/-- A step of the configuration of a component, in front of the steps after it. -/
theorem obeys_configuring_bind {Next : Type} {call : Call} {target : Option String}
    {next : call.Reply → Procedure Next} {suits : History → Next → Prop}
    (configures : call.configures = true)
    (within : ∀ other, (Question.call call).component? = some other → other = component)
    (disciplined : Disciplined run past call) (configurable : Configurable component past)
    (continues : ∀ past reply, Configurable component past →
      (next reply).run.Obeys (Permitted run component) (Returning suits) past) :
    (Procedure.perform call (some component) target >>= next).run.Obeys (Permitted run component)
      (Returning suits) past :=
  Procedure.obeys_perform_bind (.of_call within disciplined) fun reply =>
    continues _ reply (configurable.snoc configures)

/-- The groups are configured while their component is being prepared, and it still is then. -/
theorem configureGroupsAfter_obeys {previous : Option String} {declared : List DeclaredGroup}
    (declares : ∀ group ∈ declared, run.DeclaresGroup component group.id)
    (configurable : Configurable component past) :
    (configureGroupsAfter component previous declared).run.Obeys (Permitted run component)
      (Returning fun past _ => Configurable component past) past := by
  induction declared generalizing previous past with
  | nil => exact configurable
  | cons group rest inductionHypothesis =>
    have first : run.DeclaresGroup component group.id := declares group (by simp)
    have later : ∀ group ∈ rest, run.DeclaresGroup component group.id := fun group member =>
      declares group (List.mem_cons_of_mem _ member)
    cases previous with
    | none =>
      refine obeys_configuring_bind rfl nofun (.of_reading rfl) configurable
        fun past group configurable => ?_
      refine obeys_configuring_bind rfl nofun (.of_group rfl configurable first) configurable
        fun past _ configurable => ?_
      exact inductionHypothesis later configurable
    | some anchor =>
      refine obeys_configuring_bind rfl nofun (.of_reading rfl) configurable
        fun past group configurable => ?_
      refine obeys_configuring_bind rfl nofun (.of_group rfl configurable first) configurable
        fun past _ configurable => ?_
      refine obeys_configuring_bind rfl nofun (.of_group rfl configurable first) configurable
        fun past _ configurable => ?_
      exact inductionHypothesis later configurable

/-- The settings are configured while their component is being prepared, and it still is then. -/
theorem configureSettings_obeys {declared : Option DeclaredSettings}
    (configurable : Configurable component past) :
    (configureSettings component declared).run.Obeys (Permitted run component)
      (Returning fun past _ => Configurable component past) past := by
  cases declared with
  | none => exact configurable
  | some settings =>
    refine obeys_configuring_bind rfl (fun _ => own) (.of_reading rfl) configurable
      fun past settings configurable => ?_
    refine obeys_configuring_bind rfl (fun _ => own) (.of_updateSettings configurable) configurable
      fun past _ configurable => ?_
    exact configurable

end Plan

namespace Run

variable {run : Run} {past : History} {component : Component} {entry : Observation}

/-- To settle a component is to pause it, to wait for it or to take it as it is. -/
theorem settle_cases (run : Run) (component : Component) (entry : Observation) :
    (component.customizable = true ∧ entry.status = .inProgress ∧
      run.settle {} component entry = (do
        Procedure.perform .pause (some component) none
        run.await {} (some component) Transition.untilStable)) ∨
    run.settle {} component entry = run.await {} (some component) Transition.untilStable ∨
    ((entry.status.isStable = true ∨ component.customizable = false) ∧
      run.settle {} component entry = return entry) := by
  unfold settle
  by_cases working : (component.customizable && entry.status.isInFlight) = true
  · rw [if_pos working]
    by_cases pausable : entry.status = .inProgress
    · exact .inl ⟨(Bool.and_eq_true_iff.1 working).1, pausable, if_pos pausable⟩
    · exact .inr (.inl (if_neg pausable))
  · rw [if_neg working]
    by_cases pausing : entry.status = .pausing
    · exact .inr (.inl (if_pos pausing))
    · refine .inr (.inr ⟨?_, if_neg pausing⟩)
      by_cases customizable : component.customizable = true
      · simp [customizable] at working
        simp [Status.isStable, working]
      · simp [customizable]

/-- The last wait of a turn and the report of it. -/
def finish (run : Run) (component : Component) : Procedure ComponentReport := do
  let final ← run.await {} (some component) (.ofUpgrade (run.isPartial component))
  return ⟨component, if run.isPartial component then .partiallyCompleted else .completed,
    some final⟩

/-- What is left of the turn of a component that has settled. -/
def conclude (run : Run) (component : Component) (entry : Observation) :
    Procedure ComponentReport := do
  if entry.status = .success then return ⟨component, .alreadySucceeded, some entry⟩
  unless entry.status.isInFlight do run.launch {} component
  run.finish component

/-- A turn looks at its component, lets it settle and then concludes. -/
theorem driveComponent_eq (run : Run) (component : Component) :
    run.driveComponent {} component = (do
      let entry ← run.settle {} component (← Wait.probe (some component))
      run.conclude component entry) :=
  rfl

/-- To conclude a turn is to report a component that is done, to wait for one that is at work or to
launch one that is at rest. -/
theorem conclude_cases (run : Run) (component : Component) (entry : Observation) :
    (entry.status = .success ∧
      run.conclude component entry = return ⟨component, .alreadySucceeded, some entry⟩) ∨
    (entry.status.isInFlight = true ∧ run.conclude component entry = run.finish component) ∨
    (entry.status ≠ .success ∧ entry.status.isStable = true ∧
      run.conclude component entry = (do
        run.launch {} component
        run.finish component)) := by
  unfold conclude
  by_cases succeeded : entry.status = .success
  · exact .inl ⟨succeeded, if_pos succeeded⟩
  · rw [if_neg succeeded]
    by_cases working : entry.status.isInFlight = true
    · exact .inr (.inl ⟨working, if_pos working⟩)
    · exact .inr (.inr ⟨succeeded, by simp [Status.isStable, working], if_neg working⟩)

/-- The plan of a ready component is reset, and then it is configured. -/
theorem prepare_obeys (ready : Ready component past) :
    (run.prepare component).run.Obeys (Permitted run component)
      (Returning fun past _ => Configurable component past) past := by
  refine Procedure.obeys_perform_bind (.of_call (fun _ => own) (.of_reset ready)) fun reply => ?_
  have configurable : Configurable component (past ++ [⟨.call (.reset component), .ok reply⟩]) :=
    .of_reset ready rfl
  cases declared : run.plan? component with
  | none => exact configurable
  | some plan =>
    refine obeys_bind_returning (Plan.configureGroupsAfter_obeys (fun group member => ?_)
      configurable) fun past _ configurable => Plan.configureSettings_obeys configurable
    exact ⟨plan, declared, group, member, rfl⟩

/-- A wait ends well with a probe that shows a status of its target, and what its questions keep up
is there right in front of that probe. -/
theorem await_obeys {policy : Policy} {asked : Option Component} {transition : Transition}
    {rule : Rule Question Answer} (kept : History → Prop)
    (arrives : .inProgress ∉ transition.target)
    (permits : ∀ past question, kept past → Waits asked question → rule past question)
    (keeps : ∀ past (exchange : Exchange Question Answer), kept past →
      Waits asked exchange.question → kept (past ++ [exchange])) (holds : kept past) :
    (run.await policy asked transition).run.Obeys rule (Returning fun past observed =>
      ∃ earlier probe, past = earlier ++ [probe] ∧ kept earlier ∧ Shows asked probe observed ∧
        observed.status ∈ transition.target) past := by
  refine Wait.await_obeys permits keeps (fun past answer observed holds reads reached => ?_)
    (fun _ _ _ => trivial) holds
  have settled : observed.status ≠ .inProgress := fun working => arrives (working ▸ reached)
  exact ⟨past, _, rfl, holds, Wait.shows_of_reading reads settled, reached⟩

/-- A wait for a stable status does not end in progress. -/
theorem inProgress_not_mem_untilStable : .inProgress ∉ Transition.untilStable.target := by
  decide

/-- A wait for an upgrade does not end in progress. -/
theorem inProgress_not_mem_ofUpgrade {staysPartial : Bool} :
    .inProgress ∉ (Transition.ofUpgrade staysPartial).target := by
  cases staysPartial <;> decide

/-- What is known of a component that was made to settle: the last probe, and that only a component
that cannot be paused may still be at work. -/
def Settled (component : Component) (past : History) (observed : Observation) : Prop :=
  LatestProbe (some component) past observed [] ∧
    (observed.status.isStable = true ∨ component.customizable = false)

/-- Waiting for a component to settle settles it. -/
theorem await_settled_obeys {rule : Rule Question Answer}
    (permits : ∀ past question, Waits (some component) question → rule past question) :
    (run.await {} (some component) Transition.untilStable).run.Obeys rule
      (Returning (Settled component)) past := by
  refine (await_obeys (fun _ => True) inProgress_not_mem_untilStable
    (fun past question _ waits => permits past question waits) (fun _ _ _ _ => trivial)
    trivial).mono (fun _ _ permitted => permitted) fun past outcome returning =>
      returning.mono ?_
  rintro observed ⟨earlier, probe, rfl, -, shows, reached⟩
  exact ⟨.of_shows shows, .inl (Transition.mem_untilStable_target.1 reached)⟩

/-- Settling launches nothing, and it pauses right after a probe. -/
theorem settle_obeys {earlier : History} {probe : Exchange Question Answer}
    (shows : Shows (some component) probe entry) :
    (run.settle {} component entry).run.Obeys
      (fun past question => Permitted run component past question ∧
        question ≠ .call (.upgrade component))
      (Returning (Settled component)) (earlier ++ [probe]) := by
  have waits : ∀ past question, Waits (some component) question →
      Permitted run component past question ∧ question ≠ .call (.upgrade component) :=
    fun past question waits => ⟨.of_waits waits fun _ => own, by rintro rfl; cases waits⟩
  rcases settle_cases run component entry with ⟨customizable, pausable, same⟩ | same |
    ⟨settled, same⟩ <;> rw [same]
  · refine Procedure.obeys_perform_bind ⟨.of_call nofun ?_, nofun⟩ fun _ =>
      await_settled_obeys waits
    exact .of_pause customizable shows pausable
  · exact await_settled_obeys waits
  · exact ⟨.of_shows shows, settled⟩

/-- What has not been launched before it settles has not been launched after that. -/
theorem settle_obeys_fresh {earlier : History} {probe : Exchange Question Answer}
    (shows : Shows (some component) probe entry)
    (fresh : ¬ Launched component (earlier ++ [probe])) :
    (run.settle {} component entry).run.Obeys (Permitted run component)
      (Returning fun past observed => ¬ Launched component past ∧ Settled component past observed)
      (earlier ++ [probe]) := by
  refine Obeys.mono ((settle_obeys shows).keeps_returning (fun past => ¬ Launched component past)
    fresh ?_) (fun _ _ permitted => permitted.1) fun _ _ ended => ended
  exact fun past exchange permitted fresh launched => fresh (launched.of_snoc permitted.2)

/-- A component that was last seen at rest and not yet upgraded is launched, once everything is at
rest and, where it has a plan, the plan is reset and configured. -/
theorem launch_obeys {since : History} (latest : LatestProbe (some component) past entry since)
    (stable : entry.status.isStable = true) (unfinished : entry.status ≠ .success) :
    (run.launch {} component).run.Obeys (Permitted run component)
      (Returning fun past _ => Launched component past) past := by
  have known : ∀ past (exchange : Exchange Question Answer),
      (∃ since, LatestProbe (some component) past entry since) → Waits none exchange.question →
      ∃ since, LatestProbe (some component) (past ++ [exchange]) entry since := by
    rintro past exchange ⟨since, latest⟩ waits
    refine ⟨since ++ [exchange], latest.snoc fun same => ?_⟩
    rw [same] at waits
    cases waits
  refine obeys_bind_returning (await_obeys
    (fun past => ∃ since, LatestProbe (some component) past entry since)
    inProgress_not_mem_untilStable (fun past question _ waits => .of_waits waits nofun) known
    ⟨since, latest⟩) ?_
  rintro past overall ⟨earlier, probe, rfl, ⟨since, latest⟩, shows, reached⟩
  have ready : Ready component (earlier ++ [probe]) :=
    ⟨entry, since ++ [probe], overall, [], latest.snoc (by simp [shows.question]), stable,
      unfinished, .of_shows shows, Transition.mem_untilStable_target.1 reached⟩
  by_cases customizable : component.customizable = true
  · simp only [customizable]
    refine obeys_bind_returning (prepare_obeys ready) fun past _ configurable => ?_
    exact Procedure.obeys_perform (.of_call (fun _ => own)
      (.of_upgrade configurable.ready fun _ => configurable.preparing)) (fun _ => .of_upgrade)
      fun _ => trivial
  · simp only [customizable]
    exact Procedure.obeys_perform (.of_call (fun _ => own)
      (.of_upgrade ready fun prepared => absurd prepared customizable)) (fun _ => .of_upgrade)
      fun _ => trivial

/-- The first probe of a turn launches nothing. -/
theorem probe_obeys (fresh : ¬ Launched component past) :
    (Wait.probe (some component)).run.Obeys (Permitted run component)
      (Returning fun past entry => ∃ earlier probe, past = earlier ++ [probe] ∧
        Shows (some component) probe entry ∧ ¬ Launched component past) past := by
  refine Wait.obeys_observe (.of_waits .probe fun _ => own) fun answer => ?_
  cases reads : Wait.reading Tolerance.none (some component) answer with
  | error _ => trivial
  | ok observed =>
    exact ⟨past, _, rfl, Wait.shows_of_reading_none reads, fun launched =>
      fresh (launched.of_snoc nofun)⟩

/-- The last wait of a turn, for a component that was launched if it can be upgraded in part. -/
theorem finish_obeys (launched : run.isPartial component = true → Launched component past) :
    (run.finish component).run.Obeys (Permitted run component)
      (Returning fun past report => report.component = component ∧ report.outcome ≠ .skipped ∧
        report.Truthful run past) past := by
  refine obeys_bind_returning (await_obeys
    (fun past => run.isPartial component = true → Launched component past)
    inProgress_not_mem_ofUpgrade (fun past question _ waits => .of_waits waits fun _ => own)
    (fun past exchange launched _ isPartial => (launched isPartial).snoc) launched) ?_
  rintro past final ⟨earlier, probe, rfl, launched, shows, reached⟩
  have seen : ∀ observed, some final = some observed →
      ∃ since, LatestProbe (some component) (earlier ++ [probe]) observed since := by
    rintro observed same
    cases same
    exact ⟨[], .of_shows shows⟩
  rw [Transition.mem_ofUpgrade_target] at reached
  by_cases isPartial : run.isPartial component = true
  · simp only [isPartial, if_true]
    refine ⟨rfl, nofun, seen, nofun, fun _ => ⟨final, rfl, ?_⟩, ?_⟩
    · exact reached.imp_right And.right
    · exact ⟨fun _ => ⟨(launched isPartial).snoc, isPartial⟩, fun _ => rfl⟩
  · simp only [isPartial]
    refine ⟨rfl, nofun, seen, fun _ => ⟨final, rfl, ?_⟩, nofun, ?_⟩
    · exact reached.resolve_right fun paused => isPartial paused.1
    · exact ⟨nofun, fun launched => absurd launched.2 isPartial⟩

/-- A component that cannot be configured is never upgraded in part. -/
theorem isPartial_eq_false (fixed : component.customizable = false) :
    run.isPartial component = false := by
  cases component <;> first | rfl | cases fixed

/-- A turn asks what is permitted in it, and its report is truthful. -/
theorem driveComponent_obeys (run : Run) (fresh : ¬ Launched component past) :
    (run.driveComponent {} component).run.Obeys (Permitted run component)
      (Returning fun past report => report.component = component ∧ report.outcome ≠ .skipped ∧
        report.Truthful run past) past := by
  rw [driveComponent_eq]
  refine obeys_bind_returning (probe_obeys fresh) ?_
  rintro _ entry ⟨earlier, probe, rfl, shows, fresh⟩
  refine obeys_bind_returning (settle_obeys_fresh shows fresh) ?_
  rintro past entry ⟨fresh, latest, settled⟩
  rcases conclude_cases run component entry with ⟨succeeded, same⟩ | ⟨working, same⟩ |
    ⟨unfinished, stable, same⟩ <;> rw [same]
  · refine ⟨rfl, nofun, fun observed final => ?_, fun _ => ⟨entry, rfl, succeeded⟩, nofun, nofun,
      fun launched => absurd launched.1 fresh⟩
    cases final
    exact ⟨[], latest⟩
  · have fixed : component.customizable = false :=
      settled.resolve_left (by simp [Status.isStable, working])
    exact finish_obeys (by simp [isPartial_eq_false fixed])
  · exact obeys_bind_returning (launch_obeys latest stable unfinished)
      fun past _ launched => finish_obeys fun _ => launched

end Run

end FabricUpgrade
