import FabricUpgrade.Proofs.Turn

/-!
# A whole execution

An execution is a turn for each component and then the checks.  Since a turn names no component but
its own, what the report of a component says stays true through the turns after it.
-/

namespace FabricUpgrade

open Program Session

/-- The management plane is skipped exactly after a component that was upgraded in part; nothing
else is skipped. -/
def ComponentReport.Skips : Bool → List ComponentReport → Prop
  | _, [] => True
  | partialSeen, report :: rest =>
    (report.outcome = .skipped ↔ report.component = .management ∧ partialSeen = true) ∧
      Skips (partialSeen || report.outcome = .partiallyCompleted) rest

/-- What is known of reports when an execution has come to their end. -/
structure Run.Reported (run : Run) (components : List Component) (partialSeen : Bool)
    (past : History) (reports : List ComponentReport) : Prop where
  components : reports.map ComponentReport.component = components
  truthful : ∀ report ∈ reports, report.Truthful run past
  skips : ComponentReport.Skips partialSeen reports

namespace Run

variable {run : Run} {past : History} {component : Component} {components : List Component}

/-- A component stays unlaunched through the turn of another one. -/
theorem fresh_snoc {other : Component} {exchange : Exchange Question Answer}
    (permitted : Permitted run other past exchange.question) (differs : component ≠ other)
    (fresh : ¬ Launched component past) : ¬ Launched component (past ++ [exchange]) :=
  fun launched => fresh (launched.of_snoc (permitted.not_upgrade differs))

/-- Puts the report of a component in front of the reports of the turns after it. -/
theorem drive_obeys_cons {rest : List Component} {partialSeen later : Bool}
    {report : ComponentReport} (new : report.component ∉ rest)
    (truthful : report.Truthful run past)
    (skips : report.outcome = .skipped ↔ report.component = .management ∧ partialSeen = true)
    (flag : later = (partialSeen || report.outcome = .partiallyCompleted))
    (driven : (run.drive {} rest later).run.Obeys
      (fun past question => ∃ component ∈ rest, Permitted run component past question)
      (Returning (run.Reported rest later)) past) :
    (do return report :: (← run.drive {} rest later) : Procedure (List ComponentReport)).run.Obeys
      (fun past question => ∃ component ∈ report.component :: rest,
        Permitted run component past question)
      (Returning (run.Reported (report.component :: rest) partialSeen)) past := by
  have kept := driven.keeps_returning (fun past => report.Truthful run past) truthful (by
    rintro past exchange ⟨other, member, permitted⟩ truthful
    have differs : report.component ≠ other := fun same => new (same ▸ member)
    exact truthful.snoc (permitted.not_probe differs) (permitted.not_upgrade differs))
  refine obeys_bind_returning (kept.mono ?_ fun _ _ ended => ended) ?_
  · rintro past question ⟨other, member, permitted⟩
    exact ⟨other, List.mem_cons_of_mem _ member, permitted⟩
  · rintro past reports ⟨truthful, reported⟩
    refine ⟨congrArg (report.component :: ·) reported.components, ?_, skips, ?_⟩
    · rintro entry member
      rcases List.mem_cons.1 member with rfl | old
      · exact truthful
      · exact reported.truthful entry old
    · exact flag ▸ reported.skips

/-- The turns of components, each of which comes up once and was not launched before. -/
theorem drive_obeys {partialSeen : Bool} (once : components.Nodup)
    (fresh : ∀ component ∈ components, ¬ Launched component past) :
    (run.drive {} components partialSeen).run.Obeys
      (fun past question => ∃ component ∈ components, Permitted run component past question)
      (Returning (run.Reported components partialSeen)) past := by
  induction components generalizing partialSeen past with
  | nil => exact ⟨rfl, by simp, trivial⟩
  | cons component rest inductionHypothesis =>
    obtain ⟨new, restOnce⟩ := List.nodup_cons.1 once
    have asked : (liftM Session.stopRequested : Procedure Bool).run.Obeys
        (fun past question => ∃ other ∈ component :: rest, Permitted run other past question)
        (Returning fun past _ => ∀ other ∈ component :: rest, ¬ Launched other past) past :=
      obeys_lift ⟨⟨component, by simp, .stopRequested⟩, fun _ other member launched =>
        fresh other member (launched.of_snoc nofun)⟩
    refine obeys_bind_returning asked fun past stop fresh => ?_
    have freshRest : ∀ other ∈ rest, ¬ Launched other past := fun other member =>
      fresh other (List.mem_cons_of_mem _ member)
    cases stop with
    | true => trivial
    | false =>
      by_cases skipped : (decide (component = .management) && partialSeen) = true
      · simp only [skipped, if_true]
        have skips : component = .management ∧ partialSeen = true := by simpa using skipped
        have truthful : (ComponentReport.mk component .skipped none).Truthful run past :=
          ⟨nofun, nofun, nofun, nofun, fun launched =>
            absurd launched.1 (fresh component (by simp))⟩
        exact drive_obeys_cons new truthful ⟨fun _ => skips, fun _ => rfl⟩ (by simp)
          (inductionHypothesis restOnce freshRest)
      · simp only [skipped]
        have driven := (driveComponent_obeys run (fresh component (by simp))).keeps_returning
          (fun past => ∀ other ∈ rest, ¬ Launched other past) freshRest
          fun past exchange permitted fresh other member =>
            fresh_snoc permitted (fun same => new (same ▸ member)) (fresh other member)
        refine obeys_bind_returning (driven.mono (fun past question permitted =>
          ⟨component, by simp, permitted⟩) fun _ _ ended => ended) ?_
        rintro past report ⟨stillFresh, rfl, driven, truthful⟩
        refine drive_obeys_cons new truthful ?_ rfl (inductionHypothesis restOnce stillFresh)
        exact ⟨fun skips => absurd skips driven, fun skips => absurd (by simpa using skips) skipped⟩

/-- The calls that start checks are free, and they leave the reports as they are. -/
theorem startChecks_obeys {checked : List Component} {reports : List ComponentReport}
    (reported : run.Reported components false past reports) :
    (startChecks checked).Obeys (Orderly run)
      (fun past _ => run.Reported components false past reports) past := by
  induction checked generalizing past with
  | nil => exact reported
  | cons component rest inductionHypothesis =>
    refine ⟨?_, fun answer => ?_⟩
    · exact Disciplined.orderly (.of_idle nofun rfl nofun)
    · have kept : run.Reported components false
          (past ++ [⟨.call (.checkUpgraded component), answer⟩]) reports :=
        ⟨reported.components, fun report member =>
          (reported.truthful report member).snoc nofun nofun, reported.skips⟩
      cases answer with
      | ok _ =>
        change Obeys _ _ ((startChecks rest).andThen fun started => .done (component :: started)) _
        exact obeys_andThen.2 ((inductionHypothesis kept).mono (fun _ _ permitted => permitted)
          fun _ _ reported => reported)
      | error _ => exact inductionHypothesis kept

/-- Every call of an execution is disciplined, and its report says what was done and seen. -/
theorem execute_obeys (run : Run) :
    (run.execute {}).run.Obeys (Orderly run)
      (Returning fun past report => run.Reported Component.ordered false past report.components)
      [] := by
  have driven : (run.drive {} Component.ordered false).run.Obeys (Orderly run)
      (Returning (run.Reported Component.ordered false)) [] := by
    refine (drive_obeys (by decide) fun _ _ launched => ?_).mono ?_ fun _ _ ended => ended
    · obtain ⟨_, member, -⟩ := launched
      cases member
    · rintro past question ⟨component, -, permitted⟩
      exact permitted.orderly
  refine obeys_bind_returning driven fun past reports reported => ?_
  have checked : (liftM run.dispatchChecks : Procedure (List Component)).run.Obeys (Orderly run)
      (Returning fun past _ => run.Reported Component.ordered false past reports) past :=
    obeys_lift (startChecks_obeys reported)
  exact obeys_bind_returning checked fun past _ reported => reported

/-- Whatever is answered and whenever the execution is stopped, a component is changed only after it
was seen at rest and, after that, the whole upgrade was; its plan is reset before any other change,
and a component that was last seen upgraded is never changed. -/
theorem execute_disciplined (run : Run) (past : History) (call : Call)
    (asks : Asks (run.execute {}).run past (.call call)) :
    Disciplined run past call ∧ ∀ component observed since,
      LatestProbe (some component) past observed since → observed.status = .success →
        ¬ Alters past component call := by
  have disciplined : Disciplined run past call := (execute_obeys run).permits asks call rfl
  refine ⟨disciplined, fun component observed since latest success alters => ?_⟩
  exact (disciplined.settled component alters).not_success latest success

/-- A run that declares one group of edge nodes. -/
def oneGroup : Run :=
  { edge := { groups := [{ id := "rack" }] } }

/-- What its execution has been through when it changes the group. -/
def oneGroupReset : History :=
  let idle : Summary := ⟨.notStarted, [⟨"EDGE", .notStarted, none, none⟩]⟩
  [⟨.stopRequested, false⟩, ⟨.call (.getStatus (some .edge)), .ok idle⟩, ⟨.now, (0 : Nat)⟩,
    ⟨.sleep 30000, true⟩, ⟨.call (.getStatus none), .ok idle⟩, ⟨.call (.reset .edge), .ok ()⟩,
    ⟨.call (.getGroup "rack"), .ok ({ id := "rack" } : UnitGroup)⟩]

/-- The group is updated in front of the launch of the edge nodes, while they are being prepared and
ready. -/
theorem execute_disciplined_oneGroup :
    Asks (oneGroup.execute {}).run oneGroupReset
      (.call (.updateGroup "rack" { id := "rack", enabled := true })) ∧
    Preparing .edge oneGroupReset ∧ Ready .edge oneGroupReset := by
  have asks : Asks (oneGroup.execute {}).run oneGroupReset
      (.call (.updateGroup "rack" { id := "rack", enabled := true })) :=
    ⟨_, .ask _ (.ask _ (.ask _ (.ask _ (.ask _ (.ask _ (.ask _ (.here _)))))))⟩
  have disciplined := (execute_disciplined oneGroup oneGroupReset _ asks).1
  obtain ⟨component, preparing, plan, declared, group, member, -⟩ := disciplined.attributed _ rfl
  have first : component = .edge := by
    cases component with
    | edge => rfl
    | host => cases declared; cases member
    | management => cases declared
  subst first
  exact ⟨asks, preparing, disciplined.settled .edge preparing⟩

end Run

end FabricUpgrade
