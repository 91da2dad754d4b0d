import FabricUpgrade.Proofs.Sequence

/-!
# Runs keep to their order

A turn that begins between two turns leads there again, and the checks that come after the last turn
leave alone what was done.  So whatever a run asks is in order (`Run.execute_inOrder`).
-/

namespace FabricUpgrade

open Program Session

namespace Session

variable {run : Run} {component : Component} {done rest : List Component} {partialSeen : Bool}
  {past during : History} {exchange : Exchange Question Answer}

/-- A turn that comes up and is not left out. -/
theorem Between.open (between : Between run done partialSeen past)
    (driven : ¬ (component = .management ∧ partialSeen = true)) (stop : Bool) :
    Opened run done component partialSeen (past ++ [⟨.stopRequested, stop⟩]) where
  toStands := between.toStands.snoc_stop stop
  turned := by
    rw [turns_append, between.turned]
    rfl
  driven := driven

/-- The turn of a management plane that is left out is over when it has come up. -/
theorem Between.skip (between : Between run done true past) (stop : Bool) :
    Between run (done ++ [.management]) true (past ++ [⟨.stopRequested, stop⟩]) where
  confined := by
    refine Confined.mono (between.toStands.snoc_stop stop).confined fun component member => ?_
    exact List.mem_append_left _ member
  finished component member := by
    rcases List.mem_append.1 member with old | new
    · exact (between.toStands.snoc_stop stop).finished component old
    · exact .inr ⟨List.mem_singleton.1 new, rfl⟩
  leaves := (between.toStands.snoc_stop stop).leaves
  unchecked := (between.toStands.snoc_stop stop).unchecked
  turned := by
    rw [turns_append, between.turned, List.length_append]
    rfl
  opened _ _ := ⟨by simp, rfl⟩

/-- The component of a turn that has come up was not launched before. -/
theorem Opened.fresh (opened : Opened run done component partialSeen past)
    (split : done ++ component :: rest = Component.ordered) : ¬ Launched component past :=
  fun launched => not_mem_done split (opened.confined.launched launched)

/-- A turn that is over leads between two turns again. -/
theorem Opened.close {leftPart : Bool} (opened : Opened run done component partialSeen past)
    (onCourse : OnCourse component during) (asked : during ≠ [])
    (finished : Finished run component (past ++ during))
    (left : leftPart = true ↔ Launched component during ∧ run.isPartial component = true) :
    Between run (done ++ [component]) (partialSeen || leftPart) (past ++ during) where
  confined := opened.confined.append onCourse
  finished other member := by
    rcases List.mem_append.1 member with old | new
    · rcases opened.finished other old with finished | ⟨management, seen⟩
      · exact .inl (finished.append during)
      · exact .inr ⟨management, by simp [seen]⟩
    · rw [List.mem_singleton.1 new]
      exact .inl finished
  leaves := by rw [opened.leaves_append_iff onCourse, Bool.or_eq_true, left]
  unchecked := by
    rw [checked_append, opened.unchecked, onCourse.checked_eq]
    rfl
  turned := by
    rw [turns_append, opened.turned, onCourse.turns_eq, List.length_append]
    rfl
  opened earlier last := absurd last (onCourse.not_asked_last asked)

/-- All turns are over, and checks may be started. -/
structure Checking (run : Run) (past : History) : Prop where
  ended : ∀ component, Ended run component past
  turned : turns past = Component.ordered.length
  opened : ∀ earlier, past = earlier ++ [⟨.stopRequested, false⟩] → LeavesPart run past

/-- After the turns of all components the checks can begin. -/
theorem Between.checking (between : Between run Component.ordered partialSeen past) :
    Checking run past where
  ended component := by
    have listed : component ∈ Component.ordered := by cases component <;> decide
    exact (between.finished component listed).imp_right fun left =>
      ⟨left.1, between.leaves.2 left.2⟩
  turned := between.turned
  opened earlier last := between.leaves.2 (between.opened earlier last).2

/-- A check leaves it to the next ones to begin. -/
theorem Checking.snoc (checking : Checking run past) (answer : Answer (.call (.checkUpgraded component))) :
    Checking run (past ++ [⟨.call (.checkUpgraded component), answer⟩]) where
  ended other := (checking.ended other).snoc
  turned := by
    rw [turns_append, checking.turned]
    rfl
  opened earlier last := by
    obtain ⟨-, same⟩ := List.append_inj' last rfl
    cases List.singleton_inj.1 same

/-- A declared check is in order after those of the components in front. -/
theorem Checking.inOrder (checking : Checking run past) (declares : run.DeclaresCheck component)
    (next : ∀ other ∈ checked past, ¬ component ≤ other) :
    InOrder run past (.call (.checkUpgraded component)) where
  forward _ addresses := addresses.elim
  finished _ addresses := addresses.elim
  once := by rintro ⟨component, same | same⟩ <;> cases same
  attributed call calls configures := by
    cases calls
    cases configures
  management addresses := addresses.elim
  gate addresses := addresses.elim
  skipping _ _ := rfl
  pausing pauses := by cases pauses
  opening earlier other last first := by
    right
    have turned := checking.turned
    rw [last, turns_append] at turned
    have two : turns earlier = 2 := Nat.succ.inj turned
    rw [two] at first
    exact ⟨(Option.some.inj first).symm, checking.opened earlier last⟩
  checks other checks := by
    cases checks
    exact ⟨declares, next, checking.ended⟩
  closing _ := rfl

end Session

namespace Run

variable {run : Run} {component : Component} {done rest : List Component} {partialSeen : Bool}
  {past : History}

/-- A check is wanted exactly if it is declared. -/
theorem wantsCheck_iff : run.wantsCheck component = true ↔ run.DeclaresCheck component := by
  unfold wantsCheck DeclaresCheck
  cases component <;> simp [Component.checkable, plan?, Option.any_eq_true]

/-- The last wait of a turn finishes its component. -/
theorem finish_finished (launched : run.isPartial component = true → Launched component past) :
    (run.finish component).run.Obeys (fun _ _ => True)
      (Returning fun past _ => Finished run component past) past := by
  refine obeys_bind_returning (await_obeys
    (fun past => run.isPartial component = true → Launched component past)
    inProgress_not_mem_ofUpgrade (fun _ _ _ _ => trivial)
    (fun _ _ launched _ isPartial => (launched isPartial).snoc) launched) ?_
  rintro past final ⟨earlier, probe, rfl, launched, shows, reached⟩
  refine ⟨earlier, probe, [], final, rfl, shows, ?_⟩
  rcases Transition.mem_ofUpgrade_target.1 reached with success | ⟨isPartial, paused⟩
  · exact .inl success
  · exact .inr ⟨isPartial, paused, launched isPartial⟩

/-- A turn finishes its component, from wherever it begins. -/
theorem driveComponent_finished (run : Run) (component : Component) :
    (run.driveComponent {} component).run.Obeys (fun _ _ => True)
      (Returning fun past _ => Finished run component past) past := by
  have probed : (Wait.probe (some component)).run.Obeys (fun _ _ => True)
      (Returning fun past entry => ∃ earlier probe, past = earlier ++ [probe] ∧
        Shows (some component) probe entry) past := by
    refine Wait.obeys_observe trivial fun answer => ?_
    cases reads : Wait.reading Tolerance.none (some component) answer with
    | error failure => trivial
    | ok observed => exact ⟨past, _, rfl, Wait.shows_of_reading_none reads⟩
  rw [driveComponent_eq]
  refine obeys_bind_returning probed ?_
  rintro _ entry ⟨earlier, probe, rfl, shows⟩
  refine obeys_bind_returning (Obeys.mono (settle_obeys shows) (fun _ _ _ => trivial)
    fun _ _ ended => ended) ?_
  rintro past entry ⟨latest, settled⟩
  rcases conclude_cases run component entry with ⟨succeeded, same⟩ | ⟨working, same⟩ |
    ⟨unfinished, stable, same⟩
  · rw [same]
    obtain ⟨earlier, probe, split, shows⟩ := latest.shown
    exact ⟨earlier, probe, [], entry, split, shows, .inl succeeded⟩
  · rw [same]
    have fixed : component.customizable = false :=
      settled.resolve_left (by simp [Status.isStable, working])
    exact finish_finished (by simp [isPartial_eq_false fixed])
  · rw [same]
    refine obeys_bind_returning (Obeys.mono (launch_obeys latest stable unfinished)
      (fun _ _ _ => trivial) fun _ _ ended => ended) ?_
    intro past _ launched
    exact finish_finished fun _ => launched

/-- What a run may ask before its checks. -/
def Driving (run : Run) (past : History) (question : Question) : Prop :=
  InOrder run past question ∧ question.checked? = none

/-- A turn that has come up asks what is in order, and it leads between two turns again. -/
theorem driveComponent_inOrder {stop : Bool}
    (opened : Opened run done component partialSeen (past ++ [⟨.stopRequested, stop⟩]))
    (split : done ++ component :: rest = Component.ordered) :
    (run.driveComponent {} component).run.Obeys (Driving run)
      (Returning fun past report => Between run (done ++ [component])
        (partialSeen || report.outcome = .partiallyCompleted) past)
      (past ++ [⟨.stopRequested, stop⟩]) := by
  have fresh := opened.fresh split
  have onCourse := (driveComponent_onCourse run component).after (past ++ [⟨.stopRequested, stop⟩])
  rw [List.append_nil] at onCourse
  have obeys := ((driveComponent_obeys run fresh).and (driveComponent_finished run component)).and
    onCourse
  apply obeys.mono
  · rintro _ question ⟨-, during, rfl, ⟨onCourse, inTurn⟩, opens⟩
    exact ⟨opened.inOrder split onCourse inTurn opens, inTurn.not_checked⟩
  · rintro _ result ⟨⟨driven, finished⟩, during, rfl, onCourse, asked⟩
    cases result with
    | error failure => trivial
    | ok report =>
      obtain ⟨rfl, -, truthful⟩ := driven
      apply opened.close onCourse asked finished
      rw [decide_eq_true_iff, truthful.launched, Launched.append_iff]
      simp [fresh]

/-- The turns of the components in order, and what holds when they are over. -/
theorem drive_inOrder (split : done ++ rest = Component.ordered)
    (between : Between run done partialSeen past) :
    (run.drive {} rest partialSeen).run.Obeys (Driving run)
      (Returning fun past _ => Checking run past) past := by
  induction rest generalizing done partialSeen past with
  | nil =>
    rw [List.append_nil] at split
    subst split
    exact between.checking
  | cons component rest inductionHypothesis =>
    have next : done ++ [component] ++ rest = Component.ordered := by
      rw [List.append_assoc]
      exact split
    refine obeys_question_bind ⟨between.inOrder_stop split, rfl⟩ fun stop => ?_
    cases stop with
    | true => trivial
    | false =>
      by_cases skipped : component = .management ∧ partialSeen = true
      · obtain ⟨rfl, rfl⟩ := skipped
        exact obeys_bind_returning (inductionHypothesis next (between.skip false))
          fun _ _ checking => checking
      · have driven : (decide (component = .management) && partialSeen) = false := by
          simpa using skipped
        simp only [driven]
        refine obeys_bind_returning
          (driveComponent_inOrder (between.open skipped false) split) fun past report between => ?_
        exact obeys_bind_returning (inductionHypothesis next between) fun _ _ checking => checking

/-- The declared checks are started one after the other, whatever the answers. -/
theorem startChecks_inOrder {left : List Component} (checking : Checking run past)
    (declared : ∀ component ∈ left, run.DeclaresCheck component)
    (sorted : (checked past ++ left).Pairwise fun first second => ¬ second ≤ first) :
    (startChecks left).Obeys (InOrder run)
      (fun after started => Checking run after ∧ checked after = checked past ++ left ∧
        accepted after = accepted past ++ started) past := by
  induction left generalizing past with
  | nil => exact ⟨checking, (List.append_nil _).symm, (List.append_nil _).symm⟩
  | cons component rest inductionHypothesis =>
    refine ⟨checking.inOrder (declared component (by simp)) ?_, fun answer => ?_⟩
    · intro other member
      exact (List.pairwise_append.1 sorted).2.2 other member component (by simp)
    · have later : ∀ component ∈ rest, run.DeclaresCheck component := fun other member =>
        declared other (List.mem_cons_of_mem _ member)
      have started : checked (past ++ [⟨.call (.checkUpgraded component), answer⟩]) =
          checked past ++ [component] := checked_append _ _
      have sortedOn : (checked (past ++ [⟨.call (.checkUpgraded component), answer⟩]) ++ rest).Pairwise
          fun first second => ¬ second ≤ first := by
        rw [started, List.append_assoc]
        exact sorted
      have goesOn := inductionHypothesis (checking.snoc answer) later sortedOn
      rw [started] at goesOn
      cases answer with
      | ok reply =>
        have accepts : accepted (past ++ [⟨.call (.checkUpgraded component), .ok reply⟩]) =
            accepted past ++ [component] := accepted_append _ _
        change Obeys _ _ ((startChecks rest).andThen fun started => .done (component :: started)) _
        refine obeys_andThen.2 (goesOn.mono (fun _ _ permitted => permitted) ?_)
        rintro after started ⟨checking, checks, accepting⟩
        refine ⟨checking, by simpa using checks, ?_⟩
        rw [accepting, accepts]
        simp
      | error error =>
        have refuses : accepted (past ++ [⟨.call (.checkUpgraded component), .error error⟩]) =
            accepted past := (accepted_append _ _).trans (List.append_nil _)
        refine goesOn.mono (fun _ _ permitted => permitted) ?_
        rintro after started ⟨checking, checks, accepting⟩
        exact ⟨checking, by simpa using checks, by rw [accepting, refuses]⟩

/-- The report of a run tells whether a component was upgraded in part. -/
theorem Reported.isPartial_iff {report : Report}
    (reported : run.Reported Component.ordered partialSeen past report.components) :
    report.isPartial = true ↔ LeavesPart run past := by
  rw [Report.isPartial, List.any_eq_true]
  constructor
  · rintro ⟨entry, member, isPartial⟩
    have launched := (reported.truthful entry member).launched.1 (of_decide_eq_true isPartial)
    exact ⟨entry.component, launched⟩
  · rintro ⟨component, launched⟩
    have listed : component ∈ report.components.map ComponentReport.component := by
      rw [reported.components]
      cases component <;> decide
    obtain ⟨entry, member, rfl⟩ := List.mem_map.1 listed
    exact ⟨entry, member, decide_eq_true ((reported.truthful entry member).launched.2 launched)⟩

/-- Whatever a run asks is in order, and its checks are those that are declared. -/
theorem execute_obeys_inOrder (run : Run) :
    (run.execute {}).run.Obeys (InOrder run)
      (fun past result => checked past = [] ∧ (∃ failure, result = .error failure) ∨
        ∃ report, result = .ok report ∧ Checking run past ∧
          checked past = Component.ordered.filter run.wantsCheck ∧
          report.postChecks = accepted past) [] := by
  have unchecked : (run.drive {} Component.ordered false).run.Obeys (InOrder run)
      (fun past result => (checked past = [] ∧ accepted past = []) ∧
        Returning (fun past _ => Checking run past) past result) [] := by
    have split : [] ++ Component.ordered = Component.ordered := rfl
    refine ((drive_inOrder split between_nil).keeps
      (fun past => checked past = [] ∧ accepted past = []) ⟨rfl, rfl⟩ ?_).mono
      (fun _ _ permitted => permitted.2.1) fun _ _ ended => ended
    rintro past ⟨question, answer⟩ ⟨-, unchecked⟩ ⟨started, accepting⟩
    have quiet : accepted [⟨question, answer⟩] = [] := by
      cases question with
      | call call => cases call <;> first | rfl | cases unchecked
      | _ => rfl
    have unasked : checked [⟨question, answer⟩] = [] := List.filterMap_cons_none unchecked
    rw [checked_append, started, unasked, accepted_append, accepting, quiet]
    exact ⟨rfl, rfl⟩
  refine obeys_bind unchecked ?_ ?_
  · rintro past reports ⟨⟨unchecked, unaccepted⟩, checking⟩
    have declared : ∀ component ∈ Component.ordered.filter run.wantsCheck,
        run.DeclaresCheck component := by
      intro component member
      exact wantsCheck_iff.1 (List.mem_filter.1 member).2
    have sorted : (checked past ++ Component.ordered.filter run.wantsCheck).Pairwise
        fun first second => ¬ second ≤ first := by
      rw [unchecked, List.nil_append]
      exact List.Pairwise.filter _ (by decide)
    have checks : (liftM run.dispatchChecks : Procedure (List Component)).run.Obeys (InOrder run)
        (fun after outcome => ∃ started, outcome = .ok started ∧ Checking run after ∧
          checked after = Component.ordered.filter run.wantsCheck ∧ accepted after = started)
        past := by
      apply obeys_lift
      apply (startChecks_inOrder checking declared sorted).mono (fun _ _ permitted => permitted)
      rintro after started ⟨checking, asked, accepting⟩
      refine ⟨started, rfl, checking, ?_, ?_⟩
      · simpa [unchecked] using asked
      · simpa [unaccepted] using accepting
    refine obeys_bind checks ?_ ?_
    · rintro after _ ⟨started, same, checking, asked, accepting⟩
      cases same
      exact .inr ⟨_, rfl, checking, asked, accepting.symm⟩
    · rintro after failure ⟨started, same, -⟩
      cases same
  · rintro past failure ⟨⟨unchecked, -⟩, -⟩
    exact .inl ⟨unchecked, failure, rfl⟩

/-- Whatever is answered and whenever the execution is stopped: components are addressed in their
order, each once those in front of it are finished, and each is reset and launched at most once; the
management plane is left out after a component that was upgraded in part; and the declared checks,
and no other ones, are started when all components are done with, without failing the run. -/
theorem execute_inOrder (run : Run) :
    (∀ past question, Asks (run.execute {}).run past question → InOrder run past question) ∧
      ∀ exchanges result, Converses (run.execute {}).run exchanges result →
        Concluded run exchanges result := by
  constructor
  · intro past question asks
    exact (execute_obeys_inOrder run).permits asks
  · intro exchanges result converses
    have reported := (execute_obeys run).concludes converses
    rcases (execute_obeys_inOrder run).concludes converses with ⟨unchecked, failure, rfl⟩ |
      ⟨report, rfl, checking, asked, accepting⟩
    · exact ⟨fun _ _ => unchecked, nofun, nofun, nofun, nofun⟩
    · rw [List.nil_append] at checking asked accepting reported
      refine ⟨nofun, ?_, ?_, ?_, ?_⟩
      · rintro _ ⟨⟩ component
        exact checking.ended component
      · rintro _ ⟨⟩
        exact Reported.isPartial_iff reported
      · rintro _ ⟨⟩
        rw [asked]
        constructor
        · exact List.Pairwise.filter _ (by decide)
        · intro component
          have listed : component ∈ Component.ordered := by cases component <;> decide
          simp [listed, wantsCheck_iff]
      · rintro _ ⟨⟩
        exact accepting

/-- A run that leaves a group of edge nodes for later and wants both checks. -/
def leavingRack : Run where
  edge := { groups := [{ id := "rack", enabled := false }], settings := some {} }
  host := { settings := some {} }

/-- One of its executions: the edge nodes are upgraded in part, the hosts were upgraded before, and
the check of the edge nodes cannot be started. -/
def leavingRackExchanges : History :=
  let idle : Summary := ⟨.notStarted, [⟨"EDGE", .notStarted, none, none⟩]⟩
  let paused : Summary := ⟨.paused, [⟨"EDGE", .paused, none, none⟩, ⟨"HOST", .success, none, none⟩]⟩
  let rack : UnitGroup := { id := "rack" }
  [⟨.stopRequested, false⟩, ⟨.call (.getStatus (some .edge)), .ok idle⟩, ⟨.now, (0 : Nat)⟩,
    ⟨.sleep 30000, true⟩, ⟨.call (.getStatus none), .ok idle⟩, ⟨.call (.reset .edge), .ok ()⟩,
    ⟨.call (.getGroup "rack"), .ok rack⟩, ⟨.call (.updateGroup "rack" rack), .ok rack⟩,
    ⟨.call (.getSettings .edge), .ok ({} : PlanSettings)⟩,
    ⟨.call (.updateSettings .edge { parallel := some true }),
      .ok ({} : PlanSettings)⟩,
    ⟨.call (.upgrade .edge), .ok ()⟩, ⟨.now, (40000 : Nat)⟩, ⟨.sleep 30000, true⟩,
    ⟨.call (.getStatus (some .edge)), .ok paused⟩, ⟨.stopRequested, false⟩,
    ⟨.call (.getStatus (some .host)), .ok paused⟩, ⟨.stopRequested, false⟩,
    ⟨.call (.checkUpgraded .edge), .error (.notFound "check")⟩,
    ⟨.call (.checkUpgraded .host), .ok ()⟩]

/-- A run that leaves a part of the edge nodes for later starts both of its checks, and reports the
one that could be started. -/
theorem execute_inOrder_leavingRack :
    ∃ report, Converses (leavingRack.execute {}).run leavingRackExchanges (.ok report) ∧
      checked leavingRackExchanges = [.edge, .host] ∧ report.postChecks = [.host] ∧
      LeavesPart leavingRack leavingRackExchanges ∧
      InOrder leavingRack (leavingRackExchanges.take 17) (.call (.checkUpgraded .edge)) := by
  have converses : Converses (leavingRack.execute {}).run leavingRackExchanges (.ok {
      components := [⟨.edge, .partiallyCompleted, some ⟨.paused, ""⟩⟩,
        ⟨.host, .alreadySucceeded, some ⟨.success, ""⟩⟩, ⟨.management, .skipped, none⟩]
      postChecks := [.host] }) :=
    .ask _ (.ask _ (.ask _ (.ask _ (.ask _ (.ask _ (.ask _ (.ask _ (.ask _ (.ask _ (.ask _ (.ask _
      (.ask _ (.ask _ (.ask _ (.ask _ (.ask _ (.ask _ (.ask _ (.done _)))))))))))))))))))
  have concluded := (execute_inOrder leavingRack).2 _ _ converses
  have begun : Reaches (leavingRack.execute {}).run (leavingRackExchanges.take 17 ++
      ⟨.call (.checkUpgraded .edge), .error (.notFound "check")⟩ :: leavingRackExchanges.drop 18) _ :=
    converses_iff_reaches_done.1 converses
  exact ⟨_, converses, rfl, concluded.reported _ rfl, (concluded.leaves _ rfl).1 rfl,
    (execute_inOrder leavingRack).1 _ _ begun.asks⟩

end Run

end FabricUpgrade
