import FabricUpgrade.Proofs.Stopping

/-!
# Runs that are interrupted

A `World` is what a run goes on in: a manager whose answers depend on the calls that were made, and a
clock.  In one world a run that is told to stop is compared with the same run that never is.  Up to
the first question at which it learns of the stop the two are the same, and there it ends; so a stop
truncates a run (`World.execution_truncates`).  Calls in between two such questions are made all the
same, changes among them (`World.unchanged_iff`).
-/

namespace FabricUpgrade

open Program Session

namespace Session

/-- The call that is made. -/
def Question.call? : Question → Option Call
  | .call made => some made
  | _ => none

/-- The calls that were made, in order. -/
def calls (past : History) : List Call :=
  past.filterMap fun exchange => exchange.question.call?

/-- The calls of two stretches are those of the one and then those of the other. -/
@[simp]
theorem calls_append (past later : History) : calls (past ++ later) = calls past ++ calls later :=
  List.filterMap_append

/-- Only a question that heeds a stop is told of one. -/
theorem Stops.heeds {exchange : Exchange Question Answer} (stops : Stops exchange) :
    exchange.question.heeds = true := by
  cases stops <;> rfl

/-- A question that heeds a stop is no call. -/
theorem calls_of_heeds {asked : Question} {answer : Answer asked} (heeds : asked.heeds = true) :
    calls [⟨asked, answer⟩] = [] := by
  cases asked with
  | call _ => cases heeds
  | now => rfl
  | sleep _ => rfl
  | stopRequested => rfl

/-- What answers one way and what answers in another, but for stops, hold the same conversation with
a heedful session up to a stop, and there the first one ends. -/
theorem Heedful.converse_cases {Value : Type} {program : Session (Except Failure Value)}
    {answer other : History → (asked : Question) → Answer asked} (heedful : Heedful program)
    (agree : ∀ past asked, Stops ⟨asked, answer past asked⟩ ∨ answer past asked = other past asked)
    (past : History) :
    program.converse answer past = program.converse other past ∨
      ∃ earlier asked later account, Stops ⟨asked, answer (past ++ earlier) asked⟩ ∧
        program.converse answer past =
          (past ++ earlier ++ [⟨asked, answer (past ++ earlier) asked⟩],
            .error (.cancelled account)) ∧
        (program.converse other past).1 =
          past ++ earlier ++ ⟨asked, other (past ++ earlier) asked⟩ :: later := by
  induction program generalizing past with
  | done result => exact .inl rfl
  | ask asked resume inductionHypothesis =>
    rcases agree past asked with stops | same
    · obtain ⟨later, split, -⟩ := converse_spec other (resume (other past asked))
        (past ++ [⟨asked, other past asked⟩])
      obtain ⟨account, ends⟩ : ∃ account,
          resume (answer past asked) = .done (.error (.cancelled account)) := by
        have heeds := heedful.1
        generalize answer past asked = told at stops
        cases stops with
        | asked => exact heeds
        | woken milliseconds =>
          obtain ⟨account, _, stopped, _⟩ := heeds
          exact ⟨account, stopped⟩
      refine .inr ⟨[], asked, later, account, ?_, ?_, ?_⟩
      · rwa [List.append_nil]
      · rw [converse, ends, List.append_nil]
        rfl
      · rw [converse, split, List.append_nil, List.append_assoc]
        rfl
    · rw [converse, converse, same]
      rcases inductionHypothesis (other past asked) (heedful.2 _) (past ++ [⟨asked, other past asked⟩])
        with together | ⟨earlier, question, later, account, stops, cut, full⟩
      · exact .inl together
      · right
        have whole : past ++ [⟨asked, other past asked⟩] ++ earlier =
            past ++ (⟨asked, other past asked⟩ :: earlier) := List.append_assoc _ _ _
        rw [whole] at stops cut full
        exact ⟨_, question, later, account, stops, cut, full⟩

end Session

/-- What a run goes on in. -/
structure World where
  /-- The answer to a call after the calls before it. -/
  reply : List Call → (call : Call) → call.Answer
  /-- The instant at which all of that has happened. -/
  clock : History → Nat

namespace World

/-- The answers that a run gets which is told to stop, or has been told, at certain moments. -/
def answer (world : World) (told : History → Bool) (past : History) :
    (asked : Question) → Answer asked
  | .call made => world.reply (calls past) made
  | .now => world.clock past
  | .sleep _ => !told past
  | .stopRequested => told past

/-- The exchanges of a run in the world and its result. -/
def execution (world : World) (run : Run) (told : History → Bool) :
    History × Except Failure Report :=
  (run.execute {}).run.converse (world.answer told) []

/-- Nobody tells the run to stop. -/
def undisturbed : History → Bool :=
  fun _ => false

/-- The run is told to stop when so many exchanges have begun: whatever it asks from then on is asked
after that. -/
def stoppedAfter (count : Nat) : History → Bool :=
  fun past => count ≤ past.length

variable {world : World} {run : Run} {told : History → Bool} {past : History} {asked : Question}

/-- Once the run is told to stop, every question that heeds it is answered so. -/
theorem stops_answer (heeds : asked.heeds = true) (stop : told past = true) :
    Stops ⟨asked, world.answer told past asked⟩ := by
  cases asked with
  | call _ => cases heeds
  | now => cases heeds
  | sleep milliseconds =>
    rw [answer, stop]
    exact .woken milliseconds
  | stopRequested =>
    rw [answer, stop]
    exact .asked

/-- Where a question is answered by a stop, the run was told to. -/
theorem told_of_stops (stops : Stops ⟨asked, world.answer told past asked⟩) : told past = true := by
  cases asked with
  | call _ => cases stops
  | now => cases stops
  | sleep milliseconds =>
    rw [answer] at stops
    cases stop : told past with
    | true => rfl
    | false =>
      rw [stop] at stops
      cases stops
  | stopRequested =>
    rw [answer] at stops
    cases stop : told past with
    | true => rfl
    | false =>
      rw [stop] at stops
      cases stops

/-- Until it is told to stop a run gets the answers that it would get otherwise. -/
theorem stops_or_answer_eq (past : History) (asked : Question) :
    Stops ⟨asked, world.answer told past asked⟩ ∨
      world.answer told past asked = world.answer undisturbed past asked := by
  cases stop : told past with
  | false =>
    right
    cases asked with
    | call _ => rfl
    | now => rfl
    | sleep _ => exact congrArg not stop
    | stopRequested => exact stop
  | true =>
    cases heeds : asked.heeds with
    | true => exact .inl (stops_answer heeds stop)
    | false =>
      right
      cases asked with
      | call _ => rfl
      | now => rfl
      | sleep _ => cases heeds
      | stopRequested => cases heeds

/-- A run that is told to stop goes like the one that is not, or it ends like that one up to a
question that heeds the stop. -/
theorem execution_cases (world : World) (run : Run) (told : History → Bool) :
    world.execution run told = world.execution run undisturbed ∨
      ∃ earlier asked later account, Stops ⟨asked, world.answer told earlier asked⟩ ∧
        world.execution run told =
          (earlier ++ [⟨asked, world.answer told earlier asked⟩], .error (.cancelled account)) ∧
        (world.execution run undisturbed).1 =
          earlier ++ ⟨asked, world.answer undisturbed earlier asked⟩ :: later :=
  run.heedful_execute.converse_cases stops_or_answer_eq []

/-- An execution is a conversation of the run in which the world gives every answer at its moment. -/
theorem execution_spec (world : World) (run : Run) (told : History → Bool) :
    Converses (run.execute {}).run (world.execution run told).1 (world.execution run told).2 ∧
      ∀ earlier exchange later, (world.execution run told).1 = earlier ++ exchange :: later →
        exchange.answer = world.answer told earlier exchange.question := by
  obtain ⟨exchanges, same, converses, given⟩ :=
    converse_spec (world.answer told) (run.execute {}).run []
  rw [List.nil_append] at same
  rw [execution, same]
  exact ⟨converses, given⟩

/-!
## A stop truncates
-/

/-- What the stop of a run leaves of it. -/
structure Truncates (run : Run) (told : History → Bool) (cut full : History × Except Failure Report) :
    Prop where
  /-- The calls are the first of those that would have been made. -/
  calls : calls cut.1 <+: calls full.1
  /-- Unless the run ends because of the stop, nothing has changed. -/
  same : (∀ account, cut.2 ≠ .error (.cancelled account)) → cut = full
  /-- Otherwise the run says on whose account it ended. -/
  named : ∀ account, cut.2 = .error (.cancelled account) → run.Halted cut.1 account
  /-- Nothing is called if it was told to stop before it began. -/
  unstarted : told [] = true → Session.calls cut.1 = []

/-- Whenever a run is told to stop, it goes like the run that is not, up to where it ends. -/
theorem execution_truncates (world : World) (run : Run) (told : History → Bool) :
    Truncates run told (world.execution run told) (world.execution run undisturbed) where
  calls := by
    rcases world.execution_cases run told with same | ⟨earlier, asked, later, _, stops, cut, full⟩
    · exact same ▸ List.prefix_rfl
    · rw [cut, full, calls_append, calls_append, calls_of_heeds stops.heeds, List.append_nil]
      exact List.prefix_append _ _
  same uncancelled := by
    rcases world.execution_cases run told with same | ⟨_, _, _, account, _, cut, _⟩
    · exact same
    · exact absurd (congrArg Prod.snd cut) (uncancelled account)
  named account cancelled := by
    have converses := (world.execution_spec run told).1
    rw [cancelled] at converses
    exact Run.halted_of_cancelled converses
  unstarted stop := by
    obtain ⟨resume, asks⟩ : ∃ resume, (run.execute {}).run = .ask .stopRequested resume :=
      ⟨_, rfl⟩
    have heeds := run.heedful_execute
    rw [asks] at heeds
    obtain ⟨account, stopped⟩ := heeds.1
    have first : world.answer told [] .stopRequested = true := stop
    rw [execution, asks, converse, first, stopped]
    rfl

/-!
## What is still done
-/

/-- The exchanges up to the next question at which the run learns of a stop. -/
def untilHeeding (exchanges : History) : History :=
  exchanges.takeWhile fun exchange => !exchange.question.heeds

/-- In front of the next heeding question stands whatever does not heed. -/
theorem untilHeeding_append {before after : History}
    (quiet : ∀ exchange ∈ before, exchange.question.heeds = false) :
    untilHeeding (before ++ after) = before ++ untilHeeding after := by
  apply List.takeWhile_append_of_pos
  intro exchange member
  rw [quiet exchange member]
  rfl

/-- What is left behind the first exchanges stands behind as many. -/
theorem split_of_mem_drop {exchanges : History} {count : Nat}
    {exchange : Exchange Question Answer} (member : exchange ∈ exchanges.drop count) :
    ∃ earlier later, exchanges = earlier ++ exchange :: later ∧ count ≤ earlier.length := by
  obtain ⟨earlier, later, split⟩ := List.append_of_mem member
  have long : count < exchanges.length := by
    by_contra short
    rw [List.drop_eq_nil_of_le (Nat.le_of_not_lt short)] at member
    cases member
  refine ⟨exchanges.take count ++ earlier, later, ?_, ?_⟩
  · rw [List.append_assoc, ← split, List.take_append_drop]
  · rw [List.length_append, List.length_take, Nat.min_eq_left (Nat.le_of_lt long)]
    exact Nat.le_add_right _ _

/-- Where a stopped run and the undisturbed one were given the same answer after the stop, nothing
was asked that would have heeded it. -/
theorem unheeding_of_common {exchange : Exchange Question Answer} (stop : told past = true)
    (given : exchange.answer = world.answer told past exchange.question)
    (undone : exchange.answer = world.answer undisturbed past exchange.question) :
    exchange.question.heeds = false := by
  cases heeds : exchange.question.heeds with
  | false => rfl
  | true =>
    have stops : Stops ⟨exchange.question, world.answer told past exchange.question⟩ :=
      stops_answer heeds stop
    rw [← given, undone] at stops
    cases told_of_stops stops

/-- A run that is told to stop still makes the calls that it would make anyhow before it learns of
the stop, and no other ones. -/
theorem calls_after_stop (world : World) (run : Run) (count : Nat) :
    calls ((world.execution run (stoppedAfter count)).1.drop count) =
      calls (untilHeeding ((world.execution run undisturbed).1.drop count)) := by
  have given := (world.execution_spec run (stoppedAfter count)).2
  have undone := (world.execution_spec run undisturbed).2
  -- Nothing that the two have in common after the stop would have heeded it.
  have common : ∀ earlier exchange, count ≤ earlier.length →
      earlier ++ [exchange] <+: (world.execution run (stoppedAfter count)).1 →
      earlier ++ [exchange] <+: (world.execution run undisturbed).1 →
      exchange.question.heeds = false := by
    rintro earlier exchange since ⟨cutLater, cut⟩ ⟨fullLater, full⟩
    rw [List.append_assoc] at cut full
    exact unheeding_of_common (decide_eq_true since) (given _ _ _ cut.symm) (undone _ _ _ full.symm)
  rcases world.execution_cases run (stoppedAfter count) with
    same | ⟨before, asked, later, account, stops, cut, full⟩
  · have quiet : ∀ exchange ∈ (world.execution run undisturbed).1.drop count,
        exchange.question.heeds = false := by
      intro exchange member
      obtain ⟨earlier, later, split, since⟩ := split_of_mem_drop member
      have begun : earlier ++ [exchange] <+: (world.execution run undisturbed).1 :=
        ⟨later, by rw [split, List.append_assoc]; rfl⟩
      exact common earlier exchange since (same ▸ begun) begun
    have kept : untilHeeding ((world.execution run undisturbed).1.drop count ++ []) =
        (world.execution run undisturbed).1.drop count ++ [] := untilHeeding_append quiet
    rw [List.append_nil] at kept
    rw [same, kept]
  · have since : count ≤ before.length := of_decide_eq_true (told_of_stops stops)
    have quiet : ∀ exchange ∈ before.drop count, exchange.question.heeds = false := by
      intro exchange member
      obtain ⟨earlier, rest, split, since⟩ := split_of_mem_drop member
      have begun : earlier ++ [exchange] <+: before := ⟨rest, by rw [split, List.append_assoc]; rfl⟩
      apply common earlier exchange since
      · rw [cut]
        exact begun.trans (List.prefix_append _ _)
      · rw [full]
        exact begun.trans (List.prefix_append _ _)
    have ends : untilHeeding (⟨asked, world.answer undisturbed before asked⟩ :: later) = [] :=
      List.takeWhile_cons_of_neg (by simp [stops.heeds])
    rw [full, List.drop_append_of_le_length since, untilHeeding_append quiet, ends, List.append_nil]
    rw [cut, List.drop_append_of_le_length since, calls_append, calls_of_heeds stops.heeds,
      List.append_nil]

/-- After the stop nothing is changed exactly if the run was not about to change something before it
would have paused or asked whether to stop; and whatever it was about to call until then, it calls. -/
theorem unchanged_iff (world : World) (run : Run) (count : Nat) :
    ((∀ call ∈ calls ((world.execution run (stoppedAfter count)).1.drop count),
        call.changes = false) ↔
      ∀ call ∈ calls (untilHeeding ((world.execution run undisturbed).1.drop count)),
        call.changes = false) ∧
    calls ((world.execution run (stoppedAfter count)).1.drop count) =
      calls (untilHeeding ((world.execution run undisturbed).1.drop count)) := by
  have same := world.calls_after_stop run count
  exact ⟨by rw [same], same⟩

/-- A world in which the edge nodes are at rest and every call is all right. -/
def resting : World where
  reply _
    | .getStatus _ => .ok ⟨.notStarted, [⟨"EDGE", .notStarted, none, none⟩]⟩
    | .getGroup id => .ok ({ id } : UnitGroup)
    | .updateGroup _ group => .ok group
    | .getSettings _ => .ok ({} : PlanSettings)
    | .updateSettings _ settings => .ok settings
    | .listGroups _ => .ok ([] : List UnitGroup)
    | .getGroupStatus _ => .ok ([] : List GroupStatus)
    | .reorderGroup _ _ | .pause | .reset _ | .upgrade _ | .checkUpgraded _ => .ok ()
  clock _ := 0

/-- The calls of a run in it that is told to stop while the plan of the edge nodes is being reset. -/
theorem not_unchanged_resting :
    ∃ call ∈ calls ((resting.execution Run.oneGroup (stoppedAfter 6)).1.drop 6),
      call.changes = true := by
  have late : calls ((resting.execution Run.oneGroup (stoppedAfter 6)).1.drop 6) =
      [.getGroup "rack", .updateGroup "rack" { id := "rack", enabled := true }, .upgrade .edge] := by
    rfl
  refine ⟨.upgrade .edge, ?_, rfl⟩
  rw [late]
  simp

/-- During the wait for the whole upgrade a run is told to stop on nobody's account. -/
theorem execution_truncates_resting :
    (resting.execution Run.oneGroup (stoppedAfter 3)).2 = .error (.cancelled none) ∧
      Run.oneGroup.Halted (resting.execution Run.oneGroup (stoppedAfter 3)).1 none ∧
      calls (resting.execution Run.oneGroup (stoppedAfter 3)).1 <+:
        calls (resting.execution Run.oneGroup undisturbed).1 := by
  have truncates := execution_truncates resting Run.oneGroup (stoppedAfter 3)
  have cancelled : (resting.execution Run.oneGroup (stoppedAfter 3)).2 = .error (.cancelled none) := by
    rfl
  exact ⟨cancelled, truncates.named none cancelled, truncates.calls⟩

/-- While the whole upgrade is waited for nothing is about to be changed, and a stop is heeded. -/
theorem unchanged_iff_resting :
    ∀ call ∈ calls ((resting.execution Run.oneGroup (stoppedAfter 3)).1.drop 3),
      call.changes = false := by
  refine (unchanged_iff resting Run.oneGroup 3).1.2 ?_
  have none : calls (untilHeeding ((resting.execution Run.oneGroup undisturbed).1.drop 3)) = [] := by
    rfl
  rw [none]
  nofun

end World

end FabricUpgrade
