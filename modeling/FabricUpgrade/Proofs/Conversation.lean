import FabricUpgrade.Program

/-!
# What a conversation keeps to

Whoever answers a program may answer anything, so a fact about all its conversations is a fact about
every question it asks and every result it ends in.  `Program.Reaches` is the beginning of a
conversation together with what is left of the program.  `Program.Obeys` says that each question
keeps to a rule at the moment it is asked, and that each result fits the exchanges behind it.  A
program obeys part by part (`obeys_andThen`), and what it obeys holds of its conversations
(`Obeys.permits`, `Obeys.concludes`).  `Program.Only` is the case of a rule that looks at the
questions alone.
-/

namespace FabricUpgrade.Program

variable {Question : Type} {Answer : Question → Type} {First Second Result : Type}

/-- The exchanges of a conversation so far, in order. -/
abbrev History (Question : Type) (Answer : Question → Type) : Type :=
  List (Exchange Question Answer)

/-- The exchanges of the beginning of a conversation, and what is left of the program then. -/
inductive Reaches : Program Question Answer Result → History Question Answer →
    Program Question Answer Result → Prop where
  | here (program : Program Question Answer Result) : Reaches program [] program
  | ask {asked : Question} {resume : Answer asked → Program Question Answer Result}
      {exchanges : History Question Answer} {rest : Program Question Answer Result}
      (reply : Answer asked) (later : Reaches (resume reply) exchanges rest) :
      Reaches (.ask asked resume) (⟨asked, reply⟩ :: exchanges) rest

/-- A question that the program asks after the exchanges. -/
def Asks (program : Program Question Answer Result) (past : History Question Answer)
    (asked : Question) : Prop :=
  ∃ resume, Reaches program past (.ask asked resume)

namespace Reaches

variable {program middle rest : Program Question Answer Result}
  {first second exchanges : History Question Answer} {result : Result}

/-- What is reached from a point that is reached is reached from the beginning. -/
theorem trans (begun : Reaches program first middle) (continued : Reaches middle second rest) :
    Reaches program (first ++ second) rest := by
  induction begun with
  | here _ => exact continued
  | ask reply _ inductionHypothesis => exact .ask reply (inductionHypothesis continued)

/-- An answer takes the program one exchange further. -/
theorem answered {asked : Question} {resume : Answer asked → Program Question Answer Result}
    (begun : Reaches program exchanges (.ask asked resume)) (reply : Answer asked) :
    Reaches program (exchanges ++ [⟨asked, reply⟩]) (resume reply) :=
  begun.trans (.ask reply (.here _))

/-- Every question on the way was asked after the exchanges in front of it. -/
theorem asks {exchange : Exchange Question Answer}
    (begun : Reaches program (first ++ exchange :: second) rest) :
    Asks program first exchange.question := by
  induction first generalizing program with
  | nil =>
    cases begun with
    | ask _ _ => exact ⟨_, .here _⟩
  | cons _ _ inductionHypothesis =>
    cases begun with
    | ask reply later =>
      obtain ⟨resume, asked⟩ := inductionHypothesis later
      exact ⟨resume, .ask reply asked⟩

/-- What is left of a program is settled by the exchanges, so a longer beginning goes through it. -/
theorem resumed (begun : Reaches program first middle)
    (longer : Reaches program (first ++ second) rest) : Reaches middle second rest := by
  induction begun with
  | here _ => exact longer
  | ask reply _ inductionHypothesis =>
    cases longer with
    | ask _ later => exact inductionHypothesis later

/-- The first exchange of a beginning answers the question that the program begins with. -/
theorem of_cons {exchange : Exchange Question Answer}
    (begun : Reaches program (exchange :: exchanges) rest) :
    ∃ resume, program = .ask exchange.question resume ∧
      Reaches (resume exchange.answer) exchanges rest := by
  cases begun with
  | ask _ later => exact ⟨_, rfl, later⟩

/-- Without an exchange a program has come nowhere. -/
theorem of_nil (begun : Reaches program [] rest) : rest = program := by
  cases begun
  rfl

/-- A program that has finished goes nowhere. -/
theorem of_done (begun : Reaches (.done result) exchanges rest) :
    exchanges = [] ∧ rest = .done result := by
  cases begun
  exact ⟨rfl, rfl⟩

/-- The beginning of a program is one of any sequence that it is the first part of. -/
theorem andThen {first : Program Question Answer First} {left : Program Question Answer First}
    (begun : Reaches first exchanges left) (next : First → Program Question Answer Result) :
    Reaches (first.andThen next) exchanges (left.andThen next) := by
  induction begun with
  | here _ => exact .here _
  | ask reply _ inductionHypothesis => exact .ask reply inductionHypothesis

/-- What comes behind the end of a program that asks nothing more is not reached by a question. -/
theorem of_andThen_done {first : Program Question Answer First} {next : First → Result}
    (begun : Reaches (first.andThen fun result => .done (next result)) exchanges rest) :
    ∃ left, Reaches first exchanges left := by
  induction first generalizing exchanges with
  | done result =>
    obtain ⟨rfl, -⟩ := begun.of_done
    exact ⟨_, .here _⟩
  | ask asked resume inductionHypothesis =>
    cases begun with
    | here _ => exact ⟨_, .here _⟩
    | ask reply later =>
      obtain ⟨left, reached⟩ := inductionHypothesis reply later
      exact ⟨left, .ask reply reached⟩

end Reaches

/-- A conversation is complete exactly if it reaches the end of the program. -/
theorem converses_iff_reaches_done {program : Program Question Answer Result}
    {exchanges : History Question Answer} {result : Result} :
    Converses program exchanges result ↔ Reaches program exchanges (.done result) := by
  constructor
  · intro conversation
    induction conversation with
    | done result => exact .here _
    | ask reply _ inductionHypothesis => exact .ask reply inductionHypothesis
  · intro begun
    generalize ending : Program.done result = rest at begun
    induction begun with
    | here _ => exact ending ▸ .done result
    | ask reply _ inductionHypothesis => exact .ask reply (inductionHypothesis ending)

/-- The answer to the last question leads to the end. -/
theorem Converses.of_last {program : Program Question Answer Result} {exchanges : History Question Answer}
    {asked : Question} {answer : Answer asked} {resume : Answer asked → Program Question Answer Result}
    {result : Result} (converses : Converses program (exchanges ++ [⟨asked, answer⟩]) result)
    (begun : Reaches program exchanges (.ask asked resume)) : resume answer = .done result := by
  have ends := converses_iff_reaches_done.1 converses
  have rest : Reaches (resume answer) [] (.done result) :=
    (begun.answered answer).resumed (by rwa [List.append_nil])
  generalize ending : resume answer = left at rest
  cases rest
  rfl

/-- Two complete conversations with a common continuation of their exchanges are the same one. -/
theorem Converses.unique {program : Program Question Answer Result}
    {first second before after : History Question Answer} {left right : Result}
    (leftEnds : Converses program first left) (rightEnds : Converses program second right)
    (common : first ++ before = second ++ after) : first = second ∧ left = right := by
  rw [converses_iff_reaches_done] at leftEnds rightEnds
  rcases List.append_eq_append_iff.1 common with ⟨more, rfl, -⟩ | ⟨more, rfl, -⟩
  · obtain ⟨rfl, ending⟩ := (leftEnds.resumed rightEnds).of_done
    cases ending
    exact ⟨(List.append_nil _).symm, rfl⟩
  · obtain ⟨rfl, ending⟩ := (rightEnds.resumed leftEnds).of_done
    cases ending
    exact ⟨List.append_nil _, rfl⟩

/-- The conversation with somebody who answers a question always alike, and its result. -/
def play (answer : (asked : Question) → Answer asked) :
    Program Question Answer Result → History Question Answer × Result
  | .done result => ([], result)
  | .ask asked resume =>
    let rest := (resume (answer asked)).play answer
    (⟨asked, answer asked⟩ :: rest.1, rest.2)

/-- A program that is played has the conversation that is recorded of it. -/
theorem converses_play (answer : (asked : Question) → Answer asked)
    (program : Program Question Answer Result) :
    Converses program (program.play answer).1 (program.play answer).2 := by
  induction program with
  | done result => exact .done result
  | ask asked resume inductionHypothesis => exact .ask (answer asked) (inductionHypothesis _)

/-- Playing a sequence plays its first part and then the rest. -/
theorem play_andThen (answer : (asked : Question) → Answer asked)
    (first : Program Question Answer First) (next : First → Program Question Answer Second) :
    ((first.andThen next).play answer).1 =
      (first.play answer).1 ++ ((next (first.play answer).2).play answer).1 := by
  induction first with
  | done result => rfl
  | ask asked resume inductionHypothesis =>
    exact congrArg (⟨asked, answer asked⟩ :: ·) (inductionHypothesis (answer asked))

/-- The beginning of that conversation up to a number of exchanges, and what is left then. -/
def steer (answer : (asked : Question) → Answer asked) :
    Nat → Program Question Answer Result →
      History Question Answer × Program Question Answer Result
  | 0, program => ([], program)
  | _ + 1, .done result => ([], .done result)
  | count + 1, .ask asked resume =>
    let rest := (resume (answer asked)).steer answer count
    (⟨asked, answer asked⟩ :: rest.1, rest.2)

/-- Steering a program reaches the point where the steering ends. -/
theorem reaches_steer (answer : (asked : Question) → Answer asked) (count : Nat)
    (program : Program Question Answer Result) :
    Reaches program (program.steer answer count).1 (program.steer answer count).2 := by
  induction count generalizing program with
  | zero => exact .here _
  | succ count inductionHypothesis =>
    cases program with
    | done result => exact .here _
    | ask asked resume => exact .ask (answer asked) (inductionHypothesis _)

/-- The conversation with somebody whose answers depend on what was said before, from some exchanges
on, and its result. -/
def converse (answer : History Question Answer → (asked : Question) → Answer asked) :
    Program Question Answer Result → History Question Answer → History Question Answer × Result
  | .done result, past => (past, result)
  | .ask asked resume, past =>
    (resume (answer past asked)).converse answer (past ++ [⟨asked, answer past asked⟩])

/-- It is a conversation in which every answer is the one that is given at its moment. -/
theorem converse_spec (answer : History Question Answer → (asked : Question) → Answer asked)
    (program : Program Question Answer Result) (past : History Question Answer) :
    ∃ exchanges, (program.converse answer past).1 = past ++ exchanges ∧
      Converses program exchanges (program.converse answer past).2 ∧
      ∀ earlier exchange later, exchanges = earlier ++ exchange :: later →
        exchange.answer = answer (past ++ earlier) exchange.question := by
  induction program generalizing past with
  | done result =>
    refine ⟨[], (List.append_nil past).symm, .done result, fun earlier exchange later split => ?_⟩
    simp at split
  | ask asked resume inductionHypothesis =>
    obtain ⟨exchanges, split, converses, given⟩ :=
      inductionHypothesis (answer past asked) (past ++ [⟨asked, answer past asked⟩])
    refine ⟨⟨asked, answer past asked⟩ :: exchanges, ?_, .ask _ converses, ?_⟩
    · rw [converse, split, List.append_assoc]
      rfl
    · intro earlier exchange later cut
      cases earlier with
      | nil =>
        obtain ⟨rfl, -⟩ := List.cons.inj cut
        rw [List.append_nil]
      | cons first earlier =>
        obtain ⟨rfl, tail⟩ := List.cons.inj cut
        rw [given earlier exchange later tail, List.append_assoc]
        rfl

/-- Which questions may be asked after which exchanges. -/
abbrev Rule (Question : Type) (Answer : Question → Type) : Type :=
  History Question Answer → Question → Prop

/-- Whatever the answers are, after the exchanges of the past the program asks only questions that
the rule permits at their moment, and the results it ends in fit the exchanges behind them. -/
def Obeys (rule : Rule Question Answer) (ends : History Question Answer → Result → Prop) :
    Program Question Answer Result → History Question Answer → Prop
  | .done result, past => ends past result
  | .ask asked resume, past =>
    rule past asked ∧ ∀ reply, (resume reply).Obeys rule ends (past ++ [⟨asked, reply⟩])

/-- Every exchange has the property at the moment after the exchanges in front of it. -/
def Throughout (holds : History Question Answer → Exchange Question Answer → Prop)
    (past : History Question Answer) : Prop :=
  ∀ earlier exchange later, past = earlier ++ exchange :: later → holds earlier exchange

section Throughout

variable {holds : History Question Answer → Exchange Question Answer → Prop}
  {past : History Question Answer} {exchange : Exchange Question Answer}

theorem throughout_nil : Throughout holds ([] : History Question Answer) := by
  intro earlier exchange later split
  cases earlier with
  | nil => cases split
  | cons _ _ => cases split

/-- Something holds throughout two stretches exactly if it holds throughout the first one and, with
that behind it, throughout the second one. -/
theorem throughout_append_iff {later : History Question Answer} :
    Throughout holds (past ++ later) ↔
      Throughout holds past ∧ Throughout (fun earlier => holds (past ++ earlier)) later := by
  constructor
  · intro throughout
    constructor
    · intro earlier exchange rest split
      exact throughout earlier exchange (rest ++ later) (by simp [split])
    · intro earlier exchange rest split
      exact throughout (past ++ earlier) exchange rest (by simp [split])
  · rintro ⟨first, second⟩ earlier exchange rest split
    rcases List.append_eq_append_iff.1 split with ⟨more, rfl, tail⟩ | ⟨more, rfl, tail⟩
    · exact second more exchange rest tail
    · cases more with
      | nil => simpa using second [] exchange rest tail.symm
      | cons _ more =>
        obtain ⟨rfl, -⟩ := List.cons.inj tail
        exact first earlier exchange more rfl

/-- Something holds throughout one exchange more exactly if it held before and holds of that
exchange. -/
theorem throughout_snoc_iff :
    Throughout holds (past ++ [exchange]) ↔ Throughout holds past ∧ holds past exchange := by
  rw [throughout_append_iff]
  refine and_congr_right fun _ => ⟨fun last => ?_, fun last earlier other later split => ?_⟩
  · simpa using last [] exchange [] rfl
  · obtain ⟨rfl, tail⟩ | ⟨_, rfl, tail⟩ := List.cons_eq_append_iff.1 split
    · obtain ⟨rfl, -⟩ := List.cons.inj tail
      simpa using last
    · simp at tail

/-- What holds throughout holds of every exchange. -/
theorem Throughout.mem (property : Exchange Question Answer → Prop)
    (throughout : Throughout (fun _ exchange => property exchange) past)
    (member : exchange ∈ past) : property exchange := by
  obtain ⟨earlier, later, split⟩ := List.append_of_mem member
  exact throughout earlier exchange later split

/-- What is implied by something that holds throughout holds throughout. -/
theorem Throughout.mono {suits : History Question Answer → Exchange Question Answer → Prop}
    (throughout : Throughout holds past)
    (implies : ∀ earlier exchange, holds earlier exchange → suits earlier exchange) :
    Throughout suits past :=
  fun earlier exchange later split => implies earlier exchange (throughout earlier exchange later split)

end Throughout

section Obeys

variable {rule otherRule : Rule Question Answer}
  {ends otherEnds : History Question Answer → Result → Prop}
  {program rest : Program Question Answer Result}
  {past exchanges : History Question Answer} {result : Result} {asked : Question}

@[simp]
theorem obeys_done : (Program.done result).Obeys rule ends past ↔ ends past result :=
  Iff.rfl

@[simp]
theorem obeys_ask {resume : Answer asked → Program Question Answer Result} :
    (Program.ask asked resume).Obeys rule ends past ↔
      rule past asked ∧ ∀ reply, (resume reply).Obeys rule ends (past ++ [⟨asked, reply⟩]) :=
  Iff.rfl

/-- A sequence obeys if its first part does, up to where the rest obeys. -/
theorem obeys_andThen {first : Program Question Answer First}
    {next : First → Program Question Answer Result} :
    (first.andThen next).Obeys rule ends past ↔
      first.Obeys rule (fun past middle => (next middle).Obeys rule ends past) past := by
  induction first generalizing past with
  | done middle => exact Iff.rfl
  | ask asked resume inductionHypothesis =>
    simp only [andThen_ask, obeys_ask, inductionHypothesis]

/-- A weaker rule and weaker promises about the results are obeyed as well. -/
theorem Obeys.mono (obeys : program.Obeys rule ends past)
    (permits : ∀ past asked, rule past asked → otherRule past asked)
    (suits : ∀ past result, ends past result → otherEnds past result) :
    program.Obeys otherRule otherEnds past := by
  induction program generalizing past with
  | done result => exact suits past result obeys
  | ask asked resume inductionHypothesis =>
    exact ⟨permits past asked obeys.1, fun reply => inductionHypothesis reply (obeys.2 reply)⟩

/-- A program that obeys two rules obeys both at once. -/
theorem Obeys.and (obeys : program.Obeys rule ends past)
    (also : program.Obeys otherRule otherEnds past) :
    program.Obeys (fun past asked => rule past asked ∧ otherRule past asked)
      (fun past result => ends past result ∧ otherEnds past result) past := by
  induction program generalizing past with
  | done result => exact ⟨obeys, also⟩
  | ask asked resume inductionHypothesis =>
    exact ⟨⟨obeys.1, also.1⟩, fun reply => inductionHypothesis reply (obeys.2 reply) (also.2 reply)⟩

/-- What a program obeys by itself it obeys after any other exchanges, of its own part of them. -/
theorem Obeys.after (obeys : program.Obeys rule ends past) (before : History Question Answer) :
    program.Obeys (fun past asked => ∃ own, past = before ++ own ∧ rule own asked)
      (fun past result => ∃ own, past = before ++ own ∧ ends own result) (before ++ past) := by
  induction program generalizing past with
  | done result => exact ⟨past, rfl, obeys⟩
  | ask asked resume inductionHypothesis =>
    refine ⟨⟨past, rfl, obeys.1⟩, fun reply => ?_⟩
    rw [List.append_assoc]
    exact inductionHypothesis reply (obeys.2 reply)

/-- What every permitted exchange keeps up is there at each question and at the end. -/
theorem Obeys.keeps (kept : History Question Answer → Prop) (obeys : program.Obeys rule ends past)
    (holds : kept past)
    (step : ∀ past (exchange : Exchange Question Answer), rule past exchange.question →
      kept past → kept (past ++ [exchange])) :
    program.Obeys (fun past asked => kept past ∧ rule past asked)
      (fun past result => kept past ∧ ends past result) past := by
  induction program generalizing past with
  | done result => exact ⟨holds, obeys⟩
  | ask asked resume inductionHypothesis =>
    exact ⟨⟨holds, obeys.1⟩, fun reply =>
      inductionHypothesis reply (obeys.2 reply) (step past ⟨asked, reply⟩ obeys.1 holds)⟩

/-- A program that obeys has asked only permitted questions so far. -/
theorem Obeys.throughout (obeys : program.Obeys rule ends []) :
    program.Obeys
      (fun past asked =>
        Throughout (fun earlier exchange => rule earlier exchange.question) past ∧ rule past asked)
      (fun past result =>
        Throughout (fun earlier exchange => rule earlier exchange.question) past ∧ ends past result)
      [] := by
  apply obeys.keeps
  · exact throughout_nil
  · intro past exchange permitted kept
    exact throughout_snoc_iff.2 ⟨kept, permitted⟩

/-- A program that asks something begins with that. -/
theorem Obeys.opens {resume : Answer asked → Program Question Answer Result}
    (obeys : (Program.ask asked resume).Obeys rule ends []) :
    (Program.ask asked resume).Obeys
      (fun past question => rule past question ∧ (past = [] → question = asked))
      (fun past result => ends past result ∧ past ≠ []) [] := by
  refine ⟨⟨obeys.1, fun _ => rfl⟩, fun reply => ?_⟩
  have begun := (obeys.2 reply).keeps (fun past => past ≠ []) (by simp) (by simp)
  apply begun.mono
  · intro past question permitted
    exact ⟨permitted.2, fun none => absurd none permitted.1⟩
  · intro past result ended
    exact ⟨ended.2, ended.1⟩

/-- A program that obeys goes on obeying. -/
theorem Obeys.reaches (obeys : program.Obeys rule ends past)
    (begun : Reaches program exchanges rest) : rest.Obeys rule ends (past ++ exchanges) := by
  induction begun generalizing past with
  | here _ => simpa using obeys
  | ask reply _ inductionHypothesis =>
    simpa [List.append_assoc] using inductionHypothesis (obeys.2 reply)

/-- What every permitted exchange keeps up is there wherever the program has come. -/
theorem Obeys.kept (kept : History Question Answer → Prop) (obeys : program.Obeys rule ends past)
    (begun : Reaches program exchanges rest) (holds : kept past)
    (step : ∀ past (exchange : Exchange Question Answer), rule past exchange.question →
      kept past → kept (past ++ [exchange])) : kept (past ++ exchanges) := by
  have keeps := (obeys.keeps kept holds step).reaches begun
  cases rest with
  | done result => exact keeps.1
  | ask asked resume => exact keeps.1.1

/-- Whatever a program that obeys a rule asks is permitted at that moment. -/
theorem Obeys.permits (obeys : program.Obeys rule ends past) (asks : Asks program exchanges asked) :
    rule (past ++ exchanges) asked := by
  obtain ⟨resume, begun⟩ := asks
  exact (obeys.reaches begun).1

/-- Whatever result a program that obeys a rule ends in is as promised. -/
theorem Obeys.concludes (obeys : program.Obeys rule ends past)
    (conversation : Converses program exchanges result) : ends (past ++ exchanges) result :=
  obeys.reaches (converses_iff_reaches_done.1 conversation)

end Obeys

/-- Whatever the answers are, the program asks only questions of the kind. -/
def Only (kind : Question → Prop) (program : Program Question Answer Result) : Prop :=
  ∀ past, program.Obeys (fun _ asked => kind asked) (fun _ _ => True) past

section Only

variable {kind : Question → Prop}

/-- A program that has ended asks nothing. -/
theorem only_done (result : Result) :
    Only kind (.done result : Program Question Answer Result) :=
  fun _ => trivial

/-- A single question of the kind is only of the kind. -/
theorem only_question {asked : Question} (ofKind : kind asked) :
    Only kind (question asked : Program Question Answer (Answer asked)) :=
  fun _ => ⟨ofKind, fun _ => trivial⟩

/-- A sequence asks only questions of a kind if its parts do. -/
theorem only_andThen {first : Program Question Answer First}
    {next : First → Program Question Answer Result} (begins : Only kind first)
    (continues : ∀ middle, Only kind (next middle)) : Only kind (first.andThen next) := fun past =>
  obeys_andThen.2 ((begins past).mono (fun _ _ permitted => permitted)
    fun past middle _ => continues middle past)

/-- What no question of the kind changes is at the end as it was. -/
theorem Only.keeps {program : Program Question Answer Result} {past : History Question Answer}
    (only : Only kind program) (kept : History Question Answer → Prop) (holds : kept past)
    (step : ∀ past (exchange : Exchange Question Answer), kind exchange.question →
      kept past → kept (past ++ [exchange])) :
    program.Obeys (fun past asked => kept past ∧ kind asked) (fun past _ => kept past) past :=
  ((only past).keeps kept holds step).mono (fun _ _ permitted => permitted)
    fun _ _ ended => ended.1

end Only

/-!
## Answers that make no difference
-/

/-- Which answers to a question are alike after which exchanges. -/
abbrev Likeness (Question : Type) (Answer : Question → Type) : Type :=
  History Question Answer → (asked : Question) → Answer asked → Answer asked → Prop

/-- The exchange with another answer. -/
def Exchange.changed (change : (asked : Question) → Answer asked → Answer asked)
    (exchange : Exchange Question Answer) : Exchange Question Answer :=
  ⟨exchange.question, change exchange.question exchange.answer⟩

/-- Whatever the answers are, after the exchanges of the past the program goes on in one way after
answers that are alike. -/
def Overlooks (alike : Likeness Question Answer) :
    Program Question Answer Result → History Question Answer → Prop
  | .done _, _ => True
  | .ask asked resume, past =>
    (∀ answer other, alike past asked answer other → resume answer = resume other) ∧
      ∀ reply, (resume reply).Overlooks alike (past ++ [⟨asked, reply⟩])

section Overlooks

variable {alike : Likeness Question Answer} {past exchanges : History Question Answer}

/-- A sequence overlooks what its parts overlook. -/
theorem overlooks_andThen {first : Program Question Answer First}
    {next : First → Program Question Answer Result} (begins : first.Overlooks alike past)
    (continues : ∀ past middle, (next middle).Overlooks alike past) :
    (first.andThen next).Overlooks alike past := by
  induction first generalizing past with
  | done middle => exact continues past middle
  | ask asked resume inductionHypothesis =>
    refine ⟨fun answer other same => ?_, fun reply => inductionHypothesis reply (begins.2 reply)⟩
    exact congrArg (fun rest => rest.andThen next) (begins.1 answer other same)

/-- A question none of whose answers are alike, in front of what is done with the answer. -/
theorem overlooks_ask {asked : Question} {resume : Answer asked → Program Question Answer Result}
    (apart : ∀ answer other, ¬ alike past asked answer other)
    (continues : ∀ reply, (resume reply).Overlooks alike (past ++ [⟨asked, reply⟩])) :
    (Program.ask asked resume).Overlooks alike past :=
  ⟨fun answer other same => absurd same (apart answer other), continues⟩

/-- A conversation in which some answers are changed to ones that are alike ends as it did. -/
theorem Overlooks.converses {program : Program Question Answer Result} {result : Result}
    (overlooks : program.Overlooks alike past) (conversation : Converses program exchanges result)
    (change : (asked : Question) → Answer asked → Answer asked)
    (changes : ∀ earlier exchange later, exchanges = earlier ++ exchange :: later →
      change exchange.question exchange.answer = exchange.answer ∨
        alike (past ++ earlier) exchange.question exchange.answer
          (change exchange.question exchange.answer)) :
    Converses program (exchanges.map fun exchange => exchange.changed change) result := by
  induction conversation generalizing past with
  | done result => exact .done result
  | @ask asked resume exchanges result reply rest inductionHypothesis =>
    have changed : Converses (resume reply) (exchanges.map fun exchange => exchange.changed change)
        result := by
      refine inductionHypothesis (overlooks.2 reply) fun earlier exchange later split => ?_
      have here := changes (⟨asked, reply⟩ :: earlier) exchange later (by rw [split]; rfl)
      rwa [List.append_assoc]
    have same : resume (change asked reply) = resume reply := by
      rcases changes [] ⟨asked, reply⟩ exchanges rfl with same | alike
      · exact congrArg resume same
      · rw [List.append_nil] at alike
        exact (overlooks.1 reply _ alike).symm
    exact .ask (change asked reply) (same ▸ changed)

end Overlooks

/-!
## Programs that may end early

The result of such a program is a value or an error, and an error ends the whole.
-/

section EarlyEnd

variable {Error Value Next : Type} {rule : Rule Question Answer}
  {past : History Question Answer}

/-- What has to hold of a value; an early end is all right. -/
def Returning (holds : History Question Answer → Value → Prop) :
    History Question Answer → Except Error Value → Prop
  | past, .ok value => holds past value
  | _, .error _ => True

@[simp]
theorem returning_ok {holds : History Question Answer → Value → Prop} {value : Value} :
    Returning holds past (.ok value : Except Error Value) ↔ holds past value :=
  Iff.rfl

@[simp]
theorem returning_error {holds : History Question Answer → Value → Prop} {error : Error} :
    Returning holds past (.error error) ↔ True :=
  Iff.rfl

/-- What is implied by what a returned value is known for holds of it too. -/
theorem Returning.mono {holds suits : History Question Answer → Value → Prop}
    {outcome : Except Error Value} (returning : Returning holds past outcome)
    (implies : ∀ value, holds past value → suits past value) : Returning suits past outcome := by
  cases outcome with
  | ok value => exact implies value returning
  | error error => trivial

/-- The case of `Obeys.keeps` where an early end is all right. -/
theorem Obeys.keeps_returning {holds : History Question Answer → Value → Prop}
    {program : Program Question Answer (Except Error Value)} (kept : History Question Answer → Prop)
    (obeys : program.Obeys rule (Returning holds) past) (begins : kept past)
    (step : ∀ past (exchange : Exchange Question Answer), rule past exchange.question →
      kept past → kept (past ++ [exchange])) :
    program.Obeys rule (Returning fun past value => kept past ∧ holds past value) past := by
  refine (obeys.keeps kept begins step).mono (fun _ _ permitted => permitted.2)
    fun past outcome ended => ?_
  cases outcome with
  | ok value => exact ended
  | error error => trivial

variable {ends : History Question Answer → Except Error Next → Prop}
  {middle : History Question Answer → Except Error Value → Prop}
  {first : ExceptT Error (Program Question Answer) Value}
  {next : Value → ExceptT Error (Program Question Answer) Next}

/-- A sequence obeys if its first part does, the rest does after each of its values, and each of its
errors may end the whole. -/
theorem obeys_bind (begins : first.run.Obeys rule middle past)
    (continues : ∀ past value, middle past (.ok value) → (next value).run.Obeys rule ends past)
    (fails : ∀ past error, middle past (.error error) → ends past (.error error)) :
    (first >>= next).run.Obeys rule ends past := by
  refine obeys_andThen.2 (begins.mono (fun _ _ permitted => permitted) fun past outcome holds => ?_)
  cases outcome with
  | ok value => exact continues past value holds
  | error error => exact fails past error holds

/-- The case of `obeys_bind` where the first part keeps something up, however it ends. -/
theorem obeys_bind_keeping (kept : History Question Answer → Prop)
    (begins : first.run.Obeys rule (fun past _ => kept past) past)
    (continues : ∀ past value, kept past → (next value).run.Obeys rule ends past)
    (fails : ∀ past error, kept past → ends past (.error error)) :
    (first >>= next).run.Obeys rule ends past :=
  obeys_bind begins continues fails

/-- The case of `obeys_bind` where an early end is all right. -/
theorem obeys_bind_returning {holds : History Question Answer → Value → Prop}
    {suits : History Question Answer → Next → Prop}
    (begins : first.run.Obeys rule (Returning holds) past)
    (continues : ∀ past value, holds past value →
      (next value).run.Obeys rule (Returning suits) past) :
    (first >>= next).run.Obeys rule (Returning suits) past :=
  obeys_bind begins continues fun _ _ _ => trivial

/-- A value that is just returned goes into what comes next. -/
theorem bind_of_pure {value : Value} :
    (pure value >>= next : ExceptT Error (Program Question Answer) Next) = next value :=
  rfl

/-- A sequence begins with what its first part begins with. -/
theorem run_bind_of_ask {asked : Question}
    {resume : Answer asked → Program Question Answer (Except Error Value)}
    (begins : first.run = .ask asked resume) :
    (first >>= next).run = .ask asked fun reply => (ExceptT.mk (resume reply) >>= next).run := by
  change first.run.andThen _ = _
  rw [begins]
  rfl

/-- A conversation of the first part goes on with one of what comes after its value. -/
theorem converses_bind {before after : History Question Answer} {value : Value}
    {result : Except Error Next} (begins : Converses first.run before (.ok value))
    (continues : Converses (next value).run after result) :
    Converses (first >>= next).run (before ++ after) result :=
  converses_andThen_iff.2 ⟨before, after, _, rfl, begins, continues⟩

/-- A conversation of a sequence goes through a value of the first part, or it ends in an error of
it. -/
theorem Converses.of_bind {exchanges : History Question Answer} {outcome : Except Error Next}
    (conversation : Converses (first >>= next).run exchanges outcome) :
    (∃ before after value, exchanges = before ++ after ∧ Converses first.run before (.ok value) ∧
        Converses (next value).run after outcome) ∨
      ∃ error, Converses first.run exchanges (.error error) ∧ outcome = .error error := by
  obtain ⟨before, after, middle, rfl, begins, continues⟩ := converses_andThen_iff.1 conversation
  cases middle with
  | ok value => exact .inl ⟨before, after, value, rfl, begins, continues⟩
  | error error =>
    cases continues
    exact .inr ⟨error, (List.append_nil before).symm ▸ begins, rfl⟩

/-- A conversation that ends in a value goes through a value of the first part. -/
theorem Converses.of_bind_ok {exchanges : History Question Answer} {result : Next}
    (conversation : Converses (first >>= next).run exchanges (.ok result)) :
    ∃ before after value, exchanges = before ++ after ∧ Converses first.run before (.ok value) ∧
      Converses (next value).run after (.ok result) := by
  rcases conversation.of_bind with through | ⟨error, -, ended⟩
  · exact through
  · cases ended

/-- A conversation of a lifted program returns its result. -/
theorem converses_lift {program : Program Question Answer Value}
    {exchanges : History Question Answer} {value : Value}
    (converses : Converses program exchanges value) :
    Converses (liftM program : ExceptT Error (Program Question Answer) Value).run exchanges
      (.ok value) :=
  converses_andThen_iff.2 ⟨exchanges, [], value, (List.append_nil _).symm, converses, .done _⟩

/-- A first part that gives a value leads to what comes after it. -/
theorem Converses.reaches_bind {exchanges : History Question Answer} {value : Value}
    (converses : Converses first.run exchanges (.ok value)) :
    Reaches (first >>= next).run exchanges (next value).run :=
  (converses_iff_reaches_done.1 converses).andThen _

/-- A question in front of what is done with its answer. -/
theorem obeys_question_bind {asked : Question}
    {next : Answer asked → ExceptT Error (Program Question Answer) Next} (permitted : rule past asked)
    (continues : ∀ reply, (next reply).run.Obeys rule ends (past ++ [⟨asked, reply⟩])) :
    (liftM (question asked : Program Question Answer (Answer asked)) >>= next).run.Obeys rule ends
      past :=
  ⟨permitted, continues⟩

/-- A sequence of procedures overlooks what its parts overlook. -/
theorem overlooks_bind {alike : Likeness Question Answer} (begins : first.run.Overlooks alike past)
    (continues : ∀ past value, (next value).run.Overlooks alike past) :
    (first >>= next).run.Overlooks alike past := by
  refine overlooks_andThen begins fun past outcome => ?_
  cases outcome with
  | ok value => exact continues past value
  | error error => trivial

/-- A question none of whose answers are alike, in front of what is done with its answer. -/
theorem overlooks_question_bind {alike : Likeness Question Answer} {asked : Question}
    {next : Answer asked → ExceptT Error (Program Question Answer) Next}
    (apart : ∀ answer other, ¬ alike past asked answer other)
    (continues : ∀ reply, (next reply).run.Overlooks alike (past ++ [⟨asked, reply⟩])) :
    (liftM (question asked : Program Question Answer (Answer asked)) >>= next).run.Overlooks alike
      past :=
  overlooks_ask apart continues

/-- A sequence of procedures asks only questions of a kind if its parts do. -/
theorem only_bind {kind : Question → Prop} (begins : Only kind first.run)
    (continues : ∀ value, Only kind (next value).run) : Only kind (first >>= next).run := by
  refine only_andThen begins fun outcome => ?_
  cases outcome with
  | ok value => exact continues value
  | error error => exact only_done _

/-- A lifted program asks only what the program asks. -/
theorem only_lift {kind : Question → Prop} {program : Program Question Answer Value}
    (only : Only kind program) :
    Only kind (liftM program : ExceptT Error (Program Question Answer) Value).run :=
  only_andThen only fun _ => only_done _

/-- A program that cannot end early obeys as a part of one that can. -/
theorem obeys_lift {program : Program Question Answer Value}
    {ends : History Question Answer → Except Error Value → Prop}
    (obeys : program.Obeys rule (fun past value => ends past (.ok value)) past) :
    (liftM program : ExceptT Error (Program Question Answer) Value).run.Obeys rule ends past :=
  obeys_andThen.2 obeys

end EarlyEnd

end FabricUpgrade.Program
