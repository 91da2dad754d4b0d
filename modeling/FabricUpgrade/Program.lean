/-!
# Programs that ask

An upgrade talks to things outside itself: the manager of the fabric, the store that holds the
declared run, a clock, a shutdown signal.  A `Program` is such a conversation written down as data.
It has finished, or it asks one question and goes on with the answer.

`Program.runIn` answers the questions in a monad, `Program.interpret` answers them by programs over
another alphabet, and `Program.Converses` is the relation between a program, the exchanges of one
complete conversation and its result.
-/

namespace FabricUpgrade

/-- A computation that has finished, or asks a question and goes on with the answer. -/
inductive Program (Question : Type) (Answer : Question → Type) (Result : Type) : Type where
  | done (result : Result)
  | ask (question : Question) (resume : Answer question → Program Question Answer Result)

namespace Program

variable {Question : Type} {Answer : Question → Type} {First Second : Type}

/-- Runs the first program to its end and goes on with its result. -/
def andThen (program : Program Question Answer First)
    (next : First → Program Question Answer Second) : Program Question Answer Second :=
  match program with
  | .done result => next result
  | .ask question resume => .ask question fun answer => (resume answer).andThen next

instance : Monad (Program Question Answer) where
  pure := .done
  bind := andThen

/-- The program that asks one question and returns its answer. -/
def question (asked : Question) : Program Question Answer (Answer asked) :=
  .ask asked .done

/-- Answers every question in a monad. -/
def runIn {Effect : Type → Type} [Monad Effect]
    (answer : (asked : Question) → Effect (Answer asked)) :
    Program Question Answer First → Effect First
  | .done result => pure result
  | .ask asked resume => do
    let reply ← answer asked
    (resume reply).runIn answer

/-- Answers every question by a program over another alphabet. -/
def interpret {Asked : Type} {Reply : Asked → Type}
    (answer : (asked : Question) → Program Asked Reply (Answer asked))
    (program : Program Question Answer First) : Program Asked Reply First :=
  program.runIn answer

/-- One question together with the answer it got. -/
structure Exchange (Question : Type) (Answer : Question → Type) where
  question : Question
  answer : Answer question

/-- The exchanges of a complete conversation, in order, and the result it ends in. -/
inductive Converses : Program Question Answer First → List (Exchange Question Answer) →
    First → Prop where
  | done (result : First) : Converses (.done result) [] result
  | ask {asked : Question} {resume : Answer asked → Program Question Answer First}
      {exchanges : List (Exchange Question Answer)} {result : First} (reply : Answer asked)
      (rest : Converses (resume reply) exchanges result) :
      Converses (.ask asked resume) (⟨asked, reply⟩ :: exchanges) result

@[simp]
theorem pure_def (result : First) :
    (pure result : Program Question Answer First) = .done result :=
  rfl

@[simp]
theorem bind_def (program : Program Question Answer First)
    (next : First → Program Question Answer Second) : program >>= next = program.andThen next :=
  rfl

@[simp]
theorem andThen_done (result : First) (next : First → Program Question Answer Second) :
    (Program.done result).andThen next = next result :=
  rfl

@[simp]
theorem andThen_ask (asked : Question) (resume : Answer asked → Program Question Answer First)
    (next : First → Program Question Answer Second) :
    (Program.ask asked resume).andThen next = .ask asked fun reply => (resume reply).andThen next :=
  rfl

/-- A conversation of a sequence is a conversation of its first part followed by one of the rest. -/
theorem converses_andThen_iff {program : Program Question Answer First}
    {next : First → Program Question Answer Second}
    {exchanges : List (Exchange Question Answer)} {result : Second} :
    Converses (program.andThen next) exchanges result ↔
      ∃ before after middle, exchanges = before ++ after ∧ Converses program before middle ∧
        Converses (next middle) after result := by
  constructor
  · intro conversation
    induction program generalizing exchanges with
    | done middle => exact ⟨[], exchanges, middle, rfl, .done middle, conversation⟩
    | ask asked resume inductionHypothesis =>
      cases conversation with
      | ask reply rest =>
        obtain ⟨before, after, middle, rfl, first, second⟩ := inductionHypothesis reply rest
        exact ⟨⟨asked, reply⟩ :: before, after, middle, rfl, .ask reply first, second⟩
  · rintro ⟨before, after, middle, rfl, first, second⟩
    induction first with
    | done middle => exact second
    | ask reply _ inductionHypothesis => exact .ask reply (inductionHypothesis second)

end Program

end FabricUpgrade
