import FabricUpgrade.Proofs.Plant

/-!
# Sessions held at a plant

`Scene.hold` holds a session at a plant without disturbing it, and notes the plants at which it would
have heeded a stop.  These, and the plant at its end, are the plants that a run leaves behind when it
is told to stop at some moment (`Plant.leftBy_cases`, `Plant.exists_leftBy`,
`Plant.exists_leftBy_end`).
-/

namespace FabricUpgrade

open Program Session

/-- A plant at an instant. -/
structure Scene where
  plant : Plant
  now : Nat

/-- A session that was held to its end. -/
structure Held (Result : Type) where
  /-- The plants at which it would have heeded a stop. -/
  stops : List Plant
  result : Result
  scene : Scene

/-- What comes after a session that was held. -/
def Held.goOn {First Second : Type} (held : Held First) (next : First → Scene → Held Second) :
    Held Second :=
  let rest := next held.result held.scene
  { rest with stops := held.stops ++ rest.stops }

namespace Scene

/-- Answers a question; nobody tells the session to stop. -/
def answer (scene : Scene) : (asked : Question) → Answer asked × Scene
  | .call made =>
    let replied := scene.plant.respond made
    (replied.1, { scene with plant := replied.2 })
  | .now => (scene.now, scene)
  | .sleep milliseconds => (true, { scene with now := scene.now + milliseconds })
  | .stopRequested => (false, scene)

/-- Holds a session. -/
def hold {Result : Type} : Session Result → Scene → Held Result
  | .done result, scene => ⟨[], result, scene⟩
  | .ask asked resume, scene =>
    let answered := scene.answer asked
    let rest := hold (resume answered.1) answered.2
    { rest with stops := if asked.heeds then scene.plant :: rest.stops else rest.stops }

variable {First Second : Type}

/-- A sequence is held by holding its first part and then the rest. -/
theorem hold_andThen (first : Session First) (next : First → Session Second) (scene : Scene) :
    hold (first.andThen next) scene =
      (hold first scene).goOn fun result scene => hold (next result) scene := by
  induction first generalizing scene with
  | done result => rfl
  | ask asked resume inductionHypothesis =>
    simp only [andThen_ask, hold, inductionHypothesis, Held.goOn]
    cases asked.heeds with
    | true => rfl
    | false => rfl

/-- A sequence whose first part returns is held on with what it returned. -/
theorem hold_bind_ok {first : Procedure First} {next : First → Procedure Second} {scene : Scene}
    {value : First} (returned : (hold first.run scene).result = .ok value) :
    hold (first >>= next).run scene =
      (hold first.run scene).goOn fun _ scene => hold (next value).run scene := by
  change hold (first.run.andThen (ExceptT.bindCont next)) scene = _
  rw [hold_andThen, Held.goOn, returned]
  rfl

/-- A sequence whose first part fails is held no further. -/
theorem hold_bind_error {first : Procedure First} {next : First → Procedure Second} {scene : Scene}
    {failure : Failure} (failed : (hold first.run scene).result = .error failure) :
    hold (first >>= next).run scene =
      (hold first.run scene).goOn fun _ scene => ⟨[], .error failure, scene⟩ := by
  change hold (first.run.andThen (ExceptT.bindCont next)) scene = _
  rw [hold_andThen, Held.goOn, failed]
  rfl

end Scene

namespace Plant

/-- The plant after some exchanges, and the instant then. -/
def sceneAfter (plant : Plant) (past : History) : Scene :=
  ⟨plant.after (calls past), elapsed past⟩

variable {plant : Plant} {past : History}

/-- In the world of the plant every question is answered as in the scene at that moment. -/
theorem world_answer_eq (plant : Plant) (past : History) (asked : Question) :
    plant.world.answer World.undisturbed past asked = ((plant.sceneAfter past).answer asked).1 := by
  cases asked <;> rfl

/-- An undisturbed exchange leads from one scene to the next. -/
theorem sceneAfter_snoc (plant : Plant) (past : History) (asked : Question) :
    plant.sceneAfter (past ++ [⟨asked, plant.world.answer World.undisturbed past asked⟩]) =
      ((plant.sceneAfter past).answer asked).2 := by
  cases asked with
  | call made =>
    rw [sceneAfter, calls_append, after_append, elapsed_snoc]
    rfl
  | now =>
    rw [sceneAfter, calls_append, after_append, elapsed_snoc]
    rfl
  | sleep milliseconds =>
    rw [sceneAfter, calls_append, after_append, elapsed_snoc]
    rfl
  | stopRequested =>
    rw [sceneAfter, calls_append, after_append, elapsed_snoc]
    rfl

/-- The plants that exchanges lead to right in front of those that heed a stop. -/
def heedings (plant : Plant) : History → History → List Plant
  | _, [] => []
  | past, exchange :: later =>
    let rest := plant.heedings (past ++ [exchange]) later
    if exchange.question.heeds then plant.after (calls past) :: rest else rest

/-- The plants at which a stop is heeded are those in front of the questions that heed it. -/
theorem mem_heedings_iff {plant left : Plant} {past exchanges : History} :
    left ∈ plant.heedings past exchanges ↔
      ∃ earlier exchange later, exchanges = earlier ++ exchange :: later ∧
        exchange.question.heeds = true ∧ left = plant.after (calls (past ++ earlier)) := by
  induction exchanges generalizing past with
  | nil => simp [heedings]
  | cons first rest inductionHypothesis =>
    have inRest : left ∈ plant.heedings (past ++ [first]) rest ↔
        ∃ earlier exchange later, rest = earlier ++ exchange :: later ∧
          exchange.question.heeds = true ∧ left = plant.after (calls (past ++ first :: earlier)) := by
      simpa using @inductionHypothesis (past ++ [first])
    constructor
    · intro member
      by_cases heeds : first.question.heeds = true
      · rw [heedings, if_pos heeds, List.mem_cons, inRest] at member
        rcases member with same | ⟨earlier, exchange, later, rfl, heeds, same⟩
        · exact ⟨[], first, rest, rfl, heeds, by simpa using same⟩
        · exact ⟨first :: earlier, exchange, later, rfl, heeds, same⟩
      · rw [heedings, if_neg heeds, inRest] at member
        obtain ⟨earlier, exchange, later, rfl, heeds, same⟩ := member
        exact ⟨first :: earlier, exchange, later, rfl, heeds, same⟩
    · rintro ⟨earlier, exchange, after, split, heeds, same⟩
      cases earlier with
      | nil =>
        obtain ⟨rfl, rfl⟩ := List.cons.inj split
        rw [heedings, if_pos heeds]
        exact List.mem_cons.2 (.inl (by simpa using same))
      | cons _ earlier =>
        obtain ⟨rfl, rfl⟩ := List.cons.inj split
        have member := inRest.2 ⟨earlier, exchange, after, rfl, heeds, same⟩
        by_cases heeds : first.question.heeds = true
        · rw [heedings, if_pos heeds]
          exact List.mem_cons_of_mem _ member
        · rw [heedings, if_neg heeds]
          exact member

/-- To converse undisturbed in the world of a plant is to be held at the plant. -/
theorem converse_eq_hold {Result : Type} (plant : Plant) (program : Session Result)
    (past : History) :
    ∃ exchanges,
      program.converse (plant.world.answer World.undisturbed) past =
        (past ++ exchanges, ((plant.sceneAfter past).hold program).result) ∧
      ((plant.sceneAfter past).hold program).stops = plant.heedings past exchanges ∧
      ((plant.sceneAfter past).hold program).scene = plant.sceneAfter (past ++ exchanges) := by
  induction program generalizing past with
  | done result => exact ⟨[], by rw [List.append_nil]; rfl, rfl, by rw [List.append_nil]; rfl⟩
  | ask asked resume inductionHypothesis =>
    obtain ⟨exchanges, converse, stops, scene⟩ :=
      inductionHypothesis (plant.world.answer World.undisturbed past asked)
        (past ++ [⟨asked, plant.world.answer World.undisturbed past asked⟩])
    rw [sceneAfter_snoc, world_answer_eq] at converse stops scene
    rw [List.append_assoc] at converse scene
    refine ⟨⟨asked, plant.world.answer World.undisturbed past asked⟩ :: exchanges, ?_, ?_, ?_⟩
    · rw [Program.converse, world_answer_eq]
      exact converse
    · rw [heedings, world_answer_eq, Scene.hold, stops]
      rfl
    · rw [world_answer_eq]
      exact scene

/-- How a run is held at a plant. -/
def held (plant : Plant) (run : Run) : Held (Except Failure Report) :=
  Scene.hold (run.execute {}).run ⟨plant, 0⟩

/-- The plant that a run leaves behind which is told to stop at certain moments. -/
def leftBy (plant : Plant) (run : Run) (told : History → Bool) : Plant :=
  plant.after (calls (plant.world.execution run told).1)

variable {run : Run}

/-- The execution in the world of the plant is the run held on it, with its end, its stops and what
it leaves. -/
theorem execution_eq_held (plant : Plant) (run : Run) :
    (plant.world.execution run World.undisturbed).2 = (plant.held run).result ∧
      (plant.held run).stops =
        plant.heedings [] (plant.world.execution run World.undisturbed).1 ∧
      (plant.held run).scene.plant = plant.leftBy run World.undisturbed := by
  obtain ⟨exchanges, converse, stops, scene⟩ := plant.converse_eq_hold (run.execute {}).run []
  rw [List.nil_append] at converse scene
  have execution : plant.world.execution run World.undisturbed =
      (exchanges, (plant.held run).result) := converse
  rw [leftBy, execution]
  exact ⟨rfl, stops, congrArg Scene.plant scene⟩

/-- A run that is told to stop leaves the plant behind at which it would have ended, or one at which
it heeded the stop. -/
theorem leftBy_cases (plant : Plant) (run : Run) (told : History → Bool) :
    plant.leftBy run told = (plant.held run).scene.plant ∨
      plant.leftBy run told ∈ (plant.held run).stops := by
  obtain ⟨-, stops, scene⟩ := plant.execution_eq_held run
  rcases plant.world.execution_cases run told with
    same | ⟨earlier, asked, later, account, heeded, cut, full⟩
  · left
    rw [scene, leftBy, leftBy, same]
  · right
    rw [stops, mem_heedings_iff]
    refine ⟨earlier, _, later, full, heeded.heeds, ?_⟩
    rw [leftBy, cut, calls_append, calls_of_heeds heeded.heeds, List.append_nil]
    rfl

/-- Every plant at which a run would have heeded a stop is left behind by a stop at some moment. -/
theorem exists_leftBy {left : Plant} (stop : left ∈ (plant.held run).stops) :
    ∃ count, plant.leftBy run (World.stoppedAfter count) = left := by
  rw [(plant.execution_eq_held run).2.1, mem_heedings_iff] at stop
  obtain ⟨earlier, exchange, later, split, heeds, rfl⟩ := stop
  refine ⟨earlier.length, ?_⟩
  have given := (plant.world.execution_spec run (World.stoppedAfter earlier.length)).2
  have undone := (plant.world.execution_spec run World.undisturbed).2 earlier exchange later split
  -- The stopped run does not get past the exchange, which would have heeded the stop.
  have ends : ¬ ∃ rest, (plant.world.execution run (World.stoppedAfter earlier.length)).1 =
      earlier ++ exchange :: rest := by
    rintro ⟨rest, goesOn⟩
    have quiet := World.unheeding_of_common (decide_eq_true (Nat.le_refl _))
      (given earlier exchange rest goesOn) undone
    rw [heeds] at quiet
    cases quiet
  rcases plant.world.execution_cases run (World.stoppedAfter earlier.length) with
    same | ⟨before, asked, rest, account, heeded, cut, full⟩
  · exact absurd ⟨later, same ▸ split⟩ ends
  · have late : earlier.length ≤ before.length := of_decide_eq_true (World.told_of_stops heeded)
    obtain rfl : before = earlier := by
      rcases List.append_eq_append_iff.1 (full.symm.trans split) with
        ⟨more, rfl, -⟩ | ⟨more, rfl, tail⟩
      · rw [List.length_append] at late
        rw [List.eq_nil_of_length_eq_zero (l := more) (by omega), List.append_nil]
      · cases more with
        | nil => exact List.append_nil _
        | cons first between =>
          obtain ⟨rfl, -⟩ := List.cons.inj tail
          exact absurd ⟨_, (congrArg Prod.fst cut).trans (List.append_assoc _ _ _)⟩ ends
    rw [leftBy, cut, calls_append, calls_of_heeds heeded.heeds, List.append_nil]
    rfl

/-- So is the plant at which it would have ended. -/
theorem exists_leftBy_end (plant : Plant) (run : Run) :
    ∃ count, plant.leftBy run (World.stoppedAfter count) = (plant.held run).scene.plant := by
  refine ⟨(plant.world.execution run World.undisturbed).1.length, ?_⟩
  rw [(plant.execution_eq_held run).2.2, leftBy, leftBy]
  rcases plant.world.execution_cases run (World.stoppedAfter _) with
    same | ⟨before, asked, rest, account, heeded, cut, full⟩
  · rw [same]
  · have late := of_decide_eq_true (World.told_of_stops heeded)
    rw [full, List.length_append, List.length_cons] at late
    omega

end Plant

end FabricUpgrade
