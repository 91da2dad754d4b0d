import FabricUpgrade.Proofs.Holding

/-!
# What a procedure does to the parts of a plant

How a procedure goes at a plant depends on the parts of the plant and on which groups there are, not
on how the groups are set and ordered, and on the time only as far as the clock can show it.  A
`Trace` says what a procedure does to the parts: where it would heed a stop, and how it ends.
`Traces` says that a procedure does that at every plant with these parts and groups; it is closed
under sequences (`traces_bind`).
-/

namespace FabricUpgrade

open Program Session

/-- What a procedure does to the parts of a plant. -/
structure Trace (Value : Type) where
  /-- The parts whenever it would heed a stop. -/
  stops : List Parts
  /-- What it returns and how it leaves the parts, unless it fails. -/
  ends : Option (Value × Parts)

namespace Trace

variable {First Second : Type}

/-- Returns a value at once. -/
def returning (value : First) (parts : Parts) : Trace First :=
  ⟨[], some (value, parts)⟩

/-- Fails at once. -/
def failing : Trace First :=
  ⟨[], none⟩

/-- Would heed a stop before all the rest. -/
def pausing (parts : Parts) (trace : Trace First) : Trace First :=
  { trace with stops := parts :: trace.stops }

/-- What comes after a procedure. -/
def andThen (trace : Trace First) (next : First → Parts → Trace Second) : Trace Second :=
  match trace.ends with
  | none => ⟨trace.stops, none⟩
  | some (value, parts) =>
    ⟨trace.stops ++ (next value parts).stops, (next value parts).ends⟩

/-- What comes after a trace that fails does not come. -/
theorem andThen_of_fails {trace : Trace First} {next : First → Parts → Trace Second}
    (fails : trace.ends = none) : trace.andThen next = ⟨trace.stops, none⟩ := by
  rw [andThen, fails]

/-- What comes after a trace that ends begins where the trace ended. -/
theorem andThen_of_ends {trace : Trace First} {next : First → Parts → Trace Second}
    {value : First} {parts : Parts} (ends : trace.ends = some (value, parts)) :
    trace.andThen next =
      ⟨trace.stops ++ (next value parts).stops, (next value parts).ends⟩ := by
  rw [andThen, ends]

/-- A sequence ends exactly if both of its parts do. -/
theorem andThen_ends_iff {trace : Trace First} {next : First → Parts → Trace Second}
    {ended : Second × Parts} :
    (trace.andThen next).ends = some ended ↔
      ∃ value parts, trace.ends = some (value, parts) ∧ (next value parts).ends = some ended := by
  cases ends : trace.ends with
  | none => simp [andThen_of_fails ends]
  | some middle =>
    obtain ⟨value, parts⟩ := middle
    simp [andThen_of_ends ends]

/-- A sequence is stopped in its first part or, if that ends, in its second one. -/
theorem mem_andThen_stops {trace : Trace First} {next : First → Parts → Trace Second}
    {stop : Parts} :
    stop ∈ (trace.andThen next).stops ↔ stop ∈ trace.stops ∨
      ∃ value parts, trace.ends = some (value, parts) ∧ stop ∈ (next value parts).stops := by
  cases ends : trace.ends with
  | none => simp [andThen_of_fails ends]
  | some middle =>
    obtain ⟨value, parts⟩ := middle
    simp [andThen_of_ends ends]

end Trace

/-- The procedure was held as the trace says, and in time. -/
structure Held.Fits {Value : Type} (ids : List String) (limit : Nat)
    (held : Held (Except Failure Value)) (trace : Trace Value) : Prop where
  stops : held.stops.map Plant.part = trace.stops
  named : ∀ plant ∈ held.stops, plant.ids.Perm ids
  returned : ∀ value parts, trace.ends = some (value, parts) →
    held.result = .ok value ∧ held.scene.plant.part = parts ∧ held.scene.plant.ids.Perm ids ∧
      held.scene.now ≤ limit
  failed : trace.ends = none → ∃ failure, held.result = .error failure

/-- At every plant with these parts and groups the procedure does what the trace says, in so much
time, if the clock can show that. -/
def Traces {Value : Type} (ids : List String) (time : Nat) (procedure : Procedure Value)
    (parts : Parts) (trace : Trace Value) : Prop :=
  ∀ scene : Scene, scene.plant.part = parts → scene.plant.ids.Perm ids →
    scene.now + time ≤ Wait.horizon →
    (scene.hold procedure.run).Fits ids (scene.now + time) trace

namespace Held.Fits

variable {Value : Type} {ids : List String} {limit : Nat} {held : Held (Except Failure Value)}
  {trace : Trace Value}

/-- A trace that fits by some time fits by any later one. -/
theorem mono {later : Nat} (fits : held.Fits ids limit trace) (within : limit ≤ later) :
    held.Fits ids later trace where
  stops := fits.stops
  named := fits.named
  returned value parts ends := by
    obtain ⟨result, part, named, now⟩ := fits.returned value parts ends
    exact ⟨result, part, named, Nat.le_trans now within⟩
  failed := fits.failed

end Held.Fits

section Rules

variable {First Second : Type} {ids : List String} {parts : Parts} {time : Nat}

/-- A trace that takes some time at most takes no more than that. -/
theorem Traces.mono {procedure : Procedure First} {trace : Trace First} {more : Nat}
    (traces : Traces ids time procedure parts trace) (within : time ≤ more) :
    Traces ids more procedure parts trace := by
  intro scene part named fits
  have short : scene.now + time ≤ scene.now + more := Nat.add_le_add_left within _
  exact (traces scene part named (Nat.le_trans short fits)).mono short

/-- A value that is just returned fits the trace that returns it. -/
theorem pure_fits {scene : Scene} {limit : Nat} (value : First) (part : scene.plant.part = parts)
    (named : scene.plant.ids.Perm ids) (now : scene.now ≤ limit) :
    (scene.hold (pure value : Procedure First).run).Fits ids limit (.returning value parts) := by
  refine ⟨rfl, nofun, ?_, nofun⟩
  rintro _ _ ⟨⟩
  exact ⟨rfl, part, named, now⟩

/-- A failure fits the trace that fails. -/
theorem throw_fits {scene : Scene} {limit : Nat} (failure : Failure) :
    (scene.hold (throw failure : Procedure First).run).Fits ids limit .failing :=
  ⟨rfl, nofun, nofun, fun _ => ⟨failure, rfl⟩⟩

/-- A value that is just returned has the trace that returns it. -/
theorem traces_pure (value : First) :
    Traces ids 0 (pure value) parts (.returning value parts) :=
  fun _ part named _ => pure_fits value part named (Nat.le_refl _)

/-- Held procedures one after the other. -/
theorem Held.Fits.goOn {first : Procedure First} {next : First → Procedure Second} {scene : Scene}
    {middle limit : Nat} {trace : Trace First} {later : First → Parts → Trace Second}
    (begins : (scene.hold first.run).Fits ids middle trace)
    (continues : ∀ value parts, trace.ends = some (value, parts) → ∀ scene : Scene,
      scene.plant.part = parts → scene.plant.ids.Perm ids → scene.now ≤ middle →
      (scene.hold (next value).run).Fits ids limit (later value parts)) :
    (scene.hold (first >>= next).run).Fits ids limit (trace.andThen later) := by
  cases ends : trace.ends with
  | none =>
    obtain ⟨failure, failed⟩ := begins.failed ends
    rw [Scene.hold_bind_error failed, Trace.andThen_of_fails ends]
    refine ⟨?_, ?_, nofun, fun _ => ⟨failure, rfl⟩⟩
    · exact (congrArg _ (List.append_nil _)).trans begins.stops
    · intro plant member
      exact begins.named plant (by simpa [Held.goOn] using member)
  | some ended =>
    obtain ⟨value, parts⟩ := ended
    obtain ⟨result, part, named, now⟩ := begins.returned value parts ends
    have rest := continues value parts ends _ part named now
    rw [Scene.hold_bind_ok result, Trace.andThen_of_ends ends]
    refine ⟨?_, ?_, rest.returned, rest.failed⟩
    · rw [← begins.stops, ← rest.stops]
      exact List.map_append
    · intro plant member
      rcases List.mem_append.1 member with early | late
      · exact begins.named plant early
      · exact rest.named plant late

/-- A sequence has the trace that goes through those of its parts. -/
theorem traces_bind {first : Procedure First} {next : First → Procedure Second} {more : Nat}
    {trace : Trace First} {later : First → Parts → Trace Second}
    (begins : Traces ids time first parts trace)
    (continues : ∀ value parts, Traces ids more (next value) parts (later value parts)) :
    Traces ids (time + more) (first >>= next) parts (trace.andThen later) := by
  intro scene part named fits
  have soon : scene.now + time ≤ Wait.horizon := by omega
  refine (begins scene part named soon).goOn fun value parts _ after part named now => ?_
  have room : after.now + more ≤ Wait.horizon := by omega
  exact (continues value parts after part named room).mono (by omega)

/-- A question whether to stop, and what is done when there is no need to. -/
theorem traces_stopRequested_bind {next : Bool → Procedure Second} {trace : Trace Second}
    (continues : Traces ids time (next false) parts trace) :
    Traces ids time (liftM Session.stopRequested >>= next) parts (trace.pausing parts) := by
  rintro scene rfl named fits
  have rest := continues scene rfl named fits
  refine ⟨congrArg _ rest.stops, ?_, rest.returned, rest.failed⟩
  intro plant member
  rcases List.mem_cons.1 member with rfl | later
  · exact named
  · exact rest.named plant later

/-- A call, and what is done with its reply. -/
theorem Scene.hold_perform_bind {call : Call} {account : Option Component} {target : Option String}
    {next : call.Reply → Procedure Second} {scene : Scene} {reply : call.Reply}
    (answered : (scene.plant.respond call).1 = .ok reply) :
    scene.hold (Procedure.perform call account target >>= next).run =
      Scene.hold (next reply).run ⟨(scene.plant.respond call).2, scene.now⟩ := by
  rw [run_bind_of_ask (Procedure.perform_run call account target)]
  simp only [Scene.hold, Scene.answer, Question.heeds, answered]
  rfl

/-- A call that succeeds at all these plants, and what is done with its reply. -/
theorem traces_perform_bind {call : Call} {account : Option Component} {target : Option String}
    {next : call.Reply → Procedure Second} {trace : Trace Second} (after : Parts)
    (suits : call.Reply → Prop)
    (answers : ∀ plant : Plant, plant.part = parts → plant.ids.Perm ids →
      ∃ reply, (plant.respond call).1 = .ok reply ∧ suits reply ∧
        (plant.respond call).2.part = after ∧ (plant.respond call).2.ids.Perm ids)
    (continues : ∀ reply, suits reply → Traces ids time (next reply) after trace) :
    Traces ids time (Procedure.perform call account target >>= next) parts trace := by
  intro scene part named fits
  obtain ⟨reply, answered, suitable, left, names⟩ := answers scene.plant part named
  rw [Scene.hold_perform_bind answered]
  exact continues reply suitable ⟨(scene.plant.respond call).2, scene.now⟩ left names fits

/-- A call that is refused at all these plants. -/
theorem traces_perform_bind_refused {call : Call} {account : Option Component}
    {target : Option String} {next : call.Reply → Procedure Second}
    (answers : ∀ plant : Plant, plant.part = parts → plant.ids.Perm ids →
      ∃ error, (plant.respond call).1 = .error error) :
    Traces ids time (Procedure.perform call account target >>= next) parts .failing := by
  intro scene part named _
  obtain ⟨error, answered⟩ := answers scene.plant part named
  rw [run_bind_of_ask (Procedure.perform_run call account target)]
  simp only [Scene.hold, Scene.answer, Question.heeds, answered]
  exact throw_fits _

end Rules

end FabricUpgrade
