import FabricUpgrade.Proofs.SortedMaps
import FabricUpgrade.Resource.Object

/-!
# What is written reads back

A map reads back if its keys are in order, an integer if it has 64 bits.  With that, the parts of a
status read back as they were written, and whatever was read can be written and read back.
-/

namespace FabricUpgrade

namespace Json

variable {α : Type}

/-- The integer has 64 bits. -/
def IsInt64 (value : Int) : Prop :=
  -negativeCount ≤ value ∧ value ≤ negativeCount - 1

/-- A signed integer of sixty-four bits is read back. -/
theorem int64?_int {value : Int} (fits : IsInt64 value) : int64? (int value) = some value :=
  if_pos fits

/-- A signed integer that is read has sixty-four bits. -/
theorem isInt64_of_int64? {value : Json} {number : Int} (read : value.int64? = some number) :
    IsInt64 number := by
  unfold int64? intWithin? at read
  split at read
  · split at read
    · cases read
      assumption
    · cases read
  · cases read

/-- A list is read back if each of its values is. -/
theorem mapM_map {β : Type} {decode : β → Option α} {encode : α → β} {values : List α}
    (reads : ∀ value ∈ values, decode (encode value) = some value) :
    (values.map encode).mapM decode = some values := by
  induction values with
  | nil => rfl
  | cons value rest inductionHypothesis =>
    obtain ⟨first, others⟩ := List.forall_mem_cons.1 reads
    simp [first, inductionHypothesis others]

/-- An array is read back if each of its values is. -/
theorem list?_array_map {decode : Json → Option α} {encode : α → Json} {values : List α}
    (reads : ∀ value ∈ values, decode (encode value) = some value) :
    list? decode (.array (values.map encode)) = some values :=
  mapM_map reads

/-- What holds of everything that is read of some items holds of all that is read. -/
theorem forall_mem_of_mapM {β : Type} {decode : β → Option α} {holds : α → Prop} {items : List β}
    {values : List α} (sound : ∀ item ∈ items, ∀ read, decode item = some read → holds read)
    (read : items.mapM decode = some values) : ∀ value ∈ values, holds value := by
  induction items generalizing values with
  | nil =>
    cases read
    simp
  | cons item rest inductionHypothesis =>
    simp only [List.mapM_cons, Option.bind_eq_bind, Option.bind_eq_some_iff, Option.pure_def,
      Option.some.injEq] at read
    obtain ⟨first, decoded, others, readRest, rfl⟩ := read
    obtain ⟨soundFirst, soundRest⟩ := List.forall_mem_cons.1 sound
    exact List.forall_mem_cons.2 ⟨soundFirst first decoded, inductionHypothesis soundRest readRest⟩

/-- What holds of everything that is read holds of the items of a list. -/
theorem forall_mem_of_list? {decode : Json → Option α} {holds : α → Prop}
    (sound : ∀ value read, decode value = some read → holds read) {value : Json} {values : List α}
    (read : list? decode value = some values) : ∀ item ∈ values, holds item := by
  cases value with
  | array items => exact forall_mem_of_mapM (fun item _ => sound item) read
  | null | bool _ | number _ | string _ | object _ | unreadable => cases read

namespace Record

variable {record written : Record} {name : String} {decode : Json → Option α} {encode : α → Json}
  {holds : α → Prop}

/-- A datum that is written over a field with a default reads back, and where there is none the
field stays as it was. -/
theorem withDefault_written {default old : α} {datum : Option α}
    (field : written.field name = (datum.map encode).or (record.field name))
    (reads : ∀ value ∈ datum, decode (encode value) = some value)
    (read : record.withDefault name default decode = some old) :
    written.withDefault name default decode = some (datum.getD old) := by
  cases datum with
  | none =>
    have same : written.field name = record.field name := field
    rw [withDefault, same]
    exact read
  | some value =>
    have same : written.field name = some (encode value) := field
    rw [withDefault, same]
    exact reads value rfl

/-- The same for an optional field. -/
theorem optional_written {old datum : Option α}
    (plain : ∀ value, (encode value).isPlain = true)
    (field : written.field name = (datum.map encode).or (record.field name))
    (reads : ∀ value ∈ datum, decode (encode value) = some value)
    (read : record.optional name decode = some old) :
    written.optional name decode = some (datum.or old) := by
  cases datum with
  | none =>
    have same : written.field name = record.field name := field
    rw [optional, same]
    exact read
  | some value =>
    have same : written.field name = some (encode value) := field
    have solid : encode value ≠ .null := fun null => by simpa [null, isPlain] using plain value
    simp [optional, same, reads value rfl]

/-- What is read with a default has a property if the default has it and what is read has it. -/
theorem withDefault_sound {default read : α} (holdsOfDefault : holds default)
    (sound : ∀ value read, decode value = some read → holds read)
    (decoded : record.withDefault name default decode = some read) : holds read := by
  unfold withDefault at decoded
  split at decoded
  · cases decoded
    exact holdsOfDefault
  · exact sound _ read decoded

/-- What is read where it may be missing has a property if what is read has it. -/
theorem optional_sound {read : Option α}
    (sound : ∀ value read, decode value = some read → holds read)
    (decoded : record.optional name decode = some read) : ∀ value ∈ read, holds value := by
  unfold optional at decoded
  split at decoded
  · cases decoded
    simp
  · cases decoded
    simp
  · obtain ⟨value, decodes, rfl⟩ := Option.map_eq_some_iff.1 decoded
    rintro _ ⟨⟩
    exact sound _ value decodes

/-- What is read where it may be null has a property if what is read has it. -/
theorem nullable_sound {read : Option α}
    (sound : ∀ value read, decode value = some read → holds read)
    (decoded : record.nullable name decode = some read) : ∀ value ∈ read, holds value := by
  unfold nullable at decoded
  split at decoded
  · cases decoded
  · exact optional_sound sound decoded

end Record

end Json

/-!
## The parts of a status
-/

section Parts

open Json Record

theorem Phase.ofJson?_toJson (phase : Phase) : Phase.ofJson? phase.toJson = some phase :=
  ofLabel?_label phase

theorem Status.ofJson?_toJson (status : Status) : Status.ofJson? status.toJson = some status :=
  ofWire?_wire status

namespace PlanEntry

/-- A map in the order of its keys is read back. -/
theorem mapOfJson?_ofMap {map : List (String × String)} (ordered : SortedMap.Ordered map) :
    mapOfJson? (Json.ofMap map) = some map := by
  have entries : Json.entries? Json.string? (Json.ofMap map) = some map :=
    Json.mapM_map fun _ _ => rfl
  rw [mapOfJson?, entries, Option.map_some, SortedMap.ofEntries_of_ordered ordered]

/-- A map that was read is in the order of its keys. -/
theorem ordered_of_mapOfJson? {value : Json} {map : List (String × String)}
    (read : mapOfJson? value = some map) : SortedMap.Ordered map := by
  obtain ⟨entries, -, rfl⟩ := Option.map_eq_some_iff.1 read
  exact SortedMap.ordered_ofEntries _

/-- An entry of the recorded plan is read back if its map is in order. -/
theorem ofJson?_toJson {entry : PlanEntry} (ordered : SortedMap.Ordered entry.extendedConfig) :
    PlanEntry.ofJson? entry.toJson = some entry := by
  obtain ⟨id, type, enabled, parallel, pauseAfterEachUnit, extendedConfig⟩ := entry
  cases extendedConfig with
  | nil => rfl
  | cons first rest =>
    calc PlanEntry.ofJson? _ = (mapOfJson? (ofMap (first :: rest))).bind fun map =>
          some ⟨id, type, enabled, parallel, pauseAfterEachUnit, map⟩ := rfl
      _ = some _ := by rw [mapOfJson?_ofMap ordered, Option.bind_some]

/-- The map of an entry that was read is in the order of its keys. -/
theorem ordered_of_ofJson? (value : Json) (entry : PlanEntry)
    (read : PlanEntry.ofJson? value = some entry) : SortedMap.Ordered entry.extendedConfig := by
  simp only [ofJson?, Option.bind_eq_bind, Option.bind_eq_some_iff, Option.pure_def,
    Option.some.injEq] at read
  obtain ⟨record, -, id, -, type, -, enabled, -, parallel, -, pauses, -, map, readMap, rfl⟩ := read
  exact Json.Record.withDefault_sound .nil (fun _ _ => ordered_of_mapOfJson?) readMap

end PlanEntry

theorem GroupState.ofJson?_toJson (state : GroupState) :
    GroupState.ofJson? state.toJson = some state := by
  calc GroupState.ofJson? state.toJson = (Status.ofJson? state.status.toJson).bind fun status =>
        some ⟨state.groupId, state.groupName, status⟩ := rfl
    _ = some state := by rw [Status.ofJson?_toJson, Option.bind_some]

theorem ComponentState.ofJson?_toJson (state : ComponentState) :
    ComponentState.ofJson? state.toJson = some state := by
  obtain ⟨type, status, details, targetVersion, groupStates⟩ := state
  have states : list? GroupState.ofJson? (.array (groupStates.map GroupState.toJson)) =
      some groupStates := list?_array_map fun state _ => state.ofJson?_toJson
  calc ComponentState.ofJson? _ = (Status.ofJson? status.toJson).bind fun status =>
        (list? GroupState.ofJson? (.array (groupStates.map GroupState.toJson))).bind fun states =>
          some ⟨type, status, details, targetVersion, states⟩ := by
        cases details <;> cases targetVersion <;> rfl
    _ = some _ := by rw [Status.ofJson?_toJson, Option.bind_some, states, Option.bind_some]

namespace Condition

/-- The generation of the condition can be written and read back. -/
def Fits (condition : Condition) : Prop :=
  ∀ generation ∈ condition.observedGeneration, Json.IsInt64 generation

/-- A condition is read back if its generation fits. -/
theorem ofJson?_toJson {condition : Condition} (fits : condition.Fits) :
    Condition.ofJson? condition.toJson = some condition := by
  obtain ⟨type, status, reason, message, lastTransitionTime, observedGeneration⟩ := condition
  cases observedGeneration with
  | none => rfl
  | some generation =>
    calc Condition.ofJson? _ = ((int64? (int generation)).map some).bind fun generation =>
          some ⟨type, status, reason, message, lastTransitionTime, generation⟩ := rfl
      _ = some _ := by
        rw [int64?_int (fits generation rfl), Option.map_some, Option.bind_some]

/-- The generation of a condition that was read fits. -/
theorem fits_of_ofJson? (value : Json) (condition : Condition)
    (read : Condition.ofJson? value = some condition) : condition.Fits := by
  simp only [ofJson?, Option.bind_eq_bind, Option.bind_eq_some_iff, Option.pure_def,
    Option.some.injEq] at read
  obtain ⟨record, -, type, -, status, -, reason, -, message, -, time, -, generation, readGeneration,
    rfl⟩ := read
  exact Json.Record.nullable_sound (fun _ _ => Json.isInt64_of_int64?) readGeneration

end Condition

end Parts

end FabricUpgrade
