import FabricUpgrade.Proofs.Moments
import FabricUpgrade.Proofs.PlainRun

/-!
# The finalizers of others

To add or to remove its finalizer the operator gets the stored run and then patches it with the whole
list of finalizers that is to stand there.  Before, between and after the two requests other clients of
the store may do with the run what they like.  `Upkeep.Acts` is a step of the operator, and
`Upkeep.Step` a step of anybody.  Whatever they do, the operator asks no more than this
(`Upkeep.procedure_obeys`), and a step of it leaves the finalizers of others alone exactly if those that
it has got are still those that stand there (`Upkeep.spares_iff`).  For nothing in the patch tells which
version of the run it was made from: whatever stands there by then is overwritten (`Upkeep.overwrites`).
-/

namespace FabricUpgrade

open Program

namespace Metadata

variable {value : Json} {metadata : Metadata}

/-- The finalizers are read as an optional member of an object. -/
theorem finalizers_of_ofJson? (read : Metadata.ofJson? value = some metadata) :
    ∃ record, Json.objectRecord? [] value = some record ∧
      record.optional "finalizers" (Json.list? Json.string?) = some metadata.finalizers := by
  simp only [Metadata.ofJson?, Option.bind_eq_bind, Option.bind_eq_some_iff] at read
  obtain ⟨record, opened, _, -, _, -, _, -, _, -, _, -, _, -, _, -, _, -, _, -, _, -, _, -, finalizers,
    given, _, -, same⟩ := read
  cases same
  exact ⟨record, opened, given⟩

end Metadata

namespace RunObject

open Json

variable {members : Members} {run : RunObject}

/-- The finalizers of a stored run, if they can be read. -/
def finalizersIn? (members : Members) : Option (List String) :=
  match ((members.lookup "metadata").bind (get? "finalizers")).getD .null with
  | .null => some []
  | value => list? string? value

/-- The finalizers of a run that is read are those in its members. -/
theorem finalizersIn?_of_ofJson? (read : RunObject.ofJson? (.object members) = some run) :
    finalizersIn? members = some run.metadata.allFinalizers := by
  obtain ⟨value, stored, read⟩ := Option.bind_eq_some_iff.1 (metadataIn?_of_ofJson? read)
  obtain ⟨record, opened, given⟩ := Metadata.finalizers_of_ofJson? read
  cases value with
  | object named =>
    obtain rfl : record = ⟨fun name => named.lookup name, false⟩ := by
      simpa [objectRecord?, eq_comm] using opened
    simp only [Record.optional] at given
    simp only [finalizersIn?, stored, Option.bind_some, get?, Metadata.allFinalizers]
    cases listed : named.lookup "finalizers" with
    | none =>
      simp only [listed, Option.some.injEq] at given
      simp [← given]
    | some value =>
      simp only [listed] at given
      cases value with
      | null => simp [← Option.some.inj given]
      | bool _ | number _ | string _ | array _ | object _ | unreadable =>
        obtain ⟨finalizers, decoded, given⟩ := Option.map_eq_some_iff.1 given
        simp [← given, decoded]
  | null | bool _ | number _ | string _ | array _ | unreadable => cases opened

/-- A patch of the finalizers puts the whole list there, whatever was there before. -/
theorem finalizersIn?_finalizersPatch (finalizers : List String) (members : Members) :
    finalizersIn? ((StoreRequest.finalizersPatch finalizers).mergePatch (.object members)).membersOf =
      some finalizers := by
  have listed : list? string? (strings finalizers) = some finalizers :=
    list?_array_map fun _ _ => rfl
  simpa [StoreRequest.finalizersPatch, mergePatch, mergeMembers, membersOf, finalizersIn?, get?,
    strings, Members.lookup_put] using listed

end RunObject

namespace Reconcile

/-- What is done about the operator's finalizer. -/
inductive Upkeep where
  | add
  | remove

namespace Upkeep

/-- The finalizers of others, in their order. -/
def others (finalizers : List String) : List String :=
  finalizers.filter (· ≠ finalizer)

/-- The procedure by which it is done. -/
def procedure (run : RunObject) : Upkeep → Reconciling Unit
  | add => addFinalizer run
  | remove => removeFinalizer run

/-- The finalizers that are to stand in the place of those that are seen, if there is something to
do. -/
def change? : Upkeep → List String → Option (List String)
  | add, seen => if finalizer ∈ seen then none else some (seen ++ [finalizer])
  | remove, seen => if finalizer ∈ seen then some (others seen) else none

/-- What is to be the case when it is done. -/
def Done : Upkeep → List String → Prop
  | add, finalizers => finalizers.count finalizer = 1
  | remove, finalizers => finalizer ∉ finalizers

section Change

variable {upkeep : Upkeep} {seen next : List String}

/-- What is left to others is left to them. -/
theorem others_others : others (others seen) = others seen := by
  simp [others, List.filter_filter]

/-- What the operator makes of the finalizers that it sees has the others in it as they are. -/
theorem others_of_change? (changes : upkeep.change? seen = some next) :
    others next = others seen := by
  cases upkeep with
  | add =>
    by_cases present : finalizer ∈ seen
    · simp [change?, present] at changes
    · obtain rfl : seen ++ [finalizer] = next := by simpa [change?, present] using changes
      simp [others]
  | remove =>
    by_cases present : finalizer ∈ seen
    · obtain rfl : others seen = next := by simpa [change?, present] using changes
      exact others_others
    · simp [change?, present] at changes

/-- Whatever an upkeep changes, it is done then. -/
theorem done_of_change? (changes : upkeep.change? seen = some next) : upkeep.Done next := by
  cases upkeep with
  | add =>
    by_cases present : finalizer ∈ seen
    · simp [change?, present] at changes
    · obtain rfl : seen ++ [finalizer] = next := by simpa [change?, present] using changes
      simp [Done, List.count_append, List.count_eq_zero.2 present]
  | remove =>
    by_cases present : finalizer ∈ seen
    · obtain rfl : others seen = next := by simpa [change?, present] using changes
      simp [Done, others]
    · simp [change?, present] at changes

/-- That nothing is left out says that there was nothing to leave out. -/
theorem length_others : (others seen).length = seen.length ↔ finalizer ∉ seen := by
  rw [others, List.length_filter_eq_length_iff]
  constructor
  · intro all present
    simpa using all finalizer present
  · intro absent other member
    have differs : other ≠ finalizer := fun same => absent (same ▸ member)
    simpa using differs

/-- Where there is nothing to take out, the finalizer is not there. -/
theorem not_mem_of_change?_remove (rests : remove.change? seen = none) : finalizer ∉ seen := by
  intro present
  simp [change?, present] at rests

end Change

/-!
## What the operator asks
-/

section Asking

variable {upkeep : Upkeep} {run : RunObject}

/-- The question that gets the stored run. -/
abbrev getting (run : RunObject) : Question :=
  .store (.getRun (space run) (name run))

/-- The question that writes its finalizers. -/
abbrev patching (run : RunObject) (finalizers : List String) : Question :=
  .store (.patchRun (space run) (name run) (StoreRequest.finalizersPatch finalizers))

/-- What is asked when: first the run is got, and then what is made of its finalizers is written. -/
inductive Asking (upkeep : Upkeep) (run : RunObject) : History → Question → Prop where
  | get : Asking upkeep run [] (getting run)
  | patch {value : Json} {seen : RunObject} {next : List String}
      (read : RunObject.ofJson? value = some seen)
      (changes : upkeep.change? seen.metadata.allFinalizers = some next) :
      Asking upkeep run [⟨getting run, .ok value⟩] (patching run next)

/-- The exchanges after which all is well. -/
inductive Succeeds (upkeep : Upkeep) (run : RunObject) : History → Prop where
  /-- There is nothing to do. -/
  | found {value : Json} {seen : RunObject} (read : RunObject.ofJson? value = some seen)
      (rests : upkeep.change? seen.metadata.allFinalizers = none) :
      Succeeds upkeep run [⟨getting run, .ok value⟩]
  /-- The run is gone, and the finalizer with it. -/
  | gone {error : StoreError} (missing : error.isNotFound = true) (removes : upkeep = .remove) :
      Succeeds upkeep run [⟨getting run, .error error⟩]
  | patched {value : Json} {next : List String} (reply : Json) :
      Succeeds upkeep run [⟨getting run, .ok value⟩, ⟨patching run next, .ok reply⟩]

/-- A patch of which the store does not say that it was made is no success. -/
theorem not_succeeds_of_error {got : Exchange Question Answer} {request : StoreRequest}
    {error : StoreError} : ¬ upkeep.Succeeds run [got, ⟨.store request, .error error⟩] := by
  intro succeeds
  generalize same : [got, ⟨.store request, .error error⟩] = past at succeeds
  cases succeeds with
  | found | gone => simp at same
  | patched =>
    obtain ⟨-, same⟩ := List.cons.inj same
    obtain ⟨same, -⟩ := List.cons.inj same
    cases same

/-- The patch is the last thing that is asked. -/
theorem patch_obeys {value : Json} {seen : RunObject} {next : List String}
    (read : RunObject.ofJson? value = some seen)
    (changes : upkeep.change? seen.metadata.allFinalizers = some next) :
    (do
      let _ ← fromStore RunObject.ofJson? (.patchRun (space run) (name run)
        (StoreRequest.finalizersPatch next)) : Reconciling Unit).run.Obeys (upkeep.Asking run)
      (Returning fun past _ => upkeep.Succeeds run past) [⟨getting run, .ok value⟩] := by
  have patched : (fromStore RunObject.ofJson? (.patchRun (space run) (name run)
      (StoreRequest.finalizersPatch next))).run.Obeys (upkeep.Asking run)
      (Returning fun past _ => upkeep.Succeeds run past) [⟨getting run, .ok value⟩] := by
    by_cases sendable : (StoreRequest.patchRun (space run) (name run)
        (StoreRequest.finalizersPatch next)).isSendable = true
    · rw [fromStore_run sendable]
      refine ⟨.patch read changes, fun answer => ?_⟩
      cases answer with
      | error _ => trivial
      | ok reply =>
        cases written : RunObject.ofJson? reply with
        | none =>
          simp only [readAnswer, written]
          trivial
        | some _ =>
          simp only [readAnswer, written]
          exact .patched reply
    · rw [fromStore_run_of_not_sendable sendable]
      trivial
  exact obeys_bind_returning patched fun _ _ succeeds => succeeds

/-- Putting the finalizer in asks for the run and patches what it sees, until it succeeds. -/
theorem addFinalizer_asks :
    (addFinalizer run).run.Obeys (add.Asking run) (Returning fun past _ => add.Succeeds run past)
      [] := by
  have got : (fromStore RunObject.ofJson? (.getRun (space run) (name run))).run.Obeys
      (add.Asking run) (Returning fun past seen => ∃ value,
        past = [⟨getting run, .ok value⟩] ∧ RunObject.ofJson? value = some seen) [] := by
    by_cases sendable : (StoreRequest.getRun (space run) (name run)).isSendable = true
    · rw [fromStore_run sendable]
      refine ⟨.get, fun answer => ?_⟩
      cases answer with
      | error _ => trivial
      | ok value =>
        cases read : RunObject.ofJson? value with
        | none =>
          simp only [readAnswer, read]
          trivial
        | some _ =>
          simp only [readAnswer, read]
          exact ⟨value, rfl, read⟩
    · rw [fromStore_run_of_not_sendable sendable]
      trivial
  refine obeys_bind_returning got ?_
  rintro _ seen ⟨value, rfl, read⟩
  by_cases present : finalizer ∈ seen.metadata.allFinalizers
  · simp only [present, if_true]
    exact .found read (if_pos present)
  · simp only [present, if_false]
    exact patch_obeys read (if_neg present)

/-- Taking the finalizer out asks for the run and patches what it sees, until it succeeds. -/
theorem removeFinalizer_asks :
    (removeFinalizer run).run.Obeys (remove.Asking run)
      (Returning fun past _ => remove.Succeeds run past) [] := by
  unfold removeFinalizer
  by_cases sendable : (StoreRequest.getRun (space run) (name run)).isSendable = true
  · rw [askStore_of_isSendable sendable]
    refine obeys_question_bind .get fun answer => ?_
    cases answer with
    | error error =>
      by_cases missing : error.isNotFound = true
      · simp only [missing, if_true]
        exact .gone missing rfl
      · simp only [missing]
        trivial
    | ok value =>
      cases read : RunObject.ofJson? value with
      | none =>
        simp only [read]
        trivial
      | some seen =>
        simp only [read]
        by_cases present : finalizer ∈ seen.metadata.allFinalizers
        · have fewer : ¬ (seen.metadata.allFinalizers.filter (· ≠ finalizer)).length =
              seen.metadata.allFinalizers.length := mt length_others.1 (not_not_intro present)
          simp only [fewer, if_false]
          exact patch_obeys read (if_pos present)
        · have same : (seen.metadata.allFinalizers.filter (· ≠ finalizer)).length =
              seen.metadata.allFinalizers.length := length_others.2 present
          simp only [same, if_true]
          exact .found read (if_neg present)
  · have unsent : askStore (.getRun (space run) (name run)) = .done (.error .malformed) := by
      simp only [askStore, sendable]
      rfl
    rw [unsent]
    trivial

/-- Whatever it is answered, the operator gets the run and writes its finalizers then, if there is
something to do. -/
theorem procedure_obeys :
    (upkeep.procedure run).run.Obeys (upkeep.Asking run)
      (Returning fun past _ => upkeep.Succeeds run past) [] := by
  cases upkeep with
  | add => exact addFinalizer_asks
  | remove => exact removeFinalizer_asks

end Asking

/-!
## The operator among others
-/

/-- What is stored of the run, if it is there, and how far the operator has come. -/
structure Scene where
  stored : Option Json.Members
  past : History := []
  rest : Reconcile (Except ReconcileError Unit)

/-- How the store may answer, and what it holds then. -/
inductive Serves : Option Json.Members → (asked : Question) → Answer asked →
    Option Json.Members → Prop where
  /-- The run is shown as it is. -/
  | shown (members : Json.Members) (space name : String) :
      Serves (some members) (.store (.getRun space name)) (.ok (.object members)) (some members)
  /-- A patch is made, whatever the answer to it is. -/
  | patched (members : Json.Members) (space name : String) (patch : Json)
      (reply : Except StoreError Json) :
      Serves (some members) (.store (.patchRun space name patch)) reply
        (some (patch.mergePatch (.object members)).membersOf)
  /-- A request fails and changes nothing.  What is there is not said to be gone. -/
  | failed (stored : Option Json.Members) (request : StoreRequest) (error : StoreError)
      (honest : error.isNotFound = true → stored = none) :
      Serves stored (.store request) (.error error) stored

/-- A step of the operator: its question is answered. -/
inductive Acts : Scene → Scene → Prop where
  | answered {stored left : Option Json.Members} {past : History} {asked : Question}
      {resume : Answer asked → Reconcile (Except ReconcileError Unit)} (reply : Answer asked)
      (serves : Serves stored asked reply left) :
      Acts ⟨stored, past, .ask asked resume⟩ ⟨left, past ++ [⟨asked, reply⟩], resume reply⟩

/-- A step of anybody. -/
inductive Step : Scene → Scene → Prop where
  | own {before after : Scene} (acts : Acts before after) : Step before after
  /-- Another client writes the run as it likes, or deletes it. -/
  | foreign (before : Scene) (stored : Option Json.Members) : Step before { before with stored }

namespace Scene

/-- The scenes that there can be when the operator has begun, whatever is stored then. -/
def Reachable (upkeep : Upkeep) (run : RunObject) (scene : Scene) : Prop :=
  ∃ stored, Relation.ReflTransGen Step ⟨stored, [], (upkeep.procedure run).run⟩ scene

/-- The finalizers that stand in the stored run, if it is there and they can be read. -/
def finalizers? (scene : Scene) : Option (List String) :=
  scene.stored.bind RunObject.finalizersIn?

/-- The finalizers that the operator has got. -/
def shown? (scene : Scene) : Option (List String) :=
  match scene.past with
  | [⟨.store (.getRun _ _), answer⟩] =>
    match (answer : Except StoreError Json) with
    | .ok value => (RunObject.ofJson? value).map fun run => run.metadata.allFinalizers
    | .error _ => none
  | _ => none

/-- The operator is done, and all is well. -/
def Succeeded (scene : Scene) : Prop :=
  scene.rest = .done (.ok ())

end Scene

section Scenes

variable {upkeep : Upkeep} {run : RunObject} {before after : Scene}

/-- What the others do does not take the operator anywhere. -/
theorem reaches_of_reachable (reachable : before.Reachable upkeep run) :
    Reaches (upkeep.procedure run).run before.past before.rest := by
  obtain ⟨stored, leads⟩ := reachable
  induction leads with
  | refl => exact .here _
  | tail _ step inductionHypothesis =>
    cases step with
    | own acts =>
      cases acts with
      | answered reply _ => exact inductionHypothesis.answered reply
    | foreign _ => exact inductionHypothesis

/-- Writes finalizers, if there is something to write. -/
def writing (run : RunObject) : Option (List String) → Reconciling Unit
  | none => pure ()
  | some next => do
    let _ ← fromStore RunObject.ofJson? (.patchRun (space run) (name run)
      (StoreRequest.finalizersPatch next))

/-- When it has got the run, the operator comes to write what it makes of the finalizers. -/
theorem reaches_writing {value : Json} {seen : RunObject}
    (gets : (StoreRequest.getRun (space run) (name run)).isSendable = true)
    (read : RunObject.ofJson? value = some seen) :
    Reaches (upkeep.procedure run).run [⟨getting run, .ok value⟩]
      (writing run (upkeep.change? seen.metadata.allFinalizers)).run := by
  cases upkeep with
  | add =>
    change Reaches (addFinalizer run).run _ _
    unfold addFinalizer
    rw [run_bind_of_ask (fromStore_run gets)]
    refine .ask _ ?_
    simp only [readAnswer, read, Option.elim_some]
    change Reaches (ExceptT.run (if finalizer ∈ seen.metadata.allFinalizers then _ else _)) _ _
    by_cases present : finalizer ∈ seen.metadata.allFinalizers
    · simp only [present, if_true, change?]
      exact .here _
    · simp only [present, if_false, change?]
      exact .here _
  | remove =>
    change Reaches (removeFinalizer run).run _ _
    unfold removeFinalizer
    rw [askStore_of_isSendable gets]
    refine .ask _ ?_
    change Reaches (ExceptT.bindCont _ (Except.ok (Except.ok value))) _ _
    by_cases present : finalizer ∈ seen.metadata.allFinalizers
    · have fewer : ¬ (seen.metadata.allFinalizers.filter (· ≠ finalizer)).length =
          seen.metadata.allFinalizers.length := mt length_others.1 (not_not_intro present)
      simp only [ExceptT.bindCont, read, fewer, if_false, change?, present, if_true]
      exact .here _
    · have same : (seen.metadata.allFinalizers.filter (· ≠ finalizer)).length =
          seen.metadata.allFinalizers.length := length_others.2 present
      simp only [ExceptT.bindCont, read, same, if_true, change?, present, if_false]
      exact .here _

/-- The operator gets what is stored. -/
theorem acts_of_shown {stored : Json.Members} {seen : RunObject}
    (gets : (StoreRequest.getRun (space run) (name run)).isSendable = true)
    (read : RunObject.ofJson? (.object stored) = some seen) :
    Acts ⟨some stored, [], (upkeep.procedure run).run⟩
      ⟨some stored, [⟨getting run, .ok (.object stored)⟩],
        (writing run (upkeep.change? seen.metadata.allFinalizers)).run⟩ := by
  have begins : Reaches (upkeep.procedure run).run [⟨getting run, .ok (.object stored)⟩] _ :=
    reaches_writing gets read
  obtain ⟨resume, asks, later⟩ := begins.of_cons
  rw [asks, later.of_nil]
  exact .answered _ (.shown stored _ _)

/-- Whatever is stored in the meantime, the operator writes over it what it has made of the finalizers
that it has got. -/
theorem overwrites {stored : Json.Members} {seen : RunObject} {next : List String}
    (gets : (StoreRequest.getRun (space run) (name run)).isSendable = true)
    (patches : ∀ patch, (StoreRequest.patchRun (space run) (name run) patch).isSendable = true)
    (read : RunObject.ofJson? (.object stored) = some seen)
    (changes : upkeep.change? seen.metadata.allFinalizers = some next) {now : Json.Members}
    (decodes : (RunObject.ofJson?
      ((StoreRequest.finalizersPatch next).mergePatch (.object now))).isSome = true) :
    ∃ before after, before.Reachable upkeep run ∧ Acts before after ∧ before.stored = some now ∧
      before.shown? = some seen.metadata.allFinalizers ∧ after.finalizers? = some next ∧
      after.Succeeded := by
  let goesOn (answer : Except StoreError Json) : Reconcile (Except ReconcileError Unit) :=
    (ExceptT.mk (.done (readAnswer RunObject.ofJson? answer)) >>= fun _ => pure () :
      Reconciling Unit).run
  have writes : (writing run (upkeep.change? seen.metadata.allFinalizers)).run =
      .ask (patching run next) goesOn := by
    rw [changes]
    exact run_bind_of_ask (fromStore_run (patches _))
  have got : Step ⟨some stored, [], (upkeep.procedure run).run⟩
      ⟨some stored, [⟨getting run, .ok (.object stored)⟩], .ask (patching run next) goesOn⟩ :=
    writes ▸ .own (acts_of_shown gets read)
  have begun := (Relation.ReflTransGen.refl.tail got).tail (Step.foreign _ (some now))
  let written := (StoreRequest.finalizersPatch next).mergePatch (.object now)
  let answer : Answer (patching run next) := (Except.ok written : Except StoreError Json)
  refine ⟨_, _, ⟨_, begun⟩, .answered answer (.patched now _ _ _ _), rfl, ?_, ?_, ?_⟩
  · simp [Scene.shown?, read]
  · exact RunObject.finalizersIn?_finalizersPatch next now
  · obtain ⟨_, decoded⟩ := Option.isSome_iff_exists.1 decodes
    simp only [Scene.Succeeded, goesOn, answer, written, readAnswer, decoded]
    rfl

/-!
## What others keep
-/

/-- What a step of the operator does to finalizers is all right: those of others stand as they did,
and when it is done, its own is as it is to be. -/
structure Spares (upkeep : Upkeep) (after : Scene) (stood left : List String) : Prop where
  others : others left = others stood
  done : after.Succeeded → upkeep.Done left

/-- A run of which the operator sees that there is nothing to remove has nothing to remove. -/
theorem not_mem_of_got {stored kept : Option Json.Members} {reply : Except StoreError Json}
    {stood : List String} (serves : Serves stored (getting run) reply kept)
    (had : stored.bind RunObject.finalizersIn? = some stood)
    (succeeds : remove.Succeeds run [⟨getting run, reply⟩]) : finalizer ∉ stood := by
  cases succeeds with
  | found read rests =>
    cases serves with
    | shown members _ _ =>
      rw [Option.bind_some, RunObject.finalizersIn?_of_ofJson? read] at had
      exact Option.some.inj had ▸ not_mem_of_change?_remove rests
  | gone missing _ =>
    cases serves with
    | failed _ _ _ honest =>
      rw [honest missing] at had
      cases had

/-- A step that leaves the finalizers as they stood is all right if that is all there was to do. -/
theorem spares_self_iff {stood : List String} :
    upkeep.Spares after stood stood ↔ (after.Succeeded → upkeep.Done stood) :=
  ⟨Spares.done, fun done => ⟨rfl, done⟩⟩

/-- A step that writes what was made of the finalizers that were seen is all right if those of others
still stood as they were seen. -/
theorem spares_change_iff {seen stood next : List String} (changes : upkeep.change? seen = some next) :
    upkeep.Spares after stood next ↔ Upkeep.others seen = Upkeep.others stood := by
  rw [← others_of_change? changes]
  exact ⟨Spares.others, fun others => ⟨others, fun _ => done_of_change? changes⟩⟩

/-- The run that was got shows its finalizers. -/
theorem shown?_got {stored : Option Json.Members} {value : Json} {seen : RunObject}
    {rest : Reconcile (Except ReconcileError Unit)} (read : RunObject.ofJson? value = some seen) :
    Scene.shown? ⟨stored, [⟨getting run, .ok value⟩], rest⟩ = some seen.metadata.allFinalizers := by
  simp [Scene.shown?, read]

/-- A step of the operator is all right exactly if the finalizers of others that it has got are still
those that stand in a run that it writes, and if its own finalizer, when it is added without writing,
stands there once. -/
theorem spares_iff {stood left : List String} (reachable : before.Reachable upkeep run)
    (acts : Acts before after) (had : before.finalizers? = some stood)
    (has : after.finalizers? = some left) :
    upkeep.Spares after stood left ↔
      (∀ shown, before.shown? = some shown → after.stored ≠ before.stored →
        others shown = others stood) ∧
      (upkeep = .add → before.shown? = none → after.Succeeded → stood.count finalizer = 1) := by
  have begun := reaches_of_reachable reachable
  cases acts with
  | @answered stored kept past asked resume reply serves =>
    have obeys := procedure_obeys.reaches begun
    rw [List.nil_append] at obeys
    obtain ⟨asking, ends⟩ := obeys
    have succeeds : resume reply = .done (.ok ()) → upkeep.Succeeds run (past ++ [⟨asked, reply⟩]) := by
      intro ending
      have ended := ends reply
      rw [ending] at ended
      exact ended
    cases asking with
    | get =>
      obtain rfl : kept = stored := by cases serves <;> rfl
      obtain rfl : left = stood := Option.some.inj (has.symm.trans had)
      rw [spares_self_iff]
      constructor
      · intro done
        refine ⟨nofun, ?_⟩
        rintro rfl - succeeded
        exact done succeeded
      · rintro ⟨-, once⟩ succeeded
        cases upkeep with
        | add => exact once rfl rfl succeeded
        | remove => exact not_mem_of_got serves had (succeeds succeeded)
    | @patch value seen next read changes =>
      simp only [shown?_got read, reduceCtorEq, false_implies, implies_true, and_true,
        Option.some.injEq, forall_eq']
      cases serves with
      | patched members _ _ _ _ =>
        obtain rfl : next = left := by
          rw [Scene.finalizers?, Option.bind_some, RunObject.finalizersIn?_finalizersPatch] at has
          exact Option.some.inj has
        rw [spares_change_iff changes]
        refine ⟨fun others _ => others, fun current => ?_⟩
        by_cases kept : next = stood
        · rw [← others_of_change? changes, kept]
        · refine current fun same => kept ?_
          rw [Scene.finalizers?, same] at has
          exact Option.some.inj (has.symm.trans had)
      | failed _ _ error _ =>
        obtain rfl : left = stood := Option.some.inj (has.symm.trans had)
        rw [spares_self_iff]
        refine ⟨fun _ changed => absurd rfl changed, fun _ succeeded => ?_⟩
        exact absurd (succeeds succeeded) not_succeeds_of_error

end Scenes

/-- The members of a stored run with these finalizers. -/
def heldMembers (finalizers : List String) : Json.Members :=
  [("metadata", .object [("name", "upgrade"), ("finalizers", Json.strings finalizers)]),
    ("spec", .object [("upgradePrepareReadyId", "ready"),
      ("manager", .object [("url", "http://nsx.test"),
        ("credentialsSecret", .object [("name", "admin")])])])]

/-- The same as it is read. -/
def held (finalizers : List String) : RunObject :=
  { RunObject.plain "http://nsx.test" with
    metadata := { name := some "upgrade", finalizers := some finalizers } }

/-- The run of the example can be asked for. -/
theorem getRun_isSendable (finalizers : List String) :
    (StoreRequest.getRun (space (held finalizers)) (name (held finalizers))).isSendable = true := by
  have sendable : (StoreRequest.getRun "default" "upgrade").isSendable = true := by decide +kernel
  exact sendable

/-- The run of the example can be patched. -/
theorem patchRun_isSendable (finalizers : List String) (patch : Json) :
    (StoreRequest.patchRun (space (held finalizers)) (name (held finalizers)) patch).isSendable =
      true := by
  have sendable : (StoreRequest.patchRun "default" "upgrade" .null).isSendable = true := by
    decide +kernel
  exact sendable

/-- The members of the example are read as its run. -/
theorem ofJson?_heldMembers (finalizers : List String) :
    RunObject.ofJson? (.object (heldMembers finalizers)) = some (held finalizers) := by
  have listed : Json.list? Json.string? (Json.strings finalizers) = some finalizers :=
    Json.list?_array_map fun _ _ => rfl
  have metadata : Metadata.ofJson?
      (.object [("name", "upgrade"), ("finalizers", Json.strings finalizers)]) =
      some { name := some "upgrade", finalizers := some finalizers } := by
    -- Every other field evaluates.
    change ((Json.list? Json.string? (Json.strings finalizers)).map some).bind _ = _
    rw [listed]
    rfl
  have spec : Spec.ofJson? (.object [("upgradePrepareReadyId", "ready"),
      ("manager", .object [("url", "http://nsx.test"),
        ("credentialsSecret", .object [("name", "admin")])])]) =
      some (RunObject.plain "http://nsx.test").spec := by
    decide +kernel
  exact RunObject.ofJson?_eq_some_iff.2 ⟨_, rfl, metadata, spec, rfl⟩

/-- The patch of the example replaces the finalizers alone. -/
theorem finalizersPatch_heldMembers (next finalizers : List String) :
    (StoreRequest.finalizersPatch next).mergePatch (.object (heldMembers finalizers)) =
      .object (heldMembers next) := by
  simp [StoreRequest.finalizersPatch, Json.mergePatch, Json.mergeMembers, Json.membersOf,
    heldMembers, Json.Members.put, Json.strings]

/-- What others write between the two requests is written over. -/
theorem overwrites_held {upkeep : Upkeep} {seen next : List String}
    (stood : List String) (changes : upkeep.change? seen = some next) :
    ∃ before after, before.Reachable upkeep (held seen) ∧ Acts before after ∧
      before.shown? = some seen ∧ before.finalizers? = some stood ∧ after.finalizers? = some next ∧
      after.Succeeded := by
  have decodes : (RunObject.ofJson? ((StoreRequest.finalizersPatch next).mergePatch
      (.object (heldMembers stood)))).isSome = true := by
    rw [finalizersPatch_heldMembers, ofJson?_heldMembers]
    rfl
  obtain ⟨before, after, reachable, acts, stored, shown, left, succeeded⟩ :=
    overwrites (getRun_isSendable seen) (patchRun_isSendable seen) (ofJson?_heldMembers seen) changes
      decodes
  refine ⟨before, after, reachable, acts, shown, ?_, left, succeeded⟩
  rw [Scene.finalizers?, stored, Option.bind_some]
  exact RunObject.finalizersIn?_of_ofJson? (ofJson?_heldMembers stood)

/-- If nobody writes between the two requests, the operator's finalizer comes to stand behind the one
of another. -/
theorem spares_iff_undisturbed :
    ∃ before after, before.Reachable add (held ["x"]) ∧ Acts before after ∧
      before.finalizers? = some ["x"] ∧ after.finalizers? = some ["x", finalizer] ∧
      add.Spares after ["x"] ["x", finalizer] := by
  have changes : add.change? ["x"] = some ["x", finalizer] := by decide +kernel
  obtain ⟨before, after, reachable, acts, got, had, has, -⟩ := overwrites_held ["x"] changes
  refine ⟨before, after, reachable, acts, had, has, (spares_iff reachable acts had has).2 ⟨?_, ?_⟩⟩
  · intro shown same _
    rw [Option.some.inj (same.symm.trans got)]
  · intro _ none
    cases none.symm.trans got

/-- A finalizer that another client adds between the two requests is lost when the operator adds its
own, and one that another client takes away comes back when the operator takes away its own.  The
operator's finalizer stays there twice if it was there twice. -/
theorem not_spares_raced :
    (∃ before after, before.Reachable add (held ["x"]) ∧ Acts before after ∧
      before.finalizers? = some ["x", "y"] ∧ after.finalizers? = some ["x", finalizer] ∧
      after.Succeeded ∧ ¬ add.Spares after ["x", "y"] ["x", finalizer]) ∧
    (∃ before after, before.Reachable remove (held ["x", finalizer]) ∧ Acts before after ∧
      before.finalizers? = some [finalizer] ∧ after.finalizers? = some ["x"] ∧
      after.Succeeded ∧ ¬ remove.Spares after [finalizer] ["x"]) ∧
    ∃ before after, before.Reachable add (held [finalizer, finalizer]) ∧ Acts before after ∧
      before.finalizers? = some [finalizer, finalizer] ∧
      after.finalizers? = some [finalizer, finalizer] ∧
      after.Succeeded ∧ ¬ add.Spares after [finalizer, finalizer] [finalizer, finalizer] := by
  refine ⟨?_, ?_, ?_⟩
  · have changes : add.change? ["x"] = some ["x", finalizer] := by decide +kernel
    have lost : others ["x", finalizer] ≠ others ["x", "y"] := by decide +kernel
    obtain ⟨before, after, reachable, acts, -, had, has, succeeded⟩ :=
      overwrites_held ["x", "y"] changes
    exact ⟨before, after, reachable, acts, had, has, succeeded, fun spares => lost spares.others⟩
  · have changes : remove.change? ["x", finalizer] = some ["x"] := by decide +kernel
    have revived : others ["x"] ≠ others [finalizer] := by decide +kernel
    obtain ⟨before, after, reachable, acts, -, had, has, succeeded⟩ :=
      overwrites_held [finalizer] changes
    exact ⟨before, after, reachable, acts, had, has, succeeded, fun spares => revived spares.others⟩
  · have rests : add.change? [finalizer, finalizer] = none := by decide +kernel
    have twice : List.count finalizer [finalizer, finalizer] ≠ 1 := by decide +kernel
    have stands : RunObject.finalizersIn? (heldMembers [finalizer, finalizer]) =
        some [finalizer, finalizer] :=
      RunObject.finalizersIn?_of_ofJson? (ofJson?_heldMembers _)
    have acts : Acts ⟨some (heldMembers [finalizer, finalizer]), [],
        (add.procedure (held [finalizer, finalizer])).run⟩ ⟨_, _, _⟩ :=
      acts_of_shown (getRun_isSendable _) (ofJson?_heldMembers _)
    have succeeded : (writing (held [finalizer, finalizer])
        (add.change? [finalizer, finalizer])).run = .done (.ok ()) := by
      rw [rests]
      rfl
    exact ⟨_, _, ⟨_, .refl⟩, acts, stands, stands, succeeded,
      fun spares => twice (spares.done succeeded)⟩

end Upkeep

end Reconcile

end FabricUpgrade
