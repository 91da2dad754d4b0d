import FabricUpgrade.Json.MergePatch
import FabricUpgrade.Operator.Reconcile
import FabricUpgrade.Simulation.Fault

/-!
# A simulated cluster

A cluster that answers the questions of reconciles: a store of declared runs with one secret, the
operator's claims, retries and metrics, a virtual clock, a signal to shut down, and a network over
which the managers are reached.
-/

namespace FabricUpgrade.Simulation

/-- The kinds of requests to the store. -/
inductive StoreKind where
  | run
  | status
  | secret
  | event
deriving DecidableEq, Repr

namespace StoreKind

/-- The name of a kind. -/
def label : StoreKind → String
  | run => "run"
  | status => "status"
  | secret => "secret"
  | event => "event"

/-- The kind of a name. -/
def ofLabel? (name : String) : Option StoreKind :=
  [run, status, secret, event].find? fun kind => kind.label = name

/-- The kind of a path and the name of the object in it: the last segment, or the one in front of
the status. -/
def ofPath? (path : String) : Option (StoreKind × String) :=
  let segments := path.splitOn "/"
  if segments.getLast? = some "status" then some (status, segments.dropLast.getLastD "")
  else
    let holds (collection : String) : Bool := segments.contains collection
    let name := segments.getLastD ""
    if holds "nsxupgraderuns" then some (run, name)
    else if holds "secrets" then some (secret, name)
    else if holds "events" then some (event, name)
    else none

end StoreKind

/-- A simulated cluster. -/
structure Cluster where
  /-- The stored runs. -/
  runs : List Json := []
  secret : Option Json := none
  faults : List (Fault (String × StoreKind) Nat) := []
  claims : Claims := .empty
  retries : Retries := {}
  /-- The metrics, if any are kept. -/
  metrics : Option Metrics := some {}
  /-- Whether a reconcile has succeeded. -/
  reconciled : Bool := false
  stopped : Bool := false
  /-- The kinds of requests that the signal to shut down comes with. -/
  stopOn : List StoreKind := []
  now : Nat := 0
  /-- How many identities have been given to runs. -/
  runIds : Nat := 0
  /-- The requests to the store and their instants, the last one first. -/
  log : List (StoreRequest × Nat) := []

namespace Cluster

/-- The date and time that the cluster tells. -/
def date : String :=
  "<time>"

/-- The network of the cluster: no connection to a manager can be made. -/
def network (_ : HttpRequest) : HttpOutcome :=
  .refused

/-- How many pages a listing may take. -/
def pageLimit : Nat :=
  2000

/-- The name of a stored object. -/
def nameOf (object : Json) : Option String :=
  (object.get? "metadata").bind fun metadata => (metadata.get? "name").bind Json.string?

/-- The stored run of a name. -/
def find? (cluster : Cluster) (name : String) : Option Json :=
  cluster.runs.find? fun run => nameOf run = some name

/-- Applies a merge patch to the stored run of a name. -/
def patch (cluster : Cluster) (name : String) (patch : Json) :
    Except StoreError Json × Cluster :=
  match cluster.find? name with
  | none => (.error (.api 404), cluster)
  | some stored =>
    let patched := patch.mergePatch stored
    let runs := cluster.runs.map fun run => if nameOf run = some name then patched else run
    (.ok patched, { cluster with runs })

/-- Carries out a request of a kind for the object of a name. -/
def carryOut (cluster : Cluster) (request : StoreRequest) (name : String) :
    StoreKind → Except StoreError Json × Cluster
  | .run | .status =>
    match request.patch? with
    | some patch => cluster.patch name patch
    | none =>
      match cluster.find? name with
      | some stored => (.ok stored, cluster)
      | none => (.error (.api 404), cluster)
  | .secret =>
    match cluster.secret.filter fun secret => nameOf secret = some name with
    | some secret => (.ok secret, cluster)
    | none => (.error (.api 404), cluster)
  | .event => (.ok .null, cluster)

/-- Answers a request to the store by the path of its target. -/
def answerStore (cluster : Cluster) (request : StoreRequest) :
    Except StoreError Json × Cluster :=
  let cluster := { cluster with log := (request, cluster.now) :: cluster.log }
  match StoreKind.ofPath? request.target.path with
  | none => (.error (.api 404), cluster)
  | some (kind, name) =>
    let cluster := { cluster with stopped := cluster.stopped || kind ∈ cluster.stopOn }
    let concerns (subject : String × StoreKind) : Bool :=
      subject.1 = request.method ∧ subject.2 = kind
    match Fault.meet concerns cluster.faults with
    | (some code, faults) => (.error (.api code), { cluster with faults })
    | (none, faults) => { cluster with faults }.carryOut request name kind

/-- Answers a question of an upgrade at a manager. -/
def answerSession (cluster : Cluster) (endpoint : Endpoint) :
    (question : Session.Question) → Session.Answer question × Cluster
  | .call call =>
    let answer : Id call.Answer := (endpoint.perform pageLimit call).runIn network
    (answer, cluster)
  | .now => (cluster.now, cluster)
  | .sleep milliseconds =>
    if cluster.stopped then (false, cluster)
    else (true, { cluster with now := cluster.now + milliseconds })
  | .stopRequested => (cluster.stopped, cluster)

/-- Takes a measurement in. -/
def measure (cluster : Cluster) (measurement : Measurement) : Cluster :=
  match cluster.metrics with
  | none => cluster
  | some metrics =>
    let succeeded := match measurement with
      | .reconciled _ _ _ => true
      | _ => false
    { cluster with
      metrics := some (metrics.record measurement)
      reconciled := cluster.reconciled || succeeded }

/-- Answers a question of a reconcile. -/
def answer : (question : Reconcile.Question) → StateM Cluster (Reconcile.Answer question)
  | .store request => fun cluster => cluster.answerStore request
  | .manager endpoint question => fun cluster => cluster.answerSession endpoint question
  | .claim url => fun cluster =>
    match cluster.claims.claim? url with
    | some claims => (true, { cluster with claims })
    | none => (false, cluster)
  | .release url => fun cluster =>
    ((), { cluster with claims := cluster.claims.release (Claims.key url) })
  | .buildClient _ => fun cluster => (.ok (), cluster)
  | .newRunId => fun cluster =>
    let runIds := cluster.runIds + 1
    (s!"<uuid{runIds}>", { cluster with runIds })
  | .timestamp => fun cluster => (date, cluster)
  | .clock => fun cluster => (cluster.now, cluster)
  | .measure measurement => fun cluster => ((), cluster.measure measurement)
  | .forgetFailures resource => fun cluster =>
    ((), { cluster with retries := cluster.retries.reset resource })

/-- The reconcile of a declared run. -/
def reconcileOf (run : RunObject) : Reconcile (Except ReconcileError Action) :=
  (Reconcile.reconcile run {}).run

/-- Reconciles a declared run in the cluster. -/
def reconcile (cluster : Cluster) (run : RunObject) :
    Except ReconcileError Action × Cluster :=
  ((reconcileOf run).runIn answer).run cluster

/-- Decides how a failed reconcile of a run goes on. -/
def settleFailure (cluster : Cluster) (run : RunObject) (error : ReconcileError) :
    Action × Cluster :=
  let space := Reconcile.space run
  let name := Reconcile.name run
  let cluster := cluster.measure (.reconcileFailed space name)
  let (action, retries) := cluster.retries.answer (Retries.key space name) error
  (action, { cluster with retries })

/-- A reconcile under way: the run, and what is left to do. -/
structure Underway where
  run : RunObject
  rest : Reconcile (Except ReconcileError Action)

/-- The question has a reconcile wait for the store or for a manager, so that others get a turn. -/
def yields : Reconcile.Question → Bool
  | .store _ | .manager _ (.call _) => true
  | _ => false

/-- Goes on with a reconcile until the store or a manager has answered once, or to its end. -/
def turn {Result : Type} : Reconcile Result → Cluster → Reconcile Result × Cluster
  | .done result, cluster => (.done result, cluster)
  | .ask question resume, cluster =>
    let (reply, cluster) := answer question cluster
    if yields question then (resume reply, cluster) else turn (resume reply) cluster

/-- Gives every reconcile one turn. -/
def turnAll : List Underway → Cluster → List Underway × Cluster
  | [], cluster => ([], cluster)
  | underway :: others, cluster =>
    let (rest, cluster) := turn underway.rest cluster
    let (others, cluster) := turnAll others cluster
    (⟨underway.run, rest⟩ :: others, cluster)

/-- Brings a reconcile to its end; whenever it has to wait, the others get a turn. -/
def lead {Result : Type} :
    Reconcile Result → List Underway → Cluster → Result × List Underway × Cluster
  | .done result, others, cluster => (result, others, cluster)
  | .ask question resume, others, cluster =>
    let (reply, cluster) := answer question cluster
    if yields question then
      let (others, cluster) := turnAll others cluster
      lead (resume reply) others cluster
    else lead (resume reply) others cluster

/-- A turn of all others leaves as many of them underway. -/
theorem length_turnAll (others : List Underway) (cluster : Cluster) :
    (turnAll others cluster).1.length = others.length := by
  induction others generalizing cluster with
  | nil => rfl
  | cons underway others inductionHypothesis =>
    simp only [turnAll, List.length_cons, inductionHypothesis]

/-- No reconcile is lost while another one is brought to its end. -/
theorem length_lead {Result : Type} (rest : Reconcile Result) (others : List Underway)
    (cluster : Cluster) : (lead rest others cluster).2.1.length = others.length := by
  induction rest generalizing others cluster with
  | done result => rfl
  | ask question resume inductionHypothesis =>
    simp only [lead]
    split
    next reply cluster _ =>
      split
      · rw [inductionHypothesis, length_turnAll]
      · rw [inductionHypothesis]

/-- The instants, in milliseconds, at which runs are to be reconciled. -/
abbrev Schedule := List (Nat × RunObject)

/-- The next reconcile of a run that an action asks for. -/
def due (now : Nat) (run : RunObject) : Action → Schedule
  | .awaitChange => []
  | .requeue seconds => [(now + seconds * 1000, run)]

/-- Brings the reconciles under way to their ends, which take turns, and tells which ones they ask
for. -/
def finishAll : List Underway → Cluster → Schedule × Cluster
  | [], cluster => ([], cluster)
  | underway :: others, cluster =>
    let led := lead underway.rest others cluster
    let (action, cluster) :=
      match led.1 with
      | .ok action => (action, led.2.2)
      | .error error => led.2.2.settleFailure underway.run error
    let next := due cluster.now underway.run action
    let (later, cluster) := finishAll led.2.1 cluster
    (next ++ later, cluster)
termination_by underway => underway.length
decreasing_by
  rw [length_lead, List.length_cons]
  exact Nat.lt_succ_self _

/-- The earliest instant of a schedule. -/
def earliest? (schedule : Schedule) : Option Nat :=
  (schedule.map Prod.fst).min?

/-- Reconciles the scheduled runs up to an instant, with a bound on the instants.  The reconciles of
one instant are all begun before any of them goes on; from then on they take turns, the one that was
begun last being the first. -/
def operateUntil (last : Nat) : Nat → Schedule → Cluster → Cluster
  | 0, _, cluster => cluster
  | bound + 1, schedule, cluster =>
    match earliest? schedule with
    | none => cluster
    | some instant =>
      if last < instant then cluster
      else
        let (now, later) := schedule.partition fun entry => entry.1 = instant
        let cluster := { cluster with now := max cluster.now instant }
        let (underway, cluster) :=
          turnAll (now.map fun entry => ⟨entry.2, reconcileOf entry.2⟩) cluster
        let (next, cluster) := finishAll underway.reverse cluster
        operateUntil last bound (later ++ next) cluster

/-- Reconciles the listed runs at once, and each one again when it asks for it, up to an instant.  A
reconcile asks for the next one after a second at the soonest, which bounds their number. -/
def operate (cluster : Cluster) (runs : List RunObject) (last : Nat) : Cluster :=
  operateUntil last (runs.length * (last / 1000 + 2)) (runs.map fun run => (0, run)) cluster

end Cluster

end FabricUpgrade.Simulation
