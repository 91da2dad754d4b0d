import FabricUpgrade.Operator.Metrics
import FabricUpgrade.Text.Target

/-!
# Health of the operator

What the operator shows of itself: whether it lives, whether it is ready, and its metrics.
-/

namespace FabricUpgrade

/-- The state of the operator that can be asked for. -/
structure Health where
  ready : Bool := false
  metrics : Metrics := {}

/-- An answer about the health of the operator. -/
structure HealthAnswer where
  status : Nat
  contentType : Option String
  body : String
deriving DecidableEq, Repr

namespace Health

/-- The content type of a plain text. -/
def plainText : String :=
  "text/plain; charset=utf-8"

/-- The content type of the exposition of the metrics. -/
def exposition : String :=
  "text/plain; version=0.0.4; charset=utf-8"

/-- The page of a path, if there is one. -/
def page? (health : Health) (path : String) : Option HealthAnswer :=
  match path with
  | "/healthz" => some ⟨200, some plainText, "ok"⟩
  | "/readyz" =>
    some (if health.ready then ⟨200, some plainText, "ready"⟩
      else ⟨503, some plainText, "not ready"⟩)
  | "/metrics" => some ⟨200, some exposition, health.metrics.text⟩
  | _ => none

/-- Answers a request. -/
def answer (health : Health) (method target : String) : HealthAnswer :=
  match health.page? (Text.Target.ofText target).path with
  | none => ⟨404, none, ""⟩
  | some page =>
    match method with
    | "GET" => page
    | "HEAD" => { page with body := "" }
    | _ => ⟨405, none, ""⟩

end Health

end FabricUpgrade
