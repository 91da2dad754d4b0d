import FabricUpgrade.Manager.Client
import FabricUpgrade.Text.Quoted
import FabricUpgrade.Text.Seconds

/-!
# Declared endpoints

`ManagerConfig` is how to reach a manager as it is declared, `ManagerConfig.endpoint` the endpoint
that requests are sent to.  A description of it never shows the password.
-/

namespace FabricUpgrade

open Text

/-- How to reach a manager, as it is declared. -/
structure ManagerConfig where
  baseUrl : String
  username : String
  password : String
  /-- Whether any certificate will do. -/
  insecureSkipVerify : Bool := false
  /-- The time limit of a request, in seconds. -/
  requestTimeout : Nat := Endpoint.requestTimeout
deriving DecidableEq

namespace ManagerConfig

/-- The endpoint that requests are sent to. -/
def endpoint (config : ManagerConfig) : Endpoint :=
  Endpoint.ofUrl config.baseUrl config.username config.password config.insecureSkipVerify

/-- The text of a truth value. -/
def flag (value : Bool) : String :=
  if value then "true" else "false"

/-- A description of a configuration for people, without the password. -/
def description (config : ManagerConfig) : String :=
  let fields :=
    [("base_url", Quoted.encode config.baseUrl), ("username", Quoted.encode config.username),
      ("password", Quoted.encode "<redacted>"),
      ("insecure_skip_verify", flag config.insecureSkipVerify),
      ("request_timeout", secondsText config.requestTimeout)]
  "NsxManagerConfig \x7b " ++ ", ".intercalate (fields.map fun field => field.1 ++ ": " ++ field.2)
    ++ " \x7d"

/-- No description depends on the password. -/
theorem description_with_password (config : ManagerConfig) (password : String) :
    { config with password }.description = config.description :=
  rfl

end ManagerConfig

end FabricUpgrade
