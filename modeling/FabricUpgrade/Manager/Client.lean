import FabricUpgrade.Manager.Call
import FabricUpgrade.Manager.Http
import FabricUpgrade.Program
import FabricUpgrade.Text.Blank

/-!
# The manager's REST interface

`Endpoint.perform` makes a call over HTTP: it builds the URL, sends the request and reads the
answer. Lists come in pages; each page names the cursor of the next one, and a listing ends with a
page that names none or the one it was asked for with.
-/

namespace FabricUpgrade

open Text

/-- How to reach a manager. -/
structure Endpoint where
  /-- The URL that all others start with, without a slash at its end. -/
  baseUrl : String
  username : String
  password : String
  /-- Whether any certificate will do. -/
  acceptAnyCertificate : Bool := false
deriving DecidableEq

namespace Endpoint

/-- The endpoint of a declared URL. -/
def ofUrl (url username password : String) (acceptAnyCertificate : Bool) : Endpoint :=
  ⟨trimSlashes url, username, password, acceptAnyCertificate⟩

/-- The time limit of a request, in seconds. -/
def requestTimeout : Nat :=
  60

/-- The path of all upgrade resources. -/
def upgradePath : String :=
  "api/v1/upgrade"

/-- The query pair that names a component. -/
def componentPair (component : Component) : String × String :=
  ("component_type", component.wire)

/-- The request that a call is, before its URL is read: the method, the path behind the upgrade
resources, the query pairs and the body. -/
structure Route where
  method : HttpMethod
  path : String
  query : Option (List (String × String)) := none
  body : Option Json := none

/-- The route of a call. -/
def route : Call → Route
  | .getGroup id => { method := .get, path := "/upgrade-unit-groups/" ++ id }
  | .updateGroup id group =>
    { method := .put, path := "/upgrade-unit-groups/" ++ id, body := some group.toJson }
  | .reorderGroup id placement =>
    { method := .post, path := "/upgrade-unit-groups/" ++ id,
      query := some [("action", "reorder")], body := some placement.toJson }
  | .listGroups component =>
    { method := .get, path := "/upgrade-unit-groups",
      query := some (component.toList.map componentPair) }
  | .getSettings component =>
    { method := .get, path := s!"/plan/{component.wire}/settings" }
  | .updateSettings component settings =>
    { method := .put, path := s!"/plan/{component.wire}/settings",
      body := some settings.toJson }
  | .pause => { method := .post, path := "/plan", query := some [("action", "pause")] }
  | .reset component =>
    { method := .post, path := "/plan",
      query := some [("action", "reset"), componentPair component] }
  | .upgrade component =>
    { method := .post, path := "/plan",
      query := some [("action", "upgrade"), componentPair component] }
  | .getStatus component =>
    { method := .get, path := "/status-summary",
      query := component.map fun component => [componentPair component] }
  | .getGroupStatus component =>
    { method := .get, path := "/upgrade-unit-groups-status",
      query := some [componentPair component] }
  | .checkUpgraded component =>
    { method := .post, path := "",
      query := some [("action", "execute_post_upgrade_checks"), componentPair component] }

/-- The text that is read as the URL of a path behind the upgrade resources. -/
def urlText (endpoint : Endpoint) (path : String) : String :=
  endpoint.baseUrl ++ "/" ++ upgradePath ++ path

/-- The URL of a route, if a request can be sent to it: it has to be an absolute one of the HTTP
schemes with a host that can be sent. -/
def urlOf (endpoint : Endpoint) (route : Route) : Except ManagerError Url :=
  let refused (url : Url) : Except ManagerError Url :=
    .error (.transport s!"builder error for url ({url.text})")
  match Url.parse? (endpoint.urlText route.path) with
  | none => .error (.transport "builder error")
  | some url =>
    if !url.hasHost then refused url
    else
      let url := route.query.elim url.withoutUser url.withoutUser.appendQuery
      if url.scheme ∈ ["http", "https"] ∧ url.isSendable then .ok url else refused url

/-- Sends one request for each question. -/
abbrev Transport : Type → Type :=
  Program HttpRequest fun _ => HttpOutcome

/-- Sends the request of a route and gives back what comes of it with its URL. -/
def send (endpoint : Endpoint) (route : Route) :
    Transport (Except ManagerError (Url × HttpOutcome)) :=
  match endpoint.urlOf route with
  | .error error => return .error error
  | .ok url => do
    let authorization := basicAuthorization endpoint.username endpoint.password
    let outcome ← Program.question
      { method := route.method, url, authorization, body := route.body }
    return .ok (url, outcome)

/-- Makes a call whose reply is a value. -/
def fetch {α : Type} (endpoint : Endpoint) (decode : Json → Option α) (route : Route) :
    Transport (Except ManagerError α) := do
  match ← endpoint.send route with
  | .error error => return .error error
  | .ok (url, outcome) => return outcome.value decode url

/-- Makes a call whose reply says nothing. -/
def command (endpoint : Endpoint) (route : Route) : Transport (Except ManagerError Unit) := do
  match ← endpoint.send route with
  | .error error => return .error error
  | .ok (url, outcome) => return (outcome.body url).map fun _ => ()

/-- One page of a list and the cursor of the next one. -/
structure Page (α : Type) where
  items : List α
  cursor : Option String

/-- Reads a page. -/
def Page.ofJson? {α : Type} (decode : Json → Option α) (value : Json) : Option (Page α) := do
  let record ← Json.record? ["results", "cursor"] value
  return {
    items := ← record.withDefault "results" [] (Json.list? decode)
    cursor := ← record.optional "cursor" Json.string? }

/-- The cursor to ask for next, if the listing goes on behind a page that was asked for with the
given cursor. -/
def nextCursor? (asked : Option String) (named : Option String) : Option String :=
  named.filter fun cursor => cursor ≠ "" ∧ asked ≠ some cursor

/-- The route of a list with a cursor. -/
def Route.withCursor (route : Route) (cursor : Option String) : Route :=
  { route with
    query := some (route.query.getD [] ++ cursor.toList.map fun cursor => ("cursor", cursor)) }

/-- Fetches page after page, at most as many as the bound says. -/
def listFrom {α : Type} (endpoint : Endpoint) (decode : Json → Option α) (route : Route) :
    Nat → Option String → Transport (Except ManagerError (List α))
  | 0, _ => return .error (.transport "too many pages")
  | bound + 1, cursor => do
    match ← endpoint.fetch (Page.ofJson? decode) (route.withCursor cursor) with
    | .error error => return .error error
    | .ok page =>
      match nextCursor? cursor page.cursor with
      | none => return .ok page.items
      | some next =>
        return (← endpoint.listFrom decode route bound (some next)).map (page.items ++ ·)

/-- Makes a call over HTTP; a listing may take as many pages as the bound says. -/
def perform (endpoint : Endpoint) (pages : Nat) : (call : Call) → Transport call.Answer
  | .getGroup id => endpoint.fetch UnitGroup.ofJson? (route (.getGroup id))
  | .updateGroup id group => endpoint.fetch UnitGroup.ofJson? (route (.updateGroup id group))
  | .reorderGroup id placement => endpoint.command (route (.reorderGroup id placement))
  | .listGroups component =>
    endpoint.listFrom UnitGroup.ofJson? (route (.listGroups component)) pages none
  | .getSettings component => endpoint.fetch PlanSettings.ofJson? (route (.getSettings component))
  | .updateSettings component settings =>
    endpoint.fetch PlanSettings.ofJson? (route (.updateSettings component settings))
  | .pause => endpoint.command (route .pause)
  | .reset component => endpoint.command (route (.reset component))
  | .upgrade component => endpoint.command (route (.upgrade component))
  | .getStatus component => endpoint.fetch Summary.ofJson? (route (.getStatus component))
  | .getGroupStatus component =>
    endpoint.listFrom GroupStatus.ofJson? (route (.getGroupStatus component)) pages none
  | .checkUpgraded component => endpoint.command (route (.checkUpgraded component))

end Endpoint

end FabricUpgrade
