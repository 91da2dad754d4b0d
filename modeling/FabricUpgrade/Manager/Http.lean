import FabricUpgrade.Json.Reader
import FabricUpgrade.Json.Record
import FabricUpgrade.Manager.Error
import FabricUpgrade.Text.Base64
import FabricUpgrade.Text.Url

/-!
# HTTP exchanges with a manager

An `HttpRequest` is what is sent, an `HttpOutcome` what comes of it: no connection, no answer, or an
answer with a status and a body that arrives in full or not.  The functions on outcomes tell which
`ManagerError` each failure is.
-/

namespace FabricUpgrade

open Text

/-- The methods in use. -/
inductive HttpMethod where
  | get
  | put
  | post
deriving DecidableEq, Repr

/-- The name of a method. -/
def HttpMethod.label : HttpMethod → String
  | get => "GET"
  | put => "PUT"
  | post => "POST"

/-- A request as it is sent. -/
structure HttpRequest where
  method : HttpMethod
  url : Url
  authorization : String
  body : Option Json := none

/-- What arrives of the body of an answer. -/
inductive HttpBody where
  | complete (bytes : Bytes)
  /-- The connection ends within the body. -/
  | brokenOff
  /-- The time limit passes within the body. -/
  | timedOut
deriving DecidableEq

/-- What comes of a request. -/
inductive HttpOutcome where
  /-- No connection can be made. -/
  | refused
  /-- The connection ends without an answer. -/
  | dropped
  /-- The time limit passes without an answer. -/
  | timedOut
  | answered (status : Nat) (body : HttpBody)
deriving DecidableEq

/-- The value of the header that proves who asks. -/
def basicAuthorization (username password : String) : String :=
  "Basic " ++ Base64.encode (Utf8.encode (username ++ ":" ++ password))

/-- The text of an error answer: a byte order mark is dropped, broken pieces are replaced, and a
body that does not arrive in full counts as empty. -/
def HttpBody.text : HttpBody → String
  | .complete (0xEF :: 0xBB :: 0xBF :: rest) => Utf8.decodeReplacing rest
  | .complete bytes => Utf8.decodeReplacing bytes
  | _ => ""

/-- The value of an answer that arrives in full as one JSON text. -/
def HttpBody.json? : HttpBody → Option Json
  | .complete bytes => (Utf8.decode bytes).toOption.bind Json.read?
  | _ => none

namespace ManagerError

/-- The message of a manager's error object, or the text itself where it holds no such object. -/
def textOfBody (body : String) : String :=
  let told := do
    let record ← Json.record? ["error_message"] (← Json.read? body)
    record.required "error_message" Json.string?
  told.getD body

/-- What an answer without success means. -/
def ofStatus (status : Nat) (body : String) : ManagerError :=
  match status with
  | 503 => .serviceUnavailable body
  | 504 => .timeout body
  | 404 => .notFound body
  | _ => .api status (textOfBody body)

/-- The sentence about a request that got no answer. -/
def sendingFailed (url : Url) : String :=
  s!"error sending request for url ({url.text})"

/-- The sentence about a body that is not what it should be. -/
def decodingFailed : String :=
  "error decoding response body"

end ManagerError

/-- Whether a status means success. -/
def isSuccess (status : Nat) : Bool :=
  200 ≤ status && status < 300

/-- The body of a successful answer, or what the failure means. -/
def HttpOutcome.body (url : Url) : HttpOutcome → Except ManagerError HttpBody
  | .refused => .error (.serviceUnavailable (ManagerError.sendingFailed url))
  | .dropped => .error (.transport (ManagerError.sendingFailed url))
  | .timedOut => .error (.timeout (ManagerError.sendingFailed url))
  | .answered status body =>
    if isSuccess status then .ok body else .error (.ofStatus status body.text)

/-- The decoded value of a successful answer, or what the failure means. -/
def HttpOutcome.value {α : Type} (decode : Json → Option α) (url : Url) (outcome : HttpOutcome) :
    Except ManagerError α :=
  match outcome.body url with
  | .error error => .error error
  | .ok body =>
    match body.json?.bind decode with
    | some value => .ok value
    | none => .error (.decode ManagerError.decodingFailed)

end FabricUpgrade
