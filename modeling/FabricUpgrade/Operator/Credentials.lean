import FabricUpgrade.Operator.Error
import FabricUpgrade.Resource.Object
import FabricUpgrade.Text.Base64

/-!
# Credentials

The credentials of a manager are kept in a secret: bytes under keys, which have to be texts.
-/

namespace FabricUpgrade

open Text

/-- A secret as it is stored. -/
structure Secret where
  metadata : Metadata := {}
  data : List (String × Bytes) := []

namespace Secret

/-- Reads the bytes of a key; `null` stands for none. -/
def bytesOfJson? : Json → Option Bytes
  | .null => some []
  | value => (Json.string? value).bind Base64.decode?

/-- Reads a secret.  The kind and the version have to be those of a secret where they are given. -/
def ofJson? (value : Json) : Option Secret := do
  let record ← Json.objectRecord? [] value
  let kind ← record.withDefault "kind" "Secret" Json.string?
  let version ← record.withDefault "apiVersion" "v1" Json.string?
  Metadata.checked Json.bool? "immutable" record
  Metadata.checked (Json.entries? Json.string?) "stringData" record
  Metadata.checked Json.string? "type" record
  if kind = "Secret" ∧ version = "v1" then
    return {
      metadata := (← record.optional "metadata" Metadata.ofJson?).getD {}
      data := (← record.optional "data" (Json.entries? bytesOfJson?)).getD [] }
  else none

/-- The text under a key. -/
def text (secret : Secret) (key : String) : Except ReconcileError String :=
  let name := secret.metadata.anyName
  match secret.data.lookup key with
  | none => .error (.validation s!"secret '{name}' has no key '{key}'")
  | some bytes =>
    match Utf8.decode bytes with
    | .ok text => .ok text
    | .error fault =>
      .error (.validation s!"secret '{name}' key '{key}' is not valid UTF-8: {fault.message}")

end Secret

end FabricUpgrade
