import FabricUpgrade.Json.Record

/-!
# Members of described things

Whoever describes something in JSON may leave out what has a default, or write `null` for it.  The
functions here fetch members by that rule; members that are not asked for are passed over.
-/

namespace FabricUpgrade.Json

variable {α : Type}

/-- Reads a value as it stands. -/
def any? (value : Json) : Option Json :=
  some value

/-- Reads the name of a case. -/
def named? (ofName? : String → Option α) (value : Json) : Option α :=
  value.string?.bind ofName?

/-- A member that has to be there. -/
def required (name : String) (decode : Json → Option α) (value : Json) : Option α :=
  (value.get? name).bind decode

/-- A member that may be missing or `null`. -/
def optional (name : String) (decode : Json → Option α) (value : Json) : Option (Option α) :=
  match value.get? name with
  | none | some .null => some none
  | some value => (decode value).map some

/-- A member with a default. -/
def withDefault (name : String) (default : α) (decode : Json → Option α) (value : Json) :
    Option α :=
  (value.optional name decode).map fun given => given.getD default

/-- A member that has to be a string. -/
def text? (name : String) (value : Json) : Option String :=
  value.required name string?

/-- A string with a default. -/
def textOr (name default : String) (value : Json) : Option String :=
  value.withDefault name default string?

/-- A member that is a list, without items if it is missing. -/
def listOf (name : String) (decode : Json → Option α) (value : Json) : Option (List α) :=
  value.withDefault name [] (list? decode)

/-- A truth value with a default. -/
def boolOr (name : String) (default : Bool) (value : Json) : Option Bool :=
  value.withDefault name default bool?

end FabricUpgrade.Json
