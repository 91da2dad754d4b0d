import FabricUpgrade.Json.Record

/-!
# Components of a fabric

A fabric is upgraded in three parts, one after the other: the edge nodes, the hosts and the
management plane.
-/

namespace FabricUpgrade

/-- A part of the fabric that is upgraded as one. -/
inductive Component where
  | edge
  | host
  | management
deriving DecidableEq, Repr, Inhabited

namespace Component

/-- All components in the order of their upgrades. -/
def ordered : List Component :=
  [edge, host, management]

/-- The place of a component in the order of the upgrades. -/
def rank : Component → Nat
  | edge => 0
  | host => 1
  | management => 2

instance : LE Component where
  le first second := first.rank ≤ second.rank

instance (first second : Component) : Decidable (first ≤ second) :=
  inferInstanceAs (Decidable (first.rank ≤ second.rank))

/-- Components sorted by the order of their upgrades. -/
def sort (components : List Component) : List Component :=
  components.mergeSort fun first second => first ≤ second

/-- The name of a component in requests and answers. -/
def wire : Component → String
  | edge => "EDGE"
  | host => "HOST"
  | management => "MP"

/-- The component of a name. -/
def ofWire? (name : String) : Option Component :=
  ordered.find? fun component => component.wire = name

/-- The complaint about a name that belongs to no component. -/
def unknownMessage (name : String) : String :=
  s!"Unknown component type: {name}"

/-- Whether groups and plan settings of the component may be declared. -/
def customizable : Component → Bool
  | management => false
  | _ => true

/-- Whether the component can be checked after its upgrade. -/
def checkable : Component → Bool
  | management => false
  | _ => true

/-- Reads a component. -/
def ofJson? : Json → Option Component :=
  Json.case? ofWire?

/-- Writes a component. -/
def toJson (component : Component) : Json :=
  component.wire

theorem ofWire?_wire (component : Component) : ofWire? component.wire = some component := by
  cases component <;> decide

end Component

end FabricUpgrade
