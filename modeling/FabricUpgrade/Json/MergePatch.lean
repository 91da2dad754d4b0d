import FabricUpgrade.Json.Basic

/-!
# Merge patches

A merge patch that is an object changes the members that it names: `null` takes a member
out, an object is merged into the member, and any other value, a list included, takes its place.  A
patch that is no object takes the place of the whole.
-/

namespace FabricUpgrade.Json

mutual
/-- Applies a merge patch to a value. -/
def mergePatch : Json → Json → Json
  | .object members, target => .object (mergeMembers members target.membersOf)
  | value, _ => value

/-- Applies the members of a merge patch to the members of an object, one after the other. -/
def mergeMembers : Members → Members → Members
  | [], target => target
  | (name, .null) :: rest, target => mergeMembers rest (target.erase name)
  | (name, value) :: rest, target =>
    mergeMembers rest (target.put name (mergePatch value ((target.lookup name).getD .null)))
end

end FabricUpgrade.Json
