import FabricUpgrade.Operator.Claims

/-!
# Claims and their holders

A claim lives as long as somebody holds it.  `ClaimBook` keeps the claims together with who holds
them: a holder has one claim at most, and one that makes a new claim gives up the older one.
-/

namespace FabricUpgrade

/-- The claims, and the key of each live one under the name of its holder. -/
structure ClaimBook where
  claims : Claims := .empty
  live : List (String × String) := []

namespace ClaimBook

/-- Gives up the claim of a holder; tells whether there was one. -/
def drop (book : ClaimBook) (holder : String) : Bool × ClaimBook :=
  match book.live.lookup holder with
  | none => (false, book)
  | some key =>
    (true, ⟨book.claims.release key, book.live.filter fun entry => entry.1 ≠ holder⟩)

/-- Claims a manager for a holder, who gives up an older claim after that; tells whether the claim
was made. -/
def claim (book : ClaimBook) (holder url : String) : Bool × ClaimBook :=
  match book.claims.claim? url with
  | none => (false, book)
  | some claims =>
    let (_, book) := { book with claims }.drop holder
    (true, { book with live := (holder, Claims.key url) :: book.live })

end ClaimBook

end FabricUpgrade
