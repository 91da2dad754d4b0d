import FabricUpgrade.Text.Blank

/-!
# Claims on managers

Two runs against one manager would fight over one plan, so a run claims its manager while it is
executed.  `Claims` are the keys that are taken; a claim that is made adds its key, and a claim that
is given up takes its key out.
-/

namespace FabricUpgrade

/-- The managers that are claimed, by their keys. -/
structure Claims where
  keys : List String
  nodup : keys.Nodup

namespace Claims

/-- No manager is claimed. -/
def empty : Claims :=
  ⟨[], .nil⟩

instance : Inhabited Claims :=
  ⟨empty⟩

/-- The key of a manager: its URL without slashes at the end, in lower case. -/
def key (url : String) : String :=
  Text.lowerAscii (Text.trimSlashes url)

/-- Whether a manager is claimed. -/
def isClaimed (claims : Claims) (url : String) : Bool :=
  key url ∈ claims.keys

/-- Claims a manager, unless it is claimed already. -/
def claim? (claims : Claims) (url : String) : Option Claims :=
  if taken : key url ∈ claims.keys then none
  else some ⟨key url :: claims.keys, List.nodup_cons.2 ⟨taken, claims.nodup⟩⟩

/-- Gives up the claim with a key. -/
def release (claims : Claims) (released : String) : Claims :=
  ⟨claims.keys.filter (· ≠ released), claims.nodup.sublist List.filter_sublist⟩

end Claims

end FabricUpgrade
