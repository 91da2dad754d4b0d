/-!
# Durations as texts

A duration of whole seconds is written in its largest unit of time, the empty one in its smallest.
-/

namespace FabricUpgrade.Text

/-- The text of a duration in seconds. -/
def secondsText (seconds : Nat) : String :=
  if seconds = 0 then "0ns" else s!"{seconds}s"

end FabricUpgrade.Text
