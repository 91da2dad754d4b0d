import FabricUpgrade.Text.Grisu

/-!
# Metrics of the operator

`Metrics` counts the reconciles and the runs, keeps their durations in histograms and remembers
which components are upgraded.  `Metrics.text` is the exposition of all of it.
-/

namespace FabricUpgrade

/-- Something that is measured, with the durations in seconds. -/
inductive Measurement where
  | reconciled (space name : String) (seconds : Float)
  | reconcileFailed (space name : String)
  | runEnded (space name phase : String) (seconds : Float)
  | componentUpgraded (space name component : String) (done : Bool)

namespace Metrics

/-- The labels of a series, in order. -/
abbrev Labels := List (String × String)

/-- The labels of a declared run. -/
def runLabels (space name : String) : Labels :=
  [("namespace", space), ("name", name)]

/-- How often values fell into the buckets below their bounds, and what they add up to. -/
structure Histogram where
  bounds : List Float
  counts : List Nat
  count : Nat := 0
  sum : Float := 0.0

namespace Histogram

/-- An empty histogram whose bounds double from the first one. -/
def doubling (first : Float) (buckets : Nat) : Histogram :=
  { bounds := (List.range buckets).map fun step => first * Float.ofNat (Nat.pow 2 step)
    counts := List.replicate (buckets + 1) 0 }

/-- Counts a value into the first bucket whose bound it does not exceed, else into the last one. -/
def observe (histogram : Histogram) (value : Float) : Histogram :=
  let place := histogram.bounds.findIdx fun bound => value ≤ bound
  { histogram with
    counts := histogram.counts.modify place (· + 1)
    count := histogram.count + 1
    sum := histogram.sum + value }

/-- The counts of each bucket together with those below it. -/
def cumulative (histogram : Histogram) : List Nat :=
  (List.range histogram.counts.length).map fun last => (histogram.counts.take (last + 1)).foldl (· + ·) 0

end Histogram

end Metrics

open Metrics in
/-- Everything that is measured. -/
structure Metrics where
  reconciles : List (Labels × Nat) := []
  errors : List (Labels × Nat) := []
  reconcileSeconds : List (Labels × Histogram) := []
  runs : List (Labels × Nat) := []
  runSeconds : List (Labels × Histogram) := []
  upgraded : List (Labels × Nat) := []

namespace Metrics

/-- Changes the value of a series, which starts with the given one. -/
def update {α : Type} (series : List (Labels × α)) (labels : Labels) (first : α) (change : α → α) :
    List (Labels × α) :=
  if series.any fun entry => entry.1 = labels then
    series.map fun entry => if entry.1 = labels then (labels, change entry.2) else entry
  else series ++ [(labels, change first)]

/-- Takes a measurement in. -/
def record (metrics : Metrics) : Measurement → Metrics
  | .reconciled space name seconds =>
    let labels := runLabels space name
    { metrics with
      reconciles := update metrics.reconciles labels 0 (· + 1)
      reconcileSeconds := update metrics.reconcileSeconds labels (Histogram.doubling 0.001 15)
        (Histogram.observe · seconds) }
  | .reconcileFailed space name =>
    { metrics with errors := update metrics.errors (runLabels space name) 0 (· + 1) }
  | .runEnded space name phase seconds =>
    { metrics with
      runs := update metrics.runs [("phase", phase)] 0 (· + 1)
      runSeconds := update metrics.runSeconds (runLabels space name) (Histogram.doubling 30.0 12)
        (Histogram.observe · seconds) }
  | .componentUpgraded space name component done =>
    { metrics with
      upgraded := update metrics.upgraded (runLabels space name ++ [("component", component)]) 0
        fun _ => done.toNat }

/-- The text of labels, whose values are written as they are. -/
def labelsText (labels : Labels) : String :=
  "\x7b" ++ ",".intercalate (labels.map fun label => label.1 ++ "=\"" ++ label.2 ++ "\"") ++ "\x7d"

/-- One line of the exposition with a sample. -/
def sample (name : String) (labels : Labels) (value : String) : String :=
  name ++ labelsText labels ++ " " ++ value

/-- The two lines in front of the samples of a family. -/
def heading (name help kind : String) : List String :=
  [s!"# HELP {name} {help}.", s!"# TYPE {name} {kind}"]

/-- The lines of a family of counters. -/
def counterLines (name help : String) (series : List (Labels × Nat)) : List String :=
  heading name help "counter"
    ++ series.map fun entry => sample (name ++ "_total") entry.1 (toString entry.2)

/-- The lines of a family of gauges. -/
def gaugeLines (name help : String) (series : List (Labels × Nat)) : List String :=
  heading name help "gauge" ++ series.map fun entry => sample name entry.1 (toString entry.2)

/-- The lines of one histogram. -/
def histogramSamples (name : String) (labels : Labels) (histogram : Histogram) : List String :=
  let bounds := histogram.bounds.map Text.Grisu.text ++ ["+Inf"]
  [sample (name ++ "_sum") labels (Text.Grisu.text histogram.sum),
    sample (name ++ "_count") labels (toString histogram.count)]
    ++ (bounds.zip histogram.cumulative).map fun bucket =>
      sample (name ++ "_bucket") (("le", bucket.1) :: labels) (toString bucket.2)

/-- The lines of a family of histograms. -/
def histogramLines (name help : String) (series : List (Labels × Histogram)) : List String :=
  heading name help "histogram"
    ++ series.flatMap fun entry => histogramSamples name entry.1 entry.2

/-- The lines of the counters and gauges. -/
def plainLines (metrics : Metrics) : List String :=
  counterLines "nsx_upgrade_reconciliations" "Total number of reconciliations" metrics.reconciles
    ++ counterLines "nsx_upgrade_reconciliation_errors" "Total number of reconciliation errors"
      metrics.errors
    ++ counterLines "nsx_upgrade_runs" "Total number of finished upgrade runs by phase" metrics.runs
    ++ gaugeLines "nsx_upgrade_component_upgraded" "Whether the component reports SUCCESS"
      metrics.upgraded

/-- The lines of the histograms. -/
def durationLines (metrics : Metrics) : List String :=
  histogramLines "nsx_upgrade_reconcile_duration_seconds" "Duration of reconciliation in seconds"
      metrics.reconcileSeconds
    ++ histogramLines "nsx_upgrade_run_duration_seconds" "Duration of upgrade runs in seconds"
      metrics.runSeconds

/-- The exposition of everything that is measured. -/
def text (metrics : Metrics) : String :=
  String.join ((metrics.plainLines ++ metrics.durationLines ++ ["# EOF"]).map (· ++ "\n"))

end Metrics

end FabricUpgrade
