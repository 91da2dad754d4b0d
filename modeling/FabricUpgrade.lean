import FabricUpgrade.Bag
import FabricUpgrade.Component
import FabricUpgrade.HostConfig
import FabricUpgrade.Json.Basic
import FabricUpgrade.Json.Member
import FabricUpgrade.Json.MergePatch
import FabricUpgrade.Json.Numeral
import FabricUpgrade.Json.Reader
import FabricUpgrade.Json.Record
import FabricUpgrade.Json.Writer
import FabricUpgrade.Manager.Call
import FabricUpgrade.Manager.Client
import FabricUpgrade.Manager.Config
import FabricUpgrade.Manager.Error
import FabricUpgrade.Manager.Http
import FabricUpgrade.Operator.ClaimBook
import FabricUpgrade.Operator.Claims
import FabricUpgrade.Operator.Credentials
import FabricUpgrade.Operator.Error
import FabricUpgrade.Operator.Health
import FabricUpgrade.Operator.Metrics
import FabricUpgrade.Operator.Reconcile
import FabricUpgrade.Operator.Retries
import FabricUpgrade.Operator.Store
import FabricUpgrade.Outputs
import FabricUpgrade.PlanSettings
import FabricUpgrade.Program
import FabricUpgrade.Resource.Condition
import FabricUpgrade.Resource.Object
import FabricUpgrade.Resource.Phase
import FabricUpgrade.Resource.Spec
import FabricUpgrade.Resource.Validation
import FabricUpgrade.Run
import FabricUpgrade.Simulation.Cluster
import FabricUpgrade.Simulation.Fabric
import FabricUpgrade.Simulation.Fault
import FabricUpgrade.Simulation.Scenario
import FabricUpgrade.Simulation.Stage
import FabricUpgrade.SortedMap
import FabricUpgrade.Status
import FabricUpgrade.Text.Base64
import FabricUpgrade.Text.Blank
import FabricUpgrade.Text.Domain
import FabricUpgrade.Text.Domain.Mapping
import FabricUpgrade.Text.Grisu
import FabricUpgrade.Text.Percent
import FabricUpgrade.Text.Punycode
import FabricUpgrade.Text.Quoted
import FabricUpgrade.Text.Seconds
import FabricUpgrade.Text.Shortest
import FabricUpgrade.Text.Split
import FabricUpgrade.Text.Target
import FabricUpgrade.Text.Timestamp
import FabricUpgrade.Text.Url
import FabricUpgrade.Text.Url.Address
import FabricUpgrade.Text.Url.Host
import FabricUpgrade.Text.Url.Path
import FabricUpgrade.Text.Utf8
import FabricUpgrade.Unicode.Combining
import FabricUpgrade.Unicode.CombiningClass
import FabricUpgrade.Unicode.Decomposition
import FabricUpgrade.Unicode.Direction
import FabricUpgrade.Unicode.Hidden
import FabricUpgrade.Unicode.Joining
import FabricUpgrade.Unicode.Mark
import FabricUpgrade.Unicode.Normal
import FabricUpgrade.Unicode.Ranges
import FabricUpgrade.Unicode.Table
import FabricUpgrade.UnitGroup
import FabricUpgrade.Upgrade.Collection
import FabricUpgrade.Upgrade.Execution
import FabricUpgrade.Upgrade.Failure
import FabricUpgrade.Upgrade.Plan
import FabricUpgrade.Upgrade.Session
import FabricUpgrade.Upgrade.Wait
import FabricUpgrade.Proofs.Conversation
import FabricUpgrade.Proofs.Probe
import FabricUpgrade.Proofs.Waiting
import FabricUpgrade.Proofs.Discipline
import FabricUpgrade.Proofs.Turn
import FabricUpgrade.Proofs.Execution
import FabricUpgrade.Proofs.Argument
import FabricUpgrade.Proofs.Course
import FabricUpgrade.Proofs.Sequence
import FabricUpgrade.Proofs.Order
import FabricUpgrade.Proofs.FailStop
import FabricUpgrade.Proofs.Restart
import FabricUpgrade.Proofs.Stopping
import FabricUpgrade.Proofs.Interruption
import FabricUpgrade.Proofs.Plant
import FabricUpgrade.Proofs.Holding
import FabricUpgrade.Proofs.Trace
import FabricUpgrade.Proofs.Watching
import FabricUpgrade.Proofs.Arrangement
import FabricUpgrade.Proofs.Driving
import FabricUpgrade.Proofs.Lifelike
import FabricUpgrade.Proofs.Resuming
import FabricUpgrade.Proofs.Resumption
import FabricUpgrade.Proofs.Reentry
import FabricUpgrade.Proofs.Ledger
import FabricUpgrade.Proofs.Stages
import FabricUpgrade.Proofs.Lawful
import FabricUpgrade.Proofs.Reconciling
import FabricUpgrade.Proofs.Outcome
import FabricUpgrade.Proofs.Progress
import FabricUpgrade.Proofs.Exclusion
import FabricUpgrade.Proofs.PlainRun
import FabricUpgrade.Proofs.Collision
import FabricUpgrade.Proofs.Merging
import FabricUpgrade.Proofs.SortedMaps
import FabricUpgrade.Proofs.Codec
import FabricUpgrade.Proofs.Overlay
import FabricUpgrade.Proofs.Recording
import FabricUpgrade.Proofs.Moments
import FabricUpgrade.Proofs.Collecting
import FabricUpgrade.Proofs.Identity
import FabricUpgrade.Proofs.Generations
import FabricUpgrade.Proofs.Endings
import FabricUpgrade.Proofs.Aftermath
import FabricUpgrade.Proofs.Phases
import FabricUpgrade.Proofs.Backoff
import FabricUpgrade.Proofs.Rejection
import FabricUpgrade.Proofs.Pacing
import FabricUpgrade.Proofs.Duration
import FabricUpgrade.Proofs.Finalizers
import FabricUpgrade.Proofs.Settling
import FabricUpgrade.Proofs.Carrying
import FabricUpgrade.Proofs.Amending
import FabricUpgrade.Proofs.Encoding
import FabricUpgrade.Proofs.Nesting
import FabricUpgrade.Proofs.Legible
import FabricUpgrade.Proofs.Formats
import FabricUpgrade.Proofs.Staging
import FabricUpgrade.Proofs.Timetable
import FabricUpgrade.Proofs.Mirroring
import FabricUpgrade.Proofs.Overrun
import FabricUpgrade.Proofs.Outage
import FabricUpgrade.Proofs.Configuring
import FabricUpgrade.Proofs.Reordering
import FabricUpgrade.Proofs.HostOptions
import FabricUpgrade.Proofs.Acceptance
import FabricUpgrade.Proofs.QueryPairs
import FabricUpgrade.Proofs.Listing
import FabricUpgrade.Proofs.Looping
import FabricUpgrade.Proofs.Trimming
import FabricUpgrade.Proofs.Holders
import FabricUpgrade.Proofs.Snapshot
import FabricUpgrade.Proofs.Segments
import FabricUpgrade.Proofs.Roots
import FabricUpgrade.Proofs.Addressing
