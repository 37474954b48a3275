import ClusterDiscovery.Hub.Reply
import ClusterDiscovery.Hub.Request
import ClusterDiscovery.Inventory.Canonical
import ClusterDiscovery.Main
import ClusterDiscovery.Overlay.Schedule
import ClusterDiscovery.Pass.Basic
import ClusterDiscovery.Plan
import ClusterDiscovery.Proofs.Cluster.Listing
import ClusterDiscovery.Proofs.Keyed
import ClusterDiscovery.Proofs.Program.Discipline
import ClusterDiscovery.Refresh
import ClusterDiscovery.Retry.Attempts
import ClusterDiscovery.Text.FormEncoded
import ClusterDiscovery.World.Basic
import ClusterDiscovery.Proofs.Plan.Partition
import ClusterDiscovery.Proofs.Plan.Revision
import ClusterDiscovery.Proofs.Plan.Settlement
import ClusterDiscovery.Proofs.Plan.Resumption
import ClusterDiscovery.Proofs.Pass.Application
import ClusterDiscovery.Proofs.World.Keeper
import ClusterDiscovery.Proofs.Pass.Discovery
import ClusterDiscovery.Proofs.Pass.Convergence
import ClusterDiscovery.Proofs.Pass.Resumption
import ClusterDiscovery.Proofs.Cluster.ManagedPair
import ClusterDiscovery.Proofs.Registry.Basic
import ClusterDiscovery.Proofs.Registry.Loops
import ClusterDiscovery.Proofs.Registry.Interleaving
import ClusterDiscovery.Proofs.Pass.Verdict
import ClusterDiscovery.Proofs.Pass.Cleanup
import ClusterDiscovery.Proofs.Pass.Isolation
import ClusterDiscovery.Proofs.Json.Record
import ClusterDiscovery.Proofs.Inventory.Page
import ClusterDiscovery.Proofs.Inventory.Paging
import ClusterDiscovery.Proofs.Inventory.Cutoff
import ClusterDiscovery.Proofs.Pass.Timeliness
import ClusterDiscovery.Proofs.Pass.Abort
import ClusterDiscovery.Proofs.Pass.Malformed
import ClusterDiscovery.Proofs.Time.Calendar
import ClusterDiscovery.Proofs.Time.Timestamp
import ClusterDiscovery.Proofs.Inventory.Canonical
import ClusterDiscovery.Proofs.Inventory.Search
import ClusterDiscovery.Proofs.Registry.Stewardship
import ClusterDiscovery.Proofs.Overlay.Repair
import ClusterDiscovery.Proofs.Overlay.Rounds
import ClusterDiscovery.Proofs.Overlay.Fixpoint
import ClusterDiscovery.Proofs.Json.Table
import ClusterDiscovery.Proofs.Json.Merge
import ClusterDiscovery.Proofs.Cluster.Document
import ClusterDiscovery.Proofs.Overlay.Tally
import ClusterDiscovery.Proofs.Overlay.Patch
import ClusterDiscovery.Proofs.Overlay.RetryTimer
import ClusterDiscovery.Proofs.Refresh.Delivery
import ClusterDiscovery.Proofs.Credential.Reply
import ClusterDiscovery.Proofs.Text.Utf8
import ClusterDiscovery.Proofs.Plan.Account
import ClusterDiscovery.Proofs.Json.Numeral
import ClusterDiscovery.Proofs.Json.Spelling
import ClusterDiscovery.Proofs.Cluster.Codec
import ClusterDiscovery.Proofs.Program.Lockstep
import ClusterDiscovery.Proofs.Credential.Secrecy
import ClusterDiscovery.Proofs.World.Secrecy
import ClusterDiscovery.Proofs.Pass.Secrecy
import ClusterDiscovery.Proofs.Inventory.Version
import ClusterDiscovery.Proofs.Time.Order
import ClusterDiscovery.Proofs.Inventory.Boundary
import ClusterDiscovery.Proofs.Inventory.Loosening
import ClusterDiscovery.Proofs.Inventory.Console
import ClusterDiscovery.Proofs.Credential.Upgrade
import ClusterDiscovery.Proofs.Program.Indifference
import ClusterDiscovery.Proofs.Pass.Dealings
import ClusterDiscovery.Proofs.Pass.Persistence
import ClusterDiscovery.Proofs.Json.Rewriting
import ClusterDiscovery.Proofs.Inventory.Rewriting
import ClusterDiscovery.Proofs.Overlay.Wakes
import ClusterDiscovery.Proofs.Filter.Grammar
import ClusterDiscovery.Proofs.Text.WellFormed
import ClusterDiscovery.Proofs.Credential.Resolution
import ClusterDiscovery.Proofs.Binary64.Bound
import ClusterDiscovery.Proofs.Retry.Delay
import ClusterDiscovery.Proofs.Retry.Attempts
import ClusterDiscovery.Proofs.Metrics.Readings
import ClusterDiscovery.Proofs.Metrics.Pass
import ClusterDiscovery.Proofs.Metrics.History
import ClusterDiscovery.Proofs.Cluster.Sameness
import ClusterDiscovery.Proofs.Failure.Reaction
import ClusterDiscovery.Proofs.Plan.Sameness
import ClusterDiscovery.Proofs.Settings.BaseUrl
import ClusterDiscovery.Proofs.Text.Trim
