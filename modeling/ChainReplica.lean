import ChainReplica.Batch
import ChainReplica.BlockMap
import ChainReplica.Cache.Feed
import ChainReplica.Cache.Record
import ChainReplica.Cache.Store
import ChainReplica.Chain.Basic
import ChainReplica.Codec
import ChainReplica.Codec.Header
import ChainReplica.Codec.Role
import ChainReplica.Command.Arguments
import ChainReplica.Command.LogFile
import ChainReplica.Command.Run
import ChainReplica.Failure
import ChainReplica.Fleet.Basic
import ChainReplica.Fleet.Command
import ChainReplica.History
import ChainReplica.Json.Binary
import ChainReplica.Json.Document
import ChainReplica.Json.Literal
import ChainReplica.Json.Printer
import ChainReplica.Json.Reader
import ChainReplica.Json.Value
import ChainReplica.Main
import ChainReplica.Node
import ChainReplica.Node.Location
import ChainReplica.Node.Script
import ChainReplica.Proofs.Actions
import ChainReplica.Proofs.Ascending
import ChainReplica.Proofs.Asking
import ChainReplica.Proofs.ChainFold
import ChainReplica.Proofs.Checkpoints
import ChainReplica.Proofs.Delivery
import ChainReplica.Proofs.Replay
import ChainReplica.Proofs.Runs
import ChainReplica.Registry
import ChainReplica.Replica
import ChainReplica.Scheduler
import ChainReplica.Settings
import ChainReplica.Simulation
import ChainReplica.Subscriber.Basic
import ChainReplica.Subscriber.Lifecycle
import ChainReplica.Subscriber.Update
import ChainReplica.Subscription
import ChainReplica.Tally
import ChainReplica.Text.Blank
import ChainReplica.Text.CharTable
import ChainReplica.Text.Composition
import ChainReplica.Text.Composition.Parts
import ChainReplica.Text.Composition.Rank
import ChainReplica.Text.Direction
import ChainReplica.Text.Hex
import ChainReplica.Text.Host
import ChainReplica.Text.Host.Mapping
import ChainReplica.Text.Host.Name
import ChainReplica.Text.Host.Numeric
import ChainReplica.Text.Host.Refused
import ChainReplica.Text.Joining
import ChainReplica.Text.Keccak
import ChainReplica.Text.Locator
import ChainReplica.Text.Marks
import ChainReplica.Text.Numeral
import ChainReplica.Text.Punycode
import ChainReplica.Text.Span
import ChainReplica.Tracker
import ChainReplica.Venue
import ChainReplica.Venue.Counter
import ChainReplica.Venue.Journal
import ChainReplica.Venue.Reserves
import ChainReplica.Watch
import ChainReplica.Proofs.Reorganization
import ChainReplica.Proofs.Writes
import ChainReplica.Proofs.Trust
import ChainReplica.Proofs.Coverage
import ChainReplica.Proofs.Preservation
import ChainReplica.Proofs.Window
import ChainReplica.Proofs.Publication
import ChainReplica.Proofs.Redelivery
import ChainReplica.Proofs.Splitting
import ChainReplica.Proofs.Requests
import ChainReplica.Proofs.Retries
import ChainReplica.Proofs.Commits
import ChainReplica.Proofs.Healing
import ChainReplica.Proofs.TrackedChain
import ChainReplica.Proofs.Happenings
import ChainReplica.Proofs.ReadBack
import ChainReplica.Proofs.SharedRecord
import ChainReplica.Proofs.Parallel
import ChainReplica.Proofs.Beginning
import ChainReplica.Proofs.Handover
import ChainReplica.Proofs.Rewinding
import ChainReplica.Proofs.MadeUpChain
import ChainReplica.Proofs.Convergence
import ChainReplica.Proofs.CommonPrefix
import ChainReplica.Proofs.SyncLogs
import ChainReplica.Proofs.FromScratch
import ChainReplica.Proofs.HonestNode
import ChainReplica.Proofs.StableChain
import ChainReplica.Proofs.Moments
import ChainReplica.Proofs.Settling
import ChainReplica.Proofs.Isolation
import ChainReplica.Proofs.Independence
import ChainReplica.Proofs.Roles
import ChainReplica.Proofs.Clients
import ChainReplica.Proofs.Hosting
import ChainReplica.Proofs.Coalescing
import ChainReplica.Proofs.Dormancy
import ChainReplica.Proofs.CacheTraffic
import ChainReplica.Proofs.Attendance
import ChainReplica.Proofs.ChangedBlocks
import ChainReplica.Proofs.SnapshotKinds
import ChainReplica.Proofs.PendingLogs
import ChainReplica.Proofs.ServedSnapshot
import ChainReplica.Proofs.BrokenOff
import ChainReplica.Proofs.Generation
import ChainReplica.Proofs.StrictBatches
import ChainReplica.Proofs.Retreat
import ChainReplica.Proofs.BackwardScan
import ChainReplica.Proofs.FirstSnapshot
import ChainReplica.Proofs.JobFates
import ChainReplica.Proofs.SchedulerRuns
import ChainReplica.Proofs.Faults
import ChainReplica.Proofs.Summaries
import ChainReplica.Proofs.Announcements
import ChainReplica.Proofs.Slices
import ChainReplica.Proofs.SortedMap
import ChainReplica.Proofs.FoldInParts
import ChainReplica.Proofs.SyncData
import ChainReplica.Proofs.LatestBlock
