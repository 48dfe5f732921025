import OverlayFabric.Address
import OverlayFabric.Cloud.Codec
import OverlayFabric.Cloud.Error
import OverlayFabric.Cloud.Network
import OverlayFabric.Cloud.Port
import OverlayFabric.Cloud.Query
import OverlayFabric.CommandLine
import OverlayFabric.Configuration.Basic
import OverlayFabric.Configuration.Check
import OverlayFabric.Configuration.Load
import OverlayFabric.Configuration.Record
import OverlayFabric.Domain.Label
import OverlayFabric.Domain.Mapping
import OverlayFabric.Domain.MappingText
import OverlayFabric.Domain.Name
import OverlayFabric.Domain.Punycode
import OverlayFabric.Fabric.Client
import OverlayFabric.Fabric.Error
import OverlayFabric.Fabric.Reader
import OverlayFabric.Fabric.Request
import OverlayFabric.Fabric.Retry
import OverlayFabric.Fabric.Script
import OverlayFabric.Gateway
import OverlayFabric.Input
import OverlayFabric.Json.Basic
import OverlayFabric.Json.Printer
import OverlayFabric.Json.Reader
import OverlayFabric.Json.Record
import OverlayFabric.Keyed
import OverlayFabric.Malformed
import OverlayFabric.Number.Double
import OverlayFabric.Number.Radix
import OverlayFabric.Pool.Basic
import OverlayFabric.Pool.Claim
import OverlayFabric.Pool.Sync
import OverlayFabric.Range.Basic
import OverlayFabric.Range.Reader
import OverlayFabric.Rehearsal
import OverlayFabric.Rehearsal.Arrange
import OverlayFabric.Segment
import OverlayFabric.Store.Allocator
import OverlayFabric.Store.Basic
import OverlayFabric.Store.Binding
import OverlayFabric.Store.Error
import OverlayFabric.Store.Lock
import OverlayFabric.Store.Report
import OverlayFabric.Store.Snapshot
import OverlayFabric.SyncError
import OverlayFabric.Synchronizer.Event
import OverlayFabric.Synchronizer.Gateway
import OverlayFabric.Synchronizer.Interface
import OverlayFabric.Synchronizer.Port
import OverlayFabric.Synchronizer.Segment
import OverlayFabric.Synchronizer.Startup
import OverlayFabric.Synchronizer.Task
import OverlayFabric.Text.Base64
import OverlayFabric.Text.Blank
import OverlayFabric.Text.CharTable
import OverlayFabric.Text.Composite
import OverlayFabric.Text.Direction
import OverlayFabric.Text.Invisible
import OverlayFabric.Text.Joining
import OverlayFabric.Text.Mark
import OverlayFabric.Text.Normal
import OverlayFabric.Text.Quoted
import OverlayFabric.Toml.Line
import OverlayFabric.Toml.Quoted
import OverlayFabric.Toml.Reader
import OverlayFabric.Toml.Record
import OverlayFabric.Toml.Scalar
import OverlayFabric.Toml.Table
import OverlayFabric.Topology
import OverlayFabric.Url.Basic
import OverlayFabric.Url.Encode
import OverlayFabric.Url.Host
import OverlayFabric.Url.Path
import OverlayFabric.Url.Reader
import OverlayFabric.Vlan
import OverlayFabric.Main
import OverlayFabric.Proofs.Binding.Table
import OverlayFabric.Proofs.Binding.Count
import OverlayFabric.Proofs.Binding.Refinement
import OverlayFabric.Proofs.Fabric.Attempts
import OverlayFabric.Proofs.Pool.Conservation
import OverlayFabric.Proofs.Pool.Exhaustion
import OverlayFabric.Proofs.Pool.Isolation
import OverlayFabric.Proofs.Pool.Ownership
import OverlayFabric.Proofs.Range.Reader
import OverlayFabric.Proofs.Range.Printer
import OverlayFabric.Proofs.Address.Spelling
import OverlayFabric.Proofs.Address.Printer
import OverlayFabric.Proofs.Gateway
import OverlayFabric.Proofs.Configuration.Check
import OverlayFabric.Proofs.Store.Align
import OverlayFabric.Proofs.Synchronizer.Attach
import OverlayFabric.Proofs.Synchronizer.Balance
import OverlayFabric.Proofs.Synchronizer.Once
import OverlayFabric.Proofs.Synchronizer.Carry
import OverlayFabric.Proofs.Synchronizer.Withdraw
import OverlayFabric.Proofs.Synchronizer.Bind
import OverlayFabric.Proofs.Synchronizer.Rollback
import OverlayFabric.Proofs.Synchronizer.Occupancy
import OverlayFabric.Proofs.Synchronizer.Retract
import OverlayFabric.Proofs.Synchronizer.Restore
import OverlayFabric.Proofs.Synchronizer.Follow
import OverlayFabric.Proofs.Synchronizer.Attainable
import OverlayFabric.Proofs.Store.Stranded
import OverlayFabric.Proofs.Store.Unreserved
import OverlayFabric.Proofs.Synchronizer.Reap
import OverlayFabric.Proofs.Synchronizer.Teardown
import OverlayFabric.Proofs.Synchronizer.Sane
import OverlayFabric.Proofs.Synchronizer.Replay
import OverlayFabric.Proofs.Pool.Release
import OverlayFabric.Proofs.Synchronizer.Relinquish
import OverlayFabric.Proofs.Synchronizer.Turn
import OverlayFabric.Proofs.Synchronizer.Undisturbed
import OverlayFabric.Proofs.Synchronizer.Provision
import OverlayFabric.Proofs.Synchronizer.Segment
import OverlayFabric.Proofs.Range.Canonical
import OverlayFabric.Proofs.Cloud.Codec
import OverlayFabric.Proofs.Fabric.Endpoint
