import FabricHost.AttemptStore.Persistence
import FabricHost.Initiator
import FabricHost.Loopback.Network
import FabricHost.Main
import FabricHost.Startup
import FabricHost.Version
import FabricHost.Proofs.Queue.History
import FabricHost.Proofs.Queue.Agreement
import FabricHost.Proofs.Queue.Operations
import FabricHost.Proofs.Queue.Delivery
import FabricHost.Proofs.Queue.Steps
import FabricHost.Proofs.Queue.Outstanding
import FabricHost.Proofs.Queue.Forthcoming
import FabricHost.Proofs.Queue.Batches
import FabricHost.Proofs.Loopback.Pending
import FabricHost.Proofs.Loopback.Delivery
import FabricHost.Proofs.Loopback.Numbering
import FabricHost.Proofs.Loopback.Idle
import FabricHost.Proofs.Loopback.Allocation
import FabricHost.Proofs.Session.Steps
import FabricHost.Proofs.Session.Asking
import FabricHost.Proofs.Session.Lifecycle
import FabricHost.Proofs.Session.Errors
import FabricHost.Proofs.Session.Traffic
import FabricHost.Proofs.Session.Views
import FabricHost.Proofs.Session.Admission
import FabricHost.Proofs.Session.Keys
import FabricHost.Proofs.Host.Calls
import FabricHost.Proofs.Host.Registry
import FabricHost.Proofs.Host.Steps
import FabricHost.Proofs.Host.Traffic
import FabricHost.Proofs.Host.Connecting
import FabricHost.Proofs.Host.Membership
import FabricHost.Proofs.Host.Invariants
import FabricHost.Proofs.Host.Isolation
import FabricHost.Proofs.Host.Views
import FabricHost.Proofs.Host.Handshakes
import FabricHost.Proofs.Host.Waiting
import FabricHost.Proofs.Ownership.Tracing
import FabricHost.Proofs.Ownership.Ledger
import FabricHost.Proofs.Ownership.Sessions
import FabricHost.Proofs.Ownership.Runs
import FabricHost.Proofs.Watching.Watched
import FabricHost.Proofs.Watching.Sending
import FabricHost.Proofs.Watching.Admission
import FabricHost.Proofs.Watching.Creation
import FabricHost.Proofs.Requests.Places
import FabricHost.Proofs.Requests.Handles
import FabricHost.Proofs.Requests.Lifecycle
import FabricHost.Proofs.Requests.Failures
import FabricHost.Proofs.Requests.Leftovers
import FabricHost.Proofs.Requests.Acceptance
import FabricHost.Proofs.Queue.Polling
import FabricHost.Proofs.Queue.Confinement
import FabricHost.Proofs.Lifecycle.Events
import FabricHost.Proofs.Lifecycle.Interruption
import FabricHost.Proofs.Lifecycle.Runs
import FabricHost.Proofs.Blocks.Contents
import FabricHost.Proofs.Blocks.Attached
import FabricHost.Proofs.Blocks.Connecting
import FabricHost.Proofs.Blocks.Serving
import FabricHost.Proofs.Blocks.Access
import FabricHost.Proofs.Blocks.Runs
import FabricHost.Proofs.Record.Field
import FabricHost.Proofs.Record.Reading
import FabricHost.Proofs.Record.Layout
import FabricHost.Proofs.Record.Scanning
import FabricHost.Proofs.Record.Grammar
import FabricHost.Proofs.Record.Canonical
import FabricHost.Proofs.Variables.Files
import FabricHost.Proofs.Attempts.Rules
import FabricHost.Proofs.Attempts.Saving
import FabricHost.Proofs.Attempts.Interruption
import FabricHost.Proofs.Attempts.Calls
import FabricHost.Proofs.Net.IpAddress
import FabricHost.Proofs.Uuid.Text
import FabricHost.Proofs.Connect.Plan
import FabricHost.Proofs.Connect.Wellformed
import FabricHost.Proofs.Nvme.Pages
import FabricHost.Proofs.Loopback.Identity
import FabricHost.Proofs.Loopback.Reuse
import FabricHost.Proofs.Loopback.Apart
import FabricHost.Proofs.Loopback.Reordering
import FabricHost.Proofs.Loopback.Order
import FabricHost.Proofs.KeepAlive.Connecting
import FabricHost.Proofs.KeepAlive.Passes
import FabricHost.Proofs.KeepAlive.Spacing
import FabricHost.Proofs.KeepAlive.Outcomes
import FabricHost.Proofs.KeepAlive.Repetition
import FabricHost.Proofs.Initiator.Startup
