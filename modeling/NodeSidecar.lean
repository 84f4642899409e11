import NodeSidecar.Api.Router
import NodeSidecar.Host.Launch
import NodeSidecar.Json.Reader
import NodeSidecar.Main
import NodeSidecar.Proofs.Membership.Ingress
import NodeSidecar.Proofs.Scheduler.Accounting
import NodeSidecar.Proofs.Scheduler.Overlap
import NodeSidecar.Proofs.Membership.Revocation
import NodeSidecar.Proofs.Backup.Replacement
import NodeSidecar.Proofs.Membership.Turns
import NodeSidecar.Proofs.Membership.Concurrency
import NodeSidecar.Proofs.Scheduler.Projection
import NodeSidecar.Proofs.Scheduler.Isolation
import NodeSidecar.Proofs.Cloud.Leases
import NodeSidecar.Proofs.Membership.Calls
import NodeSidecar.Proofs.Membership.Clients
import NodeSidecar.Proofs.Membership.Releases
import NodeSidecar.Proofs.Cloud.Limits
import NodeSidecar.Proofs.Membership.Growth
import NodeSidecar.Proofs.Scheduler.Commands
import NodeSidecar.Proofs.Scheduler.Shutdown
import NodeSidecar.Proofs.Events.Announcing
import NodeSidecar.Proofs.Events.Order
import NodeSidecar.Proofs.Backup.Calls
import NodeSidecar.Proofs.Backup.Units
import NodeSidecar.Proofs.Config.Validity
import NodeSidecar.Proofs.Health.Watch
import NodeSidecar.Proofs.Decode.Records
import NodeSidecar.Proofs.Config.Documents
import NodeSidecar.Proofs.Node.Moves
import NodeSidecar.Proofs.Api.Requests
import NodeSidecar.Proofs.Api.Histories
import NodeSidecar.Proofs.Membership.Batches
import NodeSidecar.Proofs.Membership.Interruptions
import NodeSidecar.Proofs.Cron.Fields
import NodeSidecar.Proofs.Cron.Search
import NodeSidecar.Proofs.Zone.WallClock
import NodeSidecar.Proofs.Cron.Reading
import NodeSidecar.Proofs.Timer.EarliestMatch
import NodeSidecar.Proofs.Cron.Written
import NodeSidecar.Proofs.Cron.Plain
import NodeSidecar.Proofs.Timer.Regular
import NodeSidecar.Proofs.Timer.Progress
import NodeSidecar.Proofs.Timer.Daily
import NodeSidecar.Proofs.Timer.Intervals
import NodeSidecar.Proofs.Membership.Expansions
import NodeSidecar.Proofs.Timer.Tokens
import NodeSidecar.Proofs.Cloud.Inverses
import NodeSidecar.Proofs.Membership.RingView
import NodeSidecar.Proofs.Timer.Missed
import NodeSidecar.Proofs.Config.Timeouts
