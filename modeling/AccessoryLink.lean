import AccessoryLink.Bench.Service
import AccessoryLink.Bench.Trial
import AccessoryLink.Channel.Desk
import AccessoryLink.Config.Search
import AccessoryLink.Proofs.Control.Handles
import AccessoryLink.Proofs.Machine.Exclusion
import AccessoryLink.Proofs.Machine.Waiting
import AccessoryLink.Proofs.Manager.Answers
import AccessoryLink.Proofs.Station.Admission
import AccessoryLink.Proofs.Station.Attempts
import AccessoryLink.Proofs.Station.Channel
import AccessoryLink.Proofs.Station.Received
import AccessoryLink.Proofs.Manager.Shutdown
import AccessoryLink.Proofs.Manager.Clock
import AccessoryLink.Proofs.Machine.Calls
import AccessoryLink.Proofs.Service.Delivery
import AccessoryLink.Directory.Adapter
import AccessoryLink.Proofs.Directory.Watch
import AccessoryLink.Directory.Writes
import AccessoryLink.Proofs.Directory.Writes
import AccessoryLink.Proofs.Machine.Rollback
import AccessoryLink.Proofs.Machine.Rounds
import AccessoryLink.Proofs.Channel.Ownership
import AccessoryLink.Proofs.Control.Story
import AccessoryLink.Proofs.Control.Cleanup
import AccessoryLink.Proofs.Channel.Outgoing
import AccessoryLink.Proofs.Channel.Incoming
import AccessoryLink.Proofs.Config.RoundTrip
import AccessoryLink.Directory.History
import AccessoryLink.Proofs.Manager.Matching
import AccessoryLink.Proofs.Directory.Priorities
import AccessoryLink.Proofs.Directory.Refresh
import AccessoryLink.Proofs.Machine.Rejection
import AccessoryLink.Proofs.Roles
import AccessoryLink.Proofs.Station.Reports
import AccessoryLink.Proofs.Service.Payload
