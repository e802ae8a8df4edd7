import DatasetSync.Main
import DatasetSync.MemoryHost
import DatasetSync.Proofs.Controller.Publication
import DatasetSync.Proofs.Link.Promotion
import DatasetSync.Proofs.Link.Samples
import DatasetSync.Proofs.Controller.Lifecycle
import DatasetSync.Proofs.Link.Mirror
import DatasetSync.Proofs.Log.Distributor
import DatasetSync.Proofs.Log.Forwarding
import DatasetSync.Proofs.Log.Hub
import DatasetSync.Proofs.Log.Agreement
import DatasetSync.Proofs.Link.Abort
import DatasetSync.Proofs.Link.Sessions
import DatasetSync.Proofs.Controller.Attempts
import DatasetSync.Proofs.Link.Moves
import DatasetSync.Proofs.Controller.Loss
import DatasetSync.Proofs.Link.Table
import DatasetSync.Proofs.Link.Isolation
import DatasetSync.Proofs.Link.Traffic
import DatasetSync.Proofs.Controller.Echo
import DatasetSync.Proofs.Link.Latest
import DatasetSync.Proofs.Controller.Intake
import DatasetSync.Proofs.Controller.Health
import DatasetSync.Proofs.Log.Delivery
import DatasetSync.Proofs.Controller.Startup
import DatasetSync.Proofs.Log.Requests
import DatasetSync.Proofs.Controller.Logging
import DatasetSync.Proofs.Link.Failures
import DatasetSync.Proofs.Config.RoundTrip
import DatasetSync.Proofs.Link.Construction
import DatasetSync.Proofs.Link.Tolerance
import DatasetSync.Proofs.Transport.Delivery
import DatasetSync.Proofs.Controller.Uptake
import DatasetSync.Proofs.Latency
import DatasetSync.Proofs.Controller.Lasting
import DatasetSync.Proofs.Link.Establishment
import DatasetSync.Proofs.Log.Accounting
import DatasetSync.Proofs.Demo
import DatasetSync.Proofs.Program
import DatasetSync.Proofs.Link.TravelTime
import DatasetSync.Proofs.Controller.Provenance
