import SensorAlerting.Delivery.Described
import SensorAlerting.Service.Lifecycle
import SensorAlerting.Service.Run
import SensorAlerting.Snapshot.Store
import SensorAlerting.Stream.Session
import SensorAlerting.Alert.Data
import SensorAlerting.Detection.Samples
import SensorAlerting.Event.Data
import SensorAlerting.Json.Marked
import SensorAlerting.Proofs.Check.Passed
import SensorAlerting.Proofs.Condition.Compiling
import SensorAlerting.Proofs.Condition.Evaluating
import SensorAlerting.Proofs.Detection.Candidates
import SensorAlerting.Proofs.Detection.Extremes
import SensorAlerting.Proofs.Detection.Gas
import SensorAlerting.Proofs.Detection.Histories
import SensorAlerting.Proofs.Detection.Occupancy
import SensorAlerting.Proofs.Detection.Patterns
import SensorAlerting.Proofs.Detection.Silence
import SensorAlerting.Proofs.Detection.Stored
import SensorAlerting.Proofs.Detection.Throttling
import SensorAlerting.Proofs.Detection.Vacating
import SensorAlerting.Proofs.Delivery.Deduplication
import SensorAlerting.Proofs.Event.Payload
import SensorAlerting.Proofs.Delivery.Isolation
import SensorAlerting.Proofs.Delivery.Draining
import SensorAlerting.Proofs.Delivery.Targets
import SensorAlerting.Proofs.Number.Truncation
import SensorAlerting.Proofs.Snapshot.Saving
import SensorAlerting.Proofs.Time.Epoch
import SensorAlerting.Proofs.Worker.Accounting
import SensorAlerting.Proofs.RuleStore.Export
import SensorAlerting.Proofs.RuleStore.Histories
import SensorAlerting.Proofs.Worker.Pipeline
import SensorAlerting.Proofs.Worker.Stopping
import SensorAlerting.Proofs.Worker.Turns
import SensorAlerting.Stream.Intake
import SensorAlerting.Proofs.Stream.Dealing
import SensorAlerting.Proofs.Stream.Consuming
import SensorAlerting.Proofs.Stream.Completeness
import SensorAlerting.Proofs.Stream.Acknowledging
import SensorAlerting.Proofs.Stream.Closing
import SensorAlerting.Proofs.RuleStore.Batches
import SensorAlerting.Proofs.RuleStore.Independence
import SensorAlerting.Proofs.RuleStore.Instantiation
import SensorAlerting.Proofs.Detection.Constants
import SensorAlerting.Proofs.Settings.Building
import SensorAlerting.Proofs.Settings.Overlay
import SensorAlerting.Proofs.Delivery.Gathering
import SensorAlerting.Proofs.Detection.Buffers
import SensorAlerting.Proofs.Recency
import SensorAlerting.Proofs.Rule.Normalization
