import Telemetry.Capture
import Telemetry.Cycle
import Telemetry.Otlp.Decoding
import Telemetry.Otlp.Encoding
import Telemetry.Proofs.History
import Telemetry.Proofs.Arrival
import Telemetry.Proofs.Synthetic
import Telemetry.Proofs.Otlp.Faithful
import Telemetry.Proofs.Otlp.RoundTrip
import Telemetry.Proofs.Records
import Telemetry.Settings.Json
import Telemetry.Settings.Validation
import Telemetry.Synthetic
import Telemetry.Proofs.Isolation
import Telemetry.Proofs.Answers
import Telemetry.Proofs.Rejection
import Telemetry.Proofs.Switches
import Telemetry.Proofs.Conservation
import Telemetry.Proofs.Otlp.Times
import Telemetry.Proofs.Creation
import Telemetry.Proofs.Binary64.Difference
import Telemetry.Proofs.Outcome
import Telemetry.Proofs.Accumulation
import Telemetry.Proofs.Staleness
import Telemetry.Proofs.LabelNames
import Telemetry.Proofs.FamilyName
import Telemetry.Proofs.Exemplar
import Telemetry.Proofs.Quantiles
import Telemetry.Proofs.IndexedCycle
