import BotOps.Command.Folder
import BotOps.Main
import BotOps.Proofs.Adoption
import BotOps.Proofs.Billing.Catalogue
import BotOps.Proofs.Billing.Encoding
import BotOps.Proofs.Billing.Fields
import BotOps.Proofs.Billing.Repetition
import BotOps.Proofs.Billing.Trail
import BotOps.Proofs.Command.Options
import BotOps.Proofs.Command.Status
import BotOps.Proofs.Listing
import BotOps.Proofs.Log.Tail
import BotOps.Proofs.Metrics.Isolation
import BotOps.Proofs.Metrics.Outage
import BotOps.Proofs.Metrics.Reach
import BotOps.Proofs.Metrics.Retention
import BotOps.Proofs.Store.Chronology
import BotOps.Proofs.Store.Atomicity
import BotOps.Store.Outside
import BotOps.Proofs.Billing.Validity
import BotOps.Proofs.Time.RoundTrip
import BotOps.Proofs.Log.Span
import BotOps.Proofs.Log.Report
import BotOps.Proofs.Log.Widening
import BotOps.Proofs.Log.Repair
import BotOps.Proofs.Metrics.Population
import BotOps.Proofs.Billing.Refusal
import BotOps.Proofs.Log.Rotation
import BotOps.Proofs.Metrics.Selection
