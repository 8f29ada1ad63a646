import Fuatilia.Adjustments.BalanceRuns
import Fuatilia.Adjustments.Refund
import Fuatilia.Allocation.ProRata
import Fuatilia.Allocation.Runs
import Fuatilia.Approvals.Runs
import Fuatilia.Audit.TamperEvidence
import Fuatilia.Backend.C2bSettlement
import Fuatilia.Backend.Cases
import Fuatilia.Backend.Reconfirmation
import Fuatilia.Backend.RefundCeiling
import Fuatilia.Backend.Revocation
import Fuatilia.Backend.StkInitiation
import Fuatilia.Backend.StkSettlement
import Fuatilia.Backend.WebhookWorker
import Fuatilia.Collections.Runs
import Fuatilia.Communications.Guard
import Fuatilia.Communications.Provider
import Fuatilia.Consent.Registry
import Fuatilia.Crossborder.IntentRuns
import Fuatilia.Etims.Numbering
import Fuatilia.Events.Outbox
import Fuatilia.Ledger.Runs
import Fuatilia.PaymentLinks.Runs
import Fuatilia.Persistence.FileStore
import Fuatilia.Payments.Identity
import Fuatilia.Payments.Reconciliation
import Fuatilia.Receivables.Invoicing
import Fuatilia.Scheduler.ExactlyOnce
import Fuatilia.Scheduler.Starvation
import Fuatilia.Shared.Conservation
import Fuatilia.Stk.Callbacks
import Fuatilia.Stk.Clearance
import Fuatilia.Webhooks.DeliveryRuns
import Fuatilia.Webhooks.Signing
import Fuatilia.Webhooks.Url
import Fuatilia.Ledger.Replay
import Fuatilia.Policy.Decisions
import Fuatilia.Crossborder.GainLoss
import Fuatilia.Receivables.LateFee
import Fuatilia.Receivables.PaymentPlan
import Fuatilia.Backend.Money
import Fuatilia.Intake.Csv
