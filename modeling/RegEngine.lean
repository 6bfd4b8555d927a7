import RegEngine.Shared.CanonicalEvent.Digest
import RegEngine.Shared.CanonicalPersistence.GraphSync
import RegEngine.Shared.CanonicalPersistence.Idempotency
import RegEngine.Shared.CanonicalPersistence.Metering
import RegEngine.Shared.CanonicalPersistence.Refinement
import RegEngine.Shared.CanonicalPersistence.ReadPath
import RegEngine.Library.Csv.Writer
import RegEngine.Shared.CircuitBreaker.Safety
import RegEngine.Ingestion.Epcis.FdaCsv
import RegEngine.Ingestion.Epcis.LotFilter
import RegEngine.Shared.EpcisLotIdentity.Normalize
import RegEngine.Ingestion.ChainVerificationJob
import RegEngine.Ingestion.ProofVerify
import RegEngine.Ingestion.Labels.Printing
import RegEngine.Ingestion.QrDecoder.RoundTrip
import RegEngine.Ingestion.StripeBilling.EventDedup
import RegEngine.Ingestion.StripeBilling.UsageReporting
import RegEngine.Ingestion.StripeBilling.Convergence
import RegEngine.Shared.CtePersistence.Expansion
import RegEngine.Shared.CtePersistence.Refinement
import RegEngine.Shared.FsmaValidation
import RegEngine.Library.CheckDigit
import RegEngine.Shared.IdempotencyMiddleware
import RegEngine.Shared.Ledger.Runs
import RegEngine.Shared.MerkleTree.Binding
import RegEngine.Shared.Rules.Deadletter
import RegEngine.Shared.Rules.Verdict
import RegEngine.Ingestion.EdiIngestion.Dedup
import RegEngine.Ingestion.EdiIngestion.Extractors
import RegEngine.Ingestion.EdiIngestion.LotAttribution
import RegEngine.Ingestion.EdiIngestion.Partition
import RegEngine.Shared.IdentityResolution.Resolvable
import RegEngine.Shared.IdentityResolution.Undo
import RegEngine.Shared.IdentityResolution.MatchingPaths
import RegEngine.Shared.IdentityResolution.Resolver
import RegEngine.Library.Ranking
import RegEngine.Library.Rounding
import RegEngine.Shared.RequestWorkflow.Approval
import RegEngine.Shared.RequestWorkflow.Clearance
import RegEngine.Shared.RequestWorkflow.Manifest
import RegEngine.Ingestion.Webhook.Accounting
import RegEngine.Ingestion.Remediation.Denial
import RegEngine.Ingestion.Remediation.Delivery.OutboxSafety
import RegEngine.Ingestion.Remediation.Delivery.TokenSafety
import RegEngine.Shared.TaskQueue.Safety
import RegEngine.Ingestion.Remediation.Lineage
import RegEngine.Admin.Audit.Tamper
import RegEngine.Shared.AuditLogging
import RegEngine.Shared.AuditLogging.Rehydration
import RegEngine.Admin.WebhookOutbox
import RegEngine.Compliance.Snapshots.Lineage
import RegEngine.Compliance.Snapshots.Rewrites
import RegEngine.Admin.GraphOutbox.Ordering
import RegEngine.Admin.GraphOutbox.Retries
import RegEngine.Ingestion.FdaExport.Selection
import RegEngine.Ingestion.CsvTemplates.EventTime
import RegEngine.Library.Grouping
import RegEngine.Library.Worklist
import RegEngine.Shared.RecallReconstruction.RowOrder
import RegEngine.Ingestion.FdaExport.Recovery
import RegEngine.Ingestion.FdaExport.Redaction
import RegEngine.Shared.Rules.Evaluators.Detection
import RegEngine.Shared.Rules.Evaluators.MassBalance
import RegEngine.Shared.CanonicalPersistence.Retries
import RegEngine.Ingestion.Remediation.PatchHistory
import RegEngine.Shared.RequestWorkflow.Register
import RegEngine.Shared.Ledger.Traces
