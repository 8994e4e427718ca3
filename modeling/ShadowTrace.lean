import ShadowTrace.Sync.NoBlindResend
import ShadowTrace.Lifecycle.Uncertain
import ShadowTrace.Lifecycle.CompletionsAgree
import ShadowTrace.Saga.Hold
import ShadowTrace.Approval.PlanAdvance
import ShadowTrace.Rollback.Compensation
import ShadowTrace.Sync.Edges
import ShadowTrace.Sync.Mirror
import ShadowTrace.Lifecycle.TerminalJobs
import ShadowTrace.Closure.ClosedGate
import ShadowTrace.Verify.CurrentVerification
import ShadowTrace.Intents.Retries
import ShadowTrace.Ingest.Confluence
import ShadowTrace.Ingest.Merging
import ShadowTrace.Recovery.Progress
import ShadowTrace.Checkpoint.Recovery
import ShadowTrace.Lease.EventLease
import ShadowTrace.ManualResolution.Holds
import ShadowTrace.Polling.Ingester
import ShadowTrace.Push.History
import ShadowTrace.Governance.Decisions
import ShadowTrace.Grants.Attempts
import ShadowTrace.Tasks.Fencing
import ShadowTrace.Promotion.Ledger
import ShadowTrace.Risk.Verdicts
import ShadowTrace.Sangfor.Confirmations
import ShadowTrace.Context.Outages
import ShadowTrace.Sync.Resent
import ShadowTrace.Tools.Executor
import ShadowTrace.Context.DegradedFlags
import ShadowTrace.Guardrails.Sanitizer
import ShadowTrace.Approval.Approvable
import ShadowTrace.Detection.EventSequence
import ShadowTrace.Models.Ids
import ShadowTrace.Ingest.SourceState
import ShadowTrace.Evaluation.Metrics
import ShadowTrace.Knowledge.OrgContext
import ShadowTrace.Knowledge.Citations
