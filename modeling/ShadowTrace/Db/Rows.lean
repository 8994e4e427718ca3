/-
**The tables the services share** (`app/db/models.py`).

Rows carry the columns that a modelled function reads or writes, with the defaults of the table
definitions. Identifiers are natural numbers.
Two simplifications hold throughout: a writeback is identified with its outbox, because the source
draws both identifiers fresh for every row and never reuses either; and the receipts of a
writeback are one list, newest first, because they are keyed by `(writeback_id, sequence)`, only
ever appended, and read through their highest sequence number.
-/

import ShadowTrace.Lib.Table
import ShadowTrace.Models.Enums

namespace ShadowTrace

open Relational

abbrev EventId := Nat
abbrev ActionId := Nat
abbrev JobId := Nat
abbrev OutboxId := Nat
abbrev DispositionId := Nat
abbrev SourceRecordId := Nat
abbrev IdempotencyKey := Nat
abbrev WorkerId := Nat
abbrev Time := Nat
abbrev ReportId := Nat

/-- `idempotency_key` of an execution job: the key the action carries, or one derived from the
action and the channel (`"{action_id}:xdr"`, `"{action_id}:direct"`), which no action key equals. -/
inductive ExecutionKey
  | own (key : IdempotencyKey)
  | xdr (action : ActionId)
  | direct (action : ActionId)
  deriving DecidableEq

/-- The codes an adapter raises with. -/
inductive AdapterErrorCode
  | notFound | unauthorizedField | invalidOperation | permissionDenied | authError
  | adapterValidationError | idempotencyKeyReuse | dispositionIdReuse | writebackUnsupported
  | mockValidationError | invalidCursor | adapterNotFound
  | unsupported (feature : Nat)
  | versionConflict
  | other (code : Nat)
  deriving DecidableEq

def AdapterErrorCode.deterministicRejection : AdapterErrorCode → Bool
  | .versionConflict | .other _ => false
  | _ => true

/-- `last_error_code` of an outbox: the service's own codes, or the one an adapter raised with. -/
inductive OutboxErrorCode
  | supersededByNewHead | leaseExpired | submissionUnknown | deliveryOutcomeUnknown
  | guardrailBlocked | writebackFenceBlocked | lookupClaimInvalid | lookupUnsupported
  | lookupDegraded | lookupInconclusive | lookupNotFound | lookupNeverAccepted | lookupUnknown
  | lookupApplyFailed
  | adapter (code : AdapterErrorCode)
  deriving DecidableEq

/-- The check is made on the stored code, whichever side it came from. -/
def OutboxErrorCode.deterministicRejection : OutboxErrorCode → Bool
  | .adapter code => code.deterministicRejection
  | _ => false

/-- `locked_by` of an outbox: the delivery lease of a worker, or the token of a reconciliation
claim (`"{worker_id}:reconcile:{random}"`, which no worker name equals). -/
inductive LockHolder
  | worker (id : WorkerId)
  | reconcile (token : Nat)
  deriving DecidableEq

/-- `command_payload_sha256`: the digest of a payload, taken to be injective. A payload is its body
together with the lineage field `supersedes_disposition_id`, which enqueueing may rewrite. -/
structure PayloadDigest where
  body : Nat
  supersedes : Option DispositionId
  deriving DecidableEq

/-- `disposition_outbox`: a command on its way to the source. -/
structure OutboxRow where
  eventId : EventId
  actionId : ActionId
  dispositionId : DispositionId
  closureCycle : Nat
  sourceRecordId : SourceRecordId
  sourceSequence : Nat
  intentKind : DispositionIntentKind
  logicalSlot : Nat
  supersedesDispositionId : Option DispositionId := none
  supersededByDispositionId : Option DispositionId := none
  idempotencyKey : IdempotencyKey
  commandPayloadSha256 : PayloadDigest
  targetDisposition : Option SourceDisposition := none
  parentDispositionId : Option DispositionId := none
  deliveryStatus : OutboxDeliveryStatus := .ready
  latestWritebackStatus : Option WritebackStatus := none
  attempt : Nat := 0
  nextRetryAt : Option Time := none
  lockedBy : Option LockHolder := none
  leaseExpiresAt : Option Time := none
  lastErrorCode : Option OutboxErrorCode := none
  deriving DecidableEq

/-- `disposition_receipt`: what the source said about a command. -/
structure Receipt where
  status : WritebackStatus
  confirmationEvidence : Option ConfirmationEvidence
  providerJobId : Option Nat
  simulated : Bool
  deriving DecidableEq

/-- `action_fingerprint`: the digest of what identifies an action, by the service that computes it.
Digests are taken to be injective. -/
inductive Fingerprint
  | response (event : EventId) (revision : Nat) (content : Nat)
  | rollback (event : EventId) (revision : Nat) (source : ActionId) (tool : Tool)
  | dispositionOnly (event : EventId)
  | verification (tool : Tool) (source : ActionId)
  | report (event : EventId) (revision : Nat)
  deriving DecidableEq

/-- `action`: something planned, approved and executed for an event. -/
structure ActionRow where
  eventId : EventId
  planRevision : Nat
  actionFingerprint : Fingerprint
  category : ActionCategory
  toolName : Tool
  level : ActionLevel
  executionPhase : ActionExecutionPhase := .immediate
  approvedTerminalDispositions : List SourceDisposition := []
  status : ActionStatus := .pending
  autoExecute : Bool := false
  executionOwner : Option ExecutionOwner := none
  executionJobId : Option JobId := none
  idempotencyKey : Option IdempotencyKey := none
  writebackRequired : Bool := false
  writebackApplicable : Bool := false
  writebackReadiness : WritebackReadiness := .notRequired
  writebackStatus : Option WritebackStatus := none
  supersededByRevision : Option Nat := none
  sourceActionId : Option ActionId := none
  dispositionSourceRef : Option SourceRecordId := none
  rollbackCompleted : Bool := false
  updatedAt : Time
  deriving DecidableEq

/-- `action_execution_job`: one execution of an action. -/
structure JobRow where
  eventId : EventId
  actionId : ActionId
  idempotencyKey : ExecutionKey
  status : ExecutionJobStatus
  leaseExpiresAt : Option Time
  attempt : Nat
  providerJobId : Option Nat
  deriving DecidableEq

inductive ApprovalOperator
  | engine
  | systemTimeout
  | principal (subject : Nat)

inductive ApprovalDecisionKind
  | autoApprove | autoReject | requireApproval
  deriving DecidableEq

inductive ApprovalOperation
  | approve | reject
  deriving DecidableEq

/-- The record of one approval cycle of an action. -/
structure ApprovalRow where
  decision : ApprovalDecisionKind
  operator : Option ApprovalOperator
  decidedAt : Option Time
  timeoutAt : Option Time
  decisionId : Option Nat
  /-- `detail.idempotency`: the operation of the decision request and the hash of its payload. -/
  idempotency : Option (ApprovalOperation × Nat)

/-- `security_event`. -/
structure EventRow where
  status : EventStatus
  severity : Severity
  finalVerdict : FinalVerdict
  dispositionPolicy : DispositionPolicy
  replanCount : Nat := 0
  escalated : Bool := false
  externalUnsynced : Bool := false
  closedAt : Option Time := none
  rowVersion : Nat := 1

/-- The tables that the action services only read. -/
structure Surroundings where
  events : Table EventId EventRow := .empty
  reports : Table ReportId EventId := .empty
  sources : Table SourceRecordId Nat := .empty

structure Db extends Surroundings where
  actions : Table ActionId ActionRow := .empty
  approvals : Table (ActionId × Nat) ApprovalRow := .empty
  jobs : Table JobId JobRow := .empty
  outboxes : Table OutboxId OutboxRow := .empty
  receipts : Table OutboxId (List Receipt) := .empty

def Db.putAction (db : Db) (id : ActionId) (row : ActionRow) : Db :=
  { db with actions := db.actions.set id row }

def ActionRow.moveTo (row : ActionRow) (status : ActionStatus) (now : Time) : ActionRow :=
  { row with status, updatedAt := now }

end ShadowTrace
