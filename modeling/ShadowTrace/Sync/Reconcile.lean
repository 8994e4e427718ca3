/-
**Reconciling paused outboxes by lookup** (`reconcile_paused_outboxes`).

Three transactions-and-calls per row: claim the row under a fresh token, look the submission up
outside any transaction, and apply the answer if the token still matches. The lookup itself
(`queryProvider`) is shared with the operator's retry.
-/

import ShadowTrace.Sync.Deliver

namespace ShadowTrace.Sync

/-! ### The provider lookup -/

/-- The adapter's capabilities and what its lookups return; `none` is an exception. -/
structure LookupEnv where
  supportsIdempotency : Bool
  supportsLookupByIdempotency : Bool
  supportsStatusQuery : Bool
  lookupSubmission : Option (Option Receipt)
  getStatus : Option (Option Receipt)

variable (db : Db) (id : OutboxId) (env : LookupEnv)

def LookupEnv.allowsSafeRetry : Bool :=
  env.supportsIdempotency && env.supportsLookupByIdempotency

def LookupEnv.canAsk : Bool :=
  env.supportsLookupByIdempotency || env.supportsStatusQuery

inductive ProviderAnswer
  | raised
  | receipt (received : Receipt)
  | nothing
  deriving DecidableEq

def ProviderAnswer.ofCall : Option (Option Receipt) → ProviderAnswer
  | none => .raised
  | some none => .nothing
  | some (some received) => .receipt received

/-- `lookup_submission`, then `get_status` when that found nothing and a provider job is known. -/
def queryProvider (providerJobId : Option Nat) : ProviderAnswer :=
  let byKey := if env.supportsLookupByIdempotency then ProviderAnswer.ofCall env.lookupSubmission
    else .nothing
  if byKey = .nothing ∧ env.supportsStatusQuery = true ∧ providerJobId.isSome = true
  then ProviderAnswer.ofCall env.getStatus
  else byKey

/-- What the answer says about the earlier request: an empty answer proves that it was never
accepted only if the idempotency lookup was made. -/
def lookupAnswer : ProviderAnswer → LookupAnswer
  | .raised => .inconclusive
  | .receipt received => .found received.status
  | .nothing => if env.supportsLookupByIdempotency then .neverAccepted else .inconclusive

/-! ### Claim, look up, apply -/

inductive PausedLookupOutcome
  | found (receipt : Receipt)
  | notFound
  | degraded (code : OutboxErrorCode)

structure PausedClaim where
  outboxId : OutboxId
  idempotencyKey : IdempotencyKey
  commandPayloadSha256 : PayloadDigest
  providerJobId : Option Nat
  outcome : Option PausedLookupOutcome
  /-- Applying the outcome raised; the claim is still to be released. -/
  applyFailed : Bool

variable (claim : PausedClaim)

section

variable (row : OutboxRow) (token : Nat) (now : Time)

def pausedClaimable : Bool :=
  row.deliveryStatus == .paused && row.supersededByDispositionId.isNone
    && (row.lockedBy.isNone || leaseExpired row now)

def tokenRow : OutboxRow :=
  { row with
    lockedBy := some (.reconcile token), leaseExpiresAt := some (now + defaultLeaseSeconds) }

def invalidClaimRow : OutboxRow :=
  { row with lastErrorCode := some .lookupClaimInvalid }

def claimPaused (valid : Bool) : Db × Option PausedClaim :=
  if valid then
    let stored := { db with outboxes := db.outboxes.set id (tokenRow row token now) }
    (mirrorWritebackStatus stored row.actionId .unknown,
      some { outboxId := id
             idempotencyKey := row.idempotencyKey
             commandPayloadSha256 := row.commandPayloadSha256
             providerJobId := (latestReceipt db id).bind Receipt.providerJobId
             outcome := none
             applyFailed := false })
  else ({ db with outboxes := db.outboxes.set id (invalidClaimRow row) }, none)

def lookupPaused : PausedLookupOutcome :=
  if !env.canAsk then .degraded .lookupUnsupported
  else match queryProvider env claim.providerJobId with
    | .raised => .degraded .lookupDegraded
    | .receipt received => .found received
    | .nothing => if env.supportsLookupByIdempotency then .notFound
        else .degraded .lookupInconclusive

def lookupPausedCalls : List AdapterCall :=
  if env.canAsk then
    [.lookup claim.outboxId (lookupAnswer env (queryProvider env claim.providerJobId))
      env.allowsSafeRetry]
  else []

def claimHolds (row : OutboxRow) : Bool :=
  row.deliveryStatus == .paused && row.lockedBy == some (.reconcile token)
    && row.supersededByDispositionId.isNone && row.idempotencyKey == claim.idempotencyKey
    && row.commandPayloadSha256 == claim.commandPayloadSha256

def doubtfulRow (code : OutboxErrorCode) : OutboxRow :=
  { withStatus (unlock row) .unknown with lastErrorCode := some code }

def requeuedRow : OutboxRow :=
  { withStatus (unlock row) .pending with
    lastErrorCode := some .lookupNeverAccepted, deliveryStatus := .ready }

def foundRow (status : WritebackStatus) : OutboxRow :=
  { withStatus (unlock row) status with lastErrorCode := none, deliveryStatus := .delivered }

def storeMirrored (status : WritebackStatus) : Db :=
  mirrorWritebackStatus { db with outboxes := db.outboxes.set id row } row.actionId status

/-- `_apply_paused_lookup_outcome`, the branch for an empty authoritative lookup. -/
def applyNotFound (safeRetry : Bool) : Except TransitionError Db :=
  if row.lastErrorCode.any OutboxErrorCode.deterministicRejection then
    applyDeterministicRejection db id (unlock row)
      (row.lastErrorCode.getD (.adapter .adapterValidationError))
  else if !safeRetry then
    .ok (storeMirrored db id (doubtfulRow row .lookupNotFound) .unknown)
  else do
    validateWritebackStatusTransition (row.latestWritebackStatus.getD .unknown) .pending
      { lookupNeverAccepted := true, adapterAllowsSafeRetry := true }
    validateOutboxDeliveryTransition .paused .ready
    return storeMirrored db id (requeuedRow row) .pending

def applyFound (receipt : Receipt) : Except TransitionError Db :=
  if receipt.status = .unknown then
    .ok (storeMirrored db id (doubtfulRow row .lookupUnknown) .unknown)
  else do
    validateWritebackStatusTransition (row.latestWritebackStatus.getD .unknown) receipt.status
      { evidenceAdjudication := true }
    validateOutboxDeliveryTransition .paused .delivered { lookupConfirmedSubmission := true }
    applyReceiptExecutionProjection
      (storeMirrored (appendReceipt db id receipt) id (foundRow row receipt.status) receipt.status)
      row receipt

def applyPausedLookupOutcome (outcome : PausedLookupOutcome) (safeRetry : Bool) :
    Except TransitionError Db :=
  match db.outboxes.get claim.outboxId with
  | none => .ok db
  | some row =>
    if !claimHolds claim token row then .ok db
    else match outcome with
      | .degraded code => .ok (storeMirrored db claim.outboxId (doubtfulRow row code) .unknown)
      | .notFound => applyNotFound db claim.outboxId row safeRetry
      | .found receipt => applyFound db claim.outboxId row receipt

def releasedClaimRow : OutboxRow :=
  { row with
    lockedBy := none, leaseExpiresAt := none, lastErrorCode := some .lookupApplyFailed }

def releasePausedClaim : Db :=
  match db.outboxes.get claim.outboxId with
  | none => db
  | some row =>
    if row.deliveryStatus = .paused ∧ row.lockedBy = some (.reconcile token) then
      { db with outboxes := db.outboxes.set claim.outboxId (releasedClaimRow row) }
    else db

end

/-! ### What reconciliation commits -/

theorem lookupPaused_notFound {env : LookupEnv} {claim : PausedClaim}
    (absent : lookupPaused env claim = .notFound) :
    lookupPausedCalls env claim
      = [.lookup claim.outboxId .neverAccepted env.allowsSafeRetry] := by
  unfold lookupPaused at absent
  split at absent
  · cases absent
  rename_i asked
  split at absent
  · cases absent
  · cases absent
  rename_i answer
  split at absent
  · rename_i byKey
    simp only [Bool.not_eq_true, Bool.not_eq_false'] at asked
    simp [lookupPausedCalls, asked, answer, lookupAnswer, byKey]
  · cases absent

variable {row : OutboxRow}

theorem claimHolds_iff {claim : PausedClaim} {token : Nat} :
    claimHolds claim token row = true ↔
      row.deliveryStatus = .paused ∧ row.lockedBy = some (.reconcile token) ∧
        row.supersededByDispositionId = none ∧ row.idempotencyKey = claim.idempotencyKey ∧
        row.commandPayloadSha256 = claim.commandPayloadSha256 := by
  simp [claimHolds, and_assoc]

section

variable (paused : row.deliveryStatus = .paused)

include paused

theorem doubtfulRow_quiet (code : OutboxErrorCode) : QuietStep row (doubtfulRow row code) := by
  have move := Move.pause row.deliveryStatus row.latestWritebackStatus
    row.supersededByDispositionId.isSome (.inr paused)
  refine quiet_of_paused (.of_move rfl ?_) paused rfl
  simpa [OutboxRow.state, doubtfulRow, withStatus, unlock, paused] using move

theorem foundRow_quiet (status : WritebackStatus) : QuietStep row (foundRow row status) := by
  have move := Move.answer row.deliveryStatus row.latestWritebackStatus
    row.supersededByDispositionId.isSome status (by rw [paused]; simp)
  refine quiet_of_settled (.of_move rfl ?_) settled_delivered
  simpa [OutboxRow.state, foundRow, withStatus, unlock] using move

theorem requeuedRow_step (current : row.supersededByDispositionId = none)
    (unconfirmed : row.latestWritebackStatus ≠ some .confirmed) :
    RowStep row (requeuedRow row) := by
  have move := Move.requeue row.latestWritebackStatus unconfirmed
  refine .of_move rfl ?_
  simpa [OutboxRow.state, requeuedRow, withStatus, unlock, paused, current] using move

end

end ShadowTrace.Sync
