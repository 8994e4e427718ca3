/-
**Operators and lookups correct a writeback** (`retry_writeback`,
`update_writeback_status_from_lookup`, `resolve_writeback`).

`retry_writeback` pauses a settled row, looks the earlier request up inside its transaction, and
then delivers, requeues or leaves the row paused. The audit trail that makes a retry replayable is
an input: `replay` is the status it returns for a known `operation_id`.
-/

import ShadowTrace.Sync.Reconcile

namespace ShadowTrace.Sync

open Fallible

/-! ### The operator's retry -/

inductive RetryError
  | notFound | confirmed | superseded | unverified | inProgress | illegalState
  | transition (error : TransitionError)
  deriving DecidableEq

inductive RetryDecision
  | reconcileTerminal (receipt : Receipt)
  | blocked
  | reEnqueue (lookupNeverAccepted : Bool)

/-- What `retry_writeback` returns; `blocked` is the conflict it raises after its commit. -/
inductive RetryResult
  | status (status : WritebackStatus)
  | blocked

section

variable (db : Db) (id : OutboxId) (env : LookupEnv) (row : OutboxRow)
  (replay : Option WritebackStatus)

def retryAsks : Bool :=
  env.canAsk && !row.lastErrorCode.any OutboxErrorCode.deterministicRejection

def decideRetry : ProviderAnswer → RetryDecision
  | .raised => .blocked
  | .receipt received =>
    if isOperatorRetryTerminalSuccess received.status then .reconcileTerminal received
    else if received.status = .failed ∨ received.status = .partialDone then
      if env.allowsSafeRetry then .reEnqueue false else .blocked
    else .blocked
  | .nothing =>
    if env.supportsLookupByIdempotency then
      if env.allowsSafeRetry then .reEnqueue true else .blocked
    else .blocked

def evaluateOperatorRetryLookup (providerJobId : Option Nat) : RetryDecision :=
  if retryAsks env row then decideRetry env (queryProvider env providerJobId) else .blocked

def reopenedRow : OutboxRow := { unlock row with deliveryStatus := .paused }

/-- The pause in front of the lookup. A row that is paused already keeps its lock. -/
def pauseForRetry : Except TransitionError OutboxRow :=
  match row.deliveryStatus with
  | .deadLetter | .delivered => do
    validateOutboxDeliveryTransition row.deliveryStatus .paused { operatorRetryPause := true }
    return reopenedRow row
  | _ => .ok row

def reconciledRow (status : WritebackStatus) : OutboxRow :=
  { withStatus row status with deliveryStatus := .delivered }

def retriedRow : OutboxRow :=
  { withStatus (unlock row) .pending with attempt := 0, deliveryStatus := .ready }

def applyRetryDecision : RetryDecision → Except TransitionError (Db × RetryResult)
  | .reconcileTerminal receipt => do
    validateOutboxDeliveryTransition .paused .delivered { lookupConfirmedSubmission := true }
    return (storeMirrored (appendReceipt db id receipt) id (reconciledRow row receipt.status)
      receipt.status, .status receipt.status)
  | .blocked => .ok ({ db with outboxes := db.outboxes.set id row }, .blocked)
  | .reEnqueue lookupNeverAccepted => do
    validateWritebackStatusTransition (row.latestWritebackStatus.getD .failed) .pending
      { lookupNeverAccepted, adapterAllowsSafeRetry := true }
    validateOutboxDeliveryTransition .paused .ready
    return (storeMirrored db id (retriedRow row) .pending, .status .pending)

def retryPaused (env : LookupEnv) : Except TransitionError (Db × RetryResult) := do
  let paused ← pauseForRetry row
  applyRetryDecision db id paused
    (evaluateOperatorRetryLookup env row ((latestReceipt db id).bind Receipt.providerJobId))

inductive RetryGate
  | replayed (status : WritebackStatus)
  | idempotentReady
  | lookup
  deriving DecidableEq

def retryGate : Except RetryError RetryGate :=
  if operatorRetryWritebackStatusBlocked row.latestWritebackStatus then .error .confirmed
  else if row.supersededByDispositionId.isSome then .error .superseded
  else match replay with
    | some status => .ok (.replayed status)
    | none =>
      if row.latestWritebackStatus = some .unknown ∧ row.deliveryStatus = .delivered then
        .error .unverified
      else match row.deliveryStatus with
        | .leased | .waitingRetry => .error .inProgress
        | .ready => .ok .idempotentReady
        | delivery =>
          if deliveryStatusEligibleForOperatorRetryPause delivery row.latestWritebackStatus then
            .ok .lookup
          else .error .illegalState

def retryWriteback (env : LookupEnv) : Except RetryError (Db × RetryResult) :=
  match db.outboxes.get id with
  | none => .error .notFound
  | some row =>
    match retryGate row replay with
    | .error error => .error error
    | .ok (.replayed status) => .ok (db, .status status)
    | .ok .idempotentReady => .ok (db, .status .pending)
    | .ok .lookup =>
      match retryPaused db id row env with
      | .error error => .error (.transition error)
      | .ok result => .ok result

def retryCalls (env : LookupEnv) : List AdapterCall :=
  match db.outboxes.get id with
  | none => []
  | some row =>
    if retryGate row replay = .ok .lookup ∧ retryAsks env row = true then
      [.lookup id
        (lookupAnswer env (queryProvider env ((latestReceipt db id).bind Receipt.providerJobId)))
        env.allowsSafeRetry]
    else []

/-! ### Lookups and adjudications -/

/-- The row a lookup corrects. A terminal success ends a delivery that is still open. -/
def lookedUpRow (status : WritebackStatus) : Except TransitionError OutboxRow :=
  if isOperatorRetryTerminalSuccess status then
    match row.deliveryStatus with
    | .ready | .paused | .waitingRetry => do
      validateOutboxDeliveryTransition row.deliveryStatus .delivered
        { lookupConfirmedSubmission := true }
      return { unlock (withStatus row status) with deliveryStatus := .delivered }
    | .leased => do
      validateOutboxDeliveryTransition row.deliveryStatus .delivered
      return { unlock (withStatus row status) with deliveryStatus := .delivered }
    | .delivered | .deadLetter => .ok (withStatus row status)
  else .ok (withStatus row status)

def updateWritebackStatusFromLookup (status : WritebackStatus) : Except TransitionError Db :=
  match db.outboxes.get id with
  | none => .ok db
  | some row => do
    validateWritebackStatusTransition (row.latestWritebackStatus.getD .pending) status
      { evidenceAdjudication := true }
    let written ← lookedUpRow row status
    return storeMirrored db id written status

inductive Resolution
  | manualConfirmed | markFailed | abandon
  deriving DecidableEq

def Resolution.target : Resolution → WritebackStatus
  | .manualConfirmed => .confirmed
  | .markFailed | .abandon => .failed

inductive ResolveError
  | missingEvidence | notFound
  | transition (error : TransitionError)
  /-- The resume intent of the same transaction was refused (`IdempotencyKeyReuseError`). -/
  | intentReuse

def Resolution.receipt (resolution : Resolution) : Receipt :=
  localReceipt resolution.target
    (if resolution.target = .confirmed then some .manualConfirmed else none)

def resolveWriteback (resolution : Resolution) (hasEvidence : Bool) (intentRefused : Bool) :
    Except ResolveError Db :=
  if resolution = .manualConfirmed ∧ hasEvidence = false then .error .missingEvidence
  else match db.outboxes.get id with
    | none => .error .notFound
    | some row =>
      if row.latestWritebackStatus.getD .unknown = resolution.target then .ok db
      else match validateWritebackStatusTransition (row.latestWritebackStatus.getD .unknown)
          resolution.target { evidenceAdjudication := true } with
        | .error error => .error (.transition error)
        | .ok () =>
          if intentRefused then .error .intentReuse
          else .ok (storeMirrored (appendReceipt db id resolution.receipt) id
            (reconciledRow row resolution.target) resolution.target)

/-! ### What a retry commits -/

/-- The rows that an operator may retry. -/
structure Retryable : Prop where
  unconfirmed : row.latestWritebackStatus ≠ some .confirmed
  current : row.supersededByDispositionId = none
  closed : row.deliveryStatus = .paused ∨ Settled row.deliveryStatus

end

variable {row : OutboxRow}

theorem retryGate_lookup {replay : Option WritebackStatus}
    (passes : retryGate row replay = .ok .lookup) : Retryable row := by
  unfold retryGate at passes
  split at passes
  · cases passes
  rename_i unblocked
  split at passes
  · cases passes
  rename_i current
  split at passes
  · cases passes
  split at passes
  · cases passes
  refine ⟨by simpa [operatorRetryWritebackStatusBlocked] using unblocked,
    by simpa using current, ?_⟩
  cases status : row.deliveryStatus <;> simp [status] at passes ⊢

theorem pauseForRetry_step {paused : OutboxRow} (retryable : Retryable row)
    (done : pauseForRetry row = .ok paused) :
    QuietStep row paused ∧ paused.deliveryStatus = .paused ∧
      paused.supersededByDispositionId = none ∧
      paused.latestWritebackStatus = row.latestWritebackStatus := by
  have reopens : Settled row.deliveryStatus → QuietStep row (reopenedRow row) := by
    intro settled
    have move := Move.reopen row.deliveryStatus row.latestWritebackStatus settled
      retryable.unconfirmed
    refine quiet_of_paused (.of_move rfl ?_) rfl rfl
    simpa [OutboxRow.state, reopenedRow, unlock, retryable.current] using move
  rcases retryable.closed with status | settled | settled
  · simp only [pauseForRetry, status] at done
    cases done
    exact ⟨QuietStep.refl row, status, retryable.current, rfl⟩
  · simp only [pauseForRetry, settled] at done
    cases done
    exact ⟨reopens (.inl settled), rfl, retryable.current, rfl⟩
  · simp only [pauseForRetry, settled] at done
    cases done
    exact ⟨reopens (.inr settled), rfl, retryable.current, rfl⟩

theorem reconciledRow_step (open_ : ¬ Settled row.deliveryStatus) (status : WritebackStatus) :
    RowStep row (reconciledRow row status) :=
  .of_move rfl (.answer _ _ _ status open_)

theorem retriedRow_step (paused : row.deliveryStatus = .paused)
    (current : row.supersededByDispositionId = none)
    (unconfirmed : row.latestWritebackStatus ≠ some .confirmed) :
    RowStep row (retriedRow row) := by
  have move := Move.requeue row.latestWritebackStatus unconfirmed
  refine .of_move rfl ?_
  simpa [OutboxRow.state, retriedRow, withStatus, unlock, paused, current] using move

/-- A lookup that permits sending again: the request was never accepted, or it failed and the
adapter allows a safe retry. -/
def clears : LookupAnswer → Bool → Bool
  | .neverAccepted, _ => true
  | .found .failed, safeRetry | .found .partialDone, safeRetry => safeRetry
  | _, _ => false

theorem decideRetry_reEnqueue {env : LookupEnv} {answer : ProviderAnswer} {never : Bool}
    (decided : decideRetry env answer = .reEnqueue never) :
    clears (lookupAnswer env answer) env.allowsSafeRetry = true := by
  cases answer with
  | raised => cases decided
  | nothing =>
    simp only [decideRetry] at decided
    by_cases byKey : env.supportsLookupByIdempotency = true
    · simp [lookupAnswer, byKey, clears]
    · simp [byKey] at decided
  | receipt =>
    simp only [decideRetry] at decided
    split at decided
    · cases decided
    split at decided
    · rename_i failed
      by_cases safe : env.allowsSafeRetry = true
      · rcases failed with status | status <;> simp [lookupAnswer, status, clears, safe]
      · simp [safe] at decided
    · cases decided

theorem retryCalls_cleared {db : Db} {id : OutboxId} {replay : Option WritebackStatus}
    {env : LookupEnv} {never : Bool} (found : db.outboxes.get id = some row)
    (passes : retryGate row replay = .ok .lookup) (decided : evaluateOperatorRetryLookup env row
      ((latestReceipt db id).bind Receipt.providerJobId) = .reEnqueue never) :
    ∃ answer safeRetry, retryCalls db id replay env = [.lookup id answer safeRetry]
      ∧ clears answer safeRetry = true := by
  unfold evaluateOperatorRetryLookup at decided
  split at decided
  · rename_i asks
    refine ⟨_, _, ?_, decideRetry_reEnqueue decided⟩
    simp [retryCalls, found, passes, asks]
  · cases decided

/-! ### What a lookup or an adjudication commits -/

theorem lookedUpRow_quiet {written : OutboxRow} {status : WritebackStatus}
    (unconfirmed : row.latestWritebackStatus ≠ some .confirmed)
    (done : lookedUpRow row status = .ok written) : QuietStep row written := by
  have ends : RowStep row { unlock (withStatus row status) with deliveryStatus := .delivered } :=
    .of_move rfl (.correct _ _ _ _ status unconfirmed (.inl rfl))
  have stays : (status = .confirmed → Settled row.deliveryStatus) →
      QuietStep row (withStatus row status) := fun settled =>
    ⟨⟨.of_move rfl (.correct _ _ _ _ status unconfirmed (.inr ⟨rfl, settled⟩)),
      fun _ => ⟨rfl, rfl⟩⟩, fun _ held => held⟩
  unfold lookedUpRow at done
  split at done
  · cases delivery : row.deliveryStatus <;> simp only [delivery] at done
    case delivered =>
      cases done
      exact stays fun _ => .inl delivery
    case deadLetter =>
      cases done
      exact stays fun _ => .inr delivery
    all_goals
      obtain rfl := eq_of_bind_pure done
      exact quiet_of_settled ends settled_delivered
  · rename_i unsuccessful
    cases done
    refine stays fun confirmed => ?_
    rw [confirmed] at unsuccessful
    exact absurd rfl unsuccessful

end ShadowTrace.Sync
