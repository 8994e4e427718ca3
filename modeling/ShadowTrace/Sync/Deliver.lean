/-
**Delivery** (`_deliver_outbox`, `OutboxWorker`).

The whole attempt is one transaction, and the adapter's `submit` runs inside it: an exception after
the submit rolls the row back, the request has left the process all the same.

`_claim_batch` leases the rows its query selects and pauses the expired leases it meets. When a
delivery raises, the worker classifies the exception and marks the row in a second transaction;
every mark acts on a `leased` row only, and none of them looks at who holds the lease.
-/

import ShadowTrace.Sync.Enqueue

namespace ShadowTrace.Sync

open Relational Fallible

inductive DeliveryError
  | guardrail
  | conflict (code : AdapterErrorCode)
  | unsupported (code : AdapterErrorCode)
  | validation (code : AdapterErrorCode)
  | transition (error : TransitionError)
  | other

inductive DeliveryErrorKind
  | deterministicRejection | conflict | ambiguousOutcome | guardrail

/-- `classify_disposition_delivery_error`, and `ambiguousOutcome` for every exception the worker
does not name. -/
def DeliveryError.kind : DeliveryError → DeliveryErrorKind
  | .guardrail => .guardrail
  | .conflict _ => .conflict
  | .unsupported _ => .deterministicRejection
  | .validation code => if code.deterministicRejection then .deterministicRejection
      else .ambiguousOutcome
  | .transition _ | .other => .ambiguousOutcome

inductive LookupAnswer
  /-- The idempotency lookup found nothing: the request was never accepted. -/
  | neverAccepted
  | found (status : WritebackStatus)
  /-- No lookup was possible, it failed, or it cannot exclude an acceptance. -/
  | inconclusive
  deriving DecidableEq

inductive AdapterCall
  | submit (outbox : OutboxId)
  | lookup (outbox : OutboxId) (answer : LookupAnswer) (safeRetry : Bool)
  deriving DecidableEq

inductive SubmitAnswer
  | receipt (receipt : Receipt)
  | raised (error : DeliveryError)

/-- What `confirm_readback` does. An exception is swallowed: the receipt stays as submitted. -/
inductive ReadbackAnswer
  | receipt (receipt : Receipt)
  | nothing
  | raised

structure DeliveryEnv where
  fenceOpen : Bool
  /-- `OutboundDispositionGuard.validate`, adapter resolution and `validate_command`. -/
  precheck : Except DeliveryError Unit
  submit : SubmitAnswer
  supportsReadback : Bool
  readback : ReadbackAnswer
  /-- Any other exception between the submit and the end of the commit. -/
  lateError : Option DeliveryError

section

variable (db : Db) (id : OutboxId) (row : OutboxRow) (worker : WorkerId) (env : DeliveryEnv)

def isActiveHeadForDelivery : Bool :=
  if row.intentKind = .eventStatusUpdate then
    (activeHead db row.eventId row.closureCycle row.logicalSlot).map (·.2.dispositionId)
      == some row.dispositionId
  else true

def actionStillApprovedForDelivery (action : ActionRow) : Bool :=
  (action.status == .approved || action.status == .executing || action.status == .success
      || action.status == .partialSuccess)
    && action.supersededByRevision.isNone

def alreadyAnswered : Option WritebackStatus → Bool
  | some .accepted | some .confirmed | some .failed | some .conflict | some .unknown => true
  | _ => false

inductive DeliverGate
  | skip | blockSuperseded | expired | fence | submit

def deliverChecks : Except DeliveryError DeliverGate :=
  match db.actions.get row.actionId with
  | none => .ok .fence
  | some action =>
    if action.executionOwner.isNone then .ok .fence
    else if !env.fenceOpen then .ok .fence
    else if !isActiveHeadForDelivery db row then .ok .blockSuperseded
    else if !actionStillApprovedForDelivery action then .ok .fence
    else match env.precheck with
      | .error error => .error error
      | .ok () =>
        if alreadyAnswered row.latestWritebackStatus then .ok .skip
        else if !(receiptsOf db id).isEmpty then .ok .skip
        else .ok .submit

section

variable (now : Time) (submitted : Receipt)

/-- The code above the submit, in the order of its checks. -/
def deliverGate (env : DeliveryEnv) : Except DeliveryError DeliverGate :=
  if row.supersededByDispositionId.isSome then .ok .blockSuperseded
  else match row.deliveryStatus with
    | .paused | .delivered | .deadLetter => .ok .skip
    | .leased =>
      if row.lockedBy ≠ some (.worker worker) then .ok .skip
      else if leaseExpired row now then .ok .expired
      else deliverChecks db id row env
    | .ready | .waitingRetry => deliverChecks db id row env

def submissionReceipts : List Receipt :=
  if row.intentKind = .eventStatusUpdate ∧ env.supportsReadback = true then
    match env.readback with
    | .receipt confirmed => [submitted, confirmed]
    | .nothing | .raised => [submitted]
  else [submitted]

def finalReceipt : Receipt :=
  (submissionReceipts row env submitted).getLast?.getD submitted

/-- The row after a submission with a receipt: `paused` when the outcome is unknown. -/
def submittedRow (receipt : Receipt) : Except TransitionError OutboxRow :=
  if receipt.status = .unknown then
    pauseAfterUnknownSubmission (withStatus row receipt.status) .submissionUnknown
  else .ok { withStatus row receipt.status with deliveryStatus := .delivered }

/-- The code below the submit. -/
def recordSubmission : Except TransitionError Db := do
  let receipt := finalReceipt row env submitted
  let recorded := (submissionReceipts row env submitted).foldl
    (fun stored received => appendReceipt stored id received) db
  let written ← submittedRow row receipt
  let stored := { recorded with outboxes := recorded.outboxes.set id written }
  applyReceiptExecutionProjection (mirrorWritebackStatus stored row.actionId receipt.status) row
    receipt

def raiseTransition {α : Type} : Except TransitionError α → Except DeliveryError α
  | .ok value => .ok value
  | .error error => .error (.transition error)

def deliverSubmit : Except DeliveryError Db :=
  match env.submit with
  | .raised error => .error error
  | .receipt submitted => do
    let after ← raiseTransition (recordSubmission db id row env submitted)
    match env.lateError with
    | some error => .error error
    | none => .ok after

def deliverOutbox (env : DeliveryEnv) : Tx DeliveryError Db AdapterCall :=
  match db.outboxes.get id with
  | none => { outcome := .ok db, calls := [] }
  | some row =>
    let store (written : Except TransitionError OutboxRow) : Except DeliveryError Db := do
      let written ← raiseTransition written
      return { db with outboxes := db.outboxes.set id written }
    match deliverGate db id row worker now env with
    | .error error => { outcome := .error error, calls := [] }
    | .ok .skip => { outcome := .ok db, calls := [] }
    | .ok .blockSuperseded => { outcome := store (blockSupersededOutbox row), calls := [] }
    | .ok .expired => { outcome := store (releaseAfterLeaseExpiry row), calls := [] }
    | .ok .fence => { outcome := store (blockOutboxForWritebackFence row), calls := [] }
    | .ok .submit => { outcome := deliverSubmit db id row env, calls := [.submit id] }

/-! ### When a delivery submits -/

/-- The rows that a delivery submits. -/
structure Deliverable : Prop where
  current : row.supersededByDispositionId = none
  open_ : row.deliveryStatus = .ready ∨ row.deliveryStatus = .waitingRetry ∨
    (row.deliveryStatus = .leased ∧ row.lockedBy = some (.worker worker) ∧
      leaseExpired row now = false)
  unanswered : alreadyAnswered row.latestWritebackStatus = false
  silent : receiptsOf db id = []

end

end

variable {db : Db} {id : OutboxId} {row : OutboxRow} {env : DeliveryEnv}

theorem deliverChecks_submit (submits : deliverChecks db id row env = .ok .submit) :
    alreadyAnswered row.latestWritebackStatus = false ∧ receiptsOf db id = [] := by
  unfold deliverChecks at submits
  iterate 7
    split at submits
    · cases submits
  rename_i unanswered
  split at submits
  · cases submits
  · rename_i silent
    exact ⟨by simpa using unanswered, by simpa using silent⟩

theorem deliverGate_submit {worker : WorkerId} {now : Time}
    (submits : deliverGate db id row worker now env = .ok .submit) :
    Deliverable db id row worker now := by
  unfold deliverGate at submits
  split at submits
  · cases submits
  rename_i current
  have current : row.supersededByDispositionId = none := by simpa using current
  split at submits
  · cases submits
  · cases submits
  · cases submits
  · rename_i leased
    split at submits
    · cases submits
    rename_i mine
    split at submits
    · cases submits
    rename_i fresh
    have checks := deliverChecks_submit submits
    refine ⟨current, .inr (.inr ⟨leased, ?_, by simpa using fresh⟩), checks.1, checks.2⟩
    simpa using mine
  · rename_i ready
    have checks := deliverChecks_submit submits
    exact ⟨current, .inl ready, checks.1, checks.2⟩
  · rename_i waiting
    have checks := deliverChecks_submit submits
    exact ⟨current, .inr (.inl waiting), checks.1, checks.2⟩

/-! ### What a delivery commits -/

variable {written : OutboxRow} {receipt : Receipt}

theorem submittedRow_cases {worker : WorkerId} {now : Time}
    (deliverable : Deliverable db id row worker now)
    (done : submittedRow row receipt = .ok written) :
    receipt.status ≠ .unknown
        ∧ written = { withStatus row receipt.status with deliveryStatus := .delivered }
      ∨ receipt.status = .unknown ∧ row.deliveryStatus = .leased
        ∧ written = { unlock (withStatus row receipt.status) with
          lastErrorCode := some .submissionUnknown, deliveryStatus := .paused } := by
  unfold submittedRow at done
  split at done
  · rename_i unknown
    have same : (withStatus row receipt.status).deliveryStatus = row.deliveryStatus := rfl
    -- only a claimed row can be paused: the validator refuses a queued one
    obtain queued | ⟨leased, -⟩ := or_assoc.mpr deliverable.open_
    · rw [pauseAfterUnknownSubmission_queued _ (same ▸ queued)] at done
      cases done
    · rw [pauseAfterUnknownSubmission_leased _ (same.trans leased)] at done
      exact .inr ⟨unknown, leased, eq_of_ok done⟩
  · rename_i definite
    exact .inl ⟨definite, eq_of_ok done⟩

theorem foldl_appendReceipt_eq (receipts : List Receipt) (db : Db) (id : OutboxId) :
    ∃ table, receipts.foldl (fun stored => appendReceipt stored id) db
        = { db with receipts := table }
      ∧ ∀ other, other ≠ id → table.get other = db.receipts.get other := by
  induction receipts generalizing db with
  | nil => exact ⟨_, rfl, fun _ _ => rfl⟩
  | cons receipt _ ih =>
    obtain ⟨table, same, others⟩ := ih (appendReceipt db id receipt)
    exact ⟨table, same, fun other apart => (others other apart).trans (Table.get_set_ne apart)⟩

theorem raiseTransition_eq_ok {α : Type} {result : Except TransitionError α} {value : α} :
    raiseTransition result = .ok value ↔ result = .ok value := by
  cases result <;> simp [raiseTransition]

theorem deliverSubmit_eq_ok {after : Db} (done : deliverSubmit db id row env = .ok after) :
    ∃ submitted written receipts entityPending, env.submit = .receipt submitted
      ∧ submittedRow row (finalReceipt row env submitted) = .ok written
      ∧ (∀ other, other ≠ id → receipts.get other = db.receipts.get other)
      ∧ projectReceipt (mirrorWritebackStatus
          { db with outboxes := db.outboxes.set id written, receipts } row.actionId
          (finalReceipt row env submitted).status) row.actionId (finalReceipt row env submitted)
          entityPending = .ok after := by
  unfold deliverSubmit at done
  split at done
  · cases done
  rename_i submitted answered
  obtain ⟨recorded, stored, done⟩ := bind_eq_ok.mp done
  split at done
  · cases done
  cases done
  obtain ⟨written, wrote, projected⟩ := bind_eq_ok.mp (raiseTransition_eq_ok.mp stored)
  obtain ⟨receipts, appended, others⟩ :=
    foldl_appendReceipt_eq (submissionReceipts row env submitted) db id
  rw [appended] at projected
  exact ⟨submitted, written, receipts, _, answered, wrote, others, projected⟩

/-- **A submission that commits leaves the queue**: delivered, or paused for a lookup. -/
theorem submittedRow_quiet {worker : WorkerId} {now : Time}
    (deliverable : Deliverable db id row worker now)
    (done : submittedRow row receipt = .ok written) :
    QuietStep row written ∧ ¬ Sendable written.deliveryStatus := by
  have open_ : ¬ Settled row.deliveryStatus := by
    rcases deliverable.open_ with status | status | ⟨status, -⟩ <;> rw [status] <;> simp
  rcases submittedRow_cases deliverable done with ⟨-, rfl⟩ | ⟨unknown, leased, rfl⟩
  · exact ⟨quiet_of_settled (.of_move rfl (.answer _ _ _ _ open_)) settled_delivered,
      by simp [Sendable]⟩
  have paused := Move.pause row.deliveryStatus row.latestWritebackStatus
    row.supersededByDispositionId.isSome (.inl leased)
  refine ⟨quiet_of_paused (.of_move rfl ?_) rfl rfl, by simp [Sendable]⟩
  simpa [OutboxRow.state, unlock, withStatus, unknown] using paused

/-- **What a delivery attempt sends**: nothing, or one submit for a row it may deliver. -/
theorem deliverOutbox_calls (db : Db) (id : OutboxId) (worker : WorkerId) (now : Time)
    (env : DeliveryEnv) :
    (deliverOutbox db id worker now env).calls = [] ∨
    ((deliverOutbox db id worker now env).calls = [.submit id] ∧
      ∃ row, db.outboxes.get id = some row ∧ Deliverable db id row worker now ∧
        (deliverOutbox db id worker now env).outcome = deliverSubmit db id row env) := by
  unfold deliverOutbox
  split
  · exact .inl rfl
  rename_i row found
  split
  iterate 5 exact .inl rfl
  · rename_i submits
    exact .inr ⟨rfl, row, found, deliverGate_submit submits, rfl⟩

def defaultLeaseSeconds : Nat := 30

/-! ### Claiming -/

variable (db : Db) (id : OutboxId) (row : OutboxRow)

def retryDue (now : Time) : Bool :=
  match row.nextRetryAt with
  | none => true
  | some due => decide (due ≤ now)

def claimable (now : Time) : Bool :=
  row.supersededByDispositionId.isNone && match row.deliveryStatus with
    | .ready | .waitingRetry => retryDue row now
    | .leased => leaseExpired row now
    | .paused | .delivered | .deadLetter => false

def leasedRow (worker : WorkerId) (now : Time) : OutboxRow :=
  { row with
    deliveryStatus := .leased
    lockedBy := some (.worker worker)
    leaseExpiresAt := some (now + defaultLeaseSeconds) }

structure ClaimArgs where
  worker : WorkerId
  now : Time
  backoff : Nat

variable (args : ClaimArgs)

def datedRetry : OutboxRow :=
  { row with nextRetryAt := some (args.now + args.backoff) }

/-- What `_claim_batch` does with one selected row; the flag says whether it was claimed. -/
def claimOne : Except TransitionError (Db × Bool) :=
  if row.deliveryStatus = .waitingRetry ∧ row.nextRetryAt = none then
    .ok ({ db with outboxes := db.outboxes.set id (datedRetry row args) }, false)
  else if row.deliveryStatus = .leased then do
    let released ← releaseAfterLeaseExpiry row
    let stored := { db with outboxes := db.outboxes.set id released }
    return (mirrorWritebackStatus stored row.actionId .unknown, false)
  else do
    validateOutboxDeliveryTransition row.deliveryStatus .leased
    return ({ db with outboxes := db.outboxes.set id (leasedRow row args.worker args.now) }, true)

def claimRow (state : Db × List OutboxId) (id : OutboxId) :
    Except TransitionError (Db × List OutboxId) :=
  match state.1.outboxes.get id with
  | none => .ok state
  | some row =>
    if claimable row args.now then do
      let claimed ← claimOne state.1 id row args
      return (claimed.1, if claimed.2 then state.2 ++ [id] else state.2)
    else .ok state

/-- `_claim_batch`. The rows the query returns (its order, its limit and the rows it skips because
they are locked) are the caller's choice; each row is returned once. -/
def claimBatch (ids : List OutboxId) : Except TransitionError (Db × List OutboxId) :=
  ids.dedup.foldlM (claimRow args) (db, [])

theorem leasedRow_step {row : OutboxRow} (worker : WorkerId) (now : Time)
    (current : row.supersededByDispositionId = none)
    (queued : row.deliveryStatus = .ready ∨ row.deliveryStatus = .waitingRetry) :
    RowStep row (leasedRow row worker now) := by
  have move := Move.claim row.deliveryStatus row.latestWritebackStatus queued
  refine .of_move rfl ?_
  simpa [OutboxRow.state, leasedRow, current] using move

/-! ### Marking a failed delivery -/

def onLeased (mark : OutboxRow → Except TransitionError Db) : Except TransitionError Db :=
  match db.outboxes.get id with
  | none => .ok db
  | some row => if row.deliveryStatus = .leased then mark row else .ok db

def markDeliveryDeadLetter (code : OutboxErrorCode) : Except TransitionError Db :=
  onLeased db id fun row => do
    let released ← releaseLeasedToDeadLetter row code
    return { db with outboxes := db.outboxes.set id released }

def rejectedRow (code : OutboxErrorCode) : OutboxRow :=
  { unlock (withStatus row .failed) with lastErrorCode := some code, deliveryStatus := .deadLetter }

def applyDeterministicRejection (code : OutboxErrorCode) : Except TransitionError Db := do
  validateOutboxDeliveryTransition row.deliveryStatus .deadLetter
  let stored := { db with outboxes := db.outboxes.set id (rejectedRow row code) }
  let recorded := appendReceipt stored id (localReceipt .failed)
  projectReceipt (mirrorWritebackStatus recorded row.actionId .failed) row.actionId
    (localReceipt .failed) false

def markDeliveryDeterministicRejection (code : OutboxErrorCode) : Except TransitionError Db :=
  onLeased db id fun row => applyDeterministicRejection db id row code

def conflictRow (code : OutboxErrorCode) : OutboxRow :=
  { unlock (withStatus row .conflict) with
    lastErrorCode := some code, deliveryStatus := .delivered }

def markDeliveryConflict (code : OutboxErrorCode) : Except TransitionError Db :=
  onLeased db id fun row => do
    validateOutboxDeliveryTransition row.deliveryStatus .delivered
    let stored := { db with outboxes := db.outboxes.set id (conflictRow row code) }
    let recorded := appendReceipt stored id (localReceipt .conflict)
    projectReceipt (mirrorWritebackStatus recorded row.actionId .conflict) row.actionId
      (localReceipt .conflict) false

def markDeliveryPausedUnknown : Except TransitionError Db :=
  onLeased db id fun row => do
    let paused ← pauseAfterUnknownSubmission (withStatus row .unknown) .deliveryOutcomeUnknown
    let stored := { db with outboxes := db.outboxes.set id paused }
    let recorded := appendReceipt stored id (localReceipt .unknown)
    return mirrorWritebackStatus recorded row.actionId .unknown

def DeliveryError.code : DeliveryError → OutboxErrorCode
  | .guardrail => .guardrailBlocked
  | .conflict code | .unsupported code | .validation code => .adapter code
  | .transition _ | .other => .deliveryOutcomeUnknown

def markDelivery (error : DeliveryError) : Except TransitionError Db :=
  match error.kind with
  | .guardrail => markDeliveryDeadLetter db id .guardrailBlocked
  | .conflict => markDeliveryConflict db id error.code
  | .deterministicRejection => markDeliveryDeterministicRejection db id error.code
  | .ambiguousOutcome => markDeliveryPausedUnknown db id

end ShadowTrace.Sync
