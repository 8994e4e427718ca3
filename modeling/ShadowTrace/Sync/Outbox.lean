/-
**What the synchronisation service writes into one outbox row**
(`app/services/disposition_sync_service.py`).

The private helpers that rewrite a locked `DispositionOutbox` row, each as a function on the row.
A helper that validates its delivery move returns the validator's error.
-/

import ShadowTrace.Db.Rows
import ShadowTrace.Models.Workflow

namespace ShadowTrace.Sync

/-- A delivery that is over: nothing in the queue will pick the row up again. -/
def Settled (delivery : OutboxDeliveryStatus) : Prop :=
  delivery = .delivered ∨ delivery = .deadLetter

instance (delivery : OutboxDeliveryStatus) : Decidable (Settled delivery) :=
  inferInstanceAs (Decidable (_ ∨ _))

@[simp] theorem settled_delivered : Settled .delivered := .inl rfl
@[simp] theorem settled_deadLetter : Settled .deadLetter := .inr rfl
@[simp] theorem not_settled_ready : ¬ Settled .ready := by decide
@[simp] theorem not_settled_leased : ¬ Settled .leased := by decide
@[simp] theorem not_settled_waitingRetry : ¬ Settled .waitingRetry := by decide
@[simp] theorem not_settled_paused : ¬ Settled .paused := by decide

section

variable (row : OutboxRow)

def unlock : OutboxRow :=
  { row with lockedBy := none, leaseExpiresAt := none, nextRetryAt := none }

def withStatus (status : WritebackStatus) : OutboxRow :=
  { row with latestWritebackStatus := some status }

def leaseExpired (now : Time) : Bool :=
  match row.leaseExpiresAt with
  | none => true
  | some expires => decide (expires ≤ now)

def finalizeSupersededHead (head : OutboxRow) (by_ : DispositionId) :
    Except TransitionError OutboxRow :=
  let marked := { head with supersededByDispositionId := some by_ }
  match head.deliveryStatus with
  | .delivered | .deadLetter => .ok marked
  | current => do
    validateOutboxDeliveryTransition current .deadLetter
    return { unlock marked with
      lastErrorCode := some .supersededByNewHead
      deliveryStatus := .deadLetter }

def releaseLeasedToDeadLetter (code : OutboxErrorCode) : Except TransitionError OutboxRow :=
  match row.deliveryStatus with
  | .leased => do
    validateOutboxDeliveryTransition .leased .deadLetter
    return { unlock row with lastErrorCode := some code, deliveryStatus := .deadLetter }
  | _ => .ok row

def blockSupersededOutbox : Except TransitionError OutboxRow :=
  let marked := { row with lastErrorCode := some .supersededByNewHead, nextRetryAt := none }
  match row.deliveryStatus with
  | .leased => releaseLeasedToDeadLetter row .supersededByNewHead
  | .deadLetter => .ok marked
  | current => do
    validateOutboxDeliveryTransition current .deadLetter
    return { marked with deliveryStatus := .deadLetter }

def blockOutboxForWritebackFence : Except TransitionError OutboxRow :=
  match row.deliveryStatus with
  | .leased => releaseLeasedToDeadLetter row .writebackFenceBlocked
  | current => do
    validateOutboxDeliveryTransition current .deadLetter
    return { row with
      lastErrorCode := some .writebackFenceBlocked
      nextRetryAt := none
      deliveryStatus := .deadLetter }

def releaseAfterLeaseExpiry : Except TransitionError OutboxRow :=
  match row.deliveryStatus with
  | .leased => do
    validateOutboxDeliveryTransition .leased .paused { leaseExpiredResend := true }
    return { unlock row with
      lastErrorCode := some .leaseExpired
      latestWritebackStatus := some .unknown
      deliveryStatus := .paused }
  | _ => .ok row

/-- `_pause_outbox_after_unknown_submission`. The helper admits `ready` and `waitingRetry`, the
table it validates against has no edge from either to `paused`. -/
def pauseAfterUnknownSubmission (code : OutboxErrorCode) : Except TransitionError OutboxRow :=
  match row.deliveryStatus with
  | .ready | .leased | .waitingRetry => do
    validateOutboxDeliveryTransition row.deliveryStatus .paused
    return { unlock row with lastErrorCode := some code, deliveryStatus := .paused }
  | _ => .ok row

end

/-! ### What each helper does, by the status it starts from -/

variable {row : OutboxRow}

theorem finalizeSupersededHead_cases {head : OutboxRow} {by_ : DispositionId}
    (done : finalizeSupersededHead head by_ = .ok row) :
    (Settled head.deliveryStatus ∧ row = { head with supersededByDispositionId := some by_ }) ∨
    (¬ Settled head.deliveryStatus ∧
      row = { unlock { head with supersededByDispositionId := some by_ } with
        lastErrorCode := some .supersededByNewHead, deliveryStatus := .deadLetter }) := by
  unfold finalizeSupersededHead at done
  cases status : head.deliveryStatus <;> simp only [status] at done
  case delivered => exact .inl ⟨.inl rfl, (Except.ok.inj done).symm⟩
  case deadLetter => exact .inl ⟨.inr rfl, (Except.ok.inj done).symm⟩
  all_goals exact .inr ⟨by decide, (Except.ok.inj done).symm⟩

theorem releaseAfterLeaseExpiry_leased (leased : row.deliveryStatus = .leased) :
    releaseAfterLeaseExpiry row
      = .ok { unlock row with
          lastErrorCode := some .leaseExpired
          latestWritebackStatus := some .unknown
          deliveryStatus := .paused } := by
  unfold releaseAfterLeaseExpiry
  rw [leased]
  rfl

theorem pauseAfterUnknownSubmission_leased (code : OutboxErrorCode)
    (leased : row.deliveryStatus = .leased) :
    pauseAfterUnknownSubmission row code
      = .ok { unlock row with lastErrorCode := some code, deliveryStatus := .paused } := by
  unfold pauseAfterUnknownSubmission
  rw [leased]
  rfl

/-- **The pause that cannot happen**: an unknown submission made straight from the queue raises. -/
theorem pauseAfterUnknownSubmission_queued (code : OutboxErrorCode)
    (queued : row.deliveryStatus = .ready ∨ row.deliveryStatus = .waitingRetry) :
    pauseAfterUnknownSubmission row code
      = .error (.illegalDelivery row.deliveryStatus .paused) := by
  unfold pauseAfterUnknownSubmission
  rcases queued with queued | queued <;> rw [queued] <;> rfl

end ShadowTrace.Sync
