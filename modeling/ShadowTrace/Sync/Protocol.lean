/-
**The outbox protocol, abstractly.**

What an outbox row is for, without locks, leases, clocks or error codes.

`Confirmed` and `superseded` are absorbing. The operations of the service refine this protocol row
by row (`RowStep`); most are quiet as well (`QuietStep`): they never put a row where a worker could
send it.
-/

import ShadowTrace.Sync.Outbox

namespace ShadowTrace.Sync

/-- What the protocol sees of an outbox row. -/
structure RowState where
  delivery : OutboxDeliveryStatus
  status : Option WritebackStatus
  superseded : Bool

/-- Every change an operation of the service may commit to a row. -/
inductive Move : RowState → RowState → Prop
  /-- A newer command of the slot takes over; an undelivered head is terminated. -/
  | supersede (delivery : OutboxDeliveryStatus) (status : Option WritebackStatus) :
      Move ⟨delivery, status, false⟩
        ⟨if Settled delivery then delivery else .deadLetter, status, true⟩
  | claim (delivery : OutboxDeliveryStatus) (status : Option WritebackStatus)
      (queued : delivery = .ready ∨ delivery = .waitingRetry) :
      Move ⟨delivery, status, false⟩ ⟨.leased, status, false⟩
  /-- Guard, fence or lineage stop the row before the adapter is called. -/
  | block (delivery : OutboxDeliveryStatus) (status : Option WritebackStatus) (superseded : Bool)
      (undelivered : delivery ≠ .delivered) :
      Move ⟨delivery, status, superseded⟩ ⟨.deadLetter, status, superseded⟩
  | answer (delivery : OutboxDeliveryStatus) (status : Option WritebackStatus) (superseded : Bool)
      (received : WritebackStatus) (open_ : ¬ Settled delivery) :
      Move ⟨delivery, status, superseded⟩ ⟨.delivered, some received, superseded⟩
  | pause (delivery : OutboxDeliveryStatus) (status : Option WritebackStatus) (superseded : Bool)
      (open_ : delivery = .leased ∨ delivery = .paused) :
      Move ⟨delivery, status, superseded⟩ ⟨.paused, some .unknown, superseded⟩
  | reject (delivery : OutboxDeliveryStatus) (status : Option WritebackStatus) (superseded : Bool)
      (open_ : ¬ Settled delivery) :
      Move ⟨delivery, status, superseded⟩ ⟨.deadLetter, some .failed, superseded⟩
  | requeue (status : Option WritebackStatus) (unconfirmed : status ≠ some .confirmed) :
      Move ⟨.paused, status, false⟩ ⟨.ready, some .pending, false⟩
  | reopen (delivery : OutboxDeliveryStatus) (status : Option WritebackStatus)
      (settled : Settled delivery) (unconfirmed : status ≠ some .confirmed) :
      Move ⟨delivery, status, false⟩ ⟨.paused, status, false⟩
  | correct (delivery next : OutboxDeliveryStatus) (status : Option WritebackStatus)
      (superseded : Bool) (received : WritebackStatus) (unconfirmed : status ≠ some .confirmed)
      (ends : next = .delivered ∨ (next = delivery ∧ (received = .confirmed → Settled delivery))) :
      Move ⟨delivery, status, superseded⟩ ⟨next, some received, superseded⟩

def Moves : RowState → RowState → Prop := Relation.ReflTransGen Move

/-- What all moves keep: a confirmed writeback sits in a settled row, where no path that overwrites
the status can start; a superseded row is settled, and stays so; a delivered row has a status. -/
structure Sound (state : RowState) : Prop where
  confirmed : state.status = some .confirmed → Settled state.delivery
  superseded : state.superseded = true → Settled state.delivery
  delivered : state.delivery = .delivered → state.status ≠ none

theorem settled_ite (delivery : OutboxDeliveryStatus) :
    Settled (if Settled delivery then delivery else .deadLetter) := by
  by_cases settled : Settled delivery
  · rw [if_pos settled]
    exact settled
  · rw [if_neg settled]
    exact .inr rfl

variable {before after : RowState}

theorem Move.sound (move : Move before after) (sound : Sound before) : Sound after := by
  cases move with
  | supersede delivery =>
    refine ⟨fun _ => settled_ite delivery, fun _ => settled_ite delivery, fun ends => ?_⟩
    by_cases settled : Settled delivery
    · rw [if_pos settled] at ends
      exact sound.delivered ends
    · rw [if_neg settled] at ends
      cases ends
  | claim delivery _ queued =>
    refine ⟨fun confirmed => ?_, nofun, nofun⟩
    have settled : Settled delivery := sound.confirmed confirmed
    rcases queued with rfl | rfl <;> simp at settled
  | block | reject => exact ⟨fun _ => .inr rfl, fun _ => .inr rfl, nofun⟩
  | answer => exact ⟨fun _ => .inl rfl, fun _ => .inl rfl, fun _ => nofun⟩
  | pause delivery _ _ open_ =>
    refine ⟨nofun, fun stale => ?_, nofun⟩
    have settled : Settled delivery := sound.superseded stale
    rcases open_ with rfl | rfl <;> simp at settled
  | requeue => exact ⟨nofun, nofun, nofun⟩
  | reopen _ _ _ unconfirmed =>
    exact ⟨fun confirmed => absurd confirmed unconfirmed, nofun, nofun⟩
  | correct _ _ _ _ _ _ ends =>
    refine ⟨fun confirmed => ?_, fun stale => ?_, fun _ => nofun⟩
    · rcases ends with rfl | ⟨rfl, settled⟩
      · exact .inl rfl
      · exact settled (Option.some.inj confirmed)
    · rcases ends with rfl | ⟨rfl, -⟩
      · exact .inl rfl
      · exact sound.superseded stale

theorem Move.confirmed (move : Move before after) (sound : Sound before)
    (confirmed : before.status = some .confirmed) : after.status = some .confirmed := by
  have settled := sound.confirmed confirmed
  cases move with
  | supersede | claim | block | reopen => exact confirmed
  | answer _ _ _ _ open_ | reject _ _ _ open_ => exact absurd settled open_
  | pause _ _ _ open_ => rcases open_ with rfl | rfl <;> simp at settled
  | requeue _ unconfirmed | correct _ _ _ _ _ unconfirmed => exact absurd confirmed unconfirmed

theorem Move.superseded (move : Move before after) (stale : before.superseded = true) :
    after.superseded = true := by
  cases move <;> first | exact stale | rfl

theorem Moves.sound (moves : Moves before after) (sound : Sound before) : Sound after := by
  induction moves with
  | refl => exact sound
  | tail _ move ih => exact move.sound ih

theorem Moves.confirmed (moves : Moves before after) (sound : Sound before)
    (confirmed : before.status = some .confirmed) : after.status = some .confirmed := by
  induction moves with
  | refl => exact confirmed
  | tail earlier move ih => exact move.confirmed (Moves.sound earlier sound) ih

theorem Moves.superseded (moves : Moves before after) (stale : before.superseded = true) :
    after.superseded = true := by
  induction moves with
  | refl => exact stale
  | tail _ move ih => exact move.superseded ih

/-! ### From rows to tables -/

section

variable (before after : OutboxRow) (row : OutboxRow)

def OutboxRow.state : RowState :=
  { delivery := row.deliveryStatus
    status := row.latestWritebackStatus
    superseded := row.supersededByDispositionId.isSome }

/-- The columns of a row that are never rewritten. -/
def OutboxRow.frozen : OutboxRow :=
  { row with
    supersededByDispositionId := none, deliveryStatus := .ready, latestWritebackStatus := none
    attempt := 0, nextRetryAt := none, lockedBy := none, leaseExpiresAt := none
    lastErrorCode := none }

/-- A committed change of a row: its command stays, its state moves. -/
structure RowStep : Prop where
  frozen : OutboxRow.frozen after = OutboxRow.frozen before
  moves : Moves (OutboxRow.state before) (OutboxRow.state after)

def FreshRow : Prop := OutboxRow.state row = ⟨.ready, none, false⟩

theorem RowStep.refl : RowStep row row := ⟨rfl, .refl⟩

theorem RowStep.trans {first second third : OutboxRow} (one : RowStep first second)
    (two : RowStep second third) : RowStep first third :=
  ⟨two.frozen.trans one.frozen, Relation.ReflTransGen.trans one.moves two.moves⟩

theorem RowStep.kind {row next : OutboxRow} (step : RowStep row next) :
    next.intentKind = row.intentKind := by
  have same := congrArg OutboxRow.intentKind step.frozen
  exact same

theorem RowStep.action {row next : OutboxRow} (step : RowStep row next) :
    next.actionId = row.actionId := by
  have kept := congrArg OutboxRow.actionId step.frozen
  exact kept

theorem RowStep.disposition {row next : OutboxRow} (step : RowStep row next) :
    next.dispositionId = row.dispositionId := by
  have kept := congrArg OutboxRow.dispositionId step.frozen
  exact kept

theorem RowStep.place {row next : OutboxRow} (step : RowStep row next) :
    next.eventId = row.eventId ∧ next.closureCycle = row.closureCycle
      ∧ next.logicalSlot = row.logicalSlot := by
  have event := congrArg OutboxRow.eventId step.frozen
  have cycle := congrArg OutboxRow.closureCycle step.frozen
  have slot := congrArg OutboxRow.logicalSlot step.frozen
  exact ⟨event, cycle, slot⟩

theorem RowStep.of_move {before after : OutboxRow}
    (frozen : OutboxRow.frozen after = OutboxRow.frozen before)
    (move : Move (OutboxRow.state before) (OutboxRow.state after)) : RowStep before after :=
  ⟨frozen, .single move⟩

/-- A worker could still send the row. -/
def Sendable (delivery : OutboxDeliveryStatus) : Prop :=
  delivery = .ready ∨ delivery = .waitingRetry ∨ delivery = .leased

instance (delivery : OutboxDeliveryStatus) : Decidable (Sendable delivery) :=
  inferInstanceAs (Decidable (_ ∨ _))

/-- The row is paused for the lookup with the token. -/
def Held (token : Nat) : Prop :=
  row.deliveryStatus = .paused ∧ row.lockedBy = some (.reconcile token)

/-- **A still change**: a row that can be sent afterwards could be sent before, by the same holder.
-/
structure StillStep : Prop extends RowStep before after where
  still : Sendable after.deliveryStatus →
    after.deliveryStatus = before.deliveryStatus ∧ after.lockedBy = before.lockedBy

/-- **A quiet change** is still, and hands out no reconciliation token. -/
structure QuietStep : Prop extends StillStep before after where
  held : ∀ token, Held after token → Held before token

theorem StillStep.refl : StillStep row row :=
  ⟨RowStep.refl row, fun _ => ⟨rfl, rfl⟩⟩

theorem QuietStep.refl : QuietStep row row :=
  ⟨StillStep.refl row, fun _ held => held⟩

end

theorem RowStep.of_state_eq {before after : OutboxRow}
    (frozen : OutboxRow.frozen after = OutboxRow.frozen before)
    (same : OutboxRow.state after = OutboxRow.state before) : RowStep before after :=
  ⟨frozen, by rw [same]; exact .refl⟩

/-! ### The helpers refine the protocol -/

section

variable {row written : OutboxRow} {code : OutboxErrorCode} {before after : OutboxRow}

theorem still_of_paused (step : RowStep before after) (status : after.deliveryStatus = .paused) :
    StillStep before after :=
  ⟨step, fun sendable => by rw [status] at sendable; simp [Sendable] at sendable⟩

theorem quiet_of_paused (step : RowStep before after) (status : after.deliveryStatus = .paused)
    (released : after.lockedBy = none) : QuietStep before after :=
  ⟨still_of_paused step status, fun token held => by rw [held.2] at released; cases released⟩

theorem quiet_of_settled (step : RowStep before after) (settled : Settled after.deliveryStatus) :
    QuietStep before after := by
  refine ⟨⟨step, fun sendable => ?_⟩, fun token held => ?_⟩
  · rcases settled with status | status <;> rw [status] at sendable <;>
      simp [Sendable] at sendable
  · rw [held.1] at settled
    simp at settled

theorem finalizeSupersededHead_quiet {by_ : DispositionId}
    (active : row.supersededByDispositionId = none)
    (done : finalizeSupersededHead row by_ = .ok written) : QuietStep row written := by
  have move := Move.supersede row.deliveryStatus row.latestWritebackStatus
  rcases finalizeSupersededHead_cases done with ⟨settled, rfl⟩ | ⟨live, rfl⟩
  · rw [if_pos settled] at move
    refine quiet_of_settled (.of_move rfl ?_) settled
    simpa [OutboxRow.state, active] using move
  · rw [if_neg live] at move
    refine quiet_of_settled (.of_move rfl ?_) settled_deadLetter
    simpa [OutboxRow.state, active, unlock] using move

/-- **A helper that stops a row** leaves it as it is, or makes a dead letter of a row that was not
delivered. -/
inductive Stops (row : OutboxRow) : OutboxRow → Prop
  | kept : Stops row row
  | ended (code : OutboxErrorCode) (lock : Option LockHolder) (expiry : Option Time)
      (undelivered : row.deliveryStatus ≠ .delivered) :
      Stops row { row with
        lastErrorCode := some code, nextRetryAt := none, lockedBy := lock
        leaseExpiresAt := expiry, deliveryStatus := .deadLetter }

theorem Stops.quiet (stops : Stops row written) : QuietStep row written := by
  cases stops with
  | kept => exact .refl row
  | ended _ _ _ undelivered =>
    have move := Move.block row.deliveryStatus row.latestWritebackStatus
      row.supersededByDispositionId.isSome undelivered
    exact quiet_of_settled (.of_move rfl move) settled_deadLetter

theorem releaseLeasedToDeadLetter_stops (done : releaseLeasedToDeadLetter row code = .ok written) :
    Stops row written := by
  unfold releaseLeasedToDeadLetter at done
  split at done
  · rename_i leased
    cases done
    exact .ended code none none (by simp [leased])
  · cases done
    exact .kept

theorem blockSupersededOutbox_stops (done : blockSupersededOutbox row = .ok written) :
    Stops row written := by
  unfold blockSupersededOutbox at done
  cases status : row.deliveryStatus <;> simp only [status] at done
  case leased => exact releaseLeasedToDeadLetter_stops done
  case delivered => cases done
  all_goals
    cases done
    exact .ended _ row.lockedBy row.leaseExpiresAt (by simp [status])

theorem blockOutboxForWritebackFence_stops (done : blockOutboxForWritebackFence row = .ok written) :
    Stops row written := by
  unfold blockOutboxForWritebackFence at done
  cases status : row.deliveryStatus <;> simp only [status] at done
  case leased => exact releaseLeasedToDeadLetter_stops done
  case delivered | deadLetter => cases done
  all_goals
    cases done
    exact .ended _ row.lockedBy row.leaseExpiresAt (by simp [status])

theorem releaseAfterLeaseExpiry_quiet (done : releaseAfterLeaseExpiry row = .ok written) :
    QuietStep row written := by
  by_cases leased : row.deliveryStatus = .leased
  · rw [releaseAfterLeaseExpiry_leased leased] at done
    cases done
    exact quiet_of_paused (.of_move rfl (.pause _ _ _ (.inl leased))) rfl rfl
  have kept : releaseAfterLeaseExpiry row = .ok row := by
    unfold releaseAfterLeaseExpiry
    split
    · contradiction
    · rfl
  rw [kept] at done
  cases done
  exact QuietStep.refl row

end

end ShadowTrace.Sync
