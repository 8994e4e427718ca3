/-
**Writeback recovery** (`app/orchestration/writeback_recovery_handler.py`, the handler).

A writeback that verification could not settle is handed to the recovery handler. The handler
decides by its status: wait for a receipt, query the provider, send the same outbox again, or give
it to an operator.

A provider has one answer for each writeback. The status a lookup has found is also written to the
outbox; that write is not part of the model, in which the outboxes are fixed.
-/

import ShadowTrace.Verify.Agent

namespace ShadowTrace.Recovery

/-! ### The decision -/

inductive WritebackRecoveryAction
  | wait | retry | lookup | manual | noop
  deriving DecidableEq

inductive RecoveryReason
  | unknownStatusNeedsLookup | alreadyConfirmed
  | waiting (status : WritebackStatus)
  | lookupAttempt (attempt : Nat)
  | lookupExhausted (count limit : Nat)
  | retryAttempt (attempt : Nat)
  | retryExhausted (count limit : Nat)
  | partialRetry (attempt : Nat)
  | partialExhausted (count limit : Nat)
  | conflictRequiresManual
  | waitingLookupBlocked (status : Option WritebackStatus)
  | waitingRetryBlocked (status : Option WritebackStatus)
  | lookupResolvedTo (status : WritebackStatus)

structure WritebackRecoveryResult where
  action : WritebackRecoveryAction
  writebackId : OutboxId
  writebackStatus : Option WritebackStatus
  reason : RecoveryReason
  lookupAttempt : Nat := 0
  retryAttempt : Nat := 0
  escalated : Bool := false

def maxLookups : Nat := 3

def maxRetries : Nat := 5

structure WritebackState where
  writebackId : OutboxId
  currentStatus : Option WritebackStatus
  lookupCount : Nat
  retryCount : Nat

inductive LookupAnswer
  | answers (status : Option WritebackStatus)
  | raises
  deriving DecidableEq

/-- The provider, with fixed answers. -/
structure SyncPort where
  lookup : OutboxId → LookupAnswer
  retryRaises : OutboxId → Bool

section

variable (port : Option SyncPort) (writeback : WritebackState) (result : WritebackRecoveryResult)

/-- `evaluate`. A writeback without a status is looked up without counting the attempt. -/
def evaluate : WritebackRecoveryResult :=
  let key := writeback.writebackId
  match writeback.currentStatus with
  | none =>
    { action := .lookup, writebackId := key, writebackStatus := none
      reason := .unknownStatusNeedsLookup }
  | some .confirmed =>
    { action := .noop, writebackId := key, writebackStatus := some .confirmed
      reason := .alreadyConfirmed }
  | some .unknown =>
    if writeback.lookupCount < maxLookups then
      { action := .lookup, writebackId := key, writebackStatus := some .unknown
        reason := .lookupAttempt (writeback.lookupCount + 1)
        lookupAttempt := writeback.lookupCount + 1 }
    else
      { action := .manual, writebackId := key, writebackStatus := some .unknown
        reason := .lookupExhausted writeback.lookupCount maxLookups, escalated := true }
  | some .failed =>
    if writeback.retryCount < maxRetries then
      { action := .retry, writebackId := key, writebackStatus := some .failed
        reason := .retryAttempt (writeback.retryCount + 1)
        retryAttempt := writeback.retryCount + 1 }
    else
      { action := .manual, writebackId := key, writebackStatus := some .failed
        reason := .retryExhausted writeback.retryCount maxRetries, escalated := true }
  | some .partialDone =>
    if writeback.retryCount < maxRetries then
      { action := .retry, writebackId := key, writebackStatus := some .partialDone
        reason := .partialRetry (writeback.retryCount + 1)
        retryAttempt := writeback.retryCount + 1 }
    else
      { action := .manual, writebackId := key, writebackStatus := some .partialDone
        reason := .partialExhausted writeback.retryCount maxRetries, escalated := true }
  | some .conflict =>
    { action := .manual, writebackId := key, writebackStatus := some .conflict
      reason := .conflictRequiresManual, escalated := true }
  -- pending, sending and accepted wait for a receipt
  | some status =>
    { action := .wait, writebackId := key, writebackStatus := some status
      reason := .waiting status }

/-! ### Carrying it out -/

def LookupAnswer.resolved : LookupAnswer → Option WritebackStatus
  | .answers (some .unknown) => none
  | .answers status => status
  | .raises => none

def escalate : WritebackRecoveryResult :=
  { action := .manual, writebackId := writeback.writebackId
    writebackStatus := writeback.currentStatus, reason := result.reason, escalated := true }

/-- Without a port: as long as the capability is unknown the handler waits. -/
def withoutPort (readiness : WritebackReadiness) (writeback : WritebackState)
    (result : WritebackRecoveryResult) (blocked : RecoveryReason) : WritebackRecoveryResult :=
  if readiness = .capabilityUnknown then
    { action := .wait, writebackId := writeback.writebackId
      writebackStatus := writeback.currentStatus, reason := blocked
      lookupAttempt := result.lookupAttempt, retryAttempt := result.retryAttempt }
  else escalate writeback result

def afterLookup : WritebackRecoveryResult × WritebackState :=
  (if maxLookups ≤ writeback.lookupCount then escalate writeback result else result, writeback)

/-- `execute` for a lookup. The attempt is taken from the result, which counts none for a writeback
without a status; an exception counts one in any case. -/
def executeLookup (port : SyncPort) (writeback : WritebackState)
    (result : WritebackRecoveryResult) : WritebackRecoveryResult × WritebackState :=
  match (port.lookup writeback.writebackId).resolved, port.lookup writeback.writebackId with
  | some status, _ =>
    ({ action := .noop, writebackId := writeback.writebackId, writebackStatus := some status
       reason := .lookupResolvedTo status, lookupAttempt := result.lookupAttempt }, writeback)
  | none, .answers _ => afterLookup { writeback with lookupCount := result.lookupAttempt } result
  | none, .raises => afterLookup { writeback with lookupCount := writeback.lookupCount + 1 } result

def executeRetry (port : SyncPort) (writeback : WritebackState)
    (result : WritebackRecoveryResult) : WritebackRecoveryResult × WritebackState :=
  if port.retryRaises writeback.writebackId then
    let counted := { writeback with retryCount := writeback.retryCount + 1 }
    (if maxRetries ≤ counted.retryCount then escalate counted result else result, counted)
  else (result, { writeback with retryCount := result.retryAttempt })

def execute (readiness : WritebackReadiness) (writeback : WritebackState) :
    WritebackRecoveryResult × WritebackState :=
  let result := evaluate writeback
  match result.action, port with
  | .lookup, none =>
    (withoutPort readiness writeback result (.waitingLookupBlocked writeback.currentStatus),
      writeback)
  | .lookup, some port => executeLookup port writeback result
  | .retry, none =>
    (withoutPort readiness writeback result (.waitingRetryBlocked writeback.currentStatus),
      writeback)
  | .retry, some port => executeRetry port writeback result
  | .manual, _ => (escalate writeback result, writeback)
  | _, _ => (result, writeback)

/-! ### What it comes to -/

def resolves (key : OutboxId) : Bool :=
  port.any fun port => (port.lookup key).resolved.isSome

/-- The handler has nothing more to do: the writeback is confirmed, or a lookup settles it. -/
def dropped : Bool :=
  match writeback.currentStatus with
  | some .confirmed => true
  | some .unknown =>
    decide (writeback.lookupCount < maxLookups) && resolves port writeback.writebackId
  | none => resolves port writeback.writebackId
  | _ => false

/-- The writeback has no status, and the provider answers that it knows none. -/
def stuck : Bool :=
  writeback.currentStatus.isNone && port.any fun port =>
    port.lookup writeback.writebackId == .answers none
      || port.lookup writeback.writebackId == .answers (some .unknown)

def WritebackState.left : Nat :=
  (maxLookups - writeback.lookupCount) + (maxRetries - writeback.retryCount)

/-- The handler is done: an operator takes over, or a receipt is waited for. -/
def WritebackRecoveryResult.ends : Prop :=
  result.escalated = true ∨ result.action = .wait

def WritebackRecoveryResult.repeats : Prop :=
  result.escalated = false ∧ (result.action = .lookup ∨ result.action = .retry)

end

section Execute

variable {port : Option SyncPort} {service : SyncPort} {readiness : WritebackReadiness}
  {writeback : WritebackState} {result : WritebackRecoveryResult}

/-- What the handler decides, by the status of the writeback. -/
inductive Decided (writeback : WritebackState) (result : WritebackRecoveryResult) : Prop
  | idle (confirmed : writeback.currentStatus = some .confirmed) (action : result.action = .noop)
      (calm : result.escalated = false)
  | waits (action : result.action = .wait)
  | missing (absent : writeback.currentStatus = none) (action : result.action = .lookup)
      (attempt : result.lookupAttempt = 0) (calm : result.escalated = false)
  | unknown (status : writeback.currentStatus = some .unknown)
      (below : writeback.lookupCount < maxLookups) (action : result.action = .lookup)
      (attempt : result.lookupAttempt = writeback.lookupCount + 1)
      (calm : result.escalated = false)
  | retries (status : writeback.currentStatus = some .failed
        ∨ writeback.currentStatus = some .partialDone)
      (below : writeback.retryCount < maxRetries) (action : result.action = .retry)
      (attempt : result.retryAttempt = writeback.retryCount + 1)
      (calm : result.escalated = false)
  | manual (action : result.action = .manual)

theorem evaluate_decided (writeback : WritebackState) :
    Decided writeback (evaluate writeback) := by
  obtain ⟨_, status, lookups, retries⟩ := writeback
  rcases status with _ | status
  · exact .missing rfl rfl rfl rfl
  cases status with
  | confirmed => exact .idle rfl rfl rfl
  | unknown =>
    by_cases below : lookups < maxLookups
    · simp only [evaluate, below]
      exact .unknown rfl below rfl rfl rfl
    · simp only [evaluate, below]
      exact .manual rfl
  | failed | partialDone =>
    by_cases below : retries < maxRetries
    · simp only [evaluate, below]
      exact .retries (by simp) below rfl rfl rfl
    · simp only [evaluate, below]
      exact .manual rfl
  | conflict => exact .manual rfl
  | pending | sending | accepted => exact .waits rfl

theorem resolves_eq_true {key : OutboxId} : resolves port key = true ↔
    ∃ service status, port = some service ∧ (service.lookup key).resolved = some status := by
  cases port with
  | none => simp [resolves]
  | some => simp [resolves, Option.isSome_iff_exists]

theorem execute_lookup (looks : (evaluate writeback).action = .lookup) :
    execute (some service) readiness writeback
      = executeLookup service writeback (evaluate writeback) := by
  simp only [execute, looks]

theorem execute_retry (retries : (evaluate writeback).action = .retry) :
    execute (some service) readiness writeback
      = executeRetry service writeback (evaluate writeback) := by
  simp only [execute, retries]

theorem withoutPort_ends (blocked : RecoveryReason) :
    (withoutPort readiness writeback result blocked).ends := by
  unfold withoutPort
  split_ifs with unknown
  · exact .inr rfl
  · exact .inl rfl

/-- **A dropped writeback.** It needs no action, and the counters stay. -/
theorem execute_of_dropped (readiness : WritebackReadiness)
    (drops : dropped port writeback = true) :
    (execute port readiness writeback).1.action = .noop
      ∧ (execute port readiness writeback).1.escalated = false
      ∧ (execute port readiness writeback).2 = writeback := by
  by_cases confirmed : writeback.currentStatus = some .confirmed
  · simp [execute, evaluate, confirmed]
  obtain ⟨resolved, looks⟩ : resolves port writeback.writebackId = true
      ∧ (evaluate writeback).action = .lookup := by
    unfold dropped at drops
    split at drops
    next known => exact absurd known confirmed
    next unknown =>
      obtain ⟨below, resolved⟩ := Bool.and_eq_true_iff.mp drops
      exact ⟨resolved, by simp [evaluate, unknown, of_decide_eq_true below]⟩
    next missing => exact ⟨drops, by simp [evaluate, missing]⟩
    next => cases drops
  obtain ⟨_, _, rfl, found⟩ := resolves_eq_true.mp resolved
  simp only [execute_lookup looks, executeLookup, found]
  exact ⟨trivial, trivial, trivial⟩

theorem executeLookup_unresolved
    (unresolved : (service.lookup writeback.writebackId).resolved = none) :
    executeLookup service writeback result
      = afterLookup { writeback with
          lookupCount := if service.lookup writeback.writebackId = .raises then
            writeback.lookupCount + 1 else result.lookupAttempt } result := by
  simp only [executeLookup, unresolved]
  cases service.lookup writeback.writebackId with
  | answers | raises => rfl

/-- **A stuck writeback.** It is looked up again, and no lookup is counted. -/
theorem execute_of_stuck (readiness : WritebackReadiness)
    (holds : stuck port writeback = true) :
    (execute port readiness writeback).1.repeats
      ∧ (execute port readiness writeback).2 = { writeback with lookupCount := 0 } := by
  obtain ⟨absent, asks⟩ := Bool.and_eq_true_iff.mp holds
  have absent : writeback.currentStatus = none := Option.isNone_iff_eq_none.mp absent
  rcases port with _ | service
  · cases asks
  have silent : (service.lookup writeback.writebackId).resolved = none
      ∧ service.lookup writeback.writebackId ≠ .raises := by
    rcases (Bool.or_eq_true _ _).mp asks with told | told
    all_goals
      rw [eq_of_beq told]
      exact ⟨rfl, LookupAnswer.noConfusion⟩
  have looks : (evaluate writeback).action = .lookup := by simp [evaluate, absent]
  have attempt : (evaluate writeback).lookupAttempt = 0 := by simp [evaluate, absent]
  have calm : (evaluate writeback).escalated = false := by simp [evaluate, absent]
  rw [execute_lookup looks, executeLookup_unresolved silent.1, if_neg silent.2, attempt]
  exact ⟨⟨calm, Or.inl looks⟩, rfl⟩

/-- What a writeback comes to that is neither dropped nor stuck: the handler is done with it, or has
used up an attempt and finds it as it was. -/
def Advances (port : Option SyncPort) (writeback : WritebackState)
    (done : WritebackRecoveryResult × WritebackState) : Prop :=
  done.1.ends ∨ (done.1.repeats ∧ done.2.left < writeback.left
    ∧ dropped port done.2 = false ∧ stuck port done.2 = false)

theorem dropped_eq_false {counted : WritebackState}
    (same : counted.writebackId = writeback.writebackId
      ∧ counted.currentStatus = writeback.currentStatus)
    (unresolved : resolves port writeback.writebackId = false)
    (open_ : writeback.currentStatus ≠ some .confirmed) : dropped port counted = false := by
  unfold dropped
  rw [same.1, same.2, unresolved]
  split
  next confirmed => exact absurd confirmed open_
  next => rw [Bool.and_false]
  next => rfl
  next => rfl

theorem afterLookup_advances {counted : WritebackState}
    (same : counted.writebackId = writeback.writebackId
      ∧ counted.currentStatus = writeback.currentStatus)
    (retries : counted.retryCount = writeback.retryCount)
    (more : writeback.lookupCount < counted.lookupCount)
    (unresolved : resolves port writeback.writebackId = false)
    (open_ : writeback.currentStatus ≠ some .confirmed) (moves : stuck port writeback = false)
    (looks : result.action = .lookup) (calm : result.escalated = false) :
    Advances port writeback (afterLookup counted result) := by
  by_cases limit : maxLookups ≤ counted.lookupCount
  · refine .inl (.inl ?_)
    simp only [afterLookup, limit]
    rfl
  refine .inr ⟨?_, ?_, dropped_eq_false same unresolved open_, ?_⟩
  · simp only [afterLookup, limit]
    exact ⟨calm, Or.inl looks⟩
  · simp only [afterLookup, WritebackState.left]
    omega
  · simpa only [afterLookup, stuck, same.1, same.2] using moves

theorem executeRetry_advances
    (status : writeback.currentStatus = some .failed ∨ writeback.currentStatus = some .partialDone)
    (below : writeback.retryCount < maxRetries) (retries : result.action = .retry)
    (attempt : result.retryAttempt = writeback.retryCount + 1) (calm : result.escalated = false) :
    Advances port writeback (executeRetry service writeback result) := by
  have waits : ∀ counted : WritebackState, counted.currentStatus = writeback.currentStatus →
      dropped port counted = false ∧ stuck port counted = false := by
    intro _ same
    rcases status with failed | partly
    · simp [dropped, stuck, same, failed]
    · simp [dropped, stuck, same, partly]
  unfold executeRetry
  split_ifs with raises
  · by_cases limit : maxRetries ≤ writeback.retryCount + 1
    · refine .inl (.inl ?_)
      simp only [limit]
      rfl
    · refine .inr ⟨?_, ?_, waits _ rfl⟩
      · simp only [limit]
        exact ⟨calm, Or.inr retries⟩
      · simp only [WritebackState.left]
        omega
  · refine .inr ⟨⟨calm, Or.inr retries⟩, ?_, waits _ rfl⟩
    simp only [WritebackState.left]
    omega

/-- **Every other writeback** comes to an end, or closer to a limit. -/
theorem execute_advances (readiness : WritebackReadiness)
    (kept : dropped port writeback = false) (moves : stuck port writeback = false) :
    Advances port writeback (execute port readiness writeback) := by
  -- a lookup that the provider cannot answer, whether the writeback has a status or not
  have looksUp : ∀ service, port = some service → (evaluate writeback).action = .lookup →
      (evaluate writeback).escalated = false →
      resolves port writeback.writebackId = false →
      writeback.currentStatus ≠ some .confirmed →
      (service.lookup writeback.writebackId ≠ .raises →
        (evaluate writeback).lookupAttempt = writeback.lookupCount + 1) →
      Advances port writeback (execute port readiness writeback) := by
    rintro service rfl looks calm unresolved open_ counts
    have silent : (service.lookup writeback.writebackId).resolved = none :=
      Option.not_isSome_iff_eq_none.mp (by simpa [resolves] using unresolved)
    rw [execute_lookup looks, executeLookup_unresolved silent]
    refine afterLookup_advances ⟨rfl, rfl⟩ rfl ?_ unresolved open_ moves looks calm
    split_ifs with raises
    · exact Nat.lt_succ_self _
    · rw [counts raises]
      exact Nat.lt_succ_self _
  cases evaluate_decided writeback with
  | idle confirmed => simp [dropped, confirmed] at kept
  | waits action => exact .inl (.inr (by simp only [execute, action]))
  | manual action => exact .inl (.inl (by simp only [execute, action]; rfl))
  | missing absent action _ calm =>
    rcases port with _ | service
    · simp only [execute, action]
      exact .inl (withoutPort_ends _)
    have unresolved : resolves (some service) writeback.writebackId = false := by
      simpa [dropped, absent] using kept
    refine looksUp service rfl action calm unresolved (by simp [absent]) fun answers => ?_
    -- an answer that does not settle a writeback without a status keeps it stuck
    rcases told : service.lookup writeback.writebackId with (_ | status) | _
    · simp [stuck, absent, told] at moves
    · cases status with
      | unknown => simp [stuck, absent, told] at moves
      | _ => simp [resolves, told, LookupAnswer.resolved] at unresolved
    · exact absurd told answers
  | unknown status below action attempt calm =>
    rcases port with _ | service
    · simp only [execute, action]
      exact .inl (withoutPort_ends _)
    · have unresolved : resolves (some service) writeback.writebackId = false := by
        simpa [dropped, status, below] using kept
      exact looksUp service rfl action calm unresolved (by simp [status]) fun _ => attempt
  | retries status below action attempt calm =>
    rcases port with _ | service
    · simp only [execute, action]
      exact .inl (withoutPort_ends _)
    · rw [execute_retry action]
      exact executeRetry_advances status below action attempt calm

theorem execute_same (port : Option SyncPort) (readiness : WritebackReadiness)
    (writeback : WritebackState) :
    (execute port readiness writeback).2.writebackId = writeback.writebackId
    ∧ (execute port readiness writeback).2.currentStatus = writeback.currentStatus := by
  simp only [execute]
  split
  · exact ⟨rfl, rfl⟩
  · unfold executeLookup
    split <;> exact ⟨rfl, rfl⟩
  · exact ⟨rfl, rfl⟩
  · unfold executeRetry
    split_ifs <;> exact ⟨rfl, rfl⟩
  · exact ⟨rfl, rfl⟩
  · exact ⟨rfl, rfl⟩

end Execute

end ShadowTrace.Recovery
