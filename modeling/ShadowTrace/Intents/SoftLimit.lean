/-
**The outcome of a soft time limit** (`app/services/soft_time_limit_outcome.py`).

A task that runs too long ends its event and its intent in one transaction. The caller presents the
broker id of its delivery; a caller that does not own the intent is fenced off, unless the intent is
at its end and the event is not, and no other intent of the event is active.
-/

import ShadowTrace.Intents.Ledger
import ShadowTrace.Closure.StateMachine

namespace ShadowTrace.Intents

open Relational Fallible Closure

/-! ### The probe -/

/-- What becomes of a task that ran too long. -/
inductive SoftTimeLimitDecision
  | terminal | recovered | reconcileRequired | ignored
  deriving DecidableEq

/-- Signs that something may have left the system. -/
inductive SideEffectSignal
  | verifyNeedWritebackRecovery
  | verifyPendingWritebackActionIds
  | unknownWriteback (id : OutboxId)
  | unknownWritebackStatus
  | unknownOutboxCount (count : Nat)

def SideEffectSignal.unknown : SideEffectSignal → Bool
  | .verifyNeedWritebackRecovery | .verifyPendingWritebackActionIds => false
  | _ => true

def SideEffectSignal.countsOutboxes : SideEffectSignal → Bool
  | .unknownOutboxCount _ => true
  | _ => false

/-- What the probe finds before the transaction. -/
structure SoftTimeLimitProbe where
  hasCheckpoint : Bool
  checkpointRecoverable : Bool
  sideEffectSignals : List SideEffectSignal
  unknownOutboxCount : Nat

def unknownOutboxes (db : Db) (event : EventId) : List (OutboxId × OutboxRow) :=
  db.outboxes.rows.filter fun entry => entry.2.eventId == event
    && entry.2.supersededByDispositionId.isNone
    && entry.2.latestWritebackStatus == some .unknown

def SoftTimeLimitProbe.refresh (probe : SoftTimeLimitProbe) (locked : Nat) : SoftTimeLimitProbe :=
  if locked = probe.unknownOutboxCount then probe
  else
    let signals := probe.sideEffectSignals.filter fun signal => !signal.countsOutboxes
    { hasCheckpoint := probe.hasCheckpoint
      checkpointRecoverable := probe.checkpointRecoverable && locked == 0
      sideEffectSignals := if locked = 0 then signals else signals ++ [.unknownOutboxCount locked]
      unknownOutboxCount := locked }

/-! ### The decision -/

def sideEffectPhaseStatuses : List EventStatus :=
  [.planningResponse, .waitingApproval, .executingResponse, .verifying, .replanning]

def pureInvestigationStatuses : List EventStatus :=
  [.triaging, .collectingEvidence, .analyzing, .scoring]

section

variable (intent : Option IntentRow) (event : EventStatus) (ledger : Ledger)

def decideSoftTimeLimitOutcome (probe : SoftTimeLimitProbe) (attempt : Option Nat)
    (maxAttempts : Nat) : SoftTimeLimitDecision :=
  if event = .closed then .ignored
  else if event = .failed then .terminal
  else if 0 < probe.unknownOutboxCount ∨ probe.sideEffectSignals.any SideEffectSignal.unknown then
    .reconcileRequired
  else if event ∈ sideEffectPhaseStatuses ∨ probe.sideEffectSignals ≠ [] then .reconcileRequired
  else if event = .contained then .terminal
  else if event ∈ pureInvestigationStatuses ∧ probe.hasCheckpoint = true
      ∧ probe.checkpointRecoverable = true ∧ attempt.any (· + 1 < maxAttempts) then .recovered
  else .terminal

def openAttempt : Option Nat :=
  intent.bind fun row => if row.status ∈ terminalIntentStatuses then none else some row.attempt

/-- `_missing_broker_fence` and `_is_stale_broker_owner`: why a caller may not touch the intent. -/
def fenceReason (broker : Option TaskId) : Option SoftLimitReason :=
  match intent with
  | none => none
  | some row =>
    match row.brokerTaskId, broker with
    | some durable, some presented => if durable = presented then none else some .staleBroker
    | _, _ => some .missingBroker

def orphanTerminalIntent : Bool :=
  decide (event ≠ .failed ∧ event ≠ .closed)
    && intent.any fun row => decide (row.status ∈ terminalIntentStatuses)

def activeIntentStatuses : List InvestigationIntentStatus :=
  [.pending, .claimed, .enqueued, .started, .retry]

def Ledger.hasActiveSiblingIntent (event : EventId) (exclude : Option IntentId) : Bool :=
  ledger.intents.rows.any fun entry => entry.2.eventId == event
    && decide (entry.2.status ∈ activeIntentStatuses) && decide (exclude ≠ some entry.1)

/-- What the transaction will write. -/
inductive SoftLimitPlan
  | keep (decision : SoftTimeLimitDecision) (reason : SoftLimitReason)
  /-- The event is closed; an intent that is still open is made dead. -/
  | heal
  | recover
  | fail (decision : SoftTimeLimitDecision) (reason : SoftLimitReason)

/-- The part of the plan that follows a decision, for a caller that is not fenced off. -/
def ownedPlan : SoftTimeLimitDecision → SoftLimitPlan
  | .ignored => .heal
  | .terminal => .fail .terminal .exceeded
  | .reconcileRequired => .fail .reconcileRequired .reconcileRequired
  | .recovered =>
    match intent with
    | none => .keep .recovered .recovered
    | some row =>
      if row.status ∈ terminalIntentStatuses ∨ row.orchestrationMode = .analysisOnly then
        .fail .terminal .exceeded
      else .recover

/-- What the transaction decides to do. -/
def softLimitPlan (intent : Option IntentRow) (broker : Option TaskId) (probe : SoftTimeLimitProbe)
    (maxAttempts : Nat) (hasSibling : Bool) : SoftLimitPlan :=
  match fenceReason intent broker with
  | some reason =>
    if orphanTerminalIntent intent event ∧ hasSibling = false then
      if decideSoftTimeLimitOutcome event probe none maxAttempts = .reconcileRequired then
        .fail .reconcileRequired .reconcileRequired
      else .fail .terminal .orphanTerminalIntent
    else .keep .ignored reason
  | none =>
    ownedPlan intent (decideSoftTimeLimitOutcome event probe (openAttempt intent) maxAttempts)

/-! ### The transaction -/

/-- A call: the event, the intent and the delivery it speaks for, the probe made before the
transaction, and what the context of a transition is built from. -/
structure SoftLimitCall where
  event : EventId
  intent : Option IntentId
  broker : Option TaskId
  probe : SoftTimeLimitProbe
  journal : EventJournal
  choices : Choices
  isMock : Bool
  now : Time

variable (call : SoftLimitCall)

inductive SoftLimitError
  | intent (error : IntentTransitionError)
  | event (error : StateMachineError)

/-- `SoftTimeLimitOutcomeResult`, without the statuses it repeats from the tables. -/
structure SoftTimeLimitOutcome where
  decision : SoftTimeLimitDecision
  reason : SoftLimitReason

def IntentRow.markDead (reason : SoftLimitReason) (now : Time) (row : IntentRow) :
    Except SoftLimitError IntentRow :=
  if row.status ∈ terminalIntentStatuses then .ok row
  else match validateIntentTransition row.status .dead with
    | .error error => .error (.intent error)
    | .ok _ => .ok { row with
        status := .dead, lastError := some (.softTimeLimit reason), claimOwner := none
        claimExpiresAt := none, updatedAt := now }

def IntentRow.recover (id : IntentId) (now : Time) (row : IntentRow) :
    Except SoftLimitError IntentRow :=
  match validateIntentTransition row.status .retry with
  | .error error => .error (.intent error)
  | .ok _ => .ok { row with
      status := .retry, attempt := row.attempt + 1, revision := row.revision + 1
      lastError := some (.softTimeLimit .exceeded)
      brokerTaskId := some (.derived id (row.revision + 1)), claimOwner := none
      claimExpiresAt := none, updatedAt := now }

def Ledger.onIntent (named : Option IntentId)
    (change : IntentId → IntentRow → Except SoftLimitError IntentRow) :
    Except SoftLimitError Ledger :=
  match named with
  | none => .ok ledger
  | some id =>
    match ledger.intents.get id with
    | none => .ok ledger
    | some row => (change id row).map (ledger.put id)

def Ledger.failEvent : Except SoftLimitError Ledger :=
  match softTimeLimit call.isMock ledger.db call.journal call.event call.choices with
  | .error error => .error (.event error)
  | .ok db => .ok { ledger with db }

def Ledger.named : Option IntentRow :=
  call.intent.bind ledger.intents.get

def Ledger.lockedProbe : SoftTimeLimitProbe :=
  call.probe.refresh (unknownOutboxes ledger.db call.event).length

def Ledger.planOf (cfg : IntentSettings) (ledger : Ledger) (call : SoftLimitCall)
    (status : EventStatus) : SoftLimitPlan :=
  softLimitPlan status (ledger.named call) call.broker (ledger.lockedProbe call)
    cfg.maxAttempts (ledger.hasActiveSiblingIntent call.event call.intent)

def Ledger.execute : SoftLimitPlan → Except SoftLimitError (Ledger × SoftTimeLimitOutcome)
  | .keep decision reason => .ok (ledger, ⟨decision, reason⟩)
  | .heal => do
    let healed ← ledger.onIntent call.intent fun _ => IntentRow.markDead .exceeded call.now
    return (healed, ⟨.ignored, .alreadyTerminal⟩)
  | .recover => do
    let recovered ← ledger.onIntent call.intent fun id => IntentRow.recover id call.now
    return (recovered, ⟨.recovered, .recovered⟩)
  | .fail decision reason => do
    let failed ← ledger.failEvent call
    let marked ← failed.onIntent call.intent fun _ => IntentRow.markDead reason call.now
    return (marked, ⟨decision, reason⟩)

end

/-- Decide, and do it. -/
def applySoftTimeLimitOutcome (cfg : IntentSettings) (ledger : Ledger)
    (call : SoftLimitCall) : Except SoftLimitError (Ledger × SoftTimeLimitOutcome) :=
  match ledger.eventStatus call.event with
  | none => .ok (ledger, ⟨.terminal, .exceeded⟩)
  | some status => ledger.execute call (ledger.planOf cfg call status)

/-! ### The event -/

theorem validateTransition_failed {current : EventStatus} {ctx : TransitionContext}
    (unfailed : current ≠ .failed) (unclosed : current ≠ .closed)
    (unforced : ctx.forceClose = false) : validateTransition current .failed ctx = .ok () := by
  have edge : .failed ∈ stateTransitions current := by
    revert unfailed unclosed
    cases current <;> decide
  have verdict : ∀ verdict, validateVerdictStatus verdict .failed ctx = .ok () := by
    intro verdict
    refine if_pos ?_
    cases verdict <;> decide
  simp only [validateTransition, unit_bind, check_eq_ok, whenever_eq_ok, bne_iff_ne,
    decide_eq_true_eq]
  refine ⟨unclosed, edge, by rw [unforced]; rfl, ?_, ?_, ?_, ?_⟩
  · simp
  · simp
  · simp
  · cases ctx.finalVerdict with
    | none => rfl
    | some => exact verdict ..

section Event

variable {ledger : Ledger} {call : SoftLimitCall} {status : EventStatus}

/-- The tables after an event has failed, unless it was at its end already. -/
def failedEvent (db : Db) (event : EventId) : Db :=
  match db.events.get event with
  | none => db
  | some row =>
    if row.status = .failed ∨ row.status = .closed then db
    else { db with
      events := db.events.set event { row with
        status := .failed, rowVersion := row.rowVersion + 1 } }

theorem failEvent_eq (ledger : Ledger) (call : SoftLimitCall) :
    ledger.failEvent call = .ok { ledger with db := failedEvent ledger.db call.event } := by
  unfold Ledger.failEvent softTimeLimit failedEvent
  cases found : ledger.db.events.get call.event with
  | none => rfl
  | some row =>
    by_cases ended : row.status = .failed ∨ row.status = .closed
    · simp only [if_pos ended]
    have unfailed : row.status ≠ .failed := fun failed => ended (.inl failed)
    have unclosed : row.status ≠ .closed := fun closed => ended (.inr closed)
    have legal : validateTransition row.status .failed (buildAuthoritativeContext call.isMock
        ledger.db call.journal call.event row none call.choices) = .ok () :=
      validateTransition_failed unfailed unclosed rfl
    simp only [if_neg ended, legal]
    rfl

theorem failedEvent_status (there : ledger.eventStatus call.event = some status) :
    ((failedEvent ledger.db call.event).events.get call.event).map EventRow.status
      = some (if status = .closed then .closed else .failed) := by
  obtain ⟨row, found, rfl⟩ := Option.map_eq_some_iff.mp there
  unfold failedEvent
  rw [found]
  by_cases failed : row.status = .failed
  · simp [failed, found]
  · by_cases closed : row.status = .closed
    · simp [closed, found]
    · simp [failed, closed]

end Event

/-! ### The decision -/

section

variable {event : EventStatus} {probe : SoftTimeLimitProbe} {attempt : Option Nat}
  {maxAttempts : Nat} {intent : Option IntentRow} {broker : Option TaskId} {hasSibling : Bool}

@[simp] theorem refresh_count (probe : SoftTimeLimitProbe) (locked : Nat) :
    (probe.refresh locked).unknownOutboxCount = locked := by
  unfold SoftTimeLimitProbe.refresh
  split_ifs with same
  · exact same.symm
  · rfl
  · rfl

theorem decide_ignored
    (ignored : decideSoftTimeLimitOutcome event probe attempt maxAttempts = .ignored) :
    event = .closed := by
  unfold decideSoftTimeLimitOutcome at ignored
  split_ifs at ignored with closed
  exact closed

theorem decide_recovered
    (recovered : decideSoftTimeLimitOutcome event probe attempt maxAttempts = .recovered) :
    probe.unknownOutboxCount = 0 ∧ attempt ≠ none := by
  unfold decideSoftTimeLimitOutcome at recovered
  split_ifs at recovered with closed failed unknown effects contained chosen
  refine ⟨by omega, ?_⟩
  rintro rfl
  simp at chosen

theorem ownedPlan_heal {decision : SoftTimeLimitDecision}
    (plan : ownedPlan intent decision = .heal) : decision = .ignored := by
  cases decision with
  | ignored => rfl
  | terminal | reconcileRequired => cases plan
  | recovered =>
    cases intent with
    | none => cases plan
    | some =>
      unfold ownedPlan at plan
      dsimp only at plan
      split_ifs at plan

theorem plan_heal
    (plan : softLimitPlan event intent broker probe maxAttempts hasSibling = .heal) :
    event = .closed := by
  unfold softLimitPlan at plan
  split at plan
  · split_ifs at plan
  · exact decide_ignored (ownedPlan_heal plan)

theorem plan_recover
    (plan : softLimitPlan event intent broker probe maxAttempts hasSibling = .recover) :
    decideSoftTimeLimitOutcome event probe (openAttempt intent) maxAttempts = .recovered := by
  unfold softLimitPlan at plan
  split at plan
  · split_ifs at plan
  generalize decideSoftTimeLimitOutcome event probe (openAttempt intent) maxAttempts = decision
    at plan ⊢
  cases decision with
  | recovered => rfl
  | _ => cases plan

theorem plan_fenced {row : IntentRow} {reason : SoftLimitReason}
    (fenced : fenceReason (some row) broker = some reason)
    (active : row.status ∉ terminalIntentStatuses) :
    softLimitPlan event (some row) broker probe maxAttempts hasSibling = .keep .ignored reason := by
  have owned : orphanTerminalIntent (some row) event = false := by
    simp [orphanTerminalIntent, active]
  unfold softLimitPlan
  rw [fenced]
  simp [owned]

end

/-! ### The intent -/

section

variable {ledger after : Ledger} {named : Option IntentId} {reason : SoftLimitReason} {now : Time}
  {row next : IntentRow} {id : IntentId}

theorem markDead_cases (done : row.markDead reason now = .ok next) :
    (row.status ∈ terminalIntentStatuses ∧ next = row)
      ∨ (row.status ∉ terminalIntentStatuses ∧ row.status ≠ .pending ∧ next.status = .dead
        ∧ next.eventId = row.eventId) := by
  unfold IntentRow.markDead at done
  split_ifs at done with ended
  · exact .inl ⟨ended, eq_of_ok done⟩
  split at done
  · cases done
  next legal =>
  cases done
  have edge := validateIntentTransition_eq_ok.mp legal
  refine .inr ⟨ended, ?_, rfl, rfl⟩
  intro pending
  rw [pending] at edge
  revert edge
  decide

theorem markDead_total : (∃ next, row.markDead reason now = .ok next) ↔ row.status ≠ .pending := by
  constructor
  · rintro ⟨_, done⟩ pending
    obtain ⟨ended, -⟩ | ⟨-, settled, -⟩ := markDead_cases done
    · rw [pending] at ended
      revert ended
      decide
    · exact settled pending
  intro settled
  unfold IntentRow.markDead
  by_cases ended : row.status ∈ terminalIntentStatuses
  · exact ⟨row, if_pos ended⟩
  have edge : .dead ∈ intentTransitions row.status := by
    revert settled ended
    cases row.status <;> decide
  rw [if_neg ended, validateIntentTransition_eq_ok.mpr edge]
  exact ⟨_, rfl⟩

theorem recover_eq_ok (done : row.recover id now = .ok next) :
    .retry ∈ intentTransitions row.status ∧ next.status = .retry ∧ next.eventId = row.eventId := by
  unfold IntentRow.recover at done
  split at done
  · cases done
  · next legal =>
    cases done
    exact ⟨validateIntentTransition_eq_ok.mp legal, rfl, rfl⟩

theorem recover_total :
    (∃ next, row.recover id now = .ok next) ↔ .retry ∈ intentTransitions row.status := by
  constructor
  · rintro ⟨_, done⟩
    exact (recover_eq_ok done).1
  intro edge
  unfold IntentRow.recover
  rw [validateIntentTransition_eq_ok.mpr edge]
  exact ⟨_, rfl⟩

variable {change : IntentId → IntentRow → Except SoftLimitError IntentRow}

theorem onIntent_cases (done : ledger.onIntent named change = .ok after) :
    after = ledger ∨ ∃ id row next, named = some id ∧ ledger.intents.get id = some row
      ∧ change id row = .ok next ∧ after = ledger.put id next := by
  unfold Ledger.onIntent at done
  split at done
  · exact .inl (eq_of_ok done)
  next id =>
  split at done
  · exact .inl (eq_of_ok done)
  · next row found =>
    obtain ⟨next, changed, rfl⟩ := map_eq_ok.mp done
    exact .inr ⟨id, row, next, rfl, found, changed, rfl⟩

theorem onIntent_total : (∃ after, ledger.onIntent named change = .ok after)
    ↔ ∀ id row, named = some id →
      ledger.intents.get id = some row → ∃ next, change id row = .ok next := by
  constructor
  · rintro ⟨_, done⟩ _ _ rfl found
    simp only [Ledger.onIntent, found] at done
    obtain ⟨next, changed, -⟩ := map_eq_ok.mp done
    exact ⟨next, changed⟩
  intro possible
  unfold Ledger.onIntent
  cases named with
  | none => exact ⟨ledger, rfl⟩
  | some id =>
    cases found : ledger.intents.get id with
    | none => exact ⟨ledger, by simp only [found]⟩
    | some row =>
      obtain ⟨next, changed⟩ := possible id row rfl found
      refine ⟨ledger.put id next, ?_⟩
      simp only [found, changed]
      rfl

end

/-! ### The ways it can end -/

section

variable {cfg : IntentSettings} {ledger after : Ledger} {call : SoftLimitCall}
  {outcome : SoftTimeLimitOutcome} {status : EventStatus}

section

variable (cfg : IntentSettings) (ledger : Ledger) (call : SoftLimitCall)

/-- What a call may leave behind. -/
inductive Ended :
    Ledger → Prop
  | kept : Ended ledger
  | healed {id : IntentId} {row next : IntentRow} (named : call.intent = some id)
      (found : ledger.intents.get id = some row)
      (closed : ledger.eventStatus call.event = some .closed)
      (dead : row.markDead .exceeded call.now = .ok next) : Ended (ledger.put id next)
  | recovered {id : IntentId} {row next : IntentRow} {status : EventStatus}
      (named : call.intent = some id) (found : ledger.intents.get id = some row)
      (there : ledger.eventStatus call.event = some status)
      (chosen : decideSoftTimeLimitOutcome status (ledger.lockedProbe call)
        (openAttempt (some row)) cfg.maxAttempts = .recovered)
      (retried : row.recover id call.now = .ok next) : Ended (ledger.put id next)
  | failed {status : EventStatus} {decision : SoftTimeLimitDecision} {reason : SoftLimitReason}
      {after : Ledger} (there : ledger.eventStatus call.event = some status)
      (plan : ledger.planOf cfg call status = .fail decision reason)
      (dead : Ledger.onIntent { ledger with db := failedEvent ledger.db call.event } call.intent
        (fun _ => IntentRow.markDead reason call.now) = .ok after) : Ended after

end

theorem failed_status {reason : SoftLimitReason}
    (there : ledger.eventStatus call.event = some status)
    (marked : Ledger.onIntent { ledger with db := failedEvent ledger.db call.event } call.intent
      (fun _ => IntentRow.markDead reason call.now) = .ok after) :
    after.eventStatus call.event = some (if status = .closed then .closed else .failed) := by
  rw [← failedEvent_status there]
  obtain rfl | ⟨_, _, _, -, -, -, rfl⟩ := onIntent_cases marked
  · rfl
  · rfl

theorem apply_cases (done : applySoftTimeLimitOutcome cfg ledger call = .ok (after, outcome)) :
    Ended cfg ledger call after := by
  unfold applySoftTimeLimitOutcome at done
  split at done
  · cases done
    exact .kept
  next status there =>
  generalize plan : ledger.planOf cfg call status = chosen at done
  cases chosen with
  | keep =>
    cases done
    exact .kept
  | heal =>
    obtain ⟨healed, dead, done⟩ := bind_eq_ok.mp done
    cases done
    obtain rfl := plan_heal plan
    obtain rfl | ⟨_, _, _, named, found, marked, rfl⟩ := onIntent_cases dead
    · exact .kept
    · exact .healed named found there marked
  | recover =>
    obtain ⟨recovered, retried, done⟩ := bind_eq_ok.mp done
    cases done
    have chosen := plan_recover plan
    obtain rfl | ⟨_, row, _, named, found, changed, rfl⟩ := onIntent_cases retried
    · exact .kept
    have same : ledger.named call = some row := by
      unfold Ledger.named
      rw [named]
      exact found
    rw [same] at chosen
    exact .recovered named found there chosen changed
  | fail =>
    obtain ⟨_, event, done⟩ := bind_eq_ok.mp done
    rw [failEvent_eq] at event
    cases event
    obtain ⟨_, dead, done⟩ := bind_eq_ok.mp done
    cases done
    exact .failed there plan dead

/-- **The rows after a soft limit**: only the row the call names is touched. -/
theorem apply_settles (done : applySoftTimeLimitOutcome cfg ledger call = .ok (after, outcome)) :
    Table.Steps (Settles fun id => call.intent = some id) (fun _ _ => False) ledger.intents
      after.intents := by
  have dead : ∀ {id : IntentId} {row changed : IntentRow} {reason : SoftLimitReason},
      call.intent = some id → row.markDead reason call.now = .ok changed →
      Settles (fun id => call.intent = some id) id row changed := by
    intro _ _ _ _ named marked
    obtain ⟨-, same⟩ | ⟨-, -, status, event⟩ := markDead_cases marked
    · exact .inl same
    · exact .inr ⟨event, live_eq_false (by rw [status]; decide), fun _ => named⟩
  cases apply_cases done with
  | kept => exact .refl Settles.refl
  | healed named found _ marked => exact .set found (dead named marked) Settles.refl
  | recovered named found _ _ changed =>
    obtain ⟨-, status, event⟩ := recover_eq_ok changed
    exact .set found (.inr ⟨event, live_eq_false (by rw [status]; decide), fun _ => named⟩)
      Settles.refl
  | failed _ _ marked =>
    obtain rfl | ⟨_, _, _, named, found, killed, rfl⟩ := onIntent_cases marked
    · exact .refl Settles.refl
    · exact .set found (dead named killed) Settles.refl

end

end ShadowTrace.Intents
