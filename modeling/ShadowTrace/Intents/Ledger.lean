/-
**The ledger of investigation intents** (`app/services/investigation_intent_service.py`,
`app/models/investigation_intent.py`).

An intent is the durable promise to investigate an event: it is claimed by a dispatcher, enqueued,
published under a task id that its identity and revision determine, and started by the worker that
receives the message. This file holds the rows and what each transaction does to one row.
-/

import ShadowTrace.Lib.Fallible
import ShadowTrace.Db.Rows

namespace ShadowTrace.Intents

open Relational Fallible

abbrev IntentId := Nat

/-! ### The rows -/

inductive InvestigationIntentStatus
  | pending | claimed | enqueued | started | retry | terminal | skipped | dead
  deriving DecidableEq

inductive IntentKind
  | autoInvestigate | httpInvestigate
  deriving DecidableEq

/-- The id of a broker task: `deterministic_investigation_task_id`, a digest that is taken to be
injective, or an id the service has not issued. -/
inductive TaskId
  | derived (intent : IntentId) (revision : Nat)
  | foreign (id : Nat)
  deriving DecidableEq

inductive OrchestrationMode
  | graph | analysisOnly
  deriving DecidableEq

inductive SoftLimitReason
  | exceeded | recovered | reconcileRequired | orphanTerminalIntent | alreadyTerminal
  | missingBroker | staleBroker
  deriving DecidableEq

/-- `skip_reason`. -/
inductive SkipReason
  | eventMissing | eventNotNew | eventFailed | supersededByHttpInvestigate | eventMerged
  | worker (reason : Nat)
  deriving DecidableEq

/-- `last_error`. -/
inductive IntentError
  | siblingIntentActive | maxAttemptsExceeded | staleIntentReconciled
  | softTimeLimit (reason : SoftLimitReason)
  | raised (type : Nat)
  deriving DecidableEq

/-- `investigation_intent`. -/
structure IntentRow where
  eventId : EventId
  kind : IntentKind
  status : InvestigationIntentStatus
  revision : Nat := 1
  requestIdempotencyKey : Option Nat := none
  requestPayloadSha256 : Option Nat := none
  requestedBy : Option Nat := none
  orchestrationMode : OrchestrationMode
  attempt : Nat := 0
  claimOwner : Option WorkerId := none
  claimExpiresAt : Option Time := none
  brokerTaskId : Option TaskId := none
  skipReason : Option SkipReason := none
  lastError : Option IntentError := none
  includeResponseExecution : Bool := false
  generateReport : Bool
  updatedAt : Time

/-- The settings of the service; the configuration refuses a limit of zero attempts. -/
structure IntentSettings where
  claimLease : Nat
  maxAttempts : Nat
  positive : 1 ≤ maxAttempts

/-! ### Transitions -/

def intentTransitions : InvestigationIntentStatus → List InvestigationIntentStatus
  | .pending => [.claimed, .skipped]
  | .claimed => [.enqueued, .retry, .pending, .skipped, .dead]
  | .enqueued => [.started, .retry, .skipped, .dead]
  | .started => [.terminal, .skipped, .retry, .dead]
  | .retry => [.claimed, .dead, .skipped]
  | .terminal => []
  | .skipped => [.retry]
  | .dead => [.retry]

def terminalIntentStatuses : List InvestigationIntentStatus := [.terminal, .skipped, .dead]

structure IntentTransitionError where
  current : InvestigationIntentStatus
  target : InvestigationIntentStatus

def validateIntentTransition (current target : InvestigationIntentStatus) :
    Except IntentTransitionError Unit :=
  check (decide (target ∈ intentTransitions current)) ⟨current, target⟩

theorem validateIntentTransition_eq_ok {current target : InvestigationIntentStatus} :
    validateIntentTransition current target = .ok () ↔ target ∈ intentTransitions current := by
  unfold validateIntentTransition
  rw [check_eq_ok, decide_eq_true_iff]

section

variable (cfg : IntentSettings) (id : IntentId) (event : Option EventStatus) (now : Time)
  (row : IntentRow)

def IntentRow.live : Bool :=
  row.status == .enqueued || row.status == .started

def IntentRow.nextRevision : IntentRow :=
  { row with
    revision := row.revision + 1
    brokerTaskId := if row.status = .retry then some (.derived id (row.revision + 1)) else none }

def IntentRow.setStatus (target : InvestigationIntentStatus) (skipReason : Option SkipReason)
    (lastError : Option IntentError) (incrementAttempt : Bool) (now : Time) :
    Except IntentTransitionError IntentRow := do
  validateIntentTransition row.status target
  let moved := { row with
    status := target
    skipReason := skipReason <|> row.skipReason
    lastError := lastError <|> row.lastError
    claimOwner := none, claimExpiresAt := none, updatedAt := now }
  return if incrementAttempt then { moved.nextRevision id with attempt := row.attempt + 1 }
    else moved

/-! ### Claiming and publishing -/

def IntentRow.leaseExpired (now : Time) : Bool :=
  row.status == .claimed && row.claimExpiresAt.any (· < now)

def IntentRow.releaseExpired (now : Time) : Except IntentTransitionError IntentRow :=
  if row.leaseExpired now then do
    validateIntentTransition row.status .retry
    return { row with status := .retry, attempt := row.attempt + 1 }
  else .ok row

def IntentRow.claim (worker : WorkerId) (now : Time) (row : IntentRow) :
    Except IntentTransitionError (Option IntentRow) := do
  let free ← row.releaseExpired now
  if free.status = .pending ∨ free.status = .retry then do
    validateIntentTransition free.status .claimed
    return some { free with
      status := .claimed, claimOwner := some worker
      claimExpiresAt := some (now + cfg.claimLease), updatedAt := now }
  else return none

def eventInvestigationResumable : List EventStatus :=
  [.triaging, .collectingEvidence, .analyzing, .scoring, .planningResponse, .waitingApproval,
    .executingResponse, .verifying, .replanning]

def IntentRow.resumes (event : EventStatus) : Bool :=
  decide (1 < row.revision) && decide (event ∈ eventInvestigationResumable)

/-- The policy for automatic responses decides about the response of an automatic intent. -/
def IntentRow.includeResponse (responseEligible : Bool) : Bool :=
  if row.kind = .autoInvestigate then responseEligible else row.includeResponseExecution

def IntentRow.commitEnqueued (siblingBlocking responseEligible : Bool) (now : Time)
    (row : IntentRow) : Except IntentTransitionError (Option IntentRow) :=
  if row.status ≠ .claimed then .ok none
  else match event with
    | none => some <$> row.setStatus id .skipped (some .eventMissing) none false now
    | some status =>
      if status ≠ .new ∧ row.resumes status = false then
        some <$> row.setStatus id .skipped (some .eventNotNew) none false now
      else if siblingBlocking then
        some <$> row.setStatus id .retry none (some .siblingIntentActive) true now
      else do
        validateIntentTransition .claimed .enqueued
        return some { row with
          status := .enqueued, brokerTaskId := some (.derived id row.revision)
          claimOwner := none, claimExpiresAt := none, lastError := none
          includeResponseExecution := row.includeResponse responseEligible, updatedAt := now }

/-! ### A publish that failed -/

/-- What publishing raised: the broker or the metadata store is away, or anything else. -/
inductive PublishFailure
  | transient (error : Nat)
  | unexpected (error : Nat)

def IntentRow.handlePublishTransientFailure (error : Nat) (conserveRetryBudget : Bool) (now : Time)
    (row : IntentRow) : Except IntentTransitionError IntentRow :=
  if conserveRetryBudget then do
    let kept ← row.setStatus id .retry none (some (.raised error)) false now
    return { kept with brokerTaskId := none }
  else if cfg.maxAttempts ≤ row.attempt + 1 then
    row.setStatus id .dead none (some (.raised error)) false now
  else row.setStatus id .retry none (some (.raised error)) true now

/-- What `_revert_enqueued_after_unexpected_failure` does to an enqueued row. -/
def IntentRow.handleUnexpectedFailure (error : Nat) (conserveRetryBudget : Bool) (now : Time)
    (row : IntentRow) : Except IntentTransitionError IntentRow := do
  let target := if conserveRetryBudget then .retry else .dead
  let moved ← row.setStatus id target none (some (.raised error)) false now
  return { moved with brokerTaskId := none }

/-- `_revert_enqueued_after_publish_failure` and `_revert_enqueued_after_unexpected_failure`: the
row they have loaded, as they change it. -/
def IntentRow.revertEnqueued (failure : PublishFailure) (conserveRetryBudget : Bool) (now : Time)
    (row : IntentRow) : Except IntentTransitionError (Option IntentRow) :=
  if row.status ≠ .enqueued then .ok none
  else match failure with
    | .transient error =>
      some <$> row.handlePublishTransientFailure cfg id error conserveRetryBudget now
    | .unexpected error => some <$> row.handleUnexpectedFailure id error conserveRetryBudget now

def column {α : Type} [DecidableEq α] (loaded changed stored : α) : α :=
  if changed = loaded then stored else changed

/-- A transaction that loads a row without locking it writes only the columns it changed, over
whatever the row has become in the meantime. -/
def IntentRow.flush (loaded changed stored : IntentRow) (now : Time) : IntentRow :=
  { stored with
    status := column loaded.status changed.status stored.status
    revision := column loaded.revision changed.revision stored.revision
    attempt := column loaded.attempt changed.attempt stored.attempt
    claimOwner := column loaded.claimOwner changed.claimOwner stored.claimOwner
    claimExpiresAt := column loaded.claimExpiresAt changed.claimExpiresAt stored.claimExpiresAt
    brokerTaskId := column loaded.brokerTaskId changed.brokerTaskId stored.brokerTaskId
    skipReason := column loaded.skipReason changed.skipReason stored.skipReason
    lastError := column loaded.lastError changed.lastError stored.lastError
    updatedAt := now }

/-! ### Deliveries -/

/-- What a worker is told about the message it has received. -/
inductive IntentDeliveryAdmission
  | accepted | staleSuperseded | alreadyTerminal | missing
  deriving DecidableEq

def IntentRow.markStarted (task : TaskId) (now : Time) (row : IntentRow) :
    IntentDeliveryAdmission × Option IntentRow :=
  if row.status ∈ terminalIntentStatuses then (.alreadyTerminal, none)
  else if row.status = .started then
    if row.brokerTaskId = some task then (.accepted, none)
    else if task = .derived id row.revision then
      (.accepted, some { row with brokerTaskId := some task, updatedAt := now })
    else (.staleSuperseded, none)
  else if row.status ≠ .enqueued then (.staleSuperseded, none)
  else if row.brokerTaskId.any (· ≠ task) then (.staleSuperseded, none)
  else (.accepted, some { row with
    status := .started, brokerTaskId := some task, claimOwner := none, claimExpiresAt := none
    updatedAt := now })

/-- How a worker ends a delivery: `mark_terminal`, `mark_skipped`, `mark_retry`, `mark_dead`. -/
inductive Completion
  | terminal
  | skipped (reason : Nat)
  | retry (error : Nat)
  | dead (error : Nat)

def Completion.apply (completion : Completion) (id : IntentId) (row : IntentRow) (now : Time) :
    Except IntentTransitionError IntentRow :=
  match completion with
  | .terminal => row.setStatus id .terminal none none false now
  | .skipped reason => row.setStatus id .skipped (some (.worker reason)) none false now
  | .retry error => row.setStatus id .retry none (some (.raised error)) true now
  | .dead error => row.setStatus id .dead none (some (.raised error)) false now

/-- `_transition`. Every caller presents the task id of its delivery. -/
def IntentRow.complete (task : TaskId) (completion : Completion) (now : Time) (row : IntentRow) :
    Except IntentTransitionError (Option IntentRow) :=
  if row.status ≠ .started ∨ row.brokerTaskId ≠ some task then .ok none
  else some <$> completion.apply id row now

def IntentRow.markInlineStarted : Except IntentTransitionError (Option IntentRow) :=
  if row.status = .pending ∨ row.status = .retry then do
    validateIntentTransition row.status .claimed
    return some { row with
      status := .started, brokerTaskId := some (.derived id row.revision), claimOwner := none
      claimExpiresAt := none, updatedAt := now }
  else .ok none

/-! ### Stale rows -/

def IntentSettings.enqueuedStale : Nat :=
  max (cfg.claimLease * 4) 30

def IntentSettings.startedStale : Nat :=
  max (cfg.claimLease * 4) 660

def IntentRow.stale (now : Time) : Bool :=
  row.claimExpiresAt.any (· < now)
    || (row.status == .enqueued && decide (cfg.enqueuedStale < now - row.updatedAt))
    || (row.status == .started && decide (cfg.startedStale < now - row.updatedAt))

def eventInvestigationCompleted : List EventStatus := [.contained, .reporting, .closed]

/-- The stale row of an investigation that is not known to have ended. -/
def IntentRow.retryOrDead : Except IntentTransitionError IntentRow :=
  if cfg.maxAttempts ≤ row.attempt + 1 then do
    validateIntentTransition row.status .dead
    let dead := { row with
      status := .dead, lastError := row.lastError <|> some IntentError.maxAttemptsExceeded
      claimOwner := none, claimExpiresAt := none, updatedAt := now }
    return dead.nextRevision id
  else do
    validateIntentTransition row.status .retry
    let retried := { row with
      status := .retry, attempt := row.attempt + 1
      lastError := row.lastError <|> some IntentError.staleIntentReconciled
      claimOwner := none, claimExpiresAt := none, updatedAt := now }
    return retried.nextRevision id

def IntentRow.reconcileStale : Except IntentTransitionError IntentRow :=
  if row.status = .started ∧ event.any (· ∈ eventInvestigationCompleted) then do
    validateIntentTransition row.status .terminal
    return { row with
      status := .terminal, claimOwner := none, claimExpiresAt := none, updatedAt := now }
  else if row.status = .started ∧ event = some .failed then do
    validateIntentTransition row.status .skipped
    return { row with
      status := .skipped, skipReason := some .eventFailed, claimOwner := none
      claimExpiresAt := none, updatedAt := now }
  else row.retryOrDead cfg id now

def IntentRow.reconcile : Except IntentTransitionError (Option IntentRow) :=
  if row.status ∈ [.claimed, .enqueued, .started] ∧ row.stale cfg now = true then
    some <$> row.reconcileStale cfg id event now
  else .ok none

/-! ### Skipping and re-arming -/

def IntentRow.skip (reason : SkipReason) (row : IntentRow) :
    Except IntentTransitionError IntentRow := do
  validateIntentTransition row.status .skipped
  return { row with
    status := .skipped, skipReason := some reason, brokerTaskId := none, claimOwner := none
    claimExpiresAt := none }

/-- A request to investigate an event. -/
structure HttpRequest where
  event : EventId
  requestedBy : Nat
  idempotencyKey : Nat
  payloadSha256 : Nat
  orchestrationMode : OrchestrationMode
  includeResponseExecution : Bool
  generateReport : Bool

def IntentRow.rearm (replacing : Option HttpRequest) (now : Time) (row : IntentRow) :
    Except IntentTransitionError IntentRow := do
  validateIntentTransition row.status .retry
  let armed := { row with
    status := .retry, revision := row.revision + 1, attempt := 0
    brokerTaskId := some (.derived id (row.revision + 1)), claimOwner := none
    claimExpiresAt := none, skipReason := none, lastError := none, updatedAt := now }
  match replacing with
  | none => return armed
  | some req => return { armed with
      requestIdempotencyKey := some req.idempotencyKey
      requestPayloadSha256 := some req.payloadSha256
      requestedBy := some req.requestedBy
      orchestrationMode := req.orchestrationMode
      includeResponseExecution := req.includeResponseExecution
      generateReport := req.generateReport }

def httpIntent (req : HttpRequest) (now : Time) : IntentRow :=
  { eventId := req.event, kind := .httpInvestigate, status := .pending
    requestIdempotencyKey := some req.idempotencyKey
    requestPayloadSha256 := some req.payloadSha256, requestedBy := some req.requestedBy
    orchestrationMode := req.orchestrationMode, brokerTaskId := some (.derived id 1)
    includeResponseExecution := req.includeResponseExecution
    generateReport := req.generateReport, updatedAt := now }

end

/-- The intents, and the tables of the other services. -/
structure Ledger where
  db : Db
  intents : Table IntentId IntentRow

variable (ledger : Ledger) (req : HttpRequest) (event : EventId)

def autoIntent (mode : OrchestrationMode) (now : Time) : IntentRow :=
  { eventId := event, kind := .autoInvestigate, status := .pending, orchestrationMode := mode
    generateReport := false, updatedAt := now }

/-! ### The ledger -/

def Ledger.eventStatus : Option EventStatus :=
  (ledger.db.events.get event).map EventRow.status

section

variable (id : IntentId) (row : IntentRow)

def Ledger.onRow (change : IntentRow → Except IntentTransitionError (Option IntentRow)) : Ledger :=
  match ledger.intents.get id with
  | none => ledger
  | some row =>
    match change row with
    | .ok (some next) => { ledger with intents := ledger.intents.set id next }
    | _ => ledger

theorem Ledger.onRow_steps {moves : IntentId → IntentRow → IntentRow → Prop}
    {born : IntentId → IntentRow → Prop} {ledger : Ledger} {key : IntentId}
    {change : IntentRow → Except IntentTransitionError (Option IntentRow)}
    (moved : ∀ row next, ledger.intents.get key = some row → change row = .ok (some next) →
      moves key row next) (still : ∀ id row, moves id row row) :
    Table.Steps moves born ledger.intents (ledger.onRow key change).intents := by
  unfold Ledger.onRow
  split
  · exact .refl still
  next row found =>
  split
  · next written answer => exact .set found (moved row written found answer) still
  · exact .refl still

def Ledger.siblingBlocking (event : EventId) : Bool :=
  ledger.intents.rows.any fun entry => entry.2.eventId == event && entry.1 != id
    && decide (entry.2.status ∈ [.claimed, .enqueued, .started])

/-- `_commit_enqueued_publish_target`, under the locks of the event and of the intent. -/
def Ledger.commitEnqueued (responseEligible : Bool) (now : Time) : Ledger :=
  ledger.onRow id fun row => row.commitEnqueued id (ledger.eventStatus row.eventId)
    (ledger.siblingBlocking id row.eventId) responseEligible now

def Ledger.admission (task : TaskId) (now : Time) : IntentDeliveryAdmission :=
  match ledger.intents.get id with
  | none => .missing
  | some row => (row.markStarted id task now).1

def Ledger.markStarted (task : TaskId) (now : Time) : Ledger :=
  ledger.onRow id fun row => .ok (row.markStarted id task now).2

/-! ### Requests -/

/-- Why such a request is refused. -/
inductive HttpIntentError
  | eventNotFound
  | idempotencyKeyReuse (existing : EventId) (intent : IntentId)
  | eventNotNew (current : EventStatus)
  | investigationInProgress (intent : IntentId)
  | transition (error : IntentTransitionError)

def liftTransition {α : Type} : Except IntentTransitionError α → Except HttpIntentError α
  | .ok value => .ok value
  | .error error => .error (.transition error)

def Ledger.findRequest : Option (IntentId × IntentRow) :=
  ledger.intents.rows.find? fun entry => entry.2.requestedBy == some req.requestedBy
    && entry.2.requestIdempotencyKey == some req.idempotencyKey

def Ledger.findHttp : Option (IntentId × IntentRow) :=
  ledger.intents.rows.find? fun entry => entry.2.eventId == event
    && entry.2.kind == .httpInvestigate

def Ledger.put : Ledger :=
  { ledger with intents := ledger.intents.set id row }

/-- The rows a process has loaded without locking them, flushed as skipped. -/
def Ledger.flushSkips (reason : SkipReason) (now : Time) (loaded : List (IntentId × IntentRow)) :
    Except IntentTransitionError Ledger :=
  loaded.foldlM (fun ledger entry => do
    let skipped ← entry.2.skip reason
    return { ledger with
      intents := ledger.intents.modify entry.1 fun stored => entry.2.flush skipped stored now })
    ledger

def Ledger.replayHttpIntent (now : Time) : Except HttpIntentError Ledger :=
  if row.eventId ≠ req.event ∨ row.requestPayloadSha256 ≠ some req.payloadSha256 then
    .error (.idempotencyKeyReuse row.eventId id)
  else if row.kind = .httpInvestigate ∧ row.status ∈ [.dead, .skipped] then do
    let armed ← liftTransition (row.rearm id none now)
    return ledger.put id armed
  else .ok ledger

def Ledger.takeOverHttpIntent (now : Time) : Except HttpIntentError Ledger :=
  if row.status ∈ [.dead, .skipped] then do
    let armed ← liftTransition (row.rearm id (some req) now)
    return ledger.put id armed
  else .error (.investigationInProgress id)

end

/-- `create_or_replay_http_intent`. `loaded` are the automatic intents of the event that the
transaction has loaded to supersede them, without locking them. -/
def Ledger.createOrReplayHttpIntent (fresh : IntentId) (loaded : List (IntentId × IntentRow))
    (now : Time) : Except HttpIntentError Ledger :=
  match ledger.eventStatus req.event with
  | none => .error .eventNotFound
  | some status =>
    match ledger.findRequest req with
    | some (id, row) => ledger.replayHttpIntent req id row now
    | none =>
      if status ≠ .new then .error (.eventNotNew status)
      else match ledger.findHttp req.event with
        | some (id, row) => ledger.takeOverHttpIntent req id row now
        | none => do
          let superseded ← liftTransition
            (ledger.flushSkips .supersededByHttpInvestigate now loaded)
          return superseded.put fresh (httpIntent fresh req now)

def Ledger.maybeCreatePending (fresh : IntentId) (mode : OrchestrationMode) (now : Time) : Ledger :=
  if ledger.intents.rows.any fun entry => entry.2.eventId == event
      && entry.2.kind == .autoInvestigate then ledger
  else ledger.put fresh (autoIntent event mode now)

def Ledger.activeAutoIntents : List (IntentId × IntentRow) :=
  ledger.intents.rows.filter fun entry => entry.2.eventId == event
    && entry.2.kind == .autoInvestigate && decide (entry.2.status ∉ terminalIntentStatuses)

/-! ### What the transactions do to a row -/

section

variable {cfg : IntentSettings} {id : IntentId} {now : Time} {row next : IntentRow}

theorem live_eq_false (idle : row.status ≠ .enqueued ∧ row.status ≠ .started) :
    row.live = false := by
  unfold IntentRow.live
  simp [idle.1, idle.2]

section

variable {target : InvestigationIntentStatus} {skipReason : Option SkipReason}
  {lastError : Option IntentError} {incrementAttempt : Bool}
  (done : row.setStatus id target skipReason lastError incrementAttempt now = .ok next)
include done

theorem setStatus_row : next.status = target ∧ next.eventId = row.eventId
      ∧ next.attempt = row.attempt + incrementAttempt.toNat := by
  obtain rfl := eq_of_bind_pure done
  cases incrementAttempt with
  | false | true => exact ⟨rfl, rfl, rfl⟩

theorem setStatus_quiet (idle : target ≠ .enqueued ∧ target ≠ .started) :
    next.eventId = row.eventId ∧ next.live = false := by
  obtain ⟨status, event, -⟩ := setStatus_row done
  exact ⟨event, live_eq_false (by rw [status]; exact idle)⟩

end

theorem releaseExpired_row (done : row.releaseExpired now = .ok next) :
    (row.leaseExpired now = true ∧ next = { row with status := .retry, attempt := row.attempt + 1 })
      ∨ (row.leaseExpired now = false ∧ next = row) := by
  unfold IntentRow.releaseExpired at done
  split_ifs at done with expired
  · obtain ⟨-, done⟩ := unit_bind.mp done
    exact .inl ⟨expired, (pure_eq_ok.mp done).symm⟩
  · exact .inr ⟨by simpa using expired, eq_of_ok done⟩

theorem claim_row {worker : WorkerId} (done : row.claim cfg worker now = .ok (some next)) :
    next.status = .claimed ∧ next.eventId = row.eventId
      ∧ ((row.leaseExpired now = true ∧ row.status = .claimed ∧ next.attempt = row.attempt + 1)
        ∨ ((row.status = .pending ∨ row.status = .retry) ∧ next.attempt = row.attempt)) := by
  obtain ⟨free, released, done⟩ := bind_eq_ok.mp done
  split_ifs at done with waiting
  · obtain rfl := Option.some.inj (eq_of_bind_pure done)
    obtain ⟨expired, rfl⟩ | ⟨_, rfl⟩ := releaseExpired_row released
    · have claimed : row.status = .claimed := by simpa using (Bool.and_eq_true_iff.mp expired).1
      exact ⟨rfl, rfl, .inl ⟨expired, claimed, rfl⟩⟩
    · exact ⟨rfl, rfl, .inr ⟨waiting, rfl⟩⟩
  · cases done

theorem commitEnqueued_row {event : Option EventStatus} {siblingBlocking responseEligible : Bool}
    (done : row.commitEnqueued id event siblingBlocking responseEligible now = .ok (some next)) :
    row.status = .claimed ∧ next.eventId = row.eventId
      ∧ ((next.status = .skipped ∧ next.attempt = row.attempt)
        ∨ (siblingBlocking = true ∧ next.status = .retry ∧ next.attempt = row.attempt + 1)
        ∨ (siblingBlocking = false ∧ next.status = .enqueued ∧ next.attempt = row.attempt
          ∧ next.brokerTaskId = some (.derived id next.revision)
          ∧ next.claimExpiresAt = none)) := by
  unfold IntentRow.commitEnqueued at done
  by_cases claimed : row.status = .claimed
  · rw [if_neg (not_not.mpr claimed)] at done
    refine ⟨claimed, ?_⟩
    cases event with
    | none =>
      obtain ⟨status, event, attempt⟩ := setStatus_row (map_some_eq_ok.mp done)
      exact ⟨event, .inl ⟨status, attempt⟩⟩
    | some =>
      dsimp only at done
      split_ifs at done with unfit sibling
      · obtain ⟨status, event, attempt⟩ := setStatus_row (map_some_eq_ok.mp done)
        exact ⟨event, .inl ⟨status, attempt⟩⟩
      · obtain ⟨status, event, attempt⟩ := setStatus_row (map_some_eq_ok.mp done)
        exact ⟨event, .inr (.inl ⟨sibling, status, attempt⟩)⟩
      · obtain rfl := Option.some.inj (eq_of_bind_pure done)
        exact ⟨rfl, .inr (.inr ⟨by simpa using sibling, rfl, rfl, rfl, rfl⟩)⟩
  · rw [if_pos claimed] at done
    cases done

theorem revertEnqueued_row {failure : PublishFailure} {conserve : Bool}
    (done : row.revertEnqueued cfg id failure conserve now = .ok (some next)) :
    row.status = .enqueued ∧ next.eventId = row.eventId
      ∧ ((next.status = .dead ∧ next.attempt = row.attempt)
        ∨ (conserve = true ∧ next.status = .retry ∧ next.attempt = row.attempt)
        ∨ (row.attempt + 1 < cfg.maxAttempts ∧ next.status = .retry
          ∧ next.attempt = row.attempt + 1)) := by
  unfold IntentRow.revertEnqueued at done
  by_cases enqueued : row.status = .enqueued
  · rw [if_neg (not_not.mpr enqueued)] at done
    refine ⟨enqueued, ?_⟩
    cases failure with
    | transient =>
      have handled := map_some_eq_ok.mp done
      unfold IntentRow.handlePublishTransientFailure at handled
      split_ifs at handled with conserved exhausted
      · obtain ⟨kept, set, handled⟩ := bind_eq_ok.mp handled
        cases handled
        obtain ⟨status, event, attempt⟩ := setStatus_row set
        exact ⟨event, .inr (.inl ⟨conserved, status, attempt⟩)⟩
      · obtain ⟨status, event, attempt⟩ := setStatus_row handled
        exact ⟨event, .inl ⟨status, attempt⟩⟩
      · obtain ⟨status, event, attempt⟩ := setStatus_row handled
        exact ⟨event, .inr (.inr ⟨by omega, status, attempt⟩)⟩
    | unexpected =>
      have handled := map_some_eq_ok.mp done
      obtain ⟨kept, set, handled⟩ := bind_eq_ok.mp handled
      cases handled
      obtain ⟨status, event, attempt⟩ := setStatus_row set
      cases conserve with
      | true => exact ⟨event, .inr (.inl ⟨rfl, status, attempt⟩)⟩
      | false => exact ⟨event, .inl ⟨status, attempt⟩⟩
  · rw [if_pos enqueued] at done
    cases done

theorem markStarted_row {task : TaskId} (done : (row.markStarted id task now).2 = some next) :
    row.live = true ∧ next.eventId = row.eventId ∧ next.status = .started
      ∧ next.revision = row.revision ∧ next.brokerTaskId = some task
      ∧ (row.brokerTaskId = none ∨ row.brokerTaskId = some task ∨ task = .derived id row.revision)
      ∧ (next.claimExpiresAt = none ∨ next.claimExpiresAt = row.claimExpiresAt) := by
  unfold IntentRow.markStarted at done
  split_ifs at done with ended started same expected waiting foreign
  · cases done
    exact ⟨by simp [IntentRow.live, started], rfl, started, rfl, rfl, .inr (.inr expected),
      .inr rfl⟩
  push Not at waiting
  cases done
  refine ⟨by simp [IntentRow.live, waiting], rfl, rfl, rfl, rfl, ?_, .inl rfl⟩
  cases held : row.brokerTaskId with
  | none => exact .inl rfl
  | some =>
    refine .inr (.inl ?_)
    rw [held] at foreign
    simpa using foreign

theorem complete_row {task : TaskId} {completion : Completion}
    (done : row.complete id task completion now = .ok (some next)) :
    row.status = .started ∧ row.brokerTaskId = some task ∧ next.eventId = row.eventId
      ∧ next.live = false := by
  unfold IntentRow.complete at done
  split_ifs at done with foreign
  · cases done
  push Not at foreign
  have applied := map_some_eq_ok.mp done
  refine ⟨foreign.1, foreign.2, ?_⟩
  cases completion with
  | terminal | skipped | retry | dead => exact setStatus_quiet applied (by decide)

theorem reconcile_row {event : Option EventStatus}
    (done : row.reconcile cfg id event now = .ok (some next)) :
    row.stale cfg now = true ∧ row.status ∈ [.claimed, .enqueued, .started]
      ∧ next.eventId = row.eventId
      ∧ ((row.status = .started ∧ next.status ∈ [.terminal, .skipped] ∧ next.attempt = row.attempt)
        ∨ (cfg.maxAttempts ≤ row.attempt + 1 ∧ next.status = .dead ∧ next.attempt = row.attempt)
        ∨ (row.attempt + 1 < cfg.maxAttempts ∧ next.status = .retry
          ∧ next.attempt = row.attempt + 1)) := by
  unfold IntentRow.reconcile at done
  split_ifs at done with eligible
  · refine ⟨eligible.2, eligible.1, ?_⟩
    have reconciled := map_some_eq_ok.mp done
    unfold IntentRow.reconcileStale at reconciled
    split_ifs at reconciled with completed failed
    · obtain rfl := eq_of_bind_pure reconciled
      exact ⟨rfl, .inl ⟨completed.1, .head _, rfl⟩⟩
    · obtain rfl := eq_of_bind_pure reconciled
      exact ⟨rfl, .inl ⟨failed.1, .tail _ (.head _), rfl⟩⟩
    unfold IntentRow.retryOrDead at reconciled
    split_ifs at reconciled with exhausted
    · obtain rfl := eq_of_bind_pure reconciled
      exact ⟨rfl, .inr (.inl ⟨exhausted, rfl, rfl⟩)⟩
    · obtain rfl := eq_of_bind_pure reconciled
      exact ⟨rfl, .inr (.inr ⟨by omega, rfl, rfl⟩)⟩
  · cases done

theorem markInlineStarted_row (done : row.markInlineStarted id now = .ok (some next)) :
    row.live = false ∧ next.eventId = row.eventId
      ∧ next.brokerTaskId = some (.derived id next.revision) ∧ next.claimExpiresAt = none := by
  unfold IntentRow.markInlineStarted at done
  split_ifs at done with waiting
  · obtain rfl := Option.some.inj (eq_of_bind_pure done)
    refine ⟨live_eq_false ?_, rfl, rfl, rfl⟩
    rcases waiting with pending | retry
    · rw [pending]; decide
    · rw [retry]; decide
  · cases done

theorem rearm_row {replacing : Option HttpRequest}
    (done : row.rearm id replacing now = .ok next) :
    next.eventId = row.eventId ∧ next.status = .retry := by
  obtain ⟨-, done⟩ := unit_bind.mp done
  cases replacing with
  | none | some =>
    cases done
    exact ⟨rfl, rfl⟩

theorem skip_row {reason : SkipReason} (done : row.skip reason = .ok next) :
    row.status ≠ .skipped ∧ next.status = .skipped := by
  obtain ⟨legal, done⟩ := unit_bind.mp done
  cases done
  refine ⟨?_, rfl⟩
  intro already
  rw [already, validateIntentTransition_eq_ok] at legal
  revert legal
  decide

theorem flush_status {loaded changed stored : IntentRow} (moved : changed.status ≠ loaded.status) :
    (loaded.flush changed stored now).status = changed.status := if_neg moved

end

/-- What a transaction that publishes nothing does to a row: it is as it was, or no longer live. A
delivery that a worker had started has a reason to end. -/
def Settles (reason : IntentId → Prop) (id : IntentId) (row next : IntentRow) : Prop :=
  next = row ∨ next.eventId = row.eventId ∧ next.live = false ∧ (row.status = .started → reason id)

theorem Settles.refl {reason : IntentId → Prop} (id : IntentId) (row : IntentRow) :
    Settles reason id row row :=
  .inl rfl

theorem Settles.trans {reason : IntentId → Prop} {id : IntentId} {row next last : IntentRow}
    (first : Settles reason id row next) (second : Settles reason id next last) :
    Settles reason id row last := by
  obtain rfl | ⟨event, idle, ends⟩ := first
  · exact second
  · obtain rfl | ⟨same, quiet, -⟩ := second
    · exact .inr ⟨event, idle, ends⟩
    · exact .inr ⟨same.trans event, quiet, ends⟩

end ShadowTrace.Intents
