/-
**Executing an action** (`app/services/action_execution_service.py`).

The transactions of `execute_action`, each as a function of the database. An action is claimed
(`_claim_action`); an XDR managed one gets its job and its entity submit in one transaction
(`_execute_xdr_managed`), a direct one gets its job first and calls the provider afterwards
(`_execute_direct_tool`). An existing job is attached (`_attach_existing_job`), never created or
dispatched again. A transaction runs against the committed state, so a conflicting row is one the
lookup finds.
-/

import ShadowTrace.Sync.Enqueue

namespace ShadowTrace.Execution

open Relational Fallible

/-- The reasons for which an execution is refused. -/
inductive ExecutionError
  | notFound | bindingInvalid | notClaimable (current : ActionStatus) | postVerify | terminalTool
  | superseded | notExecutable | readinessBlocked | fenceClosed | sourceMissing
  | jobIdTaken
  | transition (error : TransitionError)
  | enqueue (error : Sync.EnqueueError)

def liftTransition {α : Type} : Except TransitionError α → Except ExecutionError α
  | .ok value => .ok value
  | .error error => .error (.transition error)

@[simp] theorem liftTransition_eq_ok {α : Type} {result : Except TransitionError α} {value : α} :
    liftTransition result = .ok value ↔ result = .ok value := by
  cases result <;> simp [liftTransition]

def mapJobToActionStatus : ExecutionJobStatus → ActionStatus
  | .success => .success
  | .partialSuccess => .partialSuccess
  | .failed | .timedOut | .cancelled => .failed
  | .unknown => .unknown
  | .queued | .running => .executing

theorem mapJobToActionStatus_ne {status : ExecutionJobStatus} :
    mapJobToActionStatus status ≠ .approved ∧ mapJobToActionStatus status ≠ .superseded
      ∧ mapJobToActionStatus status ≠ .rolledBack := by
  cases status <;> decide

def activeJob : ExecutionJobStatus → Bool
  | .queued | .running => true
  | _ => false

def activeDelivery : OutboxDeliveryStatus → Bool
  | .ready | .leased | .waitingRetry | .paused => true
  | .delivered | .deadLetter => false

structure ClaimEnv where
  /-- `validate_approval_binding` accepts the latest decided record. -/
  bindingValid : Bool
  fenceOpen : Bool

section

variable (db : Db) (id : ActionId) (row : ActionRow) (env : ClaimEnv) (jobId : JobId)

def hasActiveOutbox (action : ActionId) : Bool :=
  db.outboxes.rows.any fun entry =>
    entry.2.actionId == action && activeDelivery entry.2.deliveryStatus

def findJob (key : ExecutionKey) : Option (JobId × JobRow) :=
  db.jobs.rows.find? fun entry => entry.2.idempotencyKey == key

/-! ### Claiming -/

def validateClaimPreconditions : Except ExecutionError Unit :=
  if !env.fenceOpen then .error .fenceClosed
  else match row.dispositionSourceRef with
    | none =>
      if row.writebackApplicable || row.executionOwner == some .xdrManaged then
        .error .sourceMissing
      else .ok ()
    | some source => if (db.sources.get source).isNone then .error .sourceMissing else .ok ()

def claimChecks : Except ExecutionError Unit :=
  if !env.bindingValid then .error .bindingInvalid
  else if row.status ≠ .approved then .error (.notClaimable row.status)
  else if row.executionPhase = .postVerify then .error .postVerify
  else if row.toolName = .updateSourceEventDisposition then .error .terminalTool
  else if row.supersededByRevision.isSome then .error .superseded
  else if !row.category.humanGated then .error .notExecutable
  else if row.writebackApplicable
      && (row.writebackReadiness != .ready || row.dispositionSourceRef.isNone) then
    .error .readinessBlocked
  else do
    validateClaimPreconditions db row env
    liftTransition (validateActionStatusTransition row.category .approved .executing)

def claimAction (now : Time) : Except ExecutionError (Db × ActionRow) :=
  match db.actions.get id with
  | none => .error .notFound
  | some row => do
    claimChecks db row env
    let claimed := row.moveTo .executing now
    return (db.putAction id claimed, claimed)

def restoreApprovedOwnerless (now : Time) : Except ExecutionError Db :=
  match db.actions.get id with
  | none => .ok db
  | some row =>
    if row.status ≠ .executing then .ok db
    else do
      liftTransition (validateActionStatusTransition row.category .executing .approved
        { actionLevel := row.level, hasApprovalEvidence := true, leaseExpiredReclaim := true })
      return db.putAction id (row.moveTo .approved now)

/-! ### Jobs -/

def movedRow (target : ActionStatus) (now : Time) : Except TransitionError ActionRow :=
  if target = row.status then .ok row
  else do
    validateActionStatusTransition row.category row.status target
    return row.moveTo target now

/-- The action row `_attach_existing_job` leaves. A job that is still open cannot prove whether the
provider acted, so the action becomes `unknown`. -/
def attachedRow (job : JobRow) (now : Time) : Except TransitionError ActionRow :=
  let bound := { row with executionJobId := some jobId }
  if activeJob job.status then do
    validateActionStatusTransition row.category row.status .unknown
    return bound.moveTo .unknown now
  else movedRow bound (mapJobToActionStatus job.status) now

def attachExistingJob (job : JobRow) (now : Time) : Except ExecutionError Db :=
  match db.actions.get id with
  | none => .error .notFound
  | some row => do
    let written ← liftTransition (attachedRow row jobId job now)
    return db.putAction id written

def newJob (key : ExecutionKey) (lease : Time) : JobRow where
  eventId := row.eventId
  actionId := id
  idempotencyKey := key
  status := .running
  leaseExpiresAt := some lease
  attempt := 1
  providerJobId := none

def insertJob (job : JobRow) : Except ExecutionError Db :=
  if (db.jobs.get jobId).isSome then .error .jobIdTaken
  else match db.actions.get id with
    | none => .error .notFound
    | some row =>
      let stored := { db with jobs := db.jobs.set jobId job }
      .ok (stored.putAction id { row with executionJobId := some jobId })

def xdrKey : ExecutionKey :=
  (row.idempotencyKey.map ExecutionKey.own).getD (.xdr id)

def directKey : ExecutionKey :=
  (row.idempotencyKey.map ExecutionKey.own).getD (.direct id)

/-- The logical slots of a command. -/
inductive Slot
  | default | terminal
  | compensation (original : ActionId)

def Slot.index : Slot → Nat
  | .default => 0
  | .terminal => 1
  | .compensation original => original + 2

/-- What the command factory and the fresh identifiers contribute to a command. -/
structure CommandDraft where
  dispositionId : DispositionId
  outboxId : OutboxId
  idempotencyKey : IdempotencyKey
  sourceRecordId : SourceRecordId
  body : Nat
  /-- `OutboundDispositionGuard.validate` lets the command through. -/
  guardAllows : Bool
  deriving DecidableEq

def CommandDraft.args (draft : CommandDraft) (id : ActionId) (row : ActionRow)
    (kind : DispositionIntentKind) (slot : Slot) (target : Option SourceDisposition) :
    Sync.EnqueueArgs where
  command :=
    { actionId := id, dispositionId := draft.dispositionId, closureCycle := row.planRevision
      intentKind := kind, idempotencyKey := draft.idempotencyKey, supersedesDispositionId := none
      targetDisposition := target, body := draft.body }
  eventId := row.eventId
  sourceRecordId := draft.sourceRecordId
  slot := slot.index
  outboxId := draft.outboxId
  guardAllows := draft.guardAllows

def enqueue (db : Db) (args : Sync.EnqueueArgs) : Except ExecutionError Db :=
  match Sync.enqueueCommand db args with
  | .ok (after, _) => .ok after
  | .error error => .error (.enqueue error)

def executeXdrManaged (draft : CommandDraft) (leaseSeconds : Nat) (now : Time) :
    Except ExecutionError (Db × Bool) :=
  match findJob db (xdrKey id row) with
  | some (found, job) => do
    let attached ← attachExistingJob db id found job now
    return (attached, false)
  | none => do
    let inserted ← insertJob db id jobId (newJob id row (xdrKey id row) (now + leaseSeconds))
    let enqueued ← enqueue inserted (draft.args id row .entityActionSubmit .default none)
    return (enqueued, true)

def executeDirectTool (leaseSeconds : Nat) (now : Time) : Except ExecutionError (Db × Bool) :=
  match findJob db (directKey id row) with
  | some (found, job) => do
    let attached ← attachExistingJob db id found job now
    return (attached, false)
  | none => do
    let inserted ← insertJob db id jobId (newJob id row (directKey id row) (now + leaseSeconds))
    return (inserted, true)

def finishDirectTool (terminal : ExecutionJobStatus) (now : Time) : Except ExecutionError Db :=
  match db.actions.get id with
  | none => .error .notFound
  | some row => do
    let written ← liftTransition (movedRow row (mapJobToActionStatus terminal) now)
    return db.putAction id written

def failExecutingAction (now : Time) : Except ExecutionError Db :=
  match db.actions.get id with
  | none => .ok db
  | some row =>
    if row.status ≠ .executing then .ok db
    else do
      liftTransition (validateActionStatusTransition row.category .executing .failed)
      return db.putAction id (row.moveTo .failed now)

/-- What an operator may say about an unknown outcome. -/
inductive UnknownResolution
  | markSuccess | manualConfirmed | markFailed | success | partialSuccess | failed

def UnknownResolution.target : UnknownResolution → ActionStatus
  | .markSuccess | .manualConfirmed | .success => .success
  | .partialSuccess => .partialSuccess
  | .markFailed | .failed => .failed

def resolveUnknown (resolution : UnknownResolution) (now : Time) : Except ExecutionError Db :=
  match db.actions.get id with
  | none => .error .notFound
  | some row =>
    if row.status ≠ .unknown then
      if row.status = resolution.target then .ok db else .error (.notClaimable row.status)
    else do
      liftTransition (validateActionStatusTransition row.category .unknown resolution.target)
      return db.putAction id (row.moveTo resolution.target now)

end

/-! ### What the transactions commit -/

section

variable {db after : Db} {id : ActionId} {now : Time} {jobId : JobId} {job : JobRow}
  {row : ActionRow}

theorem findJob_eq_some {key : ExecutionKey} (found : findJob db key = some (jobId, job)) :
    db.jobs.get jobId = some job ∧ job.idempotencyKey = key := by
  have mem := List.mem_of_find?_eq_some found
  have holds := List.find?_some found
  exact ⟨Table.mem_rows.mp mem, by simpa using holds⟩

theorem findJob_eq_none {key : ExecutionKey} (free : findJob db key = none)
    (found : db.jobs.get jobId = some job) : job.idempotencyKey ≠ key := by
  have none := List.find?_eq_none.mp free (jobId, job) (Table.mem_rows.mpr found)
  simpa using none

/-- What the checks of a claim leave of an action. -/
structure Claimable (row : ActionRow) : Prop where
  approved : row.status = .approved
  immediate : row.executionPhase ≠ .postVerify
  real : row.toolName ≠ .updateSourceEventDisposition
  current : row.supersededByRevision = none
  gated : row.category.humanGated = true

theorem claimChecks_eq_ok {env : ClaimEnv} (checked : claimChecks db row env = .ok ()) :
    Claimable row := by
  unfold claimChecks at checked
  split_ifs at checked with _ approved immediate real current gated
  exact ⟨not_not.mp approved, immediate, real, by simpa using current, by simpa using gated⟩

theorem claimAction_eq_ok {env : ClaimEnv} {claimed : ActionRow}
    (done : claimAction db id env now = .ok (after, claimed)) :
    ∃ row, db.actions.get id = some row ∧ claimChecks db row env = .ok ()
      ∧ claimed = row.moveTo .executing now ∧ after = db.putAction id claimed := by
  unfold claimAction at done
  split at done
  · cases done
  rename_i row found
  obtain ⟨⟨⟩, checked, done⟩ := bind_eq_ok.mp done
  cases done
  exact ⟨row, found, checked, rfl, rfl⟩

theorem restoreApprovedOwnerless_eq_ok (done : restoreApprovedOwnerless db id now = .ok after) :
    after = db ∨ ∃ row, db.actions.get id = some row ∧ row.status = .executing
      ∧ after = db.putAction id (row.moveTo .approved now) := by
  unfold restoreApprovedOwnerless at done
  split at done
  · exact .inl (eq_of_ok done)
  rename_i row found
  split at done
  · exact .inl (eq_of_ok done)
  · rename_i executing
    obtain ⟨-, -, done⟩ := bind_eq_ok.mp done
    exact .inr ⟨row, found, not_not.mp executing, (pure_eq_ok.mp done).symm⟩

theorem attachExistingJob_eq_ok (done : attachExistingJob db id jobId job now = .ok after) :
    ∃ row written, db.actions.get id = some row ∧ attachedRow row jobId job now = .ok written
      ∧ after = db.putAction id written := by
  unfold attachExistingJob at done
  split at done
  · cases done
  · rename_i row found
    obtain ⟨written, moved, done⟩ := bind_eq_ok.mp done
    exact ⟨row, written, found, liftTransition_eq_ok.mp moved, (pure_eq_ok.mp done).symm⟩

theorem insertJob_eq_ok (done : insertJob db id jobId job = .ok after) :
    ∃ row, db.jobs.get jobId = none ∧ db.actions.get id = some row
      ∧ after = { db with
          jobs := db.jobs.set jobId job
          actions := db.actions.set id { row with executionJobId := some jobId } } := by
  unfold insertJob at done
  split at done
  · cases done
  rename_i fresh
  split at done
  · cases done
  · rename_i row found
    exact ⟨row, by simpa using fresh, found, eq_of_ok done⟩

theorem finishDirectTool_eq_ok {terminal : ExecutionJobStatus}
    (done : finishDirectTool db id terminal now = .ok after) :
    ∃ row written, db.actions.get id = some row
      ∧ movedRow row (mapJobToActionStatus terminal) now = .ok written
      ∧ after = db.putAction id written := by
  unfold finishDirectTool at done
  split at done
  · cases done
  · rename_i row found
    obtain ⟨written, moved, done⟩ := bind_eq_ok.mp done
    exact ⟨row, written, found, liftTransition_eq_ok.mp moved, (pure_eq_ok.mp done).symm⟩

theorem failExecutingAction_eq_ok (done : failExecutingAction db id now = .ok after) :
    after = db ∨ ∃ row, db.actions.get id = some row ∧ row.status = .executing
      ∧ validateActionStatusTransition row.category .executing .failed = .ok ()
      ∧ after = db.putAction id (row.moveTo .failed now) := by
  unfold failExecutingAction at done
  split at done
  · exact .inl (eq_of_ok done)
  rename_i row found
  split at done
  · exact .inl (eq_of_ok done)
  rename_i executing
  obtain ⟨⟨⟩, legal, done⟩ := bind_eq_ok.mp done
  exact .inr ⟨row, found, not_not.mp executing, liftTransition_eq_ok.mp legal,
    (pure_eq_ok.mp done).symm⟩

theorem resolveUnknown_eq_ok {resolution : UnknownResolution}
    (done : resolveUnknown db id resolution now = .ok after) :
    after = db ∨ ∃ row, db.actions.get id = some row ∧ row.status = .unknown
      ∧ validateActionStatusTransition row.category .unknown resolution.target = .ok ()
      ∧ after = db.putAction id (row.moveTo resolution.target now) := by
  unfold resolveUnknown at done
  split at done
  · cases done
  rename_i row found
  split at done
  · split at done
    · exact .inl (eq_of_ok done)
    · cases done
  rename_i doubtful
  obtain ⟨⟨⟩, legal, done⟩ := bind_eq_ok.mp done
  exact .inr ⟨row, found, not_not.mp doubtful, liftTransition_eq_ok.mp legal,
    (pure_eq_ok.mp done).symm⟩

theorem enqueue_eq_ok {args : Sync.EnqueueArgs} (done : enqueue db args = .ok after) :
    ∃ outbox, Sync.enqueueCommand db args = .ok (after, outbox) := by
  unfold enqueue at done
  split at done
  · rename_i outbox returned
    cases done
    exact ⟨outbox, returned⟩
  · cases done

theorem movedRow_eq_ok {written : ActionRow} {target : ActionStatus}
    (done : movedRow row target now = .ok written) :
    written.status = target ∧ (written = row
      ∨ validateActionStatusTransition row.category row.status target = .ok ()
        ∧ written = row.moveTo target now) := by
  unfold movedRow at done
  split at done
  · rename_i same
    cases done
    exact ⟨same.symm, .inl rfl⟩
  · obtain ⟨⟨⟩, legal, done⟩ := bind_eq_ok.mp done
    cases done
    exact ⟨rfl, .inr ⟨legal, rfl⟩⟩

/-- **What attaching does to a row**: it is bound to the job, and its status is that of the job, or
`unknown` while the job is open. -/
theorem attachedRow_eq_ok {written : ActionRow}
    (done : attachedRow row jobId job now = .ok written) :
    written = { row with executionJobId := some jobId, status := written.status
                         updatedAt := written.updatedAt }
      ∧ written.status =
        (if activeJob job.status then .unknown else mapJobToActionStatus job.status)
      ∧ (written.status = row.status
        ∨ validateActionStatusTransition row.category row.status written.status = .ok ()) := by
  unfold attachedRow at done
  split at done
  · rename_i active
    obtain ⟨⟨⟩, legal, done⟩ := bind_eq_ok.mp done
    cases done
    rw [if_pos active]
    exact ⟨rfl, rfl, .inr legal⟩
  rename_i ended
  obtain ⟨reached, rfl | ⟨legal, rfl⟩⟩ := movedRow_eq_ok done
  · rw [if_neg ended]
    exact ⟨rfl, reached, .inl rfl⟩
  · rw [if_neg ended]
    exact ⟨rfl, rfl, .inr legal⟩

end

end ShadowTrace.Execution
