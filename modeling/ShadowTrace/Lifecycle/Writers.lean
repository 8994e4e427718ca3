/-
**The other writers of actions.**

The services below create or move actions next to planning, approval, execution and rollback:

* the deferred disposition (`app/services/event_disposition_service.py`, `activate_and_submit`) and
  the deferred action of a false positive (`app/orchestration/workflow_runtime.py`);
* the readback of an entity effect (`app/services/disposition_sync_service.py`);
* verification actions (`app/agents/verify_agent.py`) and the report action
  (`app/services/event_service.py`).
-/

import ShadowTrace.Execution.Reclaim
import ShadowTrace.Planning.Persist

namespace ShadowTrace.Lifecycle

open Fallible Execution

/-! ### Deferred dispositions -/

section

variable (db : Db) (id : ActionId) (event : EventId) (row : ActionRow)

def activeTerminalOutbox (closureCycle : Nat) : Bool :=
  db.outboxes.rows.any fun entry =>
    entry.2.actionId == id && entry.2.closureCycle == closureCycle && Sync.isActiveHead entry.2
      && entry.2.logicalSlot == Slot.terminal.index

structure ActivationEnv where
  effectsResolved : Bool
  templateUnchanged : Bool
  dispositionAllowed : Bool
  target : SourceDisposition

def deferredAction : Bool :=
  row.toolName == .updateSourceEventDisposition && row.executionPhase == .postVerify
    && row.supersededByRevision.isNone

def activatable (env : ActivationEnv) : Bool :=
  deferredAction row && env.effectsResolved && !activeTerminalOutbox db id row.planRevision
    && row.status == .approved && row.writebackApplicable && row.writebackReadiness == .ready
    && env.dispositionAllowed

theorem activatable_approved {db : Db} {id : ActionId} {row : ActionRow} {env : ActivationEnv}
    (ready : activatable db id row env = true) : row.status = .approved := by
  simp only [activatable, Bool.and_eq_true, beq_iff_eq] at ready
  exact ready.1.1.1.2

def activateAndSubmit (env : ActivationEnv) (draft : CommandDraft) (now : Time) :
    Except ExecutionError Db :=
  match db.actions.get id with
  | none => .error .notFound
  | some row =>
    if !activatable db id row env then .ok db
    else do
      liftTransition (validateActionStatusTransition row.category .approved .executing
        { executionPhase := .postVerify, afterEffectResolution := true
          templateUnchanged := env.templateUnchanged })
      let enqueued ← enqueue db
        (draft.args id row .eventStatusUpdate .terminal (some env.target))
      return enqueued.putAction id (row.moveTo .executing now)

/-- The deferred action the runtime creates for a false positive: approved from the start. -/
def dispositionOnlyRow (source : Option SourceRecordId) (now : Time) : ActionRow where
  eventId := event
  planRevision := 1
  actionFingerprint := .dispositionOnly event
  category := .response
  toolName := .updateSourceEventDisposition
  level := .l2
  executionPhase := .postVerify
  approvedTerminalDispositions := [.ignored]
  status := .approved
  executionOwner := some .xdrManaged
  writebackRequired := true
  writebackApplicable := true
  writebackReadiness := .ready
  dispositionSourceRef := source
  updatedAt := now

def insertAction : Db :=
  if (db.actions.get id).isSome
      || (Planning.findByFingerprint db row.actionFingerprint).isSome then db
  else db.putAction id row

/-! ### Entity effects -/

/-- An entity submit of the action, whose effect a readback can complete. -/
def hasEntitySubmit : Bool :=
  db.outboxes.rows.any fun entry =>
    entry.2.actionId == id && entry.2.intentKind == .entityActionSubmit

def effectTarget : Option (ActionRow × JobId × JobRow) := do
  let row ← db.actions.get id
  let jobId ← row.executionJobId
  let job ← db.jobs.get jobId
  if hasEntitySubmit db id then some (row, jobId, job) else none

def effectJob (job : JobRow) (status : ExecutionJobStatus) : JobRow :=
  { job with status, leaseExpiresAt := none }

def effectRow (now : Time) : Except TransitionError ActionRow :=
  if row.status = .executing then do
    validateActionStatusTransition row.category .executing .success
    return row.moveTo .success now
  else .ok row

def finalizeEntityEffect (synced : Bool) (now : Time) : Except TransitionError Db :=
  match effectTarget db id with
  | none => .ok db
  | some (row, jobId, job) =>
    if terminalJob job.status then .ok db
    else match validateJobStatusTransition job.status .success true with
      | .error error => .error error
      | .ok () =>
        if !synced then .ok db
        else do
          let written ← effectRow row now
          let stored := { db with jobs := db.jobs.set jobId (effectJob job .success) }
          return stored.putAction id written

def markEntityEffectUnverified : Except TransitionError Db :=
  match effectTarget db id with
  | none => .ok db
  | some (_, jobId, job) =>
    if terminalJob job.status || job.status == .unknown then .ok db
    else do
      validateJobStatusTransition job.status .unknown
      return { db with jobs := db.jobs.set jobId (effectJob job .unknown) }

/-! ### Verification and report actions -/

def verificationRow (sourceId : ActionId) (source : ActionRow) (tool : Tool) (now : Time) :
    ActionRow where
  eventId := source.eventId
  planRevision := source.planRevision
  actionFingerprint := .verification tool sourceId
  category := .verification
  toolName := tool
  level := source.level
  status := .executing
  updatedAt := now

def createVerificationAction (id sourceId : ActionId) (tool : Tool) (now : Time) : Db :=
  match db.actions.get sourceId with
  | none => db
  | some source => insertAction db id (verificationRow sourceId source tool now)

inductive VerificationOutcome
  | success | failed | unknown

def VerificationOutcome.status : VerificationOutcome → ActionStatus
  | .success => .success
  | .failed => .failed
  | .unknown => .unknown

def finalizeVerificationAction (outcome : VerificationOutcome) (now : Time) : Db :=
  match db.actions.get id with
  | none => db
  | some row =>
    if row.category ≠ .verification ∨ row.status = .success ∨ row.status = .failed
        ∨ row.status = .unknown then db
    else db.putAction id (row.moveTo outcome.status now)

def reportRow (revision : Nat) (now : Time) : ActionRow where
  eventId := event
  planRevision := revision
  actionFingerprint := .report event revision
  category := .system
  toolName := .generateReport
  level := .l0
  status := .success
  autoExecute := true
  updatedAt := now

def upsertReportAction (revision : Nat) (now : Time) : Db :=
  let row := reportRow event revision now
  match Planning.findByFingerprint db row.actionFingerprint with
  | some (stored, existing) => db.putAction stored (existing.moveTo .success now)
  | none => insertAction db id row

end

/-! ### What the writers commit -/

section

variable {db after : Db} {id : ActionId} {now : Time}

theorem activateAndSubmit_eq_ok {env : ActivationEnv} {draft : CommandDraft}
    (done : activateAndSubmit db id env draft now = .ok after) :
    after = db ∨ ∃ row enqueued, db.actions.get id = some row ∧ activatable db id row env = true
      ∧ validateActionStatusTransition row.category .approved .executing
          { executionPhase := .postVerify, afterEffectResolution := true
            templateUnchanged := env.templateUnchanged } = .ok ()
      ∧ enqueue db (draft.args id row .eventStatusUpdate .terminal (some env.target)) = .ok enqueued
      ∧ after = enqueued.putAction id (row.moveTo .executing now) := by
  unfold activateAndSubmit at done
  split at done
  · cases done
  rename_i row found
  split at done
  · exact .inl (eq_of_ok done)
  rename_i ready
  obtain ⟨⟨⟩, legal, done⟩ := bind_eq_ok.mp done
  obtain ⟨enqueued, stored, done⟩ := bind_eq_ok.mp done
  exact .inr ⟨row, enqueued, found, by simpa using ready, liftTransition_eq_ok.mp legal, stored,
    (pure_eq_ok.mp done).symm⟩

theorem insertAction_cases (db : Db) (id : ActionId) (row : ActionRow) :
    insertAction db id row = db
      ∨ db.actions.get id = none ∧ insertAction db id row = db.putAction id row := by
  unfold insertAction
  split
  · exact .inl rfl
  rename_i fresh
  simp only [Bool.or_eq_true, not_or, Bool.not_eq_true, Option.isSome_eq_false_iff,
    Option.isNone_iff_eq_none] at fresh
  exact .inr ⟨fresh.1, rfl⟩

theorem effectTarget_eq_some {row : ActionRow} {jobId : JobId} {job : JobRow}
    (target : effectTarget db id = some (row, jobId, job)) :
    db.actions.get id = some row ∧ row.executionJobId = some jobId ∧ db.jobs.get jobId = some job
      ∧ hasEntitySubmit db id = true := by
  simp only [effectTarget, Option.bind_eq_bind, Option.bind_eq_some_iff] at target
  obtain ⟨stored, found, bound, present, linked, there, chosen⟩ := target
  split at chosen
  · rename_i submitted
    obtain ⟨rfl, same⟩ := Prod.mk.inj (Option.some.inj chosen)
    cases same
    exact ⟨found, present, there, submitted⟩
  · cases chosen

theorem finalizeEntityEffect_eq_ok {synced : Bool}
    (done : finalizeEntityEffect db id synced now = .ok after) :
    after = db ∨ ∃ row jobId job written, effectTarget db id = some (row, jobId, job)
      ∧ terminalJob job.status = false ∧ effectRow row now = .ok written
      ∧ after = { db with
          jobs := db.jobs.set jobId (effectJob job .success)
          actions := db.actions.set id written } := by
  unfold finalizeEntityEffect at done
  split at done
  · exact .inl (eq_of_ok done)
  rename_i row jobId job target
  split at done
  · exact .inl (eq_of_ok done)
  rename_i open_
  split at done
  · cases done
  split at done
  · exact .inl (eq_of_ok done)
  · obtain ⟨written, moved, done⟩ := bind_eq_ok.mp done
    exact .inr ⟨row, jobId, job, written, target, eq_false_of_ne_true open_, moved,
      (pure_eq_ok.mp done).symm⟩

theorem effectRow_eq_ok {row written : ActionRow} (done : effectRow row now = .ok written) :
    written = row ∨ row.status = .executing
      ∧ validateActionStatusTransition row.category .executing .success = .ok ()
      ∧ written = row.moveTo .success now := by
  unfold effectRow at done
  split at done
  · rename_i executing
    obtain ⟨⟨⟩, legal, done⟩ := bind_eq_ok.mp done
    exact .inr ⟨executing, legal, (pure_eq_ok.mp done).symm⟩
  · exact .inl (eq_of_ok done)

theorem markEntityEffectUnverified_eq_ok (done : markEntityEffectUnverified db id = .ok after) :
    after = db ∨ ∃ row jobId job, effectTarget db id = some (row, jobId, job)
      ∧ terminalJob job.status = false
      ∧ after = { db with jobs := db.jobs.set jobId (effectJob job .unknown) } := by
  unfold markEntityEffectUnverified at done
  split at done
  · exact .inl (eq_of_ok done)
  rename_i row jobId job target
  split at done
  · exact .inl (eq_of_ok done)
  rename_i open_
  rw [Bool.or_eq_true, not_or] at open_
  obtain ⟨⟨⟩, -, done⟩ := bind_eq_ok.mp done
  exact .inr ⟨row, jobId, job, target, eq_false_of_ne_true open_.1, (pure_eq_ok.mp done).symm⟩

end

end ShadowTrace.Lifecycle
