/-
**Reclaiming stale executions** (`reconcile_stale_executions_for_event`).

A reconciler looks for jobs whose lease has run out (`_reclaim_stale_job_row`) and for actions that
have been executing for too long (`_reclaim_stale_executing_action`). A job that has attempts left
goes back to the queue, one that has none times out and fails its action; an action without a live
job goes back to `approved`, and its job id is cleared while the job row stays.
-/

import ShadowTrace.Execution.Jobs

namespace ShadowTrace.Execution

open Fallible

structure ReclaimSettings where
  maxAttempts : Nat
  leaseSeconds : Nat

section

variable (db : Db) (id : ActionId) (row : ActionRow) (cfg : ReclaimSettings) (job : JobRow)

section

variable (now : Time)

def leaseOver : Bool := job.leaseExpiresAt.any fun lease => lease < now

def timedOutJob : JobRow := { job with status := .timedOut, leaseExpiresAt := none }

def requeuedJob : JobRow :=
  { job with status := .queued, leaseExpiresAt := none, attempt := job.attempt + 1 }

def exhaustedRow : ActionRow :=
  { row.moveTo .failed now with executionJobId := none }

def failActionOfJob : Except TransitionError Db :=
  match db.actions.get id with
  | none => .ok db
  | some row =>
    if row.status ≠ .executing then .ok db
    else do
      validateActionStatusTransition row.category .executing .failed
      return db.putAction id (exhaustedRow row now)

/-- Only a running job has to be validated on its way back to the queue. -/
def validateRequeue : Except TransitionError Unit :=
  if job.status = .running then validateJobStatusTransition job.status .queued false true
  else .ok ()

def reclaimStaleJobRow (jobId : JobId) (cfg : ReclaimSettings) (now : Time) :
    Except TransitionError Db :=
  match db.jobs.get jobId with
  | none => .ok db
  | some job =>
    if !leaseOver job now || !activeJob job.status || hasActiveOutbox db job.actionId then .ok db
    else if job.attempt ≥ cfg.maxAttempts then do
      validateJobStatusTransition job.status .timedOut false (job.status == .queued)
      failActionOfJob { db with jobs := db.jobs.set jobId (timedOutJob job) } job.actionId now
    else do
      validateRequeue job
      return { db with jobs := db.jobs.set jobId (requeuedJob job) }

def boundJob : Option JobRow := row.executionJobId.bind db.jobs.get

def terminalJob : ExecutionJobStatus → Bool
  | .success | .partialSuccess | .failed | .timedOut | .cancelled => true
  | .queued | .running | .unknown => false

theorem activeJob_open {status : ExecutionJobStatus} (active : activeJob status = true) :
    terminalJob status = false := by
  cases status <;> first | rfl | cases active

def leaseHeld : Bool :=
  activeJob job.status && job.leaseExpiresAt.any fun lease => now ≤ lease

def reopenedRow : ActionRow :=
  { row.moveTo .approved now with executionJobId := none }

/-- What a reclaim does with an executing action. -/
inductive ReclaimVerdict
  | keep
  | follow (target : ActionStatus)
  | exhaust
  | reopen
  deriving DecidableEq

def reclaimUnended : Option JobRow → ReclaimVerdict
  | none =>
    if hasActiveOutbox db id || row.updatedAt + cfg.leaseSeconds > now then .keep else .reopen
  | some job =>
    if leaseHeld job now || hasActiveOutbox db id then .keep
    else if job.attempt ≥ cfg.maxAttempts then .exhaust
    else .reopen

def reclaimVerdict : ReclaimVerdict :=
  if row.status ≠ .executing || !row.category.humanGated || row.executionPhase ≠ .immediate then
    .keep
  else match boundJob db row with
    | none => reclaimUnended db id row cfg now none
    | some job =>
      if terminalJob job.status then .follow (mapJobToActionStatus job.status)
      else reclaimUnended db id row cfg now (some job)

def reclaimStaleExecutingAction : Except TransitionError Db :=
  match db.actions.get id with
  | none => .ok db
  | some row =>
    match reclaimVerdict db id row cfg now with
    | .keep => .ok db
    | .follow target => do
      validateActionStatusTransition row.category .executing target
      return db.putAction id (row.moveTo target now)
    | .exhaust => do
      validateActionStatusTransition row.category .executing .failed
      return db.putAction id (exhaustedRow row now)
    | .reopen => do
      -- the level is not passed: the check runs with the default `l0`
      validateActionStatusTransition row.category .executing .approved
        { leaseExpiredReclaim := true }
      return db.putAction id (reopenedRow row now)

end

end

/-! ### What reclaiming commits -/

section

variable {db after : Db} {cfg : ReclaimSettings} {now : Time} {id : ActionId} {row : ActionRow}

theorem failActionOfJob_eq_ok (done : failActionOfJob db id now = .ok after) :
    after = db ∨ ∃ row, db.actions.get id = some row ∧ row.status = .executing
      ∧ validateActionStatusTransition row.category .executing .failed = .ok ()
      ∧ after = db.putAction id (exhaustedRow row now) := by
  unfold failActionOfJob at done
  split at done
  · exact .inl (eq_of_ok done)
  rename_i row found
  split at done
  · exact .inl (eq_of_ok done)
  · rename_i executing
    obtain ⟨⟨⟩, legal, done⟩ := bind_eq_ok.mp done
    exact .inr ⟨row, found, not_not.mp executing, legal, (pure_eq_ok.mp done).symm⟩

/-- **What reclaiming a job commits**: nothing, the job requeued, or the job timed out and its
action failed. -/
theorem reclaimStaleJobRow_eq_ok {jobId : JobId}
    (done : reclaimStaleJobRow db jobId cfg now = .ok after) :
    after = db ∨ ∃ job, db.jobs.get jobId = some job ∧ activeJob job.status = true ∧
      (cfg.maxAttempts ≤ job.attempt
          ∧ failActionOfJob { db with jobs := db.jobs.set jobId (timedOutJob job) } job.actionId now
            = .ok after
        ∨ job.attempt < cfg.maxAttempts
          ∧ after = { db with jobs := db.jobs.set jobId (requeuedJob job) }) := by
  unfold reclaimStaleJobRow at done
  split at done
  · exact .inl (eq_of_ok done)
  rename_i job found
  split at done
  · exact .inl (eq_of_ok done)
  rename_i stale
  have active : activeJob job.status = true := by
    simp only [Bool.or_eq_true, Bool.not_eq_true', not_or, Bool.not_eq_false] at stale
    exact stale.1.2
  split at done
  · rename_i spent
    obtain ⟨-, -, done⟩ := bind_eq_ok.mp done
    exact .inr ⟨job, found, active, .inl ⟨spent, done⟩⟩
  · rename_i left
    obtain ⟨-, -, done⟩ := bind_eq_ok.mp done
    exact .inr ⟨job, found, active, .inr ⟨not_le.mp left, (pure_eq_ok.mp done).symm⟩⟩

/-- **Only an immediate response or rollback action that is executing is reclaimed.** -/
theorem reclaimVerdict_ne_keep {given : ReclaimVerdict}
    (verdict : reclaimVerdict db id row cfg now = given) (acts : given ≠ .keep) :
    row.status = .executing ∧ row.category.humanGated = true ∧ row.executionPhase = .immediate := by
  unfold reclaimVerdict at verdict
  split at verdict
  · exact absurd verdict.symm acts
  · rename_i due
    simpa [and_assoc] using due

/-- **What is reopened**: an action without a job that has not been written for a whole lease, or
one whose job is open, unleased and has attempts left. -/
theorem reclaimVerdict_reopen (verdict : reclaimVerdict db id row cfg now = .reopen) :
    hasActiveOutbox db id = false ∧
      (boundJob db row = none ∧ row.updatedAt + cfg.leaseSeconds ≤ now
        ∨ ∃ job, boundJob db row = some job ∧ terminalJob job.status = false
          ∧ leaseHeld job now = false ∧ job.attempt < cfg.maxAttempts) := by
  unfold reclaimVerdict at verdict
  split at verdict
  · cases verdict
  cases bound : boundJob db row with
  | none =>
    simp only [bound, reclaimUnended, Bool.or_eq_true, decide_eq_true_eq] at verdict
    split_ifs at verdict with idle
    simp only [not_or, Bool.not_eq_true, not_lt] at idle
    exact ⟨idle.1, .inl ⟨rfl, idle.2⟩⟩
  | some job =>
    simp only [bound, reclaimUnended, Bool.or_eq_true] at verdict
    split_ifs at verdict with live idle left
    simp only [not_or, Bool.not_eq_true] at idle live
    exact ⟨idle.2, .inr ⟨job, rfl, live, idle.1, not_le.mp left⟩⟩

theorem reclaimVerdict_bound (acts : reclaimVerdict db id row cfg now ≠ .keep)
    (ends : reclaimVerdict db id row cfg now ≠ .reopen) :
    ∃ job, boundJob db row = some job
      ∧ (terminalJob job.status = true ∨ cfg.maxAttempts ≤ job.attempt) := by
  unfold reclaimVerdict at acts ends
  split at acts
  · exact absurd rfl acts
  rename_i due
  rw [if_neg due] at ends
  cases bound : boundJob db row with
  | none =>
    simp only [bound, reclaimUnended] at acts ends
    split at acts
    · exact absurd rfl acts
    · rename_i idle
      simp [idle] at ends
  | some job =>
    refine ⟨job, rfl, ?_⟩
    by_contra open_
    simp only [not_or, not_le] at open_
    simp only [reclaimUnended] at acts ends
    split at acts <;> simp_all

theorem boundJob_eq_some {job : JobRow} (bound : boundJob db row = some job) :
    ∃ jobId, row.executionJobId = some jobId ∧ db.jobs.get jobId = some job :=
  Option.bind_eq_some_iff.mp bound

section

variable (db : Db) (id : ActionId) (row : ActionRow) (cfg : ReclaimSettings) (now : Time)

/-- The row a verdict is committed as. -/
inductive ReclaimCommit : ActionRow → Prop
  | follow (verdict : reclaimVerdict db id row cfg now = .follow target)
      (legal : validateActionStatusTransition row.category .executing target = .ok ()) :
      ReclaimCommit (row.moveTo target now)
  | exhaust (verdict : reclaimVerdict db id row cfg now = .exhaust)
      (legal : validateActionStatusTransition row.category .executing .failed = .ok ()) :
      ReclaimCommit (exhaustedRow row now)
  | reopen (verdict : reclaimVerdict db id row cfg now = .reopen) :
      ReclaimCommit (reopenedRow row now)

end

theorem reclaimStaleExecutingAction_eq_ok
    (done : reclaimStaleExecutingAction db id cfg now = .ok after) :
    after = db ∨ ∃ row next, db.actions.get id = some row
      ∧ ReclaimCommit db id row cfg now next ∧ after = db.putAction id next := by
  unfold reclaimStaleExecutingAction at done
  split at done
  · exact .inl (eq_of_ok done)
  rename_i row found
  split at done
  · exact .inl (eq_of_ok done)
  · rename_i verdict
    obtain ⟨⟨⟩, legal, done⟩ := bind_eq_ok.mp done
    exact .inr ⟨row, _, found, .follow verdict legal, (pure_eq_ok.mp done).symm⟩
  · rename_i verdict
    obtain ⟨⟨⟩, legal, done⟩ := bind_eq_ok.mp done
    exact .inr ⟨row, _, found, .exhaust verdict legal, (pure_eq_ok.mp done).symm⟩
  · rename_i verdict
    obtain ⟨⟨⟩, -, done⟩ := bind_eq_ok.mp done
    exact .inr ⟨row, _, found, .reopen verdict, (pure_eq_ok.mp done).symm⟩

end

end ShadowTrace.Execution
