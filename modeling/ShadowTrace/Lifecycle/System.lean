/-
**The action lifecycle as a machine.**

A `World` is the writeback service with its database, what the processes of the other services hold
in memory between their transactions, and what has left the system so far. An `Op` is one
transaction or one call of one process; it carries the clock, the fresh identifiers and the answers
of the outside. So every interleaving of planners, approvers, executors, reconcilers and rollbacks
is a list of operations.

The actions, the jobs and the approval records are written by the modelled services only; events,
reports and source objects are also written by the rest of the application (`others`).
-/

import ShadowTrace.Execution.Runner
import ShadowTrace.Lifecycle.Writers
import ShadowTrace.Rollback.Service
import ShadowTrace.Sync.System

namespace ShadowTrace.Lifecycle

open Relational Execution

abbrev ProcId := Nat

/-- What the deployment configures. -/
structure Settings where
  workerName : Sync.ProcId → WorkerId
  reclaim : ReclaimSettings
  maxRetries : Nat

/-- A process inside `evaluate`, between its check for a record and its write. -/
structure Evaluation where
  action : ActionId
  snapshot : ActionRow
  cycle : Nat

/-- A process inside `rollback_action` or `complete_approved_rollback`. `seen` is the status of the
original action as the process has read it. -/
inductive RollbackMemory
  | idle
  | registering (rollback : ActionId)
  | executing (original : ActionId) (seen : ActionStatus) (rollback : ActionId)
  | executed (original : ActionId) (seen : ActionStatus) (rollback : ActionId)
      (status : ActionStatus)
  | effective (original : ActionId) (seen : ActionStatus) (rollback : ActionId)
  | compensating (original rollback : ActionId)
  deriving DecidableEq

/-- The database, the local memory of every process, and the logs the proofs speak of. -/
structure World where
  sync : Sync.World
  runners : Table ProcId Runner
  evaluations : Table ProcId (Option Evaluation)
  rollbacks : Table ProcId RollbackMemory
  dispatches : List ExecutionKey
  answers : List ExecutionKey
  submits : List (ExecutionKey × OutboxId)
  planned : List ActionId
  compensations : List ActionId

variable (cfg : Settings) (w : World) (p : ProcId)

def World.db : Db := w.sync.db

def World.store (db : Db) : World := { w with sync := { w.sync with db } }

def World.commit {ε : Type} (w : World) : Except ε Db → World
  | .ok db => w.store db
  | .error _ => w

def World.runner : Runner := (w.runners.get p).getD .idle

def World.setRunner (runner : Runner) : World := { w with runners := w.runners.set p runner }

def World.rollback : RollbackMemory :=
  (w.rollbacks.get p).getD .idle

def World.setRollback (memory : RollbackMemory) : World :=
  { w with rollbacks := w.rollbacks.set p memory }

/-- The steps of a rollback, at each of which it can be interrupted. -/
inductive RollbackOp
  | start (original : ActionId) (automated : Bool) (newId : ActionId) (key : IdempotencyKey)
      (env : Rollback.CompensationEnv) (now : Time)
  | completeApproved (rollback : ActionId)
  | register (clock : Approval.Clock)
  | returned
  | raised (now : Time)
  | grade (readback : Option Bool) (now : Time)
  | cas (now : Time)
  | compensate (draft : CommandDraft)
  deriving DecidableEq

/-- A step of the system: one transaction, or one move of a process. -/
inductive Op
  | sync (op : Sync.Op)
  | runner (p : ProcId) (op : RunnerOp)
  | reclaimJob (job : JobId) (now : Time)
  | reclaimAction (action : ActionId) (now : Time)
  | resolveUnknown (action : ActionId) (resolution : UnknownResolution) (now : Time)
  | entityEffect (action : ActionId) (verified synced : Bool) (now : Time)
  | plan (id : ActionId) (event : EventId) (revision : Nat) (candidate : Planning.Candidate)
      (now : Time)
  | supersede (event : EventId) (oldRevision newRevision : Nat) (now : Time)
  | evaluate (p : ProcId) (action : ActionId) (cycle : Nat)
  | persistEvaluation (p : ProcId) (manifest : Approval.Manifest)
      (maxAutoLevel : Option ActionLevel) (clock : Approval.Clock)
  | decide (action : ActionId) (manifest : Approval.Manifest) (bindingValid : Bool)
      (req : Approval.DecisionRequest) (now : Time)
  | timeout (action : ActionId) (cycle : Nat) (now : Time)
  | scanTimeout (action : ActionId) (cycle : Nat) (now : Time)
  | rollback (p : ProcId) (op : RollbackOp)
  | repairCompensation (rollback : ActionId) (draft : CommandDraft)
  | activate (action : ActionId) (env : ActivationEnv) (draft : CommandDraft) (now : Time)
  | dispositionOnly (id : ActionId) (event : EventId) (source : Option SourceRecordId) (now : Time)
  | createVerification (id source : ActionId) (tool : Tool) (now : Time)
  | finalizeVerification (id : ActionId) (outcome : VerificationOutcome) (now : Time)
  | report (id : ActionId) (event : EventId) (revision : Nat) (now : Time)
  | others (events : Table EventId EventRow) (reports : Table ReportId EventId)
      (sources : Table SourceRecordId Nat)

/-! ### Executors -/

def stepExecuteXdr (job : JobId) (draft : Option CommandDraft) (now : Time) : World :=
  match w.runner p with
  | .claimed action row =>
    if row.executionOwner ≠ some .xdrManaged then w
    else match draft with
      | none => w.setRunner p (.failing action)
      | some draft =>
        match executeXdrManaged w.db action row job draft cfg.reclaim.leaseSeconds now with
        | .error _ => w.setRunner p (.failing action)
        | .ok (db, created) =>
          let submits :=
            if created then (xdrKey action row, draft.outboxId) :: w.submits else w.submits
          { (w.store db).setRunner p .idle with submits }
  | _ => w

def stepExecuteDirect (job : JobId) (now : Time) : World :=
  match w.runner p with
  | .claimed action row =>
    if row.executionOwner ≠ some .directTool then w
    else match executeDirectTool w.db action row job cfg.reclaim.leaseSeconds now with
      | .error _ => w.setRunner p (.failing action)
      | .ok (db, created) =>
        (w.store db).setRunner p (if created then .inserted ⟨action, row, job⟩ else .idle)
  | _ => w

def stepRound (guardStops breakerOpen : Bool) : World :=
  match w.runner p with
  | .calling exec attempt =>
    if guardStops || breakerOpen then w.setRunner p (.returned exec)
    else
      { w.setRunner p (.waiting exec attempt) with dispatches := exec.key :: w.dispatches }
  | _ => w

def stepAnswer (provider : ProviderAnswer) : World :=
  match w.runner p with
  | .waiting exec attempt =>
    let moved := w.setRunner p
      (afterAnswer exec attempt cfg.maxRetries provider)
    if provider.isResult then { moved with answers := exec.key :: w.answers } else moved
  | _ => w

def stepFinish (now : Time) : World :=
  match w.runner p with
  | .finishing exec terminal =>
    match finishDirectTool w.db exec.action terminal now with
    | .error _ => w.setRunner p (.failing exec.action)
    | .ok db =>
      (w.store db).setRunner p (if recordsResult exec terminal then .recording exec else .idle)
  | _ => w

def stepRecord (draft : Option CommandDraft) : World :=
  match w.runner p with
  | .recording exec =>
    match draft with
    | none => w.setRunner p (.failing exec.action)
    | some draft =>
      match enqueue w.db (draft.args exec.action exec.row .executionResultRecord .default none) with
      | .error _ => w.setRunner p (.failing exec.action)
      | .ok db => (w.store db).setRunner p .idle
  | _ => w

def stepStart (action : ActionId) (env : ClaimEnv) (now : Time) : World :=
  match w.runner p, w.db.actions.get action with
  | .idle, some row =>
    if row.executionOwner.isNone then w
    else match claimAction w.db action env now with
      | .error _ => w
      | .ok (db, claimed) => (w.store db).setRunner p (.claimed action claimed)
  | _, _ => w

def stepRunner : RunnerOp → World
  | .start action env now => stepStart w p action env now
  | .restoreOwnerless now =>
    match w.runner p with
    | .claimed action row =>
      if row.executionOwner.isSome then w
      else match restoreApprovedOwnerless w.db action now with
        | .error _ => w.setRunner p (.failing action)
        | .ok db => (w.store db).setRunner p .idle
    | _ => w
  | .executeXdr job draft now => stepExecuteXdr cfg w p job draft now
  | .executeDirect job now => stepExecuteDirect cfg w p job now
  | .prepare outcome =>
    match w.runner p with
    | .inserted exec =>
      match outcome with
      | .raised => w.setRunner p (.failing exec.action)
      | .unready => w.setRunner p (.returned exec)
      | .passed =>
        if exec.row.toolName.callNature = .virtual then w.setRunner p (.failing exec.action)
        else w.setRunner p (.calling exec 0)
    | _ => w
  | .round guardStops breakerOpen => stepRound w p guardStops breakerOpen
  | .answer provider => stepAnswer cfg w p provider
  | .readJob =>
    match w.runner p with
    | .storing exec result =>
      match w.db.jobs.get exec.job with
      | none => w.setRunner p (.returned exec)
      | some job => w.setRunner p (.comparing exec result job)
    | _ => w
  | .compareAndSet synced =>
    match w.runner p with
    | .comparing exec result seen =>
      (w.store (casUpdateJob w.db exec.job (resultUpdate seen result) seen.status
        synced)).setRunner p (.returned exec)
    | _ => w
  | .readReturned mockMode =>
    match w.runner p with
    | .returned exec => w.setRunner p (afterReturn exec mockMode (w.db.jobs.get exec.job))
    | _ => w
  | .runMock completed synced =>
    match w.runner p with
    | .mocking exec seen =>
      -- the job the mock provider hands back is its result
      let stored := w.store (casUpdateJob w.db exec.job completed seen synced)
      { stored.setRunner p (.finishing exec completed.status) with
        answers := exec.key :: w.answers }
    | _ => w
  | .finish now => stepFinish w p now
  | .record draft => stepRecord w p draft
  | .raise =>
    match (w.runner p).guarded with
    | some action => w.setRunner p (.failing action)
    | none => w
  | .fail now =>
    match w.runner p with
    | .failing action => (w.commit (failExecutingAction w.db action now)).setRunner p .idle
    | _ => w
  | .crash => w.setRunner p .idle

/-! ### Rollbacks -/

def continueRollback (original : ActionId) (seen : ActionStatus) (rollback : ActionId)
    (status : ActionStatus) : RollbackMemory :=
  match status with
  | .pending => .registering rollback
  | .approved => .executing original seen rollback
  | .success => .executed original seen rollback .success
  | _ => .idle

def stepRollbackStart (original : ActionId) (automated : Bool) (newId : ActionId)
    (key : IdempotencyKey) (env : Rollback.CompensationEnv) (now : Time) : World :=
  match w.rollback p with
  | .idle =>
    match Rollback.rollbackAction w.db original automated newId key env now with
    | .error _ => w
    | .ok (db, start) =>
      let compensations :=
        if start.created && automated then newId :: w.compensations else w.compensations
      { (w.store db).setRollback p
          (continueRollback original start.original.status start.rollbackId start.rollback.status)
        with compensations }
  | _ => w

def stepCompleteApproved (rollback : ActionId) : World :=
  match w.rollback p, w.db.actions.get rollback with
  | .idle, some row =>
    match row.sourceActionId with
    | none => w
    | some original =>
      match w.db.actions.get original with
      | none => w
      | some source =>
        if row.category ≠ .rollback then w
        else if row.status = .success then
          w.setRollback p (.executed original source.status rollback .success)
        else if row.status = .approved ∨ row.status = .executing then
          w.setRollback p (.executing original source.status rollback)
        else w
  | _, _ => w

def stepGrade (readback : Option Bool) (now : Time) : World :=
  match w.rollback p with
  | .executed original seen rollback status =>
    match Rollback.verifyRollbackEffect status readback with
    | .verified | .skipped => w.setRollback p (.effective original seen rollback)
    | .failed | .unverifiable =>
      if status = .success then
        (w.store (Rollback.updateActionStatus w.db rollback .failed now)).setRollback p .idle
      else w.setRollback p .idle
  | _ => w

def enqueueCompensation (original rollback : ActionId) (draft : CommandDraft) : World :=
  match w.db.actions.get rollback with
  | none => w
  | some row => w.commit (enqueue w.db
      (draft.args rollback row .compensationRecord (.compensation original) none))

def stepRollback : RollbackOp → World
  | .start original automated newId key env now =>
    stepRollbackStart w p original automated newId key env now
  | .completeApproved rollback => stepCompleteApproved w p rollback
  | .register clock =>
    match w.rollback p with
    | .registering rollback =>
      (w.commit (Approval.requireManualReview w.db rollback 0 clock)).setRollback p .idle
    | _ => w
  | .returned =>
    match w.rollback p with
    | .executing original seen rollback =>
      match w.db.actions.get rollback with
      | none => w
      | some row => w.setRollback p (.executed original seen rollback row.status)
    | _ => w
  | .raised now =>
    match w.rollback p with
    | .executing _ _ rollback =>
      (w.store (Rollback.updateActionStatus w.db rollback .failed now)).setRollback p .idle
    | _ => w
  | .grade readback now => stepGrade w p readback now
  | .cas now =>
    match w.rollback p with
    | .effective original seen rollback =>
      (w.store (Rollback.casRollbackStatus w.db original seen now)).setRollback p
        (.compensating original rollback)
    | _ => w
  | .compensate draft =>
    match w.rollback p with
    | .compensating original rollback => enqueueCompensation w original rollback draft
    | _ => w

def stepRepairCompensation (rollback : ActionId) (draft : CommandDraft) : World :=
  match w.db.actions.get rollback with
  | none => w
  | some row =>
    match row.sourceActionId with
    | none => w
    | some original =>
      match w.db.actions.get original with
      | none => w
      | some source =>
        if row.category = .rollback ∧ row.status = .success ∧ source.status = .rolledBack then
          enqueueCompensation w original rollback draft
        else w

/-! ### Approvals and planning -/

/-- `evaluate` finds no record and keeps the action it was given. -/
def stepEvaluate (action : ActionId) (cycle : Nat) : World :=
  match w.db.actions.get action, w.db.approvals.get (action, cycle) with
  | some row, none =>
    if Approval.evaluable row then
      { w with evaluations := w.evaluations.set p (some ⟨action, row, cycle⟩) }
    else w
  | _, _ => w

def stepPersistEvaluation (manifest : Approval.Manifest) (maxAutoLevel : Option ActionLevel)
    (clock : Approval.Clock) : World :=
  match w.evaluations.get p with
  | some (some evaluation) =>
    let decided := Approval.evaluateAction evaluation.snapshot manifest maxAutoLevel
    let written := w.commit (Approval.persistEvaluation w.db evaluation.action
      evaluation.snapshot evaluation.cycle decided.decision clock)
    { written with evaluations := w.evaluations.set p none }
  | _ => w

/-- The response agent writes one action; a row it creates is logged. -/
def stepPlan (id : ActionId) (event : EventId) (revision : Nat) (candidate : Planning.Candidate)
    (now : Time) : World :=
  if candidate.tool.category ≠ .response then w
  else
    let row := Planning.materializeAction event revision candidate now
    match Planning.upsertActionRow w.db id row now with
    | .error _ => w
    | .ok db =>
      let planned :=
        if (Planning.findByFingerprint w.db row.actionFingerprint).isNone then id :: w.planned
        else w.planned
      { w.store db with planned }

def step (cfg : Settings) (w : World) : Op → World
  | .sync op =>
    if op.internal then { w with sync := Sync.step cfg.workerName w.sync op }
    else w
  | .runner p op => stepRunner cfg w p op
  | .reclaimJob job now => w.commit (reclaimStaleJobRow w.db job cfg.reclaim now)
  | .reclaimAction action now => w.commit (reclaimStaleExecutingAction w.db action cfg.reclaim now)
  | .resolveUnknown action resolution now =>
    w.commit (Execution.resolveUnknown w.db action resolution now)
  | .entityEffect action verified synced now =>
    w.commit (if verified then finalizeEntityEffect w.db action synced now
      else markEntityEffectUnverified w.db action)
  | .plan id event revision candidate now => stepPlan w id event revision candidate now
  | .supersede event oldRevision newRevision now =>
    w.store (Planning.supersedeUndeployedDeferred w.db event oldRevision newRevision now)
  | .evaluate p action cycle => stepEvaluate w p action cycle
  | .persistEvaluation p manifest maxAutoLevel clock =>
    stepPersistEvaluation w p manifest maxAutoLevel clock
  | .decide action manifest bindingValid req now =>
    w.commit (Approval.decide w.db action manifest bindingValid req now)
  | .timeout action cycle now => w.store (Approval.handleTimeout w.db action cycle now)
  | .scanTimeout action cycle now => w.store (Approval.scanExpired w.db action cycle now)
  | .rollback p op => stepRollback w p op
  | .repairCompensation rollback draft => stepRepairCompensation w rollback draft
  | .activate action env draft now => w.commit (activateAndSubmit w.db action env draft now)
  | .dispositionOnly id event source now =>
    w.store (insertAction w.db id (dispositionOnlyRow event source now))
  | .createVerification id source tool now =>
    w.store (createVerificationAction w.db id source tool now)
  | .finalizeVerification id outcome now => w.store (finalizeVerificationAction w.db id outcome now)
  | .report id event revision now => w.store (upsertReportAction w.db id event revision now)
  | .others events reports sources => w.store { w.db with events, reports, sources }

/-- The start: nothing has been planned. -/
def World.initial (around : Surroundings) : World where
  sync := Sync.World.initial { around with }
  runners := .empty
  evaluations := .empty
  rollbacks := .empty
  dispatches := []
  answers := []
  submits := []
  planned := []
  compensations := []

end ShadowTrace.Lifecycle
