/-
**Where the processes stand.**

`RunnerMove` is the control flow of a process inside `execute_action`: where it may go from where it
stands, and what the move adds to the logs. `RollbackMove` is the control flow of a process inside
`rollback_action` or `complete_approved_rollback`. `Advances` and `Proceeds` say that one process
moves and the others stand where they stood; `SameExecutors` and `SameOthers` that none has moved.
-/

import ShadowTrace.Lifecycle.Moves

namespace ShadowTrace.Lifecycle

open Relational Execution

/-! ### Executors -/

def runnerExecution : Runner → Option DirectRun
  | .inserted exec | .calling exec _ | .waiting exec _ | .storing exec _
  | .comparing exec _ _ | .returned exec | .mocking exec _
  | .finishing exec _ | .recording exec => some exec
  | .idle | .claimed _ _ | .failing _ => none

/-- No dispatch, answer or submit has been logged. -/
structure SameLogs (w after : World) : Prop where
  dispatches : after.dispatches = w.dispatches
  answers : after.answers = w.answers
  submits : after.submits = w.submits

section

variable (cfg : Settings) (w after : World)

/-- The control flow of an executor. -/
inductive RunnerMove : Runner → Runner → Prop
  | kept (logs : SameLogs w after) : RunnerMove runner runner
  | dropped (logs : SameLogs w after) : RunnerMove runner .idle
  | raised {id : ActionId} (guarded : runner.guarded = some id) (logs : SameLogs w after) :
      RunnerMove runner (.failing id)
  | claimed {id : ActionId} (found : w.db.actions.get id = some row)
      (owned : row.executionOwner.isSome = true) (checked : claimChecks w.db row env = .ok ())
      (reached : after.db.actions.get id = some (row.moveTo .executing now))
      (logs : SameLogs w after) : RunnerMove .idle (.claimed id (row.moveTo .executing now))
  | submitted {id : ActionId} (free : findJob w.db (xdrKey id snapshot) = none)
      (born : after.db.jobs.get jobId = some job) (key : job.idempotencyKey = xdrKey id snapshot)
      (dispatches : after.dispatches = w.dispatches) (answers : after.answers = w.answers)
      (submits : after.submits = (xdrKey id snapshot, outbox) :: w.submits) :
      RunnerMove (.claimed id snapshot) .idle
  | inserted {id : ActionId} (direct : snapshot.executionOwner = some .directTool)
      (free : findJob w.db (directKey id snapshot) = none)
      (born : after.db.jobs.get jobId = some (newJob id snapshot (directKey id snapshot) lease))
      (logs : SameLogs w after) :
      RunnerMove (.claimed id snapshot) (.inserted ⟨id, snapshot, jobId⟩)
  | called (real : exec.row.toolName.callNature ≠ .virtual) (logs : SameLogs w after) :
      RunnerMove (.inserted exec) (.calling exec 0)
  | dispatched (dispatches : after.dispatches = exec.key :: w.dispatches)
      (answers : after.answers = w.answers) (submits : after.submits = w.submits) :
      RunnerMove (.calling exec attempt) (.waiting exec attempt)
  | answered (dispatches : after.dispatches = w.dispatches)
      (answers : after.answers = if provider.isResult then exec.key :: w.answers else w.answers)
      (submits : after.submits = w.submits) :
      RunnerMove (.waiting exec attempt) (afterAnswer exec attempt cfg.maxRetries provider)
  | returned (inside : runnerExecution runner = some exec) (logs : SameLogs w after) :
      RunnerMove runner (.returned exec)
  | read (logs : SameLogs w after) : RunnerMove (.storing exec result) (.comparing exec result seen)
  | reread (logs : SameLogs w after) :
      RunnerMove (.returned exec) (afterReturn exec mockMode (w.db.jobs.get exec.job))
  | mocked {completed : MockJob} (dispatches : after.dispatches = w.dispatches)
      (answers : after.answers = exec.key :: w.answers)
      (submits : after.submits = w.submits) :
      RunnerMove (.mocking exec seen) (.finishing exec completed.status)
  | finished (logs : SameLogs w after) : RunnerMove (.finishing exec terminal) (.recording exec)

end

/-- Only the executor `p` may have moved, along its control flow. -/
def Advances (cfg : Settings) (w after : World) (p : ProcId) : Prop :=
  ∃ next, RunnerMove cfg w after (w.runner p) next
    ∧ ∀ other, after.runner other = if other = p then next else w.runner other

section Runners

variable {cfg : Settings} {w : World} {p : ProcId}

theorem runner_setRunner (w : World) (p : ProcId) (next : Runner) (other : ProcId) :
    (w.setRunner p next).runner other = if other = p then next else w.runner other := by
  unfold World.runner World.setRunner
  rw [Table.get_set]
  split_ifs with same
  · rfl
  · rfl

theorem Advances.of_set {after : World} {next : Runner}
    (runners : after.runners = w.runners.set p next)
    (moved : RunnerMove cfg w after (w.runner p) next) :
    Advances cfg w after p := by
  refine ⟨next, moved, fun other => ?_⟩
  rw [← runner_setRunner w p next other]
  unfold World.runner World.setRunner
  rw [runners]

theorem Advances.of_held {after : World} {here next : Runner} (held : w.runner p = here)
    (runners : after.runners = w.runners.set p next)
    (moved : RunnerMove cfg w after here next) : Advances cfg w after p := by
  refine .of_set runners ?_
  rw [held]
  exact moved

end Runners

/-- No executor has moved. -/
structure SameExecutors (w after : World) : Prop extends SameLogs w after where
  runners : after.runners = w.runners

theorem SameExecutors.runner {w after : World} (same : SameExecutors w after)
    (p : ProcId) : after.runner p = w.runner p := by
  unfold World.runner
  rw [same.runners]

/-- Evaluations, rollbacks and logged actions are as they were. -/
structure SameOthers (w after : World) : Prop where
  evaluations : after.evaluations = w.evaluations
  rollbacks : after.rollbacks = w.rollbacks
  planned : after.planned = w.planned
  compensations : after.compensations = w.compensations

/-! ### Rollback processes -/

section

variable (w : World) (op : Op) (after : World)

/-- The control flow of a rollback. -/
inductive RollbackMove :
    RollbackMemory → RollbackMemory → Prop
  | kept : RollbackMove memory memory
  | dropped : RollbackMove memory .idle
  | started (found : w.db.actions.get original = some source)
      (response : source.category = .response) (able : source.status = .success)
      (reached : after.db.actions.get rollback = some row)
      (fingerprint : row.actionFingerprint = .rollback event revision original tool) :
      RollbackMove .idle (continueRollback original source.status rollback row.status)
  | completed (cause : op = .rollback p (.completeApproved rollback))
      (found : w.db.actions.get rollback = some row) (category : row.category = .rollback)
      (linked : row.sourceActionId = some original)
      (there : w.db.actions.get original = some source) (done : row.status = .success) :
      RollbackMove .idle (.executed original source.status rollback .success)
  | resumed (cause : op = .rollback p (.completeApproved rollback))
      (found : w.db.actions.get rollback = some row) (category : row.category = .rollback)
      (linked : row.sourceActionId = some original)
      (there : w.db.actions.get original = some source) :
      RollbackMove .idle (.executing original source.status rollback)
  | returned (found : w.db.actions.get rollback = some row) :
      RollbackMove (.executing original seen rollback) (.executed original seen rollback row.status)
  | graded :
      RollbackMove (.executed original seen rollback .success) (.effective original seen rollback)
  | undone : RollbackMove (.effective original seen rollback) (.compensating original rollback)

end

/-- Only the rollback `p` may have moved, along its control flow. -/
def Proceeds (w : World) (op : Op) (after : World) (p : ProcId) : Prop :=
  ∃ next, RollbackMove w op after (w.rollback p) next
    ∧ ∀ other, after.rollback other = if other = p then next else w.rollback other

section Rollbacks

variable {w after : World} {op : Op} {p : ProcId}

theorem rollback_setRollback (w : World) (p : ProcId) (next : RollbackMemory) (other : ProcId) :
    (w.setRollback p next).rollback other = if other = p then next else w.rollback other := by
  unfold World.rollback World.setRollback
  rw [Table.get_set]
  split_ifs with same
  · rfl
  · rfl

theorem rollback_of_same (rollbacks : after.rollbacks = w.rollbacks) (other : ProcId) :
    after.rollback other = w.rollback other := by
  unfold World.rollback
  rw [rollbacks]

theorem Proceeds.of_held {here next : RollbackMemory} (held : w.rollback p = here)
    (rollbacks : after.rollbacks = w.rollbacks.set p next)
    (moved : RollbackMove w op after here next) : Proceeds w op after p := by
  refine ⟨next, by rwa [held], fun other => ?_⟩
  rw [← rollback_setRollback w p next other]
  exact rollback_of_same rollbacks other

end Rollbacks

end ShadowTrace.Lifecycle
