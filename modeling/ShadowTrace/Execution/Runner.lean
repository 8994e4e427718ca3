/-
**A process inside `execute_action`** (`app/services/action_execution_service.py`,
`app/tools/executor.py`).

`execute_action` commits several transactions and calls the provider between them. A `Runner` is
where such a process stands; a `RunnerOp` takes it one step further, or loses it (`crash`).

The call is the loop of `ToolExecutor.call`: each round asks the convergence guard and the circuit
breaker, dispatches, and waits. A call with side effects is never tried again once dispatched; what
the executor does not know becomes an `unknown` result without a job update.
-/

import ShadowTrace.Execution.Reclaim

namespace ShadowTrace.Execution

inductive ToolResultStatus
  | accepted | success | partialSuccess | failed | unknown | validationError | authError
  | rateLimited | timeout | remoteError | circuitOpen | unsupported
  deriving DecidableEq

structure ToolResult where
  status : ToolResultStatus
  hasJobId : Bool
  providerJobId : Option Nat
  deriving DecidableEq

/-- What a dispatched call comes back with. -/
inductive ProviderAnswer
  | result (received : ToolResult)
  | timeout
  /-- Any other exception of the provider, of the transport or of the validation of its result. -/
  | raised (retryable : Bool)
  /-- `WrongExecutionChannelError` and `BudgetExceededError` are passed on. -/
  | propagated
  /-- `SoftTimeLimitExceeded` is passed on, and nobody writes the action. -/
  | softLimit

/-- What a direct execution carries from its claim to its end. -/
structure DirectRun where
  action : ActionId
  row : ActionRow
  job : JobId
  deriving DecidableEq

section

variable (exec : DirectRun)

def DirectRun.key : ExecutionKey :=
  directKey exec.action exec.row

/-- Where a process stands inside `execute_action`. -/
inductive Runner
  | idle
  | claimed (action : ActionId) (row : ActionRow)
  /-- The job is committed; the checks in front of the call are still to run. -/
  | inserted (exec : DirectRun)
  | calling (exec : DirectRun) (attempt : Nat)
  | waiting (exec : DirectRun) (attempt : Nat)
  | storing (exec : DirectRun) (result : ToolResult)
  | comparing (exec : DirectRun) (result : ToolResult) (seen : JobRow)
  | returned (exec : DirectRun)
  | mocking (exec : DirectRun) (seen : ExecutionJobStatus)
  | finishing (exec : DirectRun) (terminal : ExecutionJobStatus)
  | recording (exec : DirectRun)
  | failing (action : ActionId)
  deriving DecidableEq

inductive Precheck
  | passed | raised
  /-- The configured provider cannot take submissions: a failure result, no dispatch. -/
  | unready

structure MockJob where
  status : ExecutionJobStatus
  providerJobId : Option Nat
  leaseExpiresAt : Option Time
  attempt : Nat

/-- The next thing such a process does. -/
inductive RunnerOp
  | start (action : ActionId) (env : ClaimEnv) (now : Time)
  | restoreOwnerless (now : Time)
  | executeXdr (job : JobId) (draft : Option CommandDraft) (now : Time)
  | executeDirect (job : JobId) (now : Time)
  | prepare (outcome : Precheck)
  | round (guardStops breakerOpen : Bool)
  | answer (provider : ProviderAnswer)
  | readJob
  | compareAndSet (synced : Bool)
  | readReturned (mockMode : Bool)
  | runMock (completed : MockJob) (synced : Bool)
  | finish (now : Time)
  | record (draft : Option CommandDraft)
  | raise
  | fail (now : Time)
  | crash

/-! ### The tool executor -/

/-- An exception of a call: a `TimeoutError` or not, and what `is_retryable` says of it. -/
structure CallFailure where
  timeout : Bool
  retryable : Bool

def shouldRetry (nature : CallNature) (idempotency : Bool) (failure : CallFailure)
    (attempt maxRetries : Nat) (sideEffectDispatched : Bool) : Bool :=
  if attempt ≥ maxRetries then false
  else if nature = .sideEffect then
    if sideEffectDispatched then false
    else if !idempotency then false
    else failure.timeout && idempotency
  else failure.retryable

def jobStatusOfResult (current : ExecutionJobStatus) : ToolResultStatus → ExecutionJobStatus
  | .accepted => .queued
  | .success => .success
  | .partialSuccess => .partialSuccess
  | .unknown => .unknown
  | .timeout => .timedOut
  | .failed => .failed
  | _ => current

def applyJobRow (row : JobRow) (job : MockJob) : JobRow :=
  { row with
    status := job.status, providerJobId := job.providerJobId
    leaseExpiresAt := job.leaseExpiresAt, attempt := job.attempt }

def casUpdateJob (db : Db) (id : JobId) (updated : MockJob) (expected : ExecutionJobStatus)
    (synced : Bool) : Db :=
  match db.jobs.get id with
  | none => db
  | some row =>
    if row.status = expected ∧ synced = true then
      { db with jobs := db.jobs.set id (applyJobRow row updated) }
    else db

def resultUpdate (seen : JobRow) (result : ToolResult) : MockJob where
  status := jobStatusOfResult seen.status result.status
  providerJobId := result.providerJobId <|> seen.providerJobId
  leaseExpiresAt := seen.leaseExpiresAt
  attempt := seen.attempt

/-- The loop sets `dispatch_started` before the dispatch; every registered tool is idempotent. -/
def afterAnswer (attempt maxRetries : Nat) : ProviderAnswer → Runner
  | .result received =>
    if exec.row.toolName.callNature = .sideEffect ∧ received.hasJobId = true then
      .storing exec received
    else .returned exec
  | .timeout =>
    if shouldRetry exec.row.toolName.callNature true ⟨true, true⟩ attempt maxRetries true then
      .calling exec (attempt + 1)
    else .returned exec
  | .raised retryable =>
    if shouldRetry exec.row.toolName.callNature true ⟨false, retryable⟩ attempt maxRetries true then
      .calling exec (attempt + 1)
    else .returned exec
  | .propagated => .failing exec.action
  | .softLimit => .idle

def ProviderAnswer.isResult : ProviderAnswer → Bool
  | .result _ => true
  | _ => false

def afterReturn (mockMode : Bool) : Option JobRow → Runner
  | none => .idle
  | some job =>
    if activeJob job.status && mockMode then .mocking exec job.status
    else .finishing exec job.status

def recordsResult (terminal : ExecutionJobStatus) : Bool :=
  exec.row.writebackApplicable && (terminal == .success || terminal == .partialSuccess)

end

/-- The action a process is working on, where an exception leads to `_fail_executing_action`. -/
def Runner.guarded : Runner → Option ActionId
  | .claimed action _ => some action
  | .inserted exec | .calling exec _ | .storing exec _
  | .comparing exec _ _ | .returned exec | .mocking exec _
  | .finishing exec _ | .recording exec => some exec.action
  | .idle | .waiting _ _ | .failing _ => none

/-- **A call with side effects is not repeated.** Whatever the answer to its dispatch is, the
process does not come back to the head of the loop. -/
theorem afterAnswer_not_calling {exec : DirectRun} {attempt maxRetries : Nat}
    (nature : exec.row.toolName.callNature = .sideEffect) (provider : ProviderAnswer)
    (again : DirectRun) (next : Nat) :
    afterAnswer exec attempt maxRetries provider ≠ .calling again next := by
  have never : ∀ failure, shouldRetry exec.row.toolName.callNature true failure attempt
      maxRetries true = false := by
    intro _
    unfold shouldRetry
    split <;> rfl
  cases provider with
  | result =>
    rw [afterAnswer]
    split <;> simp
  | timeout | raised => simp [afterAnswer, never]
  | propagated | softLimit => simp [afterAnswer]

end ShadowTrace.Execution
