/-
**The ledger of agent tasks** (`app/services/agent_task_service.py`, `app/models/agent_task.py`).

A task waits in the queue, is claimed by a worker under a lease and a fencing token, runs, and ends.
Every operation is one transaction on the locked row of the task; the clock it reads and whatever
the caller presents are part of the label. The calls of a worker take the claim it was given, sweeps
and retries the identifier alone. The world keeps the log of the writes.
-/

import ShadowTrace.Lib.Runs
import ShadowTrace.Lib.Table
import ShadowTrace.Lib.Fallible

namespace ShadowTrace.Tasks

open Relational Fallible

inductive AgentTaskStatus
  | queued | claimed | running | completed | failed | cancelled | expired | dead | manual
  deriving DecidableEq

def AgentTaskStatus.terminal : AgentTaskStatus → Bool
  | .queued | .claimed | .running => false
  | _ => true

inductive SideEffectStatus
  | none | unknown
  deriving DecidableEq

inductive TaskError
  | denied (message : String)
  | validation (message : String)
  | illegal (current target : AgentTaskStatus)

/-- The typed goal; `stagedHashes` is `parameters[STAGED_ARTIFACT_HASHES_KEY]`. -/
structure AgentTaskGoal where
  (schemaVersion taskType : String)
  contextRefs : List String
  (parameters stagedHashes : List (String × String))
  toolCallGrantId : Option String
  deriving DecidableEq

structure AgentTaskRow where
  (eventId tenantId : String)
  goal : AgentTaskGoal
  status : AgentTaskStatus
  (revision attempt : Nat)
  (claimOwner fencingTokenHash : Option String)
  leaseExpiresAt : Option Int
  sideEffectStatus : SideEffectStatus
  idempotencyKey : String
  lastError : Option String
  updatedAt : Int
  deriving DecidableEq

structure AgentTaskClaim where
  (taskId fencingToken : String)
  leaseExpiresAt : Int
  attempt : Nat
  workerPrincipal : String
  revision : Nat
  deriving DecidableEq

structure AgentTaskEnqueueRequest where
  (eventId tenantId : String)
  goal : AgentTaskGoal
  idempotencyKey : String

structure AgentTaskClaimRequest where
  (taskId workerPrincipal tenantId : String)
  leaseSeconds : Nat

/-- The hash of a token, without collisions, and the size of the canonical parameters. -/
structure Digests where
  hashToken : String → String
  parameterBytes : AgentTaskGoal → Nat
  injective : Function.Injective hashToken

def maxGoalParametersBytes : Nat := 8192

def allowedTransitions (allowRetry : Bool) : AgentTaskStatus → List AgentTaskStatus
  | .queued => [.claimed, .cancelled, .expired]
  | .claimed => [.running, .queued, .cancelled, .expired]
  | .running => [.completed, .failed, .cancelled, .manual, .dead]
  | .failed | .expired => if allowRetry then [.queued] else []
  | _ => []

def validateAgentTaskTransition (current target : AgentTaskStatus) (allowRetry : Bool) :
    Except TaskError Unit :=
  check (current == target || decide (target ∈ allowedTransitions allowRetry current))
    (.illegal current target)

section

variable (digests : Digests) (row : AgentTaskRow) (errorSummary : String)
  (req : AgentTaskClaimRequest)

def AgentTaskRow.unclaimed : AgentTaskRow :=
  { row with claimOwner := none, fencingTokenHash := none, leaseExpiresAt := none }

/-! ### Claims -/

def leaseValid (now : Int) : Bool := row.leaseExpiresAt.any (now < ·)

def claimRow (tokenHash : String) (now : Int) (row : AgentTaskRow) :
    Except TaskError AgentTaskRow := do
  check (row.tenantId == req.tenantId) (.denied "cross-tenant task claim denied")
  check (!row.status.terminal) (.denied "task already terminal")
  check (row.status != .running) (.denied "task already running")
  check (!(row.status == .claimed && leaseValid row now))
    (.denied (if row.claimOwner = some req.workerPrincipal then
      "task already claimed by this worker" else "task claimed by another worker"))
  check (row.status == .queued || row.status == .claimed) (.denied "task not claimable")
  validateAgentTaskTransition row.status .claimed false
  pure
    { row with
      status := .claimed
      attempt := row.attempt + 1
      claimOwner := some req.workerPrincipal
      fencingTokenHash := some tokenHash
      leaseExpiresAt := some (now + req.leaseSeconds)
      updatedAt := now }

def issuedClaim (token : String) (now : Int) (row : AgentTaskRow) : AgentTaskClaim where
  taskId := req.taskId
  fencingToken := token
  leaseExpiresAt := now + req.leaseSeconds
  attempt := row.attempt + 1
  workerPrincipal := req.workerPrincipal
  revision := row.revision

/-! ### The calls of a worker -/

structure Transition where
  target : AgentTaskStatus
  requireStatus : List AgentTaskStatus
  terminal : Bool := true
  errorSummary : Option String := none
  sideEffectStatus : Option SideEffectStatus := none

/-- `_transition`: a terminal status that is asked for again is returned as it is. -/
def transition (digests : Digests) (spec : Transition) (claim : AgentTaskClaim) (now : Int)
    (row : AgentTaskRow) : Except TaskError (Option AgentTaskRow) :=
  if row.status.terminal then do
    check (row.status == spec.target) (.denied "terminal transition already recorded")
    pure none
  else do
    check (row.claimOwner == some claim.workerPrincipal)
      (.denied "stale worker: claim_owner mismatch")
    check (row.fencingTokenHash == some (digests.hashToken claim.fencingToken))
      (.denied "stale worker: fencing token mismatch")
    check (row.attempt == claim.attempt) (.denied "stale worker: attempt mismatch")
    -- the end of the lease is the one the caller presents
    check (!decide (claim.leaseExpiresAt < now) || spec.target == .expired)
      (.denied "task lease expired")
    check (decide (row.status ∈ spec.requireStatus)) (.denied "invalid task status for transition")
    validateAgentTaskTransition row.status spec.target false
    let kept := if spec.terminal then row.unclaimed else row
    pure (some
      { kept with
        status := spec.target
        updatedAt := now
        lastError := if spec.errorSummary.any (· ≠ "") then spec.errorSummary else row.lastError
        sideEffectStatus := spec.sideEffectStatus.getD row.sideEffectStatus })

/-- What the grant service knows of the grant a task is bound to. -/
structure BoundGrant where
  (eventId tenantId : String)
  taskId : Option String

/-- How the check of a bound grant goes: the token that is presented, and the answer of the grant
service, which may be missing or refuse the token. -/
structure GrantCheck where
  (presented serviceThere : Bool)
  grant : Option BoundGrant

/-- `_validate_bound_grant`. It reads the row before the transaction of the transition; the columns
it reads never change. -/
def validateBoundGrant (taskId tenantId : String) (bound : GrantCheck) (row : AgentTaskRow) :
    Except TaskError Unit := do
  check (row.tenantId == tenantId) (.denied "cross-tenant read denied")
  if row.goal.toolCallGrantId.all (· = "") then return
  check bound.presented (.denied "bound tool call grant required")
  check bound.serviceThere (.denied "grant service unavailable for bound task")
  match bound.grant with
  | none => .error (.denied "forged or invalid tool call grant")
  | some grant => do
    check (grant.eventId == row.eventId) (.denied "grant event_id mismatch")
    check (grant.tenantId == tenantId) (.denied "grant tenant mismatch")
    check (grant.taskId.all fun id => id == "" || id == taskId) (.denied "grant task_id mismatch")

/-- The calls of a worker that holds a claim. -/
inductive Worker
  | start (tenantId : String) (bound : GrantCheck)
  | complete
  | fail (errorSummary : String) (sideEffectUnknown : Bool)
  | cancel
  | expire
  | markDead (errorSummary : String)
  | recordStagedArtifactHash (tenantId logicalArtifactKey contentHash : String)

def startSpec : Transition := { target := .running, requireStatus := [.claimed], terminal := false }

def completeSpec : Transition := { target := .completed, requireStatus := [.running] }

def failSpec (sideEffectUnknown : Bool) : Transition where
  target := if sideEffectUnknown then .manual else .failed
  requireStatus := [.running]
  errorSummary := some (errorSummary.take 1024).toString
  sideEffectStatus := some (if sideEffectUnknown then .unknown else .none)

def cancelSpec : Transition := { target := .cancelled, requireStatus := [.claimed, .running] }

def expireSpec : Transition := { target := .expired, requireStatus := [.claimed, .running] }

def markDeadSpec : Transition where
  target := .dead
  requireStatus := [.running]
  errorSummary := some (errorSummary.take 1024).toString

def AgentTaskGoal.stage (goal : AgentTaskGoal) (key hash : String) : AgentTaskGoal :=
  { goal with stagedHashes := (key, hash) :: goal.stagedHashes.filter (·.1 ≠ key) }

/-- `record_staged_artifact_hash`: of the claim it looks at the attempt only. -/
def recordStagedArtifactHash (claim : AgentTaskClaim) (tenantId key hash : String) (now : Int)
    (row : AgentTaskRow) : Except TaskError AgentTaskRow := do
  check (hash.length == 64) (.validation "staged artifact hash must be 64 hex chars")
  check (row.tenantId == tenantId) (.denied "cross-tenant staged hash denied")
  check (row.status == .running) (.denied "only running tasks may record staged artifact hash")
  check (row.attempt == claim.attempt) (.denied "stale worker: attempt mismatch")
  pure { row with goal := row.goal.stage key hash, updatedAt := now }

def Worker.run (claim : AgentTaskClaim) (now : Int) (row : AgentTaskRow) :
    Worker → Except TaskError (Option AgentTaskRow)
  | .start tenantId bound => do
    validateBoundGrant claim.taskId tenantId bound row
    transition digests startSpec claim now row
  | .complete => transition digests completeSpec claim now row
  | .fail summary unknown => transition digests (failSpec summary unknown) claim now row
  | .cancel => transition digests cancelSpec claim now row
  | .expire => transition digests expireSpec claim now row
  | .markDead summary => transition digests (markDeadSpec summary) claim now row
  | .recordStagedArtifactHash tenantId key hash =>
    (Tasks.recordStagedArtifactHash claim tenantId key hash now row).map some

/-! ### Sweeps and retries -/

/-- The sweeps over stale rows. -/
inductive Sweep
  | expireStaleClaim
  | reconcileStaleRunning (staleAfterSeconds : Nat)
  | reconcileCompletedWithoutArtifact
  | retryToQueue

def Sweep.run (tenantId : String) (now : Int) (row : AgentTaskRow) :
    Sweep → Except TaskError AgentTaskRow
  | .expireStaleClaim => do
    check (row.tenantId == tenantId) (.denied "cross-tenant expire denied")
    check (row.status == .claimed) (.denied "only claimed tasks may expire via sweeper")
    check (row.leaseExpiresAt.any (· ≤ now)) (.denied "task lease has not expired")
    validateAgentTaskTransition row.status .expired false
    pure { row.unclaimed with status := .expired, updatedAt := now }
  | .reconcileStaleRunning staleAfterSeconds => do
    check (row.tenantId == tenantId) (.denied "cross-tenant reconcile denied")
    check (row.status == .running) (.denied "only running tasks may reconcile via stale sweeper")
    check (decide (row.updatedAt < now - staleAfterSeconds))
      (.denied "running task is not stale yet")
    -- the side effects of the lost worker stay recorded as `none`
    pure
      { row.unclaimed with
        status := .failed, lastError := some "stale_running_sweeper", updatedAt := now }
  | .reconcileCompletedWithoutArtifact => do
    check (row.tenantId == tenantId) (.denied "cross-tenant reconcile denied")
    check (row.status == .completed) (.denied "only completed tasks may reconcile missing artifact")
    pure
      { row.unclaimed with
        status := .failed, lastError := some "completed_without_artifact", updatedAt := now }
  | .retryToQueue => do
    check (row.tenantId == tenantId) (.denied "cross-tenant retry denied")
    check (row.sideEffectStatus != .unknown)
      (.denied "side_effect unknown — manual resolution required")
    check (row.status == .failed || row.status == .expired)
      (.denied "only failed or expired tasks may retry")
    validateAgentTaskTransition row.status .queued true
    pure { row.unclaimed with status := .queued, revision := row.revision + 1, updatedAt := now }

/-! ### The ledger -/

/-- What the log keeps. -/
inductive Entry
  | claimed (claim : AgentTaskClaim)
  | worked (taskId : String) (call : Worker)
  | swept (taskId : String) (call : Sweep)

def Entry.taskId : Entry → String
  | .claimed claim => claim.taskId
  | .worked taskId _ | .swept taskId _ => taskId

structure World where
  tasks : Table String AgentTaskRow
  log : List Entry

def World.fresh : World := ⟨.empty, []⟩

inductive Op
  | enqueue (taskId : String) (req : AgentTaskEnqueueRequest) (now : Int)
  | claim (req : AgentTaskClaimRequest) (token : String) (now : Int)
  | work (call : Worker) (claim : AgentTaskClaim) (now : Int)
  | sweep (call : Sweep) (taskId tenantId : String) (now : Int)

def queuedRow (req : AgentTaskEnqueueRequest) (now : Int) : AgentTaskRow where
  eventId := req.eventId
  tenantId := req.tenantId
  goal := req.goal
  status := .queued
  revision := 1
  attempt := 0
  claimOwner := none
  fencingTokenHash := none
  leaseExpiresAt := none
  sideEffectStatus := .none
  idempotencyKey := req.idempotencyKey
  lastError := none
  updatedAt := now

variable (w : World)

/-- The insert violates a key: the identifier, or the idempotency key of the tenant. -/
def World.violates (taskId : String) (req : AgentTaskEnqueueRequest) : Bool :=
  (w.tasks.get taskId).isSome
    || w.tasks.rows.any fun (_, row) =>
      row.tenantId == req.tenantId && row.idempotencyKey == req.idempotencyKey

/-- The row of a task is locked, and what the transaction returns is written and logged. -/
def World.onRow (taskId : String)
    (change : AgentTaskRow → Except TaskError (Option (AgentTaskRow × Entry))) : World :=
  match w.tasks.get taskId with
  | none => w
  | some row =>
    match change row with
    | .ok (some (next, entry)) => ⟨w.tasks.set taskId next, entry :: w.log⟩
    | _ => w

/-- One call. A replayed `enqueue` writes nothing, whether it is answered or denied. -/
def step : Op → World
  | .enqueue taskId req now =>
    if digests.parameterBytes req.goal > maxGoalParametersBytes
      || w.violates taskId req then w
    else { w with tasks := w.tasks.set taskId (queuedRow req now) }
  | .claim req token now =>
    w.onRow req.taskId fun row =>
      (claimRow req (digests.hashToken token) now row).map fun next =>
        some (next, .claimed (issuedClaim req token now row))
  | .work call claim now =>
    w.onRow claim.taskId fun row =>
      (call.run digests claim now row).map
        (Option.map fun next => (next, .worked claim.taskId call))
  | .sweep call taskId tenantId now =>
    w.onRow taskId fun row =>
      (call.run tenantId now row).map fun next => some (next, .swept taskId call)

end

end ShadowTrace.Tasks
