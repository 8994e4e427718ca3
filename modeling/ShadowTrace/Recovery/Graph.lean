/-
**The verify and the recovery node** (`app/orchestration/workflow_graph.py`, and the node of
`writeback_recovery_handler.py`).

The verify node runs the verify agent and projects its result into the state of the graph. If the
result asks for it, the graph goes to the recovery node, which works on the first writeback of its
list, drops it when nothing is left to do, and hands over to verify when the list is empty.
-/

import ShadowTrace.Recovery.Handler
import ShadowTrace.Verify.Success

namespace ShadowTrace.Recovery

/-! ### The state of the graph -/

/-- An entry of `verify_failed_writebacks`. Its kind is known from its prefix, or not at all. -/
inductive RecoveryId
  | writeback (id : OutboxId)
  | action (id : ActionId)
  | unprovable (text : Nat)

abbrev StatusMap := List (OutboxId × Option WritebackStatus)

/-- `map[key] = status`. Storing what is there already changes nothing. -/
def StatusMap.assign (map : StatusMap) (key : OutboxId) (status : WritebackStatus) : StatusMap :=
  if map.lookup key = some (some status) then map else (key, some status) :: map

structure GraphState where
  halted : Bool
  overallStatus : Option VerificationOverallStatus
  needActionReplan : Bool
  needWritebackRecovery : Bool
  needManualResolution : Bool
  failedWritebacks : List RecoveryId
  recoverableWritebackIds : List OutboxId
  pendingWritebackActionIds : List ActionId
  writebackStatus : Option WritebackStatus
  statusMap : Option StatusMap
  lookupCount : Nat
  retryCount : Nat
  readiness : WritebackReadiness
  executionOk : Bool

/-- What does not change inside the loop. -/
structure Fixed where
  event : EventId
  db : Db
  plan : Option (List Verify.PlanAction)
  policyRequired : Bool
  /-- The verify agent with the answers it gets, and whether it has a database. -/
  agent : Option (Verify.VerifyEnv × Bool)
  /-- The agent collects its targets in sets; their order is not known. -/
  arrangeWritebacks : List OutboxId → List OutboxId
  arrangeActions : List ActionId → List ActionId
  sameWritebacks : ∀ ids, (arrangeWritebacks ids).Perm ids
  sameActions : ∀ ids, (arrangeActions ids).Perm ids
  resolvers : Bool
  port : Option SyncPort

/-! ### The verify node -/

/-- Verification could not be completed: an operator is asked. -/
def GraphState.manualHold (state : GraphState) : GraphState :=
  { state with
    needActionReplan := false, needWritebackRecovery := false, needManualResolution := true }

def resolveVerifyWritebackStatus (recoverable : List OutboxId)
    (results : List VerificationActionResult) : Option WritebackStatus :=
  recoverable.head?.bind fun target =>
    results.findSome? fun item => if target ∈ item.writebackIds then item.writebackStatus else none

def resolveVerifyWritebackStatuses (recoverable : List OutboxId)
    (results : List VerificationActionResult) : Option StatusMap :=
  let map := results.foldl (fun map item =>
    match item.writebackStatus with
    | none => map
    | some status => (item.writebackIds.filter fun key => decide (key ∈ recoverable)).foldl
        (fun map key => StatusMap.assign map key status) map) ([] : StatusMap)
  if map.isEmpty then none else some map

namespace Fixed

variable (fixed : Fixed)

def verification : Option VerificationResult :=
  fixed.agent.bind fun (env, stored) =>
    (Verify.run env (if stored then some (Verify.still fixed.db) else none) fixed.event
      (fixed.plan.getD []) .effect).toOption

def project (state : GraphState) (result : VerificationResult) : GraphState :=
  let recoverable := fixed.arrangeWritebacks result.recoverableWritebackIds
  { state with
    overallStatus := some result.overallStatus
    needActionReplan := result.needActionReplan
    needWritebackRecovery := result.needWritebackRecovery
    needManualResolution := result.needManualResolution
    failedWritebacks := recoverable.map .writeback
    recoverableWritebackIds := recoverable
    pendingWritebackActionIds := fixed.arrangeActions result.pendingWritebackActionIds
    writebackStatus := resolveVerifyWritebackStatus recoverable result.results
    statusMap := resolveVerifyWritebackStatuses recoverable result.results }

def verifyNode (state : GraphState) : GraphState :=
  if state.halted then state
  else if fixed.policyRequired && fixed.plan.isNone then state.manualHold
  else match fixed.verification with
    | none => state.manualHold
    | some result =>
      let projected := fixed.project state result
      if !state.executionOk && !result.needActionReplan && !result.needWritebackRecovery
          && !result.needManualResolution then projected.manualHold
      else projected

end Fixed

/-! ### The targets of the recovery node -/

/-- What recovery works on. -/
structure Targets where
  recoverable : List OutboxId
  pending : List ActionId
  statusMap : StatusMap

def provenWritebacks (ids : List RecoveryId) : List OutboxId :=
  ids.foldl (fun known id =>
    match id with
    | .writeback key => if key ∈ known then known else known ++ [key]
    | _ => known) []

def provenActions (ids : List RecoveryId) : List ActionId :=
  ids.foldl (fun known id =>
    match id with
    | .action key => if key ∈ known then known else known ++ [key]
    | _ => known) []

/-- `_normalize_recovery_targets`: the ids of a legacy checkpoint, where their kind is known. -/
def normalizeRecoveryTargets (state : GraphState) : List OutboxId × List ActionId :=
  let recoverable := state.recoverableWritebackIds
  let pending := state.pendingWritebackActionIds
  if recoverable.isEmpty && pending.isEmpty then
    (provenWritebacks state.failedWritebacks, provenActions state.failedWritebacks)
  else if recoverable.isEmpty then (provenWritebacks state.failedWritebacks, pending)
  else (recoverable, pending)

def Targets.promote (targets : Targets) (found : OutboxId × WritebackStatus) : Targets :=
  { targets with
    recoverable := if found.1 ∈ targets.recoverable then targets.recoverable
      else targets.recoverable ++ [found.1]
    statusMap := targets.statusMap.assign found.1 found.2 }

namespace Fixed

variable (fixed : Fixed)

def activeOutboxes : List (OutboxId × OutboxRow) :=
  fixed.db.outboxes.rows.filter fun entry =>
    entry.2.eventId == fixed.event && entry.2.supersededByDispositionId.isNone

def actionOutboxes (action : ActionId) : List (OutboxId × WritebackStatus) :=
  (fixed.activeOutboxes.filter fun entry => entry.2.actionId == action).map fun entry =>
    (entry.1, entry.2.latestWritebackStatus.getD .unknown)

section

variable (state : GraphState) (key : OutboxId)

def storedStatus : Option WritebackStatus :=
  (fixed.activeOutboxes.find? fun entry => entry.1 == key).map fun entry =>
    entry.2.latestWritebackStatus.getD .unknown

def refreshPendingAction (targets : Targets) (action : ActionId) : Targets :=
  match fixed.actionOutboxes action with
  | [] => { targets with pending := targets.pending ++ [action] }
  | found => found.foldl Targets.promote targets

def refreshPendingActionTargets (targets : Targets) : Targets :=
  if fixed.resolvers then
    targets.pending.foldl fixed.refreshPendingAction { targets with pending := [] }
  else targets

def refreshStatus (map : StatusMap) (key : OutboxId) : StatusMap :=
  match fixed.storedStatus key with
  | some status => map.assign key status
  | none => map

def refreshRecoverableStatuses (recoverable : List OutboxId) (map : StatusMap) : StatusMap :=
  if fixed.resolvers then recoverable.foldl fixed.refreshStatus map else map

def targets : Targets :=
  let normalized := normalizeRecoveryTargets state
  let refreshed := fixed.refreshPendingActionTargets
    ⟨normalized.1, normalized.2, state.statusMap.getD []⟩
  { refreshed with
    statusMap := fixed.refreshRecoverableStatuses refreshed.recoverable refreshed.statusMap }

/-- The status of a target: its entry, and the scalar only where there is no map. -/
def status (state : GraphState) (key : OutboxId) : Option WritebackStatus :=
  let map := (fixed.targets state).statusMap
  match map.lookup key with
  | some status => status
  | none => if state.statusMap.isSome || !map.isEmpty then none else state.writebackStatus

def writeback : WritebackState where
  writebackId := key
  currentStatus := fixed.status state key
  lookupCount := state.lookupCount
  retryCount := state.retryCount

def handled : WritebackRecoveryResult × WritebackState :=
  execute fixed.port state.readiness (fixed.writeback state key)

end

end Fixed

/-! ### The recovery node -/

section

variable (state : GraphState)

/-- The targets and counters a patch of the node stores; an empty map is stored as none. -/
def GraphState.keep (recoverable : List OutboxId) (targets : Targets)
    (lookupCount retryCount : Nat) :
    GraphState :=
  { state with
    failedWritebacks := recoverable.map .writeback
    recoverableWritebackIds := recoverable
    pendingWritebackActionIds := targets.pending
    statusMap := if targets.statusMap.isEmpty then none else some targets.statusMap
    lookupCount, retryCount }

def GraphState.withoutTargets (pending : List ActionId) : GraphState :=
  if !pending.isEmpty then
    -- `_pending_action_wait_patch`
    { state with
      halted := true
      needActionReplan := false, needWritebackRecovery := true, needManualResolution := false
      failedWritebacks := [], recoverableWritebackIds := []
      pendingWritebackActionIds := pending }
  else if state.needWritebackRecovery then
    -- `_recovery_invariant_failure_patch`
    { state with
      needActionReplan := false, needWritebackRecovery := false, needManualResolution := true
      failedWritebacks := [], recoverableWritebackIds := [], pendingWritebackActionIds := []
      lookupCount := 0, retryCount := 0 }
  else
    { state with
      needActionReplan := false, needWritebackRecovery := false, needManualResolution := false
      recoverableWritebackIds := [], pendingWritebackActionIds := []
      lookupCount := 0, retryCount := 0 }

def GraphState.afterTarget (targets : Targets) (rest : List OutboxId)
    (done : WritebackRecoveryResult × WritebackState) : GraphState :=
  if done.1.escalated then
    { state.keep rest targets 0 0 with
      needActionReplan := false, needWritebackRecovery := false, needManualResolution := true }
  else if done.1.action = .wait then
    { state.keep targets.recoverable targets done.2.lookupCount done.2.retryCount with
      halted := true
      needActionReplan := false, needWritebackRecovery := true, needManualResolution := false }
  else
    let remaining := if done.1.action = .noop ∨ done.1.action = .manual then rest
      else targets.recoverable
    { state.keep remaining targets done.2.lookupCount done.2.retryCount with
      halted := false
      needActionReplan := false
      needWritebackRecovery := !remaining.isEmpty || !targets.pending.isEmpty
        || decide (done.1.action = .lookup ∨ done.1.action = .retry)
      needManualResolution := false }

def Fixed.recoveryNode (fixed : Fixed) (state : GraphState) : GraphState :=
  match (fixed.targets state).recoverable with
  | [] => state.withoutTargets (fixed.targets state).pending
  | key :: rest => state.afterTarget (fixed.targets state) rest (fixed.handled state key)

/-! ### The loop -/

inductive Node
  | verify | writebackRecovery

inductive Exit
  | report | manual | replan | halt

def routeAfterVerify : Node ⊕ Exit :=
  if state.halted then .inr .halt
  else if state.needManualResolution then .inr .manual
  else if state.needWritebackRecovery then .inl .writebackRecovery
  else if state.needActionReplan then .inr .replan
  else if state.overallStatus.any (· != .success) then .inr .manual
  else .inr .report

def routeAfterWritebackRecovery : Node ⊕ Exit :=
  if state.halted then .inr .halt
  else if state.needManualResolution then .inr .manual
  else if state.needWritebackRecovery then .inl .writebackRecovery
  else if state.needActionReplan then .inr .replan
  else .inl .verify

def lead : Node ⊕ Exit → (Node × GraphState) ⊕ Exit
  | .inl node => .inl (node, state)
  | .inr exit => .inr exit

end

/-- One node execution: the next node, or the way out of the loop. -/
def Fixed.next (fixed : Fixed) : Node × GraphState → (Node × GraphState) ⊕ Exit
  | (.verify, state) => lead (fixed.verifyNode state) (routeAfterVerify (fixed.verifyNode state))
  | (.writebackRecovery, state) =>
    lead (fixed.recoveryNode state) (routeAfterWritebackRecovery (fixed.recoveryNode state))

end ShadowTrace.Recovery
