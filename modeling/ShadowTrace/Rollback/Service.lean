/-
**Rollback and Saga compensation** (`app/services/rollback_service.py`).

A rollback is an action of its own, created (or found again by its fingerprint) under the lock of
the action it undoes. A rollback that a human asked for is approved inline; an automated one at
level `l2` or above starts pending and is registered for approval. Once its execution has returned,
its effect is graded and either the rollback is failed, whatever its status is by then, or the
original action becomes `rolledBack`.
-/

import ShadowTrace.Approval.Engine
import ShadowTrace.Execution.Jobs
import ShadowTrace.Planning.Persist

namespace ShadowTrace.Rollback

open Relational

inductive RollbackWarning
  | actionNotFound | notResponseAction | postVerifyNotRollbackable | unknownStatusCannotRollback
  | partialSuccessCannotRollback | alreadyRolledBack
  | statusCannotRollback (status : ActionStatus)
  | notRollbackable

def preCheckRollbackable (row : ActionRow) : Except RollbackWarning Tool :=
  if row.category ≠ .response then .error .notResponseAction
  else if row.executionPhase = .postVerify then .error .postVerifyNotRollbackable
  else if row.status = .unknown then .error .unknownStatusCannotRollback
  else if row.status = .partialSuccess then .error .partialSuccessCannotRollback
  else if row.rollbackCompleted then .error .alreadyRolledBack
  else if row.status ≠ .success then .error (.statusCannotRollback row.status)
  else match getRollbackTool row.toolName with
    | none => .error .notRollbackable
    | some tool => .ok tool

variable {row : ActionRow} {tool : Tool}

section

variable (checked : preCheckRollbackable row = .ok tool)

include checked

theorem preCheckRollbackable_response : row.category = .response := by
  unfold preCheckRollbackable at checked
  split at checked
  · cases checked
  · rename_i response
    exact not_not.mp response

theorem preCheckRollbackable_success : row.status = .success := by
  unfold preCheckRollbackable at checked
  repeat' split at checked
  all_goals cases checked
  rename_i success _ _
  exact not_not.mp success

theorem preCheckRollbackable_tool : getRollbackTool row.toolName = some tool := by
  unfold preCheckRollbackable at checked
  repeat' split at checked
  all_goals cases checked
  rename_i found
  exact found

end

/-- What the settings and the disposition adapter say about compensations. -/
structure CompensationEnv where
  writebackAllowed : Bool
  adapterSupports : Bool
  deriving DecidableEq

def resolveCompensationReadiness (required : Bool) (owner : Option ExecutionOwner)
    (env : CompensationEnv) : WritebackReadiness :=
  if !required then .notRequired
  else if !env.writebackAllowed then .capabilityUnsupported
  else if owner.getD .directTool = .xdrManaged ∧ env.adapterSupports = false then
    .capabilityUnsupported
  else .ready

def rollbackInitialStatus (level : ActionLevel) (automated : Bool) : ActionStatus × Bool :=
  if automated ∧ (level = .l2 ∨ level = .l3 ∨ level = .l4) then (.pending, false)
  else (.approved, true)

def rollbackRow (originalId : ActionId) (original : ActionRow) (tool : Tool) (automated : Bool)
    (key : IdempotencyKey) (env : CompensationEnv) (now : Time) : ActionRow :=
  let required := original.writebackRequired && original.writebackApplicable
  let initial := rollbackInitialStatus tool.level automated
  { eventId := original.eventId
    planRevision := original.planRevision
    actionFingerprint := .rollback original.eventId original.planRevision originalId tool
    category := .rollback
    toolName := tool
    level := tool.level
    status := initial.1
    autoExecute := initial.2
    executionOwner := some .directTool
    idempotencyKey := some key
    writebackRequired := required
    writebackApplicable := required
    writebackReadiness := resolveCompensationReadiness required original.executionOwner env
    sourceActionId := some originalId
    dispositionSourceRef := original.dispositionSourceRef
    updatedAt := now }

structure RollbackStart where
  rollbackId : ActionId
  rollback : ActionRow
  original : ActionRow
  created : Bool

inductive RollbackError
  | rejected (warning : RollbackWarning)
  | integrity

def rollbackAction (db : Db) (originalId : ActionId) (automated : Bool) (newId : ActionId)
    (key : IdempotencyKey) (env : CompensationEnv) (now : Time) :
    Except RollbackError (Db × RollbackStart) :=
  match db.actions.get originalId with
  | none => .error (.rejected .actionNotFound)
  | some original =>
    match preCheckRollbackable original with
    | .error warning => .error (.rejected warning)
    | .ok tool =>
      let row := rollbackRow originalId original tool automated key env now
      match Planning.findByFingerprint db row.actionFingerprint with
      | some (rollbackId, rollback) =>
        .ok (db, { rollbackId, rollback, original, created := false })
      | none =>
        if (db.actions.get newId).isSome then .error .integrity
        else .ok (db.putAction newId row,
          { rollbackId := newId, rollback := row, original, created := true })

theorem rollbackAction_eq_ok {db after : Db} {originalId newId : ActionId} {automated : Bool}
    {key : IdempotencyKey} {env : CompensationEnv} {now : Time} {start : RollbackStart}
    (done : rollbackAction db originalId automated newId key env now = .ok (after, start)) :
    ∃ tool, db.actions.get originalId = some start.original
      ∧ preCheckRollbackable start.original = .ok tool
      ∧ start.rollback.actionFingerprint
        = .rollback start.original.eventId start.original.planRevision originalId tool
      ∧ after.actions.get start.rollbackId = some start.rollback
      ∧ (start.created = false ∧ after = db
        ∨ start.rollbackId = newId ∧ db.actions.get newId = none
          ∧ start.rollback = rollbackRow originalId start.original tool automated key env now
          ∧ after = db.putAction newId start.rollback) := by
  unfold rollbackAction at done
  split at done
  · cases done
  rename_i found
  split at done
  · cases done
  rename_i tool checked
  dsimp only at done
  split at done
  · rename_i there
    cases done
    obtain ⟨stored, fingerprint⟩ := Planning.findByFingerprint_eq_some there
    exact ⟨tool, found, checked, fingerprint, stored, .inl ⟨rfl, rfl⟩⟩
  split at done
  · cases done
  rename_i fresh
  cases done
  refine ⟨tool, found, checked, rfl, Table.get_set_self, .inr ⟨rfl, ?_, rfl, rfl⟩⟩
  simpa using fresh

def updateActionStatus (db : Db) (id : ActionId) (status : ActionStatus) (now : Time) : Db :=
  { db with actions := db.actions.modify id fun row => row.moveTo status now }

def rolledBackRow (row : ActionRow) (now : Time) : ActionRow :=
  { row.moveTo .rolledBack now with rollbackCompleted := true }

def rollbackable : ActionStatus → Bool
  | .success | .partialSuccess => true
  | _ => false

def casRollbackStatus (db : Db) (id : ActionId) (seen : ActionStatus) (now : Time) : Db :=
  match db.actions.get id with
  | none => db
  | some row =>
    if rollbackable seen && rollbackable row.status then db.putAction id (rolledBackRow row now)
    else db

inductive EffectStatus
  | verified | failed | unverifiable | skipped
  deriving DecidableEq

def executionEffectStatus : ActionStatus → EffectStatus
  | .success => .verified
  | .partialSuccess | .unknown => .unverifiable
  | _ => .failed

def verifyRollbackEffect (executed : ActionStatus) (readback : Option Bool) : EffectStatus :=
  match executionEffectStatus executed with
  | .verified => match readback with
    | none => .skipped
    | some true => .verified
    | some false => .failed
  | grade => grade

theorem verifyRollbackEffect_success {executed : ActionStatus} {readback : Option Bool}
    (effective : verifyRollbackEffect executed readback = .verified
      ∨ verifyRollbackEffect executed readback = .skipped) : executed = .success := by
  cases executed <;> simp_all [verifyRollbackEffect, executionEffectStatus]

theorem verifyRollbackEffect_refuted {readback : Option Bool}
    (refuted : verifyRollbackEffect .success readback ≠ .verified
      ∧ verifyRollbackEffect .success readback ≠ .skipped) : readback = some false := by
  rcases readback with _ | _ | _
  · exact absurd rfl refuted.2
  · rfl
  · exact absurd rfl refuted.1

/-- **An automated rollback at level `l2` or above starts pending.** No rollback tool of the
catalogue is above `l4`. -/
theorem rollbackInitialStatus_automated {undo : Tool} (found : getRollbackTool tool = some undo)
    (gated : undo.level.autoApprovable = false) :
    rollbackInitialStatus undo.level true = (.pending, false) := by
  cases tool <;> simp only [getRollbackTool, Option.some.injEq, reduceCtorEq] at found <;>
    subst found <;> first | rfl | cases gated

/-! ### A finished rollback -/

/-- A block of an address, rolled back. -/
def sampleOriginal : ActionRow :=
  { Planning.materializeAction 1 1
      { tool := .blockIp, owner := some .directTool, approvedTerminalDispositions := []
        writebackRequired := true, writebackApplicable := true, writebackReadiness := .ready
        source := some 1, dispositionKey := 0, content := 1 } 0 with
    status := .rolledBack, rollbackCompleted := true }

def sampleUndoing (original : ActionId) (row : ActionRow) : ActionRow :=
  { rollbackRow original row .unblockIp false 7
      { writebackAllowed := true, adapterSupports := true } 0 with status := .success }

end ShadowTrace.Rollback
