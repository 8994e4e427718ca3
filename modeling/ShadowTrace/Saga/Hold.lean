/-
**The manual hold of a Saga compensation** (`app/orchestration/replan_handler.py`,
`app/orchestration/graph_resume.py`, `manual_hold_node` of `workflow_graph.py`).

Before a replan, the actions that took effect are rolled back. One result that is not complete puts
the event on hold, until the hold is found resolved.

The two judge different things. The hold is entered for a result that is not rolled back, but also
for one whose compensation record is not confirmed; it is lifted by looking at the results that are
not rolled back, and at nothing else when there are any.
-/

import Mathlib.Data.List.Dedup
import ShadowTrace.Rollback.Service

namespace ShadowTrace.Saga

open Relational
open Rollback (sampleOriginal sampleUndoing)

/-! ### Recorded results -/

structure RollbackRecord where
  rollbackActionId : Option ActionId
  rolledBack : Bool
  warning : Bool
  compensationWritebackRequired : Bool
  compensationWritebackStatus : Option WritebackStatus

/-- `_degraded_flag_name`, the part of a flag in front of the equals sign. -/
inductive FlagName
  | missingResponsePlanForRequiredPolicy | dispositionActivationFailed
  | dispositionWritebackBlocked | executionFailedUnverified | sagaCompensationIncomplete
  | verifyDegraded
  | other (name : Nat)
  deriving DecidableEq

structure DegradedFlag where
  name : FlagName
  value : Option Nat
  deriving DecidableEq

/-- An identifier in `manual_hold_pending_ids`. Writebacks and actions draw theirs from different
prefixes. -/
inductive PendingId
  | writeback (id : OutboxId)
  | action (id : ActionId)
  deriving DecidableEq

section

variable (flags : List DegradedFlag) (db : Db) (rollback : ActionId) (pending : List PendingId)
  (results : List RollbackRecord)

/-- Some result puts the event on hold. -/
def compensationIncomplete : Bool :=
  results.any fun item => !item.rolledBack || item.warning
    || (item.compensationWritebackRequired && item.compensationWritebackStatus != some .confirmed)

def sagaFlag : DegradedFlag := ⟨.sagaCompensationIncomplete, none⟩

def flagged (name : FlagName) : Bool :=
  flags.any fun flag => flag.name == name

/-- What the rollback service answers. -/
inductive Compensation
  | unavailable
  | raised
  | returned (results : List RollbackRecord)

/-- Roll back and record the results. -/
def compensateBeforeReplan (failedActions : List (Option ActionId)) (compensation : Compensation)
    (existing : List DegradedFlag) : List RollbackRecord × List DegradedFlag × Bool :=
  let blocked := if existing.contains sagaFlag then existing else existing ++ [sagaFlag]
  if failedActions.isEmpty then ([], existing, false)
  else match compensation with
    | .unavailable => ([], blocked, false)
    | .raised => ([], blocked, false)
    | .returned results =>
      if failedActions.all Option.isNone then ([], blocked, false)
      else if compensationIncomplete results then (results, blocked, false)
      else (results, existing.filter fun flag => flag.name != .sagaCompensationIncomplete,
        flagged existing .sagaCompensationIncomplete)

/-! ### Holding and resuming -/

def PendingId.actionId : PendingId → Option ActionId
  | .writeback _ => none
  | .action id => some id

structure Values where
  halted : Bool
  verifyNeedWritebackRecovery : Bool
  verifyNeedManualResolution : Bool
  verifyFailedWritebacks : List OutboxId
  verifyRecoverableWritebackIds : List OutboxId
  verifyPendingWritebackActionIds : List ActionId
  verifyFailedActions : List ActionId
  manualHoldPendingIds : List PendingId
  rollbackResults : List RollbackRecord
  degradedFlags : List DegradedFlag
  dispositionPolicy : Option DispositionPolicy

def unresolvedResults : List RollbackRecord :=
  results.filter fun item => !item.rolledBack

def namedRollbacks : List PendingId :=
  results.filterMap fun item => item.rollbackActionId.map PendingId.action

def manualHoldPendingIds (values : Values) : List PendingId :=
  (values.verifyFailedWritebacks.map PendingId.writeback
    ++ values.verifyRecoverableWritebackIds.map PendingId.writeback
    ++ values.verifyPendingWritebackActionIds.map PendingId.action
    ++ values.verifyFailedActions.map PendingId.action
    ++ namedRollbacks (unresolvedResults values.rollbackResults)).eraseDups

def consulted : List PendingId :=
  let named := namedRollbacks (unresolvedResults results)
  if named.isEmpty then pending.dedup else named.dedup

def compensationRecords : List OutboxRow :=
  (db.outboxes.rows.filter fun entry =>
    entry.2.actionId == rollback && entry.2.intentKind == .compensationRecord
      && entry.2.supersededByDispositionId.isNone).map Prod.snd

def compensated (row : ActionRow) : Bool :=
  !(row.writebackRequired && row.writebackApplicable)
    || (!(compensationRecords db rollback).isEmpty
      && (compensationRecords db rollback).all fun record =>
        record.latestWritebackStatus == some .confirmed)

/-- The hold can be lifted. -/
def sagaManualHoldResolved : Bool :=
  if (unresolvedResults results).any fun item => item.rollbackActionId.isNone then false
  else
    let ids := consulted pending results
    if ids.isEmpty then false
    else
      let rollbackRows := db.actions.select (ids.filterMap PendingId.actionId) fun row =>
        row.category == .rollback
      if rollbackRows.length ≠ ids.length then false
      else if rollbackRows.any fun entry => entry.2.status != .success then false
      else
        let sourceIds := rollbackRows.filterMap fun entry => entry.2.sourceActionId
        let sourceRows := db.actions.select sourceIds fun _ => true
        if sourceRows.length ≠ sourceIds.length
            ∨ (sourceRows.any fun entry => entry.2.status != .rolledBack) = true then false
        else rollbackRows.all fun entry => compensated db entry.1 entry.2

def hasLegitimateManualHold : Bool :=
  flags.any fun flag => match flag.name with
    | .verifyDegraded | .other _ => false
    | _ => true

def activeOutboxWritebackRows (event : EventId) :
    List (DispositionIntentKind × Option WritebackStatus) :=
  (db.outboxes.rows.filter fun entry =>
    entry.2.eventId == event && entry.2.supersededByDispositionId.isNone).map fun entry =>
      (entry.2.intentKind, entry.2.latestWritebackStatus)

def resumeTerminal (status : Option WritebackStatus) : Bool :=
  status == some .confirmed || status == some .accepted

def allWritebacksResolved (statuses : List (Option WritebackStatus)) : Bool :=
  !statuses.isEmpty && statuses.all resumeTerminal

def canClearManualResolution (rows : List (DispositionIntentKind × Option WritebackStatus))
    (failed : List OutboxId) (policy : Option DispositionPolicy) : Bool :=
  let terminal := rows.filter fun row => row.1 == .eventStatusUpdate
  failed.isEmpty && !hasLegitimateManualHold flags && allWritebacksResolved (rows.map Prod.snd)
    && (allWritebacksResolved (terminal.map Prod.snd)
      || (!flags.isEmpty && (flags.all fun flag => flag.name == .verifyDegraded)
        && terminal.isEmpty && policy == some .notRequired))

def canReverifyAfterAnalystVerdict (verdict : Option FinalVerdict) (failed : List OutboxId)
    (flags : List DegradedFlag) : Bool :=
  failed.isEmpty && !hasLegitimateManualHold flags
    && (verdict == some .falsePositive || verdict == some .confirmedThreat)

/-- What a resume changes; `none` and `false` leave a value as it is. -/
structure Patch where
  clearHalted : Bool := false
  sagaCompensationResolved : Bool := false
  clearNeedManualResolution : Bool := false
  clearExecutionSubstate : Bool := false
  clearManualHold : Bool := false
  clearNeedWritebackRecovery : Bool := false
  degradedFlags : Option (List DegradedFlag) := none

def reconcileVerifyResumePatch (event : EventId) (values : Values) : Patch :=
  let start : Patch := { clearHalted := values.halted }
  let recoverable :=
    if values.verifyRecoverableWritebackIds.isEmpty then values.verifyFailedWritebacks
    else values.verifyRecoverableWritebackIds
  if !(values.verifyNeedWritebackRecovery || values.verifyNeedManualResolution || values.halted)
  then start
  else
    let sagaResolved := flagged values.degradedFlags .sagaCompensationIncomplete
      && sagaManualHoldResolved db values.manualHoldPendingIds values.rollbackResults
    let flags :=
      if sagaResolved then
        values.degradedFlags.filter fun flag => flag.name != .sagaCompensationIncomplete
      else values.degradedFlags
    let lifted : Patch :=
      if sagaResolved then
        { start with
          sagaCompensationResolved := true, clearNeedManualResolution := true
          clearExecutionSubstate := true, clearManualHold := true, degradedFlags := some flags }
      else start
    let rows := activeOutboxWritebackRows db event
    let writebacksResolved := recoverable.isEmpty && values.verifyPendingWritebackActionIds.isEmpty
      && allWritebacksResolved (rows.map Prod.snd)
    let recovered : Patch :=
      if values.verifyNeedWritebackRecovery && writebacksResolved then
        { lifted with clearNeedWritebackRecovery := true, clearExecutionSubstate := true }
      else lifted
    if values.verifyNeedManualResolution && !hasLegitimateManualHold flags
        && (canClearManualResolution flags rows recoverable values.dispositionPolicy
          || canReverifyAfterAnalystVerdict ((db.events.get event).map (·.finalVerdict)) recoverable
            flags) then
      let stripped := flags.filter fun flag => flag.name != .verifyDegraded
      { recovered with
        clearNeedManualResolution := true, clearExecutionSubstate := true
        degradedFlags := if stripped ≠ flags then some stripped else recovered.degradedFlags }
    else recovered

/-! ### When a lifted hold is complete -/

def ActiveCompensation (record : OutboxRow) : Prop :=
  record.actionId = rollback ∧ record.intentKind = .compensationRecord
    ∧ record.supersededByDispositionId = none

/-- A required compensation has been recorded, and every active record of it is confirmed. -/
def Compensated (row : ActionRow) : Prop :=
  row.writebackRequired = true → row.writebackApplicable = true →
    (∃ id record, db.outboxes.get id = some record ∧ ActiveCompensation rollback record)
      ∧ ∀ id record, db.outboxes.get id = some record → ActiveCompensation rollback record →
        record.latestWritebackStatus = some .confirmed

/-- **A rollback has converged**: it succeeded, its source is rolled back, and every compensation
writeback it requires is confirmed. -/
def Converged : Prop :=
  ∃ row, db.actions.get rollback = some row ∧ row.category = .rollback ∧ row.status = .success
    ∧ (∀ source, row.sourceActionId = some source →
      ∃ undone, db.actions.get source = some undone ∧ undone.status = .rolledBack)
    ∧ Compensated db rollback row

theorem mem_compensationRecords {db : Db} {rollback : ActionId} {record : OutboxRow} :
    record ∈ compensationRecords db rollback
      ↔ ∃ id, db.outboxes.get id = some record ∧ ActiveCompensation rollback record := by
  simp only [compensationRecords, ActiveCompensation, List.mem_map, List.mem_filter, Prod.exists,
    exists_eq_right, Table.mem_rows, Bool.and_eq_true, beq_iff_eq, Option.isNone_iff_eq_none]
  simp only [and_assoc]

theorem compensated_iff {db : Db} {rollback : ActionId} {row : ActionRow} :
    compensated db rollback row = true ↔ Compensated db rollback row := by
  have some_record : ¬ (compensationRecords db rollback).isEmpty = true
      ↔ ∃ id record, db.outboxes.get id = some record ∧ ActiveCompensation rollback record := by
    rw [List.isEmpty_iff, List.eq_nil_iff_forall_not_mem]
    push Not
    simp only [mem_compensationRecords]
    exact exists_comm
  have all_confirmed : (compensationRecords db rollback).all (fun record =>
        record.latestWritebackStatus == some .confirmed) = true
      ↔ ∀ id record, db.outboxes.get id = some record → ActiveCompensation rollback record →
        record.latestWritebackStatus = some .confirmed := by
    simp only [List.all_eq_true, mem_compensationRecords, beq_iff_eq, forall_exists_index, and_imp]
    exact forall_comm
  unfold compensated Compensated
  rw [Bool.or_eq_true, Bool.and_eq_true, Bool.not_eq_true', Bool.not_eq_true',
    ← some_record, ← all_confirmed, Bool.eq_false_iff, Bool.eq_false_iff]
  simp only [ne_eq, Bool.and_eq_true]
  tauto

/-- The hold can be lifted at all: every unresolved result has a rollback action, and there are
identifiers to check, all of actions. -/
def liftable : Bool :=
  ((unresolvedResults results).all fun item => item.rollbackActionId.isSome)
    && !(consulted pending results).isEmpty
    && (consulted pending results).all fun id => id.actionId.isSome

/-- **The identifiers that are checked cover the results that are recorded**, or the hold stays. -/
def covered : Bool :=
  !liftable pending results || results.all fun item => item.rollbackActionId.any fun rollback =>
    decide (PendingId.action rollback ∈ consulted pending results)

end

section Lifting

variable {db : Db} {pending : List PendingId} {results : List RollbackRecord}

theorem consulted_nodup (pending : List PendingId) (results : List RollbackRecord) :
    (consulted pending results).Nodup := by
  unfold consulted
  dsimp only
  split <;> exact List.nodup_dedup _

theorem rollbackRows_spec {ids : List PendingId} {holds : ActionRow → Bool}
    (count : (db.actions.select (ids.filterMap PendingId.actionId) holds).length = ids.length) :
    ∀ id ∈ ids, ∃ rollback row, id = .action rollback
      ∧ (rollback, row) ∈ db.actions.select (ids.filterMap PendingId.actionId) holds := by
  have fewer : (db.actions.select (ids.filterMap PendingId.actionId) holds).length
      ≤ (ids.filterMap PendingId.actionId).length := by
    have sub := (Table.nodup_select db.actions (ids.filterMap PendingId.actionId) holds).subperm
      (Table.select_subset db.actions _ holds)
    have bound := sub.length_le
    rwa [List.length_map] at bound
  have most := List.length_filterMap_le PendingId.actionId ids
  have all : (ids.filterMap PendingId.actionId).length = ids.length := by omega
  intro id asked
  have named := List.filterMap_length_eq_length.mp all id asked
  cases id with
  | writeback => cases named
  | action rollback =>
    have key : rollback ∈ ids.filterMap PendingId.actionId :=
      List.mem_filterMap.mpr ⟨.action rollback, asked, rfl⟩
    have full : (db.actions.select (ids.filterMap PendingId.actionId) holds).length
        = (ids.filterMap PendingId.actionId).length := count.trans all.symm
    obtain ⟨row, found, good⟩ := Table.found_of_select_length full key
    exact ⟨rollback, row, rfl, Table.mem_select.mpr ⟨key, found, good⟩⟩

theorem converged_of_resolved (resolved : sagaManualHoldResolved db pending results = true) :
    liftable pending results = true
      ∧ ∀ rollback, PendingId.action rollback ∈ consulted pending results →
        Converged db rollback := by
  unfold sagaManualHoldResolved at resolved
  dsimp only at resolved
  split_ifs at resolved with named nonempty count succeeded undone
  rw [not_not] at count
  obtain ⟨sourceCount, undone⟩ := not_or.mp undone
  rw [not_not] at sourceCount
  have spec := rollbackRows_spec count
  constructor
  · simp only [liftable, Bool.and_eq_true, List.all_eq_true]
    refine ⟨⟨?_, by simpa using nonempty⟩, ?_⟩
    · intro item listed
      by_contra absent
      exact named (List.any_eq_true.mpr ⟨item, listed, by simpa using absent⟩)
    · intro id asked
      obtain ⟨_, _, rfl, -⟩ := spec id asked
      rfl
  intro _ asked
  obtain ⟨other, row, same, selected⟩ := spec _ asked
  obtain rfl := PendingId.action.inj same
  obtain ⟨-, found, category⟩ := Table.mem_select.mp selected
  refine ⟨row, found, by simpa using category, ?_, ?_, ?_⟩
  · by_contra other
    exact succeeded (List.any_eq_true.mpr ⟨_, selected, by simpa using other⟩)
  · intro source linked
    have key : source ∈ (db.actions.select ((consulted pending results).filterMap
        PendingId.actionId) fun row => row.category == .rollback).filterMap fun entry =>
          entry.2.sourceActionId := List.mem_filterMap.mpr ⟨_, selected, linked⟩
    obtain ⟨original, there, -⟩ := Table.found_of_select_length sourceCount key
    refine ⟨original, there, ?_⟩
    by_contra other
    exact undone (List.any_eq_true.mpr
      ⟨(source, original), Table.mem_select.mpr ⟨key, there, rfl⟩, by simpa using other⟩)
  · exact compensated_iff.mp (List.all_eq_true.mp resolved _ selected)

theorem patch_resolved (db : Db) (event : EventId) (values : Values) :
    (reconcileVerifyResumePatch db event values).sagaCompensationResolved
      = ((values.verifyNeedWritebackRecovery || values.verifyNeedManualResolution || values.halted)
        && flagged values.degradedFlags .sagaCompensationIncomplete
        && sagaManualHoldResolved db values.manualHoldPendingIds values.rollbackResults) := by
  unfold reconcileVerifyResumePatch
  cases values.verifyNeedWritebackRecovery || values.verifyNeedManualResolution
    || values.halted with
  | false => rfl
  | true =>
    rw [Bool.true_and]
    cases flagged values.degradedFlags .sagaCompensationIncomplete
      && sagaManualHoldResolved db values.manualHoldPendingIds values.rollbackResults with
    | false =>
      dsimp only [Bool.not_true]
      repeat' split
      all_goals first | rfl | contradiction
    | true =>
      dsimp only [Bool.not_true]
      repeat' split
      all_goals first | rfl | contradiction

end Lifting

/-! ### The converse, and the slip -/

def convergedRow : ActionRow where
  eventId := 1
  planRevision := 1
  actionFingerprint := .rollback 1 1 0 .unblockIp
  category := .rollback
  toolName := .unblockIp
  level := .l1
  status := .success
  autoExecute := true
  executionOwner := some .directTool
  updatedAt := 0

def convergedDb (rollbacks : List ActionId) : Db where
  actions := .fill rollbacks convergedRow

/-- What was recorded: action 1 is rolled back and waits for its compensation, the rollback of
action 3 waited for an approval. -/
def sampleResults : List RollbackRecord :=
  [⟨some 2, true, false, true, some .pending⟩, ⟨some 4, false, true, false, none⟩]

def sampleValues : Values where
  halted := true
  verifyNeedWritebackRecovery := false
  verifyNeedManualResolution := true
  verifyFailedWritebacks := []
  verifyRecoverableWritebackIds := []
  verifyPendingWritebackActionIds := []
  verifyFailedActions := [5]
  manualHoldPendingIds := [.action 5, .action 4]
  rollbackResults := sampleResults
  degradedFlags := [sagaFlag]
  dispositionPolicy := some .required

section Converse

variable {pending : List PendingId} {results : List RollbackRecord}

theorem resolved_of_liftable (able : liftable pending results = true) :
    sagaManualHoldResolved
      (convergedDb ((consulted pending results).filterMap PendingId.actionId)) pending results
      = true := by
  simp only [liftable, Bool.and_eq_true, List.all_eq_true] at able
  obtain ⟨⟨named, nonempty⟩, actions⟩ := able
  generalize keyed : (consulted pending results).filterMap PendingId.actionId = keys
  have distinct : keys.Nodup := by
    rw [← keyed]
    refine (consulted_nodup pending results).filterMap fun first second key here there => ?_
    cases first <;> cases second <;> simp_all [PendingId.actionId]
  have rows :
      ∀ entry ∈ (convergedDb keys).actions.select keys (fun row => row.category == .rollback),
      entry.2 = convergedRow := by
    rintro ⟨key, row⟩ selected
    obtain ⟨asked, found, -⟩ := Table.mem_select.mp selected
    rw [convergedDb, Table.get_fill, if_pos asked] at found
    exact (Option.some.inj found).symm
  have count : ((convergedDb keys).actions.select keys
      (fun row => row.category == .rollback)).length = (consulted pending results).length := by
    rw [Table.select_length_of_found distinct, ← keyed, List.filterMap_length_eq_length.mpr actions]
    intro _ asked
    refine ⟨convergedRow, ?_, rfl⟩
    rw [convergedDb, Table.get_fill, if_pos asked]
  have sources : ((convergedDb keys).actions.select keys
      (fun row => row.category == .rollback)).filterMap (fun entry => entry.2.sourceActionId)
      = [] := by
    refine List.filterMap_eq_nil_iff.mpr fun entry selected => ?_
    rw [rows entry selected]
    rfl
  unfold sagaManualHoldResolved
  rw [if_neg, if_neg, keyed]
  rw [if_neg (not_not.mpr count), if_neg, if_neg, List.all_eq_true]
  · intro entry selected
    rw [rows entry selected]
    rfl
  · rw [sources]
    simp [Table.select]
  · rw [Bool.not_eq_true, List.any_eq_false]
    intro entry selected
    rw [rows entry selected]
    decide
  · simpa using nonempty
  · rw [Bool.not_eq_true, List.any_eq_false]
    intro item listed
    simp [Option.isSome_iff_ne_none.mp (named item listed)]

end Converse

/-- **A Saga hold is lifted on complete compensation exactly for covered results.** For every list
of recorded results and pending identifiers: whatever the rest of the checkpoint and the rows are, a
resume that takes the hold for resolved finds every recorded rollback converged, if and only if the
identifiers it checks cover the recorded ones or no resume can lift the hold. -/
theorem hold_lifted_iff_covered (pending : List PendingId) (results : List RollbackRecord) :
    (∀ (db : Db) (event : EventId) (values : Values), values.manualHoldPendingIds = pending →
      values.rollbackResults = results →
      (reconcileVerifyResumePatch db event values).sagaCompensationResolved = true →
      ∀ item ∈ results, ∃ rollback, item.rollbackActionId = some rollback ∧ Converged db rollback)
    ↔ covered pending results = true := by
  constructor
  · intro safe
    by_contra open_
    simp only [covered, Bool.or_eq_true, Bool.not_eq_true', not_or, Bool.not_eq_false] at open_
    obtain ⟨able, missing⟩ := open_
    let values :=
      { sampleValues with manualHoldPendingIds := pending, rollbackResults := results }
    have lifted := patch_resolved
      (convergedDb ((consulted pending results).filterMap PendingId.actionId)) 1 values
    rw [show sagaManualHoldResolved _ values.manualHoldPendingIds values.rollbackResults = true from
      resolved_of_liftable able] at lifted
    refine missing (List.all_eq_true.mpr fun item listed => ?_)
    obtain ⟨_, named, _, found, -⟩ := safe _ 1 values rfl rfl lifted item listed
    rw [named, Option.any_some, decide_eq_true_iff]
    rw [convergedDb, Table.get_fill] at found
    split at found
    · rename_i asked
      obtain ⟨id, consulted, same⟩ := List.mem_filterMap.mp asked
      cases id with
      | writeback => cases same
      | action =>
        cases same
        exact consulted
    · cases found
  · rintro covers db event values rfl rfl lifted item listed
    rw [patch_resolved, Bool.and_eq_true] at lifted
    obtain ⟨able, converged⟩ := converged_of_resolved lifted.2
    rw [covered, able, Bool.not_true, Bool.false_or, List.all_eq_true] at covers
    have checks := covers item listed
    cases named : item.rollbackActionId with
    | none =>
      rw [named] at checks
      cases checks
    | some rollback =>
      rw [named, Option.any_some, decide_eq_true_iff] at checks
      exact ⟨rollback, rfl, converged rollback checks⟩

/-- The compensation record of rollback action 2; the external side has refused it. -/
def sampleRecord : OutboxRow :=
  { Sync.newOutbox
      { actionId := 2, dispositionId := 1, closureCycle := 1, intentKind := .compensationRecord
        idempotencyKey := 1, supersedesDispositionId := none, targetDisposition := none, body := 0 }
      1 1 1 0 with
    deliveryStatus := .deadLetter, latestWritebackStatus := some .failed }

/-- Actions 1 and 3 are rolled back by 2 and 4; only 2 requires a compensation. -/
def sampleDb : Db where
  actions := (((Table.empty.set 1 sampleOriginal).set 2 (sampleUndoing 1 sampleOriginal)).set 3
    { sampleOriginal with writebackRequired := false, writebackApplicable := false }).set 4
    (sampleUndoing 3
      { sampleOriginal with writebackRequired := false, writebackApplicable := false })
  outboxes := .set .empty 1 sampleRecord

/-- **A hold is lifted over a failed compensation.** The unconfirmed compensation of action 1 is one
reason for the hold; once the rollback of action 3 has converged, the resume looks at nothing
else. -/
theorem hold_lifted_unconfirmed :
    compensationIncomplete [⟨some 2, true, false, true, some .pending⟩] = true
      ∧ (reconcileVerifyResumePatch sampleDb 1 sampleValues).sagaCompensationResolved = true
      ∧ ¬ Converged sampleDb 2 := by
  refine ⟨by decide, by decide, ?_⟩
  rintro ⟨row, found, -, -, -, compensated⟩
  obtain rfl : sampleUndoing 1 sampleOriginal = row := Option.some.inj found
  have confirmed := (compensated rfl rfl).2 1 sampleRecord rfl ⟨rfl, rfl, rfl⟩
  cases confirmed

end ShadowTrace.Saga
