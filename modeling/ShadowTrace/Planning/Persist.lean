/-
**Persisting a plan** (`app/agents/response_agent.py`).

The response agent turns its candidates into pending actions (`_materialize_actions`) and writes
them in one transaction (`_persist_actions`): the undeployed actions of the previous revision are
superseded first, then every action is inserted, or reset when its fingerprint is already stored.
-/

import ShadowTrace.Db.Rows
import ShadowTrace.Lib.Fallible

namespace ShadowTrace.Planning

open Relational Fallible

structure Candidate where
  tool : Tool
  owner : Option ExecutionOwner
  approvedTerminalDispositions : List SourceDisposition
  writebackRequired : Bool
  writebackApplicable : Bool
  writebackReadiness : WritebackReadiness
  source : Option SourceRecordId
  dispositionKey : IdempotencyKey
  /-- Target, parameters and bindings, as the fingerprint digests them. -/
  content : Nat

def materializeAction (event : EventId) (revision : Nat) (candidate : Candidate) (now : Time) :
    ActionRow :=
  let deferred := candidate.tool = .updateSourceEventDisposition
  { eventId := event
    planRevision := revision
    actionFingerprint := .response event revision candidate.content
    category := .response
    toolName := candidate.tool
    level := candidate.tool.level
    executionPhase := if deferred then .postVerify else .immediate
    approvedTerminalDispositions := candidate.approvedTerminalDispositions
    status := .pending
    executionOwner := candidate.owner
    idempotencyKey := if deferred then some candidate.dispositionKey else none
    writebackRequired := candidate.writebackRequired
    writebackApplicable := candidate.writebackApplicable
    writebackReadiness := candidate.writebackReadiness
    dispositionSourceRef := candidate.source
    updatedAt := now }

inductive PlanError
  | integrity

def findByFingerprint (db : Db) (fingerprint : Fingerprint) : Option (ActionId × ActionRow) :=
  db.actions.rows.find? fun entry => entry.2.actionFingerprint == fingerprint

def upsertActionRow (db : Db) (id : ActionId) (action : ActionRow) (now : Time) :
    Except PlanError Db :=
  match findByFingerprint db action.actionFingerprint with
  | some (stored, row) => .ok (db.putAction stored (row.moveTo action.status now))
  | none => if (db.actions.get id).isSome then .error .integrity else .ok (db.putAction id action)

variable {db : Db} {id : ActionId} {row : ActionRow}

theorem findByFingerprint_eq_some {fingerprint : Fingerprint}
    (found : findByFingerprint db fingerprint = some (id, row)) :
    db.actions.get id = some row ∧ row.actionFingerprint = fingerprint := by
  have mem := List.mem_of_find?_eq_some found
  have holds := List.find?_some found
  exact ⟨Table.mem_rows.mp mem, by simpa using holds⟩

theorem upsertActionRow_eq_ok {after : Db} {action : ActionRow} {now : Time}
    (done : upsertActionRow db id action now = .ok after) :
    (∃ stored row, findByFingerprint db action.actionFingerprint = some (stored, row)
        ∧ after = db.putAction stored (row.moveTo action.status now))
      ∨ (findByFingerprint db action.actionFingerprint = none ∧ db.actions.get id = none
        ∧ after = db.putAction id action) := by
  unfold upsertActionRow at done
  split at done
  · rename_i stored row found
    exact .inl ⟨stored, row, found, eq_of_ok done⟩
  rename_i absent
  split at done
  · cases done
  · rename_i fresh
    exact .inr ⟨absent, by simpa using fresh, eq_of_ok done⟩

/-- The rows `_supersede_undeployed_deferred` selects: by the job column, not by the job table. -/
def undeployed (event : EventId) (oldRevision : Nat) (row : ActionRow) : Bool :=
  row.eventId == event && row.planRevision == oldRevision && row.executionJobId.isNone
    && (row.status == .pending || row.status == .waitingApproval || row.status == .approved)

theorem undeployed_status {event : EventId} {oldRevision : Nat}
    (selected : undeployed event oldRevision row = true) :
    row.status = .pending ∨ row.status = .waitingApproval ∨ row.status = .approved := by
  simp only [undeployed, Bool.and_eq_true, Bool.or_eq_true, beq_iff_eq, or_assoc] at selected
  exact selected.2

def supersededRow (row : ActionRow) (newRevision : Nat) (now : Time) : ActionRow :=
  { row.moveTo .superseded now with
    writebackApplicable := false, supersededByRevision := some newRevision }

def supersedeUndeployedDeferred (db : Db) (event : EventId) (oldRevision newRevision : Nat)
    (now : Time) : Db :=
  { db with actions := db.actions.mapRows fun row =>
      if undeployed event oldRevision row then supersededRow row newRevision now else row }

abbrev Plan := List (ActionId × Candidate)

def persistActions (db : Db) (event : EventId) (revision : Nat) (plan : Plan) (now : Time) :
    Except PlanError Db :=
  let cleared :=
    if revision - 1 ≥ 1 then supersedeUndeployedDeferred db event (revision - 1) revision now
    else db
  plan.foldlM (fun stored entry =>
    upsertActionRow stored entry.1 (materializeAction event revision entry.2 now) now) cleared

end ShadowTrace.Planning
