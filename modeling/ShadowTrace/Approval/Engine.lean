/-
**The approval engine** (`app/services/approval_engine.py`).

`evaluate` decides from a snapshot of the action: hard gates first, then the level rules. The
decision is written later, in a transaction of its own, against whatever the row holds by then: the
transition is checked on the snapshot and the status is set by key (`_set_action_status`). A human
decision (`_decide`) and a timeout work on the stored row.
-/

import ShadowTrace.Db.Rows
import ShadowTrace.Lib.Fallible
import ShadowTrace.Models.Workflow

namespace ShadowTrace.Approval

open Relational Fallible

/-- The rules of the engine, in the order they are tried. -/
inductive ApprovalRule
  | capabilityNotAllowed | playbookCapabilityUnsupported | permissionDenied | capabilityUnsupported
  | sourceOrCapabilityGate | providerIdempotencyMissing
  | levelExceedsAutoCap | levelL0L1 | levelL2RequiresHuman | levelL3RequiresHuman | levelL4L5Manual
  | manualReview

structure ApprovalDecision where
  decision : ApprovalDecisionKind
  rule : ApprovalRule

/-- What the capability manifest of a provider says. -/
structure Manifest where
  allowedOperations : List Tool
  templateSupported : Bool
  supportsIdempotency : Bool
  supportsLookupByIdempotency : Bool

variable (row : ActionRow) (manifest : Manifest)

/-- The part of `evaluate_hard_gates` about the writeback readiness and the provider. -/
def readinessGate : Option ApprovalDecision :=
  match row.writebackReadiness with
  | .permissionDenied => some ⟨.autoReject, .permissionDenied⟩
  | .capabilityUnsupported | .notConfigured => some ⟨.autoReject, .capabilityUnsupported⟩
  | .sourceUnresolved | .capabilityUnknown | .connectorUnavailable =>
    some ⟨.requireApproval, .sourceOrCapabilityGate⟩
  | .notRequired | .ready =>
    if row.level.autoApprovable
        && !(manifest.supportsIdempotency && manifest.supportsLookupByIdempotency) then
      some ⟨.requireApproval, .providerIdempotencyMissing⟩
    else none

def evaluateHardGates : Option ApprovalDecision :=
  if row.executionOwner.isNone then none
  else if row.category ≠ .rollback ∧ row.toolName ≠ .updateSourceEventDisposition then
    if row.toolName ∉ manifest.allowedOperations then some ⟨.autoReject, .capabilityNotAllowed⟩
    else if !manifest.templateSupported then some ⟨.autoReject, .playbookCapabilityUnsupported⟩
    else readinessGate row manifest
  else readinessGate row manifest

def actionLevelRank : ActionLevel → Nat
  | .l0 => 0
  | .l1 => 1
  | .l2 => 2
  | .l3 => 3
  | .l4 => 4
  | .l5 => 5

def evaluateLevelRules (level : ActionLevel) (maxAutoLevel : Option ActionLevel) :
    ApprovalDecision :=
  match level with
  | .l0 | .l1 =>
    if actionLevelRank level > actionLevelRank (maxAutoLevel.getD .l1) then
      ⟨.requireApproval, .levelExceedsAutoCap⟩
    else ⟨.autoApprove, .levelL0L1⟩
  | .l2 => ⟨.requireApproval, .levelL2RequiresHuman⟩
  | .l3 => ⟨.requireApproval, .levelL3RequiresHuman⟩
  | .l4 | .l5 => ⟨.requireApproval, .levelL4L5Manual⟩

def evaluateAction (maxAutoLevel : Option ActionLevel) : ApprovalDecision :=
  (evaluateHardGates row manifest).getD (evaluateLevelRules row.level maxAutoLevel)

/-! ### Records -/

structure Clock where
  now : Time
  timeout : Nat
  deriving DecidableEq

section

variable (record : ApprovalRow) (db : Db) (id : ActionId) (cycle : Nat)
  (decision : ApprovalDecisionKind)

section

variable (decisionId : Option Nat) (snapshot : ActionRow) (now : Time) (clock : Clock)

def timeoutAt : Option Time :=
  if decision = .requireApproval then some (clock.now + clock.timeout) else none

def newRecord : ApprovalRow where
  decision := decision
  operator := if decision = .requireApproval then none else some .engine
  decidedAt := if decision = .requireApproval then none else some clock.now
  timeoutAt := timeoutAt decision clock
  decisionId := none
  idempotency := none

def upsertRecord : Db :=
  let record := match db.approvals.get (id, cycle) with
    | none => newRecord decision clock
    | some record =>
      { record with decision, idempotency := none, timeoutAt := timeoutAt decision clock }
  { db with approvals := db.approvals.set (id, cycle) record }

def ApprovalDecisionKind.target : ApprovalDecisionKind → ActionStatus
  | .autoApprove => .approved
  | .autoReject => .rejected
  | .requireApproval => .waitingApproval

def setActionStatus (target : ActionStatus) (now : Time) : Except TransitionError Db := do
  validateActionStatusTransition snapshot.category snapshot.status target
    { executionPhase := snapshot.executionPhase, actionLevel := snapshot.level
      hasApprovalEvidence := target == .approved }
  return { db with actions := db.actions.modify id fun row => row.moveTo target now }

/-- `_load_plan_response_actions`: the actions `evaluate_plan` evaluates. -/
def evaluable : Bool :=
  row.category == .response && row.supersededByRevision.isNone && row.status != .superseded

def persistEvaluation (cycle : Nat) (decision : ApprovalDecisionKind) (clock : Clock) :
    Except TransitionError Db :=
  setActionStatus (upsertRecord db id cycle decision clock) id snapshot
    (ApprovalDecisionKind.target decision) clock.now

/-- The reasons for which a decision is refused. -/
inductive DecisionError
  | notFound | gateBlocked (rule : ApprovalRule) | bindingInvalid | alreadyDecided
  | notWaiting (current : ActionStatus) | recordMissing | decisionIdReused | payloadMismatch
  | transition (error : TransitionError)

def requireManualReview : Except DecisionError Db :=
  match db.actions.get id with
  | none => .error .notFound
  | some row =>
    match setActionStatus (upsertRecord db id cycle .requireApproval clock) id row
        .waitingApproval clock.now with
    | .ok after => .ok after
    | .error error => .error (.transition error)

/-! ### Human decisions -/

/-- What a principal asks for. -/
structure DecisionRequest where
  operation : ApprovalOperation
  principal : Nat
  decisionId : Option Nat
  payloadHash : Nat

def ApprovalOperation.target : ApprovalOperation → ActionStatus
  | .approve => .approved
  | .reject => .rejected

def pendingRecord : Option (Nat × ApprovalRow) :=
  db.approvals.rows.foldl (fun best entry =>
    if entry.1.1 = id ∧ entry.2.decidedAt = none ∧ best.all (fun found => found.1 < entry.1.2) then
      some (entry.1.2, entry.2)
    else best) none

def replayedRecord : Option ((ActionId × Nat) × ApprovalRow) :=
  decisionId.bind fun used => db.approvals.rows.find? fun entry =>
    entry.2.decisionId == some used && entry.2.decidedAt.isSome

def decidedRecord (req : DecisionRequest) (now : Time) : ApprovalRow :=
  { record with
    operator := some (.principal req.principal), decidedAt := some now
    decisionId := req.decisionId
    idempotency := some (req.operation, req.payloadHash) }

def decisionGate (bindingValid : Bool) (operation : ApprovalOperation) :
    Except DecisionError Unit :=
  match operation with
  | .reject => .ok ()
  | .approve =>
    match evaluateHardGates row manifest with
    | some gate => .error (.gateBlocked gate.rule)
    | none => if bindingValid then .ok () else .error .bindingInvalid

def decisionIdTaken : Bool :=
  decisionId.isSome && db.approvals.rows.any fun entry =>
    entry.2.decisionId == decisionId && entry.1.1 != id

def storeDecision (row : ActionRow) (cycle : Nat) (record : ApprovalRow) (req : DecisionRequest)
    (now : Time) : Except DecisionError Db :=
  let target := ApprovalOperation.target req.operation
  match validateActionStatusTransition row.category row.status target
      { executionPhase := row.executionPhase, actionLevel := row.level
        hasApprovalEvidence := true } with
  | .error error => .error (.transition error)
  | .ok () =>
    let stored := { db with
      approvals := db.approvals.set (id, cycle) (decidedRecord record req now) }
    .ok (stored.putAction id (row.moveTo target now))

def applyDecision (row : ActionRow) (manifest : Manifest) (bindingValid : Bool)
    (req : DecisionRequest) (now : Time) : Except DecisionError Db :=
  match decisionGate row manifest bindingValid req.operation with
  | .error error => .error error
  | .ok () =>
    if row.status ≠ .waitingApproval then .error (.notWaiting row.status)
    else match pendingRecord db id with
      | none => .error .recordMissing
      | some (cycle, record) =>
        if decisionIdTaken db id req.decisionId then .error .decisionIdReused
        else storeDecision db id row cycle record req now

/-- `_decide`. A replayed decision id returns what it returned before, or raises; it writes
nothing. -/
def decide (manifest : Manifest) (bindingValid : Bool) (req : DecisionRequest) (now : Time) :
    Except DecisionError Db :=
  match db.actions.get id with
  | none => .error .notFound
  | some row =>
    match replayedRecord db req.decisionId with
    | some ((action, _), record) =>
      if action ≠ id then .error .decisionIdReused
      else if record.idempotency ≠ some (req.operation, req.payloadHash) then
        .error .payloadMismatch
      else .ok db
    | none => applyDecision db id row manifest bindingValid req now

/-! ### Timeouts -/

def timedOutRecord : ApprovalRow :=
  { record with operator := some .systemTimeout, decision := .autoReject, decidedAt := some now }

def rejectOnTimeout (row : ActionRow) (cycle : Nat) (record : ApprovalRow) (now : Time) : Db :=
  let stored := { db with approvals := db.approvals.set (id, cycle) (timedOutRecord record now) }
  stored.putAction id (row.moveTo .rejected now)

def handleTimeout : Db :=
  match db.actions.get id, db.approvals.get (id, cycle) with
  | some row, some record =>
    if row.status = .waitingApproval ∧ record.decidedAt = none then
      rejectOnTimeout db id row cycle record now
    else db
  | _, _ => db

def expiredRecord : Bool :=
  record.decidedAt.isNone && (record.timeoutAt.any fun deadline => deadline ≤ now)
    && record.decision == .requireApproval

def scanExpired : Db :=
  match db.actions.get id, db.approvals.get (id, cycle) with
  | some row, some record =>
    if expiredRecord record now = true ∧ row.status = .waitingApproval then
      rejectOnTimeout db id row cycle record now
    else db
  | _, _ => db

end

end

/-! ### What the engine commits -/

section

variable {db after : Db} {id : ActionId} {now : Time}

theorem pendingRecord_eq_some {cycle : Nat} {record : ApprovalRow}
    (pending : pendingRecord db id = some (cycle, record)) :
    db.approvals.get (id, cycle) = some record ∧ record.decidedAt = none := by
  -- the accumulator holds an open record of the action at every point of the fold
  let Open (best : Option (Nat × ApprovalRow)) : Prop := ∀ found, best = some found →
    db.approvals.get (id, found.1) = some found.2 ∧ found.2.decidedAt = none
  have kept : Open (pendingRecord db id) := by
    refine List.foldlRecOn (motive := Open) _ _ nofun ?_
    rintro best holds ⟨⟨action, opened⟩, stored⟩ mem found chosen
    split at chosen
    · rename_i open_
      obtain ⟨rfl, undecided, -⟩ := open_
      cases chosen
      exact ⟨Table.mem_rows.mp mem, undecided⟩
    · exact holds found chosen
  exact kept _ pending

theorem target_ne {kind : ApprovalDecisionKind} : ApprovalDecisionKind.target kind ≠ .superseded
    ∧ ApprovalDecisionKind.target kind ≠ .executing
    ∧ ApprovalDecisionKind.target kind ≠ .rolledBack := by
  cases kind <;> decide

theorem setActionStatus_eq_ok {snapshot : ActionRow} {target : ActionStatus}
    (done : setActionStatus db id snapshot target now = .ok after) :
    validateActionStatusTransition snapshot.category snapshot.status target
        { executionPhase := snapshot.executionPhase, actionLevel := snapshot.level
          hasApprovalEvidence := target == .approved } = .ok ()
      ∧ after = { db with actions := db.actions.modify id fun row => row.moveTo target now } := by
  obtain ⟨⟨⟩, legal, done⟩ := bind_eq_ok.mp done
  exact ⟨legal, (pure_eq_ok.mp done).symm⟩

/-- The database after an accepted decision. -/
def Decides (db : Db) (id : ActionId) (row : ActionRow) (req : DecisionRequest) (now : Time)
    (cycle : Nat) (record : ApprovalRow) (after : Db) : Prop :=
  validateActionStatusTransition row.category row.status
      (ApprovalOperation.target req.operation)
      { executionPhase := row.executionPhase, actionLevel := row.level
        hasApprovalEvidence := true } = .ok ()
    ∧ after = { db with
        approvals := db.approvals.set (id, cycle) (decidedRecord record req now)
        actions := db.actions.set id
          (row.moveTo (ApprovalOperation.target req.operation) now) }

variable {bindingValid : Bool} {req : DecisionRequest}

/-- **What the transaction of a decision commits**: an open record of a waiting action, closed by
the principal, and the action moved to the status the operation asks for. -/
theorem applyDecision_eq_ok {row : ActionRow} {manifest : Manifest}
    (done : applyDecision db id row manifest bindingValid req now = .ok after) :
    ∃ cycle record, pendingRecord db id = some (cycle, record) ∧ row.status = .waitingApproval
      ∧ Decides db id row req now cycle record after := by
  unfold applyDecision at done
  split at done
  · cases done
  split at done
  · cases done
  rename_i waiting
  split at done
  · cases done
  rename_i cycle record pending
  split at done
  · cases done
  unfold storeDecision at done
  dsimp only at done
  split at done
  · cases done
  · rename_i legal
    exact ⟨cycle, record, pending, not_not.mp waiting, legal, eq_of_ok done⟩

/-- **What a decision commits**: nothing when it is replayed, else what its transaction does. -/
theorem decide_eq_ok {manifest : Manifest}
    (done : decide db id manifest bindingValid req now = .ok after) :
    after = db ∨ ∃ row cycle record, db.actions.get id = some row
      ∧ db.approvals.get (id, cycle) = some record ∧ record.decidedAt = none
      ∧ Decides db id row req now cycle record after := by
  unfold decide at done
  split at done
  · cases done
  rename_i row found
  split at done
  · split_ifs at done
    exact .inl (eq_of_ok done)
  · obtain ⟨cycle, record, pending, -, legal, reached⟩ := applyDecision_eq_ok done
    obtain ⟨stored, undecided⟩ := pendingRecord_eq_some pending
    exact .inr ⟨row, cycle, record, found, stored, undecided, legal, reached⟩

/-- Nothing happens, or an open record of a waiting action is closed. -/
def TimedOut (db : Db) (id : ActionId) (cycle : Nat) (now : Time) (after : Db) : Prop :=
  after = db ∨ ∃ row record, db.actions.get id = some row ∧ row.status = .waitingApproval
    ∧ db.approvals.get (id, cycle) = some record ∧ record.decidedAt = none
    ∧ after = rejectOnTimeout db id row cycle record now

theorem handleTimeout_timedOut (db : Db) (id : ActionId) (cycle : Nat) (now : Time) :
    TimedOut db id cycle now (handleTimeout db id cycle now) := by
  unfold handleTimeout
  split
  · rename_i row record found stored
    split
    · rename_i waits
      exact .inr ⟨row, record, found, waits.1, stored, waits.2, rfl⟩
    · exact .inl rfl
  · exact .inl rfl

theorem scanExpired_timedOut (db : Db) (id : ActionId) (cycle : Nat) (now : Time) :
    TimedOut db id cycle now (scanExpired db id cycle now) := by
  unfold scanExpired
  split
  · rename_i row record found stored
    split
    · rename_i waits
      obtain ⟨expired, waiting⟩ := waits
      simp only [expiredRecord, Bool.and_eq_true, Option.isNone_iff_eq_none] at expired
      exact .inr ⟨row, record, found, waiting, stored, expired.1.1, rfl⟩
    · exact .inl rfl
  · exact .inl rfl

end

end ShadowTrace.Approval
