/-
**Receipts, and enqueueing a disposition command** (`app/services/disposition_sync_service.py`,
`app/providers/tools/mock_provider.py`).

A receipt is appended to its writeback and projected onto the bound action and execution job, all
inside the transaction of the operation that received it, so a validator that raises rolls the whole
operation back.

An event status update supersedes the active head of its (event, closure cycle, slot) inside the
transaction of `enqueue_command`, unless the head already carries the same command. The insertion
then meets the unique indexes of `DispositionOutbox` (`violatesUnique`), which the database
enforces.
-/

import ShadowTrace.Lib.Fallible
import ShadowTrace.Sync.Protocol

namespace ShadowTrace.Sync

open Relational Fallible

section

variable (db : Db) (outbox : OutboxId)

def receiptsOf : List Receipt := (db.receipts.get outbox).getD []

def latestReceipt : Option Receipt := (receiptsOf db outbox).head?

def appendReceipt (receipt : Receipt) : Db :=
  { db with receipts := db.receipts.set outbox (receipt :: receiptsOf db outbox) }

def localReceipt (status : WritebackStatus) (evidence : Option ConfirmationEvidence := none) :
    Receipt :=
  { status, confirmationEvidence := evidence, providerJobId := none, simulated := false }

def mirrorWritebackStatus (action : ActionId) (status : WritebackStatus) : Db :=
  { db with actions := db.actions.modify action fun row =>
      if row.writebackApplicable then { row with writebackStatus := some status } else row }

def terminalFromReceipt : WritebackStatus → ActionStatus
  | .confirmed => .success
  | .partialDone => .partialSuccess
  | .unknown => .unknown
  | _ => .failed

def applyActionTerminalFromReceipt (row : ActionRow) (receipt : Receipt) :
    Except TransitionError ActionRow :=
  if row.status ≠ .executing ∨ receipt.status = .accepted then .ok row
  else do
    let target := terminalFromReceipt receipt.status
    validateActionStatusTransition row.category .executing target
    return { row with status := target }

def jobStatusFromReceipt (receipt : Receipt) : ExecutionJobStatus :=
  match receipt.status with
  | .pending => .queued
  | .sending => .running
  | .accepted => if receipt.providerJobId.isSome then .queued else .running
  | .confirmed => .success
  | .partialDone => .partialSuccess
  | .failed => .failed
  | .conflict => .failed
  | .unknown => .unknown

/-- The status `_persist_execution_job_from_receipt` writes: a queued report does not move a
running job back. -/
def mappedJobStatus (current : ExecutionJobStatus) (receipt : Receipt) : ExecutionJobStatus :=
  let mapped := jobStatusFromReceipt receipt
  if current = .running ∧ receipt.status = .accepted ∧ mapped = .queued then .running else mapped

def persistJobFromReceipt (job : JobRow) (receipt : Receipt) : Except TransitionError JobRow := do
  let target := mappedJobStatus job.status receipt
  if target ≠ job.status then
    validateJobStatusTransition job.status target (receipt.status == .confirmed)
  return { job with status := target, providerJobId := receipt.providerJobId }

def persistExecutionJobFromReceipt (action : ActionRow) (receipt : Receipt) :
    Except TransitionError Db :=
  if action.executionOwner ≠ some .xdrManaged then .ok db
  else match action.executionJobId with
    | none => .ok db
    | some jobId => match db.jobs.get jobId with
      | none => .ok db
      | some job => do
        let job ← persistJobFromReceipt job receipt
        return { db with jobs := db.jobs.set jobId job }

/-- The action of an outbox follows its receipt, except that an accepted entity submit is finished
by the effect readback (`entityPending`). -/
def projectAction (row : ActionRow) (receipt : Receipt) (entityPending : Bool) :
    Except TransitionError ActionRow :=
  if entityPending then .ok row else applyActionTerminalFromReceipt row receipt

def projectReceipt (action : ActionId) (receipt : Receipt) (entityPending : Bool) :
    Except TransitionError Db :=
  match db.actions.get action with
  | none => .ok db
  | some row => do
    let row ← projectAction row receipt entityPending
    persistExecutionJobFromReceipt { db with actions := db.actions.set action row } row receipt

def applyReceiptExecutionProjection (outbox : OutboxRow) (receipt : Receipt) :
    Except TransitionError Db :=
  let bound := (db.actions.get outbox.actionId).any fun row => row.executionJobId.isSome
  projectReceipt db outbox.actionId receipt
    (outbox.intentKind == .entityActionSubmit && receipt.status == .accepted && bound)

end

/-! ### Enqueueing -/

structure Command where
  actionId : ActionId
  dispositionId : DispositionId
  closureCycle : Nat
  intentKind : DispositionIntentKind
  idempotencyKey : IdempotencyKey
  supersedesDispositionId : Option DispositionId
  targetDisposition : Option SourceDisposition
  parentDispositionId : Option DispositionId := none
  body : Nat

def Command.payloadSha256 (command : Command) : PayloadDigest :=
  { body := command.body, supersedes := command.supersedesDispositionId }

inductive EnqueueError
  | guardrailViolation | eventNotFound | sourceNotFound | integrity
  | transition (error : TransitionError)

section

variable (row other : OutboxRow) (db : Db)

def sameSlot : Bool :=
  row.eventId == other.eventId && row.closureCycle == other.closureCycle
    && row.intentKind == other.intentKind && row.logicalSlot == other.logicalSlot

def isActiveHead (row : OutboxRow) : Bool :=
  row.intentKind == .eventStatusUpdate && row.supersededByDispositionId.isNone

/-- The active head an event status update of this slot would supersede. The partial unique index
leaves at most one candidate, so the `LIMIT 1` of the source has nothing to choose. -/
def activeHead (eventId : EventId) (closureCycle slot : Nat) : Option (OutboxId × OutboxRow) :=
  db.outboxes.rows.find? fun entry =>
    isActiveHead entry.2 && entry.2.eventId == eventId && entry.2.closureCycle == closureCycle
      && entry.2.logicalSlot == slot

/-- The unique indexes: idempotency key, source sequence, active head of a slot. -/
def violatesUnique : Bool :=
  row.idempotencyKey == other.idempotencyKey
    || (row.sourceRecordId == other.sourceRecordId && row.sourceSequence == other.sourceSequence)
    || (isActiveHead row && isActiveHead other && sameSlot row other)

def insertOutbox (id : OutboxId) (row : OutboxRow) : Except EnqueueError Db :=
  if (db.outboxes.get id).isSome || db.outboxes.rows.any fun entry => violatesUnique row entry.2
  then .error .integrity
  else .ok { db with outboxes := db.outboxes.set id row }

def newOutbox (command : Command) (eventId : EventId) (sourceRecordId : SourceRecordId)
    (sequence slot : Nat) : OutboxRow where
  eventId := eventId
  actionId := command.actionId
  dispositionId := command.dispositionId
  closureCycle := command.closureCycle
  sourceRecordId := sourceRecordId
  sourceSequence := sequence
  intentKind := command.intentKind
  logicalSlot := slot
  supersedesDispositionId := command.supersedesDispositionId
  idempotencyKey := command.idempotencyKey
  commandPayloadSha256 := command.payloadSha256
  targetDisposition := command.targetDisposition
  parentDispositionId := command.parentDispositionId
  deliveryStatus := .ready

def priorHead (command : Command) (eventId : EventId) (slot : Nat) :
    Option (OutboxId × OutboxRow) :=
  if command.intentKind = .eventStatusUpdate then activeHead db eventId command.closureCycle slot
  else none

def supersedeHead (head : OutboxId) (row : OutboxRow) (by_ : DispositionId) :
    Except EnqueueError Db :=
  match finalizeSupersededHead row by_ with
  | .error error => .error (.transition error)
  | .ok row => .ok { db with outboxes := db.outboxes.set head row }

structure EnqueueArgs where
  command : Command
  eventId : EventId
  sourceRecordId : SourceRecordId
  slot : Nat
  outboxId : OutboxId
  guardAllows : Bool

variable (args : EnqueueArgs)

/-- Supersede the prior head, if there is one, and insert the new row. -/
def insertHead (sequence : Nat) : Option (OutboxId × OutboxRow) → Except EnqueueError Db
  | none => insertOutbox db args.outboxId
      (newOutbox args.command args.eventId args.sourceRecordId sequence args.slot)
  | some (head, row) => do
    -- the lineage goes onto the wire payload before it is hashed
    let command := { args.command with supersedesDispositionId := some row.dispositionId }
    let db ← supersedeHead db head row command.dispositionId
    insertOutbox db args.outboxId
      (newOutbox command args.eventId args.sourceRecordId sequence args.slot)

def carries (command : Command) (entry : OutboxId × OutboxRow) : Bool :=
  entry.2.idempotencyKey == command.idempotencyKey
    && entry.2.commandPayloadSha256 == command.payloadSha256

/-- `enqueue_command`. Returns the outbox that carries the command: the existing head when it is
the same command, else the new row. -/
def enqueueCommand : Except EnqueueError (Db × OutboxId) :=
  if !args.guardAllows then .error .guardrailViolation
  else if (db.events.get args.eventId).isNone then .error .eventNotFound
  else match db.sources.get args.sourceRecordId with
    | none => .error .sourceNotFound
    | some last =>
      let numbered := { db with sources := db.sources.set args.sourceRecordId (last + 1) }
      let prior := priorHead numbered args.command args.eventId args.slot
      match prior.filter (carries args.command) with
      | some (head, _) => .ok (numbered, head)
      | none => (insertHead numbered args (last + 1) prior).map fun after => (after, args.outboxId)

end

/-! ### What enqueueing does to the outbox table -/

variable {db after : Db} {id : OutboxId} {row : OutboxRow} {args : EnqueueArgs}

theorem insertOutbox_eq_ok (done : insertOutbox db id row = .ok after) :
    db.outboxes.get id = none ∧
      (∀ other stored, db.outboxes.get other = some stored → violatesUnique row stored = false) ∧
      after = { db with outboxes := db.outboxes.set id row } := by
  unfold insertOutbox at done
  split at done
  · cases done
  rename_i clean
  simp only [Bool.or_eq_true, not_or, Bool.not_eq_true, Option.isSome_eq_false_iff,
    Option.isNone_iff_eq_none, List.any_eq_false] at clean
  refine ⟨clean.1, fun other stored found => ?_, eq_of_ok done⟩
  exact clean.2 (other, stored) (Table.mem_rows.mpr found)

def headOf (args : EnqueueArgs) (row : OutboxRow) : Bool :=
  args.command.intentKind == .eventStatusUpdate && isActiveHead row && row.eventId == args.eventId
    && row.closureCycle == args.command.closureCycle && row.logicalSlot == args.slot

theorem headOf_active (heads : headOf args row = true) :
    isActiveHead row = true := by
  simp only [headOf, Bool.and_eq_true] at heads
  exact heads.1.1.1.2

theorem priorHead_eq_some {head : OutboxId}
    (found : priorHead db args.command args.eventId args.slot = some (head, row)) :
    db.outboxes.get head = some row ∧ headOf args row = true := by
  unfold priorHead at found
  split at found
  · rename_i update
    have mem := List.mem_of_find?_eq_some found
    have holds := List.find?_some found
    refine ⟨Table.mem_rows.mp mem, ?_⟩
    simp only [Bool.and_eq_true] at holds
    simp only [headOf, update, beq_self_eq_true, Bool.true_and, Bool.and_eq_true]
    exact holds
  · cases found

/-- The command as it is stored: only the lineage may differ from what the caller passed. -/
def Stored (args : EnqueueArgs) (command : Command) : Prop :=
  command = { args.command with supersedesDispositionId := command.supersedesDispositionId }

/-- The row is the one that the call inserts. -/
def Enqueued (args : EnqueueArgs) (id : OutboxId) (row : OutboxRow) : Prop :=
  id = args.outboxId ∧ ∃ command sequence, Stored args command
    ∧ row = newOutbox command args.eventId args.sourceRecordId sequence args.slot

theorem Enqueued.command (enqueued : Enqueued args id row) :
    row.actionId = args.command.actionId ∧ row.intentKind = args.command.intentKind := by
  obtain ⟨-, command, _, stored, rfl⟩ := enqueued
  have action : command.actionId = args.command.actionId := by rw [stored]
  have kind : command.intentKind = args.command.intentKind := by rw [stored]
  exact ⟨action, kind⟩

/-- What an accepted call does to the outbox. -/
inductive EnqueueEffect (args : EnqueueArgs) (before after : Table OutboxId OutboxRow) : Prop
  | carried (same : after = before)
  | inserted (command : Command) (sequence : Nat) (same : Stored args command)
      (fresh : before.get args.outboxId = none)
      (clean : ∀ other stored, before.get other = some stored →
        violatesUnique (newOutbox command args.eventId args.sourceRecordId sequence args.slot)
          stored = false)
      (set : after = before.set args.outboxId
        (newOutbox command args.eventId args.sourceRecordId sequence args.slot))
  | superseded (command : Command) (sequence : Nat) (head : OutboxId) (row marked : OutboxRow)
      (same : Stored args command) (fresh : before.get args.outboxId = none)
      (found : before.get head = some row) (heads : headOf args row = true)
      (other : head ≠ args.outboxId)
      (finalized : finalizeSupersededHead row command.dispositionId = .ok marked)
      (clean : ∀ other stored, (before.set head marked).get other = some stored →
        violatesUnique (newOutbox command args.eventId args.sourceRecordId sequence args.slot)
          stored = false)
      (set : after = (before.set head marked).set args.outboxId
        (newOutbox command args.eventId args.sourceRecordId sequence args.slot))

/-- The effect, and what an enqueue leaves alone. -/
abbrev Enqueues (args : EnqueueArgs) (db after : Db) : Prop :=
  EnqueueEffect args db.outboxes after.outboxes ∧ after.receipts = db.receipts
    ∧ after.actions = db.actions ∧ after.jobs = db.jobs ∧ after.approvals = db.approvals
    ∧ after.events = db.events ∧ after.reports = db.reports

theorem insertHead_effect {sequence : Nat}
    (done : insertHead db args sequence (priorHead db args.command args.eventId args.slot)
      = .ok after) : Enqueues args db after := by
  cases prior : priorHead db args.command args.eventId args.slot with
  | none =>
    rw [prior] at done
    obtain ⟨fresh, clean, rfl⟩ := insertOutbox_eq_ok done
    exact ⟨.inserted args.command sequence rfl fresh clean rfl, rfl, rfl, rfl, rfl, rfl, rfl⟩
  | some entry =>
    obtain ⟨head, row⟩ := entry
    rw [prior] at done
    obtain ⟨found, heads⟩ := priorHead_eq_some prior
    obtain ⟨superseded, marks, done⟩ := bind_eq_ok.mp done
    unfold supersedeHead at marks
    split at marks
    · cases marks
    rename_i marked finalized
    cases marks
    obtain ⟨fresh, clean, rfl⟩ := insertOutbox_eq_ok done
    have other : head ≠ args.outboxId := by
      rintro rfl
      simp at fresh
    have free : db.outboxes.get args.outboxId = none := by
      rw [← fresh]
      exact (Table.get_set_ne (Ne.symm other)).symm
    have same : Stored args { args.command with
        supersedesDispositionId := some row.dispositionId } := rfl
    have effect : EnqueueEffect args db.outboxes _ :=
      .superseded _ sequence head row marked same free found heads other finalized clean rfl
    exact ⟨effect, rfl, rfl, rfl, rfl, rfl, rfl⟩

/-- **What a successful enqueue commits**: nothing new for a command its slot already carries, a
fresh `ready` row, or a fresh `ready` row in place of the head it superseded. -/
theorem enqueueCommand_effect (done : enqueueCommand db args = .ok (after, id)) :
    Enqueues args db after := by
  unfold enqueueCommand at done
  split_ifs at done
  split at done
  · cases done
  rename_i last _
  dsimp only at done
  split at done
  · cases done
    exact ⟨.carried rfl, rfl, rfl, rfl, rfl, rfl, rfl⟩
  set numbered : Db := { db with sources := db.sources.set args.sourceRecordId (last + 1) }
  cases inserted : insertHead numbered args (last + 1)
      (priorHead numbered args.command args.eventId args.slot) with
  | error => simp [inserted] at done
  | ok =>
    simp only [inserted] at done
    obtain ⟨rfl, rfl⟩ := done
    have effect := insertHead_effect inserted
    exact effect

end ShadowTrace.Sync
