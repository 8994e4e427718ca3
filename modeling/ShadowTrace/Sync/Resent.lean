/-
**A writeback that is queued again** (`retry_writeback`, `_apply_paused_lookup_outcome`).

An operator's retry, or a lookup that found nothing, puts a row back to `ready` and `pending`. The
delivery that follows skips a row with a receipt, whatever the receipt says, and a failed attempt
has left one: `unknown`, or a rejection.
-/

import ShadowTrace.Sync.Safety

namespace ShadowTrace.Sync

open Relational Fallible Machine

/-- Nothing but a receipt keeps the attempt from submitting: the row waits, ready or under the
worker's own lease, its action is still approved, it heads its slot, and the guard passes. -/
def unhindered (db : Db) (row : OutboxRow) (worker : WorkerId) (now : Time) (env : DeliveryEnv) :
    Bool :=
  row.latestWritebackStatus == some .pending && row.supersededByDispositionId.isNone
    && (row.deliveryStatus == .ready || row.deliveryStatus == .leased
      && row.lockedBy == some (.worker worker) && !leaseExpired row now)
    && ((db.actions.get row.actionId).any fun action =>
      action.executionOwner.isSome && actionStillApprovedForDelivery action)
    && env.fenceOpen && isActiveHeadForDelivery db row && env.precheck.isOk

variable {db : Db} {row : OutboxRow} {worker : WorkerId} {now : Time} {env : DeliveryEnv}

theorem deliverChecks_unhindered (id : OutboxId) (free : unhindered db row worker now env = true) :
    deliverChecks db id row env = .ok (if receiptsOf db id = [] then .submit else .skip) := by
  simp only [unhindered, Bool.and_eq_true, beq_iff_eq, Option.any_eq_true] at free
  obtain ⟨⟨⟨⟨⟨⟨pending, -⟩, -⟩, _, found, owned, approved⟩, fence⟩, head⟩, guard⟩ := free
  unfold deliverChecks
  rw [found]
  cases passes : env.precheck with
  | error =>
    rw [passes] at guard
    cases guard
  | ok =>
    cases receipts : receiptsOf db id with
    | nil | cons =>
      simp [Option.isSome_iff_ne_none.mp owned, fence, head, approved, pending, alreadyAnswered]

theorem deliverGate_unhindered (id : OutboxId) (free : unhindered db row worker now env = true) :
    deliverGate db id row worker now env = deliverChecks db id row env := by
  simp only [unhindered, Bool.and_eq_true, Bool.or_eq_true, beq_iff_eq] at free
  obtain ⟨⟨⟨⟨⟨⟨-, current⟩, due⟩, -⟩, -⟩, -⟩, -⟩ := free
  unfold deliverGate
  rw [if_neg (by simpa using current)]
  obtain ready | ⟨⟨leased, mine⟩, valid⟩ := due
  · rw [ready]
  · simp only [leased, mine, ne_eq, not_true_eq_false, if_false]
    rw [if_neg (by simpa using valid)]

/-- **A history that stores no receipt of a row** has none of it in the end. -/
theorem receiptsOf_run (name : ProcId → WorkerId) (tables : Foreign) (history : List Op)
    (id : OutboxId)
    (silent : Along (step name) (fun w op => ¬ Records w op id) (World.initial tables) history) :
    receiptsOf (run (step name) (World.initial tables) history).db id = [] := by
  refine run_invariant _ (fun w => receiptsOf w.db id = []) ?_ rfl silent
  intro w op before unrecorded
  have same : (step name w op).db.receipts.get id = w.db.receipts.get id := by
    by_cases internal : op.internal = true
    · obtain ⟨_, chain⟩ := step_chain name w internal
      exact (chain.noted id).resolve_left unrecorded
    cases op with
    | enqueue args =>
      rw [step]
      cases outcome : enqueueCommand w.db args with
      | error => rfl
      | ok => exact congrArg (Table.get · id) (enqueueCommand_effect outcome).2.1
    | others => rfl
    | _ => exact absurd rfl internal
  unfold receiptsOf at before ⊢
  rwa [same]

/-- **A row that waits again is sent, if it has no receipt.** After every history: an attempt that
nothing else hinders calls the adapter exactly if no receipt is stored for the writeback, and none
is stored if no step of the history recorded one. -/
theorem requeued_submits_iff (name : ProcId → WorkerId) (tables : Foreign) (history : List Op)
    (id : OutboxId) (row : OutboxRow) (worker : WorkerId) (now : Time) (env : DeliveryEnv)
    (found : (run (step name) (World.initial tables) history).db.outboxes.get id = some row)
    (free : unhindered (run (step name) (World.initial tables) history).db row worker now
      env = true) :
    ((deliverOutbox (run (step name) (World.initial tables) history).db id worker now
        env).calls = [.submit id]
      ↔ receiptsOf (run (step name) (World.initial tables) history).db id = [])
      ∧ (Along (step name) (fun w op => ¬ Records w op id) (World.initial tables) history →
        receiptsOf (run (step name) (World.initial tables) history).db id = []) := by
  refine ⟨?_, receiptsOf_run name tables history id⟩
  unfold deliverOutbox
  rw [found]
  dsimp only
  rw [deliverGate_unhindered id free, deliverChecks_unhindered id free]
  split_ifs with silent
  · exact iff_of_true rfl silent
  · exact iff_of_false nofun silent

def sampleLookup : LookupEnv where
  supportsIdempotency := true
  supportsLookupByIdempotency := true
  supportsStatusQuery := false
  lookupSubmission := some none
  getStatus := none

/-- A row is paused, looked up without a trace of the request, and queued again. -/
def sampleRequeue : List Op :=
  [.claimPaused 7 900 true, .lookupPaused 0 sampleLookup, .applyPaused 0 true false,
    .claim 0 900 0 [7]]

/-- The worker is lost before its attempt; the lease expires into a pause. -/
def sampleLost : List Op :=
  [sampleEnqueue 7, .claim 0 0 0 [7], .restart 0, .deliverDirect 7 0 600 (answering .confirmed)]
    ++ sampleRequeue

theorem requeued_submits_lost :
    (deliverOutbox (run (step id) (World.initial sampleTables) sampleLost).db 7 0 901
      (answering .confirmed)).calls = [.submit 7] :=
  (requeued_submits_iff id sampleTables sampleLost 7 _ 0 901 _ rfl (by decide)).1.mpr rfl

/-- The submit raises: the worker pauses the row and stores an `unknown` receipt. -/
def sampleRaised : List Op :=
  [sampleEnqueue 7, .claim 0 0 0 [7],
    .deliverClaimed 0 0 { answering .confirmed with submit := .raised .other }, .mark 0]
    ++ sampleRequeue

/-- **A row that is not sent again.** The lookup proves that the request never arrived; the next
attempt finds the receipt of the first one and calls nobody. -/
theorem requeued_skipped : let w := run (step id) (World.initial sampleTables) sampleRaised
    (w.db.outboxes.get 7).any (unhindered w.db · 0 901 (answering .confirmed)) = true
      ∧ w.calls = [.submit 7, .lookup 7 .neverAccepted true]
      ∧ (step id w (.deliverClaimed 0 901 (answering .confirmed))).calls = w.calls := by
  decide

/-! ### Enqueueing a command twice

`enqueue_command` returns the head of the slot if it carries the command already. The head is
recognised by the hash of its stored payload. A row that superseded an older head was hashed with
the lineage the service added, so the second call does not recognise it and inserts the command
again. -/

section

variable {db after : Db} {args : EnqueueArgs} {key : OutboxId} {row : OutboxRow}

/-- A row that met the unique indexes is the only head of its slot. -/
theorem priorHead_inserted {queue : Table OutboxId OutboxRow} {command : Command} {sequence : Nat}
    (update : args.command.intentKind = .eventStatusUpdate)
    (clean : ∀ other there, queue.get other = some there → violatesUnique
      (newOutbox command args.eventId args.sourceRecordId sequence args.slot) there = false)
    (set : after.outboxes = queue.set args.outboxId
      (newOutbox command args.eventId args.sourceRecordId sequence args.slot))
    (stored : Stored args command) :
    priorHead after args.command args.eventId args.slot = some (args.outboxId,
      newOutbox command args.eventId args.sourceRecordId sequence args.slot) := by
  have kind : command.intentKind = .eventStatusUpdate := by rw [stored]; exact update
  have cycle : command.closureCycle = args.command.closureCycle := by rw [stored]
  set new := newOutbox command args.eventId args.sourceRecordId sequence args.slot with isNew
  have inserted : after.outboxes.get args.outboxId = some new := by
    rw [set]
    exact Table.get_set_self
  cases found : priorHead after args.command args.eventId args.slot with
  | none =>
    rw [priorHead, if_pos update] at found
    have absent := List.find?_eq_none.mp found (args.outboxId, new) (Table.mem_rows.mpr inserted)
    simp [isActiveHead, isNew, newOutbox, kind, cycle] at absent
  | some entry =>
    obtain ⟨there, heads⟩ := priorHead_eq_some found
    by_cases same : entry.1 = args.outboxId
    · rw [same] at there
      rw [← Option.mem_unique there inserted, ← same]
    · rw [set, Table.get_set_ne same] at there
      have unlike := clean _ _ there
      simp only [headOf, isActiveHead, Bool.and_eq_true, beq_iff_eq] at heads
      obtain ⟨⟨⟨⟨-, kinds, current⟩, event⟩, closure⟩, slot⟩ := heads
      simp [violatesUnique, sameSlot, isActiveHead, isNew, newOutbox, kind, cycle, event, closure,
        slot, kinds, current] at unlike

theorem enqueueCommand_carries {last : Nat} (allowed : args.guardAllows = true)
    (event : (db.events.get args.eventId).isNone = false)
    (source : db.sources.get args.sourceRecordId = some last)
    (head : priorHead db args.command args.eventId args.slot = some (key, row)) :
    (∃ second, enqueueCommand db args = .ok (second, key) ∧ second.outboxes = db.outboxes)
      ↔ carries args.command (key, row) = true := by
  have prior : priorHead { db with sources := db.sources.set args.sourceRecordId (last + 1) }
      args.command args.eventId args.slot = some (key, row) := head
  cases same : carries args.command (key, row) with
  | true => simp [enqueueCommand, allowed, event, source, prior, Option.filter, same]
  | false =>
    simp only [enqueueCommand, allowed, event, source, prior, Option.filter, same]
    refine iff_of_false ?_ Bool.false_ne_true
    -- the row it would insert cannot have the identifier of the head
    rintro ⟨second, returned, -⟩
    obtain ⟨inserted, done, both⟩ := map_eq_ok.mp returned
    obtain ⟨-, rfl⟩ := Prod.mk.inj both
    obtain ⟨superseded, marks, done⟩ := bind_eq_ok.mp done
    have fresh := (insertOutbox_eq_ok done).1
    unfold supersedeHead at marks
    split at marks
    · cases marks
    · cases marks
      simp at fresh

/-- **Enqueueing twice.** After a call that succeeded, the same command is recognised exactly when
the slot had no head, or one that carried the command already, or one that the command itself names
as the head it supersedes. -/
theorem enqueue_again_iff (db : Db) (args : EnqueueArgs) (again : OutboxId)
    (update : args.command.intentKind = .eventStatusUpdate) (after : Db) (id : OutboxId)
    (done : enqueueCommand db args = .ok (after, id)) :
    (∃ second, enqueueCommand after { args with outboxId := again } = .ok (second, id)
        ∧ second.outboxes = after.outboxes)
      ↔ ∀ head row, priorHead db args.command args.eventId args.slot = some (head, row) →
        carries args.command (head, row) = true
          ∨ args.command.supersedesDispositionId = some row.dispositionId := by
  unfold enqueueCommand at done
  split_ifs at done with allowed event
  rw [Bool.not_eq_true, Bool.not_eq_false'] at allowed
  rw [Bool.not_eq_true] at event
  split at done
  · cases done
  rename_i last source
  dsimp only at done
  set numbered : Db := { db with sources := db.sources.set args.sourceRecordId (last + 1) }
  have numbers : numbered.sources.get args.sourceRecordId = some (last + 1) :=
    Table.get_set_self
  have before : priorHead numbered args.command args.eventId args.slot
    = priorHead db args.command args.eventId args.slot := rfl
  rw [before] at done
  have recognised := fun (row : OutboxRow) (events : after.events = db.events)
      (sources : after.sources = numbered.sources) =>
    @enqueueCommand_carries after { args with outboxId := again } id row (last + 1) allowed
      (by rw [events]; exact event) (by rw [sources]; exact numbers)
  cases prior : priorHead db args.command args.eventId args.slot with
  | none =>
    rw [prior] at done
    obtain ⟨_, inserts, both⟩ := map_eq_ok.mp done
    obtain ⟨rfl, rfl⟩ := Prod.mk.inj both
    obtain ⟨-, clean, rfl⟩ := insertOutbox_eq_ok inserts
    refine (recognised _ rfl rfl (priorHead_inserted update clean rfl rfl)).trans ?_
    simp [carries, newOutbox]
  | some entry =>
    obtain ⟨head, row⟩ := entry
    rw [prior] at done
    cases same : carries args.command (head, row) with
    | true =>
      simp only [Option.filter, same] at done
      obtain ⟨rfl, rfl⟩ := Prod.mk.inj (Except.ok.inj done)
      refine (recognised row rfl rfl prior).trans ?_
      simp [same]
    | false =>
      simp only [Option.filter, same] at done
      obtain ⟨_, inserts, both⟩ := map_eq_ok.mp done
      obtain ⟨rfl, rfl⟩ := Prod.mk.inj both
      obtain ⟨_, marks, inserts⟩ := bind_eq_ok.mp inserts
      unfold supersedeHead at marks
      split at marks
      · cases marks
      cases marks
      obtain ⟨-, clean, rfl⟩ := insertOutbox_eq_ok inserts
      refine (recognised _ rfl rfl (priorHead_inserted update clean rfl rfl)).trans ?_
      simp only [Option.some.injEq, Prod.mk.injEq, and_imp, forall_eq', forall_apply_eq_imp_iff,
        same]
      simp [carries, newOutbox, Command.payloadSha256, eq_comm (a := some row.dispositionId)]

def sampleArgs (id : OutboxId) : EnqueueArgs :=
  { command := sampleCommand id, eventId := 1, sourceRecordId := 1, slot := 0, outboxId := id
    guardAllows := true }

theorem enqueue_again_iff_first : ∃ after second,
    enqueueCommand (World.initial sampleTables).db (sampleArgs 7) = .ok (after, 7)
      ∧ enqueueCommand after { sampleArgs 7 with outboxId := 8 } = .ok (second, 7)
      ∧ second.outboxes = after.outboxes := by
  have free : priorHead (World.initial sampleTables).db (sampleCommand 7) 1 0 = none := rfl
  obtain ⟨second, again⟩ := (enqueue_again_iff (World.initial sampleTables).db (sampleArgs 7) 8 rfl
    _ 7 rfl).mpr fun _ _ found => nomatch free.symm.trans found
  exact ⟨_, second, rfl, again⟩

/-- **A retried supersede fails.** Command 8 supersedes command 7; the second call with it tries to
supersede its own row and meets the unique idempotency key. -/
theorem enqueue_again_fails : ∃ first after,
    enqueueCommand (World.initial sampleTables).db (sampleArgs 7) = .ok (first, 7)
      ∧ enqueueCommand first (sampleArgs 8) = .ok (after, 8)
      ∧ enqueueCommand after { sampleArgs 8 with outboxId := 9 } = .error .integrity :=
  ⟨_, _, rfl, rfl, rfl⟩

end

end ShadowTrace.Sync
