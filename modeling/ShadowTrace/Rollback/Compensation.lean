/-
**Compensation records** (`_create_compensation_writebacks` in `app/services/rollback_service.py`).

After a rollback, every active writeback of the original action gets a compensation record: from the
tail of the rollback (`_finalize_rollback_effect`) or from a reconciliation
(`repair_completed_rollbacks`). Both read what there is and enqueue what is missing. The first lock
is taken after the reads, and the idempotency key contains a fresh identifier, so that the database
refuses nothing. Here a run stands between its reads and its inserts (`Run.checked`).
-/

import Mathlib.Data.List.Sort
import Mathlib.Data.Nat.Pairing
import ShadowTrace.Rollback.Service
import ShadowTrace.Sync.Safety

namespace ShadowTrace.Rollback

open Relational Machine

abbrev RunId := Nat

/-! ### What a run reads -/

def compensable (kind : DispositionIntentKind) : Bool :=
  kind == .entityActionSubmit || kind == .executionResultRecord

section

variable (db : Db) (original : ActionId) (rollback : ActionId) (parent : DispositionId)
  (row : OutboxRow)

def isParent : Bool :=
  row.actionId == original && compensable row.intentKind && row.supersededByDispositionId.isNone

def parentOutboxes : List OutboxRow :=
  (db.outboxes.rows.filter fun entry => isParent original entry.2).map Prod.snd

def isCompensation : Bool :=
  row.actionId == rollback && row.intentKind == .compensationRecord
    && row.supersededByDispositionId.isNone && row.parentDispositionId == some parent

def compensated : Bool :=
  db.outboxes.rows.any fun entry => isCompensation rollback parent entry.2

/-- A rollback to be compensated. -/
structure Task where
  original : ActionId
  originalRow : ActionRow
  rollback : ActionId
  rollbackRow : ActionRow

/-- The gates in front of the reads; `allowed`: there is a sync service and
`_xdr_writeback_allowed()`. -/
def Task.applicable (task : Task) (allowed : Bool) : Bool :=
  task.originalRow.writebackRequired && task.originalRow.writebackApplicable && allowed
    && task.originalRow.dispositionSourceRef.isSome

def missingParents (task : Task) : List DispositionId :=
  ((parentOutboxes db task.original).map fun row => row.dispositionId).filter fun parent =>
    !compensated db task.rollback parent

def compensationMissing (row : ActionRow) : Bool :=
  row.sourceActionId.any fun original =>
    (parentOutboxes db original).any fun parent => !compensated db rollback parent.dispositionId

def repairable (entry : ActionId × ActionRow) : Bool :=
  entry.2.category == .rollback && entry.2.status == .success && entry.2.sourceActionId.isSome
    && entry.2.writebackRequired && entry.2.writebackApplicable
    && compensationMissing db entry.1 entry.2

def repairRows (limit : Nat) : List (ActionId × ActionRow) :=
  let sorted := (db.actions.rows.filter (repairable db)).insertionSort fun first second =>
    first.2.updatedAt < second.2.updatedAt
      ∨ first.2.updatedAt = second.2.updatedAt ∧ first.1 ≤ second.1
  sorted.take (max 1 limit)

/-! ### What a run writes -/

structure RecordDraft where
  dispositionId : DispositionId
  outboxId : OutboxId
  body : Nat
  guardAllows : Bool

def compensationKey (disposition : DispositionId) : IdempotencyKey :=
  Nat.pair rollback disposition

end

def compensationArgs (task : Task) (source : SourceRecordId) (parent : DispositionId)
    (draft : RecordDraft) : Sync.EnqueueArgs where
  command :=
    { actionId := task.rollback, dispositionId := draft.dispositionId
      closureCycle := task.originalRow.planRevision, intentKind := .compensationRecord
      idempotencyKey := compensationKey task.rollback draft.dispositionId
      supersedesDispositionId := none, targetDisposition := none
      parentDispositionId := some parent, body := draft.body }
  eventId := task.rollbackRow.eventId
  sourceRecordId := source
  slot := (Execution.Slot.compensation task.original).index
  outboxId := draft.outboxId
  guardAllows := draft.guardAllows

/-- The loop over the missing parents. A command that is refused is left out; a unique index that is
violated loses the transaction. -/
def enqueueMissing (db : Db) (task : Task) (source : SourceRecordId) :
    List (DispositionId × RecordDraft) → Option Db
  | [] => some db
  | (parent, draft) :: rest =>
    match Sync.enqueueCommand db (compensationArgs task source parent draft) with
    | .ok (after, _) => enqueueMissing after task source rest
    | .error .integrity => none
    | .error _ => enqueueMissing db task source rest

/-! ### The machine -/

/-- Where a run stands; `left` is what a repair still has to look at. -/
inductive Run
  | idle
  | finalizing (task : Task)
  | repairing (left : List (ActionId × ActionRow))
  | creating (task : Task) (left : List (ActionId × ActionRow))
  | checked (task : Task) (source : SourceRecordId) (missing : List DispositionId)
      (left : List (ActionId × ActionRow))

structure World where
  sync : Sync.World
  runs : Table RunId Run

def World.run (w : World) (id : RunId) : Run := (w.runs.get id).getD .idle

def World.setRun (w : World) (id : RunId) (run : Run) : World :=
  { w with runs := w.runs.set id run }

def World.setDb (w : World) (db : Db) : World :=
  { w with sync := { w.sync with db } }

inductive RunOp
  | finalize (task : Task) (effect : EffectStatus) (now : Time)
  | mark (now : Time)
  | repair (limit : Nat)
  | next
  | check (allowed : Bool)
  | commit (drafts : List RecordDraft)

inductive Label
  | run (id : RunId) (op : RunOp)
  /-- The outbox service works on; other services' enqueues are not part of it. -/
  | sync (op : Sync.Op)

section

variable (w : World) (id : RunId)

def stepFinalize (task : Task) (effect : EffectStatus) (now : Time) : World :=
  match w.run id with
  | .idle =>
    if effect = .verified ∨ effect = .skipped then w.setRun id (.finalizing task)
    else if task.rollbackRow.status = .success then
      w.setDb (updateActionStatus w.sync.db task.rollback .failed now)
    else w
  | _ => w

def stepMark (now : Time) : World :=
  match w.run id with
  | .finalizing task =>
    let marked := if task.originalRow.status = .rolledBack then w.sync.db
      else casRollbackStatus w.sync.db task.original task.originalRow.status now
    (w.setRun id (.creating task [])).setDb marked
  | _ => w

def stepNext : World :=
  match w.run id with
  | .repairing [] => w.setRun id .idle
  | .repairing ((rollback, row) :: left) =>
    match row.sourceActionId with
    | none => w.setRun id (.repairing left)
    | some original =>
      match w.sync.db.actions.get original with
      | none => w.setRun id (.repairing left)
      | some source =>
        if source.status = .rolledBack then
          w.setRun id (.creating ⟨original, source, rollback, row⟩ left)
        else w.setRun id (.repairing left)
  | _ => w

def stepCheck (allowed : Bool) : World :=
  match w.run id with
  | .creating task left =>
    if task.applicable allowed then
      match parentOutboxes w.sync.db task.original with
      | [] => w.setRun id (.repairing left)
      | first :: _ =>
        w.setRun id (.checked task first.sourceRecordId (missingParents w.sync.db task) left)
    else w.setRun id (.repairing left)
  | _ => w

def stepCommit (drafts : List RecordDraft) : World :=
  match w.run id with
  | .checked task source missing left =>
    match enqueueMissing w.sync.db task source (missing.zip drafts) with
    | none => w.setRun id .idle
    | some after => (w.setRun id (.repairing left)).setDb after
  | _ => w

end

section Machine

variable (name : Sync.ProcId → WorkerId)

def step (w : World) : Label → World
  | .run id (.finalize task effect now) => stepFinalize w id task effect now
  | .run id (.mark now) => stepMark w id now
  | .run id (.repair limit) =>
    match w.run id with
    | .idle => w.setRun id (.repairing (repairRows w.sync.db limit))
    | _ => w
  | .run id .next => stepNext w id
  | .run id (.check allowed) => stepCheck w id allowed
  | .run id (.commit drafts) => stepCommit w id drafts
  | .sync op => if op.internal then { w with sync := Sync.step name w.sync op } else w

end Machine

/-! ### One compensation per parent -/

/-- **At most one active compensation** of a rollback action for each parent. -/
def OneCompensation (db : Db) : Prop :=
  ∀ rollback parent first second row other,
    db.outboxes.get first = some row → db.outboxes.get second = some other →
    isCompensation rollback parent row = true → isCompensation rollback parent other = true →
    first = second

/-- Dispositions are drawn fresh: two writebacks of an action have two. -/
def DistinctParents (db : Db) : Prop :=
  ∀ first second row other,
    db.outboxes.get first = some row → db.outboxes.get second = some other →
    compensable row.intentKind = true → compensable other.intentKind = true →
    row.dispositionId = other.dispositionId → first = second

def unraced (w : World) : Label → Bool
  | .run id (.commit _) =>
    match w.run id with
    | .checked task _ missing _ =>
      missing.all fun parent => !compensated w.sync.db task.rollback parent
    | _ => true
  | _ => true

variable {row : OutboxRow} {draft : RecordDraft}

section Rows

variable {db after : Db} {rollback : ActionId} {parent : DispositionId}

theorem compensated_iff :
    compensated db rollback parent = true
      ↔ ∃ id row, db.outboxes.get id = some row ∧ isCompensation rollback parent row = true := by
  simp only [compensated, List.any_eq_true, Prod.exists, Table.mem_rows]

theorem isCompensation_of_step {next : OutboxRow} (moved : Sync.RowStep row next)
    (holds : isCompensation rollback parent next = true) :
    isCompensation rollback parent row = true := by
  have kept := congrArg OutboxRow.parentDispositionId moved.frozen
  have lineage : next.supersededByDispositionId = none → row.supersededByDispositionId = none := by
    intro active
    cases stale : row.supersededByDispositionId with
    | none => rfl
    | some =>
      have marked := moved.moves.superseded (by simp [Sync.OutboxRow.state, stale])
      rw [Sync.OutboxRow.state, active] at marked
      cases marked
  simp only [isCompensation, Bool.and_eq_true, beq_iff_eq, Option.isNone_iff_eq_none] at holds ⊢
  obtain ⟨⟨⟨action, kind⟩, active⟩, same⟩ := holds
  exact ⟨⟨⟨moved.action.symm.trans action, moved.kind.symm.trans kind⟩, lineage active⟩,
    kept.symm.trans same⟩

theorem enqueue_compensation {task : Task} {source : SourceRecordId} {id : OutboxId}
    (done : Sync.enqueueCommand db (compensationArgs task source parent draft) = .ok (after, id)) :
    ∀ id next, after.outboxes.get id = some next →
      (∃ row, db.outboxes.get id = some row ∧ Sync.RowStep row next)
        ∨ id = draft.outboxId ∧ next.intentKind = .compensationRecord
          ∧ next.actionId = task.rollback ∧ next.parentDispositionId = some parent := by
  intro _ _ found
  obtain ⟨row, earlier, quiet⟩ | ⟨-, fresh, _, _, stored, rfl⟩ :=
    (Sync.enqueueCommand_effect done).1.steps.row_after found
  · exact .inl ⟨row, earlier, quiet.toRowStep⟩
  · refine .inr ⟨fresh, ?_⟩
    rw [stored]
    exact ⟨rfl, rfl, rfl⟩

end Rows

/-- What the records of a database satisfy. -/
structure Tidy (db : Db) : Prop where
  one : OneCompensation db
  distinct : DistinctParents db

section Queue

variable {db after : Db} {task : Task} {source : SourceRecordId}

theorem tidy_of_updates (updates : Sync.QueueUpdates db.outboxes after.outboxes)
    (tidy : Tidy db) : Tidy after := by
  constructor
  · intro rollback parent first second _ _ found there holds too
    obtain ⟨row', before, moved⟩ := updates.row_before found
    obtain ⟨other', earlier, alike⟩ := updates.row_before there
    exact tidy.one rollback parent first second row' other' before earlier
      (isCompensation_of_step moved holds) (isCompensation_of_step alike too)
  intro first second _ _ found there kind too same
  obtain ⟨row', before, moved⟩ := updates.row_before found
  obtain ⟨other', earlier, alike⟩ := updates.row_before there
  rw [moved.disposition, alike.disposition] at same
  exact tidy.distinct first second row' other' before earlier (moved.kind ▸ kind)
    (alike.kind ▸ too) same

theorem enqueue_tidy {parent : DispositionId} {id : OutboxId} (tidy : Tidy db)
    (free : compensated db task.rollback parent = false)
    (done : Sync.enqueueCommand db (compensationArgs task source parent draft) = .ok (after, id)) :
    Tidy after := by
  have rows := enqueue_compensation done
  -- an active compensation of the enqueued parent was not there before
  have absent : ∀ {key row rollback disposition} {next : OutboxRow},
      db.outboxes.get key = some row → isCompensation rollback disposition row = true →
      isCompensation rollback disposition next = true → next.actionId = task.rollback →
      next.parentDispositionId ≠ some parent := by
    intro key row _ _ _ found holds too action same
    simp only [isCompensation, Bool.and_eq_true, beq_iff_eq] at too
    obtain rfl := action.symm.trans too.1.1.1
    cases same.symm.trans too.2
    rw [compensated_iff.mpr ⟨key, row, found, holds⟩] at free
    cases free
  constructor
  · intro rollback disposition first second row other found there holds too
    obtain ⟨row', before, moved⟩ | ⟨rfl, -, action, same⟩ := rows first row found
    · obtain ⟨other', earlier, alike⟩ | ⟨rfl, -, action, same⟩ := rows second other there
      · exact tidy.one rollback disposition first second row' other' before earlier
          (isCompensation_of_step moved holds) (isCompensation_of_step alike too)
      · exact absurd same (absent before (isCompensation_of_step moved holds) too action)
    · obtain ⟨other', earlier, alike⟩ | ⟨rfl, -, -, -⟩ := rows second other there
      · exact absurd same (absent earlier (isCompensation_of_step alike too) holds action)
      · rfl
  · intro first second row other found there kind too same
    obtain ⟨row', before, moved⟩ | ⟨-, fresh, -⟩ := rows first row found
    · obtain ⟨other', earlier, alike⟩ | ⟨-, fresh, -⟩ := rows second other there
      · rw [moved.disposition, alike.disposition] at same
        exact tidy.distinct first second row' other' before earlier (moved.kind ▸ kind)
          (alike.kind ▸ too) same
      · rw [fresh] at too
        cases too
    · rw [fresh] at kind
      cases kind

theorem enqueue_free {parent other : DispositionId} {id : OutboxId} (apart : other ≠ parent)
    (free : compensated db task.rollback other = false)
    (done : Sync.enqueueCommand db (compensationArgs task source parent draft) = .ok (after, id)) :
    compensated after task.rollback other = false := by
  rw [Bool.eq_false_iff] at free ⊢
  intro held
  obtain ⟨key, next, found, holds⟩ := compensated_iff.mp held
  obtain ⟨row, before, moved⟩ | ⟨-, -, -, same⟩ := enqueue_compensation done key next found
  · exact free (compensated_iff.mpr ⟨key, row, before, isCompensation_of_step moved holds⟩)
  · simp only [isCompensation, Bool.and_eq_true, beq_iff_eq] at holds
    exact apart (Option.mem_unique holds.2 same)

/-- **The loop inserts at most one compensation for each parent.** -/
theorem enqueueMissing_tidy {pairs : List (DispositionId × RecordDraft)} (tidy : Tidy db)
    (distinct : (pairs.map Prod.fst).Nodup)
    (free : ∀ parent ∈ pairs.map Prod.fst, compensated db task.rollback parent = false)
    (done : enqueueMissing db task source pairs = some after) : Tidy after := by
  induction pairs generalizing db with
  | nil =>
    cases done
    exact tidy
  | cons pair _ ih =>
    obtain ⟨parent, draft⟩ := pair
    obtain ⟨fresh, distinct⟩ := List.nodup_cons.mp distinct
    obtain ⟨open_, free⟩ := List.forall_mem_cons.mp free
    rw [enqueueMissing] at done
    split at done
    · rename_i enqueued
      refine ih (enqueue_tidy tidy open_ enqueued) distinct (fun other mem => ?_) done
      have apart : other ≠ parent := fun same => fresh (same ▸ mem)
      exact enqueue_free apart (free other mem) enqueued
    · cases done
    · exact ih tidy distinct free done

theorem missingParents_nodup (distinct : DistinctParents db) (task : Task) :
    (missingParents db task).Nodup := by
  unfold missingParents parentOutboxes
  refine List.Nodup.filter _ ?_
  rw [List.map_map]
  refine List.Nodup.map_on ?_ ((List.Nodup.of_map Prod.fst db.outboxes.nodup_rows).filter _)
  rintro ⟨first, row⟩ listed ⟨second, other⟩ too same
  obtain ⟨mem, parent⟩ := List.mem_filter.mp listed
  obtain ⟨member', parent'⟩ := List.mem_filter.mp too
  simp only [isParent, Bool.and_eq_true] at parent parent'
  have found := Table.mem_rows.mp mem
  have there := Table.mem_rows.mp member'
  obtain rfl := distinct first second row other found there parent.1.2 parent'.1.2 same
  rw [found] at there
  rw [Option.some.inj there]

end Queue

/-! ### Schedules -/

def Run.missing : Run → List DispositionId
  | .checked _ _ missing _ => missing
  | .idle | .finalizing _ | .repairing _ | .creating _ _ => []

/-- The invariant of the runs. -/
structure Orderly (w : World) : Prop where
  tidy : Tidy w.sync.db
  distinct : ∀ id, (w.run id).missing.Nodup

section Step

variable {w after : World} {id : RunId} {next : Run}

theorem run_of_set (runs : after.runs = w.runs.set id next) (other : RunId) :
    after.run other = if other = id then next else w.run other := by
  unfold World.run
  rw [runs, Table.get_set]
  split_ifs
  · rfl
  · rfl

theorem Orderly.moved (orderly : Orderly w) (tidy : Tidy after.sync.db)
    (runs : after.runs = w.runs.set id next) (distinct : next.missing.Nodup) :
    Orderly after := by
  refine ⟨tidy, ?_⟩
  intro other
  rw [run_of_set runs]
  split_ifs
  · exact distinct
  · exact orderly.distinct other

theorem drafted_sublist (missing : List DispositionId) (drafts : List RecordDraft) :
    ((missing.zip drafts).map Prod.fst).Sublist missing := by
  induction missing generalizing drafts with
  | nil => exact List.nil_sublist _
  | cons parent _ ih =>
    cases drafts with
    | nil => exact List.nil_sublist _
    | cons _ drafts => exact (ih drafts).cons_cons parent

theorem stepCommit_orderly (orderly : Orderly w) (id : RunId) (drafts : List RecordDraft)
    (fresh : unraced w (.run id (.commit drafts)) = true) :
    Orderly (stepCommit w id drafts) := by
  unfold stepCommit
  split
  · rename_i task _ missing _ held
    split
    · exact orderly.moved orderly.tidy rfl .nil
    rename_i done
    have free : ∀ parent ∈ missing, compensated w.sync.db task.rollback parent = false := by
      simpa [unraced, held] using fresh
    have listed := drafted_sublist missing drafts
    refine orderly.moved (enqueueMissing_tidy orderly.tidy ?_ ?_ done) rfl .nil
    · have distinct := orderly.distinct id
      rw [held] at distinct
      exact distinct.sublist listed
    · exact fun parent mem => free parent (listed.subset mem)
  · exact orderly

theorem stepCheck_orderly (orderly : Orderly w) (id : RunId) (allowed : Bool) :
    Orderly (stepCheck w id allowed) := by
  unfold stepCheck
  split
  · rename_i task _ _
    split
    · split
      · exact orderly.moved orderly.tidy rfl .nil
      · exact orderly.moved orderly.tidy rfl (missingParents_nodup orderly.tidy.distinct task)
    · exact orderly.moved orderly.tidy rfl .nil
  · exact orderly

theorem stepNext_orderly (orderly : Orderly w) (id : RunId) :
    Orderly (stepNext w id) := by
  unfold stepNext
  repeat' split
  all_goals first
    | exact orderly
    | exact orderly.moved orderly.tidy rfl .nil

theorem tidy_of_same {db after : Db} (same : after.outboxes = db.outboxes) (tidy : Tidy db) :
    Tidy after := by
  refine tidy_of_updates ?_ tidy
  rw [same]
  exact .refl _

theorem casRollbackStatus_outboxes (db : Db) (id : ActionId) (seen : ActionStatus) (now : Time) :
    (casRollbackStatus db id seen now).outboxes = db.outboxes := by
  unfold casRollbackStatus
  repeat' split
  all_goals rfl

theorem step_orderly (name : Sync.ProcId → WorkerId) (orderly : Orderly w) {label : Label}
    (fresh : unraced w label = true) : Orderly (step name w label) := by
  cases label with
  | sync =>
    rw [step]
    split_ifs with internal
    · exact ⟨tidy_of_updates (Sync.step_updates name w.sync internal).1 orderly.tidy,
        orderly.distinct⟩
    · exact orderly
  | run id op =>
    cases op with
    | finalize task _ now =>
      simp only [step, stepFinalize]
      split
      · split_ifs
        · exact orderly.moved orderly.tidy rfl .nil
        · have same : (updateActionStatus w.sync.db task.rollback .failed now).outboxes
              = w.sync.db.outboxes := rfl
          exact ⟨tidy_of_same same orderly.tidy, orderly.distinct⟩
        · exact orderly
      · exact orderly
    | mark =>
      simp only [step, stepMark]
      split
      · refine orderly.moved (tidy_of_same ?_ orderly.tidy) rfl .nil
        split_ifs
        · rfl
        · exact casRollbackStatus_outboxes _ _ _ _
      · exact orderly
    | repair =>
      simp only [step]
      split
      · exact orderly.moved orderly.tidy rfl .nil
      · exact orderly
    | next => exact stepNext_orderly orderly id
    | check => exact stepCheck_orderly orderly id ..
    | commit drafts => exact stepCommit_orderly orderly id drafts fresh

end Step

def World.of (db : Db) : World where
  sync :=
    { db, workers := .empty, claims := .empty, nextToken := 0, calls := [] }
  runs := .empty

/-- **One compensation.** Finalizations and repairs may interleave in any way, with each other and
with deliveries: as long as nothing a run inserts has been inserted since its check, there is at
most one active compensation of a rollback action for each parent. -/
theorem one_compensation (name : Sync.ProcId → WorkerId) (db : Db) (start : OneCompensation db)
    (drawn : DistinctParents db) (schedule : List Label)
    (fresh : Along (step name) (fun w label => unraced w label = true) (World.of db) schedule) :
    OneCompensation (run (step name) (World.of db) schedule).sync.db := by
  have initial : Orderly (World.of db) := ⟨⟨start, drawn⟩, fun _ => List.nodup_nil⟩
  have reached : Orderly (run (step name) (World.of db) schedule) :=
    run_invariant _ Orderly (fun _ _ held => step_orderly name held) initial fresh
  exact reached.tidy.one

/-! ### Two runs that check before either inserts -/

/-- The writeback of the original action. -/
def sampleParent : OutboxRow :=
  { Sync.newOutbox
      { actionId := 1, dispositionId := 5, closureCycle := 1, intentKind := .executionResultRecord
        idempotencyKey := 0, supersedesDispositionId := none, targetDisposition := none
        body := 0 } 1 1 1 0 with
    deliveryStatus := .delivered, latestWritebackStatus := some .confirmed }

def sampleUndone : Db where
  events := .set .empty 1 Sync.sampleEvent
  sources := .set .empty 1 1
  actions := Table.set (.set .empty 1 sampleOriginal) 2 (sampleUndoing 1 sampleOriginal)
  outboxes := .set .empty 1 sampleParent

def sampleFinalize : List Label :=
  [.run 0 (.finalize ⟨1, sampleOriginal, 2, sampleUndoing 1 sampleOriginal⟩ .verified 1),
    .run 0 (.mark 1), .run 0 (.check true)]

def sampleRepair : List Label := [.run 1 (.repair 50), .run 1 .next, .run 1 (.check true)]

def sampleCommit (id : RunId) : Label :=
  .run id (.commit [{ dispositionId := 10 + id, outboxId := 2 + id, body := id
                      guardAllows := true }])

theorem sampleUndone_outbox {id : OutboxId} (found : sampleUndone.outboxes.get id = some row) :
    id = 1 := by
  have stored : (Table.set .empty 1 sampleParent).get id = some row := found
  rw [Table.get_set] at stored
  split_ifs at stored with same
  · exact same
  · cases stored

theorem one_compensation_undone :
    let schedule := sampleFinalize ++ [sampleCommit 0] ++ sampleRepair ++ [sampleCommit 1]
    compensated (run (step id) (World.of sampleUndone) schedule).sync.db 2 5 = true
      ∧ OneCompensation (run (step id) (World.of sampleUndone) schedule).sync.db := by
  refine ⟨by decide, one_compensation id sampleUndone ?_ ?_ _ (by decide)⟩
  · intro _ _ _ _ _ _ found there _ _
    exact (sampleUndone_outbox found).trans (sampleUndone_outbox there).symm
  · intro _ _ _ _ found there _ _ _
    exact (sampleUndone_outbox found).trans (sampleUndone_outbox there).symm

theorem not_one_of_two {db : Db} (rollback : ActionId) (parent : DispositionId)
    {first second : OutboxId} (apart : first ≠ second)
    (one : (db.outboxes.get first).any (isCompensation rollback parent) = true)
    (two : (db.outboxes.get second).any (isCompensation rollback parent) = true) :
    ¬ OneCompensation db := by
  intro unique
  obtain ⟨row, found, holds⟩ := (Option.any_eq_true _ _).mp one
  obtain ⟨other, there, too⟩ := (Option.any_eq_true _ _).mp two
  exact apart (unique rollback parent first second row other found there holds too)

/-- **A rollback is compensated twice.** Both runs check before either of them inserts. -/
theorem compensated_twice :
    ¬ OneCompensation (run (step id) (World.of sampleUndone)
      (sampleFinalize ++ sampleRepair ++ [sampleCommit 0, sampleCommit 1])).sync.db := by
  have apart : (2 : OutboxId) ≠ 3 := by decide
  exact not_one_of_two 2 5 apart (by decide) (by decide)

end ShadowTrace.Rollback
