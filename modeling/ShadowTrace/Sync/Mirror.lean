/-
**The mirror of an outbox on its action.**

The close gate reads `writeback_status` from the action, the service writes
`latest_writeback_status` to the outbox and copies it to the action by hand. `MirrorsAgree` says
that the two columns are equal for every applicable action with one active outbox.
-/

import ShadowTrace.Sync.Safety

namespace ShadowTrace.Sync

open Relational Fallible

/-! ### Agreement -/

section

variable (db : Db) (action : ActionId)

def isActiveOf (row : OutboxRow) : Bool :=
  row.actionId == action && row.supersededByDispositionId.isNone

/-- The one row of the action that is not superseded. -/
structure OnlyActive (queue : Table OutboxId OutboxRow) (action : ActionId) (id : OutboxId)
    (row : OutboxRow) : Prop where
  stored : queue.get id = some row
  active : isActiveOf action row = true
  only : ∀ other stored, queue.get other = some stored → isActiveOf action stored = true →
    other = id

/-- An action shows the status of its only active writeback. -/
def MirrorsAgree : Prop :=
  ∀ action stored, db.actions.get action = some stored → stored.writebackApplicable = true →
    ∀ id row, OnlyActive db.outboxes action id row →
      stored.writebackStatus = row.latestWritebackStatus

/-! ### The condition -/

/-- A delivery of the outbox does not meet an expired lease. -/
def leaseHolds (id : OutboxId) (now : Time) : Bool :=
  (db.outboxes.get id).all fun row => row.deliveryStatus != .leased || !leaseExpired row now

def WorkerMemory.next : WorkerMemory → Option OutboxId
  | .delivering (id :: _) => some id
  | _ => none

def unmirrored : Bool :=
  (db.actions.get action).all fun row => !row.writebackApplicable || row.writebackStatus.isNone

/-- A head that the enqueue supersedes is the only active outbox of its action. -/
def headsAlone (args : EnqueueArgs) : Bool :=
  db.outboxes.rows.all fun head => !headOf args head.2 ||
    db.outboxes.rows.all fun other => !isActiveOf head.2.actionId other.2 || other.1 == head.1

/-- The other services leave the mirror of an applicable action alone, and a new action has no
outbox yet. -/
def keepsMirrors (actions : Table ActionId ActionRow) : Bool :=
  actions.rows.all fun entry => !entry.2.writebackApplicable ||
    match db.actions.get entry.1 with
    | some row => mirrorOf row == mirrorOf entry.2
    | none => db.outboxes.rows.all fun outbox => !isActiveOf entry.1 outbox.2

end

def paired (w : World) : Op → Bool
  | .enqueue args => unmirrored w.db args.command.actionId && headsAlone w.db args
  | .deliverDirect id _ now _ => leaseHolds w.db id now
  | .deliverClaimed p now _ => (w.memory p).next.all (leaseHolds w.db · now)
  | .claimPaused id _ valid => !valid ||
    (w.db.outboxes.get id).all fun row => row.latestWritebackStatus == some .unknown
  | .updateFromLookup id _ | .resolve id _ _ _ =>
    (w.db.outboxes.get id).all fun row => row.supersededByDispositionId.isNone
  | .others tables => keepsMirrors w.db tables.actions
  | _ => true

/-! ### A paired write -/

/-- The row has taken the status that its action mirrors. -/
structure Paired (row written : OutboxRow) (status : Option WritebackStatus) : Prop where
  action : written.actionId = row.actionId
  lineage : written.supersededByDispositionId = row.supersededByDispositionId
  both : row.supersededByDispositionId = none →
    written.latestWritebackStatus = status.or row.latestWritebackStatus
  neither : row.supersededByDispositionId ≠ none → status = none

variable {queue : Table OutboxId OutboxRow} {other : OutboxId}

section Agreement

variable {before after : Db} {action : ActionId} {written : OutboxRow}
  {status : Option WritebackStatus}

theorem isActiveOf_iff {row : OutboxRow} :
    isActiveOf action row = true
      ↔ row.actionId = action ∧ row.supersededByDispositionId = none := by
  simp only [isActiveOf, Bool.and_eq_true, beq_iff_eq, Option.isNone_iff_eq_none]

theorem Paired.isActiveOf {row : OutboxRow} (paired : Paired row written status)
    (action : ActionId) :
    isActiveOf action written = isActiveOf action row := by
  simp only [Sync.isActiveOf, paired.action, paired.lineage]

theorem Paired.onlyActive {id : OutboxId} {row next : OutboxRow}
    (paired : Paired row written status) (found : queue.get id = some row)
    (only : OnlyActive (queue.set id written) action other next) :
    ∃ earlier, OnlyActive queue action other earlier
      ∧ (other = id ∧ earlier = row ∧ next = written ∨ other ≠ id ∧ next = earlier) := by
  have alone : ∀ entry stored, queue.get entry = some stored →
      Sync.isActiveOf action stored = true → entry = other := by
    intro entry stored there active
    by_cases same : entry = id
    · subst same
      obtain rfl := Option.mem_unique found there
      exact only.only entry written (Table.get_set_self)
        ((paired.isActiveOf action).trans active)
    · exact only.only entry stored ((Table.get_set_ne same).trans there) active
  have reached := only.stored
  rw [Table.get_set] at reached
  split_ifs at reached with same
  · subst same
    cases reached
    have active : Sync.isActiveOf action row = true :=
      (paired.isActiveOf action).symm.trans only.active
    exact ⟨row, ⟨found, active, alone⟩, .inl ⟨rfl, rfl, rfl⟩⟩
  · exact ⟨next, ⟨reached, only.active, alone⟩, .inr ⟨same, rfl⟩⟩

theorem Mirrors.row {id : ActionId} {next : ActionRow}
    (mirrors : Mirrors action status before.actions after.actions)
    (reached : after.actions.get id = some next) (applicable : next.writebackApplicable = true) :
    ∃ row, before.actions.get id = some row ∧ row.writebackApplicable = true
      ∧ next.writebackStatus = (if id = action then status else none).or row.writebackStatus := by
  have columns := mirrors id
  rw [reached, Option.map_some, eq_comm, Option.map_eq_some_iff] at columns
  obtain ⟨row, found, same⟩ := columns
  refine ⟨row, found, ?_⟩
  by_cases own : id = action
  · rw [if_pos own, mirrored] at same
    rw [if_pos own]
    split_ifs at same with was
    · exact ⟨was, (congrArg Prod.snd same).symm⟩
    · exact absurd ((congrArg Prod.fst same).trans applicable) was
  · rw [if_neg own] at same
    rw [if_neg own]
    exact ⟨(congrArg Prod.fst same).trans applicable, (congrArg Prod.snd same).symm⟩

theorem Paired.agree {id : OutboxId} {row : OutboxRow} (paired : Paired row written status)
    (found : before.outboxes.get id = some row)
    (queue : after.outboxes = before.outboxes.set id written)
    (mirrors : Mirrors row.actionId status before.actions after.actions)
    (agree : MirrorsAgree before) : MirrorsAgree after := by
  intro action next reached applicable other _ only
  rw [queue] at only
  obtain ⟨earlier, was, place⟩ := paired.onlyActive found only
  obtain ⟨stored, there, mirrored, status_⟩ := mirrors.row reached applicable
  rw [status_, agree action stored there mirrored other earlier was]
  obtain ⟨-, rfl, rfl⟩ | ⟨apart, rfl⟩ := place
  · obtain ⟨own, current⟩ := isActiveOf_iff.mp was.active
    rw [if_pos own.symm, paired.both current]
  by_cases own : action = row.actionId
  · -- the written row is not active: the action has another one
    have silent : status = none := paired.neither fun current =>
      apart (was.only id row found (isActiveOf_iff.mpr ⟨own.symm, current⟩)).symm
    rw [silent, ite_self, Option.none_or]
  · rw [if_neg own, Option.none_or]

end Agreement

/-! ### The writes of the service -/

section

variable {row written : OutboxRow}

theorem paired_of_kept (same : header written = header row) : Paired row written none := by
  simp only [header, Prod.mk.injEq] at same
  obtain ⟨action, lineage, latest⟩ := same
  exact ⟨action, lineage, fun _ => latest.trans (Option.none_or).symm, fun _ => rfl⟩

theorem paired_of_status {status : WritebackStatus} (current : row.supersededByDispositionId = none)
    (same : header written = header (withStatus row status)) :
    Paired row written (some status) := by
  simp only [header, Prod.mk.injEq] at same
  obtain ⟨action, lineage, latest⟩ := same
  exact ⟨action, lineage, fun _ => latest, absurd current⟩

theorem Stops.header (stops : Stops row written) : header written = header row := by
  cases stops with
  | kept | ended => rfl

theorem releaseAfterLeaseExpiry_header (leased : row.deliveryStatus = .leased)
    (done : releaseAfterLeaseExpiry row = .ok written) :
    header written = header (withStatus row .unknown) := by
  rw [releaseAfterLeaseExpiry_leased leased] at done
  cases done
  rfl

theorem header_withStatus {paused : OutboxRow} (same : header paused = header row)
    (status : WritebackStatus) :
    header (withStatus paused status) = header (withStatus row status) := by
  simp only [header, Prod.mk.injEq] at same
  simp only [header, withStatus, same.1, same.2.1]

end

section Commits

variable {w : World} {op : Op} {id : OutboxId} {row written : OutboxRow}

theorem current_of_sound (sound : Sound (OutboxRow.state row))
    (open_ : ¬ Settled row.deliveryStatus) : row.supersededByDispositionId = none := by
  cases lineage : row.supersededByDispositionId with
  | none => rfl
  | some =>
    have superseded : (OutboxRow.state row).superseded = true := by
      simp only [OutboxRow.state, lineage, Option.isSome_some]
    exact absurd (sound.superseded superseded) open_

theorem Delivering.leaseHolds {now : Time} {env : DeliveryEnv}
    (delivers : Delivering w op id now env) (condition : paired w op = true) :
    leaseHolds w.db id now = true := by
  obtain ⟨_, rfl⟩ | ⟨_, _, rfl, held⟩ := delivers
  · exact condition
  · simpa only [paired, held, WorkerMemory.next, Option.all_some] using condition

theorem RowCommit.paired {status : Option WritebackStatus}
    (commit : RowCommit w op id row written status)
    (found : w.db.outboxes.get id = some row) (sound : Sound (OutboxRow.state row))
    (condition : paired w op = true) : Paired row written status := by
  have openRow : row.deliveryStatus = .leased → row.supersededByDispositionId = none :=
    fun leased => current_of_sound sound (by rw [leased]; exact not_settled_leased)
  cases commit with
  | blocked _ done => exact paired_of_kept (blockSupersededOutbox_stops done).header
  | fenced _ done => exact paired_of_kept (blockOutboxForWritebackFence_stops done).header
  | expired delivers leased late =>
    have holds := delivers.leaseHolds condition
    simp [Sync.leaseHolds, found, leased, late] at holds
  | submitted _ deliverable _ done =>
    obtain ⟨-, rfl⟩ | ⟨-, -, rfl⟩ := submittedRow_cases deliverable done
    · exact paired_of_status deliverable.current rfl
    · exact paired_of_status deliverable.current rfl
  | dated | leased | unparsed | released => exact paired_of_kept rfl
  | reclaimed _ current leased done =>
    exact paired_of_status current (releaseAfterLeaseExpiry_header leased done)
  | deadLettered _ _ done => exact paired_of_kept (releaseLeasedToDeadLetter_stops done).header
  | rejected _ open_ =>
    obtain leased | ⟨-, current⟩ := open_
    · exact paired_of_status (openRow leased) rfl
    · exact paired_of_status current rfl
  | conflicted _ _ leased => exact paired_of_status (openRow leased) rfl
  | doubted _ leased done =>
    rw [pauseAfterUnknownSubmission_leased _
      (show (withStatus row _).deliveryStatus = _ from leased)] at done
    cases done
    exact paired_of_status (openRow leased) rfl
  | tokened claims current =>
    subst claims
    have unknown : row.latestWritebackStatus = some .unknown := by
      simpa [Sync.paired, found] using condition
    refine paired_of_status current ?_
    simp only [header, tokenRow, withStatus, unknown]
  | doubtful _ _ current | requeued _ current | found _ _ current =>
    exact paired_of_status current rfl
  | stopped _ _ pauses => exact paired_of_kept (pauseForRetry_header pauses)
  | reconciled _ retryable pauses | retried _ retryable pauses =>
    exact paired_of_status retryable.current (header_withStatus (pauseForRetry_header pauses) _)
  | lookedUp cause | resolved cause =>
    subst cause
    have current : row.supersededByDispositionId = none := by
      simpa [Sync.paired, found] using condition
    refine paired_of_status current ?_
    first | rfl | exact lookedUpRow_header (by assumption)

end Commits

/-! ### Every step -/

section

variable {w : World} {op : Op} {before after : Db} {args : EnqueueArgs}

theorem Chain.agree {ids : List OutboxId} (chain : Chain w op ids before after)
    (start : before = w.db) (sound : SoundQueue w) (condition : paired w op = true)
    (agree : MirrorsAgree before) : MirrorsAgree after := by
  induction chain with
  | nil => exact agree
  | @cons ids before middle row written status after id earlier fresh found commit queue mirrors _
      _ ih =>
    -- the row is still the one the step found
    have stored : w.db.outboxes.get id = some row := by
      rw [← start, ← earlier.unwritten fresh, found]
    have write := commit.paired stored (sound id row stored) condition
    exact write.agree found queue mirrors (ih start agree)

theorem only_of_rows {action : ActionId} {id : OutboxId} {stored : OutboxRow}
    (searched : (queue.rows.all fun entry => !isActiveOf action entry.2 || entry.1 == id) = true)
    (there : queue.get other = some stored) (active : isActiveOf action stored = true) :
    other = id := by
  have apart := List.all_eq_true.mp searched (other, stored) (Table.mem_rows.mpr there)
  simpa [active] using apart

theorem EnqueueEffect.onlyActive {db : Db} (effect : EnqueueEffect args db.outboxes queue)
    (alone : headsAlone db args = true) {action : ActionId} {id : OutboxId} {row : OutboxRow}
    (only : OnlyActive queue action id row) : OnlyActive db.outboxes action id row
      ∨ action = args.command.actionId ∧ row.latestWritebackStatus = none := by
  obtain ⟨old, found, rfl | ⟨-, _, finalized⟩⟩ | ⟨-, -, command, _, same, rfl⟩ :=
    effect.rows.row_after only.stored
  · refine .inl ⟨found, only.active, fun other stored there active => ?_⟩
    obtain ⟨_, reached, rfl | ⟨heads, -⟩⟩ := effect.rows.old other stored there
    · exact only.only other _ reached active
    -- the superseded head was no other active outbox of this action
    obtain ⟨rfl, -⟩ := isActiveOf_iff.mp active
    have search := List.all_eq_true.mp alone _ (Table.mem_rows.mpr there)
    rw [heads] at search
    exact (only_of_rows search found only.active).symm
  · have current := (isActiveOf_iff.mp only.active).2
    obtain ⟨-, rfl⟩ | ⟨-, rfl⟩ := finalizeSupersededHead_cases finalized
    all_goals cases current
  · have own : command.actionId = args.command.actionId := by rw [same]
    exact .inr ⟨(isActiveOf_iff.mp only.active).1.symm.trans own, rfl⟩

theorem EnqueueEffect.agree (effect : EnqueueEffect args before.outboxes after.outboxes)
    (same : after.actions = before.actions)
    (condition : (unmirrored before args.command.actionId && headsAlone before args) = true)
    (agree : MirrorsAgree before) : MirrorsAgree after := by
  rw [Bool.and_eq_true] at condition
  obtain ⟨empty, alone⟩ := condition
  intro action stored there applicable id row only
  rw [same] at there
  obtain was | ⟨rfl, new⟩ := effect.onlyActive alone only
  · exact agree action stored there applicable id row was
  · rw [new]
    simpa [unmirrored, there, applicable] using empty

theorem keepsMirrors_agree {actions : Table ActionId ActionRow}
    (keeps : keepsMirrors before actions = true) (queue : after.outboxes = before.outboxes)
    (set : after.actions = actions) (agree : MirrorsAgree before) : MirrorsAgree after := by
  intro action stored there applicable id row only
  rw [set] at there
  rw [queue] at only
  simp only [keepsMirrors, List.all_eq_true] at keeps
  have kept := keeps (action, stored) (Table.mem_rows.mpr there)
  simp only [applicable, Bool.not_true, Bool.false_or] at kept
  cases earlier : before.actions.get action with
  | none =>
    simp only [earlier, List.all_eq_true] at kept
    have inactive := kept (id, row) (Table.mem_rows.mpr only.stored)
    rw [only.active] at inactive
    cases inactive
  | some old =>
    simp only [earlier, beq_iff_eq] at kept
    have same : old.writebackApplicable = stored.writebackApplicable := congrArg Prod.fst kept
    have status : old.writebackStatus = stored.writebackStatus := congrArg Prod.snd kept
    rw [← status]
    exact agree action old earlier (same.trans applicable) id row only

theorem step_agree (name : ProcId → WorkerId) (w : World) (op : Op)
    (condition : paired w op = true) (sound : SoundQueue w)
    (agree : MirrorsAgree w.db) : MirrorsAgree (step name w op).db := by
  by_cases internal : op.internal = true
  · obtain ⟨_, chain⟩ := step_chain name w internal
    exact chain.agree rfl sound condition agree
  cases op with
  | enqueue args =>
    simp only [step]
    cases outcome : enqueueCommand w.db args with
    | error => exact agree
    | ok =>
      obtain ⟨effect, -, actions, -⟩ := enqueueCommand_effect outcome
      exact effect.agree actions condition agree
  | others => exact keepsMirrors_agree condition rfl rfl agree
  | _ => exact absurd rfl internal

end

/-! ### Every schedule -/

/-- **The mirrors agree.** Whatever the service and the rest of the application run, as long as
every step is paired, the writeback status of an applicable action with one active outbox is the
latest status of that outbox. -/
theorem mirrors_agree (name : ProcId → WorkerId) (tables : Foreign) (schedule : List Op)
    (along : Machine.Along (step name) (fun w op => paired w op = true)
      (World.initial tables) schedule) :
    MirrorsAgree (Machine.run (step name) (World.initial tables) schedule).db := by
  have empty : MirrorsAgree (World.initial tables).db := by
    intro _ _ _ _ _ _ only
    have reached := only.stored
    cases reached
  have start : SoundQueue (World.initial tables) ∧ MirrorsAgree (World.initial tables).db :=
    ⟨soundQueue_initial tables, empty⟩
  refine (Machine.run_invariant _ (fun w => SoundQueue w ∧ MirrorsAgree w.db) ?_ start along).2
  intro w op holds condition
  exact ⟨step_soundQueue name w op holds.1, step_agree name w op condition holds.1 holds.2⟩

theorem mirrors_agree_delivered :
    let run := [sampleEnqueue 1, .claim 0 0 0 [1], .deliverClaimed 0 1 (answering .confirmed)]
    Machine.Along (step id) (fun w op => paired w op = true) (World.initial sampleTables) run
      ∧ MirrorsAgree (Machine.run (step id) (World.initial sampleTables) run).db := by
  have along : Machine.Along (step id) (fun w op => paired w op = true) (World.initial sampleTables)
      [sampleEnqueue 1, .claim 0 0 0 [1], .deliverClaimed 0 1 (answering .confirmed)] := by decide
  exact ⟨along, mirrors_agree id sampleTables _ along⟩

/-- **An expired lease is not mirrored.** A worker that reaches its row after the lease has run out
sets the outbox to unknown and leaves the action without a status. -/
theorem expired_lease_unmirrored :
    let db := (Machine.run (step id) (World.initial sampleTables)
      [sampleEnqueue 1, .claim 0 0 0 [1], .deliverClaimed 0 1000 (answering .confirmed)]).db
    ¬ MirrorsAgree db ∧ ∃ stored row, db.actions.get 1 = some stored
      ∧ stored.writebackApplicable = true ∧ OnlyActive db.outboxes 1 1 row
      ∧ stored.writebackStatus = none ∧ row.latestWritebackStatus = some .unknown := by
  intro db
  have only : ∃ row, OnlyActive db.outboxes 1 1 row ∧ row.latestWritebackStatus = some .unknown :=
    ⟨_, ⟨rfl, by decide, fun _ _ => only_of_rows (by decide)⟩, rfl⟩
  obtain ⟨row, only, latest⟩ := only
  refine ⟨fun agree => ?_, _, row, rfl, rfl, only, rfl, latest⟩
  have same := agree 1 _ rfl rfl 1 row only
  rw [latest] at same
  cases same

end ShadowTrace.Sync
