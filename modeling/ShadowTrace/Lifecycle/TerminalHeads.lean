/-
**One terminal disposition per revision.**

An event status update is only ever enqueued for a deferred action, into the terminal slot of the
event and the revision of that action.
-/

import ShadowTrace.Lifecycle.Soundness

namespace ShadowTrace.Lifecycle

open Relational Execution

/-- A status update stands in the slot of its own action's plan. -/
def InTerminalSlot (db : Db) (outbox : OutboxRow) : Prop :=
  outbox.intentKind = .eventStatusUpdate → ∃ row, db.actions.get outbox.actionId = some row
    ∧ outbox.eventId = row.eventId ∧ outbox.closureCycle = row.planRevision
    ∧ outbox.logicalSlot = Slot.terminal.index

/-- What the gate of a closing event relies on. -/
structure Closable (db : Db) : Prop where
  heads : Sync.UniqueHeads db.outboxes
  rows : ∀ id outbox, db.outboxes.get id = some outbox → Sync.Sound (Sync.OutboxRow.state outbox)
  slots : ∀ id outbox, db.outboxes.get id = some outbox → InTerminalSlot db outbox
  jobs : ∀ jobId job, db.jobs.get jobId = some job → ∃ row,
    db.actions.get job.actionId = some row ∧ row.eventId = job.eventId

/-- **The partial unique index on active heads leaves one status update per event and revision**
that no later command has superseded. -/
theorem Closable.terminal_unique {db : Db} (closable : Closable db) {id other : OutboxId}
    {outbox outbox' : OutboxRow} {row row' : ActionRow}
    (found : db.outboxes.get id = some outbox) (found' : db.outboxes.get other = some outbox')
    (active : Sync.isActiveHead outbox = true) (active' : Sync.isActiveHead outbox' = true)
    (owner : db.actions.get outbox.actionId = some row)
    (owner' : db.actions.get outbox'.actionId = some row')
    (event : row.eventId = row'.eventId) (revision : row.planRevision = row'.planRevision) :
    id = other := by
  have kind : ∀ {outbox : OutboxRow}, Sync.isActiveHead outbox = true →
      outbox.intentKind = .eventStatusUpdate := by
    intro _ active
    simp only [Sync.isActiveHead, Bool.and_eq_true, beq_iff_eq] at active
    exact active.1
  obtain ⟨_, there, ofEvent, ofRevision, slot⟩ := closable.slots id outbox found (kind active)
  obtain ⟨stored', there', ofEvent', ofRevision', slot'⟩ :=
    closable.slots other outbox' found' (kind active')
  obtain rfl := Option.mem_unique there owner
  obtain rfl := Option.mem_unique there' owner'
  refine closable.heads id other outbox outbox' found found' active active' ?_
  simp [Sync.sameSlot, ofEvent, ofEvent', ofRevision, ofRevision', slot, slot', kind active,
    kind active', event, revision]

/-! ### Every step keeps it -/

section

variable {cfg : Settings} {w : World} {op : Op}

theorem step_action {id : ActionId} {row : ActionRow}
    (found : w.db.actions.get id = some row) :
    ∃ next, (step cfg w op).db.actions.get id = some next
      ∧ next.eventId = row.eventId ∧ next.planRevision = row.planRevision := by
  obtain ⟨next, reached, moved⟩ := (step_effects cfg w op).actions.old id row found
  have event := congrArg ActionRow.eventId moved.identity
  have revision := congrArg ActionRow.planRevision moved.identity
  exact ⟨next, reached, event, revision⟩

theorem InTerminalSlot.step {outbox next : OutboxRow} (slot : InTerminalSlot w.db outbox)
    (moved : Sync.RowStep outbox next) :
    InTerminalSlot (Lifecycle.step cfg w op).db next := by
  intro update
  obtain ⟨_, there, event, revision, terminal⟩ := slot (moved.kind ▸ update)
  obtain ⟨now, reached, sameEvent, sameRevision⟩ := step_action there
  obtain ⟨movedEvent, movedRevision, movedSlot⟩ := moved.place
  refine ⟨now, moved.action ▸ reached, ?_, ?_, movedSlot.trans terminal⟩
  · rw [movedEvent, event, sameEvent]
  · rw [movedRevision, revision, sameRevision]

theorem EnqueueCause.inTerminalSlot {args : Sync.EnqueueArgs} {id : OutboxId} {outbox : OutboxRow}
    (cause : EnqueueCause w op (Lifecycle.step cfg w op).db args)
    (enqueued : Sync.Enqueued args id outbox) :
    InTerminalSlot (Lifecycle.step cfg w op).db outbox := by
  intro update
  obtain ⟨action, kind⟩ := enqueued.command
  have other : args.command.intentKind = .eventStatusUpdate := kind.symm.trans update
  cases cause with
  | submit _ _ _ same | record _ _ same | compensation _ _ same => rw [same] at other; cases other
  | disposition _ found _ same =>
    subst same
    obtain ⟨_, _, _, stored, rfl⟩ := enqueued
    obtain ⟨next, there, event, revision⟩ := step_action found
    refine ⟨next, ?_, event.symm, ?_, rfl⟩
    · rw [action]
      exact there
    · rw [revision]
      exact congrArg Sync.Command.closureCycle stored

theorem step_jobEvent (sound : Sound w)
    (jobs : ∀ jobId job, w.db.jobs.get jobId = some job → ∃ row,
      w.db.actions.get job.actionId = some row ∧ row.eventId = job.eventId)
    {jobId : JobId} {job : JobRow} (found : (step cfg w op).db.jobs.get jobId = some job) :
    ∃ row, (step cfg w op).db.actions.get job.actionId = some row ∧ row.eventId = job.eventId := by
  obtain ⟨earlier, there, moved⟩ | ⟨-, born⟩ := (step_effects cfg w op).jobs.row_after found
  · obtain ⟨_, present, event⟩ := jobs jobId earlier there
    obtain ⟨next, reached, same, -⟩ := step_action present
    refine ⟨next, moved.identity.1 ▸ reached, ?_⟩
    rw [same, event, moved.event]
  cases born with
  | execution _ held _ _ reached =>
    obtain ⟨_, present, same⟩ := (sound.claim held).stored
    obtain ⟨next, reached, event, -⟩ := step_action present
    exact ⟨next, reached, event.trans (congrArg ActionRow.eventId same :)⟩

theorem step_closable (sound : Sound w) (closable : Closable w.db) :
    Closable (step cfg w op).db where
  heads := by
    have change : Sync.QueueChange w.db.outboxes (step cfg w op).db.outboxes := by
      cases (step_effects cfg w op).queue with
      | updated updates => exact .updated updates
      | enqueued _ effect => exact .enqueued _ effect
    exact change.uniqueHeads closable.heads
  rows := by
    intro id _ found
    obtain ⟨earlier, there, moved⟩ | ⟨-, _, -, enqueued⟩ :=
      (step_effects cfg w op).outboxes.row_after found
    · exact moved.moves.sound (closable.rows id earlier there)
    · obtain ⟨-, _, _, _, rfl⟩ := enqueued
      exact Sync.freshRow_sound rfl
  slots := by
    intro id _ found
    obtain ⟨earlier, there, moved⟩ | ⟨-, _, cause, enqueued⟩ :=
      (step_effects cfg w op).outboxes.row_after found
    · exact (closable.slots id earlier there).step moved
    · exact cause.inTerminalSlot enqueued
  jobs := fun _ _ => step_jobEvent sound closable.jobs

end

variable (cfg : Settings) (around : Surroundings) (ops : List Op)

theorem initial_closable : Closable (World.initial around).db where
  heads id other row stored found := by cases found
  rows id outbox found := by cases found
  slots id outbox found := by cases found
  jobs jobId job found := by cases found

theorem run_closable : Closable (Machine.run (step cfg) (World.initial around) ops).db :=
  Machine.run_stable Sound (fun w => Closable w.db) (step_sound cfg)
    (fun _ _ => step_closable) (initial_sound ..) (initial_closable ..) ops

end ShadowTrace.Lifecycle
