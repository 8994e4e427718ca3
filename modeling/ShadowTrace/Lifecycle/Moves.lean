/-
**What one step may do to the shared tables.**

Each table gets a relation that says how a row may move under an operation and how a new row may
come about. A constructor names the operation that causes the move, what the process behind it held
in memory, and what the service checked. `Effects` collects the relations for one step; every
invariant of the lifecycle is derived from it.
-/

import ShadowTrace.Lifecycle.System
import ShadowTrace.Sync.Safety

namespace ShadowTrace.Lifecycle

open Relational Execution

def executionKey : ExecutionOwner → ActionId → ActionRow → ExecutionKey
  | .xdrManaged => xdrKey
  | .directTool => directKey

/-! ### Actions -/

def snapshotEvidence (snapshot : ActionRow) (target : ActionStatus) : ActionEvidence where
  executionPhase := snapshot.executionPhase
  actionLevel := snapshot.level
  hasApprovalEvidence := target == .approved

section

variable (cfg : Settings) (w : World) (op : Op) (after : Db) (id : ActionId)
  (row : ActionRow) (jobId : JobId) (job : JobRow) (key : ActionId × Nat) (record : ApprovalRow)

/-- The rollback service gives up on a rollback action: its execution raised, or the readback
contradicts its success. -/
inductive GivesUp : Op → Prop
  | raised (held : w.rollback p = .executing original seen id) : GivesUp (.rollback p (.raised now))
  | refuted (held : w.rollback p = .executed original seen id .success) :
      GivesUp (.rollback p (.grade (some false) now))

/-- How a step may change a stored action, and in which operation. -/
inductive ActionMove : ActionRow → Prop
  | kept : ActionMove row
  | synced (cause : op = .sync syncOp) (projected : Sync.ProjectedAction row next) : ActionMove next
  | claimed (cause : op = .runner p (.start id env now))
      (owned : row.executionOwner.isSome = true) (checked : claimChecks w.db row env = .ok ()) :
      ActionMove (row.moveTo .executing now)
  | restored (cause : op = .runner p (.restoreOwnerless now))
      (held : w.runner p = .claimed id snapshot) (ownerless : snapshot.executionOwner = none)
      (executing : row.status = .executing) : ActionMove (row.moveTo .approved now)
  | bound {jobId : JobId} {job : JobRow} (cause : op = .runner p run)
      (held : w.runner p = .claimed id snapshot)
      (owned : snapshot.executionOwner = some owner) (born : after.jobs.get jobId = some job)
      (key : job.idempotencyKey = executionKey owner id snapshot) :
      ActionMove { row with executionJobId := some jobId }
  | attached {jobId : JobId} {job : JobRow} (cause : op = .runner p run)
      (held : w.runner p = .claimed id snapshot)
      (owned : snapshot.executionOwner = some owner) (stored : w.db.jobs.get jobId = some job)
      (key : job.idempotencyKey = executionKey owner id snapshot)
      (done : attachedRow row jobId job now = .ok next) : ActionMove next
  | finished (cause : op = .runner p run)
      (held : w.runner p = .finishing exec terminal) (same : exec.action = id)
      (done : movedRow row (mapJobToActionStatus terminal) now = .ok next) : ActionMove next
  | failed (cause : op = .runner p (.fail now)) (held : w.runner p = .failing id)
      (executing : row.status = .executing)
      (legal : validateActionStatusTransition row.category .executing .failed = .ok ()) :
      ActionMove (row.moveTo .failed now)
  | timedOut {jobId : JobId} {job : JobRow} (cause : op = .reclaimJob jobId now)
      (stored : w.db.jobs.get jobId = some job) (same : job.actionId = id)
      (spent : cfg.reclaim.maxAttempts ≤ job.attempt) (executing : row.status = .executing)
      (legal : validateActionStatusTransition row.category .executing .failed = .ok ()) :
      ActionMove (exhaustedRow row now)
  | followed (cause : op = .reclaimAction id now)
      (verdict : reclaimVerdict w.db id row cfg.reclaim now = .follow target)
      (legal : validateActionStatusTransition row.category .executing target = .ok ()) :
      ActionMove (row.moveTo target now)
  | exhausted (cause : op = .reclaimAction id now)
      (verdict : reclaimVerdict w.db id row cfg.reclaim now = .exhaust)
      (legal : validateActionStatusTransition row.category .executing .failed = .ok ()) :
      ActionMove (exhaustedRow row now)
  | reopened (cause : op = .reclaimAction id now)
      (verdict : reclaimVerdict w.db id row cfg.reclaim now = .reopen) :
      ActionMove (reopenedRow row now)
  | resolved (cause : op = .resolveUnknown id resolution now) (doubtful : row.status = .unknown)
      (legal : validateActionStatusTransition row.category .unknown resolution.target = .ok ()) :
      ActionMove (row.moveTo resolution.target now)
  | effective (cause : op = .entityEffect id true synced now) (executing : row.status = .executing)
      (legal : validateActionStatusTransition row.category .executing .success = .ok ()) :
      ActionMove (row.moveTo .success now)
  | replanned (cause : op = .plan new event revision candidate now)
      (same : row.actionFingerprint = .response event revision candidate.content) :
      ActionMove (row.moveTo .pending now)
  | superseded (cause : op = .supersede event oldRevision newRevision now)
      (selected : Planning.undeployed event oldRevision row = true) :
      ActionMove (Planning.supersededRow row newRevision now)
  | evaluated (cause : op = .persistEvaluation p manifest cap clock)
      (held : w.evaluations.get p = some (some evaluation)) (same : evaluation.action = id)
      (decided : target = Approval.ApprovalDecisionKind.target
        (Approval.evaluateAction evaluation.snapshot manifest cap).decision)
      (legal : validateActionStatusTransition evaluation.snapshot.category
        evaluation.snapshot.status target (snapshotEvidence evaluation.snapshot target) = .ok ()) :
      ActionMove (row.moveTo target clock.now)
  | reviewed (cause : op = .rollback p (.register clock)) (held : w.rollback p = .registering id)
      (legal : validateActionStatusTransition row.category row.status .waitingApproval
        (snapshotEvidence row .waitingApproval) = .ok ()) :
      ActionMove (row.moveTo .waitingApproval clock.now)
  | decided {record : ApprovalRow} (cause : op = .decide id manifest bindingValid req now)
      (recorded : after.approvals.get (id, cycle)
        = some (Approval.decidedRecord record req now))
      (legal : validateActionStatusTransition row.category row.status
        (Approval.ApprovalOperation.target req.operation)
        { executionPhase := row.executionPhase, actionLevel := row.level
          hasApprovalEvidence := true } = .ok ()) :
      ActionMove (row.moveTo (Approval.ApprovalOperation.target req.operation) now)
  | expired (cause : op = .timeout id cycle now ∨ op = .scanTimeout id cycle now)
      (waiting : row.status = .waitingApproval) : ActionMove (row.moveTo .rejected now)
  | rollbackFailed (cause : GivesUp w id op) : ActionMove (row.moveTo .failed now)
  | rolledBack (cause : op = .rollback p (.cas now))
      (held : w.rollback p = .effective id seen rollback)
      (done : Rollback.rollbackable row.status = true) : ActionMove (Rollback.rolledBackRow row now)
  | activated (cause : op = .activate id env draft now) (ready : activatable w.db id row env = true)
      (legal : validateActionStatusTransition row.category .approved .executing
        { executionPhase := .postVerify, afterEffectResolution := true
          templateUnchanged := env.templateUnchanged } = .ok ()) :
      ActionMove (row.moveTo .executing now)
  | verified (cause : op = .finalizeVerification id outcome now)
      (category : row.category = .verification)
      (running : row.status ≠ .success ∧ row.status ≠ .failed ∧ row.status ≠ .unknown) :
      ActionMove (row.moveTo outcome.status now)
  | reported (cause : op = .report new event revision now)
      (same : row.actionFingerprint = .report event revision) : ActionMove (row.moveTo .success now)

/-- The operations that insert an action, with the row they insert. -/
inductive ActionBorn : ActionRow → Prop
  | planned (cause : op = .plan id event revision candidate now)
      (tool : candidate.tool.category = .response) :
      ActionBorn (Planning.materializeAction event revision candidate now)
  | rollback {key : IdempotencyKey}
      (cause : op = .rollback p (.start original automated id key env now))
      (found : w.db.actions.get original = some source)
      (checked : Rollback.preCheckRollbackable source = .ok tool) :
      ActionBorn (Rollback.rollbackRow original source tool automated key env now)
  | dispositionOnly (cause : op = .dispositionOnly id event source now) :
      ActionBorn (dispositionOnlyRow event source now)
  | verification {row : ActionRow} (cause : op = .createVerification id source tool now) :
      ActionBorn (verificationRow source row tool now)
  | report (cause : op = .report id event revision now) : ActionBorn (reportRow event revision now)

/-! ### Jobs, approval records and outboxes -/

/-- How a step may change a stored job. -/
inductive JobMove :
    JobRow → Prop
  | kept : JobMove job
  | synced (cause : op = .sync syncOp) (projected : Sync.ProjectedJob job next)
      (managed : Sync.BoundByXdr w.db jobId) : JobMove next
  | timedOut (cause : op = .reclaimJob jobId now) (active : activeJob job.status = true)
      (spent : cfg.reclaim.maxAttempts ≤ job.attempt) : JobMove (timedOutJob job)
  | requeued (cause : op = .reclaimJob jobId now) (active : activeJob job.status = true)
      (left : job.attempt < cfg.reclaim.maxAttempts) : JobMove (requeuedJob job)
  | answered (cause : op = .runner p (.compareAndSet synced))
      (held : w.runner p = .comparing exec result seen) (same : exec.job = jobId)
      (expected : job.status = seen.status) : JobMove (applyJobRow job (resultUpdate seen result))
  | mocked (cause : op = .runner p (.runMock completed synced))
      (held : w.runner p = .mocking exec seen) (same : exec.job = jobId)
      (expected : job.status = seen) : JobMove (applyJobRow job completed)
  | effect {id : ActionId} {row : ActionRow} (cause : op = .entityEffect id verified synced now)
      (found : w.db.actions.get id = some row) (bound : row.executionJobId = some jobId)
      (submitted : hasEntitySubmit w.db id = true) (open_ : terminalJob job.status = false)
      (outcome : status = .success ∨ status = .unknown) : JobMove (effectJob job status)

/-- How a new job may come about: an execution that found no job under its key. The action is bound
to it in the same transaction. -/
inductive JobBorn : JobRow → Prop
  | execution {id : ActionId} {row : ActionRow} (cause : op = .runner p run)
      (held : w.runner p = .claimed id snapshot)
      (owned : snapshot.executionOwner = some owner)
      (free : findJob w.db (executionKey owner id snapshot) = none)
      (found : after.actions.get id = some row) (bound : row.executionJobId = some jobId) :
      JobBorn (newJob id snapshot (executionKey owner id snapshot) lease)

/-- How an approval record may move. A rewritten record leaves its action in the status its decision
asks for. -/
inductive ApprovalMove : ApprovalRow → Prop
  | kept : ApprovalMove record
  | closed (undecided : record.decidedAt = none) : ApprovalMove next
  | evaluated (cause : op = .persistEvaluation p manifest cap clock)
      (held : w.evaluations.get p = some (some evaluation))
      (same : evaluation.action = key.1)
      (written : ∀ row, after.actions.get key.1 = some row →
        row.status = Approval.ApprovalDecisionKind.target
          (Approval.evaluateAction evaluation.snapshot manifest cap).decision) : ApprovalMove next
  | reviewed (written : ∀ row, after.actions.get key.1 = some row → row.status = .waitingApproval) :
      ApprovalMove next

/-- Why a command is enqueued. -/
inductive EnqueueCause (args : Sync.EnqueueArgs) : Prop
  /-- An XDR managed execution submits its entity action; its job is born with it. -/
  | submit {id : ActionId} {jobId : JobId} {job : JobRow}
      (cause : op = .runner p (.executeXdr jobId (some draft) now))
      (held : w.runner p = .claimed id snapshot)
      (managed : snapshot.executionOwner = some .xdrManaged)
      (same : args = draft.args id snapshot .entityActionSubmit .default none)
      (fresh : w.db.jobs.get jobId = none) (born : after.jobs.get jobId = some job)
      (owner : job.actionId = id)
  | record {draft : CommandDraft} (cause : op = .runner p run) (held : w.runner p = .recording exec)
      (same : args = draft.args exec.action exec.row .executionResultRecord .default none)
  | disposition {id : ActionId} {row : ActionRow} (cause : op = .activate id env draft now)
      (found : w.db.actions.get id = some row) (ready : activatable w.db id row env = true)
      (same : args = draft.args id row .eventStatusUpdate .terminal (some env.target))
      (reached : after.actions.get id = some next) (executing : next.status = .executing)
  | compensation {id : ActionId} {row : ActionRow} {draft : CommandDraft}
      (found : w.db.actions.get id = some row)
      (done : row.category = .rollback ∧ row.status = .success
        ∨ ∃ p, w.rollback p = .compensating original id)
      (same : args = draft.args id row .compensationRecord (.compensation original) none)

/-- A row that a step adds to the outbox. -/
def OutboxBorn (id : OutboxId) (row : OutboxRow) : Prop :=
  ∃ args, EnqueueCause w op after args ∧ Sync.Enqueued args id row

/-- A step updates the outbox, enqueues one command or leaves it alone. -/
inductive QueueMove : Prop
  | updated (updates : Sync.QueueUpdates w.db.outboxes after.outboxes)
  | enqueued (cause : EnqueueCause w op after args)
      (effect : Sync.EnqueueEffect args w.db.outboxes after.outboxes)

end

theorem QueueMove.kept {w : World} {op : Op} {after : Db}
    (same : after.outboxes = w.db.outboxes) : QueueMove w op after := by
  refine .updated ?_
  rw [same]
  exact .refl _

def Op.writesEvents : Op → Bool
  | .others _ _ _ => true
  | _ => false

/-! ### The effects of one step -/

/-- Every table moves as its relation lists. -/
structure Effects (cfg : Settings) (w : World) (op : Op) (after : Db) : Prop where
  actions : Table.Steps (ActionMove cfg w op after) (ActionBorn w op) w.db.actions after.actions
  jobs : Table.Steps (JobMove cfg w op) (JobBorn w op after) w.db.jobs after.jobs
  queue : QueueMove w op after
  approvals : Table.Steps (ApprovalMove w op after) (fun _ _ => True) w.db.approvals after.approvals
  events : op.writesEvents = false → after.events = w.db.events

theorem Effects.outboxes {cfg : Settings} {w : World} {op : Op} {after : Db}
    (effects : Effects cfg w op after) :
    Table.Steps (fun _ => Sync.RowStep) (OutboxBorn w op after) w.db.outboxes after.outboxes := by
  cases effects.queue with
  | updated updates => exact Table.Steps.mono_born (fun _ _ => False.elim) updates
  | enqueued cause effect =>
    exact effect.steps.mono (fun _ _ _ quiet => quiet.toRowStep) fun _ _ born => ⟨_, cause, born⟩

end ShadowTrace.Lifecycle
