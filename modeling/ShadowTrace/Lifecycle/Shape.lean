/-
**The shape of reachable worlds.**

What every schedule keeps about single rows and about what the processes remember; `Sound` puts it
together.
-/

import ShadowTrace.Lifecycle.Effects

namespace ShadowTrace.Lifecycle

open Execution

/-! ### Identities -/

def identity (row : ActionRow) : ActionRow :=
  { row with
    status := .pending, executionJobId := none, writebackApplicable := false
    writebackStatus := none, supersededByRevision := none, rollbackCompleted := false
    updatedAt := 0 }

section Identity

variable {cfg : Settings} {w : World} {op : Op} {after : Db} {id : ActionId} {row next : ActionRow}

theorem ActionMove.identity (moved : ActionMove cfg w op after id row next) :
    identity next = identity row := by
  cases moved with
  | synced _ projected =>
    rw [projected.rest]
    rfl
  | attached _ _ _ _ _ done =>
    rw [(attachedRow_eq_ok done).1]
    rfl
  | finished _ _ _ done =>
    obtain ⟨-, rfl | ⟨-, rfl⟩⟩ := movedRow_eq_ok done
    · rfl
    · rfl
  | _ => rfl

theorem of_identity {α : Type} (column : ActionRow → α)
    (same : Lifecycle.identity next = Lifecycle.identity row)
    (frozen : ∀ row, column (Lifecycle.identity row) = column row) :
    column next = column row := by
  rw [← frozen next, same, frozen row]

theorem category_of_identity (same : Lifecycle.identity next = Lifecycle.identity row) :
    next.category = row.category :=
  (congrArg ActionRow.category same :)

theorem executionKey_of_identity (same : Lifecycle.identity next = Lifecycle.identity row)
    (owner : ExecutionOwner) (id : ActionId) :
    executionKey owner id next = executionKey owner id row := by
  have key : next.idempotencyKey = row.idempotencyKey := (congrArg ActionRow.idempotencyKey same :)
  cases owner
  · simp only [executionKey, xdrKey, key]
  · simp only [executionKey, directKey, key]

end Identity

/-- A snapshot of an action that is still stored under its identity. -/
def Remembered (db : Db) (id : ActionId) (snapshot : ActionRow) : Prop :=
  ∃ row, db.actions.get id = some row ∧ identity row = identity snapshot

variable {db : Db} {id : ActionId} {snapshot row : ActionRow}

theorem Remembered.same (remembered : Remembered db id snapshot)
    (found : db.actions.get id = some row) : identity row = identity snapshot := by
  obtain ⟨_, there, same⟩ := remembered
  obtain rfl := Option.mem_unique found there
  exact same

theorem Remembered.step {cfg : Settings} {w : World} {op : Op}
    (remembered : Remembered w.db id snapshot) :
    Remembered (step cfg w op).db id snapshot := by
  obtain ⟨row, found, same⟩ := remembered
  obtain ⟨next, reached, moved⟩ := (step_effects cfg w op).actions.old id row found
  exact ⟨next, reached, moved.identity.trans same⟩

/-! ### Sound rows -/

def fingerprintCategory : Fingerprint → ActionCategory
  | .response _ _ _ | .dispositionOnly _ => .response
  | .rollback _ _ _ _ => .rollback
  | .verification _ _ => .verification
  | .report _ _ => .system

def possibleStatus : ActionCategory → ActionStatus → Bool
  | .response, _ | .rollback, _ => true
  | .verification, .executing | .verification, .success | .verification, .failed
  | .verification, .unknown => true
  | .system, .success => true
  | _, _ => false

variable {category : ActionCategory}

theorem possibleStatus_gated (gated : category.humanGated = true) (status : ActionStatus) :
    possibleStatus category status = true := by
  cases category <;> first | rfl | cases gated

theorem possibleStatus_edge {current target : ActionStatus}
    (possible : possibleStatus category current = true)
    (edge : target ∈ actionStatusTransitions category current) :
    possibleStatus category target = true := by
  cases category with
  | response | rollback => rfl
  | verification =>
    cases current <;> simp_all [actionStatusTransitions, verificationTransitions, possibleStatus]
      <;> rcases edge with rfl | rfl | rfl <;> rfl
  | system =>
    cases current <;> simp_all [actionStatusTransitions, systemTransitions, possibleStatus]

theorem gated_of_possible {status : ActionStatus} (possible : possibleStatus category status = true)
    (open_ : status = .pending ∨ status = .waitingApproval ∨ status = .approved) :
    category.humanGated = true := by
  obtain rfl | rfl | rfl := open_ <;> cases category <;> first | rfl | cases possible

/-- A stored action of the category. -/
def IsA (category : ActionCategory) (db : Db) (id : ActionId) : Prop :=
  ∃ row, db.actions.get id = some row ∧ row.category = category

theorem IsA.category_eq (stored : IsA category db id) (found : db.actions.get id = some row) :
    row.category = category := by
  obtain ⟨_, there, same⟩ := stored
  obtain rfl := Option.mem_unique found there
  exact same

section

variable (db : Db) (id : ActionId)

/-- The fingerprint, tool and source of a row fit its category. -/
structure SoundRow (row : ActionRow) : Prop where
  fingerprint : fingerprintCategory row.actionFingerprint = row.category
  tool : row.category.humanGated = true →
    row.toolName.category = .response ∨ row.toolName.category = .rollback
  possible : possibleStatus row.category row.status = true
  /-- Only rollbacks and deferred dispositions carry a key of their own. -/
  keyed : row.idempotencyKey.isSome = true →
    row.executionOwner = some .directTool ∨ row.toolName = .updateSourceEventDisposition
  source : row.category = .rollback → ∃ original, row.sourceActionId = some original
    ∧ IsA .response db original
  /-- The disposition of a false positive waits for the verification. -/
  deferred : ∀ event, row.actionFingerprint = .dispositionOnly event →
    row.executionPhase = .postVerify

/-! ### Sound processes -/

/-- What an executor remembers of the action it has claimed. -/
structure Claim (snapshot : ActionRow) : Prop where
  stored : Remembered db id snapshot
  owned : snapshot.executionOwner.isSome = true
  gated : snapshot.category.humanGated = true
  immediate : snapshot.executionPhase ≠ .postVerify
  real : snapshot.toolName ≠ .updateSourceEventDisposition

/-- A direct execution runs for its claimed action, under that action's key. -/
structure Running (exec : DirectRun) : Prop where
  claim : Claim db exec.action exec.row
  direct : exec.row.executionOwner = some .directTool
  job : ∃ job, db.jobs.get exec.job = some job ∧ job.idempotencyKey = exec.key
    ∧ job.actionId = exec.action

/-- The claim of a process that has not chosen its channel yet. -/
def runnerClaim : Runner → Option (ActionId × ActionRow)
  | .claimed id snapshot => some (id, snapshot)
  | _ => none

/-- What an executor remembers is stored. -/
structure SoundRunner (runner : Runner) : Prop where
  claimed : ∀ id snapshot, runnerClaim runner = some (id, snapshot) → Claim db id snapshot
  running : ∀ exec, runnerExecution runner = some exec → Running db exec

/-- An evaluation remembers a stored response action. -/
structure SoundEvaluation (evaluation : Evaluation) : Prop where
  stored : Remembered db evaluation.action evaluation.snapshot
  response : evaluation.snapshot.category = .response

/-- A rollback action that has ended. -/
def Ended : Prop :=
  ∃ row, db.actions.get id = some row ∧ row.category = .rollback
    ∧ (row.status = .success ∨ row.status = .failed)

def SoundRollback : RollbackMemory → Prop
  | .idle => True
  | .registering rollback => IsA .rollback db rollback
  | .executing original _ rollback => IsA .response db original ∧ IsA .rollback db rollback
  | .executed original _ rollback status =>
    IsA .response db original ∧ IsA .rollback db rollback ∧ (status = .success → Ended db rollback)
  | .effective original _ rollback => IsA .response db original ∧ Ended db rollback
  | .compensating _ rollback => Ended db rollback

/-! ### Sound jobs and outboxes -/

/-- A job carries the key of its action. -/
def SoundJob (job : JobRow) : Prop :=
  ∃ row owner, db.actions.get job.actionId = some row ∧ row.executionOwner = some owner
    ∧ job.idempotencyKey = executionKey owner job.actionId row

/-- A bound job carries the key of the action that binds it. -/
def SoundBinding (row : ActionRow) : Prop :=
  ∀ jobId, row.executionJobId = some jobId → ∃ job owner, db.jobs.get jobId = some job
    ∧ row.executionOwner = some owner ∧ job.idempotencyKey = executionKey owner id row
    ∧ row.toolName ≠ .updateSourceEventDisposition

/-- An outbox belongs to a stored action, and an entity submit to an XDR managed one. -/
def SoundOutbox (outbox : OutboxRow) : Prop :=
  ∃ row, db.actions.get outbox.actionId = some row
    ∧ (outbox.intentKind = .entityActionSubmit → row.executionOwner = some .xdrManaged)

end

/-- What every reachable world satisfies. -/
structure Sound (w : World) : Prop where
  rows : ∀ id row, w.db.actions.get id = some row → SoundRow w.db row
  runners : ∀ p, SoundRunner w.db (w.runner p)
  evaluations : ∀ p evaluation, w.evaluations.get p = some (some evaluation) →
    SoundEvaluation w.db evaluation
  rollbacks : ∀ p, SoundRollback w.db (w.rollback p)
  jobs : ∀ jobId job, w.db.jobs.get jobId = some job → SoundJob w.db job
  bindings : ∀ id row, w.db.actions.get id = some row → SoundBinding w.db id row
  outboxes : ∀ id outbox, w.db.outboxes.get id = some outbox → SoundOutbox w.db outbox

/-! ### What a held memory tells -/

section

variable {w : World} {p : ProcId}

theorem Sound.claim (sound : Sound w) (held : w.runner p = .claimed id snapshot) :
    Claim w.db id snapshot :=
  (sound.runners p).claimed id snapshot (by rw [held]; rfl)

theorem Sound.running (sound : Sound w) {runner : Runner} {exec : DirectRun}
    (held : w.runner p = runner) (inside : runnerExecution runner = some exec) :
    Running w.db exec :=
  (sound.runners p).running exec (held ▸ inside)

theorem Sound.rollback (sound : Sound w) {memory : RollbackMemory}
    (held : w.rollback p = memory) : SoundRollback w.db memory :=
  held ▸ sound.rollbacks p

theorem Sound.source_response (sound : Sound w) {rollback original : ActionId}
    (found : w.db.actions.get rollback = some row) (category : row.category = .rollback)
    (linked : row.sourceActionId = some original) : IsA .response w.db original := by
  obtain ⟨_, same, response⟩ := (sound.rows rollback row found).source category
  obtain rfl := Option.mem_unique linked same
  exact response

end

end ShadowTrace.Lifecycle
