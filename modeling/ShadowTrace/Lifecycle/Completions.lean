/-
**Completions of one rollback, interleaved.**

A completion loads the rollback action, calls `execute_action` through the execution hook and
finishes the durable tail. In `System` the hook may return or raise whenever it likes. Here it is
what `build_execute_rollback_hook` wires in (`Hook`), and every step is a step of the lifecycle
machine or none (`step_base`).

`_complete_rollback` handles every exception of the call as a failure of the provider, also the one
of a claim that another caller holds. `serial` says when no caller meets that handler in the wrong
moment.
-/

import ShadowTrace.Lifecycle.RolledBack

namespace ShadowTrace.Lifecycle.Completions

open Relational Execution

/-! ### The machine -/

inductive Hook
  | idle | running | returned | raised
  deriving DecidableEq

/-- The lifecycle, the hooks of the rollback processes, the rollback actions whose provider reported
a success, and those whose effect was not verified. Each hook has the executor of its process. -/
structure World where
  base : Lifecycle.World
  hooks : Table ProcId Hook
  reported : List ActionId
  refuted : List ActionId

section

variable (cfg : Settings) (w : World) (p : ProcId) (rollback : ActionId)

def World.db : Db := w.base.db

def World.hook : Hook := (w.hooks.get p).getD .idle

/-- The rollback action a process executes, or is about to execute. -/
def World.target : Option ActionId :=
  match w.base.rollback p with
  | .executing _ _ rollback => some rollback
  | _ => none

inductive Call
  | service (op : RollbackOp)
  | execute (env : ClaimEnv) (now : Time)
  | inside (op : RunnerOp)
  | repair (rollback : ActionId) (draft : CommandDraft)

/-- What an executor does after its claim. A lost process is one that takes no more steps. -/
def continues : RunnerOp → Bool
  | .start .. | .crash => false
  | _ => true

/-- How `execute_action` is left by its last step: an exception is passed on. -/
def outcome : RunnerOp → Hook
  | .fail _ | .answer .softLimit => .raised
  | _ => .returned

def move : Call → Option Op × Hook
  | .service .returned =>
    if w.hook p = .returned then (some (.rollback p .returned), .idle)
    else (none, w.hook p)
  | .service (.raised now) =>
    if w.hook p = .raised then (some (.rollback p (.raised now)), .idle)
    else (none, w.hook p)
  | .service op => (some (.rollback p op), w.hook p)
  | .execute env now =>
    match w.hook p, w.target p with
    | .idle, some rollback =>
      match w.db.actions.get rollback with
      | none => (none, .raised)
      | some row =>
        if row.executionOwner.isNone then (none, .returned)
        else match claimAction w.db rollback env now with
          | .error _ => (none, .raised)
          | .ok _ => (some (.runner p (.start rollback env now)), .running)
    | hook, _ => (none, hook)
  | .inside op =>
    if w.hook p = .running ∧ continues op = true then
      (some (.runner p op), if (stepRunner cfg w.base p op).runner p = .idle then outcome op
        else .running)
    else (none, w.hook p)
  | .repair rollback draft => (some (.repairCompensation rollback draft), w.hook p)

/-- The rollback action whose success the provider reports by a step. -/
def reports : Call → List ActionId
  | .inside (.answer (.result received)) =>
    match w.hook p, w.base.runner p with
    | .running, .waiting exec _ => if received.status = .success then [exec.action] else []
    | _, _ => []
  | .inside (.runMock completed _) =>
    match w.hook p, w.base.runner p with
    | .running, .mocking exec _ => if completed.status = .success then [exec.action] else []
    | _, _ => []
  | _ => []

/-- The rollback action whose effect a step does not verify. -/
def refutes : Call → List ActionId
  | .service (.grade readback _) =>
    match w.base.rollback p with
    | .executed _ _ rollback status =>
      match Rollback.verifyRollbackEffect status readback with
      | .verified | .skipped => []
      | .failed | .unverifiable => [rollback]
    | _ => []
  | _ => []

def World.apply : Option Op → Lifecycle.World
  | none => w.base
  | some op => Lifecycle.step cfg w.base op

def step (label : ProcId × Call) : World where
  base := w.apply cfg (move cfg w label.1 label.2).1
  hooks := w.hooks.set label.1 (move cfg w label.1 label.2).2
  reported := reports w label.1 label.2 ++ w.reported
  refuted := refutes w label.1 label.2 ++ w.refuted

def World.of (base : Lifecycle.World) : World where
  base := base
  hooks := .empty
  reported := []
  refuted := []

/-! ### What is asked of it -/

def World.executes : Bool :=
  w.hook p == .running && w.target p == some rollback && hasStatus w.db rollback .executing

/-- **A rollback that one caller executes is not failed by another one.** -/
def Undisturbed (label : ProcId × Call) (after : World) : Prop :=
  ∀ p rollback, p ≠ label.1 → w.executes p rollback = true →
    hasStatus after.db rollback .failed = false

/-- The rollback succeeded and its original is undone. -/
def Settled (db : Db) (rollback : ActionId) : Prop :=
  hasStatus db rollback .success = true ∧ ∃ original, Undoes db original rollback
    ∧ hasStatus db original .rolledBack = true

/-- No process works on the rollback. -/
def World.quiet : Prop := ∀ p original, rollbackPair (w.base.rollback p) ≠ some (original, rollback)

/-- A success that was reported and not refuted is settled when the work is done. -/
def Kept : Prop :=
  ∀ rollback ∈ w.reported, rollback ∉ w.refuted → w.quiet rollback → Settled w.db rollback

/-! ### When it holds -/

def originalStands (db : Db) (rollback : ActionId) : Bool :=
  match (db.actions.get rollback).bind (·.sourceActionId) with
  | none => true
  | some original => (db.actions.get original).all fun row =>
      Rollback.rollbackable row.status || row.status == .rolledBack

def World.free : Bool :=
  w.hooks.rows.all fun entry =>
    entry.1 == p || entry.2 == .idle || w.target entry.1 != some rollback

def World.recordable (draft : Option CommandDraft) : Bool :=
  match w.base.runner p with
  | .recording exec =>
    !w.reported.contains exec.action || draft.any fun draft =>
      (enqueue w.db (draft.args exec.action exec.row .executionResultRecord .default none)).isOk
  | _ => true

/-- **Completions that do not get into each other's way.** -/
def serial : ProcId × Call → Bool
  | (p, .execute _ _) =>
    (w.target p).all fun rollback => hasStatus w.db rollback .approved && w.free p rollback
  | (_, .service (.completeApproved rollback)) => originalStands w.db rollback
  | (p, .inside .raise) => (w.target p).all fun rollback => !w.reported.contains rollback
  | (p, .inside (.record draft)) => w.recordable p draft
  | _ => true

/-! ### What one step can do -/

def acts : Op → Bool
  | .rollback mover _ | .runner mover _ => mover == p
  | .repairCompensation _ _ => true
  | _ => false

end

theorem move_acts {cfg : Settings} {w : World} {p : ProcId} {call : Call} {op : Op}
    (moved : (move cfg w p call).1 = some op) : acts p op = true := by
  unfold move at moved
  repeat' split at moved
  all_goals cases moved
  all_goals first | rfl | exact beq_self_eq_true p

def runnerAction : Runner → Option ActionId
  | .idle => none
  | .claimed id _ | .failing id => some id
  | .inserted exec | .calling exec _ | .waiting exec _ | .storing exec _
  | .comparing exec _ _ | .returned exec | .mocking exec _
  | .finishing exec _ | .recording exec => some exec.action

section Base

variable {cfg : Settings} {base : Lifecycle.World} {p : ProcId} {op : Op}

inductive RowChange (base : Lifecycle.World) (p : ProcId) (op : Op) (id : ActionId)
    (row next : ActionRow) : Prop
  | still (same : next.status = row.status)
  | claimed (cause : op = .runner p (.start id env now)) (approved : row.status = .approved)
  | worked (cause : op = .runner p run) (works : runnerAction (base.runner p) = some id)
      (left : next.status ≠ .approved)
  | gaveUp (gives : GivesUp base id op) (failed : next.status = .failed)
  | undone (cause : op = .rollback p (.cas now))
      (held : base.rollback p = .effective id seen rollback) (back : next.status = .rolledBack)
  | reviewed (early : row.status = .pending ∨ row.status = .approved)
      (waits : next.status = .waitingApproval)

theorem open_of_waits {category : ActionCategory} {status : ActionStatus}
    (edge : .waitingApproval ∈ actionStatusTransitions category status) :
    status = .pending ∨ status = .approved := by
  revert edge
  cases category <;> cases status <;> decide

theorem rowChange {after : Db} {id : ActionId} {row next : ActionRow} (sound : Sound base)
    (mine : acts p op = true) (moved : ActionMove cfg base op after id row next) :
    RowChange base p op id row next := by
  -- the process an operation names is this one
  have named : ∀ {mover : ProcId} {run : RunnerOp}, op = .runner mover run → mover = p := by
    rintro mover run rfl
    exact eq_of_beq mine
  cases moved with
  | kept | bound => exact .still rfl
  | claimed cause _ checked =>
    obtain rfl := named cause
    exact .claimed cause (claimChecks_eq_ok checked).approved
  | restored _ held ownerless =>
    have owned := (sound.claim held).owned
    rw [ownerless] at owned
    cases owned
  | attached cause held _ _ _ done =>
    obtain rfl := named cause
    refine .worked cause (by rw [held]; rfl) ?_
    rw [(attachedRow_eq_ok done).2.1]
    split
    · nofun
    · exact mapJobToActionStatus_ne.1
  | finished cause held same done =>
    obtain rfl := named cause
    refine .worked cause (by rw [held]; exact congrArg some same) ?_
    rw [(movedRow_eq_ok done).1]
    exact mapJobToActionStatus_ne.1
  | failed cause held =>
    obtain rfl := named cause
    exact .worked cause (by rw [held]; rfl) nofun
  | reviewed _ _ legal => exact .reviewed (open_of_waits (validateAction_eq_ok.mp legal).edge) rfl
  | rollbackFailed cause => exact .gaveUp cause rfl
  | rolledBack cause held =>
    rw [cause] at mine
    obtain rfl : _ = p := eq_of_beq mine
    exact .undone cause held rfl
  | synced cause | timedOut cause | followed cause | exhausted cause | reopened cause
  | resolved cause | effective cause | replanned cause | superseded cause | evaluated cause
  | decided cause | activated cause | verified cause | reported cause =>
    rw [cause] at mine
    cases mine
  | expired cause =>
    obtain rfl | rfl := cause
    · cases mine
    · cases mine

end Base

/-! ### The invariant -/

def answered : Runner → Bool
  | .storing _ _ | .comparing _ _ _ | .returned _ | .mocking _ _ | .finishing _ _ | .recording _ =>
    true
  | _ => false

def unfinished : Runner → Bool
  | .idle | .recording _ | .failing _ => false
  | _ => true

def workedOn : RollbackMemory → Option (ActionId × ActionStatus × ActionId)
  | .executing original seen rollback | .executed original seen rollback _
  | .effective original seen rollback => some (original, seen, rollback)
  | .idle | .registering _ | .compensating _ _ => none

def World.uncalled (w : World) (rollback : ActionId) : Prop :=
  ∀ p, w.target p = some rollback → w.hook p = .idle

/-- What is left to do for a rollback whose success was reported. -/
inductive Progress (w : World) (rollback : ActionId) : Prop
  | carried (target : w.target p = some rollback) (running : w.hook p = .running)
      (past : answered (w.base.runner p) = true)
  | returned (target : w.target p = some rollback) (back : w.hook p = .returned)
  | ungraded (held : w.base.rollback p = .executed original seen rollback status)
      (success : status = .success → hasStatus w.db rollback .success = true)
      (alone : w.uncalled rollback)
  | effective (held : w.base.rollback p = .effective original seen rollback)
      (success : hasStatus w.db rollback .success = true) (alone : w.uncalled rollback)
  | settled (done : Settled w.db rollback) (alone : w.uncalled rollback)

/-- The original is undone, or can still be. -/
def Standing (db : Db) (original : ActionId) (seen : ActionStatus) : Prop :=
  ∃ row, db.actions.get original = some row ∧ row.category = .response
    ∧ (row.status = .rolledBack
      ∨ Rollback.rollbackable seen = true ∧ Rollback.rollbackable row.status = true)

/-- The invariant of the completing processes. -/
structure Stands (w : World) : Prop where
  sound : Sound w.base
  paired : Paired w.base
  called : ∀ p, w.hook p ≠ .idle → ∃ rollback, w.target p = some rollback
  executor : ∀ p, w.base.runner p ≠ .idle →
    w.hook p = .running ∧ runnerAction (w.base.runner p) = w.target p
  single : ∀ p other rollback, w.hook p ≠ .idle → w.hook other ≠ .idle →
    w.target p = some rollback → w.target other = some rollback → p = other
  executing : ∀ p rollback, w.target p = some rollback →
    unfinished (w.base.runner p) = true → hasStatus w.db rollback .executing = true
  originals : ∀ p original seen rollback,
    workedOn (w.base.rollback p) = some (original, seen, rollback) →
    Standing w.db original seen
  reported : ∀ rollback ∈ w.reported, rollback ∉ w.refuted →
    hasStatus w.db rollback .approved = false ∧ Progress w rollback

/-! ### Frames -/

section

variable {cfg : Settings} {base : Lifecycle.World} {p other : ProcId} {op : Op}

theorem stepRollback_waits {run : RollbackOp} {original rollback : ActionId} {seen : ActionStatus}
    (held : base.rollback p = .executing original seen rollback) (waits : run ≠ .returned)
    (calm : ∀ now, run ≠ .raised now) : stepRollback base p run = base := by
  cases run with
  | returned => exact absurd rfl waits
  | raised now => exact absurd rfl (calm now)
  | _ => simp only [stepRollback, stepRollbackStart, stepCompleteApproved, stepGrade, held]

theorem rollback_elsewhere (mine : acts p op = true) (away : other ≠ p) :
    (Lifecycle.step cfg base op).rollback other = base.rollback other := by
  obtain ⟨mover, _, rfl, _, -, others⟩ | same := (step_transition cfg base op).rollbacks
  · obtain rfl : mover = p := eq_of_beq mine
    rw [others other, if_neg away]
  · exact rollback_of_same same other

theorem runner_elsewhere (mine : acts p op = true) (away : other ≠ p) :
    (Lifecycle.step cfg base op).runner other = base.runner other := by
  obtain ⟨mover, _, rfl, _, -, others⟩ | same := step_executors cfg base op
  · obtain rfl : mover = p := eq_of_beq mine
    rw [others other, if_neg away]
  · exact same.runner other

variable {w : World} {call : Call}

theorem hook_step :
    (step cfg w (p, call)).hook other
      = if other = p then (move cfg w p call).2 else w.hook other := by
  unfold World.hook step
  rw [Table.get_set]
  split_ifs with same
  · rfl
  · rfl

theorem step_elsewhere (away : other ≠ p) :
    (step cfg w (p, call)).base.rollback other = w.base.rollback other
      ∧ (step cfg w (p, call)).base.runner other = w.base.runner other
      ∧ (step cfg w (p, call)).hook other = w.hook other := by
  rw [← and_assoc]
  refine ⟨?_, by rw [hook_step, if_neg away]⟩
  simp only [step]
  cases moved : (move cfg w p call).1 with
  | none => exact ⟨rfl, rfl⟩
  | some =>
    have mine := move_acts moved
    exact ⟨rollback_elsewhere mine away, runner_elsewhere mine away⟩

end

end ShadowTrace.Lifecycle.Completions
