/-
**An action that was handed to an executor is not discarded.**

Replanning supersedes the actions of the previous revision that were never handed out. It decides by
the job column of the action and by a status in front of the execution, and relies on the invariant
`HoldsOn`: an action with a job or an outbox is still bound to a job, or its status is past
`approved` (`deployed`).

Three writers take an action back in front of its execution and break the invariant; `careful` says
what they have to meet:

* a reclaim reopens the action and clears its job column, while the job row stays;
* a plan resets whatever is stored under its fingerprint;
* an evaluation writes the status it derived from a row it read earlier.
-/

import ShadowTrace.Lifecycle.Dispatch

namespace ShadowTrace.Lifecycle

open Relational Execution Machine

/-! ### What was handed out -/

def hasJobOrOutbox (db : Db) (id : ActionId) : Bool :=
  db.jobs.rows.any (fun entry => entry.2.actionId == id)
    || db.outboxes.rows.any fun entry => entry.2.actionId == id

theorem hasJobOrOutbox_iff {db : Db} {id : ActionId} : hasJobOrOutbox db id = true ↔
    (∃ jobId job, db.jobs.get jobId = some job ∧ job.actionId = id)
      ∨ ∃ outboxId outbox, db.outboxes.get outboxId = some outbox ∧ outbox.actionId = id := by
  simp only [hasJobOrOutbox, Bool.or_eq_true, List.any_eq_true, beq_iff_eq, Prod.exists,
    Table.mem_rows]

def unstarted : ActionStatus → Bool
  | .pending | .waitingApproval | .approved => true
  | _ => false

theorem unstarted_edge {category : ActionCategory} {current target : ActionStatus}
    (edge : target ∈ actionStatusTransitions category current) (back : unstarted target = true)
    (unreclaimed : current = .executing → target ≠ .approved) : unstarted current = true := by
  by_contra started
  cases current <;> first | exact started rfl | cases target <;> cases back
  all_goals cases category <;> first
    | exact unreclaimed rfl rfl
    | simp [actionStatusTransitions, responseTransitions, rollbackTransitions,
        verificationTransitions, systemTransitions] at edge

def deployed (row : ActionRow) : Bool := row.executionJobId.isSome || !unstarted row.status

theorem deployed_of_undeployed {event : EventId} {oldRevision : Nat} {row : ActionRow}
    (selected : Planning.undeployed event oldRevision row = true) : deployed row = false := by
  have status := Planning.undeployed_status selected
  have unbound : row.executionJobId = none := by
    simp only [Planning.undeployed, Bool.and_eq_true, Option.isNone_iff_eq_none] at selected
    exact selected.1.2
  rw [deployed, unbound]
  obtain pending | waiting | approved := status
  · rw [pending]
    rfl
  · rw [waiting]
    rfl
  · rw [approved]
    rfl

/-! ### Careful steps -/

/-- A plan meets its fingerprints only in actions that are still pending. -/
def plansPending (w : World) (event : EventId) (revision content : Nat) : Bool :=
  w.db.actions.rows.all fun entry =>
    entry.2.actionFingerprint != .response event revision content || entry.2.status == .pending

/-- An evaluation is written to an action that has the status it was read with. -/
def evaluatesCurrent (w : World) (p : ProcId) : Bool :=
  ((w.evaluations.get p).getD none).all fun evaluation =>
    (w.db.actions.get evaluation.action).all fun row =>
      row.status == evaluation.snapshot.status

/-- A reclaim finds that an action with a job or an outbox is not to be reopened: an outbox of it is
on its way, or the job it is bound to has ended, is still leased or has no attempt left. -/
def reclaimsUnowned (cfg : Settings) (w : World) (id : ActionId) (now : Time) : Bool :=
  !hasJobOrOutbox w.db id || hasActiveOutbox w.db id
    || (w.db.actions.get id).all fun row => row.status != .executing
      || (boundJob w.db row).any fun job =>
        terminalJob job.status || leaseHeld job now
          || decide (cfg.reclaim.maxAttempts ≤ job.attempt)

/-- What a step has to meet so that it does not let go of an action that was handed out. -/
def careful (cfg : Settings) (w : World) : Op → Bool
  | .plan _ event revision candidate _ => plansPending w event revision candidate.content
  | .persistEvaluation p _ _ _ => evaluatesCurrent w p
  | .reclaimAction id now => reclaimsUnowned cfg w id now
  | _ => true

section Careful

variable {cfg : Settings} {w : World} {id : ActionId} {row : ActionRow}

theorem plansPending_status {event : EventId} {revision content : Nat}
    (pending : plansPending w event revision content = true)
    (found : w.db.actions.get id = some row)
    (same : row.actionFingerprint = .response event revision content) : row.status = .pending := by
  have holds := List.all_eq_true.mp pending (id, row) (Table.mem_rows.mpr found)
  simpa [same] using holds

theorem evaluatesCurrent_status {p : ProcId} {evaluation : Evaluation}
    (current : evaluatesCurrent w p = true)
    (held : w.evaluations.get p = some (some evaluation)) (same : evaluation.action = id)
    (found : w.db.actions.get id = some row) : row.status = evaluation.snapshot.status := by
  subst same
  simpa [evaluatesCurrent, held, found] using current

theorem reclaimsUnowned_reopen {now : Time} (unowned : reclaimsUnowned cfg w id now = true)
    (found : w.db.actions.get id = some row)
    (verdict : reclaimVerdict w.db id row cfg.reclaim now = .reopen) :
    hasJobOrOutbox w.db id = false := by
  have executing := (reclaimVerdict_ne_keep verdict nofun).1
  by_contra handed
  simp only [reclaimsUnowned, found, executing, Option.all_some, bne_self_eq_false,
    Bool.or_eq_true, Bool.not_eq_true', handed] at unowned
  obtain ⟨idle, ⟨unbound, -⟩ | ⟨_, bound, open_, unleased, left⟩⟩ := reclaimVerdict_reopen verdict
  · simp [idle, unbound] at unowned
  simp only [idle, bound, open_, unleased, Option.any_some, Bool.false_or,
    decide_eq_true_eq] at unowned
  simp only [Bool.false_eq_true, false_or] at unowned
  exact absurd unowned (not_le.mpr left)

end Careful

/-! ### One step -/

/-- The invariant: what has a job or a command counts as deployed. -/
def HoldsOn (w : World) : Prop :=
  ∀ id, hasJobOrOutbox w.db id = true → ∃ row, w.db.actions.get id = some row ∧ deployed row = true

section Step

variable {cfg : Settings} {w : World} {op : Op} {after : Db} {id : ActionId} {row next : ActionRow}

theorem ActionMove.released (moved : ActionMove cfg w op after id row next)
    (unbound : next.executionJobId = none) :
    row.executionJobId = none ∨ next.status = .failed
      ∨ ∃ now, op = .reclaimAction id now
        ∧ reclaimVerdict w.db id row cfg.reclaim now = .reopen := by
  cases moved with
  | synced _ projected =>
    rw [projected.rest] at unbound
    exact .inl unbound
  | bound => cases unbound
  | attached _ _ _ _ _ done =>
    rw [(attachedRow_eq_ok done).1] at unbound
    cases unbound
  | finished _ _ _ done =>
    obtain ⟨-, rfl | ⟨-, rfl⟩⟩ := movedRow_eq_ok done
    · exact .inl unbound
    · exact .inl unbound
  | timedOut | exhausted => exact .inr (.inl rfl)
  | reopened cause verdict => exact .inr (.inr ⟨_, cause, verdict⟩)
  | _ => exact .inl unbound

theorem ActionMove.deployed (sound : Sound w) (found : w.db.actions.get id = some row)
    (moved : ActionMove cfg w op after id row next)
    (attentive : careful cfg w op = true)
    (handed : row.status = .executing → hasJobOrOutbox w.db id = true)
    (here : Lifecycle.deployed row = true) : Lifecycle.deployed next = true := by
  -- a reclaim would have to find the action unowned
  have kept : ∀ {now}, op = .reclaimAction id now →
      reclaimVerdict w.db id row cfg.reclaim now ≠ .reopen := by
    rintro now rfl verdict
    have executing := (reclaimVerdict_ne_keep verdict nofun).1
    rw [reclaimsUnowned_reopen attentive found verdict] at handed
    cases handed executing
  by_contra idle
  simp only [Lifecycle.deployed, Bool.or_eq_true, Bool.not_eq_true', not_or,
    Option.isSome_eq_false_iff, Bool.not_eq_true, Option.isNone_iff_eq_none,
    Bool.not_eq_false] at idle
  obtain ⟨unbound, back⟩ := idle
  obtain before | failed | ⟨_, cause, verdict⟩ := moved.released unbound
  · have started : unstarted row.status = false := by simpa [Lifecycle.deployed, before] using here
    suffices unstarted row.status = true by simp [started] at this
    cases moved.change sound found with
    | still same => exact same ▸ back
    | checked move => exact unstarted_edge move.edge back move.unreclaimed
    | reopened cause verdict => exact absurd verdict (kept cause)
    | replanned cause same =>
      subst cause
      rw [plansPending_status attentive found same]
      rfl
    | superseded _ _ reached | rollbackFailed _ reached =>
      rw [reached] at back
      cases back
    | evaluated cause held same _ legal =>
      subst cause
      have move := validateAction_eq_ok.mp legal
      rw [evaluatesCurrent_status attentive held same found]
      refine unstarted_edge move.edge back fun executing reached => ?_
      cases move.reclaim executing reached
  · rw [failed] at back
    cases back
  · exact kept cause verdict

theorem JobBorn.deployed {jobId : JobId} {job : JobRow} (born : JobBorn w op after jobId job) :
    ∃ row, after.actions.get job.actionId = some row ∧ Lifecycle.deployed row = true := by
  cases born with
  | execution _ _ _ _ found bound =>
    refine ⟨_, found, ?_⟩
    rw [Lifecycle.deployed, bound]
    rfl

theorem step_holdsOn (cfg : Settings) (w : World) (op : Op) (sound : Sound w)
    (holds : HoldsOn w) (attentive : careful cfg w op = true) :
    HoldsOn (step cfg w op) := by
  have effects := step_effects cfg w op
  -- what was handed out before
  have older : ∀ {id}, hasJobOrOutbox w.db id = true → ∃ row,
      (step cfg w op).db.actions.get id = some row ∧ Lifecycle.deployed row = true := by
    intro id handed
    obtain ⟨row, found, here⟩ := holds id handed
    obtain ⟨next, reached, moved⟩ := effects.actions.old id row found
    exact ⟨next, reached, moved.deployed sound found attentive (fun _ => handed) here⟩
  have jobs : ∀ {jobId job}, (step cfg w op).db.jobs.get jobId = some job → ∃ row,
      (step cfg w op).db.actions.get job.actionId = some row ∧ Lifecycle.deployed row = true := by
    intro jobId _ stored
    obtain ⟨earlier, there, moved⟩ | ⟨-, born⟩ := effects.jobs.row_after stored
    · rw [moved.identity.1]
      exact older (hasJobOrOutbox_iff.mpr (.inl ⟨jobId, earlier, there, rfl⟩))
    · exact born.deployed
  intro _ handed
  obtain ⟨_, job, stored, rfl⟩ | ⟨outboxId, _, stored, rfl⟩ := hasJobOrOutbox_iff.mp handed
  · exact jobs stored
  obtain ⟨earlier, there, moved⟩ | ⟨-, _, cause, enqueued⟩ := effects.outboxes.row_after stored
  · rw [moved.action]
    exact older (hasJobOrOutbox_iff.mpr (.inr ⟨outboxId, earlier, there, rfl⟩))
  rw [enqueued.command.1]
  cases cause with
  | submit _ _ _ same _ born owner =>
    subst same owner
    exact jobs born
  | record _ held same =>
    subst same
    obtain ⟨job, there, -, action⟩ := (sound.running held rfl).job
    exact older (hasJobOrOutbox_iff.mpr (.inl ⟨_, job, there, action⟩))
  | disposition _ _ _ same reached executing =>
    subst same
    exact ⟨_, reached, by simp [Lifecycle.deployed, executing, unstarted]⟩
  | @compensation original rollback row draft found done same =>
    subst same
    have ended : row.status = .success ∨ row.status = .failed := by
      obtain ⟨-, success⟩ | ⟨_, held⟩ := done
      · exact .inl success
      obtain ⟨_, there, -, finished⟩ := sound.rollback held
      obtain rfl := Option.mem_unique found there
      exact finished
    obtain ⟨next, reached, moved⟩ := effects.actions.old rollback row found
    refine ⟨next, reached, moved.deployed sound found attentive ?_ ?_⟩
    · intro executing
      rw [executing] at ended
      simp at ended
    obtain status | status := ended <;> simp [Lifecycle.deployed, status, unstarted]

/-! ### Every schedule -/

theorem ActionMove.revision (moved : ActionMove cfg w op after id row next)
    (deployed : Lifecycle.deployed row = true) :
    next.supersededByRevision = row.supersededByRevision := by
  cases moved with
  | synced _ projected => rw [projected.rest]
  | attached _ _ _ _ _ done => rw [(attachedRow_eq_ok done).1]
  | finished _ _ _ done =>
    obtain ⟨-, rfl | ⟨-, rfl⟩⟩ := movedRow_eq_ok done
    · rfl
    · rfl
  | superseded _ selected =>
    rw [deployed_of_undeployed selected] at deployed
    cases deployed
  | _ => rfl

theorem StatusChange.superseded_before {target : ActionStatus}
    (change : StatusChange cfg w op after id row target)
    (deployed : Lifecycle.deployed row = true) (superseded : target = .superseded) :
    row.status = .superseded := by
  cases change with
  | still same => exact same.symm.trans superseded
  | checked move => exact absurd superseded move.current
  | superseded _ selected =>
    rw [deployed_of_undeployed selected] at deployed
    cases deployed
  | evaluated _ _ _ decided => exact absurd (decided.symm.trans superseded) Approval.target_ne.1
  | reopened _ _ reached | replanned _ _ reached | rollbackFailed _ reached =>
    cases reached.symm.trans superseded

end Step

/-- No action with a job or an outbox is superseded on the way from `before` to `after`. -/
def KeepsHandedOver (before after : World) : Prop :=
  ∀ id row next, hasJobOrOutbox before.db id = true → before.db.actions.get id = some row →
    after.db.actions.get id = some next →
    next.supersededByRevision = row.supersededByRevision
      ∧ (next.status = .superseded → row.status = .superseded)

/-- **What was handed over is not discarded.** In every run of careful steps, no step supersedes an
action for which a job or an outbox exists. -/
theorem handed_over_never_superseded (cfg : Settings) (around : Surroundings) (ops : List Op)
    (attentive : Along (step cfg) (fun w op => careful cfg w op = true) (World.initial around) ops)
    {before after : World} {op : Op}
    (occurs : Occurs (step cfg) (World.initial around) ops before op
      after) : KeepsHandedOver before after := by
  refine occurs_invariant (fun w op => careful cfg w op = true)
    (fun w => Sound w ∧ HoldsOn w) (fun before _ => KeepsHandedOver before)
    ?_ ?_ ⟨initial_sound .., ?_⟩ attentive occurs
  · rintro w op ⟨sound, holds⟩ attentive
    exact ⟨step_sound cfg w op sound, step_holdsOn cfg w op sound holds attentive⟩
  · rintro w op ⟨sound, holds⟩ - id row _ handed found reached
    obtain ⟨_, there, deployed⟩ := holds id handed
    obtain rfl := Option.mem_unique found there
    have moved := (step_effects cfg w op).actions.moved found reached
    exact ⟨moved.revision deployed, (moved.change sound found).superseded_before deployed⟩
  · intro _ handed
    cases handed

theorem handed_over_never_superseded_executing :
    let w := run (step (sampleSettings 3)) (World.initial {})
      (sampleApproval ++ sampleCall)
    hasJobOrOutbox w.db 1 = true
      ∧ KeepsHandedOver w (step (sampleSettings 3) w (.supersede 1 1 2 60)) :=
  ⟨by decide, handed_over_never_superseded (sampleSettings 3) {}
    (sampleApproval ++ sampleCall ++ [.supersede 1 1 2 60]) (by decide) (occurs_last _ _ _)⟩

def sampleReclaim : List Op := [.runner 0 .crash, .reclaimJob 1 50, .reclaimAction 1 50]

/-- **A reclaimed action is discarded**, although the provider was called for it and its job row
exists. -/
theorem superseded_after_reclaim :
    let w := run (step (sampleSettings 3)) (World.initial {})
      (sampleApproval ++ sampleCall ++ sampleReclaim)
    w.dispatches = [.direct 1]
      ∧ ¬ KeepsHandedOver w (step (sampleSettings 3) w (.supersede 1 1 2 60)) := by
  refine ⟨by decide, fun keeps => ?_⟩
  obtain ⟨revision, -⟩ := keeps 1 _ _ (by decide) rfl rfl
  cases revision

end ShadowTrace.Lifecycle
