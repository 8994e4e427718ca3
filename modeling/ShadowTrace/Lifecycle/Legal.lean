/-
**Which status changes are legal moves.**

`validate_action_status_transition` judges a move by its keyword arguments, and each caller passes
what it likes.

By design the rollback service fails a rollback action whose execution raised, or whose success the
readback contradicts, whatever its status is (`GivesUp`). Every other status change is legal in runs
of `honest` steps, which do not meet one of the writers that look at too little:

* a plan resets the action stored under its fingerprint, whatever its status;
* an evaluation is checked against the row it read, and written to the row there is;
* a replan supersedes by the job column (see `HandedOver`);
* a reclaim reopens an action without passing its level, and takes the lease of an `unknown` job for
  expired.
-/

import ShadowTrace.Lifecycle.HandedOver
import ShadowTrace.Lifecycle.HumanGate

namespace ShadowTrace.Lifecycle

open Relational Execution Machine

/-! ### Truthful evidence -/

def approvesByHuman (record : ApprovalRow) : Bool :=
  record.decidedAt.isSome
    && (match record.operator with
      | some (.principal _) => true
      | _ => false)
    && (match record.idempotency with
      | some (.approve, _) => true
      | _ => false)

def hasHumanApproval (db : Db) (id : ActionId) : Bool :=
  db.approvals.rows.any fun entry => entry.1.1 == id && approvesByHuman entry.2

theorem hasHumanApproval_of_approved {db : Db} {id : ActionId} (approved : HumanApproved db id) :
    hasHumanApproval db id = true := by
  obtain ⟨cycle, record, found, decided, ⟨subject, operator⟩, payload, operation⟩ := approved
  refine List.any_eq_true.mpr ⟨((id, cycle), record), Table.mem_rows.mpr found, ?_⟩
  simp [approvesByHuman, decided, operator, operation]

/-- No lease keeps the action any more: the one of its job, or without a job the one that began with
its last update. -/
def leaseRunOut (cfg : Settings) (db : Db) (row : ActionRow) (now : Time) : Bool :=
  match boundJob db row with
  | none => decide (row.updatedAt + cfg.reclaim.leaseSeconds ≤ now)
  | some job => job.leaseExpiresAt.all fun lease => decide (lease < now)

def Op.activation (id : ActionId) : Op → Option ActivationEnv
  | .activate action env _ _ => if action = id then some env else none
  | _ => none

def Op.reclaimOf (id : ActionId) : Op → Option Time
  | .reclaimAction action now => if action = id then some now else none
  | _ => none

/-- The arguments, if they told the state that the move is made in. -/
def truthfulEvidence (cfg : Settings) (w : World) (op : Op) (after : Db) (id : ActionId)
    (row : ActionRow) : ActionEvidence where
  executionPhase := row.executionPhase
  afterEffectResolution := (op.activation id).any (·.effectsResolved)
  templateUnchanged := (op.activation id).all (·.templateUnchanged)
  hasJobOrOutbox := hasJobOrOutbox w.db id
  actionLevel := row.level
  autoExecute := row.autoExecute
  hasApprovalEvidence := hasHumanApproval after id
  leaseExpiredReclaim := (op.reclaimOf id).any (leaseRunOut cfg w.db row)

/-! ### Honest steps -/

def supersedesUnowned (w : World) (event : EventId) (oldRevision : Nat) : Bool :=
  w.db.actions.rows.all fun entry =>
    !Planning.undeployed event oldRevision entry.2 || !hasJobOrOutbox w.db entry.1

/-- A reclaim meets neither an action above level `l1` that started approved nor a job whose state
is unknown while it is leased. -/
def reclaimsApproved (w : World) (id : ActionId) (now : Time) : Bool :=
  (w.db.actions.get id).all fun row => row.status != .executing
    || (row.level.autoApprovable || !row.autoExecute)
      && (boundJob w.db row).all fun job =>
        job.status != .unknown || job.leaseExpiresAt.all fun lease => decide (lease < now)

/-- What a step has to meet so that it makes legal moves only. -/
def honest (w : World) : Op → Bool
  | .plan _ event revision candidate _ => plansPending w event revision candidate.content
  | .persistEvaluation p _ _ _ => evaluatesCurrent w p
  | .supersede event oldRevision _ _ => supersedesUnowned w event oldRevision
  | .reclaimAction id now => reclaimsApproved w id now
  | _ => true

section Step

variable {cfg : Settings} {w : World} {op : Op} {id : ActionId} {row next : ActionRow}

theorem CheckedMove.legal {after : Db} {target : ActionStatus}
    (move : CheckedMove w op after id row target) :
    LegalMove row.category row.status target
      (truthfulEvidence cfg w op after id row) where
  edge := move.edge
  approval reached _ := .inr (hasHumanApproval_of_approved (move.approval reached))
  undispatched reached := absurd reached move.current
  resolved approved executing phase := by
    obtain ⟨env, _, _, rfl, ready, unchanged⟩ := move.activation approved executing phase
    have resolved : env.effectsResolved = true := by
      simp only [activatable, Bool.and_eq_true] at ready
      exact ready.1.1.1.1.1.2
    simp [truthfulEvidence, Op.activation, resolved, unchanged]
  reclaim executing approved := absurd approved (move.unreclaimed executing)

theorem reclaimVerdict_leaseRunOut {now : Time}
    (approved : reclaimsApproved w id now = true) (found : w.db.actions.get id = some row)
    (verdict : reclaimVerdict w.db id row cfg.reclaim now = .reopen) :
    leaseRunOut cfg w.db row now = true := by
  have executing := (reclaimVerdict_ne_keep verdict nofun).1
  unfold leaseRunOut
  obtain ⟨-, ⟨unbound, finished⟩ | ⟨job, bound, live, unleased, -⟩⟩ := reclaimVerdict_reopen verdict
  · rw [unbound]
    exact decide_eq_true finished
  rw [bound]
  show job.leaseExpiresAt.all _ = true
  simp only [reclaimsApproved, found, executing, bound, Option.all_some, bne_self_eq_false,
    Bool.false_or, Bool.and_eq_true] at approved
  cases active : activeJob job.status with
  | true =>
    cases lease : job.leaseExpiresAt with
    | none => rfl
    | some => simpa [leaseHeld, active, lease] using unleased
  | false =>
    have doubtful : job.status = .unknown := by
      cases status : job.status <;> rw [status] at live active <;> cases live <;>
        first | rfl | cases active
    simpa [doubtful] using approved.2

theorem reclaimsApproved_needsHuman {now : Time} (approved : reclaimsApproved w id now = true)
    (sound : Sound w) (found : w.db.actions.get id = some row)
    (level : row.level.autoApprovable = false)
    (verdict : reclaimVerdict w.db id row cfg.reclaim now = .reopen) :
    needsHuman row = true := by
  obtain ⟨executing, gated, immediate⟩ := reclaimVerdict_ne_keep verdict nofun
  have inline : row.autoExecute = false := by
    simp only [reclaimsApproved, found, executing, level, Option.all_some, bne_self_eq_false,
      Bool.false_or, Bool.and_eq_true, Bool.not_eq_true'] at approved
    exact approved.1
  unfold needsHuman
  split
  · rename_i event same
    have deferred := (sound.rows id row found).deferred event same
    rw [immediate] at deferred
    cases deferred
  · rw [gated, level, inline]
    rfl

/-- **An honest step makes legal moves only**, apart from the rollback service giving up. -/
theorem ActionMove.legal (sound : Sound w) (gate : HumanGate w)
    (sincere : honest w op = true) (found : w.db.actions.get id = some row)
    (reached : (step cfg w op).db.actions.get id = some next)
    (moved : ActionMove cfg w op (step cfg w op).db id row next) :
    next.status = row.status
      ∨ LegalMove row.category row.status next.status
          (truthfulEvidence cfg w op (step cfg w op).db id row)
      ∨ GivesUp w id op ∧ next.status = .failed := by
  cases moved.change sound found with
  | still same => exact .inl same
  | checked move => exact .inr (.inl move.legal)
  | rollbackFailed cause failed => exact .inr (.inr ⟨cause, failed⟩)
  | replanned cause same pending =>
    subst cause
    exact .inl (pending.trans (plansPending_status sincere found same).symm)
  | superseded cause selected target =>
    subst cause
    have unowned := List.all_eq_true.mp sincere (id, row) (Table.mem_rows.mpr found)
    have shape := (sound.rows id row found).possible
    have status := Planning.undeployed_status selected
    have gated := gated_of_possible shape status
    refine .inr (.inl ?_)
    rw [target]
    refine ⟨?_, nofun, fun _ => ?_, nofun, nofun⟩
    · refine gated_edge gated ?_ nofun
      obtain status | status | status := status <;> rw [status] <;> decide
    · show hasJobOrOutbox w.db id = false
      simpa [selected] using unowned
  | @evaluated p manifest cap clock evaluation cause held same decided legal =>
    subst cause
    have move := validateAction_eq_ok.mp legal
    obtain ⟨stored, -⟩ := sound.evaluations _ _ held
    have current := evaluatesCurrent_status sincere held same found
    have level : row.level = evaluation.snapshot.level :=
      (congrArg ActionRow.level ((same ▸ stored).same found) :)
    have category : row.category = evaluation.snapshot.category :=
      category_of_identity ((same ▸ stored).same found)
    refine .inr (.inl ?_)
    rw [current, category]
    refine ⟨move.edge, fun approved _ => .inl ?_, fun superseded => ?_, fun _ executing => ?_,
      fun executing approved => ?_⟩
    · show row.level.autoApprovable = true
      by_contra gated
      have refused := evaluateAction_gated (level ▸ (Bool.not_eq_true _).mp gated) manifest cap
      rw [← decided, approved] at refused
      cases refused
    · exact absurd (decided.symm.trans superseded) Approval.target_ne.1
    · exact absurd (decided.symm.trans executing) Approval.target_ne.2.1
    · cases move.reclaim executing approved
  | @reopened now cause verdict target =>
    subst cause
    obtain ⟨executing, gated, -⟩ := reclaimVerdict_ne_keep verdict nofun
    refine .inr (.inl ?_)
    rw [target, executing]
    refine ⟨?_, fun _ _ => ?_, nofun, nofun, fun _ _ => ?_⟩
    · exact gated_edge gated (by decide) nofun
    · by_cases level : row.level.autoApprovable = true
      · exact .inl level
      have kept : next.level = row.level := (congrArg ActionRow.level moved.identity :)
      have human := gate id row found (reclaimsApproved_needsHuman sincere sound found
        ((Bool.not_eq_true _).mp level) verdict) (by rw [executing]; rfl)
      refine .inr (hasHumanApproval_of_approved (human.step sound reached ?_ ?_))
      · rw [kept]
        exact (Bool.not_eq_true _).mp level
      · rw [target]
        rfl
    · simpa [truthfulEvidence, Op.reclaimOf] using reclaimVerdict_leaseRunOut sincere found verdict

end Step

/-! ### Every schedule -/

/-- A step changes the status of an action by legal moves only, on truthful evidence. -/
def MovesLegally (cfg : Settings) (before : World) (op : Op) (after : World) : Prop :=
  ∀ id row next, before.db.actions.get id = some row → after.db.actions.get id = some next →
    next.status ≠ row.status →
    validateActionStatusTransition row.category row.status next.status
      (truthfulEvidence cfg before op after.db id row) = .ok ()

/-- The same, except that the rollback service may give up on an action. -/
def MovesLegallyOrGivesUp (cfg : Settings) (before : World) (op : Op) (after : World) : Prop :=
  ∀ id row next, before.db.actions.get id = some row → after.db.actions.get id = some next →
    next.status ≠ row.status →
    validateActionStatusTransition row.category row.status next.status
        (truthfulEvidence cfg before op after.db id row) = .ok ()
      ∨ GivesUp before id op ∧ next.status = .failed

/-- **Status changes are legal moves.** In every run of honest steps, each committed change of an
action's status is accepted by the validator on truthful evidence, unless it is the rollback service
giving up. -/
theorem status_changes_legal (cfg : Settings) (around : Surroundings) (ops : List Op)
    (sincere : Along (step cfg) (fun w op => honest w op = true) (World.initial around) ops)
    {before after : World} {op : Op}
    (occurs : Occurs (step cfg) (World.initial around) ops before op
      after) : MovesLegallyOrGivesUp cfg before op after := by
  refine occurs_invariant (fun w op => honest w op = true)
    (fun w => Sound w ∧ HumanGate w) (MovesLegallyOrGivesUp cfg) ?_ ?_
    ⟨initial_sound .., fun _ _ found => by cases found⟩ sincere occurs
  · rintro w op ⟨sound, gate⟩ -
    exact ⟨step_sound cfg w op sound, step_humanGate cfg w op sound gate⟩
  rintro w op ⟨sound, gate⟩ sincere id row _ found reached changed
  have moved := (step_effects cfg w op).actions.moved found reached
  obtain same | legal | givesUp := moved.legal sound gate sincere found reached
  · exact absurd same changed
  · exact .inl (validateAction_eq_ok.mpr legal)
  · exact .inr givesUp

theorem status_changes_legal_replan :
    let w := run (step (sampleSettings 3)) (World.initial {})
      sampleApproval
    MovesLegallyOrGivesUp (sampleSettings 3) w (.supersede 1 1 2 60)
      (step (sampleSettings 3) w (.supersede 1 1 2 60)) :=
  status_changes_legal (sampleSettings 3) {}
    (sampleApproval ++ [.supersede 1 1 2 60]) (by decide) (occurs_last _ _ _)

def sampleExecution (action : ActionId) (job : JobId) : List Op :=
  [.runner 0 (.start action { bindingValid := true, fenceOpen := true } 1),
    .runner 0 (.executeDirect job 1), .runner 0 (.prepare .passed), .runner 0 (.round false false),
    .runner 0 (.answer (.result { status := .success, hasJobId := true, providerJobId := none })),
    .runner 0 .readJob, .runner 0 (.compareAndSet true), .runner 0 (.readReturned false),
    .runner 0 (.finish 2)]

/-- The block of `sampleDecision`, executed, and its rollback by `unblock_ip`, whose success is not
yet verified. -/
def sampleRollback : List Op :=
  sampleDecision ++ sampleExecution 1 1
    ++ [.rollback 0 (.start 1 false 2 7 { writebackAllowed := true, adapterSupports := true } 3)]
    ++ sampleExecution 2 2 ++ [.rollback 0 .returned]

set_option maxRecDepth 2000 in
/-- **A rollback is failed after its success**, when the readback contradicts it. No edge of the
table leads there. -/
theorem rollback_failed_after_success :
    let w := run (step (sampleSettings 3)) (World.initial {})
      sampleRollback
    ¬ MovesLegally (sampleSettings 3) w (.rollback 0 (.grade (some false) 4))
      (step (sampleSettings 3) w (.rollback 0 (.grade (some false) 4))) := by
  intro _ legal
  have accepted := legal 2 _ _ rfl rfl (by decide)
  revert accepted
  decide

end ShadowTrace.Lifecycle
