/-
**How the status of an action changes.**

The action statuses have more than twenty writers, and most ask `validate_action_status_transition`
first or can only meet rows for which it would agree. `StatusChange` keeps those apart from the
writers for which neither holds, and `ActionMove.change` puts every move into one of its classes;
the invariants about statuses are derived from it.
-/

import ShadowTrace.Lifecycle.Shape

namespace ShadowTrace.Lifecycle

open Execution

/-- A named principal has approved the action. -/
def HumanApproved (db : Db) (id : ActionId) : Prop :=
  ∃ cycle record, db.approvals.get (id, cycle) = some record ∧ record.decidedAt.isSome = true
    ∧ (∃ subject, record.operator = some (.principal subject))
    ∧ ∃ payload, record.idempotency = some (.approve, payload)

/-- A move the validator accepts: an edge of the table, with what its gates ask for. -/
structure CheckedMove (w : World) (op : Op) (after : Db) (id : ActionId) (row : ActionRow)
    (target : ActionStatus) : Prop where
  edge : target ∈ actionStatusTransitions row.category row.status
  approval : target = .approved → HumanApproved after id
  current : target ≠ .superseded
  activation : row.status = .approved → target = .executing → row.executionPhase = .postVerify →
    ∃ env draft now, op = .activate id env draft now ∧ activatable w.db id row env = true
      ∧ env.templateUnchanged = true
  unreclaimed : row.status = .executing → target ≠ .approved

/-- Why the status of an action may become `target`. -/
inductive StatusChange (cfg : Settings) (w : World) (op : Op) (after : Db) (id : ActionId)
    (row : ActionRow) (target : ActionStatus) : Prop
  | still (same : target = row.status)
  | checked (move : CheckedMove w op after id row target)
  | reopened (cause : op = .reclaimAction id now)
      (verdict : reclaimVerdict w.db id row cfg.reclaim now = .reopen)
      (reached : target = .approved)
  | replanned (cause : op = .plan new event revision candidate now)
      (same : row.actionFingerprint = .response event revision candidate.content)
      (reached : target = .pending)
  | superseded (cause : op = .supersede event oldRevision newRevision now)
      (selected : Planning.undeployed event oldRevision row = true) (reached : target = .superseded)
  | evaluated (cause : op = .persistEvaluation p manifest cap clock)
      (held : w.evaluations.get p = some (some evaluation)) (same : evaluation.action = id)
      (decided : target = Approval.ApprovalDecisionKind.target
        (Approval.evaluateAction evaluation.snapshot manifest cap).decision)
      (legal : validateActionStatusTransition evaluation.snapshot.category
        evaluation.snapshot.status target (snapshotEvidence evaluation.snapshot target) = .ok ())
  | rollbackFailed (cause : GivesUp w id op) (reached : target = .failed)

section Change

variable {cfg : Settings} {w : World} {op : Op} {after : Db} {id : ActionId}
  {row next : ActionRow} {target : ActionStatus}

theorem CheckedMove.of_legal {evidence : ActionEvidence}
    (legal : validateActionStatusTransition row.category row.status target evidence = .ok ())
    (unleased : evidence.leaseExpiredReclaim = false)
    (approval : target = .approved → HumanApproved after id) (current : target ≠ .superseded)
    (immediate : target = .executing → row.executionPhase ≠ .postVerify) :
    CheckedMove w op after id row target where
  edge := (validateAction_eq_ok.mp legal).edge
  approval := approval
  current := current
  activation _ executing phase := absurd phase (immediate executing)
  unreclaimed executing reached := by
    have reclaim := (validateAction_eq_ok.mp legal).reclaim executing reached
    rw [unleased] at reclaim
    cases reclaim

theorem CheckedMove.of_executing (executing : row.status = .executing)
    (legal : validateActionStatusTransition row.category .executing target = .ok ()) :
    CheckedMove w op after id row target := by
  have move := validateAction_eq_ok.mp legal
  have unreclaimed : target ≠ .approved := by
    intro reached
    have reclaim := move.reclaim rfl reached
    cases reclaim
  have current : target ≠ .superseded := by
    intro reached
    have unstarted := (actionStatusTransitions_gates move.edge).1 reached
    simp at unstarted
  refine .of_legal (executing ▸ legal) rfl (fun reached => absurd reached unreclaimed) current ?_
  exact fun reached => absurd reached (Sync.validateAction_executing_edge legal)

theorem CheckedMove.of_job {snapshot : ActionRow} (claim : Claim w.db id snapshot)
    (found : w.db.actions.get id = some row)
    (reached : target = .unknown ∨ ∃ job, target = mapJobToActionStatus job)
    (legal : validateActionStatusTransition row.category row.status target = .ok ()) :
    CheckedMove w op after id row target := by
  have phase : row.executionPhase = snapshot.executionPhase :=
    (congrArg ActionRow.executionPhase (claim.stored.same found) :)
  have other : target ≠ .approved ∧ target ≠ .superseded := by
    obtain rfl | ⟨_, rfl⟩ := reached
    · exact ⟨nofun, nofun⟩
    · exact ⟨mapJobToActionStatus_ne.1, mapJobToActionStatus_ne.2.1⟩
  exact .of_legal legal rfl (fun reached => absurd reached other.1) other.2
    (fun _ => phase ▸ claim.immediate)

theorem ActionMove.change (sound : Sound w) (found : w.db.actions.get id = some row)
    (moved : ActionMove cfg w op after id row next) :
    StatusChange cfg w op after id row next.status := by
  have shape := sound.rows id row found
  cases moved with
  | kept | bound => exact .still rfl
  | synced _ projected =>
    obtain same | ⟨executing, legal⟩ := projected.status
    · exact .still same
    · exact .checked (.of_executing executing legal)
  | claimed _ _ checked =>
    have claimable := claimChecks_eq_ok checked
    refine .checked ⟨?_, nofun, nofun, fun _ _ phase => absurd phase claimable.immediate, nofun⟩
    rw [claimable.approved]
    exact gated_edge claimable.gated List.mem_cons_self nofun
  | restored _ held ownerless =>
    have owned := (sound.claim held).owned
    rw [ownerless] at owned
    cases owned
  | attached _ held _ _ _ done =>
    obtain ⟨-, reached, same | legal⟩ := attachedRow_eq_ok done
    · exact .still same
    refine .checked (.of_job (sound.claim held) found ?_ legal)
    rw [reached]
    split
    · exact .inl rfl
    · exact .inr ⟨_, rfl⟩
  | @finished p run exec terminal now next cause held same done =>
    obtain ⟨-, rfl | ⟨legal, rfl⟩⟩ := movedRow_eq_ok done
    · exact .still rfl
    · have running := sound.running held rfl
      exact .checked (.of_job (same ▸ running.claim) found (.inr ⟨terminal, rfl⟩) legal)
  | failed _ _ executing legal | timedOut _ _ _ _ executing legal | effective _ executing legal =>
    exact .checked (.of_executing executing legal)
  | followed _ verdict legal | exhausted _ verdict legal =>
    have executing := (reclaimVerdict_ne_keep verdict nofun).1
    exact .checked (.of_executing executing legal)
  | reopened cause verdict => exact .reopened cause verdict rfl
  | @resolved resolution now cause doubtful legal =>
    refine .checked (.of_legal (doubtful ▸ legal) rfl ?_ ?_ ?_) <;> cases resolution <;> nofun
  | replanned cause same => exact .replanned cause same rfl
  | superseded cause selected => exact .superseded cause selected rfl
  | evaluated cause held same decided legal => exact .evaluated cause held same decided legal
  | reviewed _ _ legal => exact .checked (.of_legal legal rfl nofun nofun nofun)
  | @decided manifest bindingValid req now cycle record cause recorded legal =>
    refine .checked (.of_legal legal rfl (fun reached => ?_) ?_ ?_)
    · have asked : req.operation = .approve := by
        cases operation : req.operation with
        | approve => rfl
        | reject =>
          rw [ActionRow.moveTo, operation] at reached
          cases reached
      refine ⟨cycle, _, recorded, rfl, ⟨req.principal, rfl⟩, req.payloadHash, ?_⟩
      rw [← asked]
      rfl
    all_goals cases req.operation <;> nofun
  | expired _ waiting =>
    have gated := gated_of_possible shape.possible (.inr (.inl waiting))
    refine .checked ⟨?_, nofun, nofun, nofun, nofun⟩
    rw [waiting]
    exact gated_edge gated (List.mem_cons_of_mem _ List.mem_cons_self) nofun
  | rollbackFailed cause => exact .rollbackFailed cause rfl
  | rolledBack _ held done =>
    refine .checked ⟨?_, nofun, nofun, nofun, nofun⟩
    rw [(sound.rollback held).1.category_eq found]
    cases status : row.status <;> rw [status] at done <;> cases done <;> exact List.mem_cons_self
  | @activated env draft now cause ready legal =>
    have approved := activatable_approved ready
    have move := validateAction_eq_ok.mp legal
    refine .checked ⟨approved ▸ move.edge, nofun, nofun, fun _ _ _ => ?_, nofun⟩
    exact ⟨env, draft, now, cause, ready, (move.resolved rfl rfl rfl).2⟩
  | @verified outcome now cause category running =>
    have possible := shape.possible
    rw [category] at possible
    obtain ⟨unconfirmed, unrefuted, known⟩ := running
    have executing : row.status = .executing := by
      cases status : row.status <;> rw [status] at possible <;> first
        | exact absurd status unconfirmed
        | exact absurd status unrefuted
        | exact absurd status known
        | cases possible
    refine .checked ⟨?_, ?_, ?_, fun approved => ?_, fun _ => ?_⟩
    · show outcome.status ∈ _
      rw [category, executing]
      cases outcome <;> decide
    · cases outcome <;> nofun
    · cases outcome <;> nofun
    · rw [executing] at approved
      cases approved
    · cases outcome <;> nofun
  | reported _ same =>
    -- a report action is born successful
    have possible := shape.possible
    have category := shape.fingerprint
    rw [same] at category
    rw [← category] at possible
    refine .still ?_
    cases status : row.status <;> rw [status] at possible <;> first | rfl | cases possible

end Change

end ShadowTrace.Lifecycle
