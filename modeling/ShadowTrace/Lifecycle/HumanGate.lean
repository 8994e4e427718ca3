/-
**A human approves what is risky.**

An action of level `l2` or above that the response agent or a Saga has created starts pending
(`needsHuman`). The level rules never approve it, so the only way into `approved` is a decision,
which closes a record in the same transaction. The record stays as long as the action is under way,
because the one write that replaces a decided record also takes the action out of these statuses
(`HumanApproved.step`).
-/

import ShadowTrace.Lifecycle.Dispatch

namespace ShadowTrace.Lifecycle

open Relational Execution Machine

def underWay : ActionStatus → Bool
  | .approved | .executing | .success | .partialSuccess | .unknown => true
  | _ => false

/-- A response or rollback above level `l1`, except those that start approved: a rollback that an
operator asked for, and the disposition of a false positive. -/
def needsHuman (row : ActionRow) : Bool :=
  match row.actionFingerprint with
  | .dispositionOnly _ => false
  | _ => row.category.humanGated && !row.level.autoApprovable && !row.autoExecute

theorem needsHuman_gated {row : ActionRow} (needed : needsHuman row = true) :
    row.category.humanGated = true ∧ row.level.autoApprovable = false := by
  unfold needsHuman at needed
  split at needed
  · cases needed
  · simp only [Bool.and_eq_true, Bool.not_eq_true'] at needed
    exact needed.1

theorem underWay_edge {category : ActionCategory} {current target : ActionStatus}
    (gated : category.humanGated = true) (edge : target ∈ actionStatusTransitions category current)
    (started : underWay target = true) (other : target ≠ .approved) : underWay current = true := by
  cases category with
  | system | verification => cases gated
  | response | rollback =>
    cases current <;>
      first | rfl | simp_all [actionStatusTransitions, responseTransitions, rollbackTransitions]
    all_goals rcases edge with rfl | rfl | rfl <;> cases started

theorem evaluateAction_gated {row : ActionRow} (level : row.level.autoApprovable = false)
    (manifest : Approval.Manifest) (cap : Option ActionLevel) :
    underWay (Approval.ApprovalDecisionKind.target
      (Approval.evaluateAction row manifest cap).decision) = false := by
  have rules : underWay (Approval.ApprovalDecisionKind.target
      (Approval.evaluateLevelRules row.level cap).decision) = false := by
    cases same : row.level <;> rw [same] at level <;> first | rfl | cases level
  have ready : ∀ gate, Approval.readinessGate row manifest = some gate →
      underWay (Approval.ApprovalDecisionKind.target gate.decision) = false := by
    intro _ found
    unfold Approval.readinessGate at found
    split at found
    all_goals first | (obtain rfl := Option.some.inj found; rfl) | skip
    all_goals
      split at found
      · cases found
        rfl
      · cases found
  unfold Approval.evaluateAction
  cases gates : Approval.evaluateHardGates row manifest with
  | none => exact rules
  | some gate =>
    unfold Approval.evaluateHardGates at gates
    split_ifs at gates
    iterate 2
      · cases gates
        rfl
      · exact ready gate gates

/-! ### One step -/

section

variable {cfg : Settings} {w : World} {op : Op} {id : ActionId} {row : ActionRow}

theorem ActionMove.underWay {after : Db} {next : ActionRow} (sound : Sound w)
    (found : w.db.actions.get id = some row)
    (moved : ActionMove cfg w op after id row next)
    (gated : row.category.humanGated = true) (level : row.level.autoApprovable = false)
    (started : Lifecycle.underWay next.status = true) :
    Lifecycle.underWay row.status = true ∨ HumanApproved after id := by
  cases moved.change sound found with
  | still same => exact .inl (same ▸ started)
  | checked move =>
    by_cases approved : next.status = .approved
    · exact .inr (move.approval approved)
    · exact .inl (underWay_edge gated move.edge started approved)
  | reopened _ verdict =>
    rw [(reclaimVerdict_ne_keep verdict nofun).1]
    exact .inl rfl
  | evaluated _ held same decided =>
    have stored := (sound.evaluations _ _ held).stored
    subst same
    rw [of_identity ActionRow.level (stored.same found) fun _ => rfl] at level
    rw [decided, evaluateAction_gated level] at started
    cases started
  | replanned _ _ reached | superseded _ _ reached | rollbackFailed _ reached =>
    rw [reached] at started
    cases started

/-- **An approval lasts as long as its action is under way.** A decided record is only replaced
together with the status of its action. -/
theorem HumanApproved.step (sound : Sound w) (approved : HumanApproved w.db id)
    (reached : (step cfg w op).db.actions.get id = some row)
    (level : row.level.autoApprovable = false) (started : underWay row.status = true) :
    HumanApproved (step cfg w op).db id := by
  obtain ⟨cycle, record, found, decided, operator, operation⟩ := approved
  obtain ⟨next, stored, moved⟩ := (step_effects cfg w op).approvals.old (id, cycle) record found
  cases moved with
  | kept => exact ⟨cycle, record, stored, decided, operator, operation⟩
  | closed undecided =>
    rw [undecided] at decided
    cases decided
  | @evaluated p manifest cap clock evaluation next cause held same written =>
    have remembered : Remembered (Lifecycle.step cfg w op).db id evaluation.snapshot := by
      rw [show id = evaluation.action from same.symm]
      exact (sound.evaluations p evaluation held).stored.step
    obtain ⟨_, there, identical⟩ := remembered
    obtain rfl := Option.mem_unique reached there
    rw [of_identity ActionRow.level identical fun _ => rfl] at level
    rw [written row reached, evaluateAction_gated level] at started
    cases started
  | reviewed written =>
    rw [written row reached] at started
    cases started

/-- The invariant: what needs a human is under way only with one's approval. -/
def HumanGate (w : World) : Prop :=
  ∀ id row, w.db.actions.get id = some row → needsHuman row = true →
    underWay row.status = true → HumanApproved w.db id

theorem ActionBorn.pending (born : ActionBorn w op id row) (needed : needsHuman row = true) :
    row.status = .pending := by
  cases born with
  | planned => rfl
  | rollback =>
    simp only [needsHuman, Rollback.rollbackRow, Rollback.rollbackInitialStatus, Bool.and_eq_true]
      at needed ⊢
    split
    · rfl
    · rename_i inline
      rw [if_neg inline] at needed
      cases needed.2
  | _ => cases needed

theorem step_humanGate (cfg : Settings) (w : World) (op : Op) (sound : Sound w)
    (guarded : HumanGate w) : HumanGate (step cfg w op) := by
  intro id next reached needed started
  obtain ⟨row, found, moved⟩ | ⟨-, born⟩ := (step_effects cfg w op).actions.row_after reached
  · have same : needsHuman next = needsHuman row := (congrArg needsHuman moved.identity :)
    obtain ⟨gated, level⟩ := needsHuman_gated (same ▸ needed)
    obtain before | approved := moved.underWay sound found gated level started
    · exact (guarded id row found (same ▸ needed) before).step sound reached
        (needsHuman_gated needed).2 started
    · exact approved
  · rw [born.pending needed] at started
    cases started

/-! ### Who needs a human -/

/-- The action came from the planner or from an automated rollback. -/
def Produced (w : World) (id : ActionId) : Prop :=
  id ∈ w.planned ∨ id ∈ w.compensations

/-- What they produce is stored, and needs a human from level `l2` on. -/
def ProducedGated (w : World) : Prop :=
  ∀ id, Produced w id → ∃ row, w.db.actions.get id = some row
    ∧ (row.level.autoApprovable = false → needsHuman row = true)

theorem step_producedGated (cfg : Settings) (w : World) (op : Op)
    (gated : ProducedGated w) : ProducedGated (step cfg w op) := by
  have older : ∀ {id}, Produced w id → ∃ row,
      (step cfg w op).db.actions.get id = some row
        ∧ (row.level.autoApprovable = false → needsHuman row = true) := by
    intro id produced
    obtain ⟨row, found, needed⟩ := gated id produced
    obtain ⟨next, reached, moved⟩ := (step_effects cfg w op).actions.old id row found
    refine ⟨next, reached, ?_⟩
    rw [of_identity ActionRow.level moved.identity fun _ => rfl,
      of_identity needsHuman moved.identity fun _ => rfl]
    exact needed
  rintro id (planned | compensation)
  · obtain before | ⟨_, _, _, _, reached⟩ :=
      (step_transition cfg w op).planned _ planned
    · exact older (.inl before)
    · refine ⟨_, reached, fun level => ?_⟩
      simp only [needsHuman] at level ⊢
      rw [level]
      rfl
  obtain before | ⟨_, _, _, _, _, _, checked, reached⟩ :=
    (step_transition cfg w op).compensations _ compensation
  · exact older (.inr before)
  refine ⟨_, reached, fun level => ?_⟩
  have initial := Rollback.rollbackInitialStatus_automated
    (Rollback.preCheckRollbackable_tool checked) level
  simp only [needsHuman, Rollback.rollbackRow, initial] at level ⊢
  rw [level]
  rfl

end

/-! ### Every schedule -/

theorem actionLevelRank_gated {level : ActionLevel} (high : 2 ≤ Approval.actionLevelRank level) :
    level.autoApprovable = false := by
  cases level <;> first | rfl | simp [Approval.actionLevelRank] at high

variable (cfg : Settings) (around : Surroundings) (ops : List Op)

theorem run_humanGate : HumanGate (run (step cfg) (World.initial around) ops) :=
  (run_invariant_of_step (fun w => Sound w ∧ HumanGate w)
    (fun w op both => ⟨step_sound cfg w op both.1, step_humanGate cfg w op both.1 both.2⟩)
    ⟨initial_sound .., fun _ _ found => by cases found⟩ ops).2

theorem initial_producedGated : ProducedGated (World.initial around) := by
  rintro id (planned | compensation)
  · cases planned
  · cases compensation

/-- **Human in the loop.** In every run, an action of level `l2` or above that the response agent or
a Saga has produced is approved, executing or successful only with a decided record in which a
principal has approved it. -/
theorem human_in_the_loop {id : ActionId} {row : ActionRow}
    (produced : Produced (run (step cfg) (World.initial around) ops) id)
    (found : (run (step cfg) (World.initial around) ops).db.actions.get id = some row)
    (level : 2 ≤ Approval.actionLevelRank row.level)
    (status : row.status = .approved ∨ row.status = .executing ∨ row.status = .success) :
    HumanApproved (run (step cfg) (World.initial around) ops).db id := by
  have started : underWay row.status = true := by
    obtain approved | executing | success := status
    · rw [approved]
      rfl
    · rw [executing]
      rfl
    · rw [success]
      rfl
  have gated := run_invariant_of_step ProducedGated
    (step_producedGated cfg) (initial_producedGated around) ops
  obtain ⟨_, there, needed⟩ := gated id produced
  obtain rfl := Option.mem_unique found there
  exact run_humanGate _ _ _ id row found (needed (actionLevelRank_gated level)) started

/-- Action 1 blocks an address (`l2`); the engine asks for approval and principal 9 gives it. -/
def sampleDecision : List Op :=
  [.plan 1 1 1 (sampleCandidate .blockIp) 0, .evaluate 0 1 0,
    .persistEvaluation 0 (sampleManifest .blockIp) none { now := 0, timeout := 60 },
    .decide 1 (sampleManifest .blockIp) true
      { operation := .approve, principal := 9, decisionId := none, payloadHash := 0 } 1]

def sampleBlocking : ActionRow :=
  { Planning.materializeAction 1 1 (sampleCandidate .blockIp) 0 with
    status := .executing, executionJobId := some 1, updatedAt := 1 }

theorem human_in_the_loop_blockIp :
    HumanApproved (run (step (sampleSettings 3)) (World.initial {})
      (sampleDecision ++ sampleCall)).db 1 := by
  have found : (run (step (sampleSettings 3)) (World.initial {})
      (sampleDecision ++ sampleCall)).db.actions.get 1 = some sampleBlocking := by decide
  exact human_in_the_loop (sampleSettings 3) {} (sampleDecision ++ sampleCall)
    (.inl (by decide)) found (by decide) (.inr (.inl rfl))

end ShadowTrace.Lifecycle
