/-
**Approvability.**

An action that the evaluation hands to a human should be approvable by that human. The decision runs
the hard gates again, and every gate blocks it, also one that asked for the human
(`approvable_iff`).
-/

import ShadowTrace.Approval.Deciders

namespace ShadowTrace.Approval

open Relational Fallible

section

variable (db : Db) (id : ActionId) (row : ActionRow)

/-- `evaluate`: the record of the cycle answers if there is one, else the decision is persisted. -/
def evaluate (manifest : Manifest) (maxAutoLevel : Option ActionLevel) (cycle : Nat)
    (clock : Clock) : Except TransitionError (ApprovalDecisionKind × Db) :=
  match db.approvals.get (id, cycle) with
  | some record => .ok (record.decision, db)
  | none => do
    let decision := (evaluateAction row manifest maxAutoLevel).decision
    let evaluated ← persistEvaluation db id row cycle decision clock
    return (decision, evaluated)

/-- The action waits for a human. -/
structure Awaits : Prop where
  waiting : row.status = .waitingApproval
  gated : row.category.humanGated = true
  record : ∃ cycle record, db.approvals.get (id, cycle) = some record ∧ record.decidedAt = none

/-- The decision id of the request is its own. -/
def Unused (request : DecisionRequest) : Prop :=
  ∀ used, request.decisionId = some used → ∀ key record, db.approvals.get key = some record →
    record.decisionId ≠ some used

end

variable {db : Db} {id : ActionId} {row : ActionRow} {manifest : Manifest}
  {request : DecisionRequest} {now : Time} {category : ActionCategory} {status : ActionStatus}

theorem pendingRecord_isSome {cycle : Nat} {record : ApprovalRow}
    (stored : db.approvals.get (id, cycle) = some record) (open_ : record.decidedAt = none) :
    (pendingRecord db id).isSome = true := by
  obtain ⟨front, back, rows⟩ := List.append_of_mem (Table.mem_rows.mpr stored)
  rw [pendingRecord, rows, List.foldl_append, List.foldl_cons]
  -- from the record on there is a best one
  refine List.foldlRecOn (motive := fun best : Option _ => best.isSome = true) back _ ?_ ?_
  · generalize front.foldl _ none = best
    split
    · rfl
    · rename_i worse
      cases best with
      | none => exact absurd ⟨rfl, open_, rfl⟩ worse
      | some => rfl
  · intro best holds _ _
    split
    · rfl
    · exact holds

theorem gated_of_edge {target : ActionStatus}
    (edge : target ∈ actionStatusTransitions category status)
    (reviewed : target = .waitingApproval ∨ target = .approved) : category.humanGated = true := by
  revert edge
  obtain rfl | rfl := reviewed <;> cases category <;> cases status <;> decide

theorem approve_iff (found : db.actions.get id = some row) (unused : Unused db request)
    (approves : request.operation = .approve) :
    (∃ after, decide db id manifest true request now = .ok after
        ∧ (after.actions.get id).map ActionRow.status = some .approved)
      ↔ evaluateHardGates row manifest = none ∧ Awaits db id row := by
  have unplayed : replayedRecord db request.decisionId = none := by
    cases used : request.decisionId with
    | none => rfl
    | some =>
      refine List.find?_eq_none.mpr fun entry mem => ?_
      simp [unused _ used _ _ (Table.mem_rows.mp mem)]
  have free : decisionIdTaken db id request.decisionId = false := by
    cases used : request.decisionId with
    | none => rfl
    | some =>
      refine List.any_eq_false.mpr fun entry mem => ?_
      simp [unused _ used _ _ (Table.mem_rows.mp mem)]
  simp only [decide, found, unplayed]
  constructor
  · rintro ⟨after, done, -⟩
    obtain ⟨cycle, record, pending, waiting, legal, -⟩ := applyDecision_eq_ok done
    rw [approves, waiting] at legal
    refine ⟨?_, waiting, gated_of_edge (validateAction_eq_ok.mp legal).edge (.inr rfl), cycle,
      record, pendingRecord_eq_some pending⟩
    cases gate : evaluateHardGates row manifest with
    | none => rfl
    | some => simp [applyDecision, decisionGate, approves, gate] at done
  · rintro ⟨gates, waiting, gated, _, _, stored, open_⟩
    obtain ⟨⟨cycle, record⟩, pending⟩ :=
      Option.isSome_iff_exists.mp (pendingRecord_isSome stored open_)
    have legal : validateActionStatusTransition row.category .waitingApproval .approved
        { executionPhase := row.executionPhase, actionLevel := row.level
          hasApprovalEvidence := true } = .ok () :=
      validateAction_eq_ok.mpr
        ⟨gated_edge gated (by decide) (by simp), fun _ _ => .inr rfl, by simp, by simp, by simp⟩
    simp only [applyDecision, decisionGate, approves, gates, waiting, pending, free, storeDecision,
      ApprovalOperation.target, legal]
    simp [Db.putAction, ActionRow.moveTo]

/-- **What a human can approve.** An action that `evaluate` left to a human is approved by its own
decision exactly when no hard gate is closed, and, if an earlier record answered, the action still
waits. -/
theorem approvable_iff (db : Db) (id : ActionId) (row : ActionRow) (manifest : Manifest)
    (maxAutoLevel : Option ActionLevel) (cycle : Nat) (clock : Clock) (evaluated : Db)
    (request : DecisionRequest) (now : Time) (found : db.actions.get id = some row)
    (asked : evaluate db id row manifest maxAutoLevel cycle clock
      = .ok (.requireApproval, evaluated))
    (unused : Unused db request) (approves : request.operation = .approve) :
    (∃ after, decide evaluated id manifest true request now = .ok after
        ∧ (after.actions.get id).map ActionRow.status = some .approved)
      ↔ evaluateHardGates row manifest = none
        ∧ ((db.approvals.get (id, cycle)).isSome = true → Awaits db id row) := by
  unfold evaluate at asked
  cases stored : db.approvals.get (id, cycle) with
  | some record =>
    rw [stored] at asked
    obtain ⟨-, rfl⟩ := Prod.mk.inj (Except.ok.inj asked)
    rw [approve_iff found unused approves]
    simp
  | none =>
    rw [stored] at asked
    obtain ⟨written, persisted, both⟩ := bind_eq_ok.mp asked
    obtain ⟨decided, rfl⟩ := Prod.mk.inj (pure_eq_ok.mp both)
    rw [decided] at persisted
    obtain ⟨legal, same⟩ := setActionStatus_eq_ok persisted
    simp only [upsertRecord, stored] at same
    have moved : written.actions.get id = some (row.moveTo .waitingApproval clock.now) := by
      rw [same, Table.get_modify, if_pos rfl, found]
      rfl
    have waits : Awaits written id (row.moveTo .waitingApproval clock.now) := by
      refine ⟨rfl, gated_of_edge (validateAction_eq_ok.mp legal).edge (.inl rfl), cycle,
        newRecord .requireApproval clock, ?_, rfl⟩
      rw [same]
      exact Table.get_set_self
    have still : Unused written request := by
      intro used asks key record there
      rw [same, Table.get_set] at there
      split_ifs at there
      · cases there
        exact (Option.some_ne_none used).symm
      · exact unused used asks key record there
    rw [approve_iff moved still approves]
    exact and_congr Iff.rfl (iff_of_true waits (by simp))

/-- The sample action as the planner leaves it. -/
def sampleUnevaluated (readiness : WritebackReadiness) : Db :=
  { sampleRequested with
    actions := .set .empty 1
      { sampleWaiting 1 1 with status := .pending, writebackReadiness := readiness }
    approvals := .empty }

def sampleApproval : DecisionRequest where
  operation := .approve
  principal := 7
  decisionId := none
  payloadHash := 0

theorem approvable_iff_ready : ∃ evaluated after,
    evaluate (sampleUnevaluated .ready) 1 { sampleWaiting 1 1 with status := .pending }
        sampleProvider none 1 ⟨0, 60⟩ = .ok (.requireApproval, evaluated)
      ∧ decide evaluated 1 sampleProvider true sampleApproval 61 = .ok after
      ∧ (after.actions.get 1).map ActionRow.status = some .approved := by
  obtain ⟨after, approved⟩ := (approvable_iff (sampleUnevaluated .ready) 1
    { sampleWaiting 1 1 with status := .pending } sampleProvider none 1 ⟨0, 60⟩ _ sampleApproval 61
    rfl rfl nofun rfl).mpr ⟨rfl, nofun⟩
  exact ⟨_, after, rfl, approved⟩

/-- **A gate that asks for a human and refuses them.** The connector cannot be reached: the
evaluation requires an approval for that reason, and the approval is blocked for that reason. -/
theorem approvable_blocked : ∃ evaluated,
    evaluate (sampleUnevaluated .connectorUnavailable) 1
        { sampleWaiting 1 1 with status := .pending, writebackReadiness := .connectorUnavailable }
        sampleProvider none 1 ⟨0, 60⟩ = .ok (.requireApproval, evaluated)
      ∧ decide evaluated 1 sampleProvider true sampleApproval 61
        = .error (.gateBlocked .sourceOrCapabilityGate) :=
  ⟨_, rfl, rfl⟩

end ShadowTrace.Approval
