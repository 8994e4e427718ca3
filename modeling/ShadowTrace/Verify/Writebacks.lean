/-
**Writeback verification** (`app/agents/verify_agent.py`, phase 2).

Once the terminal disposition is activated, the verify agent judges the writebacks: those of the
immediate actions that owe one, and the terminal one.
-/

import ShadowTrace.Closure.Activation
import ShadowTrace.Verify.Effects

namespace ShadowTrace.Verify

open Fallible

/-! ### Routing -/

inductive WritebackRoute
  | confirmed | recovery | manual
  deriving DecidableEq

structure Routing where
  route : WritebackRoute
  detail : EffectDetail

/-- One of three outcomes. -/
def writebackStatusRouting : WritebackStatus → Routing
  | .confirmed => ⟨.confirmed, .writebackConfirmed⟩
  | .pending => ⟨.recovery, .writebackPendingWaiting⟩
  | .sending => ⟨.recovery, .writebackSendingWaiting⟩
  | .accepted => ⟨.recovery, .writebackAcceptedWaiting⟩
  | .unknown => ⟨.recovery, .writebackUnknownRequiresLookup⟩
  | .partialDone => ⟨.recovery, .writebackPartialRecovery⟩
  | .failed => ⟨.recovery, .writebackFailedRecovery⟩
  | .conflict => ⟨.manual, .writebackConflictManual⟩

def weakRecovery : Routing := ⟨.recovery, .writebackConfirmedWeakEvidence⟩

section

variable (db : Db) (dispositionIsMock : Bool) (loaded now : Db) (action : PlanAction)

/-- A confirmation with weak evidence is demoted. -/
def adjustRoutingForWeakEvidence (routing : Routing) (evidence : Option ConfirmationEvidence) :
    Routing :=
  if routing.route ≠ .confirmed then routing
  else if dispositionIsMock then
    if evidence = some .adapterAcknowledged then weakRecovery else routing
  else if evidence.any fun tier => tier ∈ strongConfirmationEvidence then routing
  else weakRecovery

/-- The evidence a confirmation is accepted with: strong outside the mock mode; in the mock mode
anything but the mere acknowledgement of the adapter. -/
def EvidenceAccepted (evidence : Option ConfirmationEvidence) : Prop :=
  (dispositionIsMock = true → evidence ≠ some .adapterAcknowledged)
    ∧ (dispositionIsMock = false → ∃ tier ∈ strongConfirmationEvidence, evidence = some tier)

theorem adjustRoutingForWeakEvidence_confirmed {dispositionIsMock : Bool} {routing : Routing}
    {evidence : Option ConfirmationEvidence}
    (confirmed : (adjustRoutingForWeakEvidence dispositionIsMock routing evidence).route
      = .confirmed) :
    routing.route = .confirmed ∧ EvidenceAccepted dispositionIsMock evidence := by
  unfold adjustRoutingForWeakEvidence at confirmed
  split_ifs at confirmed with other mock weak strong
  · exact absurd confirmed other
  · cases confirmed
  · exact ⟨confirmed, fun _ => weak, fun real => absurd mock (by simp [real])⟩
  · cases evidence with
    | none => cases strong
    | some tier =>
      exact ⟨confirmed, fun isMock => absurd isMock mock,
        fun _ => ⟨tier, of_decide_eq_true strong, rfl⟩⟩
  · cases confirmed

theorem writebackStatusRouting_confirmed {status : WritebackStatus}
    (confirmed : (writebackStatusRouting status).route = .confirmed) : status = .confirmed := by
  cases status with
  | confirmed => rfl
  | _ => cases confirmed

/-! ### The writeback of one action -/

def outboxMap (id : ActionId) : List (OutboxId × OutboxRow) :=
  db.outboxes.rows.filter fun entry => entry.2.actionId == id

def collectWritebackIds (id : ActionId) : List OutboxId := (outboxMap db id).map Prod.fst

/-- The latest receipt of the *first* outbox that has one; the other outboxes are not read. -/
def resolveEffectiveWritebackStatus (ids : List OutboxId) :
    Option WritebackStatus × Option ConfirmationEvidence :=
  match ids.findSome? (Sync.latestReceipt db) with
  | some receipt => (some receipt.status, receipt.confirmationEvidence)
  | none => (action.row.writebackStatus, none)

def verifyUnknownMaxLookups : Nat := 3

/-- The route of an effective status, before the evidence is looked at. -/
def statusRouting (outboxes : List (OutboxId × OutboxRow)) : Option WritebackStatus → Routing
  | none =>
    if outboxes.isEmpty then ⟨.recovery, .writebackNotYetDispatched⟩
    else ⟨.recovery, .writebackNoStatusWaiting⟩
  | some .unknown =>
    -- each lookup is a delivery attempt of one of the outboxes
    if outboxes.any fun entry => decide (verifyUnknownMaxLookups ≤ entry.2.attempt) then
      ⟨.manual, .writebackUnknownExhaustedLookupsManual⟩
    else ⟨.recovery, .writebackUnknownRequiresLookup⟩
  | some status => writebackStatusRouting status

theorem statusRouting_confirmed {outboxes : List (OutboxId × OutboxRow)}
    {status : Option WritebackStatus}
    (confirmed : (statusRouting outboxes status).route = .confirmed) :
    status = some .confirmed := by
  unfold statusRouting at confirmed
  split at confirmed
  · split_ifs at confirmed
  · split_ifs at confirmed
  · rw [writebackStatusRouting_confirmed confirmed]

inductive WritebackOutcome
  | settled | blocked | recovery
  deriving DecidableEq

def WritebackRoute.outcome : WritebackRoute → WritebackOutcome
  | .confirmed => .settled
  | .manual => .blocked
  | .recovery => .recovery

theorem WritebackRoute.outcome_settled {route : WritebackRoute}
    (settled : route.outcome = .settled) : route = .confirmed := by
  cases route with
  | confirmed => rfl
  | recovery | manual => cases settled

def owesWriteback : Bool :=
  (action.row.category == .response || action.row.category == .rollback)
    && action.row.writebackRequired && action.row.supersededByRevision.isNone
    && action.row.status != .rejected && action.row.executionPhase != .postVerify

def dispositionReport (ids : List OutboxId) (status : EffectStatus) (readiness : WritebackReadiness)
    (detail : EffectDetail) : ActionReport :=
  { actionId := action.id, effectStatus := status, writebackRequired := true
    writebackReadiness := readiness, writebackIds := ids, detail := detail
    verificationPhase := .disposition }

/-- One round of the loop of `_evaluate_writeback_statuses`. The outboxes were loaded at the start
of the run; the receipts are read now. -/
def evaluateWriteback : Except RunError (VerificationActionResult × WritebackOutcome) :=
  let readiness := action.row.writebackReadiness
  let ids := collectWritebackIds loaded action.id
  let effective := resolveEffectiveWritebackStatus now action ids
  if !action.row.writebackApplicable then
    (dispositionReport action ids .skipped .notRequired .writebackNotApplicable).build.map
      fun item => (item, .settled)
  else if readiness ≠ .ready then
    (dispositionReport action ids .skipped readiness (.writebackBlocked readiness)).build.map
      fun item => (item, .blocked)
  else
    let routing := adjustRoutingForWeakEvidence dispositionIsMock
      (statusRouting (outboxMap loaded action.id) effective.1) effective.2
    ({ dispositionReport action ids (if routing.route = .confirmed then .verified
          else .unverifiable) readiness routing.detail with
        writebackStatus := effective.1
        confirmationEvidence := effective.2 } : ActionReport).build.map
      fun item => (item, routing.route.outcome)

/-! ### The loop -/

structure WritebackEvaluation where
  results : List VerificationActionResult := []
  recoverable : List OutboxId := []
  pendingActionIds : List ActionId := []
  blocked : List BlockedRef := []
  needRecovery : Bool := false
  needManual : Bool := false

/-- What one round adds; `_track_writeback_recovery_targets` sorts what has to be recovered. -/
def WritebackEvaluation.add (evaluation : WritebackEvaluation) (item : VerificationActionResult)
    (outcome : WritebackOutcome) : WritebackEvaluation where
  results := evaluation.results ++ [item]
  recoverable := if outcome = .recovery then evaluation.recoverable ∪ item.writebackIds
    else evaluation.recoverable
  pendingActionIds := if outcome = .recovery ∧ item.writebackIds = [] then
      evaluation.pendingActionIds.insert item.actionId
    else evaluation.pendingActionIds
  blocked := if outcome = .blocked then evaluation.blocked.insert (.action item.actionId)
    else evaluation.blocked
  needRecovery := evaluation.needRecovery || outcome == .recovery
  needManual := evaluation.needManual || outcome == .blocked

def evaluateWritebackStep (evaluation : WritebackEvaluation) (action : PlanAction) :
    Except RunError WritebackEvaluation :=
  (evaluateWriteback dispositionIsMock loaded now action).map fun outcome =>
    evaluation.add outcome.1 outcome.2

def evaluateWritebackStatuses (actions : List PlanAction) : Except RunError WritebackEvaluation :=
  (actions.filter owesWriteback).foldlM (evaluateWritebackStep dispositionIsMock loaded now) {}

/-! ### The terminal writeback -/

structure TerminalEvaluation where
  recoverable : List OutboxId := []
  blocked : List BlockedRef := []
  needRecovery : Bool := false
  needManual : Bool := false

/-- What blocks an activation: the deferred action, or else the writeback. -/
def blockedRef (answer : Closure.ActivationResult) : List BlockedRef :=
  match answer.actionId, answer.writebackId with
  | some id, _ => [.action id]
  | none, some key => [.writeback key]
  | none, none => []

def TerminalEvaluation.ofRoute (key : OutboxId) : WritebackRoute → TerminalEvaluation
  | .confirmed => {}
  | .manual => { blocked := [.writeback key], needManual := true }
  | .recovery => { recoverable := [key], needRecovery := true }

theorem TerminalEvaluation.ofRoute_settled {key : OutboxId} {route : WritebackRoute}
    (recovery : (ofRoute key route).needRecovery = false)
    (manual : (ofRoute key route).needManual = false) : route = .confirmed := by
  cases route with
  | confirmed => rfl
  | recovery => cases recovery
  | manual => cases manual

def evaluateTerminalWritebackStatus (now : Db) (readRaises : Bool)
    (answer : Closure.ActivationResult) : TerminalEvaluation :=
  match answer.writebackId with
  | none => if answer.activated then { blocked := blockedRef answer, needManual := true } else {}
  | some key =>
    if readRaises then { blocked := [.writeback key], needManual := true }
    else match Sync.latestReceipt now key with
      | none => { recoverable := [key], needRecovery := true }
      | some receipt =>
        .ofRoute key (adjustRoutingForWeakEvidence dispositionIsMock
          (writebackStatusRouting receipt.status) receipt.confirmationEvidence).route

/-! ### What settled evaluations say -/

/-- The receipt is confirmed on evidence strong enough. -/
structure Confirms (receipt : Receipt) : Prop where
  status : receipt.status = .confirmed
  evidence : EvidenceAccepted dispositionIsMock receipt.confirmationEvidence

structure WritebackSettled : Prop where
  ready : action.row.writebackReadiness = .ready
  receipts : (outboxMap loaded action.id).length ≤ 1 → ∀ key ∈ collectWritebackIds loaded action.id,
    ∀ receipt, Sync.latestReceipt now key = some receipt → Confirms dispositionIsMock receipt
  real : dispositionIsMock = false → ∃ key ∈ collectWritebackIds loaded action.id,
    ∃ receipt, Sync.latestReceipt now key = some receipt ∧ Confirms dispositionIsMock receipt
  unreceipted : (∀ key ∈ collectWritebackIds loaded action.id, Sync.latestReceipt now key = none) →
    action.row.writebackStatus = some .confirmed

end

section Settled

variable {dispositionIsMock : Bool} {loaded now : Db} {action : PlanAction}
  {item : VerificationActionResult}

theorem resolveEffectiveWritebackStatus_settled
    (ready : action.row.writebackReadiness = .ready)
    (confirmed : (resolveEffectiveWritebackStatus now action
      (collectWritebackIds loaded action.id)).1 = some .confirmed)
    (accepted : EvidenceAccepted dispositionIsMock (resolveEffectiveWritebackStatus now action
      (collectWritebackIds loaded action.id)).2) :
    WritebackSettled dispositionIsMock loaded now action := by
  unfold resolveEffectiveWritebackStatus at confirmed accepted
  split at confirmed
  · rename_i receipt found
    rw [found] at accepted
    have confirms : Confirms dispositionIsMock receipt := ⟨Option.some.inj confirmed, accepted⟩
    obtain ⟨key, mem, latest⟩ := List.exists_of_findSome?_eq_some found
    refine ⟨ready, ?_, fun _ => ⟨key, mem, receipt, latest, confirms⟩, ?_⟩
    · -- with one outbox at most, the first with a receipt is the only one
      intro single other otherMember _ otherLatest
      have short : (collectWritebackIds loaded action.id).length ≤ 1 := by
        rw [collectWritebackIds, List.length_map]
        exact single
      obtain ⟨only, listed⟩ := List.length_eq_one_iff.mp
        (short.antisymm (List.length_pos_of_mem mem))
      rw [listed, List.mem_singleton] at mem otherMember
      rw [otherMember, ← mem, latest] at otherLatest
      cases otherLatest
      exact confirms
    · intro none
      rw [none key mem] at latest
      cases latest
  · rename_i absent
    rw [absent] at accepted
    have none : ∀ key ∈ collectWritebackIds loaded action.id, Sync.latestReceipt now key = none :=
      List.findSome?_eq_none_iff.mp absent
    refine ⟨ready, ?_, ?_, fun _ => confirmed⟩
    · intro _ key mem _ latest
      rw [none key mem] at latest
      cases latest
    · intro real
      obtain ⟨tier, -, impossible⟩ := accepted.2 real
      cases impossible

/-- **What a round that asks for nothing says about its action.** -/
theorem evaluateWriteback_settled (applicable : action.row.writebackApplicable = true)
    (done : evaluateWriteback dispositionIsMock loaded now action = .ok (item, .settled)) :
    WritebackSettled dispositionIsMock loaded now action := by
  unfold evaluateWriteback at done
  rw [if_neg (by simp [applicable])] at done
  split at done
  · obtain ⟨built, -, same⟩ := map_eq_ok.mp done
    cases (Prod.mk.inj same).2
  rename_i ready
  obtain ⟨built, -, same⟩ := map_eq_ok.mp done
  have settled := (Prod.mk.inj same).2
  have confirmed : (adjustRoutingForWeakEvidence dispositionIsMock
      (statusRouting (outboxMap loaded action.id) (resolveEffectiveWritebackStatus now action
        (collectWritebackIds loaded action.id)).1)
      (resolveEffectiveWritebackStatus now action
        (collectWritebackIds loaded action.id)).2).route = .confirmed :=
    WritebackRoute.outcome_settled settled
  obtain ⟨routed, accepted⟩ := adjustRoutingForWeakEvidence_confirmed confirmed
  exact resolveEffectiveWritebackStatus_settled (not_not.mp ready)
    (statusRouting_confirmed routed) accepted

/-- **The loop settles every writeback that is owed**, if it asks for nothing. -/
theorem evaluateWritebackStatuses_settled {actions : List PlanAction}
    {evaluation : WritebackEvaluation}
    (done : evaluateWritebackStatuses dispositionIsMock loaded now actions = .ok evaluation)
    (recovery : evaluation.needRecovery = false) (manual : evaluation.needManual = false)
    (mem : action ∈ actions) (owes : owesWriteback action = true)
    (applicable : action.row.writebackApplicable = true) :
    WritebackSettled dispositionIsMock loaded now action := by
  have marked := foldlM_marks (fun action (evaluation : WritebackEvaluation) =>
      ∃ item outcome, evaluateWriteback dispositionIsMock loaded now action = .ok (item, outcome)
        ∧ (outcome = .recovery → evaluation.needRecovery = true)
        ∧ (outcome = .blocked → evaluation.needManual = true))
    (by
      intro _ _ _ stepped
      obtain ⟨outcome, evaluated, rfl⟩ := map_eq_ok.mp stepped
      refine ⟨outcome.1, outcome.2, evaluated, ?_, ?_⟩ <;>
        simp +contextual [WritebackEvaluation.add])
    (by
      rintro _ _ _ _ stepped ⟨item, outcome, evaluated, recovers, blocks⟩
      obtain ⟨-, -, rfl⟩ := map_eq_ok.mp stepped
      refine ⟨item, outcome, evaluated, ?_, ?_⟩ <;>
        simp +contextual [WritebackEvaluation.add, recovers, blocks])
    done action (List.mem_filter.mpr ⟨mem, owes⟩)
  obtain ⟨_, outcome, evaluated, recovers, blocks⟩ := marked
  cases outcome with
  | settled => exact evaluateWriteback_settled applicable evaluated
  | recovery => exact absurd (recovers rfl) (by simp [recovery])
  | blocked => exact absurd (blocks rfl) (by simp [manual])

theorem evaluateTerminalWritebackStatus_settled {readRaises : Bool}
    {answer : Closure.ActivationResult} {key : OutboxId} (named : answer.writebackId = some key)
    (recovery : (evaluateTerminalWritebackStatus dispositionIsMock now readRaises
      answer).needRecovery = false)
    (manual : (evaluateTerminalWritebackStatus dispositionIsMock now readRaises
      answer).needManual = false) :
    ∃ receipt, Sync.latestReceipt now key = some receipt ∧ Confirms dispositionIsMock receipt := by
  unfold evaluateTerminalWritebackStatus at recovery manual
  rw [named] at recovery manual
  dsimp only at recovery manual
  split at recovery
  · rename_i raises
    rw [if_pos raises] at manual
    cases manual
  rename_i reads
  rw [if_neg reads] at manual
  cases latest : Sync.latestReceipt now key with
  | none =>
    rw [latest] at recovery
    cases recovery
  | some receipt =>
    rw [latest] at recovery manual
    have confirmed := TerminalEvaluation.ofRoute_settled recovery manual
    obtain ⟨routed, accepted⟩ := adjustRoutingForWeakEvidence_confirmed confirmed
    exact ⟨receipt, rfl, writebackStatusRouting_confirmed routed, accepted⟩

end Settled

end ShadowTrace.Verify
