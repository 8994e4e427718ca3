/-
**Event transitions and the gate in front of `CLOSED`** (`app/models/workflow.py`).

The errors carry the details of the source; the first check that raises decides.
-/

import ShadowTrace.Lib.Fallible
import ShadowTrace.Models.Verification

namespace ShadowTrace

open Fallible

/-! ### The transition matrix -/

def stateTransitions : EventStatus → List EventStatus
  | .new => [.triaging, .failed]
  | .triaging => [.collectingEvidence, .closed, .planningResponse, .failed]
  | .collectingEvidence => [.analyzing, .failed]
  | .analyzing => [.scoring, .failed]
  | .scoring => [.planningResponse, .reporting, .failed]
  | .planningResponse => [.waitingApproval, .executingResponse, .failed]
  | .waitingApproval => [.executingResponse, .reporting, .failed]
  | .executingResponse => [.verifying, .failed]
  | .verifying => [.reporting, .contained, .replanning, .failed]
  | .replanning => [.collectingEvidence, .planningResponse, .executingResponse, .contained, .failed]
  | .contained => [.reporting, .failed]
  | .failed => [.reporting]
  | .reporting => [.closed, .failed]
  | .closed => []

def verdictStatusRules : FinalVerdict → List EventStatus
  | .falsePositive => [.planningResponse, .waitingApproval, .executingResponse, .verifying]
  | _ => []

/-! ### Projections -/

inductive SideEffectScope
  | gateApplicable | backgroundDetached
  deriving DecidableEq

inductive SideEffectConvergencePolicy
  | terminalWriteback | independentEntityEffect | executionJobOnly

inductive SideEffectConvergenceReason
  | inFlightJob | executingAction | effectUnverified | terminalWritebackUnconfirmed
  | outboxNotConfirmed | outboxUndelivered

structure OutstandingSideEffectView where
  actionId : ActionId
  scope : SideEffectScope
  convergencePolicy : SideEffectConvergencePolicy
  blockingReason : SideEffectConvergenceReason

structure SideEffectConvergenceSummary where
  outstandingActions : List OutstandingSideEffectView

structure ClosedGateActionView where
  actionId : ActionId
  actionCategory : ActionCategory
  writebackRequired : Bool
  writebackApplicable : Bool
  writebackReadiness : WritebackReadiness
  writebackStatus : Option WritebackStatus
  hasCommand : Bool
  allRequiredIntentsConfirmed : Bool
  worstUnconfirmedOutboxStatus : Option WritebackStatus
  superseded : Bool
  rejected : Bool

structure TerminalEventWritebackView where
  actionId : ActionId
  writebackId : OutboxId
  dispositionId : DispositionId
  closureCycle : Nat
  intentKind : DispositionIntentKind
  approvedDisposition : SourceDisposition
  actualDisposition : SourceDisposition
  receiptStatus : WritebackStatus
  planRevision : Nat
  simulated : Option Bool
  confirmationEvidence : Option ConfirmationEvidence

/-- `recommendation` of the triage: the one value a gate reads, or another. -/
inductive Recommendation
  | closeAsFp
  | other (text : Nat)
  deriving DecidableEq

structure TransitionContext where
  finalVerdict : Option FinalVerdict
  needInvestigation : Option Bool
  dispositionOnlyIntent : Bool
  dispositionPolicy : Option DispositionPolicy
  severity : Option Severity
  recommendation : Option Recommendation
  responseActionsAreDispositionOnly : Option Bool
  hasEntitySideEffectActions : Bool
  reportExists : Bool
  forceClose : Bool
  applicableRequiredActions : List ClosedGateActionView
  terminalEventWriteback : Option TerminalEventWritebackView
  currentPlanRevision : Option Nat
  currentClosureCycle : Option Nat
  escalated : Bool
  dispositionIsMock : Bool
  sideEffectConvergence : Option SideEffectConvergenceSummary

/-! ### Errors -/

inductive WritebackCloseGateReason
  | noApplicable | readinessNotReady | noCommand | intentsNotConfirmed | statusNotConfirmed

structure WritebackCloseGateViolation where
  reason : WritebackCloseGateReason
  actionId : Option ActionId := none
  writebackReadiness : Option WritebackReadiness := none
  writebackStatus : Option WritebackStatus := none

inductive EventFlowError
  | closedTerminal (target : EventStatus)
  | illegalTransition (current target : EventStatus)
  | forceCloseNotAllowed (current target : EventStatus)
  | triagingClosedPolicy (policy : Option DispositionPolicy)
  | triagingClosedSignal (severity : Option Severity) (verdict : Option FinalVerdict)
      (recommendation : Option Recommendation)
  | dispositionOnlySignal (needInvestigation : Option Bool) (verdict : Option FinalVerdict)
      (recommendation : Option Recommendation)
  | dispositionOnlyIntentMissing
  | closedRequiresReport
  | closedRequiresPolicy
  | convergenceMissing
  | closedSideEffectsPending (view : OutstandingSideEffectView)
  | closedWriteback (violation : WritebackCloseGateViolation)
  | terminalMissing
  | terminalIntentKind (kind : DispositionIntentKind)
  | terminalPlanRevision (revision : Nat) (current : Option Nat)
  | terminalClosureCycle (cycle : Nat) (current : Option Nat)
  | approvedNotTerminal (approved : SourceDisposition)
  | actualNotTerminal (actual : SourceDisposition)
  | dispositionMismatch (approved actual : SourceDisposition)
  | receiptNotConfirmed (status : WritebackStatus)
  | closedSimulatedReceiptRejected (simulated : Option Bool)
  | closedWeakConfirmationEvidence (evidence : Option ConfirmationEvidence)
  | falsePositiveEntitySideEffects (status : EventStatus)
  | falsePositiveNotDispositionOnly (status : EventStatus)
  | illegalVerdictStatus (verdict : FinalVerdict) (status : EventStatus)

/-! ### The gate -/

def filterApplicableRequired (actions : List ClosedGateActionView) : List ClosedGateActionView :=
  actions.filter fun action => action.writebackRequired && action.writebackApplicable
    && (action.actionCategory == .response || action.actionCategory == .rollback)
    && !action.superseded && !action.rejected

def writebackViolation (action : ClosedGateActionView) : Option WritebackCloseGateViolation :=
  if action.writebackReadiness ≠ .ready then
    some { reason := .readinessNotReady, actionId := some action.actionId
           writebackReadiness := some action.writebackReadiness }
  else if !action.hasCommand then some { reason := .noCommand, actionId := some action.actionId }
  else if !action.allRequiredIntentsConfirmed then
    some { reason := .intentsNotConfirmed, actionId := some action.actionId
           writebackStatus := action.worstUnconfirmedOutboxStatus <|> action.writebackStatus }
  else if action.writebackStatus ≠ some .confirmed then
    some { reason := .statusNotConfirmed, actionId := some action.actionId
           writebackStatus := action.writebackStatus }
  else none

def checkRequiredWritebackCloseGate (actions : List ClosedGateActionView) :
    Option WritebackCloseGateViolation :=
  let applicable := filterApplicableRequired actions
  if applicable.isEmpty then some { reason := .noApplicable }
  else applicable.findSome? writebackViolation

def checkGateApplicableConvergence (summary : SideEffectConvergenceSummary) :
    Option OutstandingSideEffectView :=
  summary.outstandingActions.find? fun view => view.scope == .gateApplicable

def strongConfirmationEvidence : List ConfirmationEvidence := [.readbackVerified, .manualConfirmed]

def checkDispositionMatch (approved actual : SourceDisposition) : Except EventFlowError Unit := do
  check (decide (approved ∈ terminalSourceDispositions)) (.approvedNotTerminal approved)
  check (decide (actual ∈ terminalSourceDispositions)) (.actualNotTerminal actual)
  check (actual == approved) (.dispositionMismatch approved actual)

section

variable (ctx : TransitionContext)

def validateTerminalWriteback (terminal : TerminalEventWritebackView) :
    Except EventFlowError Unit := do
  check (terminal.intentKind == .eventStatusUpdate) (.terminalIntentKind terminal.intentKind)
  check (ctx.currentPlanRevision.all (terminal.planRevision == ·))
    (.terminalPlanRevision terminal.planRevision ctx.currentPlanRevision)
  check (ctx.currentClosureCycle.all (terminal.closureCycle == ·))
    (.terminalClosureCycle terminal.closureCycle ctx.currentClosureCycle)
  checkDispositionMatch terminal.approvedDisposition terminal.actualDisposition
  check (terminal.receiptStatus == .confirmed) (.receiptNotConfirmed terminal.receiptStatus)
  check (ctx.dispositionIsMock || terminal.simulated == some false)
    (.closedSimulatedReceiptRejected terminal.simulated)
  check (ctx.dispositionIsMock
      || terminal.confirmationEvidence.any fun evidence => evidence ∈ strongConfirmationEvidence)
    (.closedWeakConfirmationEvidence terminal.confirmationEvidence)

def refuse {α : Type} (found : Option α) (error : α → EventFlowError) :
    Except EventFlowError Unit :=
  match found with
  | none => .ok ()
  | some value => .error (error value)

def validateRequiredGate : Except EventFlowError Unit :=
  match ctx.sideEffectConvergence with
  | none => .error .convergenceMissing
  | some summary => do
    refuse (checkGateApplicableConvergence summary) .closedSideEffectsPending
    refuse (checkRequiredWritebackCloseGate ctx.applicableRequiredActions) .closedWriteback
    match ctx.terminalEventWriteback with
    | none => .error .terminalMissing
    | some terminal => validateTerminalWriteback ctx terminal

/-- Every way into `closed` passes here. -/
def validateClosedGate : Except EventFlowError Unit := do
  check ctx.reportExists .closedRequiresReport
  match ctx.dispositionPolicy with
  | some .notRequired => .ok ()
  | none => .error .closedRequiresPolicy
  | some .required => validateRequiredGate ctx

/-! ### The other validators -/

def isFpSignal : Bool :=
  ctx.finalVerdict == some .falsePositive || ctx.recommendation == some .closeAsFp

def validateTriagingToClosed : Except EventFlowError Unit := do
  check (ctx.dispositionPolicy == some .notRequired) (.triagingClosedPolicy ctx.dispositionPolicy)
  check (ctx.severity == some .low || isFpSignal ctx)
    (.triagingClosedSignal ctx.severity ctx.finalVerdict ctx.recommendation)

def validateTriagingToDispositionOnly : Except EventFlowError Unit := do
  check (isFpSignal ctx)
    (.dispositionOnlySignal ctx.needInvestigation ctx.finalVerdict ctx.recommendation)
  check ctx.dispositionOnlyIntent .dispositionOnlyIntentMissing

end

def validateVerdictStatus (verdict : FinalVerdict) (status : EventStatus)
    (ctx : TransitionContext) : Except EventFlowError Unit :=
  if status ∉ verdictStatusRules verdict then .ok ()
  else if verdict = .falsePositive ∧ ctx.dispositionOnlyIntent = true then
    if status = .planningResponse then .ok ()
    else if ctx.hasEntitySideEffectActions then .error (.falsePositiveEntitySideEffects status)
    else match ctx.responseActionsAreDispositionOnly with
      | some false => .error (.falsePositiveNotDispositionOnly status)
      | some true => .ok ()
      | none => .error (.illegalVerdictStatus verdict status)
  else .error (.illegalVerdictStatus verdict status)

def whenever (holds : Bool) (checks : Except EventFlowError Unit) : Except EventFlowError Unit :=
  if holds then checks else .ok ()

/-- Whether an event may move, given a context of business inputs and of projections of the
database. -/
def validateTransition (current target : EventStatus) (ctx : TransitionContext) :
    Except EventFlowError Unit := do
  check (current != .closed) (.closedTerminal target)
  check (decide (target ∈ stateTransitions current)) (.illegalTransition current target)
  check (!ctx.forceClose) (.forceCloseNotAllowed current target)
  whenever (current == .triaging && target == .closed) (validateTriagingToClosed ctx)
  whenever (current == .triaging && target == .planningResponse)
    (validateTriagingToDispositionOnly ctx)
  whenever (target == .closed) (validateClosedGate ctx)
  match ctx.finalVerdict with
  | none => .ok ()
  | some verdict => validateVerdictStatus verdict target ctx

/-! ### What the gate accepts -/

section

variable {ctx : TransitionContext}

structure TerminalHolds (ctx : TransitionContext) (terminal : TerminalEventWritebackView) :
    Prop where
  kind : terminal.intentKind = .eventStatusUpdate
  revision : ∀ current, ctx.currentPlanRevision = some current → terminal.planRevision = current
  cycle : ∀ current, ctx.currentClosureCycle = some current → terminal.closureCycle = current
  disposition : terminal.approvedDisposition ∈ terminalSourceDispositions
  actual : terminal.actualDisposition = terminal.approvedDisposition
  confirmed : terminal.receiptStatus = .confirmed
  real : ctx.dispositionIsMock = false → terminal.simulated = some false
  strong : ctx.dispositionIsMock = false → ∃ evidence,
    terminal.confirmationEvidence = some evidence ∧ evidence ∈ strongConfirmationEvidence

structure RequiredGate (ctx : TransitionContext) : Prop where
  report : ctx.reportExists = true
  converged : ∃ summary, ctx.sideEffectConvergence = some summary
    ∧ ∀ view ∈ summary.outstandingActions, view.scope ≠ .gateApplicable
  applicable : filterApplicableRequired ctx.applicableRequiredActions ≠ []
  written : ∀ action ∈ filterApplicableRequired ctx.applicableRequiredActions,
    action.writebackReadiness = .ready ∧ action.hasCommand = true
      ∧ action.allRequiredIntentsConfirmed = true ∧ action.writebackStatus = some .confirmed
  terminal : ∃ terminal, ctx.terminalEventWriteback = some terminal ∧ TerminalHolds ctx terminal

theorem refuse_eq_ok {α : Type} {found : Option α} {error : α → EventFlowError} :
    refuse found error = .ok () ↔ found = none := by
  cases found with
  | none | some => simp [refuse]

theorem checkDispositionMatch_eq_ok {approved actual : SourceDisposition} :
    checkDispositionMatch approved actual = .ok () ↔
      approved ∈ terminalSourceDispositions ∧ actual = approved := by
  simp only [checkDispositionMatch, check_bind, check_eq_ok, decide_eq_true_eq, beq_iff_eq]
  constructor
  · rintro ⟨terminal, -, same⟩
    exact ⟨terminal, same⟩
  · rintro ⟨terminal, rfl⟩
    exact ⟨terminal, terminal, rfl⟩

theorem validateTerminalWriteback_eq_ok {terminal : TerminalEventWritebackView} :
    validateTerminalWriteback ctx terminal = .ok () ↔ TerminalHolds ctx terminal := by
  simp only [validateTerminalWriteback, unit_bind, check_eq_ok, checkDispositionMatch_eq_ok,
    Option.all_eq_true, beq_iff_eq, Bool.or_eq_true, Option.any_eq_true, decide_eq_true_eq]
  constructor
  · rintro ⟨kind, revision, cycle, ⟨disposition, actual⟩, confirmed, real, strong⟩
    refine ⟨kind, revision, cycle, disposition, actual, confirmed, fun live => ?_, fun live => ?_⟩
    · simpa [live] using real
    · simpa [live] using strong
  rintro ⟨kind, revision, cycle, disposition, actual, confirmed, real, strong⟩
  refine ⟨kind, revision, cycle, ⟨disposition, actual⟩, confirmed, ?_, ?_⟩
  · cases mock : ctx.dispositionIsMock with
    | true => exact .inl rfl
    | false => exact .inr (real mock)
  · cases mock : ctx.dispositionIsMock with
    | true => exact .inl rfl
    | false => exact .inr (strong mock)

theorem writebackViolation_eq_none {action : ClosedGateActionView} :
    writebackViolation action = none ↔ action.writebackReadiness = .ready
      ∧ action.hasCommand = true ∧ action.allRequiredIntentsConfirmed = true
      ∧ action.writebackStatus = some .confirmed := by
  unfold writebackViolation
  split_ifs with unready missing open_ unconfirmed
  all_goals simp_all

theorem checkRequiredWritebackCloseGate_eq_none {actions : List ClosedGateActionView} :
    checkRequiredWritebackCloseGate actions = none ↔ filterApplicableRequired actions ≠ []
      ∧ ∀ action ∈ filterApplicableRequired actions, action.writebackReadiness = .ready
        ∧ action.hasCommand = true ∧ action.allRequiredIntentsConfirmed = true
        ∧ action.writebackStatus = some .confirmed := by
  simp only [← writebackViolation_eq_none, checkRequiredWritebackCloseGate]
  cases filterApplicableRequired actions with
  | nil => simp
  | cons => simp [List.findSome?_eq_none_iff]

theorem validateClosedGate_required (policy : ctx.dispositionPolicy = some .required) :
    validateClosedGate ctx = .ok () ↔ RequiredGate ctx := by
  simp only [validateClosedGate, policy, check_bind, validateRequiredGate]
  constructor
  · rintro ⟨report, accepted⟩
    cases summary : ctx.sideEffectConvergence with
    | none => simp [summary] at accepted
    | some outstanding =>
      simp only [summary, unit_bind, refuse_eq_ok] at accepted
      obtain ⟨converged, written, accepted⟩ := accepted
      obtain ⟨applicable, written⟩ := checkRequiredWritebackCloseGate_eq_none.mp written
      cases view : ctx.terminalEventWriteback with
      | none => simp [view] at accepted
      | some terminal =>
        rw [view] at accepted
        refine ⟨report, ⟨outstanding, summary, fun view mem => ?_⟩, applicable, written,
          terminal, view, validateTerminalWriteback_eq_ok.mp accepted⟩
        have free := List.find?_eq_none.mp converged view mem
        simpa using free
  · rintro ⟨report, ⟨outstanding, summary, converged⟩, applicable, written, terminal, view, holds⟩
    refine ⟨report, ?_⟩
    simp only [summary, view, unit_bind, refuse_eq_ok]
    refine ⟨?_, checkRequiredWritebackCloseGate_eq_none.mpr ⟨applicable, written⟩,
      validateTerminalWriteback_eq_ok.mpr holds⟩
    refine List.find?_eq_none.mpr fun outside mem => ?_
    simpa using converged outside mem

theorem whenever_eq_ok {holds : Bool} {checks : Except EventFlowError Unit} :
    whenever holds checks = .ok () ↔ (holds = true → checks = .ok ()) := by
  cases holds with
  | false | true => simp [whenever]

/-- **What an accepted transition says.** It follows an edge of the matrix, and into `closed` it
passes the gate. -/
theorem validateTransition_eq_ok {current target : EventStatus}
    (accepted : validateTransition current target ctx = .ok ()) :
    current ≠ .closed ∧ target ∈ stateTransitions current
      ∧ (target = .closed → validateClosedGate ctx = .ok ()) := by
  simp only [validateTransition, unit_bind, check_eq_ok, whenever_eq_ok, bne_iff_ne,
    decide_eq_true_eq, beq_iff_eq] at accepted
  obtain ⟨open_, edge, -, -, -, gate, -⟩ := accepted
  exact ⟨open_, edge, gate⟩

end

end ShadowTrace
