/-
**Transition tables and their validators** (`app/models/workflow.py`).

The tables are functions from a status to the list of its targets, one equation per entry of the
source's dictionary. A validator returns the error it raises, or nothing; the optional keyword
arguments of the source are the fields of an evidence record whose defaults are the source's.
-/

import ShadowTrace.Models.Enums

namespace ShadowTrace

/-- The reasons for which a validator raises `InvalidStateTransitionError`. -/
inductive TransitionError
  | illegalAction (category : ActionCategory) (current target : ActionStatus)
  | approvalEvidenceMissing (category : ActionCategory) (level : ActionLevel)
  | supersedeWithJobOrOutbox
  | supersedeFromDispatched
  | postVerifyGate
  | reclaimWithoutExpiry
  | rolledBackCategory (category : ActionCategory)
  | illegalJob (current target : ExecutionJobStatus)
  | jobReclaimGate (current target : ExecutionJobStatus)
  | jobProviderTerminalGate
  | operatorRetryTarget
  | operatorRetrySource
  | expiredLeaseResend
  | ambiguousWaitingRetry
  | deliveredWithoutLookup (current : OutboxDeliveryStatus)
  | illegalDelivery (current target : OutboxDeliveryStatus)
  | illegalWriteback (current target : WritebackStatus)
  | unknownToPendingGate
  | unknownToProviderStatusGate
  | safeRetryGate
  | adjudicationGate
  deriving DecidableEq

def requireThat (holds : Bool) (error : TransitionError) : Except TransitionError Unit :=
  if holds then .ok () else .error error

/-! ### Actions -/

def ActionLevel.autoApprovable : ActionLevel → Bool
  | .l0 | .l1 => true
  | _ => false

def responseTransitions : ActionStatus → List ActionStatus
  | .pending => [.waitingApproval, .approved, .rejected, .superseded]
  | .waitingApproval => [.approved, .rejected, .superseded]
  | .approved => [.executing, .waitingApproval, .superseded]
  | .executing => [.partialSuccess, .success, .failed, .unknown, .approved]
  | .unknown => [.partialSuccess, .success, .failed]
  | .success => [.rolledBack]
  | .partialSuccess => [.rolledBack]
  | .rejected | .superseded | .failed | .rolledBack => []

def verificationTransitions : ActionStatus → List ActionStatus
  | .pending => [.executing]
  | .executing => [.success, .failed, .unknown]
  | .unknown => [.success, .failed]
  | _ => []

/-- The ROLLBACK rows: a successful rollback stays `success`, it flips its source action. -/
def rollbackTransitions : ActionStatus → List ActionStatus
  | .pending => [.waitingApproval, .approved, .rejected, .superseded]
  | .waitingApproval => [.approved, .rejected, .superseded]
  | .approved => [.executing, .waitingApproval, .superseded]
  | .executing => [.partialSuccess, .success, .failed, .unknown, .approved]
  | .unknown => [.partialSuccess, .success, .failed]
  | _ => []

def systemTransitions : ActionStatus → List ActionStatus
  | .pending => [.executing, .success]
  | .executing => [.success, .failed]
  | _ => []

def actionStatusTransitions : ActionCategory → ActionStatus → List ActionStatus
  | .response => responseTransitions
  | .verification => verificationTransitions
  | .rollback => rollbackTransitions
  | .system => systemTransitions

structure ActionEvidence where
  executionPhase : ActionExecutionPhase := .immediate
  afterEffectResolution : Bool := false
  templateUnchanged : Bool := true
  hasJobOrOutbox : Bool := false
  actionLevel : ActionLevel := .l0
  autoExecute : Bool := false
  hasApprovalEvidence : Bool := false
  leaseExpiredReclaim : Bool := false

/-- RESPONSE and ROLLBACK actions pass the human-in-the-loop gate. -/
def ActionCategory.humanGated : ActionCategory → Bool
  | .response | .rollback => true
  | .system | .verification => false

def validateActionStatusTransition (category : ActionCategory) (current target : ActionStatus)
    (evidence : ActionEvidence := {}) : Except TransitionError Unit := do
  requireThat (decide (target ∈ actionStatusTransitions category current))
    (.illegalAction category current target)
  requireThat (!(target == .approved && category.humanGated
      && !evidence.actionLevel.autoApprovable && !evidence.hasApprovalEvidence))
    (.approvalEvidenceMissing category evidence.actionLevel)
  requireThat (!(target == .superseded && evidence.hasJobOrOutbox)) .supersedeWithJobOrOutbox
  requireThat (!(target == .superseded
      && !(current == .pending || current == .waitingApproval || current == .approved)))
    .supersedeFromDispatched
  requireThat (!(current == .approved && target == .executing
      && evidence.executionPhase == .postVerify
      && (!evidence.afterEffectResolution || !evidence.templateUnchanged)))
    .postVerifyGate
  requireThat (!(current == .executing && target == .approved && !evidence.leaseExpiredReclaim))
    .reclaimWithoutExpiry
  requireThat (!(target == .rolledBack && !(category == .response)))
    (.rolledBackCategory category)

/-! ### Execution jobs -/

def jobStatusTransitions : ExecutionJobStatus → List ExecutionJobStatus
  | .queued => [.running, .cancelled, .failed, .timedOut]
  | .running => [.partialSuccess, .success, .failed, .timedOut, .cancelled, .unknown, .queued]
  | .unknown => [.partialSuccess, .success, .failed, .timedOut, .cancelled]
  | .partialSuccess | .success | .failed | .timedOut | .cancelled => []

def validateJobStatusTransition (current target : ExecutionJobStatus)
    (providerConfirmedTerminal leaseExpiredReclaim : Bool := false) :
    Except TransitionError Unit := do
  requireThat (!(current == .running && target == .queued && !leaseExpiredReclaim))
    (.jobReclaimGate current target)
  requireThat (!(current == .queued && (target == .failed || target == .timedOut)
      && !leaseExpiredReclaim))
    (.jobReclaimGate current target)
  requireThat (decide (target ∈ jobStatusTransitions current)) (.illegalJob current target)
  requireThat (!(current == .unknown && (target == .timedOut || target == .cancelled)
      && !providerConfirmedTerminal))
    .jobProviderTerminalGate

/-! ### Outbox delivery -/

def outboxDeliveryTransitions : OutboxDeliveryStatus → List OutboxDeliveryStatus
  | .ready => [.leased, .deadLetter, .delivered]
  | .leased => [.delivered, .waitingRetry, .paused, .deadLetter]
  | .waitingRetry => [.leased, .deadLetter, .delivered]
  | .paused => [.ready, .delivered, .deadLetter]
  | .delivered => [.paused]
  | .deadLetter => [.paused]

structure DeliveryEvidence where
  leaseExpiredResend : Bool := false
  knownPreEgressFailure : Bool := false
  lookupConfirmedSubmission : Bool := false
  operatorRetryPause : Bool := false

def validateOutboxDeliveryTransition (current target : OutboxDeliveryStatus)
    (evidence : DeliveryEvidence := {}) : Except TransitionError Unit := do
  requireThat (!(evidence.operatorRetryPause && !(target == .paused))) .operatorRetryTarget
  requireThat (!(evidence.operatorRetryPause
      && !(current == .deadLetter || current == .delivered))) .operatorRetrySource
  requireThat (!(evidence.leaseExpiredResend && current == .leased
      && (target == .leased || target == .waitingRetry))) .expiredLeaseResend
  requireThat (!(current == .leased && target == .waitingRetry
      && !evidence.knownPreEgressFailure)) .ambiguousWaitingRetry
  requireThat (!((current == .paused || current == .ready || current == .waitingRetry)
      && target == .delivered && !evidence.lookupConfirmedSubmission))
    (.deliveredWithoutLookup current)
  requireThat (decide (target ∈ outboxDeliveryTransitions current))
    (.illegalDelivery current target)

/-! ### Writebacks -/

def writebackStatusTransitions : WritebackStatus → List WritebackStatus
  | .pending => [.sending, .failed, .conflict]
  | .sending => [.accepted, .confirmed, .partialDone, .failed, .conflict, .unknown]
  | .accepted => [.confirmed, .partialDone, .failed, .conflict, .unknown]
  | .unknown => [.accepted, .confirmed, .partialDone, .failed, .conflict, .pending]
  | .partialDone => [.confirmed, .failed, .pending]
  | .failed => [.confirmed, .failed, .pending]
  | .conflict => [.confirmed, .failed]
  | .confirmed => []

structure WritebackEvidence where
  lookupNeverAccepted : Bool := false
  adapterAllowsSafeRetry : Bool := false
  evidenceAdjudication : Bool := false

def validateWritebackStatusTransition (current target : WritebackStatus)
    (evidence : WritebackEvidence := {}) : Except TransitionError Unit := do
  requireThat (decide (target ∈ writebackStatusTransitions current))
    (.illegalWriteback current target)
  requireThat (!(current == .unknown && target == .pending && !evidence.lookupNeverAccepted))
    .unknownToPendingGate
  requireThat (!(current == .unknown
      && (target == .accepted || target == .partialDone || target == .conflict)
      && !evidence.evidenceAdjudication)) .unknownToProviderStatusGate
  requireThat (!((current == .failed || current == .partialDone) && target == .pending
      && !evidence.adapterAllowsSafeRetry)) .safeRetryGate
  requireThat (!((current == .unknown || current == .partialDone || current == .failed
        || current == .conflict)
      && (target == .confirmed || target == .failed) && !evidence.evidenceAdjudication
      && !(current == .failed && target == .failed)
      && (target == .confirmed || !(current == .failed)))) .adjudicationGate

def operatorRetryWritebackStatusBlocked (status : Option WritebackStatus) : Bool :=
  status == some .confirmed

def operatorRetryFailureStatuses : List WritebackStatus := [.failed, .partialDone, .unknown]

def deliveryStatusEligibleForOperatorRetryPause (delivery : OutboxDeliveryStatus)
    (status : Option WritebackStatus) : Bool :=
  if operatorRetryWritebackStatusBlocked status then false
  else match delivery with
    | .deadLetter => true
    | .delivered => operatorRetryFailureStatuses.any fun failure => status == some failure
    | .paused | .ready => true
    | .leased | .waitingRetry => false

def isOperatorRetryTerminalSuccess : WritebackStatus → Bool
  | .confirmed | .accepted => true
  | _ => false

/-! ### What the validators accept -/

variable {holds : Bool} {error : TransitionError}

@[simp] theorem requireThat_eq_ok : requireThat holds error = .ok () ↔ holds = true := by
  unfold requireThat
  cases holds <;> simp

@[simp] theorem requireThat_bind {α : Type} {next : Unit → Except TransitionError α} {value : α} :
    (requireThat holds error >>= next) = .ok value ↔ holds = true ∧ next () = .ok value := by
  unfold requireThat
  cases holds <;> simp [bind, Except.bind]

theorem validateJobStatusTransition_edge {current target : ExecutionJobStatus}
    {confirmed reclaim : Bool}
    (accepted : validateJobStatusTransition current target confirmed reclaim = .ok ()) :
    target ∈ jobStatusTransitions current := by
  simp only [validateJobStatusTransition, requireThat_bind, decide_eq_true_eq] at accepted
  exact accepted.2.2.1

structure LegalMove (category : ActionCategory) (current target : ActionStatus)
    (evidence : ActionEvidence) : Prop where
  edge : target ∈ actionStatusTransitions category current
  approval : target = .approved → category.humanGated = true →
    evidence.actionLevel.autoApprovable = true ∨ evidence.hasApprovalEvidence = true
  undispatched : target = .superseded → evidence.hasJobOrOutbox = false
  resolved : current = .approved → target = .executing → evidence.executionPhase = .postVerify →
    evidence.afterEffectResolution = true ∧ evidence.templateUnchanged = true
  reclaim : current = .executing → target = .approved → evidence.leaseExpiredReclaim = true

variable {category : ActionCategory} {current target : ActionStatus}

theorem actionStatusTransitions_gates (edge : target ∈ actionStatusTransitions category current) :
    (target = .superseded → current = .pending ∨ current = .waitingApproval ∨ current = .approved)
      ∧ (target = .rolledBack → category = .response) := by
  constructor
  all_goals
    rintro rfl
    cases category <;> cases current <;> simp_all [actionStatusTransitions, responseTransitions,
      rollbackTransitions, verificationTransitions, systemTransitions]

theorem gated_edge (gated : category.humanGated = true)
    (edge : target ∈ responseTransitions current) (other : target ≠ .rolledBack) :
    target ∈ actionStatusTransitions category current := by
  cases category with
  | response => exact edge
  | rollback => cases current <;> first | exact edge | simp_all [responseTransitions]
  | system | verification => cases gated

theorem validateAction_eq_ok {evidence : ActionEvidence} :
    validateActionStatusTransition category current target evidence = .ok () ↔
      LegalMove category current target evidence := by
  simp only [validateActionStatusTransition, requireThat_bind, decide_eq_true_eq]
  constructor
  · rintro ⟨edge, approval, undispatched, -, resolved, reclaim, -⟩
    refine ⟨edge, ?_, ?_, ?_, ?_⟩
    · rintro rfl gated
      simpa [gated] using approval
    · rintro rfl
      simpa using undispatched
    · rintro rfl rfl phase
      simpa [phase] using resolved
    · rintro rfl rfl
      simpa using reclaim
  · rintro ⟨edge, approval, undispatched, resolved, reclaim⟩
    obtain ⟨unstarted, response⟩ := actionStatusTransitions_gates edge
    refine ⟨edge, ?_, ?_, ?_, ?_, ?_, ?_⟩
    · by_cases target = .approved <;> by_cases category.humanGated = true <;> simp_all
    · by_cases target = .superseded <;> simp_all
    · by_cases target = .superseded <;> simp_all [or_assoc]
    · by_cases current = .approved <;> by_cases target = .executing <;>
        by_cases evidence.executionPhase = .postVerify <;> simp_all
    · by_cases current = .executing <;> by_cases target = .approved <;> simp_all
    · by_cases target = .rolledBack <;> simp_all

theorem validateWriteback_unconfirmed {status : Option WritebackStatus}
    {fallback target : WritebackStatus} {evidence : WritebackEvidence}
    (accepted : validateWritebackStatusTransition (status.getD fallback) target evidence = .ok ()) :
    status ≠ some .confirmed := by
  rintro rfl
  cases accepted

theorem validateDelivery_edge {current target : OutboxDeliveryStatus} {evidence : DeliveryEvidence}
    (accepted : validateOutboxDeliveryTransition current target evidence = .ok ()) :
    target ∈ outboxDeliveryTransitions current := by
  unfold validateOutboxDeliveryTransition at accepted
  simp_all

end ShadowTrace
