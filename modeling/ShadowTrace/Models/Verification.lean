/-
**Verification results** (`app/models/agent_io.py`, `app/models/verification_readiness.py`).

What the verify agent reports about each action and about the plan, and the predicates the
disposition services read it with. The two validators of the source are fields of the structures: a
result that fails them cannot be built.
-/

import ShadowTrace.Db.Rows

namespace ShadowTrace

inductive EffectStatus
  | verified | failed | skipped | unverifiable
  deriving DecidableEq

inductive VerificationOverallStatus
  | success | partialDone | failed | waiting | manualResolution
  deriving DecidableEq

inductive VerificationPhase
  | effect | disposition
  deriving DecidableEq

/-- `detail` of an action's result: the fixed texts, and those built from a tool's answer. -/
inductive EffectDetail
  | deferredPendingActivation | executionTimeout | pendingExecution | actionExecutionUnknown
  | executionOwnerUnsetNeedManual | approvedPendingExecution | actionNotExecuted
  | selfVerifying | nonVerifiableAction | noVerificationToolRegistered
  | executionFailedNonVerifiable | executionFailedNoVerificationTool
  | verificationToolUnavailableDegraded | verificationResultMissingIsVerifiedField
  | effectVerified | writebackNotApplicable
  | writebackBlocked (readiness : WritebackReadiness)
  | writebackConfirmed | writebackPendingWaiting | writebackSendingWaiting
  | writebackAcceptedWaiting | writebackUnknownRequiresLookup | writebackPartialRecovery
  | writebackFailedRecovery | writebackConflictManual | writebackNoStatusWaiting
  | writebackNotYetDispatched | writebackUnknownExhaustedLookupsManual
  | writebackConfirmedWeakEvidence
  | tool (text : Nat)
  deriving DecidableEq

def writebackFieldsConsistent (effect : EffectStatus) (required : Bool)
    (readiness : WritebackReadiness) (status : Option WritebackStatus) : Bool :=
  if required then
    readiness != .notRequired || effect == .unverifiable || effect == .skipped
  else readiness == .notRequired && status.isNone

structure VerificationActionResult where
  actionId : ActionId
  effectStatus : EffectStatus
  writebackRequired : Bool
  writebackReadiness : WritebackReadiness
  writebackStatus : Option WritebackStatus
  writebackIds : List OutboxId
  detail : Option EffectDetail
  verificationPhase : Option VerificationPhase
  confirmationEvidence : Option ConfirmationEvidence
  consistent : writebackFieldsConsistent effectStatus writebackRequired writebackReadiness
    writebackStatus = true

def VerificationActionResult.skippedWith (item : VerificationActionResult) (detail : EffectDetail) :
    Bool :=
  item.effectStatus == .skipped && item.detail == some detail

/-- What blocks a writeback: an action, or a writeback of its own. -/
inductive BlockedRef
  | action (id : ActionId)
  | writeback (id : OutboxId)
  deriving DecidableEq

structure VerificationResult where
  results : List VerificationActionResult
  overallStatus : VerificationOverallStatus
  failedActions : List ActionId
  recoverableWritebackIds : List OutboxId
  pendingWritebackActionIds : List ActionId
  blockedWritebacks : List BlockedRef
  needActionReplan : Bool
  needWritebackRecovery : Bool
  needManualResolution : Bool
  verificationPhase : VerificationPhase
  deferredNotFailed : ∀ item ∈ results, item.skippedWith .deferredPendingActivation = true →
    item.actionId ∉ failedActions

/-! ### Readiness predicates -/

def immediatePendingSkipDetails : List EffectDetail :=
  [.pendingExecution, .approvedPendingExecution, .actionNotExecuted]

variable (verification : Option VerificationResult)

def hasImmediateEffectPending : Bool :=
  verification.any fun result => result.results.any fun item =>
    immediatePendingSkipDetails.any item.skippedWith

def applicableEffectResults : List VerificationActionResult :=
  match verification with
  | none => []
  | some result => result.results.filter fun item => !item.skippedWith .deferredPendingActivation

def hasUnverifiedApplicableEffects : Bool :=
  let applicable := applicableEffectResults verification
  !applicable.isEmpty && !applicable.all fun item => item.effectStatus == .verified

def entityEffectVerifiedForAction (id : ActionId) : Bool :=
  verification.any fun result => result.results.any fun item =>
    item.actionId == id && item.verificationPhase == some .effect
      && item.effectStatus == .verified

end ShadowTrace
