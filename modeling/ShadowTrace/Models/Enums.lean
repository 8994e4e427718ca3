/-
**The core enumerations and the tool catalogue** (`app/models/enums.py`, `app/tools/specs`,
`app/models/disposition.py`).

Every enumeration the modelled services branch on, with the members of the source in the order of
the source. The string values are left out: no modelled function reads them.

The catalogue has the baseline tools that the modelled services tell apart, with its own lists:
which tool undoes which, which level a tool has, and which tools leave an entity effect that is
verified by readback. Query and verification tools, and the response tools a provider appends, are
numbered.
-/

import Mathlib.Data.List.Basic

namespace ShadowTrace

inductive EventStatus
  | new | triaging | collectingEvidence | analyzing | scoring | planningResponse | waitingApproval
  | executingResponse | verifying | replanning | contained | failed | reporting | closed
  deriving DecidableEq

inductive Severity
  | low | medium | high | critical
  deriving DecidableEq

inductive FinalVerdict
  | none | possibleFalsePositive | falsePositive | confirmedThreat
  deriving DecidableEq

inductive ActionStatus
  | pending | waitingApproval | approved | rejected | superseded | executing | partialSuccess
  | success | failed | unknown | rolledBack
  deriving DecidableEq

inductive ActionCategory
  | system | response | verification | rollback
  deriving DecidableEq

inductive ActionExecutionPhase
  | immediate | postVerify
  deriving DecidableEq

inductive ActionLevel
  | l0 | l1 | l2 | l3 | l4 | l5
  deriving DecidableEq

inductive SourceDisposition
  | pending | processing | contained | completed | suspended | ignored | unknown
  deriving DecidableEq

inductive DispositionPolicy
  | required | notRequired
  deriving DecidableEq

inductive ExecutionJobStatus
  | queued | running | partialSuccess | success | failed | timedOut | cancelled | unknown
  deriving DecidableEq

/-- The condition for submitting a writeback; not an external receipt. -/
inductive WritebackReadiness
  | notRequired | ready | sourceUnresolved | notConfigured | capabilityUnknown
  | capabilityUnsupported | permissionDenied | connectorUnavailable
  deriving DecidableEq

inductive OutboxDeliveryStatus
  | ready | leased | waitingRetry | delivered | paused | deadLetter
  deriving DecidableEq

inductive WritebackStatus
  | pending | sending | accepted | confirmed | partialDone | failed | conflict | unknown
  deriving DecidableEq

inductive ConfirmationEvidence
  | adapterAcknowledged | statusQueried | readbackVerified | manualConfirmed
  deriving DecidableEq

inductive ExecutionOwner
  | xdrManaged | directTool
  deriving DecidableEq

inductive DispositionIntentKind
  | entityActionSubmit | executionResultRecord | compensationRecord | eventStatusUpdate
  deriving DecidableEq

def terminalSourceDispositions : List SourceDisposition :=
  [.contained, .completed, .suspended, .ignored]

/-! ### Tools -/

inductive Tool
  | notifySecurityTeam | createTicket
  | blockIp | blockDomain
  | isolateHost | quarantineFile | blockProcess | scanHostForVirus | disableAccount | forceLogout
  | resetPassword | revokeToken
  /-- `TERMINAL_DISPOSITION_TOOL`: a virtual tool, carried out as an event status update. -/
  | updateSourceEventDisposition
  | unblockIp | unblockDomain | cancelHostIsolation | restoreFile | restoreAccount
  | closeFalsePositiveTicket
  | response (id : Nat) (level : ActionLevel)
  | query (id : Nat)
  | verification (id : Nat)
  | generateReport
  deriving DecidableEq

inductive ToolCategory
  | query | response | verification | rollback
  deriving DecidableEq

def Tool.category : Tool → ToolCategory
  | .query _ | .generateReport => .query
  | .verification _ => .verification
  | .unblockIp | .unblockDomain | .cancelHostIsolation | .restoreFile | .restoreAccount
  | .closeFalsePositiveTicket => .rollback
  | _ => .response

inductive CallNature
  | query | sideEffect | verification | virtual
  deriving DecidableEq

def Tool.callNature (tool : Tool) : CallNature :=
  if tool = .updateSourceEventDisposition then .virtual
  else match tool.category with
    | .query => .query
    | .verification => .verification
    | .response | .rollback => .sideEffect

def getRollbackTool : Tool → Option Tool
  | .blockIp => some .unblockIp
  | .blockDomain => some .unblockDomain
  | .isolateHost => some .cancelHostIsolation
  | .quarantineFile => some .restoreFile
  | .disableAccount => some .restoreAccount
  | .createTicket => some .closeFalsePositiveTicket
  | _ => none

def Tool.level : Tool → ActionLevel
  | .notifySecurityTeam | .createTicket | .closeFalsePositiveTicket => .l1
  | .blockIp | .blockDomain | .updateSourceEventDisposition | .unblockIp | .unblockDomain => .l2
  | .isolateHost | .quarantineFile | .blockProcess | .scanHostForVirus | .disableAccount
  | .forceLogout | .cancelHostIsolation | .restoreFile | .restoreAccount => .l3
  | .resetPassword | .revokeToken => .l4
  | .response _ level => level
  | .query _ | .verification _ | .generateReport => .l0

def Tool.hasEntityEffect : Tool → Bool
  | .blockIp | .blockDomain | .blockProcess | .isolateHost | .quarantineFile | .scanHostForVirus
  | .disableAccount | .forceLogout | .resetPassword | .revokeToken => true
  | _ => false

theorem getRollbackTool_category {tool undo : Tool} (found : getRollbackTool tool = some undo) :
    undo.category = .rollback := by
  cases tool <;> simp only [getRollbackTool, Option.some.injEq, reduceCtorEq] at found <;>
    subst found <;> rfl

/-- **Executable response and rollback tools have side effects**: only the virtual disposition tool
and the read-only categories do not. -/
theorem Tool.callNature_sideEffect {tool : Tool} (real : tool ≠ .updateSourceEventDisposition)
    (category : tool.category = .response ∨ tool.category = .rollback) :
    tool.callNature = .sideEffect := by
  unfold Tool.callNature
  rw [if_neg real]
  obtain response | rollback := category
  · rw [response]
  · rw [rollback]

end ShadowTrace
