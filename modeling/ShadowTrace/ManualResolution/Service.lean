/-
**Manual holds and graph-resume intents** (`app/services/manual_resolution_service.py`,
`app/models/graph_resume_intent.py`).

`enter_manual_hold` stops an event for a human and numbers the hold; a resume intent names the hold
it resumes. A worker claims an intent, moves it to `STARTED` and runs the graph outside of any
transaction; the result is written to the intent in one more transaction, after the hold has been
lifted in two others. `reconcile_stale` takes back intents whose claim has run out.
-/

import ShadowTrace.Lib.Runs
import ShadowTrace.Lib.Table
import ShadowTrace.Models.Enums

namespace ShadowTrace.ManualResolution

open Relational

/-! ### Statuses -/

inductive GraphResumeIntentStatus
  | pending | claimed | started | terminal | retry | skipped | dead
  deriving DecidableEq

def graphResumeTransitions : GraphResumeIntentStatus → List GraphResumeIntentStatus
  | .pending => [.claimed, .skipped]
  | .claimed => [.started, .retry, .pending, .skipped, .dead]
  | .started => [.terminal, .skipped, .retry, .dead]
  | .retry => [.claimed, .dead, .skipped]
  | .terminal => []
  | .skipped => []
  | .dead => [.retry]

def GraphResumeIntentStatus.isTerminal : GraphResumeIntentStatus → Bool
  | .terminal | .skipped | .dead => true
  | _ => false

inductive ExecutionSubstate
  | none | waitingApproval | waitingExecution | waitingWriteback | manualResolution
  deriving DecidableEq

def executionSubstateHosts : EventStatus → List ExecutionSubstate
  | .waitingApproval => [.none, .waitingApproval, .manualResolution]
  | .executingResponse => [.none, .waitingExecution, .manualResolution]
  | .verifying => [.none, .waitingWriteback, .manualResolution]
  | _ => []

def executionSubstateForbidden : EventStatus → Bool
  | .waitingApproval | .executingResponse | .verifying => false
  | _ => true

def executionSubstateTransitions : ExecutionSubstate → List ExecutionSubstate
  | .none => [.waitingApproval, .waitingExecution, .waitingWriteback, .manualResolution]
  | .waitingApproval | .waitingExecution | .waitingWriteback => [.none, .manualResolution]
  | .manualResolution => [.none]

inductive HoldError
  | invalidIntentTransition (current target : GraphResumeIntentStatus)
  | statusForbidsSubstate (status : EventStatus) (current target : ExecutionSubstate)
  | substateIllegalUnder (status : EventStatus) (current target : ExecutionSubstate)
  | illegalSubstateEdge (current target : ExecutionSubstate)
  | callerStatusMismatch (caller authoritative : EventStatus)
  | holdGenerationChanged (expected : Nat) (actual : Option Nat)

/-- The errors that are a `ValidationError`: those are caught after a resume, the rest propagate. -/
def HoldError.isValidation : HoldError → Bool
  | .callerStatusMismatch _ _ | .holdGenerationChanged _ _ => true
  | _ => false

def validateGraphResumeTransition (current target : GraphResumeIntentStatus) :
    Except HoldError Unit :=
  if (graphResumeTransitions current).contains target then .ok ()
  else .error (.invalidIntentTransition current target)

def validateExecutionSubstate (status : EventStatus) (current target : ExecutionSubstate) :
    Except HoldError Unit :=
  if executionSubstateForbidden status then
    if target ≠ .none then .error (.statusForbidsSubstate status current target) else .ok ()
  else if !(executionSubstateHosts status).contains target then
    .error (.substateIllegalUnder status current target)
  else if current ≠ target ∧ !(executionSubstateTransitions current).contains target then
    .error (.illegalSubstateEdge current target)
  else .ok ()

/-! ### The event -/

/-- The hold in the event's journal. A snapshot whose generation is not positive does not parse. -/
structure ManualHoldSnapshot where
  generation : Nat
  positive : 0 < generation
  reason : String
  pendingIds : List String
  checkpointId : Option String

structure HeldEvent where
  status : EventStatus
  hold : Option ManualHoldSnapshot
  substate : ExecutionSubstate

variable (event : HeldEvent)

def HeldEvent.generation : Nat :=
  (event.hold.map ManualHoldSnapshot.generation).getD 0

structure HoldRequest where
  reason : String
  pendingIds : List String
  checkpointId : Option String
  eventStatus : Option EventStatus

structure Settings where
  eventId : String
  claimLease : Int
  maxAttempts : Nat

variable (cfg : Settings) (now : Int)

def startedStaleMin : Int := 660

def checkpointOr (eventId : String) : Option String → String
  | some checkpointId => if checkpointId = "" then eventId else checkpointId
  | none => eventId

def nextHold (req : HoldRequest) (event : HeldEvent) : ManualHoldSnapshot where
  generation := event.generation + 1
  positive := Nat.succ_pos _
  reason := req.reason
  pendingIds := req.pendingIds
  checkpointId := some (checkpointOr cfg.eventId req.checkpointId)

def enterManualHold (req : HoldRequest) (event : HeldEvent) : Except HoldError HeldEvent :=
  match req.eventStatus with
  | some caller =>
    if caller ≠ event.status then .error (.callerStatusMismatch caller event.status)
    else enter
  | none => enter
where
  enter : Except HoldError HeldEvent :=
    if event.substate ≠ .manualResolution then do
      validateExecutionSubstate event.status event.substate .manualResolution
      .ok { event with hold := some (nextHold cfg req event), substate := .manualResolution }
    else .ok { event with hold := some (nextHold cfg req event) }

def setExecutionSubstate (substate : ExecutionSubstate) (eventStatus : EventStatus)
    (event : HeldEvent) : Except HoldError HeldEvent :=
  if event.status ≠ eventStatus then .error (.callerStatusMismatch eventStatus event.status)
  else do
    validateExecutionSubstate event.status event.substate substate
    .ok { event with substate := substate }

/-- The first transaction of `_clear_manual_resolution_for_resume`: the status the second one is
called with. -/
def checkGeneration (expected : Nat) (event : HeldEvent) : Except HoldError EventStatus :=
  match event.hold with
  | none => .error (.holdGenerationChanged expected none)
  | some hold =>
    if hold.generation ≠ expected then .error (.holdGenerationChanged expected hold.generation)
    else .ok event.status

/-! ### The intent -/

inductive IntentKind
  | manualResolutionResume | approvalPlanResume
  deriving DecidableEq

structure GraphResumeIntent where
  kind : IntentKind
  status : GraphResumeIntentStatus
  revision : Nat
  attempt : Nat
  holdGeneration : Nat
  claimOwner : Option String
  claimExpiresAt : Option Int
  lastError : Option String
  skipReason : Option String
  updatedAt : Int

variable (row : GraphResumeIntent)

def GraphResumeIntent.progress : GraphResumeIntentStatus × Nat × Nat :=
  (row.status, row.attempt, row.revision)

/-- The generation an intent is created for; an approved plan has no hold, its generation is 0. -/
def IntentKind.generation : IntentKind → Nat
  | .manualResolutionResume => event.generation
  | .approvalPlanResume => 0

section

variable (kind : IntentKind)

def newIntent (event : HeldEvent) (now : Int) : GraphResumeIntent where
  kind := kind
  status := .pending
  revision := 1
  attempt := 0
  holdGeneration := kind.generation event
  claimOwner := none
  claimExpiresAt := none
  lastError := none
  skipReason := none
  updatedAt := now

def hasActive (intents : Table Nat GraphResumeIntent) (generation : Nat) : Bool :=
  intents.rows.any fun entry =>
    entry.2.holdGeneration == generation && !entry.2.status.isTerminal

/-- When `create_or_replay_resume_intent`, or its sibling for approved plans, inserts a row. -/
def mayCreate (event : HeldEvent) (intents : Table Nat GraphResumeIntent) : Bool :=
  (match kind with
    | .manualResolutionResume => event.substate = .manualResolution && event.hold.isSome
    | .approvalPlanResume => true)
    && !hasActive intents (kind.generation event)

def dispatchWorkerId : String := "graph-resume-dispatcher-1"

def claimRow : Except HoldError GraphResumeIntent :=
  if row.status = .pending ∨ row.status = .retry then do
    validateGraphResumeTransition row.status .claimed
    .ok { row with
      status := .claimed, claimOwner := some dispatchWorkerId,
      claimExpiresAt := some (now + cfg.claimLease), updatedAt := now }
  else .ok row

def skipRow (reason : String) (row : GraphResumeIntent) : Except HoldError GraphResumeIntent := do
  validateGraphResumeTransition .claimed .skipped
  .ok { row with
    status := .skipped, skipReason := some reason, claimOwner := none, claimExpiresAt := none }

/-- The first transaction of `_run_claimed_intent`: the row it leaves, and whether the run goes on.
The claim's expiry stays as it is. -/
def beginRun : Except HoldError (GraphResumeIntent × Bool) :=
  if row.status ≠ .claimed then .ok (row, false)
  else if row.kind ≠ .approvalPlanResume
      ∧ event.hold.map ManualHoldSnapshot.generation ≠ some row.holdGeneration then do
    let skipped ← skipRow "stale_hold_generation" row
    .ok (skipped, false)
  else if row.kind ≠ .approvalPlanResume ∧ event.substate ≠ .manualResolution then do
    let skipped ← skipRow "hold_already_cleared" row
    .ok (skipped, false)
  else do
    validateGraphResumeTransition .claimed .started
    .ok ({ row with status := .started, updatedAt := now }, true)

def releaseClaim : GraphResumeIntent :=
  { row with claimOwner := none, claimExpiresAt := none, updatedAt := now }

def markTerminal : Except HoldError GraphResumeIntent :=
  if row.status.isTerminal then .ok row
  else do
    validateGraphResumeTransition row.status .terminal
    .ok (releaseClaim now { row with status := .terminal })

def clipError (error : String) : String := String.ofList (error.toList.take 2000)

def markFailure (error : String) (now : Int) (row : GraphResumeIntent) :
    Except HoldError GraphResumeIntent :=
  if row.status.isTerminal then .ok row
  else if cfg.maxAttempts ≤ row.attempt + 1 then do
    validateGraphResumeTransition row.status .dead
    .ok (releaseClaim now { row with
      status := .dead, attempt := row.attempt + 1, lastError := some (clipError error) })
  else do
    validateGraphResumeTransition row.status .retry
    .ok (releaseClaim now { row with
      status := .retry, revision := row.revision + 1, attempt := row.attempt + 1,
      lastError := some (clipError error) })

def requeueDeferred : Except HoldError GraphResumeIntent :=
  if row.status.isTerminal then .ok row
  else do
    validateGraphResumeTransition row.status .retry
    .ok (releaseClaim now { row with status := .retry })

/-- The rows `reconcile_stale` acts on: an expired claim, or `STARTED` for too long. -/
def isStale : Bool :=
  (row.status = .claimed || row.status = .started)
    && ((match row.claimExpiresAt with
        | some expiry => decide (expiry ≤ now)
        | none => false)
      || (row.status = .started && decide (row.updatedAt ≤ now - startedStaleMin)))

def reconcileRow : Except HoldError GraphResumeIntent :=
  if !isStale now row then .ok row
  else if cfg.maxAttempts ≤ row.attempt + 1 then do
    validateGraphResumeTransition row.status .dead
    .ok (releaseClaim now { row with status := .dead, lastError := some "reconcile_exhausted" })
  else do
    validateGraphResumeTransition row.status .retry
    .ok (releaseClaim now { row with
      status := .retry, attempt := row.attempt + 1, revision := row.revision + 1,
      lastError := some "reconcile_stale" })

/-! ### The runs -/

/-- What the resume runner does; any other string it returns counts as resumed. -/
inductive ResumeResult
  | resumed | deferred | skipped | failed
  | raised (error : String)

inductive Outcome
  | success | deferral
  | failure (error : String)

inductive Stage
  | running
  | clearing
  | checked (status : EventStatus)
  | settling (outcome : Outcome)

/-- A run that resumes the graph for an intent. -/
structure ResumeRun where
  intent : Nat
  kind : IntentKind
  generation : Nat
  stage : Stage

def IntentKind.label : IntentKind → String
  | .approvalPlanResume => "approval_plan"
  | .manualResolutionResume => "manual_hold"

def afterRunner : ResumeResult → Stage
  | .raised error => .settling (.failure error)
  | .deferred => .settling .deferral
  | .skipped => .settling (.failure (kind.label ++ "_resume_skipped"))
  | .failed => .settling (.failure (kind.label ++ "_resume_failed"))
  | .resumed => if kind = .approvalPlanResume then .settling .success else .clearing

def settleRow : Outcome → Except HoldError GraphResumeIntent
  | .success => markTerminal now row
  | .deferral => requeueDeferred now row
  | .failure error => markFailure cfg error now row

end

/-! ### The service -/

structure World where
  event : HeldEvent
  intents : Table Nat GraphResumeIntent
  runs : Nat → Option ResumeRun
  starter : Nat → Option Nat

variable (w : World) (run intent : Nat) (current : ResumeRun)

def World.fresh : World := ⟨event, .empty, fun _ => none, fun _ => none⟩

inductive Label
  | enterManualHold (req : HoldRequest)
  /-- Any other caller of the runtime, the sync after a hold included. -/
  | setExecutionSubstate (substate : ExecutionSubstate) (eventStatus : EventStatus)
  | changeStatus (status : EventStatus)
  | createIntent (intent : Nat) (kind : IntentKind) (now : Int)
  | claim (intent : Nat) (now : Int)
  | start (run intent : Nat) (now : Int)
  | returned (run : Nat) (result : ResumeResult)
  | checkGeneration (run : Nat)
  | clear (run : Nat)
  | settle (run : Nat) (now : Int)
  | reconcile (intent : Nat) (now : Int)
  | crash (run : Nat)

def World.setEvent (outcome : Except HoldError HeldEvent) : World :=
  match outcome with
  | .ok event => { w with event }
  | .error _ => w

def World.updateIntent (transaction : GraphResumeIntent → Except HoldError GraphResumeIntent) :
    World :=
  match w.intents.get intent with
  | none => w
  | some row =>
    match transaction row with
    | .ok after => { w with intents := w.intents.set intent after }
    | .error _ => w

def World.setStage (stage : Stage) : World :=
  { w with runs := Function.update w.runs run (some { current with stage }) }

def World.endRun : World :=
  { w with runs := Function.update w.runs run none }

def World.takeAway : World :=
  { w with starter := Function.update w.starter intent none }

def World.afterClear : Except HoldError HeldEvent → World
  | .ok event => { w with event }.setStage run current (.settling .success)
  | .error error =>
    if error.isValidation then w.setStage run current (.settling .success)
    else w.endRun run

def World.startRun (run intent : Nat) (now : Int) : World :=
  match w.runs run, w.intents.get intent with
  | none, some row =>
    match beginRun w.event now row with
    | .ok (after, true) =>
      { w with
        intents := w.intents.set intent after,
        runs := Function.update w.runs run (some ⟨intent, row.kind, row.holdGeneration, .running⟩),
        starter := Function.update w.starter intent (some run) }
    | .ok (after, false) => { w with intents := w.intents.set intent after }
    | .error _ => w
  | _, _ => w

def World.advance : Label → Stage → World
  | .returned _ result, .running => w.setStage run current (afterRunner current.kind result)
  | .checkGeneration _, .clearing =>
    match checkGeneration current.generation w.event with
    | .ok status => w.setStage run current (.checked status)
    | .error _ => w.setStage run current (.settling .success)
  | .clear _, .checked status =>
    w.afterClear run current (setExecutionSubstate .none status w.event)
  | .settle _ now, .settling outcome =>
    (w.updateIntent current.intent (settleRow cfg now · outcome)).endRun run
  | _, _ => w

def World.runStep (label : Label) : World :=
  match w.runs run with
  | some current => w.advance cfg run current label current.stage
  | none => w

def takesAway (now : Int) : Bool :=
  match w.intents.get intent with
  | some row => isStale now row
  | none => false

def step (label : Label) : World :=
  match label with
  | .enterManualHold req => w.setEvent (enterManualHold cfg req w.event)
  | .setExecutionSubstate substate eventStatus =>
    w.setEvent (setExecutionSubstate substate eventStatus w.event)
  | .changeStatus status => { w with event := { w.event with status } }
  | .createIntent intent kind now =>
    if (w.intents.get intent).isNone && mayCreate kind w.event w.intents then
      { w with intents := w.intents.set intent (newIntent kind w.event now) }
    else w
  | .claim intent now => w.updateIntent intent (claimRow cfg now)
  | .start run intent now => w.startRun run intent now
  | .returned run _ | .checkGeneration run | .clear run | .settle run _ => w.runStep cfg run label
  | .reconcile intent now =>
    if takesAway w intent now then (w.updateIntent intent (reconcileRow cfg now)).takeAway intent
    else w
  | .crash run => w.endRun run

end ShadowTrace.ManualResolution
