/-
**The verify agent** (`app/agents/verify_agent.py`, `_run`).

A pass verifies effects, has the terminal disposition activated and judges the writebacks.
-/

import ShadowTrace.Verify.ContextStore
import ShadowTrace.Verify.Writebacks

namespace ShadowTrace.Verify

open Fallible

structure VerifyEnv where
  now : Time
  /-- `started_at` of the jobs, and the target types of the stored actions. -/
  startedAt : JobId → Option Time
  targetType : ActionId → Option TargetType
  overrides : Overrides
  toolAnswer : ActionId → ToolAnswer
  dispositionIsMock : Bool
  context : ContextStore
  access : ContextAccess
  /-- The disposition service, if there is one. Its verification is read from the context. -/
  service : Option Closure.ActivationCall
  activationInterrupted : Bool
  receiptReadRaises : Bool

/-- The database as the pass meets it: while it loads the actions, when the disposition service
runs, and when the receipts are read. -/
structure Moments where
  loaded : Db
  activating : Db
  settled : Db

/-! ### Loading the actions -/

section

variable (phase1 : Phase1) (env : VerifyEnv) (store : Option Moments) (event : EventId)
  (plan : List PlanAction)

/-- The dictionary of the planned actions: an identifier keeps its first position and its last
value. -/
def planActionsMap : List PlanAction :=
  plan.foldl (fun map action =>
    if map.any fun other => other.id == action.id then
      map.map fun other => if other.id = action.id then action else other
    else map ++ [action]) []

def mergeDbActionWithPlan (stored planned : ActionRow) : ActionRow :=
  if stored.writebackStatus.isSome || planned.writebackStatus.isNone then stored
  else { stored with writebackStatus := planned.writebackStatus }

def loadAction (db : Db) (planned : PlanAction) : PlanAction :=
  match db.actions.get planned.id with
  | some row => ⟨planned.id, mergeDbActionWithPlan row planned.row, env.targetType planned.id⟩
  | none => planned

def loadActions : List PlanAction :=
  match store with
  | none => plan
  | some moments => (planActionsMap plan).map (loadAction env moments.loaded)

structure Prepared where
  policy : Option DispositionPolicy
  actions : List PlanAction
  phase1 : Phase1
  context : ContextStore

section

variable (prepared : Prepared) (actions : List PlanAction) (phase : VerificationPhase)
  (policy : Option DispositionPolicy) (results : List VerificationActionResult)

def jobsMap (id : ActionId) : Option (Option Time) :=
  match store with
  | none => if actions.any fun action => action.id == id && action.row.executionJobId.isSome then
      some none else none
  | some moments =>
    let jobs := moments.loaded.jobs.rows.filter fun entry => entry.2.actionId == id
      && actions.any fun action => action.row.executionJobId == some entry.1
    jobs.getLast?.map fun entry => env.startedAt entry.1

def VerifyEnv.effects : EffectEnv where
  now := env.now
  job := jobsMap env store actions
  overrides := env.overrides
  toolAnswer := env.toolAnswer

def loadDispositionPolicy : Option DispositionPolicy :=
  store.bind fun moments => (moments.loaded.events.get event).map EventRow.dispositionPolicy

def loadEventPlanRevision (db : Db) (event : EventId) : Nat :=
  (((db.actions.rows.filter fun entry => entry.2.eventId == event).map
    fun entry => entry.2.planRevision).max?).getD 1

/-! ### Results -/

def buildResult (overall : VerificationOverallStatus) (failed : List ActionId)
    (recoverable : List OutboxId) (pending : List ActionId) (blocked : List BlockedRef)
    (replan recovery manual : Bool) (phase : VerificationPhase) :
    Except RunError VerificationResult :=
  if valid : ∀ item ∈ results, item.skippedWith .deferredPendingActivation = true →
      item.actionId ∉ failed then
    .ok
      { results, overallStatus := overall, failedActions := failed
        recoverableWritebackIds := recoverable, pendingWritebackActionIds := pending
        blockedWritebacks := blocked, needActionReplan := replan, needWritebackRecovery := recovery
        needManualResolution := manual, verificationPhase := phase, deferredNotFailed := valid }
  else .error .deferredFailed

def interimResult (phase : Phase1) : Except RunError VerificationResult :=
  buildResult phase.results
    (if phase.results.any pendingItem then .waiting else .success)
    phase.failed [] [] [] false false false .effect

/-! ### Up to the activation -/

def dispositionDue (phase1 : Phase1) : Bool :=
  !phase1.needReplan && !phase1.needManual && policy == some .required

def persistPhase1 (phase1 : Phase1) : Except RunError ContextStore :=
  if dispositionDue policy phase1 then
    (interimResult phase1).map fun interim => env.context.write env.access interim
  else .ok env.context

/-- Load the actions of the plan, verify their effects, journal the interim result for the
disposition service. -/
def prepare : Except RunError Prepared := do
  let policy := loadDispositionPolicy store event
  let actions := loadActions env store plan
  let phase1 ← verifyPhase1 (env.effects store actions) actions
  let context ← persistPhase1 env policy phase1
  return { policy, actions, phase1, context }

/-! ### The activation -/

def planRevision (db : Db) (event : EventId) (actions : List PlanAction) : Nat :=
  match actions.head? with
  | some action => action.row.planRevision
  | none => loadEventPlanRevision db event

def Prepared.call (prepared : Prepared) (env : VerifyEnv) (call : Closure.ActivationCall) :
    Closure.ActivationCall :=
  { call with verification := prepared.context.getFullContext env.access }

inductive Activated
  | unavailable
  | answered (answer : Closure.ActivationResult)

/-- The service activates the terminal disposition. -/
def Prepared.activate (env : VerifyEnv) (moments : Moments) (event : EventId) :
    Except RunError Activated :=
  match env.service with
  | none => .ok .unavailable
  | some call =>
    if env.activationInterrupted then .error .softTimeLimit
    else if env.access.readRaises then .ok .unavailable
    else match Closure.activateAndSubmit moments.activating event
        (planRevision moments.activating event prepared.actions) (prepared.call env call) with
      | .error _ => .ok .unavailable
      | .ok (_, answer) => .ok (.answered answer)

def terminalVerifyReady (answer : Closure.ActivationResult) : Bool :=
  answer.activated || ((answer.skippedReason == some .alreadySubmitted
    || answer.skippedReason == some .concurrentHeadConflict) && answer.writebackId.isSome)

/-! ### Phase 2 -/

/-- What phase 2 has collected. -/
structure Phase2 where
  results : List VerificationActionResult := []
  recoverable : List OutboxId := []
  pendingActionIds : List ActionId := []
  blocked : List BlockedRef := []
  overall : VerificationOverallStatus := .success
  needRecovery : Bool := false
  needManual : Bool := false

def phase1Overall : VerificationOverallStatus :=
  if phase1.needReplan && phase1.needManual then .failed
  else if phase1.needReplan then .partialDone
  else .manualResolution

def failedPartialWriteback (recoverable : List OutboxId) : Bool :=
  results.any fun item => item.verificationPhase == some .disposition
    && item.writebackIds.any (fun key => decide (key ∈ recoverable))
    && (item.writebackStatus == some .failed || item.writebackStatus == some .partialDone)

def writebackOverall (recovery manual partly : Bool) : VerificationOverallStatus :=
  if manual then .manualResolution
  else if partly then .partialDone
  else if recovery then .waiting
  else .success

def mergeEvaluations (writebacks : WritebackEvaluation) (terminal : TerminalEvaluation) : Phase2 :=
  let recovery := writebacks.needRecovery || terminal.needRecovery
  let manual := writebacks.needManual || terminal.needManual
  let recoverable := writebacks.recoverable ∪ terminal.recoverable
  { results := writebacks.results
    recoverable
    pendingActionIds := writebacks.pendingActionIds
    blocked := writebacks.blocked ∪ terminal.blocked
    overall := writebackOverall recovery manual
      (failedPartialWriteback writebacks.results recoverable)
    needRecovery := recovery
    needManual := manual }

def activationHeld (blocked : List BlockedRef) : Phase2 :=
  { blocked, overall := .manualResolution, needManual := true }

def judgeWritebacks (moments : Moments) (actions : List PlanAction)
    (answer : Closure.ActivationResult) : Except RunError Phase2 :=
  if terminalVerifyReady answer then
    (evaluateWritebackStatuses env.dispositionIsMock moments.loaded moments.settled actions).map
      fun writebacks => mergeEvaluations writebacks
        (evaluateTerminalWritebackStatus env.dispositionIsMock moments.settled
          env.receiptReadRaises answer)
  else
    .ok (activationHeld
      (if answer.skippedReason = some .verdictNotTerminal then [] else blockedRef answer))

def verifyPhase2Disposition : Except RunError Phase2 :=
  if prepared.phase1.needReplan || prepared.phase1.needManual then
    .ok { overall := phase1Overall prepared.phase1 }
  else match prepared.policy, store with
    | some .notRequired, _ => .ok {}
    | some .required, some moments => do
      match ← prepared.activate env moments event with
      | .unavailable => .ok (activationHeld [])
      | .answered answer => judgeWritebacks env moments prepared.actions answer
    -- without a database there is no policy either
    | _, _ => .ok { overall := .manualResolution, needManual := true }

/-! ### The result -/

def recoveryWithoutTarget (phase2 : Phase2) : Bool :=
  phase2.needRecovery && phase2.recoverable.isEmpty && phase2.pendingActionIds.isEmpty

def allUnverifiable : Bool :=
  !phase1.results.isEmpty && phase1.results.all (fun item => item.effectStatus == .unverifiable)
    && phase1.failed.isEmpty

def overallStatus (phase2 : Phase2) : VerificationOverallStatus :=
  if allUnverifiable phase1 then .failed
  else if recoveryWithoutTarget phase2 && (phase2.overall == .success || phase2.overall == .waiting)
  then .manualResolution
  else phase2.overall

def assemble (phase1 : Phase1) (phase2 : Phase2) : Except RunError VerificationResult :=
  let overall := overallStatus phase1 phase2
  let recovery := phase2.needRecovery && !recoveryWithoutTarget phase2
  let manual := phase1.needManual || phase2.needManual || recoveryWithoutTarget phase2
  -- the flags a status does not go with are cleared
  let replan := phase1.needReplan && (overall == .partialDone || overall == .failed)
  buildResult (phase1.results ++ phase2.results) overall phase1.failed phase2.recoverable
    phase2.pendingActionIds phase2.blocked replan (recovery && overall != .success)
    ((manual && overall != .success) || overall == .manualResolution) phase

/-- The whole pass. -/
def run : Except RunError VerificationResult := do
  let prepared ← prepare env store event plan
  let phase2 ← verifyPhase2Disposition env store event prepared
  assemble phase prepared.phase1 phase2

end

end

/-! ### What the parts of a pass say -/

section

variable {env : VerifyEnv} {store : Option Moments} {event : EventId} {plan : List PlanAction}
  {phase : VerificationPhase} {result : VerificationResult} {prepared : Prepared} {phase2 : Phase2}

theorem buildResult_eq_ok {results : List VerificationActionResult}
    {overall : VerificationOverallStatus} {failed : List ActionId} {recoverable : List OutboxId}
    {pending : List ActionId} {blocked : List BlockedRef} {replan recovery manual : Bool}
    (built : buildResult results overall failed recoverable pending blocked replan recovery manual
      phase = .ok result) : result.results = results ∧ result.overallStatus = overall := by
  unfold buildResult at built
  split_ifs at built
  cases built
  exact ⟨rfl, rfl⟩

theorem prepare_eq_ok (done : prepare env store event plan = .ok prepared) :
    prepared.policy = loadDispositionPolicy store event
      ∧ prepared.actions = loadActions env store plan
      ∧ verifyPhase1 (env.effects store prepared.actions) prepared.actions = .ok prepared.phase1
      ∧ persistPhase1 env prepared.policy prepared.phase1 = .ok prepared.context := by
  obtain ⟨_, verified, done⟩ := bind_eq_ok.mp done
  obtain ⟨_, persisted, done⟩ := bind_eq_ok.mp done
  cases done
  exact ⟨rfl, rfl, verified, persisted⟩

theorem overallStatus_success {phase1 : Phase1} (success : overallStatus phase1 phase2 = .success) :
    phase2.overall = .success := by
  unfold overallStatus at success
  split_ifs at success
  exact success

theorem run_success (done : run env store event plan phase = .ok result)
    (success : result.overallStatus = .success) :
    ∃ prepared phase2, prepare env store event plan = .ok prepared
      ∧ verifyPhase2Disposition env store event prepared = .ok phase2
      ∧ phase2.overall = .success
      ∧ result.results = prepared.phase1.results ++ phase2.results := by
  obtain ⟨prepared, prepares, done⟩ := bind_eq_ok.mp done
  obtain ⟨phase2, judged, done⟩ := bind_eq_ok.mp done
  obtain ⟨results, overall⟩ := buildResult_eq_ok done
  exact ⟨prepared, phase2, prepares, judged, overallStatus_success (overall ▸ success), results⟩

structure Judged (env : VerifyEnv) (moments : Moments) (event : EventId) (prepared : Prepared)
    (answer : Closure.ActivationResult) (writebacks : WritebackEvaluation) : Prop where
  answered : prepared.activate env moments event = .ok (.answered answer)
  ready : terminalVerifyReady answer = true
  evaluated : evaluateWritebackStatuses env.dispositionIsMock moments.loaded moments.settled
    prepared.actions = .ok writebacks
  writebackRecovery : writebacks.needRecovery = false
  writebackManual : writebacks.needManual = false
  terminalRecovery : (evaluateTerminalWritebackStatus env.dispositionIsMock moments.settled
    env.receiptReadRaises answer).needRecovery = false
  terminalManual : (evaluateTerminalWritebackStatus env.dispositionIsMock moments.settled
    env.receiptReadRaises answer).needManual = false

theorem phase1Overall_ne_success (phase1 : Phase1) : phase1Overall phase1 ≠ .success := by
  unfold phase1Overall
  split_ifs <;> decide

theorem mergeEvaluations_success {writebacks : WritebackEvaluation} {terminal : TerminalEvaluation}
    (success : (mergeEvaluations writebacks terminal).overall = .success) :
    (writebacks.needRecovery = false ∧ terminal.needRecovery = false)
      ∧ writebacks.needManual = false ∧ terminal.needManual = false := by
  have merged : writebackOverall (writebacks.needRecovery || terminal.needRecovery)
      (writebacks.needManual || terminal.needManual)
      (failedPartialWriteback writebacks.results
        (writebacks.recoverable ∪ terminal.recoverable)) = .success := success
  unfold writebackOverall at merged
  split_ifs at merged with manual partly recovery
  simpa using And.intro recovery manual

theorem judgeWritebacks_success {moments : Moments} {answer : Closure.ActivationResult}
    (answered : prepared.activate env moments event = .ok (.answered answer))
    (judged : judgeWritebacks env moments prepared.actions answer = .ok phase2)
    (success : phase2.overall = .success) :
    ∃ writebacks, Judged env moments event prepared answer writebacks := by
  unfold judgeWritebacks at judged
  split_ifs at judged with ready verdict
  · obtain ⟨writebacks, evaluated, rfl⟩ := map_eq_ok.mp judged
    obtain ⟨⟨recovery, terminalRecovery⟩, manual, terminalManual⟩ :=
      mergeEvaluations_success success
    exact ⟨writebacks, answered, ready, evaluated, recovery, manual, terminalRecovery,
      terminalManual⟩
  · cases judged
    cases success
  · cases judged
    cases success

theorem verifyPhase2Disposition_success
    (judged : verifyPhase2Disposition env store event prepared = .ok phase2)
    (success : phase2.overall = .success) :
    (prepared.phase1.needReplan = false ∧ prepared.phase1.needManual = false)
      ∧ (prepared.policy = some .notRequired
        ∨ ∃ moments answer writebacks, store = some moments ∧ prepared.policy = some .required
          ∧ Judged env moments event prepared answer writebacks) := by
  unfold verifyPhase2Disposition at judged
  split at judged
  · cases judged
    exact absurd success (phase1Overall_ne_success _)
  rename_i quiet
  refine ⟨by simpa using quiet, ?_⟩
  split at judged
  · rename_i policy
    exact .inl policy
  · rename_i moments policy
    obtain ⟨activated, answered, judged⟩ := bind_eq_ok.mp judged
    cases activated with
    | unavailable =>
      cases judged
      cases success
    | answered answer =>
      obtain ⟨writebacks, all⟩ := judgeWritebacks_success answered judged success
      exact .inr ⟨moments, answer, writebacks, rfl, policy, all⟩
  · cases judged
    cases success

end

end ShadowTrace.Verify
