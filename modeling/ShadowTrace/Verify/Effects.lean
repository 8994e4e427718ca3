/-
**Effect verification** (`app/agents/verify_agent.py`, phase 1, and
`app/agents/rules/verification_mapping.py`).

The verify agent walks over the actions of a plan. Deferred actions and actions that have not been
executed are skipped; an executed response or rollback is observed with the verification tool of its
tool and target, if there is one. Every action gets one result, and some of them ask for a new plan
or for an operator.
-/

import ShadowTrace.Lib.Fallible
import ShadowTrace.Models.Verification

namespace ShadowTrace.Verify

open Fallible

/-! ### The mapping from tools to verification tools -/

inductive TargetType
  | ip | domain | host | file | process | account | ticket | channel | event
  | other (id : Nat)
  deriving DecidableEq

inductive CheckTool
  | ipBlockStatus | domainBlockStatus | hostIsolationStatus | fileQuarantineStatus
  | processBlockStatus | virusScanStatus | accountStatus | newAlerts | trafficDrop

/-- The two verification tools a plan may name directly, as numbered in the catalogue. -/
def checkNewAlerts : Tool := .verification 0
def checkTrafficDrop : Tool := .verification 1

variable {item : VerificationActionResult}

section

variable (tool : Tool)

def verificationMapping : List (TargetType × Option CheckTool) :=
  match tool with
  | .blockIp | .unblockIp => [(.ip, some .ipBlockStatus)]
  | .blockDomain | .unblockDomain => [(.domain, some .domainBlockStatus)]
  | .isolateHost | .cancelHostIsolation => [(.host, some .hostIsolationStatus)]
  | .quarantineFile | .restoreFile => [(.file, some .fileQuarantineStatus)]
  | .blockProcess => [(.process, some .processBlockStatus)]
  | .scanHostForVirus => [(.host, some .virusScanStatus)]
  | .disableAccount | .restoreAccount | .forceLogout | .resetPassword | .revokeToken =>
    [(.account, some .accountStatus)]
  | .createTicket | .closeFalsePositiveTicket => [(.ticket, none)]
  | .notifySecurityTeam => [(.channel, none)]
  | _ =>
    if tool = checkNewAlerts then [(.event, some .newAlerts)]
    else if tool = checkTrafficDrop then [(.ip, some .trafficDrop), (.host, some .trafficDrop)]
    else []

/-- What a provider says about one tool and target: it cannot verify the pair, it has a tool of its
own, or it names one nobody knows. -/
inductive Override
  | disabled
  | check (tool : CheckTool)
  | unregistered

abbrev Overrides := Tool → Option TargetType → Option Override

def resolveVerificationTool (overrides : Overrides) (tool : Tool) (target : Option TargetType) :
    Option CheckTool :=
  match overrides tool target with
  | some .disabled | some .unregistered => none
  | some (.check observer) => some observer
  | none => target.bind fun kind => ((verificationMapping tool).lookup kind).join

def nonVerifiable : Bool :=
  !(verificationMapping tool).isEmpty && (verificationMapping tool).all fun entry => entry.2.isNone

/-! ### Results -/

inductive RunError
  | softTimeLimit
  | writebackFields
  | deferredFailed

structure ActionReport where
  actionId : ActionId
  effectStatus : EffectStatus
  writebackRequired : Bool
  writebackReadiness : WritebackReadiness
  writebackStatus : Option WritebackStatus := none
  writebackIds : List OutboxId := []
  detail : EffectDetail
  verificationPhase : VerificationPhase := .effect
  confirmationEvidence : Option ConfirmationEvidence := none

variable (report : ActionReport)

/-- The constructor of `VerificationActionResult`, with its validator. -/
def ActionReport.build : Except RunError VerificationActionResult :=
  if consistent : writebackFieldsConsistent report.effectStatus report.writebackRequired
      report.writebackReadiness report.writebackStatus = true then
    .ok
      { actionId := report.actionId
        effectStatus := report.effectStatus
        writebackRequired := report.writebackRequired
        writebackReadiness := report.writebackReadiness
        writebackStatus := report.writebackStatus
        writebackIds := report.writebackIds
        detail := some report.detail
        verificationPhase := some report.verificationPhase
        confirmationEvidence := report.confirmationEvidence
        consistent }
  else .error .writebackFields

structure Shows (item : VerificationActionResult) : Prop where
  action : item.actionId = report.actionId
  effect : item.effectStatus = report.effectStatus
  status : item.writebackStatus = report.writebackStatus
  ids : item.writebackIds = report.writebackIds
  detail : item.detail = some report.detail
  phase : item.verificationPhase = some report.verificationPhase

theorem ActionReport.build_eq_ok {report : ActionReport} (built : report.build = .ok item) :
    Shows report item := by
  unfold ActionReport.build at built
  split_ifs at built with consistent
  cases built
  exact ⟨rfl, rfl, rfl, rfl, rfl, rfl⟩

/-! ### One action -/

/-- An action of the plan, with its stored row. -/
structure PlanAction where
  id : ActionId
  row : ActionRow
  targetType : Option TargetType

/-- What a verification tool answers. The texts are those the agent puts into the detail. -/
inductive ToolAnswer
  | unavailable
  | success (isVerified : Option Bool) (text : Nat)
  | failed (text : Nat)
  | other (text : Nat)
  | raised (text : Nat)
  | softTimeLimit

structure EffectEnv where
  now : Time
  job : ActionId → Option (Option Time)
  overrides : Overrides
  toolAnswer : ActionId → ToolAnswer

variable (env : EffectEnv) (action : PlanAction)

/-- What the result of an action asks for. -/
inductive Route
  | settled
  | manual
  | replan
  deriving DecidableEq

def executed : ActionStatus → Bool
  | .success | .partialSuccess | .failed => true
  | _ => false

def executingTimeoutSeconds : Nat := 300

def executionTimedOut : Bool :=
  (env.job action.id).any fun startedAt => startedAt.any fun started =>
    decide (started + executingTimeoutSeconds < env.now)

def effectReport (status : EffectStatus) (detail : EffectDetail) : ActionReport :=
  { actionId := action.id
    effectStatus := status
    writebackRequired := action.row.writebackRequired
    writebackReadiness := action.row.writebackReadiness
    writebackStatus := action.row.writebackStatus
    detail := detail }

def skippedReport (detail : EffectDetail) : ActionReport :=
  { actionId := action.id
    effectStatus := .skipped
    -- a deferred action keeps the obligation of its event
    writebackRequired := if detail = .deferredPendingActivation then action.row.writebackRequired
      else action.row.writebackRequired && action.row.writebackApplicable
    writebackReadiness := .notRequired
    detail := detail }

def selfVerifyingReport : ActionReport :=
  { actionId := action.id, effectStatus := .verified, writebackRequired := false
    writebackReadiness := .notRequired, detail := .selfVerifying }

def executionFailedReport : ActionReport :=
  { actionId := action.id
    effectStatus := .failed
    writebackRequired := action.row.writebackRequired && action.row.writebackApplicable
    writebackReadiness := .notRequired
    detail := if nonVerifiable action.row.toolName then .executionFailedNonVerifiable
      else .executionFailedNoVerificationTool }

def classifyObservation : ToolAnswer → Except RunError (EffectStatus × EffectDetail)
  | .unavailable => .ok (.unverifiable, .verificationToolUnavailableDegraded)
  | .success none _ => .ok (.unverifiable, .verificationResultMissingIsVerifiedField)
  | .success (some true) _ => .ok (.verified, .effectVerified)
  | .success (some false) text => .ok (.failed, .tool text)
  | .failed text | .other text | .raised text => .ok (.unverifiable, .tool text)
  | .softTimeLimit => .error .softTimeLimit

def observationReport (status : EffectStatus) (detail : EffectDetail) : ActionReport :=
  if status = .unverifiable then
    { effectReport action status detail with writebackReadiness := .notRequired }
  else
    { effectReport action status detail with
      writebackRequired := action.row.writebackRequired && action.row.writebackApplicable }

def observationRoute : EffectStatus → Route
  | .verified | .skipped => .settled
  | .unverifiable => .manual
  | .failed => .replan

def ActionReport.conclude (route : Route) : Except RunError (VerificationActionResult × Route) :=
  report.build.map fun item => (item, route)

def runVerificationTool : Except RunError (VerificationActionResult × Route) := do
  let observed ← classifyObservation (env.toolAnswer action.id)
  (observationReport action observed.1 observed.2).conclude (observationRoute observed.1)

def unobservedDetail : EffectDetail :=
  if nonVerifiable tool then .nonVerifiableAction else .noVerificationToolRegistered

def awaitingDetail (row : ActionRow) : EffectDetail :=
  if row.writebackRequired then .approvedPendingExecution else .actionNotExecuted

def verifyExecuted : Except RunError (VerificationActionResult × Route) :=
  let row := action.row
  if row.category = .verification ∨ row.category = .system then
    (selfVerifyingReport action).conclude .settled
  else if (resolveVerificationTool env.overrides row.toolName action.targetType).isSome then
    runVerificationTool env action
  else if row.status = .failed then (executionFailedReport action).conclude .replan
  else (skippedReport action (unobservedDetail row.toolName)).conclude .settled

def verifyAction : Except RunError (VerificationActionResult × Route) :=
  let row := action.row
  if row.executionPhase = .postVerify then
    (skippedReport action .deferredPendingActivation).conclude .settled
  else if row.status = .executing then
    if executionTimedOut env action then
      ({ effectReport action .unverifiable .executionTimeout with
        writebackReadiness := .notRequired } : ActionReport).conclude .manual
    else (effectReport action .skipped .pendingExecution).conclude .settled
  else if row.status = .unknown then
    (effectReport action .unverifiable .actionExecutionUnknown).conclude .manual
  else if row.executionOwner = none ∧ row.status = .approved then
    (effectReport action .unverifiable .executionOwnerUnsetNeedManual).conclude .manual
  else if row.status = .waitingApproval ∨ row.status = .approved then
    (effectReport action .skipped (awaitingDetail row)).conclude .settled
  else if !executed row.status then
    ({ effectReport action .skipped .actionNotExecuted with
      writebackStatus := none } : ActionReport).conclude .settled
  else verifyExecuted env action

/-! ### The loop -/

/-- What phase 1 has collected. -/
structure Phase1 where
  results : List VerificationActionResult := []
  failed : List ActionId := []
  needReplan : Bool := false
  needManual : Bool := false

def Phase1.add (phase : Phase1) (item : VerificationActionResult) (route : Route) : Phase1 where
  results := phase.results ++ [item]
  failed := if route = .replan then phase.failed.insert item.actionId else phase.failed
  needReplan := phase.needReplan || route == .replan
  needManual := phase.needManual || route == .manual

def verifyPhase1Step (phase : Phase1) (action : PlanAction) : Except RunError Phase1 :=
  (verifyAction env action).map fun outcome => phase.add outcome.1 outcome.2

def verifyPhase1 (actions : List PlanAction) : Except RunError Phase1 :=
  actions.foldlM (verifyPhase1Step env) {}

/-! ### What a settled action is -/

def pendingItem (item : VerificationActionResult) : Bool :=
  immediatePendingSkipDetails.any item.skippedWith

/-- The effect was observed, or there is none to observe. -/
def Observed : Prop :=
  action.row.category = .verification ∨ action.row.category = .system
    ∨ ∃ text, env.toolAnswer action.id = .success (some true) text

/-- An executed immediate action whose effect a verification tool has to observe. -/
def NeedsObservation : Prop :=
  action.row.executionPhase ≠ .postVerify ∧ executed action.row.status = true
    ∧ ¬ (action.row.category = .verification ∨ action.row.category = .system)
    ∧ (resolveVerificationTool env.overrides action.row.toolName action.targetType).isSome = true

/-- An immediate action that is unverifiable whatever the tools say. -/
def Stuck : Prop :=
  action.row.executionPhase ≠ .postVerify
    ∧ (action.row.status = .executing ∧ executionTimedOut env action = true
      ∨ action.row.status = .unknown
      ∨ action.row.executionOwner = none ∧ action.row.status = .approved)

end

section

variable (env : EffectEnv) (action : PlanAction) (item : VerificationActionResult)

/-- **What a round says about its action**, by the kind of its result. -/
inductive Ruling :
    Route → Prop
  | deferred (later : action.row.executionPhase = .postVerify)
      (skipped : item.effectStatus = .skipped) : Ruling .settled
  | pending (waiting : executed action.row.status = false) (free : ¬ Stuck env action)
      (skipped : item.effectStatus = .skipped) (listed : pendingItem item = true) : Ruling .settled
  | stuck (stuck : Stuck env action) (blind : item.effectStatus = .unverifiable) : Ruling .manual
  | own (done : executed action.row.status = true)
      (own : action.row.category = .verification ∨ action.row.category = .system)
      (verified : item.effectStatus = .verified) : Ruling .settled
  | observed (needs : NeedsObservation env action)
      (classified : classifyObservation (env.toolAnswer action.id)
        = .ok (item.effectStatus, detail)) (routed : route = observationRoute item.effectStatus) :
      Ruling route
  | failed (done : executed action.row.status = true) (failed : item.effectStatus = .failed) :
      Ruling .replan
  | unobserved (done : executed action.row.status = true)
      (noTool : resolveVerificationTool env.overrides action.row.toolName action.targetType = none)
      (succeeded : action.row.status ≠ .failed) (skipped : item.effectStatus = .skipped) :
      Ruling .settled

end

/-- The grounds on which phase 1 asks for nothing. -/
inductive EffectSettled (env : EffectEnv) (action : PlanAction) (item : VerificationActionResult) :
    Prop
  | pending (waiting : executed action.row.status = false) (known : action.row.status ≠ .unknown)
      (owned : action.row.executionOwner = none → action.row.status ≠ .approved)
      (skipped : pendingItem item = true)
  | verified (done : executed action.row.status = true) (effect : item.effectStatus = .verified)
      (observed : Observed env action)
  | unobservable (done : executed action.row.status = true)
      (noTool : resolveVerificationTool env.overrides action.row.toolName action.targetType = none)
      (succeeded : action.row.status ≠ .failed)

section Settled

variable {env : EffectEnv} {action : PlanAction} {item : VerificationActionResult} {route : Route}
  {report : ActionReport}

section

variable (settled : EffectSettled env action item)

include settled

theorem EffectSettled.decided : action.row.status ≠ .unknown
      ∧ (action.row.executionOwner = none → action.row.status ≠ .approved) := by
  have apart : executed action.row.status = true →
      action.row.status ≠ .unknown ∧ action.row.status ≠ .approved := by
    cases action.row.status <;> decide
  cases settled with
  | pending _ known owned => exact ⟨known, owned⟩
  | verified done | unobservable done => exact ⟨(apart done).1, fun _ => (apart done).2⟩

theorem EffectSettled.executed (clear : pendingItem item = false) :
    executed action.row.status = true := by
  cases settled with
  | pending _ _ _ skipped =>
    rw [clear] at skipped
    cases skipped
  | verified done | unobservable done => exact done

theorem EffectSettled.effect (done : Verify.executed action.row.status = true) :
    item.effectStatus = .verified
      ∨ resolveVerificationTool env.overrides action.row.toolName action.targetType = none
        ∧ action.row.status ≠ .failed := by
  cases settled with
  | pending waiting =>
    rw [done] at waiting
    cases waiting
  | verified _ effect => exact .inl effect
  | unobservable _ noTool succeeded => exact .inr ⟨noTool, succeeded⟩

end

theorem ActionReport.conclude_eq_ok {given : Route}
    (done : report.conclude given = .ok (item, route)) : Shows report item ∧ route = given := by
  obtain ⟨_, built, same⟩ := map_eq_ok.mp done
  cases same
  exact ⟨report.build_eq_ok built, rfl⟩

theorem Shows.pendingItem (shown : Shows report item) (skipped : report.effectStatus = .skipped)
    (listed : report.detail ∈ immediatePendingSkipDetails) : pendingItem item = true := by
  simp only [Verify.pendingItem, List.any_eq_true, VerificationActionResult.skippedWith,
    Bool.and_eq_true, beq_iff_eq]
  exact ⟨report.detail, listed, shown.effect.trans skipped, shown.detail⟩

theorem observationReport_shape (action : PlanAction) (status : EffectStatus)
    (detail : EffectDetail) :
    (observationReport action status detail).actionId = action.id
      ∧ (observationReport action status detail).effectStatus = status
      ∧ (observationReport action status detail).verificationPhase = .effect := by
  unfold observationReport
  split_ifs <;> exact ⟨rfl, rfl, rfl⟩

variable {answer : ToolAnswer} {detail : EffectDetail}

theorem classifyObservation_settled {status : EffectStatus}
    (classified : classifyObservation answer = .ok (status, detail))
    (settled : .settled = observationRoute status) :
    status = .verified ∧ ∃ text, answer = .success (some true) text := by
  cases answer with
  | success isVerified text =>
    match isVerified with
    | some true =>
      cases classified
      exact ⟨rfl, text, rfl⟩
    | some false | none =>
      cases classified
      cases settled
  | softTimeLimit => cases classified
  | _ =>
    cases classified
    cases settled

theorem Stuck.unexecuted (stuck : Stuck env action) : executed action.row.status = false := by
  obtain ⟨-, ⟨same, -⟩ | same | ⟨-, same⟩⟩ := stuck
  all_goals
    rw [same]
    rfl

theorem conclude_rules {given : Route} (done : report.conclude given = .ok (item, route))
    (same : report.actionId = action.id) (phase : report.verificationPhase = .effect)
    (rules : Shows report item → Ruling env action item given) :
    item.actionId = action.id ∧ item.verificationPhase = some .effect
      ∧ Ruling env action item route := by
  obtain ⟨shown, rfl⟩ := ActionReport.conclude_eq_ok done
  exact ⟨shown.action.trans same, shown.phase.trans (congrArg some phase), rules shown⟩

theorem verifyExecuted_ruling (immediate : action.row.executionPhase ≠ .postVerify)
    (ran : executed action.row.status = true)
    (done : verifyExecuted env action = .ok (item, route)) :
    item.actionId = action.id ∧ item.verificationPhase = some .effect
      ∧ Ruling env action item route := by
  unfold verifyExecuted at done
  dsimp only at done
  split_ifs at done with own observable failed
  · exact conclude_rules done rfl rfl fun shown => .own ran own shown.effect
  · obtain ⟨⟨status, detail⟩, classified, done⟩ := bind_eq_ok.mp done
    obtain ⟨named, same, phase⟩ := observationReport_shape action status detail
    refine conclude_rules done named phase fun shown => ?_
    obtain rfl := shown.effect.trans same
    exact .observed ⟨immediate, ran, own, observable⟩ classified rfl
  · exact conclude_rules done rfl rfl fun shown => .failed ran shown.effect
  · exact conclude_rules done rfl rfl fun shown =>
      .unobserved ran (by simpa using observable) failed shown.effect

theorem verifyAction_ruling (done : verifyAction env action = .ok (item, route)) :
    item.actionId = action.id ∧ item.verificationPhase = some .effect
      ∧ Ruling env action item route := by
  unfold verifyAction at done
  dsimp only at done
  split_ifs at done with deferred executing late unknown ownerless approved waiting
  · exact conclude_rules done rfl rfl fun shown => .deferred deferred shown.effect
  · exact conclude_rules done rfl rfl fun shown =>
      .stuck ⟨deferred, .inl ⟨executing, late⟩⟩ shown.effect
  · exact conclude_rules done rfl rfl fun shown => .pending (by rw [executing]; rfl)
      (by simp_all [Stuck]) shown.effect (shown.pendingItem rfl (.head _))
  · exact conclude_rules done rfl rfl fun shown =>
      .stuck ⟨deferred, .inr (.inl unknown)⟩ shown.effect
  · exact conclude_rules done rfl rfl fun shown =>
      .stuck ⟨deferred, .inr (.inr ownerless)⟩ shown.effect
  · refine conclude_rules done rfl rfl fun shown =>
      .pending ?_ (by simp_all [Stuck]) shown.effect (shown.pendingItem rfl ?_)
    · rcases approved with same | same <;> rw [same] <;> rfl
    show awaitingDetail action.row ∈ immediatePendingSkipDetails
    unfold awaitingDetail
    split_ifs
    · decide
    · decide
  · exact conclude_rules done rfl rfl fun shown => .pending (by simpa using waiting)
      (by simp_all [Stuck]) shown.effect (shown.pendingItem rfl (.tail _ (.tail _ (.head _))))
  · exact verifyExecuted_ruling deferred (by simpa using waiting) done

section

variable (ruling : Ruling env action item route)

include ruling

theorem Ruling.routed : route = observationRoute item.effectStatus := by
  cases ruling with
  | deferred _ same | pending _ _ same | stuck _ same | own _ _ same | failed _ same
  | unobserved _ _ _ same =>
    rw [same]
    rfl
  | observed _ _ routed => exact routed

theorem Ruling.blind (blind : item.effectStatus = .unverifiable) :
    NeedsObservation env action ∨ Stuck env action := by
  cases ruling with
  | deferred _ same | pending _ _ same | own _ _ same | failed _ same | unobserved _ _ _ same =>
    rw [same] at blind
    cases blind
  | stuck stuck => exact .inr stuck
  | observed needs => exact .inl needs

theorem Ruling.unverifiable (stuck : Stuck env action) : item.effectStatus = .unverifiable := by
  cases ruling with
  | deferred later => exact absurd later stuck.1
  | pending _ free => exact absurd stuck free
  | stuck _ same => exact same
  | own done | failed done | unobserved done =>
    rw [stuck.unexecuted] at done
    cases done
  | observed needs =>
    have ran := needs.2.1
    rw [stuck.unexecuted] at ran
    cases ran

end

/-- **What a round that asks for nothing says about its action.** -/
theorem Ruling.settled (ruling : Ruling env action item .settled)
    (immediate : action.row.executionPhase ≠ .postVerify) : EffectSettled env action item := by
  cases ruling with
  | deferred later => exact absurd later immediate
  | pending waiting free _ listed =>
    exact .pending waiting (fun same => free ⟨immediate, .inr (.inl same)⟩)
      (fun absent same => free ⟨immediate, .inr (.inr ⟨absent, same⟩)⟩) listed
  | own done own verified => exact .verified done verified (own.imp_right .inl)
  | observed needs classified routed =>
    obtain ⟨status, observed⟩ := classifyObservation_settled classified routed
    exact .verified needs.2.1 status (.inr (.inr observed))
  | unobserved done noTool succeeded => exact .unobservable done noTool succeeded

end Settled

/-! ### What the loop leaves -/

/-- What was found for the action is part of the phase's result. -/
structure Verdict (env : EffectEnv) (action : PlanAction) (phase : Phase1)
    (item : VerificationActionResult) (route : Route) : Prop where
  given : verifyAction env action = .ok (item, route)
  listed : item ∈ phase.results
  replan : route = .replan → phase.needReplan = true
  manual : route = .manual → phase.needManual = true

variable {env : EffectEnv} {before after : Phase1} {action : PlanAction}

theorem verifyPhase1Step_adds (stepped : verifyPhase1Step env before action = .ok after) :
    ∃ item route, Verdict env action after item route
      ∧ after.results = before.results ++ [item] := by
  obtain ⟨⟨item, route⟩, verified, rfl⟩ := map_eq_ok.mp stepped
  refine ⟨item, route, ⟨verified, by simp [Phase1.add], ?_, ?_⟩, rfl⟩
  all_goals
    intro same
    simp [Phase1.add, same]

theorem Verdict.step {other : PlanAction} {route : Route}
    (verdict : Verdict env other before item route)
    (stepped : verifyPhase1Step env before action = .ok after) :
    Verdict env other after item route := by
  obtain ⟨_, -, rfl⟩ := map_eq_ok.mp stepped
  refine ⟨verdict.given, List.mem_append_left _ verdict.listed, ?_, ?_⟩
  · intro same
    simp [Phase1.add, verdict.replan same]
  · intro same
    simp [Phase1.add, verdict.manual same]

variable {actions : List PlanAction} {phase : Phase1}

theorem verifyPhase1_item (done : verifyPhase1 env actions = .ok phase) :
    ∀ action ∈ actions, ∃ item route, Verdict env action phase item route := by
  refine foldlM_marks (fun action phase => ∃ item route, Verdict env action phase item route)
    ?_ ?_ done
  · intro _ _ _ stepped
    obtain ⟨item, route, verdict, -⟩ := verifyPhase1Step_adds stepped
    exact ⟨item, route, verdict⟩
  · rintro _ _ _ _ stepped ⟨item, route, verdict⟩
    exact ⟨item, route, verdict.step stepped⟩

theorem verifyPhase1_origin (done : verifyPhase1 env actions = .ok phase) :
    ∀ item ∈ phase.results, ∃ action ∈ actions, ∃ route, Verdict env action phase item route := by
  refine foldlM_keeps (fun phase : Phase1 => ∀ item ∈ phase.results, ∃ action ∈ actions,
    ∃ route, Verdict env action phase item route) ?_ ?_ done
  · intro _ _ action listed stepped origins item mem
    obtain ⟨added, route, verdict, grown⟩ := verifyPhase1Step_adds stepped
    rw [grown] at mem
    rcases List.mem_append.mp mem with earlier | last
    · obtain ⟨other, there, otherRoute, kept⟩ := origins item earlier
      exact ⟨other, there, otherRoute, kept.step stepped⟩
    · obtain rfl := List.mem_singleton.mp last
      exact ⟨action, listed, route, verdict⟩
  · exact List.forall_mem_nil _

theorem Verdict.settled {route : Route} (verdict : Verdict env action phase item route)
    (replan : phase.needReplan = false) (manual : phase.needManual = false) : route = .settled := by
  cases route with
  | settled => rfl
  | manual => exact absurd (verdict.manual rfl) (by simp [manual])
  | replan => exact absurd (verdict.replan rfl) (by simp [replan])

theorem verifyPhase1_settled (done : verifyPhase1 env actions = .ok phase)
    (replan : phase.needReplan = false) (manual : phase.needManual = false)
    (mem : action ∈ actions) (immediate : action.row.executionPhase ≠ .postVerify) :
    ∃ item ∈ phase.results, item.actionId = action.id
      ∧ item.verificationPhase = some .effect ∧ EffectSettled env action item := by
  obtain ⟨item, _, verdict⟩ := verifyPhase1_item done action mem
  obtain rfl := verdict.settled replan manual
  obtain ⟨named, phase, ruling⟩ := verifyAction_ruling verdict.given
  exact ⟨item, verdict.listed, named, phase, ruling.settled immediate⟩

end ShadowTrace.Verify
