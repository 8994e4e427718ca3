/-
**What `success` of the verify agent means.**

A pass returns `success` when phase 1 asked for nothing, and either no disposition is required or
the activation was answered and every writeback it judged is settled. `SoundSuccess` spells this out
over the rows of the database:

* the effects of the executed immediate actions are verified, or cannot be observed;
* actions that are not executed hold a required disposition back, as long as the service reads the
  result of this pass;
* the writebacks that are owed, and the terminal one, are confirmed.
-/

import ShadowTrace.Verify.Agent

namespace ShadowTrace.Verify

open Relational Fallible

/-! ### The loaded actions -/

section

variable {env : VerifyEnv} {plan : List PlanAction} {planned : PlanAction}

theorem planActionsMap_covers (mem : planned ∈ plan) :
    ∃ action ∈ planActionsMap plan, action.id = planned.id := by
  obtain ⟨front, back, rfl⟩ := List.append_of_mem mem
  rw [planActionsMap, List.foldl_append, List.foldl_cons]
  -- identifiers already in the dictionary are kept by the rest of the fold
  refine List.foldlRecOn (motive := fun map : List PlanAction => ∃ action ∈ map,
    action.id = planned.id) back _ ?_ ?_
  · generalize front.foldl _ [] = map
    split_ifs with present
    · simp only [List.any_eq_true, beq_iff_eq] at present
      obtain ⟨_, stored, equal⟩ := present
      refine ⟨_, List.mem_map_of_mem stored, ?_⟩
      rw [if_pos equal]
    · exact ⟨planned, List.mem_append_right _ (List.mem_singleton.mpr rfl), rfl⟩
  · rintro map ⟨action, stored, same⟩ other -
    split_ifs
    · refine ⟨_, List.mem_map_of_mem stored, ?_⟩
      split_ifs with replaced
      · rw [← same, replaced]
      · exact same
    · exact ⟨action, List.mem_append_left _ stored, same⟩

theorem mergeDbActionWithPlan_row (stored planned : ActionRow) :
    mergeDbActionWithPlan stored planned = { stored with
      writebackStatus := (mergeDbActionWithPlan stored planned).writebackStatus } := by
  unfold mergeDbActionWithPlan
  split_ifs
  · rfl
  · rfl

theorem loadActions_covers {moments : Moments} (mem : planned ∈ plan) :
    ∃ action ∈ loadActions env (some moments) plan, action.id = planned.id
      ∧ ∀ row, moments.loaded.actions.get planned.id = some row →
        action.row = { row with writebackStatus := action.row.writebackStatus } := by
  obtain ⟨kept, listed, same⟩ := planActionsMap_covers mem
  refine ⟨loadAction env moments.loaded kept, List.mem_map_of_mem listed, ?_, ?_⟩
  · unfold loadAction
    split
    · exact same
    · exact same
  intro row found
  rw [← same] at found
  unfold loadAction
  rw [found]
  exact mergeDbActionWithPlan_row row kept.row

end

/-! ### What the service has read -/

section

variable {env : VerifyEnv} {moments : Moments} {event : EventId} {prepared : Prepared}

theorem persistPhase1_due (due : dispositionDue prepared.policy prepared.phase1 = true)
    (persisted : persistPhase1 env prepared.policy prepared.phase1 = .ok prepared.context) :
    ∃ interim, interim.results = prepared.phase1.results
      ∧ prepared.context = env.context.write env.access interim := by
  unfold persistPhase1 at persisted
  rw [if_pos due] at persisted
  obtain ⟨interim, built, same⟩ := map_eq_ok.mp persisted
  exact ⟨interim, (buildResult_eq_ok built).1, same.symm⟩

theorem activate_answered {answer : Closure.ActivationResult}
    (answered : prepared.activate env moments event = .ok (.answered answer)) :
    ∃ call after, env.service = some call ∧ Closure.activateAndSubmit moments.activating event
      (planRevision moments.activating event prepared.actions) (prepared.call env call)
        = .ok (after, answer) := by
  unfold Prepared.activate at answered
  split at answered
  · cases answered
  rename_i call service
  split at answered
  · cases answered
  split at answered
  · cases answered
  split at answered
  · cases answered
  · rename_i after given submitted
    obtain rfl : given = answer := Activated.answered.inj (Except.ok.inj answered)
    exact ⟨call, after, service, submitted⟩

/-- **A gate that opened on this pass's result saw no pending action.** -/
theorem not_pending_of_ready {call : Closure.ActivationCall} {verdict : FinalVerdict}
    {revision : Nat} (due : dispositionDue prepared.policy prepared.phase1 = true)
    (persisted : persistPhase1 env prepared.policy prepared.phase1 = .ok prepared.context)
    (shows : ShowsWrite env.context env.access) (effects : call.dispositionOnlyIntent = false)
    (ready : Closure.afterEffectResolutionReady moments.activating event verdict revision
      (prepared.call env call) = true) :
    ∀ item ∈ prepared.phase1.results, pendingItem item = false := by
  obtain ⟨interim, results, context⟩ := persistPhase1_due due persisted
  have seen : (prepared.call env call).verification = some interim := by
    show prepared.context.getFullContext env.access = some interim
    rw [context]
    exact getFullContext_write shows
  have intent : (prepared.call env call).dispositionOnlyIntent = false := effects
  unfold Closure.afterEffectResolutionReady at ready
  rw [if_neg (by rw [intent]; decide), seen] at ready
  have open_ : Closure.verificationReady interim = true := ready
  simp only [Closure.verificationReady, Bool.and_eq_true, Bool.not_eq_true'] at open_
  have none : hasImmediateEffectPending (some interim) = false := open_.2
  intro item mem
  have clear := List.any_eq_false.mp none item (results ▸ mem)
  simpa [pendingItem] using clear

end

/-! ### Soundness -/

section

variable (env : VerifyEnv) (moments : Moments) (event : EventId) (plan : List PlanAction)

/-- The terminal writeback of a deferred action is confirmed. -/
def TerminalConfirmed : Prop :=
  ∃ key receipt id deferred after,
    (id, deferred) ∈ Closure.deferredActions moments.activating event
      (planRevision moments.activating event (loadActions env (some moments) plan))
    ∧ Closure.TerminalInForce after event id key
    ∧ Sync.latestReceipt moments.settled key = some receipt
    ∧ Confirms env.dispositionIsMock receipt

/-- The service is not asked for a disposition without side effects. -/
def dispositionOnlyPass : Bool :=
  env.service.any fun call => call.dispositionOnlyIntent

structure SoundSuccess (result : VerificationResult) : Prop where
  covered : ∀ planned ∈ plan, ∃ action ∈ loadActions env (some moments) plan,
    action.id = planned.id ∧ ∀ row, moments.loaded.actions.get planned.id = some row →
      action.row = { row with writebackStatus := action.row.writebackStatus }
  /-- An executed immediate action is verified, or has no verification tool and did not fail. -/
  effects : ∀ action ∈ loadActions env (some moments) plan,
    action.row.executionPhase ≠ .postVerify → executed action.row.status = true →
    ∃ item ∈ result.results, item.actionId = action.id ∧ item.verificationPhase = some .effect
      ∧ (item.effectStatus = .verified
        ∨ resolveVerificationTool env.overrides action.row.toolName action.targetType = none
          ∧ action.row.status ≠ .failed)
  /-- No immediate action is uncertain, or approved with nobody to execute it. -/
  decided : ∀ action ∈ loadActions env (some moments) plan,
    action.row.executionPhase ≠ .postVerify → action.row.status ≠ .unknown
      ∧ (action.row.executionOwner = none → action.row.status ≠ .approved)
  finished : loadDispositionPolicy (some moments) event = some .required →
    ShowsWrite env.context env.access → dispositionOnlyPass env = false →
    ∀ action ∈ loadActions env (some moments) plan, action.row.executionPhase ≠ .postVerify →
      executed action.row.status = true
  writebacks : loadDispositionPolicy (some moments) event = some .required →
    ∀ action ∈ loadActions env (some moments) plan, owesWriteback action = true →
      action.row.writebackApplicable = true →
      WritebackSettled env.dispositionIsMock moments.loaded moments.settled action
  terminal : loadDispositionPolicy (some moments) event = some .required →
    TerminalConfirmed env moments event plan

end

section Sound

variable {env : VerifyEnv} {moments : Moments} {event : EventId} {plan : List PlanAction}
  {prepared : Prepared} {answer : Closure.ActivationResult} {writebacks : WritebackEvaluation}

section

variable (judged : Judged env moments event prepared answer writebacks)

include judged

theorem Judged.named : ∃ key, answer.writebackId = some key := by
  cases named : answer.writebackId with
  | some key => exact ⟨key, rfl⟩
  | none =>
    -- an activation without a writeback is for an operator, and nothing else is ready
    have ready := judged.ready
    have manual := judged.terminalManual
    simp only [terminalVerifyReady, named, Option.isSome_none, Bool.and_false, Bool.or_false]
      at ready
    simp [evaluateTerminalWritebackStatus, named, ready] at manual

theorem Judged.terminalConfirmed
    (actions : prepared.actions = loadActions env (some moments) plan) :
    TerminalConfirmed env moments event plan := by
  obtain ⟨key, named⟩ := judged.named
  obtain ⟨_, after, -, submitted⟩ := activate_answered judged.answered
  obtain ⟨-, id, deferred, listed, inForce⟩ := Closure.activateAndSubmit_named submitted named
  obtain ⟨receipt, latest, confirms⟩ := evaluateTerminalWritebackStatus_settled named
    judged.terminalRecovery judged.terminalManual
  exact ⟨key, receipt, id, deferred, after, actions ▸ listed, inForce, latest, confirms⟩

theorem Judged.not_pending (due : dispositionDue prepared.policy prepared.phase1 = true)
    (persisted : persistPhase1 env prepared.policy prepared.phase1 = .ok prepared.context)
    (shows : ShowsWrite env.context env.access) (effects : dispositionOnlyPass env = false) :
    ∀ item ∈ prepared.phase1.results, pendingItem item = false := by
  obtain ⟨_, named⟩ := judged.named
  obtain ⟨call, _, service, submitted⟩ := activate_answered judged.answered
  obtain ⟨⟨_, -, ready⟩, -⟩ := Closure.activateAndSubmit_named submitted named
  have intent : call.dispositionOnlyIntent = false := by
    simpa [dispositionOnlyPass, service] using effects
  exact not_pending_of_ready due persisted shows intent ready

end

end Sound

def blockedAddress : ActionRow where
  eventId := 1
  planRevision := 1
  actionFingerprint := .response 1 1 0
  category := .response
  toolName := .blockIp
  level := .l2
  status := .success
  executionOwner := some .xdrManaged
  writebackRequired := true
  writebackApplicable := true
  writebackReadiness := .ready
  updatedAt := 0

def submittedDisposition : ActionRow :=
  { blockedAddress with
    actionFingerprint := .response 1 1 1, toolName := .updateSourceEventDisposition
    executionPhase := .postVerify, approvedTerminalDispositions := [.contained]
    status := .executing }

def sentOutbox (action : ActionId) (kind : DispositionIntentKind) (slot number : Nat) :
    OutboxRow where
  eventId := 1
  actionId := action
  dispositionId := number
  closureCycle := 1
  sourceRecordId := 1
  sourceSequence := number
  intentKind := kind
  logicalSlot := slot
  idempotencyKey := number
  commandPayloadSha256 := ⟨number, none⟩
  deliveryStatus := .delivered
  latestWritebackStatus := some .confirmed
  attempt := 1

def readBack : Receipt := Sync.localReceipt .confirmed (some .readbackVerified)

def containedDb (policy : DispositionPolicy) (block : ActionRow) : Db where
  events := Table.empty.set 1
    { status := .verifying, severity := .high, finalVerdict := .confirmedThreat
      dispositionPolicy := policy }
  actions := (Table.empty.set 1 block).set 2 submittedDisposition
  outboxes := (Table.empty.set 5 (sentOutbox 1 .entityActionSubmit 0 5)).set 7
    (sentOutbox 2 .eventStatusUpdate Execution.Slot.terminal.index 7)
  receipts := (Table.empty.set 5 [readBack]).set 7 [readBack]

def still (db : Db) : Moments := ⟨db, db, db⟩

def containedPlan : List PlanAction :=
  [⟨1, blockedAddress, some .ip⟩, ⟨2, submittedDisposition, none⟩]

def observingEnv : VerifyEnv where
  now := 1
  startedAt := fun _ => none
  targetType := fun _ => some .ip
  overrides := fun _ _ => none
  toolAnswer := fun _ => .success (some true) 0
  dispositionIsMock := false
  context :=
    { journal := ⟨0, none⟩, redis := none, degraded := none, closedSnapshot := none
      behind := fun _ absent => nomatch absent }
  access :=
    { memory := true, commits := true, caches := true, reachable := true, othersCurrent := true
      readAt := 0, readRaises := false }
  service := some
    { eventDispositionSupported := true, dispositionOnlyIntent := false, verification := none
      templateUnchanged := true, dispositionAllowed := true, draft := ⟨9, 9, 9, 1, 9, true⟩
      now := 1, choice := 0, raced := none, raisesAfterwards := false }
  activationInterrupted := false
  receiptReadRaises := false

/-- A second command of the block, which the source refused. The query for the outboxes of an
action has no order; it returns the confirmed one first. -/
def refusedSecond (db : Db) : Db :=
  { db with
    outboxes := ((Table.empty.set 6 (sentOutbox 1 .entityActionSubmit 2 6)).set 5
      (sentOutbox 1 .entityActionSubmit 0 5)).set 7
        (sentOutbox 2 .eventStatusUpdate Execution.Slot.terminal.index 7)
    receipts := db.receipts.set 6 [Sync.localReceipt .failed none] }

theorem verifyPhase1_failed {env : EffectEnv} {actions : List PlanAction} {phase1 : Phase1}
    (done : verifyPhase1 env actions = .ok phase1) (none : phase1.failed = []) :
    phase1.needReplan = false := by
  have listed : phase1.needReplan = true → phase1.failed ≠ [] := by
    refine foldlM_keeps (fun phase : Phase1 => phase.needReplan = true → phase.failed ≠ []) ?_
      (fun asked => absurd asked Bool.false_ne_true) done
    intro _ _ _ _ stepped earlier
    obtain ⟨⟨item, route⟩, -, rfl⟩ := map_eq_ok.mp stepped
    cases route with
    | replan => exact fun _ => List.ne_nil_of_mem (List.mem_insert_self (a := item.actionId))
    | _ => simpa [Phase1.add] using earlier
  exact Bool.eq_false_iff.mpr fun replan => listed replan none

/-- A pass whose phase 1 asks for an operator only. -/
theorem run_manual {env : VerifyEnv} {store : Option Moments} {event : EventId}
    {plan : List PlanAction} {prepared : Prepared} (phase : VerificationPhase)
    (prepares : prepare env store event plan = .ok prepared)
    (manual : prepared.phase1.needManual = true) (replan : prepared.phase1.needReplan = false)
    (none : prepared.phase1.failed = []) :
    (run env store event plan phase).map VerificationResult.overallStatus
      = .ok (if allUnverifiable prepared.phase1 then .failed else .manualResolution) := by
  have judged : verifyPhase2Disposition env store event prepared
      = .ok { overall := .manualResolution } := by
    simp [verifyPhase2Disposition, phase1Overall, manual, replan]
  simp [run, prepares, judged, assemble, buildResult, none, overallStatus]

/-- **Nothing observed.** A pass in which some executed immediate action needs an observation, each
such action is unverifiable and none has failed ends in `failed` exactly when the plan has no other
action than these and the ones that are stuck. -/
theorem run_unobserved_iff (env : VerifyEnv) (store : Option Moments) (event : EventId)
    (plan : List PlanAction) (phase : VerificationPhase) (prepared : Prepared)
    (prepares : prepare env store event plan = .ok prepared)
    (needed : ∃ action ∈ prepared.actions,
      NeedsObservation (env.effects store prepared.actions) action)
    (blind : ∀ action ∈ prepared.actions,
      NeedsObservation (env.effects store prepared.actions) action → ∀ item route,
        verifyAction (env.effects store prepared.actions) action = .ok (item, route) →
        item.effectStatus = .unverifiable)
    (none : prepared.phase1.failed = []) :
    (run env store event plan phase).map VerificationResult.overallStatus = .ok .failed
      ↔ ∀ action ∈ prepared.actions,
        NeedsObservation (env.effects store prepared.actions) action
          ∨ Stuck (env.effects store prepared.actions) action := by
  obtain ⟨-, -, verified, -⟩ := prepare_eq_ok prepares
  obtain ⟨first, mem, needs⟩ := needed
  obtain ⟨item, route, verdict⟩ := verifyPhase1_item verified first mem
  have manual : prepared.phase1.needManual = true := by
    refine verdict.manual ?_
    rw [(verifyAction_ruling verdict.given).2.2.routed,
      blind first mem needs item route verdict.given]
    rfl
  have failed : allUnverifiable prepared.phase1 = true
      ↔ ∀ item ∈ prepared.phase1.results, item.effectStatus = .unverifiable := by
    have some : prepared.phase1.results ≠ [] := List.ne_nil_of_mem verdict.listed
    simp [allUnverifiable, none, some]
  rw [run_manual phase prepares manual (verifyPhase1_failed verified none) none]
  trans allUnverifiable prepared.phase1 = true
  · split_ifs with all <;> simp [all]
  rw [failed]
  constructor
  · intro all action mem
    obtain ⟨item, _, verdict⟩ := verifyPhase1_item verified action mem
    exact (verifyAction_ruling verdict.given).2.2.blind (all item verdict.listed)
  · intro all item listed
    obtain ⟨action, mem, route, verdict⟩ := verifyPhase1_origin verified item listed
    obtain needs | stuck := all action mem
    · exact blind action mem needs item route verdict.given
    · exact (verifyAction_ruling verdict.given).2.2.unverifiable stuck

/-- The plan of a block whose observation tool is down. -/
def downEnv : VerifyEnv := { observingEnv with toolAnswer := fun _ => .unavailable }

theorem run_unobserved_iff_block :
    (run downEnv none 1 [⟨1, blockedAddress, some .ip⟩] .effect).map
      VerificationResult.overallStatus = .ok .failed := by
  refine (run_unobserved_iff downEnv none 1 [⟨1, blockedAddress, some .ip⟩] .effect _ rfl
    ⟨_, .head _, by decide, rfl, by decide, rfl⟩ ?_ rfl).mpr ?_
  · intro _ mem _ _ _ done
    cases List.mem_singleton.mp mem
    cases done
    rfl
  · intro _ mem
    cases List.mem_singleton.mp mem
    exact .inl ⟨by decide, rfl, by decide, rfl⟩

/-- **A deferred disposition hides the outage.** The only action that can be observed is
unverifiable, and the pass ends in `manualResolution`. -/
theorem run_unobserved_deferred :
    (run downEnv none 1 containedPlan .effect).map VerificationResult.overallStatus
      = .ok .manualResolution := rfl

end ShadowTrace.Verify
