/-
**The disposition is activated on the current verification.**

The gate in front of the terminal disposition reads the effect results of the pass back from the
context store. If the read shows what this pass wrote (`ShowsWrite`), an activation speaks for the
results of this pass. A write that failed is only logged, and a copy kept while Redis is down is not
refreshed by the write; then the gate sees an older result (`leftover`), and may open on it although
an action of this pass is still executing.
-/

import ShadowTrace.Verify.Success

namespace ShadowTrace.Verify

open Relational

/-! ### Passes that enqueue -/

/-- The pass makes the disposition service enqueue the terminal event status update, outside the
disposition-only path. -/
structure PassEnqueues (env : VerifyEnv) (moments : Moments) (event : EventId)
    (plan : List PlanAction) (prepared : Prepared) : Prop where
  prepares : prepare env (some moments) event plan = .ok prepared
  due : dispositionDue prepared.policy prepared.phase1 = true
  reads : env.access.readRaises = false
  submits : ∃ call, env.service = some call ∧ call.dispositionOnlyIntent = false
    ∧ Closure.enqueued (Closure.activateAndSubmit moments.activating event
      (planRevision moments.activating event prepared.actions) (prepared.call env call)) = true

/-- No result is pending, failed or unverifiable. -/
def EffectsClean (results : List VerificationActionResult) : Prop :=
  ∀ item ∈ results, pendingItem item = false ∧ item.effectStatus ≠ .failed
    ∧ item.effectStatus ≠ .unverifiable

theorem verifyAction_effect {env : EffectEnv} {action : PlanAction}
    {item : VerificationActionResult}
    (done : verifyAction env action = .ok (item, .settled)) :
    item.effectStatus ≠ .failed ∧ item.effectStatus ≠ .unverifiable := by
  have routed := (verifyAction_ruling done).2.2.routed
  constructor
  all_goals
    intro same
    rw [same] at routed
    cases routed

section Pass

variable {env : VerifyEnv} {moments : Moments} {event : EventId} {plan : List PlanAction}
  {prepared : Prepared}

theorem PassEnqueues.effects (pass : PassEnqueues env moments event plan prepared) :
    ∀ item ∈ prepared.phase1.results, item.effectStatus ≠ .failed
      ∧ item.effectStatus ≠ .unverifiable := by
  obtain ⟨-, -, verified, -⟩ := prepare_eq_ok pass.prepares
  have quiet := pass.due
  simp only [dispositionDue, Bool.and_eq_true, Bool.not_eq_true'] at quiet
  intro item mem
  obtain ⟨_, -, _, verdict⟩ := verifyPhase1_origin verified item mem
  obtain rfl := verdict.settled quiet.1.1 quiet.1.2
  exact verifyAction_effect verdict.given

/-- **A pass whose result is read back enqueues on clean effects.** -/
theorem PassEnqueues.clean (pass : PassEnqueues env moments event plan prepared)
    (shows : ShowsWrite env.context env.access) : EffectsClean prepared.phase1.results := by
  obtain ⟨-, -, -, persisted⟩ := prepare_eq_ok pass.prepares
  obtain ⟨_, -, effects, done⟩ := pass.submits
  obtain ⟨_, _, _, _, -, -, -, ready⟩ := Closure.enqueued_opened done
  intro item mem
  exact ⟨not_pending_of_ready pass.due persisted shows effects ready item mem,
    pass.effects item mem⟩

end Pass

/-! ### Gates that open on something else -/

/-- The result would let a disposition go out. -/
def Opens (old : VerificationResult) : Prop :=
  Closure.verificationReady old = true ∧ ∃ verdict approved target,
    Closure.resolveEffects verdict (some old) approved = { disposition := some target }

variable {approved : List SourceDisposition} {target : SourceDisposition}

theorem resolveEffects_of_resolve {input : Closure.ResolveInput}
    (effects : input.dispositionOnly = false)
    (resolved : Closure.resolve input approved = { disposition := some target }) :
    Closure.resolveEffects input.finalVerdict input.verification approved
      = { disposition := some target } := by
  unfold Closure.resolve at resolved
  split_ifs at resolved with notRequired blocked only
  · cases resolved
  · cases resolved
  · exact absurd only (by simp [effects])
  · exact resolved

/-- **A pass that enqueues on something else found a result the gates open on.** -/
theorem PassEnqueues.opens {env : VerifyEnv} {moments : Moments} {event : EventId}
    {plan : List PlanAction} {prepared : Prepared}
    (pass : PassEnqueues env moments event plan prepared)
    (hidden : ¬ ShowsWrite env.context env.access) :
    ∃ old, leftover env.context env.access = some old ∧ Opens old := by
  obtain ⟨-, -, -, persisted⟩ := prepare_eq_ok pass.prepares
  obtain ⟨interim, -, context⟩ := persistPhase1_due pass.due persisted
  obtain ⟨call, -, effects, done⟩ := pass.submits
  obtain ⟨_, target, row, deferred, -, -, resolved, ready⟩ := Closure.enqueued_opened done
  have seen : (prepared.call env call).verification = leftover env.context env.access := by
    show prepared.context.getFullContext env.access = _
    rw [context]
    exact getFullContext_leftover hidden interim
  have intent : (prepared.call env call).dispositionOnlyIntent = false := effects
  unfold Closure.afterEffectResolutionReady at ready
  rw [if_neg (by rw [intent]; decide), seen] at ready
  obtain ⟨old, found, open_⟩ := (Option.any_eq_true _ _).mp ready
  refine ⟨old, found, open_, row.finalVerdict, deferred.approvedTerminalDispositions, target, ?_⟩
  have resolvedEffects := resolveEffects_of_resolve intent resolved
  rw [seen, found] at resolvedEffects
  exact resolvedEffects

/-! ### A pass on an older result -/

def executingBlock : ActionRow :=
  { blockedAddress with
    status := .executing, writebackRequired := false, writebackApplicable := false
    writebackReadiness := .notRequired }

def approvedDisposition (approved : List SourceDisposition) : ActionRow :=
  { submittedDisposition with status := .approved, approvedTerminalDispositions := approved }

def verifyingEvent (verdict : FinalVerdict) : EventRow where
  status := .verifying
  severity := .high
  finalVerdict := verdict
  dispositionPolicy := .required

def executingDb (verdict : FinalVerdict) (approved : List SourceDisposition) : Db where
  events := Table.empty.set 1 (verifyingEvent verdict)
  sources := Table.empty.set 1 0
  actions := (Table.empty.set 1 executingBlock).set 2 (approvedDisposition approved)

def callReading (verification : Option VerificationResult) : Closure.ActivationCall where
  eventDispositionSupported := true
  dispositionOnlyIntent := false
  verification
  templateUnchanged := true
  dispositionAllowed := true
  draft := ⟨9, 9, 9, 1, 9, true⟩
  now := 1
  choice := 0
  raced := none
  raisesAfterwards := false

theorem executingDb_enqueues {verdict : FinalVerdict} {old : VerificationResult}
    (ready : Closure.verificationReady old = true)
    (resolved : Closure.resolveEffects verdict (some old) approved
      = { disposition := some target }) :
    Closure.enqueued (Closure.activateAndSubmit (executingDb verdict approved) 1 1
      (callReading (some old))) = true := by
  have event : (executingDb verdict approved).events.get 1 = some (verifyingEvent verdict) := rfl
  have deferred : Closure.getDeferredAction (executingDb verdict approved) 1 1
      = some (2, approvedDisposition approved) := rfl
  have resolves : Closure.resolveFor (verifyingEvent verdict) (approvedDisposition approved)
      (callReading (some old)) = { disposition := some target } := resolved
  have opened : Closure.afterEffectResolutionReady (executingDb verdict approved) 1
      (verifyingEvent verdict).finalVerdict 1 (callReading (some old)) = true := ready
  rw [Closure.activateAndSubmit_opened event deferred (by simp [verifyingEvent]) resolves opened]
  rfl

def executingEnv (context : ContextStore) (access : ContextAccess) : VerifyEnv :=
  { observingEnv with context, access, service := some (callReading none) }

/-- **An older result the gates open on is enough**: the pass enqueues while an action of its own is
pending. -/
theorem executingEnv_enqueues {context : ContextStore} {access : ContextAccess}
    {old : VerificationResult} (reads : access.readRaises = false)
    (hidden : ¬ ShowsWrite context access) (found : leftover context access = some old)
    (opens : Opens old) :
    ∃ moments prepared, PassEnqueues (executingEnv context access) moments 1 containedPlan prepared
      ∧ ¬ EffectsClean prepared.phase1.results := by
  obtain ⟨ready, verdict, approved, _, resolved⟩ := opens
  have prepares : ∃ prepared interim, prepare (executingEnv context access)
        (some (still (executingDb verdict approved))) 1 containedPlan = .ok prepared
      ∧ dispositionDue prepared.policy prepared.phase1 = true
      ∧ planRevision (executingDb verdict approved) 1 prepared.actions = 1
      ∧ prepared.phase1.results.any pendingItem = true
      ∧ prepared.context = context.write access interim :=
    ⟨_, _, rfl, rfl, rfl, rfl, rfl⟩
  obtain ⟨prepared, interim, prepares, due, revision, pending, written⟩ := prepares
  refine ⟨still (executingDb verdict approved), prepared, ⟨prepares, due, reads, ?_⟩, ?_⟩
  · refine ⟨callReading none, rfl, rfl, ?_⟩
    have seen : prepared.call (executingEnv context access) (callReading none)
        = callReading (some old) := by
      show callReading (prepared.context.getFullContext access) = _
      rw [written, getFullContext_leftover hidden, found]
    show Closure.enqueued (Closure.activateAndSubmit (executingDb verdict approved) 1
      (planRevision (executingDb verdict approved) 1 prepared.actions) _) = true
    rw [revision, seen]
    exact executingDb_enqueues ready resolved
  · intro clean
    obtain ⟨item, mem, isPending⟩ := List.any_eq_true.mp pending
    rw [(clean item mem).1] at isPending
    cases isPending

/-- **When a verify pass activates on its own results.** For a context store and a pattern of
accesses, every pass that enqueues the terminal disposition does so on clean effects of its own iff
the read of the context fails, shows the write of the pass, or shows a result that the gates refuse
anyway. -/
theorem current_verification_iff (context : ContextStore) (access : ContextAccess) :
    (∀ (env : VerifyEnv) (moments : Moments) (event : EventId) (plan : List PlanAction)
        (prepared : Prepared), env.context = context → env.access = access →
        PassEnqueues env moments event plan prepared → EffectsClean prepared.phase1.results)
      ↔ access.readRaises = true ∨ ShowsWrite context access
        ∨ ∀ old, leftover context access = some old → ¬ Opens old := by
  constructor
  · intro always
    by_contra none
    simp only [not_or, not_forall, not_not, Bool.not_eq_true] at none
    obtain ⟨reads, hidden, _, found, opens⟩ := none
    obtain ⟨moments, prepared, pass, dirty⟩ := executingEnv_enqueues reads hidden found opens
    exact dirty (always _ moments 1 containedPlan prepared rfl rfl pass)
  rintro safe env moments event plan prepared rfl rfl pass
  rcases safe with raises | shows | refused
  · rw [pass.reads] at raises
    cases raises
  · exact pass.clean shows
  by_cases shows : ShowsWrite env.context env.access
  · exact pass.clean shows
  · obtain ⟨old, found, opens⟩ := pass.opens shows
    exact absurd opens (refused old found)

/-! ### Two ways to an older result -/

def earlierResult : VerificationResult := Closure.emptyVerification .success

def journalledEarlier : ContextStore where
  journal := ⟨1, some earlierResult⟩
  redis := none
  degraded := none
  closedSnapshot := none
  behind := fun _ absent => nomatch absent

/-- The earlier result is served by the process while Redis is down. -/
def degradedEarlier : ContextStore :=
  { journalledEarlier with degraded := some (some earlierResult, 0) }

def lostWrite : ContextAccess := { observingEnv.access with commits := false }
def withoutRedis : ContextAccess :=
  { observingEnv.access with caches := false, reachable := false, readAt := 1 }

theorem earlierResult_opens : Opens earlierResult :=
  ⟨rfl, .confirmedThreat, [.contained], .contained, rfl⟩

/-- **The terminal disposition is enqueued while an action is still executing**: once because the
write of the pass failed, once because the committed write did not reach the degraded copy. -/
theorem current_verification_stale :
    (∃ moments prepared, PassEnqueues (executingEnv journalledEarlier lostWrite) moments 1
        containedPlan prepared ∧ ¬ EffectsClean prepared.phase1.results)
      ∧ ∃ moments prepared, PassEnqueues (executingEnv degradedEarlier withoutRedis) moments 1
        containedPlan prepared ∧ ¬ EffectsClean prepared.phase1.results := by
  constructor
  · refine executingEnv_enqueues rfl ?_ rfl earlierResult_opens
    rintro ⟨-, commits, -⟩
    cases commits
  refine executingEnv_enqueues rfl ?_ rfl earlierResult_opens
  rintro ⟨-, -, redis | ⟨degraded, -⟩⟩
  · cases redis
  · cases degraded

end ShadowTrace.Verify
