/-
**What a soft time limit does to its event and its intent.**
-/

import ShadowTrace.Intents.SoftLimit

namespace ShadowTrace.Intents

open Relational Fallible

/-! ### Atomic and owned -/

variable {decision : SoftTimeLimitDecision} {probe : SoftTimeLimitProbe} {maxAttempts : Nat}

section

variable {cfg : IntentSettings} {ledger after : Ledger} {call : SoftLimitCall}
  {outcome : SoftTimeLimitOutcome} {status : EventStatus} {row : IntentRow} {broker : Option TaskId}
  {id : IntentId}

/-- What the handling of a soft time limit should guarantee. -/
structure SoundOutcome (cfg : IntentSettings) (ledger : Ledger) (call : SoftLimitCall) : Prop where
  legal : ∃ after outcome, applySoftTimeLimitOutcome cfg ledger call = .ok (after, outcome)
  owned : ∀ id row, call.intent = some id → ledger.intents.get id = some row →
    row.status ∉ terminalIntentStatuses →
    (row.brokerTaskId = none ∨ row.brokerTaskId ≠ call.broker) →
    ∀ after outcome, applySoftTimeLimitOutcome cfg ledger call = .ok (after, outcome) →
      after = ledger
  atomic : ∀ after outcome, applySoftTimeLimitOutcome cfg ledger call = .ok (after, outcome) →
    ∀ id row next, ledger.intents.get id = some row → after.intents.get id = some next →
      next.status = .dead → row.status ≠ .dead →
      after.eventStatus call.event = some .closed ∨ after.eventStatus call.event = some .failed
  /-- No intent is retried while the outcome of an outbox in force is unknown. -/
  guarded : (∃ key outbox, ledger.db.outboxes.get key = some outbox ∧ outbox.eventId = call.event
      ∧ outbox.supersededByDispositionId = none
      ∧ outbox.latestWritebackStatus = some .unknown) →
    ∀ after outcome, applySoftTimeLimitOutcome cfg ledger call = .ok (after, outcome) →
      ∀ id row next, ledger.intents.get id = some row → after.intents.get id = some next →
        next.status = .retry → next = row

/-- The status moves a call chooses are legal: an intent the caller owns is not pending, and one
that waits for a retry already is not to be recovered. -/
def MovesLegal (cfg : IntentSettings) (ledger : Ledger) (call : SoftLimitCall) : Prop :=
  ∀ status row, ledger.eventStatus call.event = some status → ledger.named call = some row →
    fenceReason (some row) call.broker = none →
    row.status ≠ .pending
      ∧ (row.status = .retry → row.orchestrationMode ≠ .analysisOnly →
        decideSoftTimeLimitOutcome status (ledger.lockedProbe call) (some row.attempt)
          cfg.maxAttempts ≠ .recovered)

theorem named_eq_some :
    ledger.named call = some row ↔ ∃ id, call.intent = some id ∧ ledger.intents.get id = some row :=
  Option.bind_eq_some_iff

theorem fenceReason_eq_none (free : fenceReason (some row) broker = none) :
    ∃ task, row.brokerTaskId = some task ∧ broker = some task := by
  unfold fenceReason at free
  dsimp only at free
  split at free
  · next durable presented stored =>
    split_ifs at free with same
    exact ⟨durable, stored, congrArg some same.symm⟩
  · cases free

theorem fenced_of_foreign (foreign : row.brokerTaskId = none ∨ row.brokerTaskId ≠ broker) :
    ∃ reason, fenceReason (some row) broker = some reason := by
  refine Option.ne_none_iff_exists'.mp fun free => ?_
  obtain ⟨_, held, shown⟩ := fenceReason_eq_none free
  rw [held, shown] at foreign
  simp at foreign

theorem apply_owned (named : call.intent = some id) (found : ledger.intents.get id = some row)
    (active : row.status ∉ terminalIntentStatuses)
    (foreign : row.brokerTaskId = none ∨ row.brokerTaskId ≠ call.broker)
    (done : applySoftTimeLimitOutcome cfg ledger call = .ok (after, outcome)) :
    after = ledger := by
  obtain ⟨reason, fenced⟩ := fenced_of_foreign foreign
  unfold applySoftTimeLimitOutcome at done
  split at done
  · exact (Prod.mk.inj (Except.ok.inj done)).1.symm
  next status there =>
  have plan : ledger.planOf cfg call status = .keep .ignored reason := by
    unfold Ledger.planOf
    rw [named_eq_some.mpr ⟨id, named, found⟩]
    exact plan_fenced fenced active
  rw [plan] at done
  exact (Prod.mk.inj (Except.ok.inj done)).1.symm

theorem apply_atomic {next : IntentRow}
    (done : applySoftTimeLimitOutcome cfg ledger call = .ok (after, outcome))
    (found : ledger.intents.get id = some row) (reached : after.intents.get id = some next)
    (dead : next.status = .dead) (open_ : row.status ≠ .dead) :
    after.eventStatus call.event = some .closed ∨ after.eventStatus call.event = some .failed := by
  cases apply_cases done with
  | kept =>
    obtain rfl := Option.mem_unique found reached
    exact absurd dead open_
  | healed _ _ closed => exact .inl closed
  | @recovered key old retried status named there present chosen changed =>
    have status := (recover_eq_ok changed).2.1
    simp only [Ledger.put, Table.get_set] at reached
    split_ifs at reached with same
    · cases reached
      rw [dead] at status
      cases status
    · obtain rfl := Option.mem_unique found reached
      exact absurd dead open_
  | failed there _ marked =>
    rw [failed_status there marked]
    split_ifs
    · exact .inl rfl
    · exact .inr rfl

theorem apply_guarded {key : OutboxId} {outbox : OutboxRow} {next : IntentRow}
    (stored : ledger.db.outboxes.get key = some outbox) (ours : outbox.eventId = call.event)
    (inForce : outbox.supersededByDispositionId = none)
    (unknown : outbox.latestWritebackStatus = some .unknown)
    (done : applySoftTimeLimitOutcome cfg ledger call = .ok (after, outcome))
    (found : ledger.intents.get id = some row) (reached : after.intents.get id = some next)
    (retried : next.status = .retry) : next = row := by
  have mem : (key, outbox) ∈ unknownOutboxes ledger.db call.event := by
    simp [unknownOutboxes, Table.mem_rows, stored, ours, inForce, unknown]
  -- a row that was made dead does not wait for a retry
  have dead : ∀ {old marked : IntentRow} {reason : SoftLimitReason} {other : IntentId},
      ledger.intents.get other = some old → old.markDead reason call.now = .ok marked →
      (ledger.intents.set other marked).get id = some next → next = row := by
    intro _ _ _ _ there changed reached
    rw [Table.get_set] at reached
    split_ifs at reached with same
    · subst same
      obtain rfl := Option.mem_unique found there
      cases reached
      obtain ⟨-, kept⟩ | ⟨-, -, dead, -⟩ := markDead_cases changed
      · exact kept
      · rw [retried] at dead
        cases dead
    · exact Option.mem_unique reached found
  cases apply_cases done with
  | kept => exact Option.mem_unique reached found
  | healed _ there _ marked => exact dead there marked reached
  | recovered _ _ _ chosen =>
    have none := (decide_recovered chosen).1
    unfold Ledger.lockedProbe at none
    rw [refresh_count] at none
    exact absurd none (List.length_pos_of_mem mem).ne'
  | failed there _ marked =>
    obtain rfl | ⟨_, _, marked, _, there, changed, rfl⟩ := onIntent_cases marked
    · exact Option.mem_unique reached found
    · exact dead there changed reached

/-! ### Legal moves -/

def PlanLegal (row : IntentRow) : SoftLimitPlan → Prop
  | .keep _ _ => True
  | .heal | .fail _ _ => row.status ≠ .pending
  | .recover => .retry ∈ intentTransitions row.status

theorem onNamed_total {db : Db} {Legal : IntentRow → Prop}
    {change : IntentId → IntentRow → Except SoftLimitError IntentRow}
    (possible : ∀ id row, (∃ next, change id row = .ok next) ↔ Legal row) :
    (∃ after, Ledger.onIntent { ledger with db } call.intent change = .ok after)
      ↔ ∀ row, ledger.named call = some row → Legal row := by
  rw [onIntent_total]
  constructor
  · intro total row named
    obtain ⟨id, asked, found⟩ := named_eq_some.mp named
    exact (possible id row).mp (total id row asked found)
  · intro legal id row asked found
    exact (possible id row).mpr (legal row (named_eq_some.mpr ⟨id, asked, found⟩))

theorem outcome_total {written : Except SoftLimitError Ledger} {answer : SoftTimeLimitOutcome} :
    (∃ after outcome, (written >>= fun after => pure (after, answer)) = .ok (after, outcome))
      ↔ ∃ after, written = .ok after := by
  cases written with
  | error | ok => simp

theorem execute_total (plan : SoftLimitPlan) :
    (∃ after outcome, ledger.execute call plan = .ok (after, outcome))
      ↔ ∀ row, ledger.named call = some row → PlanLegal row plan := by
  cases plan with
  | keep decision reason => exact ⟨fun _ _ _ => trivial, fun _ => ⟨ledger, ⟨decision, reason⟩, rfl⟩⟩
  | heal => exact outcome_total.trans (onNamed_total fun _ _ => markDead_total)
  | recover => exact outcome_total.trans (onNamed_total fun _ _ => recover_total)
  | fail decision reason =>
    have failed : ledger.execute call (.fail decision reason)
        = (Ledger.onIntent { ledger with db := failedEvent ledger.db call.event } call.intent
            fun _ => IntentRow.markDead reason call.now)
          >>= fun after => pure (after, ⟨decision, reason⟩) := by
      unfold Ledger.execute
      rw [failEvent_eq]
      rfl
    rw [failed]
    exact outcome_total.trans (onNamed_total fun _ _ => markDead_total)

theorem retry_legal {status : InvestigationIntentStatus}
    (active : status ∉ terminalIntentStatuses) :
    .retry ∈ intentTransitions status ↔ status ≠ .pending ∧ status ≠ .retry := by
  revert active
  cases status <;> decide

theorem execute_fail {reason : SoftLimitReason}
    (there : ledger.eventStatus call.event = some status)
    (done : ledger.execute call (.fail decision reason) = .ok (after, outcome)) :
    after.eventStatus call.event = some (if status = .closed then .closed else .failed) := by
  obtain ⟨_, event, done⟩ := bind_eq_ok.mp done
  rw [failEvent_eq] at event
  cases event
  obtain ⟨_, dead, done⟩ := bind_eq_ok.mp done
  cases done
  exact failed_status there dead

theorem ownedPlan_legal (open_ : decision = .recovered → row.status ∉ terminalIntentStatuses) :
    PlanLegal row (ownedPlan (some row) decision) ↔ row.status ≠ .pending
      ∧ (row.status = .retry → row.orchestrationMode ≠ .analysisOnly → decision ≠ .recovered) := by
  by_cases recovered : decision = .recovered
  · have active := open_ recovered
    subst recovered
    by_cases analysis : row.orchestrationMode = .analysisOnly
    · simp [ownedPlan, PlanLegal, analysis]
    have plan : ownedPlan (some row) .recovered = .recover := by
      exact if_neg (by simp [active, analysis])
    rw [plan]
    show .retry ∈ intentTransitions row.status ↔ _
    rw [retry_legal active]
    simp [analysis]
  · have plan : PlanLegal row (ownedPlan (some row) decision) ↔ row.status ≠ .pending := by
      cases decision with
      | recovered => exact absurd rfl recovered
      | terminal | ignored | reconcileRequired => exact Iff.rfl
    rw [plan]
    exact ⟨fun settled => ⟨settled, fun _ _ => recovered⟩, And.left⟩

theorem fencedPlan_legal {reason : SoftLimitReason} {hasSibling : Bool}
    (fenced : fenceReason (some row) broker = some reason) :
    PlanLegal row (softLimitPlan status (some row) broker probe maxAttempts hasSibling) := by
  by_cases active : row.status ∉ terminalIntentStatuses
  · rw [plan_fenced fenced active]
    exact trivial
  have settled : row.status ≠ .pending := by
    intro pending
    rw [pending] at active
    revert active
    decide
  unfold softLimitPlan
  rw [fenced]
  split_ifs
  · exact settled
  · exact settled
  · exact trivial

theorem openAttempt_retry (retry : row.status = .retry) :
    openAttempt (some row) = some row.attempt :=
  if_neg (by rw [retry]; decide)

theorem active_of_recovered
    (recovered : decideSoftTimeLimitOutcome status probe (openAttempt (some row)) maxAttempts
      = .recovered) : row.status ∉ terminalIntentStatuses := by
  intro ended
  exact (decide_recovered recovered).2 (if_pos ended)

theorem apply_total :
    (∃ after outcome, applySoftTimeLimitOutcome cfg ledger call = .ok (after, outcome))
      ↔ MovesLegal cfg ledger call := by
  unfold applySoftTimeLimitOutcome MovesLegal
  cases there : ledger.eventStatus call.event with
  | none => exact iff_of_true ⟨_, _, rfl⟩ fun _ _ present => by cases present
  | some status =>
    rw [execute_total]
    simp only [Option.some.injEq, @forall_comm EventStatus, forall_eq']
    refine forall_congr' fun row => forall_congr' fun named => ?_
    unfold Ledger.planOf
    rw [named]
    cases fenced : fenceReason (some row) call.broker with
    | some => exact iff_of_true (fencedPlan_legal fenced) fun free => by cases free
    | none =>
      rw [softLimitPlan, fenced]
      rw [ownedPlan_legal active_of_recovered]
      rw [forall_prop_of_true rfl]
      refine and_congr_right' (forall_congr' fun retry => ?_)
      rw [openAttempt_retry retry]

/-- **Atomic and owned, exactly when the moves are legal.** -/
theorem soft_limit_sound_iff (cfg : IntentSettings) (ledger : Ledger) (call : SoftLimitCall) :
    SoundOutcome cfg ledger call ↔ MovesLegal cfg ledger call := by
  constructor
  · intro sound
    exact apply_total.mp sound.legal
  intro legal
  refine ⟨apply_total.mpr legal, ?_, ?_, ?_⟩
  · intro _ _ named found active foreign _ _ done
    exact apply_owned named found active foreign done
  · intro _ _ done _ _ _ found reached dead open_
    exact apply_atomic done found reached dead open_
  · rintro ⟨_, _, stored, ours, inForce, unknown⟩ _ _ done _ _ _ found
      reached retried
    exact apply_guarded stored ours inForce unknown done found reached retried

def eventOnly (status : EventStatus) : Db where
  events := Table.empty.set 0
    { status, severity := .high, finalVerdict := .none, dispositionPolicy := .notRequired }

def firstRequest : HttpRequest :=
  { event := 0, requestedBy := 0, idempotencyKey := 0, payloadSha256 := 0
    orchestrationMode := .graph, includeResponseExecution := false, generateReport := true }

def defaultIntentSettings : IntentSettings := ⟨30, 5, by decide⟩

def firstDelivery : SoftLimitCall :=
  { event := 0, intent := some 0, broker := some (.derived 0 1)
    probe := ⟨false, false, [], 0⟩, journal := {}, choices := ⟨0, 0⟩, isMock := false, now := 0 }

/-- An accepted request waits under the task id of its first delivery; a call with that id fails
with an illegal move. -/
theorem soft_limit_pending_refused :
    ¬ SoundOutcome defaultIntentSettings
      ⟨eventOnly .new, Table.empty.set 0 (httpIntent 0 firstRequest 0)⟩ firstDelivery := by
  intro sound
  obtain ⟨_, _, done⟩ := sound.legal
  cases done

end

/-! ### A newer investigation -/

section

variable {cfg : IntentSettings} {ledger after : Ledger} {call : SoftLimitCall} {id : IntentId}
  {outcome : SoftTimeLimitOutcome} {status : EventStatus}

/-- Another intent of the event is active. -/
def LiveSibling (ledger : Ledger) (event : EventId) (id : IntentId) : Prop :=
  ∃ other row, other ≠ id ∧ ledger.intents.get other = some row ∧ row.eventId = event
    ∧ row.status ∈ activeIntentStatuses

/-- The call does not fail the event. -/
def SparesEvent (cfg : IntentSettings) (ledger : Ledger) (call : SoftLimitCall) : Prop :=
  ∀ after outcome, applySoftTimeLimitOutcome cfg ledger call = .ok (after, outcome) →
    after.eventStatus call.event = some .failed → ledger.eventStatus call.event = some .failed

def Recovers (cfg : IntentSettings) (ledger : Ledger) (call : SoftLimitCall)
    (status : EventStatus) (row : IntentRow) : Prop :=
  row.orchestrationMode ≠ .analysisOnly
    ∧ decideSoftTimeLimitOutcome status (ledger.lockedProbe call) (openAttempt (some row))
      cfg.maxAttempts = .recovered

/-- The event is at its end, or the intent the call names is there and the call is fenced off from
it, refused because it is pending, or recovers it. -/
def StopsShort (cfg : IntentSettings) (ledger : Ledger) (call : SoftLimitCall) : Prop :=
  ∀ status, ledger.eventStatus call.event = some status →
    status = .failed ∨ status = .closed ∨ ∃ row, ledger.named call = some row
      ∧ (fenceReason (some row) call.broker ≠ none ∨ row.status = .pending
        ∨ Recovers cfg ledger call status row)

theorem hasActiveSibling_of_live (named : call.intent = some id)
    (sibling : LiveSibling ledger call.event id) :
    ledger.hasActiveSiblingIntent call.event call.intent = true := by
  obtain ⟨other, row, apart, found, ours, active⟩ := sibling
  unfold Ledger.hasActiveSiblingIntent
  rw [List.any_eq_true]
  refine ⟨(other, row), Table.mem_rows.mpr found, ?_⟩
  have different : some id ≠ some other := fun same => apart (Option.some.inj same).symm
  simp [ours, active, named, different]

theorem plan_sibling {intent : Option IntentRow} {broker : Option TaskId}
    (fenced : fenceReason intent broker ≠ none) :
    ∃ reason, softLimitPlan status intent broker probe maxAttempts true
      = .keep .ignored reason := by
  obtain ⟨reason, found⟩ := Option.ne_none_iff_exists'.mp fenced
  unfold softLimitPlan
  rw [found]
  exact ⟨reason, if_neg (by simp)⟩

theorem ownedPlan_fails {intent : Option IntentRow} (open_ : decision ≠ .ignored)
    (unrecovered : decision = .recovered → ∃ row, intent = some row
      ∧ row.orchestrationMode = .analysisOnly) :
    ∃ decision' reason, ownedPlan intent decision = .fail decision' reason := by
  cases decision with
  | ignored => exact absurd rfl open_
  | terminal | reconcileRequired => exact ⟨_, _, rfl⟩
  | recovered =>
    obtain ⟨_, rfl, analysis⟩ := unrecovered rfl
    exact ⟨_, _, if_pos (.inr analysis)⟩

theorem plan_fails (unclosed : status ≠ .closed)
    (free : ∀ row, ledger.named call = some row → fenceReason (some row) call.broker = none
      ∧ ¬ Recovers cfg ledger call status row) :
    ∃ decision reason, ledger.planOf cfg call status = .fail decision reason := by
  have owned : fenceReason (ledger.named call) call.broker = none := by
    cases present : ledger.named call with
    | none => rfl
    | some row => exact (free row present).1
  unfold Ledger.planOf softLimitPlan
  rw [owned]
  refine ownedPlan_fails (fun ignored => unclosed (decide_ignored ignored)) fun recovered => ?_
  cases present : ledger.named call with
  | none =>
    rw [present] at recovered
    exact absurd rfl (decide_recovered recovered).2
  | some row =>
    rw [present] at recovered
    refine ⟨row, rfl, ?_⟩
    by_contra graph
    exact (free row present).2 ⟨graph, recovered⟩

/-- **A late soft limit spares a newer investigation exactly when it stops short of failing the
event.** -/
theorem soft_limit_spares_iff (cfg : IntentSettings) (ledger : Ledger) (call : SoftLimitCall)
    (id : IntentId) (named : call.intent = some id) (sibling : LiveSibling ledger call.event id) :
    SparesEvent cfg ledger call ↔ StopsShort cfg ledger call := by
  constructor
  · intro spares _ there
    by_contra short
    push Not at short
    obtain ⟨unfailed, unclosed, free⟩ := short
    obtain ⟨decision, reason, plan⟩ := plan_fails unclosed fun row present =>
      ⟨(free row present).1, (free row present).2.2⟩
    -- the plan is carried out, and the event fails
    obtain ⟨after, outcome, done⟩ := (execute_total (.fail decision reason)).mpr
      fun row present => (free row present).2.1
    have ended := execute_fail there done
    rw [← plan] at done
    rw [if_neg unclosed] at ended
    have applied : applySoftTimeLimitOutcome cfg ledger call = .ok (after, outcome) := by
      unfold applySoftTimeLimitOutcome
      rw [there]
      exact done
    have before := spares after outcome applied ended
    rw [there] at before
    exact unfailed (Option.some.inj before)
  · intro short after outcome done ended
    cases apply_cases done with
    | kept | healed | recovered => exact ended
    | failed there plan marked =>
      rename_i status _ _
      rcases short status there with rfl | rfl | ⟨row, present, stops⟩
      · exact there
      · rw [failed_status there marked, if_pos rfl] at ended
        cases ended
      exfalso
      unfold Ledger.planOf at plan
      rw [present, hasActiveSibling_of_live named sibling] at plan
      cases fenced : fenceReason (some row) call.broker with
      | some fence =>
        obtain ⟨kept, keeps⟩ := plan_sibling (by rw [fenced]; exact Option.some_ne_none fence)
        rw [keeps] at plan
        cases plan
      | none =>
        obtain free | pending | ⟨graph, recovered⟩ := stops
        · exact free fenced
        · exact (apply_total.mp ⟨after, outcome, done⟩ status row there present fenced).1 pending
        unfold softLimitPlan at plan
        rw [fenced] at plan
        have recover : ownedPlan (some row) .recovered = .recover :=
          if_neg (by simp [graph, active_of_recovered recovered])
        rw [recovered, recover] at plan
        cases plan

/-- An automatic intent that died, and a request that came after it. -/
def queueBehindDead : Ledger :=
  ⟨eventOnly .new, (Table.empty.set 0 { autoIntent 0 .graph 0 with
      status := .dead, brokerTaskId := some (.derived 0 1) }).set 1 (httpIntent 1 firstRequest 0)⟩

theorem queueBehindDead_live : LiveSibling queueBehindDead 0 0 :=
  ⟨1, httpIntent 1 firstRequest 0, by decide, rfl, rfl, by decide⟩

theorem soft_limit_spares_iff_queue : LiveSibling queueBehindDead 0 0
    ∧ (SparesEvent defaultIntentSettings queueBehindDead firstDelivery
      ↔ StopsShort defaultIntentSettings queueBehindDead firstDelivery) :=
  ⟨queueBehindDead_live, soft_limit_spares_iff defaultIntentSettings queueBehindDead firstDelivery 0
    rfl queueBehindDead_live⟩

/-- The late call for the dead intent still holds its broker id, and fails the event under the
request that waits. -/
theorem soft_limit_kills_queue : LiveSibling queueBehindDead 0 0
    ∧ ¬ SparesEvent defaultIntentSettings queueBehindDead firstDelivery := by
  refine ⟨queueBehindDead_live, fun spares => ?_⟩
  have failed := spares _ _ rfl rfl
  revert failed
  decide

end

end ShadowTrace.Intents
