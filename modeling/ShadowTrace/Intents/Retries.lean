/-
**How often an intent is tried again.**

One intent goes through claims, publications that succeed, fail or find a sibling, deliveries and
reconciliations, in any order. `Trial` counts its claims. A claim from `pending` or `retry` is paid
for by the attempt that follows it, so that the claims never run ahead of the attempts by more than
one (`WithinBudget`).

Taking over a claim that ran out and finding a sibling at work count an attempt without looking at
the limit and break the bound; so does a failure that is not counted.
-/

import ShadowTrace.Intents.Deliveries

namespace ShadowTrace.Intents

open Fallible Machine

/-! ### One intent -/

/-- What can happen to one intent. -/
inductive TrialOp
  | claim (worker : WorkerId)
  | publish (event : Option EventStatus) (siblingBlocking responseEligible : Bool)
  | publishFailed (failure : PublishFailure) (conserveRetryBudget : Bool)
  | start (task : TaskId)
  | reconcile (event : Option EventStatus)

structure TrialLabel where
  now : Time
  op : TrialOp

/-- One intent, with the number of its claims. -/
structure Trial where
  row : IntentRow
  claims : Nat

def TrialLabel.change (cfg : IntentSettings) (id : IntentId) (label : TrialLabel)
    (row : IntentRow) : Except IntentTransitionError (Option IntentRow) :=
  match label.op with
  | .claim worker => row.claim cfg worker label.now
  | .publish event sibling eligible => row.commitEnqueued id event sibling eligible label.now
  | .publishFailed failure conserve => row.revertEnqueued cfg id failure conserve label.now
  | .start task => .ok (row.markStarted id task label.now).2
  | .reconcile event => row.reconcile cfg id event label.now

def trialStep (cfg : IntentSettings) (id : IntentId) (trial : Trial) (label : TrialLabel) : Trial :=
  match label.change cfg id trial.row with
  | .ok (some next) =>
    { row := next
      claims := match label.op with
        | .claim _ => trial.claims + 1
        | _ => trial.claims }
  | _ => trial

/-! ### The budget -/

section

variable {cfg : IntentSettings} {id : IntentId} {trial : Trial} {label : TrialLabel}
  {next row : IntentRow} {claims : Nat} {now : Time}

/-- The transaction stays within the budget: an edge that counts without a test is taken below the
limit only, and no failure goes uncounted. -/
def Counted (cfg : IntentSettings) (trial : Trial) (label : TrialLabel) : Prop :=
  match label.op with
  | .claim _ => trial.row.leaseExpired label.now = true → trial.row.attempt + 1 < cfg.maxAttempts
  | .publish _ sibling _ => sibling = true → trial.row.attempt + 1 < cfg.maxAttempts
  | .publishFailed _ conserve => conserve = false
  | _ => True

instance Counted.decidable (cfg : IntentSettings) (trial : Trial) :
    ∀ label, Decidable (Counted cfg trial label)
  | ⟨now, .claim _⟩ => inferInstanceAs (Decidable (trial.row.leaseExpired now = true →
      trial.row.attempt + 1 < cfg.maxAttempts))
  | ⟨_, .publish _ sibling _⟩ => inferInstanceAs (Decidable (sibling = true →
      trial.row.attempt + 1 < cfg.maxAttempts))
  | ⟨_, .publishFailed _ conserve⟩ => inferInstanceAs (Decidable (conserve = false))
  | ⟨_, .start _⟩ | ⟨_, .reconcile _⟩ => isTrue trivial

def IntentRow.waiting (row : IntentRow) : Prop := row.status = .pending ∨ row.status = .retry

/-- **The invariant**: the attempts stay below the limit, and every claim but the last is paid for
by an attempt. -/
structure WithinBudget (cfg : IntentSettings) (trial : Trial) : Prop where
  attempts : trial.row.attempt < cfg.maxAttempts
  claims : trial.claims ≤ trial.row.attempt + 1
  waiting : trial.row.waiting → trial.claims ≤ trial.row.attempt
  leased : trial.row.status = .claimed → trial.row.claimExpiresAt ≠ none

theorem withinBudget_of_taken
    (taken : next.status ≠ .pending ∧ next.status ≠ .retry ∧ next.status ≠ .claimed)
    (budget : next.attempt < cfg.maxAttempts ∧ claims ≤ next.attempt + 1) :
    WithinBudget cfg ⟨next, claims⟩ := by
  refine ⟨budget.1, budget.2, fun waiting => ?_, fun claimed => absurd claimed taken.2.2⟩
  rcases waiting with pending | retry
  · exact absurd pending taken.1
  · exact absurd retry taken.2.1

theorem withinBudget_of_claimed (status : next.status = .claimed)
    (leased : next.claimExpiresAt ≠ none)
    (budget : next.attempt < cfg.maxAttempts ∧ claims ≤ next.attempt + 1) :
    WithinBudget cfg ⟨next, claims⟩ := by
  refine ⟨budget.1, budget.2, fun waiting => ?_, fun _ => leased⟩
  rw [IntentRow.waiting, status] at waiting
  simp at waiting

theorem withinBudget_of_retried (status : next.status = .retry)
    (budget : next.attempt < cfg.maxAttempts ∧ claims ≤ next.attempt) :
    WithinBudget cfg ⟨next, claims⟩ := by
  refine ⟨budget.1, Nat.le_succ_of_le budget.2, fun _ => budget.2, fun claimed => ?_⟩
  rw [status] at claimed
  cases claimed

theorem markStarted_attempt {task : TaskId} (done : (row.markStarted id task now).2 = some next) :
    next.attempt = row.attempt := by
  unfold IntentRow.markStarted at done
  split_ifs at done
  · cases done
    rfl
  · cases done
    rfl

theorem claim_leased {worker : WorkerId} (done : row.claim cfg worker now = .ok (some next)) :
    next.claimExpiresAt ≠ none := by
  obtain ⟨free, -, done⟩ := bind_eq_ok.mp done
  split_ifs at done
  · obtain rfl := Option.some.inj (eq_of_bind_pure done)
    exact Option.some_ne_none _
  · cases done

theorem trialStep_withinBudget (within : WithinBudget cfg trial)
    (counted : Counted cfg trial label) :
    WithinBudget cfg (trialStep cfg id trial label) := by
  obtain ⟨attempts, claims, waits, leased⟩ := within
  unfold trialStep
  split
  · next next changed =>
    obtain ⟨_, op⟩ := label
    cases op with
    | claim =>
      have held := claim_leased changed
      obtain ⟨status, -, ⟨expired, -, attempt⟩ | ⟨waiting, attempt⟩⟩ := claim_row changed
      · have below : trial.row.attempt + 1 < cfg.maxAttempts := counted expired
        exact withinBudget_of_claimed status held (by dsimp only; omega)
      · have paid := waits waiting
        exact withinBudget_of_claimed status held (by dsimp only; omega)
    | publish =>
      obtain ⟨-, -, ⟨status, attempt⟩ | ⟨blocked, status, attempt⟩ | ⟨-, status, attempt, -, -⟩⟩ :=
        commitEnqueued_row changed
      · exact withinBudget_of_taken (by rw [status]; decide) (by dsimp only; omega)
      · have below : trial.row.attempt + 1 < cfg.maxAttempts := counted blocked
        exact withinBudget_of_retried status (by dsimp only; omega)
      · exact withinBudget_of_taken (by rw [status]; decide) (by dsimp only; omega)
    | publishFailed _ conserve =>
      obtain ⟨-, -, ⟨status, attempt⟩ | ⟨conserved, -, -⟩ | ⟨below, status, attempt⟩⟩ :=
        revertEnqueued_row changed
      · exact withinBudget_of_taken (by rw [status]; decide) (by dsimp only; omega)
      · have spent : conserve = false := counted
        rw [conserved] at spent
        cases spent
      · exact withinBudget_of_retried status (by dsimp only; omega)
    | start =>
      have started := Except.ok.inj changed
      have attempt := markStarted_attempt started
      obtain ⟨-, -, status, -⟩ := markStarted_row started
      exact withinBudget_of_taken (by rw [status]; decide) (by dsimp only; omega)
    | reconcile =>
      obtain ⟨-, -, -, ⟨-, status, attempt⟩ | ⟨-, status, attempt⟩ | ⟨below, status, attempt⟩⟩ :=
        reconcile_row changed
      · refine withinBudget_of_taken ?_ (by dsimp only; omega)
        revert status
        cases next.status <;> decide
      · exact withinBudget_of_taken (by rw [status]; decide) (by dsimp only; omega)
      · exact withinBudget_of_retried status (by dsimp only; omega)
  · exact ⟨attempts, claims, waits, leased⟩

theorem trial_withinBudget (within : WithinBudget cfg trial) {labels : List TrialLabel}
    (along : Along (trialStep cfg id) (Counted cfg) trial labels) :
    WithinBudget cfg (run (trialStep cfg id) trial labels) :=
  run_invariant (Counted cfg) (WithinBudget cfg) (fun _ _ => trialStep_withinBudget) within along

theorem stale_eventually (taken : row.status ∈ [.claimed, .enqueued, .started])
    (leased : row.status = .claimed → row.claimExpiresAt ≠ none) :
    ∃ limit, ∀ now, limit < now → row.stale cfg now = true := by
  by_cases claimed : row.status = .claimed
  · obtain ⟨expires, held⟩ := Option.ne_none_iff_exists'.mp (leased claimed)
    refine ⟨expires, fun now late => ?_⟩
    simp [IntentRow.stale, held, late]
  by_cases enqueued : row.status = .enqueued
  · refine ⟨cfg.enqueuedStale + row.updatedAt, fun now late => ?_⟩
    have old : cfg.enqueuedStale < now - row.updatedAt := Nat.lt_sub_of_add_lt late
    simp [IntentRow.stale, enqueued, old]
  have started : row.status = .started := by simpa [claimed, enqueued] using taken
  refine ⟨cfg.startedStale + row.updatedAt, fun now late => ?_⟩
  have old : cfg.startedStale < now - row.updatedAt := Nat.lt_sub_of_add_lt late
  simp [IntentRow.stale, started, old]

theorem reconcile_total {event : Option EventStatus}
    (taken : row.status ∈ [.claimed, .enqueued, .started]) (stale : row.stale cfg now = true) :
    ∃ next, row.reconcile cfg id event now = .ok (some next) := by
  have legal : ∀ target ∈ [InvestigationIntentStatus.dead, .retry],
      validateIntentTransition row.status target = .ok () := by
    intro target _
    rw [validateIntentTransition_eq_ok]
    revert taken target
    cases row.status <;> decide
  unfold IntentRow.reconcile
  rw [if_pos ⟨taken, stale⟩]
  unfold IntentRow.reconcileStale
  split_ifs with completed failed
  · rw [completed.1]
    exact ⟨_, rfl⟩
  · rw [failed.1]
    exact ⟨_, rfl⟩
  unfold IntentRow.retryOrDead
  split_ifs
  · rw [legal .dead (.head _)]
    exact ⟨_, rfl⟩
  · rw [legal .retry (.tail _ (.head _))]
    exact ⟨_, rfl⟩

/-- **An intent whose claims are spent** does not wait for another one; it is at its end, or a
reconciliation ends it as soon as it is stale. -/
theorem WithinBudget.spent (within : WithinBudget cfg trial)
    (spent : trial.claims = cfg.maxAttempts) :
    ¬ trial.row.waiting ∧ (trial.row.status ∈ terminalIntentStatuses
      ∨ ∃ limit, ∀ now, limit < now → ∀ event, ∃ next,
        trial.row.reconcile cfg id event now = .ok (some next)
          ∧ next.status ∈ terminalIntentStatuses
          ∧ (trial.row.status ≠ .started → next.status = .dead)) := by
  have attempts := within.attempts
  have claims := within.claims
  have busy : ¬ trial.row.waiting := by
    intro waiting
    have paid := within.waiting waiting
    omega
  refine ⟨busy, ?_⟩
  by_cases taken : trial.row.status ∈ [.claimed, .enqueued, .started]
  · obtain ⟨limit, late⟩ : ∃ limit, ∀ now, limit < now → trial.row.stale cfg now = true :=
      stale_eventually taken within.leased
    refine .inr ⟨limit, fun now after event => ?_⟩
    obtain ⟨next, done⟩ : ∃ next, trial.row.reconcile cfg id event now = .ok (some next) :=
      reconcile_total taken (late now after)
    refine ⟨next, done, ?_⟩
    obtain ⟨-, -, -, ⟨started, status, -⟩ | ⟨-, status, -⟩ | ⟨below, -, -⟩⟩ := reconcile_row done
    · refine ⟨?_, absurd started⟩
      revert status
      cases next.status <;> decide
    · exact ⟨by rw [status]; decide, fun _ => status⟩
    · omega
  · left
    unfold IntentRow.waiting at busy
    revert taken busy
    cases trial.row.status <;> decide

/-- **Retries are bounded**: the attempts of an intent never exceed the limit, it is claimed at most
as often as the limit says, and once its claims are spent it is at its end, or will be. -/
theorem retries_bounded (cfg : IntentSettings) (id : IntentId) (row : IntentRow)
    (fresh : row.attempt = 0) (waiting : row.waiting) (labels : List TrialLabel)
    (along : Along (trialStep cfg id) (Counted cfg) ⟨row, 0⟩ labels) :
    let trial := run (trialStep cfg id) ⟨row, 0⟩ labels
    trial.row.attempt ≤ cfg.maxAttempts ∧ trial.claims ≤ cfg.maxAttempts
      ∧ (trial.claims = cfg.maxAttempts →
        ¬ trial.row.waiting ∧ (trial.row.status ∈ terminalIntentStatuses
          ∨ ∃ limit, ∀ now, limit < now → ∀ event, ∃ next,
            trial.row.reconcile cfg id event now = .ok (some next)
              ∧ next.status ∈ terminalIntentStatuses
              ∧ (trial.row.status ≠ .started → next.status = .dead))) := by
  intro trial
  have positive := cfg.positive
  have start : WithinBudget cfg ⟨row, 0⟩ := by
    refine ⟨?_, Nat.zero_le _, fun _ => Nat.zero_le _, fun claimed => ?_⟩
    · show row.attempt < cfg.maxAttempts
      omega
    · have status : row.status = .claimed := claimed
      rw [IntentRow.waiting, status] at waiting
      simp at waiting
  have within : WithinBudget cfg trial := trial_withinBudget start along
  have attempts := within.attempts
  have claims := within.claims
  exact ⟨by omega, by omega, within.spent⟩

def failingTrial : List TrialLabel :=
  (List.range 5).flatMap fun round =>
    [⟨round, .claim 0⟩, ⟨round, .publish (some .new) false false⟩,
      ⟨round, .publishFailed (.transient 0) false⟩]

theorem failingTrial_counted : Along (trialStep defaultIntentSettings 0)
    (Counted defaultIntentSettings) ⟨autoIntent 0 .graph 0, 0⟩ failingTrial := by
  decide

theorem retries_bounded_failing :
    let trial := run (trialStep defaultIntentSettings 0) ⟨autoIntent 0 .graph 0, 0⟩ failingTrial
    trial.row.status = .dead ∧ trial.claims = 5
      ∧ trial.row.attempt ≤ defaultIntentSettings.maxAttempts
      ∧ trial.claims ≤ defaultIntentSettings.maxAttempts := by
  have bounded := retries_bounded defaultIntentSettings 0 (autoIntent 0 .graph 0) rfl (.inl rfl)
    failingTrial failingTrial_counted
  exact ⟨by decide, by decide, bounded.1, bounded.2.1⟩

/-- A dispatcher that loses its claim every time: after seven claims the intent has six attempts of
five, and waits for the next one. -/
theorem retries_unbounded :
    let trial := run (trialStep defaultIntentSettings 0) ⟨autoIntent 0 .graph 0, 0⟩
      ((List.range 7).map fun round => ⟨31 * round, .claim 0⟩)
    trial.row.status = .claimed ∧ trial.claims = 7 ∧ trial.row.attempt = 6
      ∧ defaultIntentSettings.maxAttempts < trial.row.attempt := by
  decide

end

end ShadowTrace.Intents
