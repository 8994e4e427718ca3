/-
**One tool call** (`ToolExecutor.call` in `app/tools/executor.py`).

Each round of the call asks the convergence guard and the breaker, dispatches, and keeps its books:
job writeback, budget charge, audit. The books stand in the same `try` as the dispatch, so that an
exception of theirs reaches the handlers written for the provider.
-/

import ShadowTrace.Execution.Runner
import ShadowTrace.Lib.Runs

namespace ShadowTrace.Tools

open Execution Machine

/-! ### The circuit breaker of a tool (`app/tools/circuit_breaker.py`)

Enough failures open the breaker; once the recovery timeout has passed it is half-open, until the
next outcome closes it or opens it again. Calls of the tool share one breaker, so requests and
outcomes come in any order, with the clock's reading at each (`Event`). -/

inductive CircuitState
  | closed | opened | halfOpen
  deriving DecidableEq

structure CircuitBreaker where
  state : CircuitState := .closed
  failureCount : Nat := 0
  openedAt : Option Time := none
  halfOpenProbeInFlight : Bool := false

structure BreakerSettings where
  failureThreshold : Nat := 5
  recoveryTimeout : Time := 60

inductive Outcome
  | success | failure
  deriving DecidableEq

inductive Event
  | request (now : Time)
  | outcome (recorded : Outcome) (now : Time)

namespace CircuitBreaker

variable (cfg : BreakerSettings) (breaker : CircuitBreaker)

def recovered (now : Time) : Bool :=
  breaker.openedAt.any fun opened => opened + cfg.recoveryTimeout ≤ now

def allowRequest (now : Time) : Bool × CircuitBreaker :=
  match breaker.state with
  | .closed => (true, breaker)
  | .opened =>
    if breaker.recovered cfg now then
      (true, { breaker with state := .halfOpen, halfOpenProbeInFlight := false })
    else (false, breaker)
  | .halfOpen =>
    if breaker.halfOpenProbeInFlight then (false, breaker)
    else (true, { breaker with halfOpenProbeInFlight := true })

def recordSuccess : CircuitBreaker := {}

def recordFailure (now : Time) : CircuitBreaker :=
  if breaker.state = .halfOpen then
    { breaker with state := .opened, openedAt := some now, halfOpenProbeInFlight := false }
  else
    let counted :=
      { breaker with failureCount := breaker.failureCount + 1, halfOpenProbeInFlight := false }
    if cfg.failureThreshold ≤ counted.failureCount then
      { counted with state := .opened, openedAt := some now }
    else counted

def record (now : Time) : Outcome → CircuitBreaker
  | .success => recordSuccess
  | .failure => breaker.recordFailure cfg now

def step : Event → CircuitBreaker
  | .request now => (breaker.allowRequest cfg now).2
  | .outcome recorded now => breaker.record cfg now recorded

/-- How many of the requests at these moments are admitted, no outcome coming between them. -/
def admissions : CircuitBreaker → List Time → Nat
  | _, [] => 0
  | breaker, now :: later =>
    let (admitted, next) := breaker.allowRequest cfg now
    admitted.toNat + admissions next later

end CircuitBreaker

/-! ### Probes -/

section

variable {cfg : BreakerSettings} {breaker : CircuitBreaker}

theorem allowRequest_probing (half : breaker.state = .halfOpen)
    (probing : breaker.halfOpenProbeInFlight = true) (now : Time) :
    breaker.allowRequest cfg now = (false, breaker) := by
  rw [CircuitBreaker.allowRequest, half]
  exact if_pos probing

theorem admissions_probing (half : breaker.state = .halfOpen)
    (probing : breaker.halfOpenProbeInFlight = true) (later : List Time) :
    breaker.admissions cfg later = 0 := by
  induction later with
  | nil => rfl
  | cons _ _ ih =>
    rw [CircuitBreaker.admissions, allowRequest_probing half probing]
    exact (Nat.zero_add _).trans ih

/-- The request that makes the breaker half-open does not count as the probe, so the next request
is admitted as well. -/
theorem admissions_recovered {now : Time} (opened : breaker.state = .opened)
    (recovered : breaker.recovered cfg now = true) (later : List Time) :
    breaker.admissions cfg (now :: later) = if later = [] then 1 else 2 := by
  have half : breaker.allowRequest cfg now
      = (true, { breaker with state := .halfOpen, halfOpenProbeInFlight := false }) := by
    rw [CircuitBreaker.allowRequest, opened]
    exact if_pos recovered
  rw [CircuitBreaker.admissions, half]
  cases later with
  | nil => rfl
  | cons next later =>
    change 1 + (1 + CircuitBreaker.admissions cfg _ later) = 2
    rw [admissions_probing rfl rfl]

end

/-- **One probe, if nobody else asks.** After any events, an open breaker refuses until its timeout
has passed. Between the request that then makes it half-open and the next outcome it admits at most
one request exactly if no other one is made. -/
theorem half_open_admits_one_iff (cfg : BreakerSettings) (events : List Event) (now : Time)
    (later : List Time) (opened :
      (run (CircuitBreaker.step cfg) {} events).state = .opened) :
    let breaker := run (CircuitBreaker.step cfg) {} events
    (breaker.recovered cfg now = false → (breaker.allowRequest cfg now).1 = false)
      ∧ (breaker.recovered cfg now = true →
        (breaker.admissions cfg (now :: later) ≤ 1 ↔ later = [])) := by
  constructor
  · intro waits
    rw [CircuitBreaker.allowRequest, opened]
    simp only [waits, Bool.false_eq_true, if_false]
  intro recovered
  rw [admissions_recovered opened recovered]
  split_ifs with alone
  · exact iff_of_true (le_refl 1) alone
  · exact iff_of_false (by decide) alone

def sampleOpened : List Event := List.replicate 5 (.outcome .failure 0)

theorem half_open_admits_one_alone :
    (run (CircuitBreaker.step {}) {} sampleOpened).admissions {} [60] ≤ 1 :=
  ((half_open_admits_one_iff {} sampleOpened 60 [] (by decide)).2 (by decide)).mpr rfl

/-- **Two probes.** Five failures open the breaker; a minute later two callers are admitted. -/
theorem half_open_admits_two :
    (run (CircuitBreaker.step {}) {} sampleOpened).admissions {} [60, 60] = 2 := by
  decide

/-! ### The call -/

/-- An exception inside the `try` of a round. -/
inductive Raised
  | timeout
  | error (retryable : Bool)
  /-- `WrongExecutionChannelError`, `BudgetExceededError`, `SoftTimeLimitExceeded`, and what is not
  an `Exception` (a cancellation): no handler makes a result of it. -/
  | passedOn

/-- What the convergence guard says to a round. -/
inductive GuardAnswer
  | passes | stops | raises

/-- What a call is configured with. -/
structure CallSettings where
  nature : CallNature
  idempotency : Bool := true
  maxRetries : Nat := 3
  hasJobStore : Bool := true
  hasBudget : Bool := true

/-- What one round meets. `answer` is the dispatch with the validation of what it returned. -/
structure Round where
  guard : GuardAnswer := .passes
  admitted : Bool := true
  answer : Except Raised ToolResult
  writeback : Option Raised := none
  charge : Option Raised := none
  finalize : Option Raised := none
  /-- `_finalize` raises on the failure result that a handler has built. -/
  closingRaises : Bool := false

/-- How a call ends for its caller. -/
inductive Ending
  | returns (result : ToolResult)
  | raises

/-- What a call has done: dispatches, validated results, what the breaker was told. -/
structure CallLog where
  dispatches : Nat := 0
  received : List ToolResult := []
  outcomes : List Outcome := []
  ending : Ending

def delivered : ToolResultStatus → Bool
  | .accepted | .success | .partialSuccess => true
  | _ => false

def recordedOutcome : ToolResultStatus → Option Outcome
  | .accepted | .success | .partialSuccess => some .success
  | .failed | .remoteError | .rateLimited | .authError | .validationError => some .failure
  | .unknown | .timeout | .circuitOpen | .unsupported => none

def failureResult (status : ToolResultStatus) : ToolResult := ⟨status, false, none⟩

def Raised.failure : Raised → CallFailure
  | .timeout => ⟨true, true⟩
  | .error retryable => ⟨false, retryable⟩
  | .passedOn => ⟨false, false⟩

def Raised.status (nature : CallNature) : Raised → ToolResultStatus
  | .timeout => if nature = .sideEffect then .unknown else .timeout
  | _ => if nature = .sideEffect then .unknown else .failed

namespace Round

variable (cfg : CallSettings) (round : Round)

/-- The first exception of the steps after a result. -/
def bookkeeping (result : ToolResult) : Option Raised :=
  (if cfg.nature = .sideEffect ∧ cfg.hasJobStore = true ∧ result.hasJobId = true
    then round.writeback else none)
  <|> (if cfg.hasBudget = true ∧ delivered result.status = true then round.charge else none)
  <|> round.finalize

/-- How the `try` of the round ends. -/
def attempted : Except Raised ToolResult :=
  match round.answer with
  | .error raised => .error raised
  | .ok result => (round.bookkeeping cfg result).elim (.ok result) .error

def received : List ToolResult :=
  match round.answer with
  | .ok result => [result]
  | .error _ => []

/-- What the round tells the breaker: for the result, and for an exception that is handled. -/
def outcomes : List Outcome :=
  (round.received.filterMap fun result => recordedOutcome result.status)
    ++ match round.attempted cfg with
      | .ok _ | .error .passedOn => []
      | .error _ => [.failure]

def retries (attempt : Nat) : Bool :=
  match round.attempted cfg with
  | .ok _ | .error .passedOn => false
  | .error raised =>
    shouldRetry cfg.nature cfg.idempotency raised.failure attempt cfg.maxRetries true

def ending : Ending :=
  match round.attempted cfg with
  | .ok result => .returns result
  | .error .passedOn => .raises
  | .error raised =>
    if round.closingRaises then .raises
    else .returns (failureResult (raised.status cfg.nature))

/-- The log of a call that ends with the round. -/
def log : CallLog where
  dispatches := 1
  received := round.received
  outcomes := round.outcomes cfg
  ending := round.ending cfg

end Round

section Call

variable (cfg : CallSettings) (rounds : Nat → Round)

theorem retries_bound {cfg : CallSettings} {round : Round} {attempt : Nat}
    (again : round.retries cfg attempt = true) :
    attempt < cfg.maxRetries ∧ cfg.nature ≠ .sideEffect := by
  unfold Round.retries at again
  split at again
  · cases again
  · cases again
  · unfold shouldRetry at again
    split_ifs at again with spent side dispatched
    · exact absurd rfl dispatched
    · exact ⟨not_le.mp spent, side⟩

/-- The loop, from an attempt on. -/
def callFrom (attempt : Nat) : CallLog :=
  let round := rounds attempt
  match round.guard, round.admitted with
  | .raises, _ => { ending := .raises }
  | .stops, _ => { ending := .returns (failureResult .failed) }
  | .passes, false => { ending := .returns (failureResult .circuitOpen) }
  | .passes, true =>
    if again : round.retries cfg attempt = true then
      have := (retries_bound again).1
      let rest := callFrom (attempt + 1)
      { dispatches := rest.dispatches + 1, received := round.received ++ rest.received
        outcomes := round.outcomes cfg ++ rest.outcomes, ending := rest.ending }
    else
      round.log cfg
termination_by cfg.maxRetries - attempt

def call (checked : Precheck) : CallLog :=
  if cfg.nature = .virtual then { ending := .raises }
  else match checked with
    | .raised => { ending := .raises }
    | .passed => callFrom cfg rounds 0
    | .unready =>
      -- a query is dispatched all the same: its adapter answers that the query is unavailable
      if cfg.nature = .query then callFrom cfg rounds 0
      else { ending := .returns (failureResult .unsupported) }

end Call

/-! ### Dispatches -/

section

variable {cfg : CallSettings} {rounds : Nat → Round} {attempt : Nat}

/-- A round that dispatches, and is not repeated. -/
theorem callFrom_last (passes : (rounds attempt).guard = .passes)
    (admitted : (rounds attempt).admitted = true)
    (last : (rounds attempt).retries cfg attempt = false) :
    callFrom cfg rounds attempt = (rounds attempt).log cfg := by
  rw [callFrom, passes, admitted]
  simp only [last, Bool.false_eq_true, dite_false]

/-- A call that has not dispatched, or the single round of a call that has. -/
theorem callFrom_sideEffect (side : cfg.nature = .sideEffect) (rounds : Nat → Round)
    (attempt : Nat) :
    (callFrom cfg rounds attempt).dispatches = 0
      ∨ callFrom cfg rounds attempt = (rounds attempt).log cfg := by
  have last : (rounds attempt).retries cfg attempt = false :=
    Bool.eq_false_iff.mpr fun again => (retries_bound again).2 side
  cases passes : (rounds attempt).guard with
  | raises | stops =>
    rw [callFrom, passes]
    exact .inl rfl
  | passes =>
    cases admitted : (rounds attempt).admitted with
    | false =>
      rw [callFrom, passes, admitted]
      exact .inl rfl
    | true => exact .inr (callFrom_last passes admitted last)

theorem ending_unknown {round : Round} {result : ToolResult} (side : cfg.nature = .sideEffect)
    (nothing : round.received = []) (ends : round.ending cfg = .returns result) :
    result.status = .unknown := by
  unfold Round.ending Round.attempted at ends
  unfold Round.received at nothing
  cases answer : round.answer with
  | ok =>
    rw [answer] at nothing
    cases nothing
  | error raised =>
    rw [answer] at ends
    cases raised with
    | passedOn => cases ends
    | timeout | error =>
      simp only [Raised.status] at ends
      split_ifs at ends
      obtain rfl := Ending.returns.inj ends
      rfl

/-- **A side effect is dispatched once.** Whatever guard, breaker, provider and books do, a call of
a side-effect tool dispatches it at most once; what it returns after a dispatch without a validated
result is `unknown`. -/
theorem side_effect_dispatched_once (cfg : CallSettings) (rounds : Nat → Round)
    (checked : Precheck) (side : cfg.nature = .sideEffect) :
    (call cfg rounds checked).dispatches ≤ 1
      ∧ ∀ result, (call cfg rounds checked).ending = .returns result →
        0 < (call cfg rounds checked).dispatches →
        (call cfg rounds checked).received = [] → result.status = .unknown := by
  cases checked with
  | raised | unready =>
    simp only [call, side]
    exact ⟨Nat.zero_le 1, fun _ _ started => absurd started (lt_irrefl 0)⟩
  | passed =>
    simp only [call, side, reduceCtorEq, if_false]
    obtain idle | log := callFrom_sideEffect side rounds 0
    · rw [idle]
      exact ⟨Nat.zero_le 1, fun _ _ started => absurd started (lt_irrefl 0)⟩
    · rw [log]
      exact ⟨le_refl 1, fun _ ends _ nothing => ending_unknown side nothing ends⟩

theorem side_effect_dispatched_once_timeout :
    (call { nature := .sideEffect } (fun _ => { answer := .error .timeout }) .passed).dispatches ≤ 1
      := (side_effect_dispatched_once _ _ _ rfl).1

end

/-! ### Results and the books -/

section

variable {cfg : CallSettings} {rounds : Nat → Round} {attempt : Nat} {result : ToolResult}

theorem outcomes_subset (passes : (rounds attempt).guard = .passes)
    (admitted : (rounds attempt).admitted = true) :
    (rounds attempt).outcomes cfg ⊆ (callFrom cfg rounds attempt).outcomes := by
  rw [callFrom, passes, admitted]
  intro _ told
  split_ifs
  · exact List.mem_append_left _ told
  · exact told

theorem recordedOutcome_of_delivered {status : ToolResultStatus} (good : delivered status = true) :
    recordedOutcome status = some .success := by
  cases status with
  | accepted | success | partialSuccess => rfl
  | _ => cases good

/-- **A delivered result arrives if the books are kept.** When the provider has delivered in some
round, the tool is not dispatched again, the breaker is told of no failure and the caller gets the
result exactly if no step after it raises. -/
theorem result_kept_iff (cfg : CallSettings) (rounds : Nat → Round) (attempt : Nat)
    (result : ToolResult) (passes : (rounds attempt).guard = .passes)
    (admitted : (rounds attempt).admitted = true) (answer : (rounds attempt).answer = .ok result)
    (good : delivered result.status = true) :
    ((callFrom cfg rounds attempt).dispatches = 1
      ∧ .failure ∉ (callFrom cfg rounds attempt).outcomes
      ∧ (callFrom cfg rounds attempt).ending = .returns result)
      ↔ (rounds attempt).bookkeeping cfg result = none := by
  have ended : (rounds attempt).attempted cfg
      = ((rounds attempt).bookkeeping cfg result).elim (.ok result) .error := by
    rw [Round.attempted, answer]
  cases books : (rounds attempt).bookkeeping cfg result with
  | none =>
    rw [books] at ended
    have last : (rounds attempt).retries cfg attempt = false := by
      rw [Round.retries, ended]
      rfl
    rw [callFrom_last passes admitted last]
    simp [Round.log, Round.outcomes, Round.ending, Round.received, answer, ended,
      recordedOutcome_of_delivered good]
  | some raised =>
    rw [books] at ended
    refine iff_of_false ?_ nofun
    rintro ⟨-, clean, returns⟩
    cases raised with
    | timeout | error =>
      refine clean (outcomes_subset passes admitted (List.mem_append_right _ ?_))
      rw [ended]
      exact List.mem_singleton_self _
    | passedOn =>
      have last : (rounds attempt).retries cfg attempt = false := by
        rw [Round.retries, ended]
        rfl
      rw [callFrom_last passes admitted last] at returns
      simp only [Round.log, Round.ending, ended] at returns
      cases returns

def sampleResult : ToolResult := ⟨.success, true, some 1⟩

theorem result_kept_by_books :
    (callFrom { nature := .sideEffect } (fun _ => { answer := .ok sampleResult }) 0).ending
      = .returns sampleResult :=
  ((result_kept_iff _ _ 0 sampleResult rfl rfl rfl rfl).mpr rfl).2.2

/-- **A success is lost.** The job writeback raises: the caller gets `unknown`, and the breaker a
success and a failure for one dispatch. -/
theorem result_lost :
    let log := callFrom { nature := .sideEffect }
      (fun _ => { answer := .ok sampleResult, writeback := some (.error true) }) 0
    log.received = [sampleResult] ∧ log.outcomes = [.success, .failure]
      ∧ log.ending = .returns (failureResult .unknown) := by
  rw [callFrom_last rfl rfl rfl]
  exact ⟨rfl, rfl, rfl⟩

end

/-! ### The breaker between calls -/

section

/-- The breaker of a tool, and how many admitted rounds have not ended, of whichever calls. -/
structure Traffic where
  breaker : CircuitBreaker := {}
  inProgress : Nat := 0

inductive TrafficOp
  | request (now : Time)
  | settle (cfg : CallSettings) (round : Round) (now : Time)

variable (limits : BreakerSettings)

def Traffic.step (traffic : Traffic) : TrafficOp → Traffic
  | .request now =>
    let (admitted, breaker) := traffic.breaker.allowRequest limits now
    ⟨breaker, traffic.inProgress + admitted.toNat⟩
  | .settle cfg round now =>
    if traffic.inProgress = 0 then traffic
    else
      ⟨run (fun breaker => breaker.record limits now) traffic.breaker
        (round.outcomes cfg), traffic.inProgress - 1⟩

/-- The breaker admits a request now, or will once its recovery timeout has passed. -/
def CircuitBreaker.Alive (breaker : CircuitBreaker) : Prop :=
  (∀ now, (breaker.allowRequest limits now).1 = true)
    ∨ ∃ opened, breaker.openedAt = some opened
      ∧ ∀ now, opened + limits.recoveryTimeout ≤ now → (breaker.allowRequest limits now).1 = true

/-- A handler makes a failure of the exception. -/
def Raised.handled : Raised → Bool
  | .timeout | .error _ => true
  | .passedOn => false

/-- A status that counts as a success or a failure of the provider. -/
def counted : ToolResultStatus → Bool
  | .unknown | .timeout | .circuitOpen | .unsupported => false
  | _ => true

/-- The provider answers with a status that counts, or an exception is handled: its own, or the
first one of the books. -/
def TrafficOp.tells : TrafficOp → Bool
  | .request _ => true
  | .settle cfg round _ =>
    match round.answer with
    | .error raised => raised.handled
    | .ok result => counted result.status || (round.bookkeeping cfg result).any Raised.handled

variable {limits} {breaker : CircuitBreaker} {traffic : Traffic}

/-- An open breaker knows since when. -/
def CircuitBreaker.Dated (breaker : CircuitBreaker) : Prop :=
  breaker.state = .opened → breaker.openedAt.isSome = true

/-- No probe is under way. -/
def CircuitBreaker.Told (breaker : CircuitBreaker) : Prop :=
  breaker.Dated ∧ breaker.halfOpenProbeInFlight = false

theorem record_told (limits : BreakerSettings) (dated : breaker.Dated) (now : Time)
    (outcome : Outcome) : (breaker.record limits now outcome).Told := by
  cases outcome with
  | success => exact ⟨nofun, rfl⟩
  | failure =>
    simp only [CircuitBreaker.record, CircuitBreaker.recordFailure]
    split_ifs
    · exact ⟨fun _ => rfl, rfl⟩
    · exact ⟨fun _ => rfl, rfl⟩
    · exact ⟨dated, rfl⟩

theorem recordedOutcome_of_counted {status : ToolResultStatus} (counts : counted status = true) :
    ∃ outcome, recordedOutcome status = some outcome := by
  cases status with
  | unknown | timeout | circuitOpen | unsupported => cases counts
  | _ => exact ⟨_, rfl⟩

/-- A round as the condition wants it tells the breaker something. -/
theorem outcomes_ne_nil {cfg : CallSettings} {round : Round} {now : Time}
    (tells : (TrafficOp.settle cfg round now).tells = true) :
    round.outcomes cfg ≠ [] := by
  simp only [TrafficOp.tells] at tells
  simp only [Round.outcomes, Round.received, Round.attempted]
  cases answer : round.answer with
  | error raised =>
    rw [answer] at tells
    cases raised with
    | passedOn => cases tells
    | timeout | error => simp
  | ok result =>
    rw [answer] at tells
    rcases (Bool.or_eq_true _ _).mp tells with counts | handled
    · obtain ⟨outcome, recorded⟩ := recordedOutcome_of_counted counts
      simp [recorded]
    · obtain ⟨raised, books, handled⟩ := (Option.any_eq_true _ _).mp handled
      cases raised with
      | passedOn => cases handled
      | timeout | error => simp [books]

/-- Who has the probe is still in progress. -/
structure Traffic.Sound (traffic : Traffic) : Prop where
  dated : traffic.breaker.Dated
  probing : traffic.breaker.halfOpenProbeInFlight = true → 0 < traffic.inProgress

theorem step_sound (op : TrafficOp) (sound : traffic.Sound) (tells : op.tells = true) :
    (traffic.step limits op).Sound := by
  cases op with
  | request =>
    simp only [Traffic.step, CircuitBreaker.allowRequest]
    split
    · exact ⟨sound.dated, fun _ => Nat.succ_pos _⟩
    · split_ifs
      · exact ⟨fun opened => (by cases opened), fun probing => (by cases probing)⟩
      · exact sound
    · split_ifs
      · exact sound
      · exact ⟨sound.dated, fun _ => Nat.succ_pos _⟩
  | settle cfg round now =>
    rw [Traffic.step]
    split_ifs
    · exact sound
    cases told : round.outcomes cfg with
    | nil => exact absurd told (outcomes_ne_nil tells)
    | cons outcome rest =>
      have told := run_invariant_of_step CircuitBreaker.Told
        (fun _ outcome held => record_told limits held.1 now outcome)
        (record_told limits sound.dated now outcome) rest
      exact ⟨told.1, fun probing => absurd (told.2.symm.trans probing) Bool.false_ne_true⟩

theorem alive_of_rest (sound : traffic.Sound) (rest : traffic.inProgress = 0) :
    traffic.breaker.Alive limits := by
  have idle : traffic.breaker.halfOpenProbeInFlight ≠ true := fun probing =>
    absurd (sound.probing probing) (by rw [rest]; exact lt_irrefl 0)
  cases state : traffic.breaker.state with
  | closed => exact .inl fun now => by rw [CircuitBreaker.allowRequest, state]
  | halfOpen =>
    refine .inl fun now => ?_
    rw [CircuitBreaker.allowRequest, state]
    exact congrArg Prod.fst (if_neg idle)
  | opened =>
    obtain ⟨opened, dated⟩ := Option.isSome_iff_exists.mp (sound.dated state)
    refine .inr ⟨opened, dated, fun now passed => ?_⟩
    have recovered : traffic.breaker.recovered limits now = true := by
      rw [CircuitBreaker.recovered, dated]
      exact decide_eq_true passed
    rw [CircuitBreaker.allowRequest, state]
    exact congrArg Prod.fst (if_pos recovered)

/-- **The breaker is not locked**, as long as every round tells it of an outcome: after any
interleaving of calls, once none is in progress, it admits a request now or after its timeout. -/
theorem breaker_alive (limits : BreakerSettings) (ops : List TrafficOp)
    (told : Along (Traffic.step limits) (fun _ op => op.tells = true) {} ops)
    (rest : (run (Traffic.step limits) {} ops).inProgress = 0) :
    (run (Traffic.step limits) {} ops).breaker.Alive limits :=
  alive_of_rest (run_invariant _ Traffic.Sound (fun _ => step_sound) ⟨nofun, nofun⟩ told) rest

/-- A call that ends with this answer. -/
def sampleCall (answer : Except Raised ToolResult) (now : Time) : List TrafficOp :=
  [.request now, .settle { nature := .sideEffect } { answer } now]

/-- Five timeouts open the breaker, a probe fails, the next one succeeds. -/
theorem breaker_alive_probed :
    (run (Traffic.step {}) {} ((List.replicate 5 (sampleCall (.error .timeout) 0)).flatten
      ++ sampleCall (.error .timeout) 60 ++ sampleCall (.ok sampleResult) 120)).breaker.Alive {} :=
  breaker_alive {} _ (by decide) (by decide)

/-- **The breaker is locked.** Five failures open it. A minute later two probes come back with
`unknown`, of which nobody tells the breaker: it is half-open with a probe in flight for good. -/
theorem breaker_locked :
    let traffic := run (Traffic.step {}) {}
      ((List.replicate 5 (sampleCall (.error .timeout) 0)).flatten
        ++ sampleCall (.ok (failureResult .unknown)) 60
        ++ sampleCall (.ok (failureResult .unknown)) 60)
    traffic.inProgress = 0 ∧ ¬ traffic.breaker.Alive {} := by
  intro traffic
  have refused (now : Time) : traffic.breaker.allowRequest {} now = (false, traffic.breaker) :=
    allowRequest_probing (by decide) (by decide) now
  refine ⟨by decide, ?_⟩
  rintro (now | ⟨_, -, later⟩)
  · exact absurd ((congrArg Prod.fst (refused 0)).symm.trans (now 0)) nofun
  · exact absurd ((congrArg Prod.fst (refused _)).symm.trans (later _ (le_refl _))) nofun

end

end ShadowTrace.Tools
