/-
**Attempts on one tool-call grant** (`app/services/tool_call_grant_service.py`,
`app/services/tool_call_budget_reservation.py`).

An attempt draws its number from the grant row, in the transaction that inserts its record, and then
once more from a budget counter: the one in Redis, or the one a process keeps in memory while Redis
is degraded or once the grant is pinned to it. An attempt is admitted if both numbers agree. If not,
the row gives its number back, but the denied record keeps it, under a unique constraint.
-/

import Mathlib.Order.Interval.Finset.Nat
import ShadowTrace.Lib.Runs

namespace ShadowTrace.Grants

open Machine Function

/-- How Redis meets one call: there is none, it does not answer the ping, or it does. Then a
degraded process may recover, the script may run, and its reply may arrive. -/
inductive Redis
  | absent
  | down
  | up (recovers runs replies : Bool)

/-- The reservation service of one process, for the key of the grant. -/
structure Budget where
  degraded : Bool := false
  pinned : Bool := false
  reserved : Nat := 0

namespace Budget

def redisClient (budget : Budget) : Redis → Budget × Bool
  | .absent => (budget, false)
  | .down => ({ budget with degraded := true }, false)
  | .up recovers _ _ =>
    ({ budget with degraded := budget.degraded && !recovers }, !budget.degraded || recovers)

/-- The counters that an operation on the key reaches, in Redis and in memory. A script without a
reply degrades the service and pins the key; it may have run all the same. -/
def route (budget : Budget) (answer : Redis) : Budget × Bool × Bool :=
  let (budget, client) := budget.redisClient answer
  match client && !budget.pinned, answer with
  | true, .up _ _ true => (budget, true, false)
  | true, .up _ runs false => ({ budget with degraded := true, pinned := true }, runs, true)
  | _, _ => ({ budget with pinned := budget.pinned || budget.degraded }, false, true)

def draw (maxCalls counter : Nat) : Nat × Option Nat :=
  if maxCalls ≤ counter then (counter, none) else (counter + 1, some (counter + 1))

/-- `reserve`: the service and the Redis counter afterwards, and the number drawn. `none` stands for
the `ValueError` of an exhausted budget. -/
def reserve (maxCalls counter : Nat) (budget : Budget) (answer : Redis) :
    Budget × Nat × Option Nat :=
  if maxCalls < 1 then (budget, counter, none)
  else
    let (budget, inRedis, inMemory) := budget.route answer
    let memory := draw maxCalls budget.reserved
    let redis := draw maxCalls counter
    ({ budget with reserved := if inMemory then memory.1 else budget.reserved },
      if inRedis then redis.1 else counter, if inMemory then memory.2 else redis.2)

def release (counter : Nat) (budget : Budget) (answer : Redis) : Budget × Nat :=
  let (budget, inRedis, inMemory) := budget.route answer
  ({ budget with reserved := if inMemory then budget.reserved - 1 else budget.reserved },
    if inRedis then counter - 1 else counter)

end Budget

/-- What a `reserve_attempt` whose transaction has committed does next. -/
inductive Stage
  | reserved
  | mismatched
  | denied

/-- The grant row, the numbers of its attempt records, the Redis counter, the processes and the
numbers of the admitted attempts. No two records share a number, so a call in progress is known by
the number of its record; it comes with its process. -/
structure World where
  attemptCount : Nat := 0
  attempts : List Nat := []
  redis : Nat := 0
  budgets : Nat → Budget := fun _ => {}
  calls : Nat → Option (Nat × Stage) := fun _ => none
  admitted : List Nat := []

/-- A call runs its transaction, draws from the budget, releases what it drew, rolls its attempt
back, or is given up; or the Redis counter changes from outside. -/
inductive Label
  | commit (process : Nat) (live ok readsBack : Bool)
  | budget (seq : Nat) (answer : Redis)
  | release (seq : Nat) (answer : Redis)
  | rollback (seq : Nat) (ok : Bool)
  | giveUp (seq : Nat)
  | redis (counter : Nat)

section

variable (maxCalls : Nat) (w : World)

def World.put (seq : Nat) (now : Option (Nat × Stage)) : World :=
  { w with calls := update w.calls seq now }

def commit (process : Nat) (live ok readsBack : Bool) : World :=
  let seq := w.attemptCount + 1
  -- The insert of a number that some record holds violates `uq_tool_call_attempt_grant_seq`.
  if live ∧ ok ∧ w.attemptCount < maxCalls ∧ seq ∉ w.attempts then
    { w with attemptCount := seq, attempts := seq :: w.attempts }.put seq
      (if readsBack then some (process, .reserved) else none)
  else w

def drawBudget (process seq : Nat) (answer : Redis) : World :=
  let (budget, redis, drawn) := (w.budgets process).reserve maxCalls w.redis answer
  let w := { w with redis, budgets := update w.budgets process budget }
  if drawn = some seq then { w with admitted := seq :: w.admitted }.put seq none
  else w.put seq (some (process, if drawn = none then .denied else .mismatched))

def step : Label → World
  | .commit process live ok readsBack => commit maxCalls w process live ok readsBack
  | .budget seq answer => match w.calls seq with
    | some (process, .reserved) => drawBudget maxCalls w process seq answer
    | _ => w
  | .release seq answer => match w.calls seq with
    | some (process, .mismatched) =>
      let (budget, redis) := (w.budgets process).release w.redis answer
      { w with redis, budgets := update w.budgets process budget }.put seq (some (process, .denied))
    | _ => w
  | .rollback seq ok => match w.calls seq with
    | some (_, .denied) =>
      { w with attemptCount := if ok then w.attemptCount - 1 else w.attemptCount }.put seq none
    | _ => w
  | .giveUp seq => w.put seq none
  | .redis counter => { w with redis := counter }

/-! ### Numbers are given out once -/

/-- Every number in use is a record's, and a call in progress is not admitted yet. -/
structure Exact (attempts admitted : List Nat) (calls : Nat → Option (Nat × Stage)) : Prop where
  bounded : ∀ seq ∈ attempts, seq ∈ Finset.Icc 1 maxCalls
  recorded : ∀ seq ∈ admitted, seq ∈ attempts
  nodup : admitted.Nodup
  waiting : ∀ seq, calls seq ≠ none → seq ∈ attempts ∧ seq ∉ admitted

end

namespace Exact

variable {maxCalls seq : Nat} {attempts admitted : List Nat} {calls : Nat → Option (Nat × Stage)}
  {now : Option (Nat × Stage)}

section

variable (exact : Exact maxCalls attempts admitted calls)

include exact

theorem put (was : now ≠ none → calls seq ≠ none) :
    Exact maxCalls attempts admitted (update calls seq now) := by
  refine ⟨exact.bounded, exact.recorded, exact.nodup, fun other waits => ?_⟩
  by_cases same : other = seq
  · subst same
    exact exact.waiting other (was (by simpa using waits))
  · exact exact.waiting other (by simpa [same] using waits)

theorem insert (new : seq ∉ attempts) (small : seq ∈ Finset.Icc 1 maxCalls) :
    Exact maxCalls (seq :: attempts) admitted (update calls seq now) := by
  refine ⟨List.forall_mem_cons.mpr ⟨small, exact.bounded⟩,
    fun other known => List.mem_cons_of_mem _ (exact.recorded other known), exact.nodup,
    fun other waits => ?_⟩
  by_cases same : other = seq
  · subst same
    exact ⟨List.mem_cons_self, fun known => new (exact.recorded other known)⟩
  · obtain ⟨record, free⟩ := exact.waiting other (by simpa [same] using waits)
    exact ⟨List.mem_cons_of_mem _ record, free⟩

theorem accept (waits : calls seq ≠ none) :
    Exact maxCalls attempts (seq :: admitted) (update calls seq none) := by
  obtain ⟨record, free⟩ := exact.waiting seq waits
  refine ⟨exact.bounded, List.forall_mem_cons.mpr ⟨record, exact.recorded⟩,
    List.nodup_cons.mpr ⟨free, exact.nodup⟩, fun other waits => ?_⟩
  have different : other ≠ seq := by
    rintro rfl
    simp at waits
  obtain ⟨record, free⟩ := exact.waiting other (by simpa [different] using waits)
  exact ⟨record, by simp [different, free]⟩

theorem length_le : admitted.length ≤ maxCalls := by
  have inside : admitted.toFinset ⊆ Finset.Icc 1 maxCalls := fun seq mem =>
    exact.bounded seq (exact.recorded seq (List.mem_toFinset.mp mem))
  have few := Finset.card_le_card inside
  rw [List.toFinset_card_of_nodup exact.nodup, Nat.card_Icc] at few
  omega

end

end Exact

variable {maxCalls : Nat}

section

variable (counter : Nat) (w : World) (process : Nat) (recovers : Bool)

theorem step_exact (label : Label) (exact : Exact maxCalls w.attempts w.admitted w.calls) :
    Exact maxCalls (step maxCalls w label).attempts (step maxCalls w label).admitted
      (step maxCalls w label).calls := by
  cases label with
  | commit =>
    simp only [step, commit]
    split_ifs with draws
    iterate 2 exact exact.insert draws.2.2.2 (Finset.mem_Icc.mpr ⟨by omega, draws.2.2.1⟩)
    · exact exact
  | budget =>
    simp only [step]
    split
    · rename_i waits
      simp only [drawBudget]
      split
      · exact exact.accept (by simp [waits])
      · exact exact.put fun _ => by simp [waits]
    · exact exact
  | release =>
    simp only [step]
    split
    · rename_i waits
      exact exact.put fun _ => by simp [waits]
    · exact exact
  | rollback =>
    simp only [step]
    split
    · exact exact.put fun none_ne => absurd rfl none_ne
    · exact exact
  | giveUp => exact exact.put fun none_ne => absurd rfl none_ne
  | redis => exact exact

/-! ### The next attempt -/

/-- A call that finds the grant live, the database working and Redis healthy. -/
def healthyCall : List Label :=
  [.commit process true true true, .budget (w.attemptCount + 1) (.up recovers true true)]

/-- The counter a process draws from when Redis is healthy. -/
def World.counterInUse : Nat :=
  let budget := w.budgets process
  if (!budget.degraded || recovers) && !budget.pinned then w.redis else budget.reserved

theorem reserve_healthy (budget : Budget) (recovers : Bool) (positive : ¬ maxCalls < 1) :
    (budget.reserve maxCalls counter (.up recovers true true)).2.2 =
      (Budget.draw maxCalls (if (!budget.degraded || recovers) && !budget.pinned then counter
        else budget.reserved)).2 := by
  obtain ⟨degraded, pinned, -⟩ := budget
  cases degraded <;> cases pinned <;> cases recovers <;>
    simp [Budget.reserve, Budget.route, Budget.redisClient, positive]

theorem draw_eq_succ_iff {count : Nat} (below : count < maxCalls) :
    (Budget.draw maxCalls counter).2 = some (count + 1) ↔ counter = count := by
  unfold Budget.draw
  split_ifs with full
  · exact iff_of_false nofun (by omega)
  · simp

theorem drawBudget_admitted (maxCalls : Nat) (w : World) (process seq : Nat) (answer : Redis) :
    (drawBudget maxCalls w process seq answer).admitted =
      if ((w.budgets process).reserve maxCalls w.redis answer).2.2 = some seq
        then seq :: w.admitted else w.admitted := by
  simp only [drawBudget]
  split <;> rfl

theorem healthyCall_admitted (rest : ∀ seq, w.calls seq = none) :
    (run (step maxCalls) w (healthyCall w process recovers)).admitted =
      if w.attemptCount < maxCalls ∧ w.attemptCount + 1 ∉ w.attempts ∧
          w.counterInUse process recovers = w.attemptCount
        then (w.attemptCount + 1) :: w.admitted else w.admitted := by
  by_cases draws : w.attemptCount < maxCalls ∧ w.attemptCount + 1 ∉ w.attempts
  · have drawn := reserve_healthy w.redis (w.budgets process) recovers
      (show ¬ maxCalls < 1 by omega)
    have agree := draw_eq_succ_iff (w.counterInUse process recovers) draws.1
    simp only [healthyCall, run_cons, run_nil, step, commit, World.put]
    simp only [draws, not_false_eq_true, if_true, update_self, true_and]
    rw [drawBudget_admitted, drawn]
    exact if_congr agree rfl rfl
  · rw [if_neg fun all => draws ⟨all.1, all.2.1⟩]
    simp [healthyCall, step, commit, draws, rest]

end

/-- **Grants are exact, up to numbers given back.** After every schedule at most `maxCalls` attempts
are admitted, under different numbers; and at rest the next healthy attempt is admitted exactly if
the row has a number left that no record keeps, and the counter in use agrees with the row. -/
theorem grants_exact_iff (maxCalls : Nat) (labels : List Label) :
    let w := run (step maxCalls) {} labels
    (w.admitted.length ≤ maxCalls ∧ w.admitted.Nodup) ∧
      ((∀ seq, w.calls seq = none) → ∀ process recovers,
        (w.admitted.length <
            (run (step maxCalls) w (healthyCall w process recovers)).admitted.length ↔
          w.attemptCount < maxCalls ∧ w.attemptCount + 1 ∉ w.attempts ∧
            w.counterInUse process recovers = w.attemptCount)) := by
  intro w
  have exact : Exact maxCalls w.attempts w.admitted w.calls := by
    refine run_invariant_of_step (fun w : World => Exact maxCalls w.attempts w.admitted w.calls)
      step_exact ?_ labels
    exact ⟨by simp, by simp, List.nodup_nil, by simp⟩
  refine ⟨⟨exact.length_le, exact.nodup⟩, fun rest process recovers => ?_⟩
  rw [healthyCall_admitted w process recovers rest]
  split_ifs with condition
  · exact iff_of_true (by simp) condition
  · exact iff_of_false (by simp) condition

/-- One attempt is admitted; the script of the next one fails, and its number is given back. -/
def outage : List Label :=
  [.commit 0 true true true, .budget 1 (.up false true true),
    .commit 0 true true true, .budget 2 (.up false false false),
    .release 2 (.up true true true), .rollback 2 true]

/-- **After one failure of Redis the grant admits nothing more**: the denied record keeps the number
that the row would draw. -/
theorem attempt_not_admitted :
    let w := run (step 2) {} outage
    (∀ seq, w.calls seq = none) ∧ w.admitted.length < 2 ∧
      (run (step 2) w (healthyCall w 0 true)).admitted = w.admitted := by
  refine ⟨fun seq => ?_, by decide, by decide⟩
  match seq with
  | 0 | 1 | 2 | _ + 3 => rfl

end ShadowTrace.Grants
