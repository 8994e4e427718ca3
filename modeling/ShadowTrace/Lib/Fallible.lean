/-
**Fallible programs.**

A program that may raise is a value of `Except`. Two lemmas peel a sequence apart: a sequence
returns exactly when its first part does and the rest then does (`bind_eq_ok`), so proofs about a
long validated update never unfold the monad. A validator is a sequence of `check`s, and a loop
(`foldlM`) is followed by what it keeps (`foldlM_keeps`) and by the mark it leaves for each element
(`foldlM_marks`).

A transaction (`Tx`) is such a program together with the calls it made to the outside. Raising
rolls the database back (`Tx.settle`); it does not take the calls back.
-/

import Mathlib.Data.List.Basic

namespace Fallible

variable {ε α β : Type} {first : Except ε α} {value : α} {σ : Type}

/-- **A sequence returns iff each part returns.** -/
@[simp] theorem bind_eq_ok {next : α → Except ε β} {value : β} :
    (first >>= next) = .ok value ↔ ∃ middle, first = .ok middle ∧ next middle = .ok value := by
  cases first with
  | error | ok => simp [bind, Except.bind]

@[simp] theorem pure_eq_ok {other : α} :
    (pure value : Except ε α) = .ok other ↔ value = other := by
  simp [pure, Except.pure]

@[simp] theorem map_eq_ok {read : α → β} {value : β} :
    first.map read = .ok value ↔ ∃ middle, first = .ok middle ∧ read middle = value := by
  cases first with
  | error | ok => simp [Except.map]

theorem map_some_eq_ok :
    first.map some = .ok (some value) ↔ first = .ok value := by
  rw [map_eq_ok]
  constructor
  · rintro ⟨_, done, same⟩
    rw [done, Option.some.inj same]
  · intro done
    exact ⟨value, done, rfl⟩

theorem eq_of_ok {value other : β} (done : (.ok value : Except ε β) = .ok other) : other = value :=
  (Except.ok.inj done).symm

theorem eq_of_bind_pure {value other : β} (done : (first >>= fun _ => pure value) = .ok other) :
    value = other := by
  obtain ⟨-, -, done⟩ := bind_eq_ok.mp done
  exact pure_eq_ok.mp done

theorem unit_bind {first : Except ε Unit} {next : Unit → Except ε α} :
    (first >>= next) = .ok value ↔ first = .ok () ∧ next () = .ok value := by
  cases first with
  | error | ok => simp [bind, Except.bind]

/-- Raise unless the condition holds. -/
def check (holds : Bool) (error : ε) : Except ε Unit :=
  if holds then .ok () else .error error

@[simp] theorem check_eq_ok {holds : Bool} {error : ε} :
    check holds error = .ok () ↔ holds = true := by
  cases holds with
  | false | true => simp [check]

@[simp] theorem check_bind {holds : Bool} {error : ε} {next : Unit → Except ε α} :
    (check holds error >>= next) = .ok value ↔ holds = true ∧ next () = .ok value := by
  cases holds with
  | false | true => simp [check, bind, Except.bind]

variable {step : σ → α → Except ε σ} {items : List α}

/-- **A loop leaves a mark for every element.** What one round establishes about its own element,
and no later round takes back, holds of every element at the end. -/
theorem foldlM_marks (Mark : α → σ → Prop)
    (marks : ∀ {state next item}, step state item = .ok next → Mark item next)
    (keeps : ∀ {state next item other}, step state item = .ok next → Mark other state →
      Mark other next) :
    ∀ {start last : σ}, items.foldlM step start = .ok last → ∀ item ∈ items, Mark item last := by
  -- the marks set so far are carried along the loop
  suffices carried : ∀ (done : List α) {start last : σ}, (∀ item ∈ done, Mark item start) →
      items.foldlM step start = .ok last → ∀ item ∈ done ++ items, Mark item last by
    intro _ _ ran
    simpa using carried [] (List.forall_mem_nil _) ran
  induction items with
  | nil =>
    intro _ _ _ marked ran
    cases ran
    simpa using marked
  | cons first _ ih =>
    intro done _ _ marked ran
    obtain ⟨middle, stepped, ran⟩ := bind_eq_ok.mp ran
    have extended : ∀ item ∈ done ++ [first], Mark item middle := by
      intro item mem
      rcases List.mem_append.mp mem with earlier | now
      · exact keeps stepped (marked item earlier)
      · obtain rfl := List.mem_singleton.mp now
        exact marks stepped
    simpa using ih (done ++ [first]) extended ran

/-- **An invariant of a loop.** -/
theorem foldlM_keeps (Inv : σ → Prop)
    (keeps : ∀ {state next item}, item ∈ items → step state item = .ok next → Inv state →
      Inv next) :
    ∀ {start last : σ}, Inv start → items.foldlM step start = .ok last → Inv last := by
  induction items with
  | nil =>
    intro _ _ holds ran
    cases ran
    exact holds
  | cons _ _ ih =>
    intro _ _ holds ran
    obtain ⟨_, stepped, ran⟩ := bind_eq_ok.mp ran
    exact ih (fun mem => keeps (.tail _ mem)) (keeps (.head _) stepped holds) ran

/-- **A loop that returns is a run of its rounds**, on a machine whose state contains the loop's. -/
theorem foldlM_run {τ : Type} {machine : τ → β → τ} {read : τ → σ} {label : α → β}
    (follows : ∀ {state item next}, step (read state) item = .ok next →
      read (machine state (label item)) = next) {start : τ} {last : σ}
    (ran : items.foldlM step (read start) = .ok last) :
    read ((items.map label).foldl machine start) = last := by
  induction items generalizing start with
  | nil => exact pure_eq_ok.mp ran
  | cons _ _ ih =>
    obtain ⟨_, stepped, ran⟩ := bind_eq_ok.mp ran
    exact ih (follows stepped ▸ ran)

/-- What a transaction leaves behind: the state it would commit, or the error it raised, and the
external calls it made either way. -/
structure Tx (ε σ γ : Type) where
  outcome : Except ε σ
  calls : List γ

/-- The state after the transaction: committed, or rolled back to `before`. -/
def Tx.settle {σ γ : Type} (before : σ) (tx : Tx ε σ γ) : σ :=
  match tx.outcome with
  | .ok after => after
  | .error _ => before

theorem Tx.settle_cases {γ : Type} (before : σ) (tx : Tx ε σ γ) :
    tx.settle before = before ∨ ∃ after, tx.outcome = .ok after ∧ tx.settle before = after := by
  unfold Tx.settle
  cases tx.outcome with
  | error => exact .inl rfl
  | ok after => exact .inr ⟨after, rfl, rfl⟩

end Fallible
