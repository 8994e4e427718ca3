/-
**Loops that leave.**

A loop is a function `next : σ → σ ⊕ ε`: one round either goes on in a new state or leaves with an
exit.
-/

import Mathlib.Logic.Relation

namespace Loop

open Relation

variable {σ ε : Type}

def iterate (next : σ → σ ⊕ ε) : Nat → σ → Option ε
  | 0, _ => none
  | rounds + 1, state =>
    match next state with
    | .inl later => iterate next rounds later
    | .inr exit => some exit

/-- Finitely many rounds lead to an exit. -/
def Leaves (next : σ → σ ⊕ ε) (state : σ) : Prop :=
  ∃ rounds exit, iterate next rounds state = some exit

/-- One round that does not leave. -/
def GoesOn (next : σ → σ ⊕ ε) (state later : σ) : Prop := next state = .inl later

section Rounds

variable {next : σ → σ ⊕ ε} {state later : σ}

theorem leaves_of_exit {exit : ε} (leaves : next state = .inr exit) : Leaves next state := by
  refine ⟨1, exit, ?_⟩
  simp [iterate, leaves]

theorem iterate_of_goesOn (round : GoesOn next state later) (rounds : Nat) :
    iterate next (rounds + 1) state = iterate next rounds later := by
  simp only [iterate, show next state = .inl later from round]

theorem leaves_iff_of_goesOn (round : GoesOn next state later) :
    Leaves next state ↔ Leaves next later := by
  constructor
  · rintro ⟨rounds, exit, reached⟩
    cases rounds with
    | zero => cases reached
    | succ rounds => exact ⟨rounds, exit, (iterate_of_goesOn round rounds).symm.trans reached⟩
  · rintro ⟨rounds, exit, reached⟩
    exact ⟨rounds + 1, exit, (iterate_of_goesOn round rounds).trans reached⟩

/-- **A loop leaves if and only if it leaves from a state it reaches.** -/
theorem leaves_iff_of_reaches (reaches : ReflTransGen (GoesOn next) state later) :
    Leaves next state ↔ Leaves next later := by
  induction reaches with
  | refl => exact Iff.rfl
  | tail _ round ih => exact ih.trans (leaves_iff_of_goesOn round)

/-- **Progress.** Under the invariant a round leaves, or lowers the measure. -/
theorem leaves_of_measure (inv : σ → Prop) (measure : σ → Nat)
    (progress : ∀ state, inv state → (∃ exit, next state = .inr exit)
      ∨ ∃ later, GoesOn next state later ∧ inv later ∧ measure later < measure state)
    (holds : inv state) : Leaves next state := by
  induction bound : measure state using Nat.strongRecOn generalizing state with
  | ind _ ih =>
    obtain ⟨_, leaves⟩ | ⟨_, round, still, smaller⟩ := progress state holds
    · exact leaves_of_exit leaves
    · rw [leaves_iff_of_goesOn round]
      exact ih _ (bound ▸ smaller) still rfl

/-- **Divergence.** Under the invariant every round goes on. -/
theorem not_leaves_of_invariant (inv : σ → Prop)
    (goes_on : ∀ state, inv state → ∃ later, GoesOn next state later ∧ inv later)
    (holds : inv state) : ¬ Leaves next state := by
  rintro ⟨rounds, _, reached⟩
  induction rounds generalizing state with
  | zero => cases reached
  | succ _ ih =>
    obtain ⟨_, round, still⟩ := goes_on state holds
    rw [iterate_of_goesOn round] at reached
    exact ih still reached

/-- A loop that comes back to a state does not leave. -/
theorem not_leaves_of_cycle (cycle : TransGen (GoesOn next) state state) :
    ¬ Leaves next state := by
  refine not_leaves_of_invariant (fun now => TransGen (GoesOn next) now now) ?_ cycle
  intro _ around
  obtain ⟨later, round, back⟩ := TransGen.head'_iff.mp around
  exact ⟨later, round, TransGen.tail' back round⟩

end Rounds

end Loop
