/-
**Runs of a machine under a schedule.**

A machine is a step function `step : σ → α → σ`: the label carries everything a step does not
decide itself (who acts, the clock, the answers of the outside), and a step that is not enabled
leaves the state as it is. A run is a list of labels, so "for every sequence and interleaving" is
a quantifier over lists.
-/

import Mathlib.Data.List.Basic
import Mathlib.Order.Basic

namespace Machine

variable {σ α : Type}

/-- The state a schedule leads to. -/
def run (step : σ → α → σ) (start : σ) (labels : List α) : σ := labels.foldl step start

/-- Every step of the schedule meets `cond` in the state it starts from. -/
def Along (step : σ → α → σ) (cond : σ → α → Prop) : σ → List α → Prop
  | _, [] => True
  | state, label :: labels => cond state label ∧ Along step cond (step state label) labels

/-- A step from `before` to `after` taken somewhere in the schedule. -/
inductive Occurs (step : σ → α → σ) : σ → List α → σ → α → σ → Prop
  | here (state : σ) (label : α) (labels : List α) :
      Occurs step state (label :: labels) state label (step state label)
  | later {state before after : σ} {label later : α} {labels : List α} :
      Occurs step (step state label) labels before later after →
      Occurs step state (label :: labels) before later after

instance Along.decidable (step : σ → α → σ) (cond : σ → α → Prop)
    [∀ state label, Decidable (cond state label)] :
    ∀ (state : σ) (labels : List α), Decidable (Along step cond state labels)
  | _, [] => isTrue trivial
  | state, label :: labels =>
    have := Along.decidable step cond (step state label) labels
    inferInstanceAs (Decidable (cond state label ∧ Along step cond (step state label) labels))

section Run

variable {step : σ → α → σ} {start : σ} {labels : List α}

@[simp] theorem run_nil (start : σ) : run step start [] = start := rfl

@[simp] theorem run_cons (start : σ) (label : α) (labels : List α) :
    run step start (label :: labels) = run step (step start label) labels := rfl

theorem run_append (start : σ) (first second : List α) :
    run step start (first ++ second) = run step (run step start first) second :=
  List.foldl_append

theorem along_true (start : σ) (labels : List α) :
    Along step (fun _ _ => True) start labels := by
  induction labels generalizing start with
  | nil => trivial
  | cons _ _ ih => exact ⟨trivial, ih _⟩

theorem along_append {cond : σ → α → Prop} {first second : List α} :
    Along step cond start (first ++ second)
      ↔ Along step cond start first ∧ Along step cond (run step start first) second := by
  induction first generalizing start with
  | nil => exact ⟨fun along => ⟨trivial, along⟩, And.right⟩
  | cons _ _ ih => exact (and_congr_right' ih).trans and_assoc.symm

section

variable (cond : σ → α → Prop) (inv : σ → Prop)

/-- **What one admitted step preserves, a run preserves.** -/
theorem run_invariant (keeps : ∀ state label, inv state → cond state label → inv (step state label))
    (holds : inv start) (along : Along step cond start labels) : inv (run step start labels) := by
  induction labels generalizing start with
  | nil => exact holds
  | cons label _ ih => exact ih (keeps start label holds along.1) along.2

/-- What every step preserves, a run preserves. -/
theorem run_invariant_of_step (keeps : ∀ state label, inv state → inv (step state label))
    (holds : inv start) (labels : List α) : inv (run step start labels) :=
  run_invariant (fun _ _ => True) inv (fun state label now _ => keeps state label now) holds
    (along_true start labels)

/-- **Stability.** Under an invariant, what no step undoes holds in every later state. -/
theorem run_stable (inv fact : σ → Prop) (keeps : ∀ state label, inv state → inv (step state label))
    (stays : ∀ state label, inv state → fact state → fact (step state label)) (holds : inv start)
    (known : fact start) (labels : List α) : fact (run step start labels) :=
  (run_invariant_of_step (fun state => inv state ∧ fact state)
    (fun state label both => ⟨keeps state label both.1, stays state label both.1 both.2⟩)
    ⟨holds, known⟩ labels).2

/-- Conditions that agree on a step agree along a schedule. -/
theorem along_congr {cond other : σ → α → Prop}
    (agree : ∀ state label, cond state label ↔ other state label) :
    Along step cond start labels ↔ Along step other start labels := by
  induction labels generalizing start with
  | nil => exact Iff.rfl
  | cons label _ ih => exact and_congr (agree start label) ih

/-- What the invariant gives for a step holds along the schedule. -/
theorem along_of_invariant {given : σ → α → Prop}
    (keeps : ∀ state label, inv state → cond state label → inv (step state label))
    (gives : ∀ state label, inv state → given state label) (holds : inv start)
    (along : Along step cond start labels) : Along step given start labels := by
  induction labels generalizing start with
  | nil => trivial
  | cons label _ ih => exact ⟨gives start label holds, ih (keeps start label holds along.1) along.2⟩

theorem Occurs.after_eq {before after : σ} {label : α}
    (occurs : Occurs step start labels before label after) : after = step before label := by
  induction occurs with
  | here => rfl
  | later _ ih => exact ih

theorem occurs_last (start : σ) (labels : List α) (label : α) :
    Occurs step start (labels ++ [label]) (run step start labels) label
      (step (run step start labels) label) := by
  induction labels generalizing start with
  | nil => exact .here start label []
  | cons first _ ih => exact .later (ih (step start first))

/-- **Every step of a schedule.** A relation that the invariant gives for each admitted step holds
of every step the schedule takes. -/
theorem occurs_invariant (rel : σ → α → σ → Prop)
    (keeps : ∀ state label, inv state → cond state label → inv (step state label))
    (relates : ∀ state label, inv state → cond state label → rel state label (step state label))
    (holds : inv start) (along : Along step cond start labels) {before after : σ} {label : α}
    (occurs : Occurs step start labels before label after) : rel before label after := by
  induction occurs with
  | here state label => exact relates state label holds along.1
  | later _ ih => exact ih (keeps _ _ holds along.1) along.2

end

section Measure

variable {β : Type} (measure : σ → β)

/-- A measure that no step lowers is not lowered by a run. -/
theorem run_le [Preorder β] (rises : ∀ state label, measure state ≤ measure (step state label))
    (start : σ) (labels : List α) : measure start ≤ measure (run step start labels) := by
  induction labels generalizing start with
  | nil => exact le_refl _
  | cons label _ ih => exact le_trans (rises start label) (ih (step start label))

/-- **A measure that no step lowers is where it was exactly if no step raised it.** -/
theorem run_eq_iff [PartialOrder β]
    (rises : ∀ state label, measure state ≤ measure (step state label))
    (start : σ) (labels : List α) :
    measure (run step start labels) = measure start
      ↔ ∀ before label after, Occurs step start labels before label after →
        measure after = measure before := by
  induction labels generalizing start with
  | nil =>
    refine ⟨fun _ before label after occurs => ?_, fun _ => rfl⟩
    cases occurs
  | cons first labels ih =>
    constructor
    · intro same _ _ _ occurs
      have now : measure (step start first) = measure start :=
        le_antisymm (same ▸ run_le measure rises (step start first) labels) (rises start first)
      cases occurs with
      | here => exact now
      | later occurs => exact (ih (step start first)).mp (same.trans now.symm) _ _ _ occurs
    · intro still
      have now := still _ _ _ (.here start first labels)
      rw [← now]
      exact (ih (step start first)).mpr fun _ _ _ occurs => still _ _ _ (.later occurs)

end Measure

end Run

/-- Who holds a value after one holder has been given `next`. -/
theorem update_eq_some {κ : Type} [DecidableEq κ] {held : κ → Option σ} {key other : κ}
    {next : Option σ} {value : σ} (found : Function.update held key next other = some value) :
    (other = key ∧ next = some value) ∨ (other ≠ key ∧ held other = some value) := by
  by_cases same : other = key
  · subst same
    rw [Function.update_self] at found
    exact .inl ⟨rfl, found⟩
  · rw [Function.update_of_ne same] at found
    exact .inr ⟨same, found⟩

end Machine
