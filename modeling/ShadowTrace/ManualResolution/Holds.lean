/-
**Which hold a resume lifts.**

A run compares its generation with the hold's in one transaction and writes
`execution_substate = NONE` in a later one, which looks at the event's status and not at the hold.
Generations only grow, so what can go wrong is exactly a hold entered in the gap.
-/

import Mathlib.Data.List.Induction
import ShadowTrace.ManualResolution.Fencing

namespace ShadowTrace.ManualResolution

variable {cfg : Settings} {w : World}

/-! ### Generations -/

variable {req : HoldRequest} {event after : HeldEvent}

theorem enter_generation (entered : enterManualHold.enter cfg req event = .ok after) :
    after.generation = event.generation + 1 := by
  unfold enterManualHold.enter at entered
  split_ifs at entered
  · obtain ⟨-, done⟩ := Fallible.unit_bind.mp entered
    rw [← Except.ok.inj done]
    rfl
  · rw [← Except.ok.inj entered]
    rfl

theorem enterManualHold_generation (entered : enterManualHold cfg req event = .ok after) :
    after.generation = event.generation + 1 := by
  unfold enterManualHold at entered
  split at entered
  · split_ifs at entered
    exact enter_generation entered
  · exact enter_generation entered

theorem step_hold (cfg : Settings) (w : World) (label : Label) :
    (step cfg w label).event.hold = w.event.hold
      ∨ ∃ req, label = .enterManualHold req
        ∧ enterManualHold cfg req w.event
          = .ok (step cfg w label).event := by
  have move := step_move cfg w label
  generalize step cfg w label = next at move
  cases move with
  | hold req _ entered => exact .inr ⟨req, rfl, entered⟩
  | event _ _ kept | lift _ _ _ _ kept => exact .inl kept
  | settle _ _ current =>
    exact .inl (congrArg HeldEvent.hold (updateIntent_frame current.intent _).1)
  | reconcile intent => exact .inl (congrArg HeldEvent.hold (updateIntent_frame intent _).1)
  | still | write | start | stage | checked | finish => exact .inl rfl

def EntersHold (cfg : Settings) (w : World) (label : Label) : Prop :=
  ∃ req after, label = .enterManualHold req
    ∧ enterManualHold cfg req w.event = .ok after

theorem step_generation (w : World) (label : Label) :
    (step cfg w label).event.generation = w.event.generation ↔ ¬ EntersHold cfg w label := by
  constructor
  · rintro same ⟨req, after, rfl, entered⟩
    have raised := enterManualHold_generation entered
    have moved : (step cfg w (.enterManualHold req)).event = after := by
      show (w.setEvent (enterManualHold cfg req w.event)).event = after
      rw [entered]
      rfl
    rw [moved] at same
    omega
  · intro none
    obtain kept | ⟨req, rfl, entered⟩ := step_hold cfg w label
    · unfold HeldEvent.generation
      rw [kept]
    · exact absurd ⟨req, _, rfl, entered⟩ none

theorem step_generation_le (cfg : Settings) (w : World) (label : Label) :
    w.event.generation ≤ (step cfg w label).event.generation := by
  obtain kept | ⟨_, rfl, entered⟩ := step_hold cfg w label
  · unfold HeldEvent.generation
    rw [kept]
  · have raised := enterManualHold_generation entered
    omega

/-! ### The window between check and write -/

theorem checkGeneration_eq_ok {expected : Nat} {status : EventStatus}
    (agrees : checkGeneration expected event = .ok status) :
    event.hold.map ManualHoldSnapshot.generation = some expected := by
  unfold checkGeneration at agrees
  cases held : event.hold with
  | none =>
    rw [held] at agrees
    cases agrees
  | some hold =>
    rw [held] at agrees
    by_cases same : hold.generation = expected
    · rw [← same]
      rfl
    · simp [same] at agrees

/-- The hold in force has the generation. -/
def InForce (w : World) (generation : Nat) : Prop :=
  w.event.hold.map ManualHoldSnapshot.generation = some generation

theorem InForce.generation_eq {generation : Nat} (force : InForce w generation) :
    w.event.generation = generation := by
  unfold HeldEvent.generation
  rw [force]
  rfl

theorem InForce.iff_of_le {later : World} {generation : Nat} (force : InForce w generation)
    (le : w.event.generation ≤ later.event.generation) :
    InForce later generation ↔ later.event.generation = w.event.generation := by
  rw [force.generation_eq] at le ⊢
  refine ⟨InForce.generation_eq, fun same => ?_⟩
  have positive : 0 < generation := by
    obtain ⟨hold, -, rfl⟩ := Option.map_eq_some_iff.mp force
    exact hold.positive
  unfold HeldEvent.generation at same
  cases held : later.event.hold with
  | none =>
    rw [held] at same
    exact absurd same.symm positive.ne'
  | some =>
    rw [held] at same
    unfold InForce
    rw [held]
    exact congrArg some same

/-- The run has passed the check of its generation. -/
def AboutToLift (w : World) (run : Nat) (current : ResumeRun) : Prop :=
  w.runs run = some current ∧ ∃ status, current.stage = .checked status

theorem step_aboutToLift {label : Label} {run : Nat} {current : ResumeRun}
    (about : AboutToLift (step cfg w label) run current) :
    AboutToLift w run current
      ∨ label = .checkGeneration run ∧ InForce (step cfg w label) current.generation := by
  obtain ⟨found, status, stage⟩ := about
  have move := step_move cfg w label
  generalize step cfg w label = next at move found
  have earlier (kept : w.runs run = some current) : AboutToLift w run current :=
    ⟨kept, status, stage⟩
  cases move with
  | still | hold | event | write => exact .inl (earlier found)
  | start | lift =>
    rcases Machine.update_eq_some found with ⟨-, ⟨⟩⟩ | ⟨-, kept⟩
    · cases stage
    · exact .inl (earlier kept)
  | stage _ _ _ _ _ unchecked =>
    rcases Machine.update_eq_some found with ⟨-, ⟨⟩⟩ | ⟨-, kept⟩
    · exact absurd stage (unchecked status)
    · exact .inl (earlier kept)
  | checked _ _ _ _ agrees =>
    rcases Machine.update_eq_some found with ⟨rfl, ⟨⟩⟩ | ⟨-, kept⟩
    · exact .inr ⟨rfl, checkGeneration_eq_ok agrees⟩
    · exact .inl (earlier kept)
  | finish =>
    rcases Machine.update_eq_some found with ⟨-, ⟨⟩⟩ | ⟨-, kept⟩
    exact .inl (earlier kept)
  | settle =>
    rcases Machine.update_eq_some found with ⟨-, ⟨⟩⟩ | ⟨-, kept⟩
    exact .inl (earlier ((updateIntent_frame _ _).2.1 ▸ kept))
  | reconcile => exact .inl (earlier ((updateIntent_frame _ _).2.1 ▸ found))

def reach (cfg : Settings) (event : HeldEvent) (labels : List Label) : World :=
  Machine.run (step cfg) (World.fresh event) labels

/-- The label is the check that brings the run to where it is about to lift. -/
def Passes (cfg : Settings) (event : HeldEvent) (earlier : List Label) (run : Nat)
    (current : ResumeRun) : Prop :=
  ¬ AboutToLift (reach cfg event earlier) run current
    ∧ AboutToLift (reach cfg event (earlier ++ [.checkGeneration run])) run current

theorem checked_window (event : HeldEvent) (labels : List Label) {run : Nat} {current : ResumeRun}
    (about : AboutToLift (reach cfg event labels) run current) :
    ∃ earlier later, labels = earlier ++ .checkGeneration run :: later
      ∧ Passes cfg event earlier run current
      ∧ InForce (reach cfg event (earlier ++ [.checkGeneration run])) current.generation := by
  induction labels using List.reverseRecOn with
  | nil =>
    obtain ⟨found, -⟩ := about
    cases found
  | append_singleton labels label ih =>
    have last : reach cfg event (labels ++ [label])
        = step cfg (reach cfg event labels) label := Machine.run_append _ _ _
    by_cases before : AboutToLift (reach cfg event labels) run current
    · obtain ⟨earlier, later, rfl, passes, force⟩ := ih before
      refine ⟨earlier, later ++ [label], ?_, passes, force⟩
      rw [List.append_assoc, List.cons_append]
    rw [last] at about
    obtain ⟨rfl, force⟩ := (step_aboutToLift about).resolve_left before
    rw [← last] at about force
    exact ⟨labels, [], rfl, ⟨before, about⟩, force⟩

/-- A hold is entered somewhere in the schedule. -/
def HoldEntered (cfg : Settings) (w : World) (labels : List Label) : Prop :=
  ∃ before label after, Machine.Occurs (step cfg) w labels before label after
    ∧ EntersHold cfg before label

theorem generation_kept_iff (w : World) (labels : List Label) :
    (Machine.run (step cfg) w labels).event.generation = w.event.generation
      ↔ ¬ HoldEntered cfg w labels := by
  refine (Machine.run_eq_iff (fun w : World => w.event.generation)
    (step_generation_le cfg) w labels).trans ⟨?_, ?_⟩
  · rintro still ⟨before, label, after, occurs, enters⟩
    have same := still before label after occurs
    rw [occurs.after_eq] at same
    exact (step_generation before label).mp same enters
  · intro none before label after occurs
    rw [occurs.after_eq]
    exact (step_generation before label).mpr fun enters =>
      none ⟨before, label, after, occurs, enters⟩

/-- The run's next step lifts a hold. -/
def Lifts (cfg : Settings) (w : World) (run : Nat) : Prop :=
  w.event.substate ≠ .none ∧ (step cfg w (.clear run)).event.substate = .none

/-- **The hold that is lifted.** For every schedule of holds and resume runs, and every run that is
about to lift the hold of its generation: the check it passed is in the schedule, and what it lifts
is the hold in force with that generation exactly if, whenever it lifts one, no hold was entered
since that check. -/
theorem lift_in_force_iff (cfg : Settings) (event : HeldEvent) (labels : List Label)
    (run : Nat) (current : ResumeRun)
    (about : AboutToLift (reach cfg event labels) run current) :
    ∃ earlier later, labels = earlier ++ .checkGeneration run :: later
      ∧ Passes cfg event earlier run current
      ∧ ((Lifts cfg (reach cfg event labels) run →
          InForce (reach cfg event labels) current.generation)
        ↔ (Lifts cfg (reach cfg event labels) run →
          ¬ HoldEntered cfg (reach cfg event (earlier ++ [.checkGeneration run])) later)) := by
  obtain ⟨earlier, later, rfl, passes, force⟩ := checked_window event labels about
  refine ⟨earlier, later, rfl, passes, ?_⟩
  have split : reach cfg event (earlier ++ .checkGeneration run :: later)
      = Machine.run (step cfg) (reach cfg event (earlier ++ [.checkGeneration run])) later := by
    unfold reach
    rw [← Machine.run_append, List.append_assoc, List.singleton_append]
  rw [split]
  have rises := Machine.run_le (fun w : World => w.event.generation) (step_generation_le cfg)
    (reach cfg event (earlier ++ [.checkGeneration run])) later
  rw [force.iff_of_le rises, generation_kept_iff]

def holdRequest : HoldRequest := ⟨"action_unknown", ["act-1"], none, none⟩

def liftSchedule : List Label :=
  [.enterManualHold holdRequest, .createIntent 0 .manualResolutionResume 0, .claim 0 0,
    .start 0 0 0, .returned 0 .resumed, .checkGeneration 0]

def liftingRun : ResumeRun := ⟨0, .manualResolutionResume, 1, .checked .executingResponse⟩

theorem lift_in_force_undisturbed :
    ∃ earlier later, liftSchedule = earlier ++ .checkGeneration 0 :: later
      ∧ Passes defaultSettings executingEvent earlier 0 liftingRun
      ∧ ((Lifts defaultSettings (reach defaultSettings executingEvent liftSchedule) 0 →
          InForce (reach defaultSettings executingEvent liftSchedule) 1)
        ↔ (Lifts defaultSettings (reach defaultSettings executingEvent liftSchedule) 0 →
          ¬ HoldEntered defaultSettings
            (reach defaultSettings executingEvent (earlier ++ [.checkGeneration 0])) later)) :=
  lift_in_force_iff defaultSettings executingEvent liftSchedule 0 liftingRun ⟨rfl, _, rfl⟩

/-- **A hold entered in the gap is lifted**: generation 2 is in force when the write on behalf of
generation 1 sets `NONE`. -/
theorem newer_hold_lifted :
    AboutToLift (reach defaultSettings executingEvent
        (liftSchedule ++ [.enterManualHold holdRequest])) 0 liftingRun
      ∧ Lifts defaultSettings (reach defaultSettings executingEvent
        (liftSchedule ++ [.enterManualHold holdRequest])) 0
      ∧ InForce (reach defaultSettings executingEvent
        (liftSchedule ++ [.enterManualHold holdRequest])) 2
      ∧ liftingRun.generation = 1 :=
  ⟨⟨rfl, _, rfl⟩, ⟨by decide, by decide⟩, rfl, rfl⟩

end ShadowTrace.ManualResolution
