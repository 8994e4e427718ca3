/-
**Which run may settle an intent.**

A run reads nothing about its claim when it settles: the completion handlers look at the status of
the row alone. So the outcome of a run that has been reconciled away lands on whatever run has taken
the intent since.
-/

import ShadowTrace.Lib.Fallible
import ShadowTrace.ManualResolution.Service

namespace ShadowTrace.ManualResolution

open Relational Machine

variable {cfg : Settings} {w : World}

/-! ### What a step can do -/

section

variable (cfg : Settings) (w : World)

inductive Move : Label → World → Prop
  | still (label : Label) : Move label w
  | hold (req : HoldRequest) (event : HeldEvent)
      (entered : enterManualHold cfg req w.event = .ok event) :
      Move (.enterManualHold req) { w with event }
  | event (label : Label) (event : HeldEvent) (kept : event.hold = w.event.hold) :
      Move label { w with event }
  | write (label : Label) (intent : Nat) (after : GraphResumeIntent)
      (kept : ∀ row, w.intents.get intent = some row → row.status = .started →
        after.status = .started) :
      Move label { w with intents := w.intents.set intent after }
  | start (run intent : Nat) (now : Int) (row after : GraphResumeIntent)
      (fresh : w.runs run = none) (found : w.intents.get intent = some row)
      (claimed : row.status = .claimed) (started : after.status = .started) :
      Move (.start run intent now)
        { w with
          intents := w.intents.set intent after,
          runs := Function.update w.runs run
            (some ⟨intent, row.kind, row.holdGeneration, .running⟩),
          starter := Function.update w.starter intent (some run) }
  | stage (label : Label) (run : Nat) (current : ResumeRun) (stage : Stage)
      (found : w.runs run = some current) (unchecked : ∀ status, stage ≠ .checked status) :
      Move label (w.setStage run current stage)
  | checked (run : Nat) (current : ResumeRun) (status : EventStatus)
      (found : w.runs run = some current)
      (agrees : checkGeneration current.generation w.event = .ok status) :
      Move (.checkGeneration run) (w.setStage run current (.checked status))
  | lift (run : Nat) (current : ResumeRun) (event : HeldEvent)
      (found : w.runs run = some current) (kept : event.hold = w.event.hold) :
      Move (.clear run)
        ({ w with event }.setStage run current (.settling .success))
  | finish (label : Label) (run : Nat) : Move label (w.endRun run)
  | settle (run : Nat) (now : Int) (current : ResumeRun) (outcome : Outcome)
      (found : w.runs run = some current) : Move (.settle run now)
        ((w.updateIntent current.intent (settleRow cfg now · outcome)).endRun run)
  | reconcile (intent : Nat) (now : Int) (stale : takesAway w intent now = true) :
      Move (.reconcile intent now) ((w.updateIntent intent (reconcileRow cfg now)).takeAway intent)

end

variable {event : HeldEvent} {now : Int} {row after : GraphResumeIntent} {run intent : Nat}
  {current : ResumeRun}

theorem setExecutionSubstate_hold {substate : ExecutionSubstate} {status : EventStatus}
    {after : HeldEvent} (done : setExecutionSubstate substate status event = .ok after) :
    after.hold = event.hold := by
  unfold setExecutionSubstate at done
  split_ifs at done
  obtain ⟨-, kept⟩ := Fallible.unit_bind.mp done
  rw [← Except.ok.inj kept]

theorem claimRow_started (started : row.status = .started)
    (claimed : claimRow cfg now row = .ok after) :
    after.status = .started := by
  have skipped : ¬ (row.status = .pending ∨ row.status = .retry) := by simp [started]
  rw [claimRow, if_neg skipped] at claimed
  rw [← Except.ok.inj claimed]
  exact started

theorem beginRun_goesOn (begun : beginRun event now row = .ok (after, true)) :
    row.status = .claimed ∧ after.status = .started := by
  unfold beginRun at begun
  split_ifs at begun with unclaimed stale cleared
  · cases begun
  iterate 2
    · obtain ⟨_, -, done⟩ := Fallible.bind_eq_ok.mp begun
      cases done
  · obtain ⟨-, done⟩ := Fallible.unit_bind.mp begun
    cases done
    exact ⟨not_not.mp unclaimed, rfl⟩

theorem beginRun_started {goesOn : Bool} (started : row.status = .started)
    (begun : beginRun event now row = .ok (after, goesOn)) : after.status = .started := by
  have unclaimed : row.status ≠ .claimed := by simp [started]
  rw [beginRun, if_pos unclaimed] at begun
  cases begun
  exact started

theorem startRun_move (run intent : Nat) (now : Int) :
    Move cfg w (.start run intent now) (w.startRun run intent now) := by
  unfold World.startRun
  split
  case h_2 => exact .still _
  case h_1 row fresh found =>
    split
    case h_1 after begun =>
      obtain ⟨claimed, started⟩ := beginRun_goesOn begun
      exact .start run intent now row after fresh found claimed started
    case h_2 after begun =>
      refine .write _ intent after fun other there started => ?_
      obtain rfl : row = other := Option.mem_unique found there
      exact beginRun_started started begun
    case h_3 => exact .still _

theorem afterRunner_unchecked (kind : IntentKind) (result : ResumeResult) (status : EventStatus) :
    afterRunner kind result ≠ .checked status := by
  cases result with
  | resumed =>
    unfold afterRunner
    split_ifs
    · exact Stage.noConfusion
    · exact Stage.noConfusion
  | deferred | skipped | failed | raised => exact Stage.noConfusion

theorem settling_unchecked (outcome : Outcome) (status : EventStatus) :
    Stage.settling outcome ≠ .checked status := Stage.noConfusion

/-- Without the run nothing happens; otherwise its stage says what. -/
theorem runStep_move {label : Label} (moves : ∀ current, w.runs run = some current →
      Move cfg w label (w.advance cfg run current label current.stage)) :
    Move cfg w label (w.runStep cfg run label) := by
  unfold World.runStep
  cases found : w.runs run with
  | none => exact .still _
  | some current => exact moves current found

theorem returned_move (run : Nat) (result : ResumeResult) :
    Move cfg w (.returned run result) (w.runStep cfg run (.returned run result))
    := by
  refine runStep_move fun current found => ?_
  cases current.stage with
  | running => exact .stage _ run current _ found (afterRunner_unchecked _ _)
  | clearing | checked | settling => exact .still _

theorem checkGeneration_move (run : Nat) :
    Move cfg w (.checkGeneration run) (w.runStep cfg run (.checkGeneration run)) := by
  refine runStep_move fun current found => ?_
  cases current.stage with
  | running | checked | settling => exact .still _
  | clearing =>
    unfold World.advance
    cases agrees : checkGeneration current.generation w.event with
    | ok status => exact .checked run current status found agrees
    | error => exact .stage _ run current _ found (settling_unchecked _)

theorem clear_move (run : Nat) : Move cfg w (.clear run) (w.runStep cfg run (.clear run)) := by
  refine runStep_move fun current found => ?_
  cases current.stage with
  | running | clearing | settling => exact .still _
  | checked status =>
    show Move cfg w _ (w.afterClear run current (setExecutionSubstate .none status w.event))
    cases lifted : setExecutionSubstate .none status w.event with
    | ok event => exact .lift run current event found (setExecutionSubstate_hold lifted)
    | error error =>
      show Move cfg w _ (if error.isValidation then _ else _)
      split_ifs
      · exact .stage _ run current _ found (settling_unchecked _)
      · exact .finish _ run

theorem settle_move (run : Nat) (now : Int) :
    Move cfg w (.settle run now) (w.runStep cfg run (.settle run now)) := by
  refine runStep_move fun current found => ?_
  cases current.stage with
  | running | clearing | checked => exact .still _
  | settling outcome => exact .settle run now current outcome found

theorem updateIntent_move (label : Label) (intent : Nat)
    {transaction : GraphResumeIntent → Except HoldError GraphResumeIntent}
    (keeps : ∀ {row after}, row.status = .started → transaction row = .ok after →
      after.status = .started) :
    Move cfg w label (w.updateIntent intent transaction) := by
  unfold World.updateIntent
  cases found : w.intents.get intent with
  | none => exact .still _
  | some row =>
    cases done : transaction row with
    | error =>
      simp only [done]
      exact .still _
    | ok after =>
      simp only [done]
      refine .write _ intent after fun other there started => ?_
      obtain rfl : row = other := Option.mem_unique found there
      exact keeps started done

theorem setEvent_move (label : Label) {outcome : Except HoldError HeldEvent}
    (kept : ∀ {event}, outcome = .ok event → event.hold = w.event.hold) :
    Move cfg w label (w.setEvent outcome) := by
  cases outcome with
  | error => exact .still _
  | ok event => exact .event _ event (kept rfl)

theorem step_move (cfg : Settings) (w : World) (label : Label) :
    Move cfg w label (step cfg w label) := by
  cases label with
  | enterManualHold req =>
    show Move cfg w _ (w.setEvent (enterManualHold cfg req w.event))
    cases entered : enterManualHold cfg req w.event with
    | error => exact .still _
    | ok event => exact .hold req event entered
  | setExecutionSubstate => exact setEvent_move _ setExecutionSubstate_hold
  | changeStatus => exact .event _ _ rfl
  | createIntent intent =>
    show Move cfg w _ (if _ then _ else _)
    split_ifs with allowed
    · have absent := (Bool.and_eq_true_iff.mp allowed).1
      refine .write _ intent _ fun row found => ?_
      rw [found] at absent
      cases absent
    · exact .still _
  | claim intent => exact updateIntent_move _ intent claimRow_started
  | start => exact startRun_move ..
  | returned => exact returned_move ..
  | checkGeneration => exact checkGeneration_move ..
  | clear => exact clear_move ..
  | settle => exact settle_move ..
  | reconcile intent now =>
    show Move cfg w _ (if _ then _ else _)
    split_ifs with stale
    · exact .reconcile intent now stale
    · exact .still _
  | crash => exact .finish _ ..

/-! ### What a completion handler ignores -/

def GraphResumeIntent.Ignores (cfg : Settings) (row : GraphResumeIntent) : Outcome → Prop
  | .success => row.status ≠ .started
  | .deferral => row.status ≠ .claimed ∧ row.status ≠ .started
  | .failure _ => row.status ≠ .claimed ∧ row.status ≠ .started
      ∧ (row.status = .retry → row.attempt + 1 < cfg.maxAttempts)

def settledRow (cfg : Settings) (now : Int) (row : GraphResumeIntent) (outcome : Outcome) :
    GraphResumeIntent := (settleRow cfg now row outcome).toOption.getD row

/-- **A handler changes the row exactly when it does not ignore it.** -/
theorem settledRow_ignored (now : Int) (row : GraphResumeIntent) (outcome : Outcome) :
    (settledRow cfg now row outcome).progress = row.progress ↔ row.Ignores cfg outcome := by
  obtain ⟨-, status, _, attempt, -⟩ := row
  have spent : cfg.maxAttempts ≤ attempt + 1 ↔ ¬ attempt + 1 < cfg.maxAttempts := not_lt.symm
  by_cases left : attempt + 1 < cfg.maxAttempts <;> cases outcome <;> cases status <;>
    simp [settledRow, settleRow, GraphResumeIntent.Ignores, markTerminal, requeueDeferred,
      markFailure, GraphResumeIntentStatus.isTerminal, validateGraphResumeTransition,
      graphResumeTransitions, releaseClaim, GraphResumeIntent.progress, bind, Except.bind,
      Except.toOption, spent, left]

/-! ### The runs that hold their intents -/

/-- **Every run at work moved its intent to `STARTED` last**, and the intent still is. -/
def Held (w : World) : Prop :=
  ∀ run current, w.runs run = some current →
    w.starter current.intent = some run
      ∧ ∃ row, w.intents.get current.intent = some row ∧ row.status = .started

/-- No reconciliation takes an intent from a run that is still at work. -/
def Patient (w : World) (label : Label) : Prop :=
  ∀ intent now, label = .reconcile intent now → takesAway w intent now = true →
    ∀ run current, w.runs run = some current → current.intent ≠ intent

theorem Held.fresh (event : HeldEvent) : Held (World.fresh event) := by
  intro _ _ found
  cases found

theorem Held.mono {before after : World} (held : Held before)
    (runs : ∀ run current, after.runs run = some current →
      ∃ earlier, before.runs run = some earlier ∧ earlier.intent = current.intent
        ∧ after.starter current.intent = before.starter current.intent
        ∧ ∀ row, before.intents.get current.intent = some row → row.status = .started →
          ∃ later, after.intents.get current.intent = some later ∧ later.status = .started) :
    Held after := by
  intro run current found
  obtain ⟨earlier, there, same, starter, kept⟩ := runs run current found
  obtain ⟨mine, row, stored, started⟩ := held run earlier there
  rw [same] at mine stored
  exact ⟨starter.trans mine, kept row stored started⟩

theorem Held.setStage (held : Held w) (found : w.runs run = some current) (stage : Stage) :
    Held (w.setStage run current stage) := by
  refine held.mono fun other later there => ?_
  rcases update_eq_some there with ⟨rfl, ⟨⟩⟩ | ⟨-, kept⟩
  · exact ⟨current, found, rfl, rfl, fun row stored started => ⟨row, stored, started⟩⟩
  · exact ⟨later, kept, rfl, rfl, fun row stored started => ⟨row, stored, started⟩⟩

theorem Held.endRun (held : Held w) (run : Nat) : Held (w.endRun run) := by
  refine held.mono fun other later there => ?_
  rcases update_eq_some there with ⟨-, ⟨⟩⟩ | ⟨-, kept⟩
  exact ⟨later, kept, rfl, rfl, fun row stored started => ⟨row, stored, started⟩⟩

theorem Held.distinct (held : Held w) {other : Nat} {another : ResumeRun}
    (found : w.runs run = some current) (there : w.runs other = some another)
    (ne : other ≠ run) : another.intent ≠ current.intent := by
  intro same
  have mine := (held run current found).1
  have theirs := (held other another there).1
  rw [same, mine] at theirs
  exact ne (Option.some.inj theirs).symm

section

variable (intent : Nat) (transaction : GraphResumeIntent → Except HoldError GraphResumeIntent)

theorem updateIntent_frame : (w.updateIntent intent transaction).event = w.event
    ∧ (w.updateIntent intent transaction).runs = w.runs
    ∧ (w.updateIntent intent transaction).starter = w.starter
    ∧ ∀ other ≠ intent,
      (w.updateIntent intent transaction).intents.get other = w.intents.get other := by
  unfold World.updateIntent
  split
  · exact ⟨rfl, rfl, rfl, fun _ _ => rfl⟩
  · split
    · exact ⟨rfl, rfl, rfl, fun _ ne => Table.get_set_ne ne⟩
    · exact ⟨rfl, rfl, rfl, fun _ _ => rfl⟩

theorem Held.settle (held : Held w) (found : w.runs run = some current) :
    Held ((w.updateIntent current.intent transaction).endRun run) := by
  refine held.mono fun other later there => ?_
  rcases update_eq_some there with ⟨-, ⟨⟩⟩ | ⟨ne, kept⟩
  obtain ⟨-, runs, starter, intents⟩ := @updateIntent_frame w current.intent transaction
  rw [runs] at kept
  refine ⟨later, kept, rfl, congrFun starter _, fun row stored started => ⟨row, ?_, started⟩⟩
  exact (intents _ (held.distinct found kept ne)).trans stored

theorem Held.reconcile {intent : Nat} (held : Held w)
    (idle : ∀ run current, w.runs run = some current → current.intent ≠ intent) :
    Held ((w.updateIntent intent transaction).takeAway intent) := by
  refine held.mono fun run current found => ?_
  obtain ⟨-, runs, starter, intents⟩ := @updateIntent_frame w intent transaction
  have there : w.runs run = some current := (congrFun runs run).symm.trans found
  have ne := idle run current there
  refine ⟨current, there, rfl, ?_, fun row stored started => ⟨row, ?_, started⟩⟩
  · exact (Function.update_of_ne ne _ _).trans (congrFun starter _)
  · exact (intents _ ne).trans stored

end

theorem Held.start (held : Held w) (found : w.intents.get intent = some row)
    (claimed : row.status = .claimed) (started : after.status = .started) :
    Held { w with
      intents := w.intents.set intent after,
      runs := Function.update w.runs run (some ⟨intent, row.kind, row.holdGeneration, .running⟩),
      starter := Function.update w.starter intent (some run) } := by
  intro other current there
  rcases update_eq_some there with ⟨rfl, ⟨⟩⟩ | ⟨-, kept⟩
  · exact ⟨Function.update_self _ _ _, after, Table.get_set_self, started⟩
  obtain ⟨mine, held, stored, running⟩ := held other current kept
  have ne : current.intent ≠ intent := by
    intro same
    rw [same, found] at stored
    cases stored
    rw [claimed] at running
    cases running
  exact ⟨(Function.update_of_ne ne _ _).trans mine, held,
    (Table.get_set_ne ne).trans stored, running⟩

theorem step_held (w : World) (label : Label) (held : Held w)
    (patient : Patient w label) : Held (step cfg w label) := by
  have move := step_move cfg w label
  generalize step cfg w label = next at move
  cases move with
  | still | hold | event => exact held
  | write _ intent after kept =>
    refine held.mono fun run current found => ⟨current, found, rfl, rfl, ?_⟩
    intro row stored started
    by_cases same : current.intent = intent
    · rw [same] at stored ⊢
      exact ⟨after, Table.get_set_self, kept row stored started⟩
    · exact ⟨row, (Table.get_set_ne same).trans stored, started⟩
  | start _ _ _ _ _ _ found claimed started => exact held.start found claimed started
  | stage _ _ _ stage found => exact held.setStage found stage
  | checked _ _ _ found => exact held.setStage found _
  | lift _ _ event found =>
    have moved : Held { w with event } := held
    exact moved.setStage found _
  | finish _ run => exact held.endRun run
  | settle _ _ _ _ found => exact held.settle _ found
  | reconcile intent now stale => exact held.reconcile _ (patient intent now rfl stale)

/-! ### Outcomes -/

/-- **An outcome is fenced**: it changes the status, the attempt or the revision of the intent only
if its run moved the intent to `STARTED` last and no reconciliation has taken it away since. -/
def OutcomeFenced (cfg : Settings) (w : World) (label : Label) : Prop :=
  ∀ run now current outcome before after, label = .settle run now →
    w.runs run = some current → current.stage = .settling outcome →
    w.intents.get current.intent = some before →
    (step cfg w label).intents.get current.intent = some after →
    after.progress ≠ before.progress → w.starter current.intent = some run

/-- A run that lost its intent returns to a row that its handler ignores. -/
def LateIgnored (cfg : Settings) (w : World) (label : Label) : Prop :=
  ∀ run now current outcome before, label = .settle run now →
    w.runs run = some current → current.stage = .settling outcome →
    w.intents.get current.intent = some before →
    w.starter current.intent ≠ some run → before.Ignores cfg outcome

theorem settle_get {outcome : Outcome} {before : GraphResumeIntent}
    (found : w.runs run = some current) (stage : current.stage = .settling outcome)
    (stored : w.intents.get current.intent = some before) :
    (step cfg w (.settle run now)).intents.get current.intent
      = some (settledRow cfg now before outcome) := by
  show (w.runStep cfg run (.settle run now)).intents.get current.intent = _
  simp only [World.runStep, found, stage]
  show (w.updateIntent current.intent (settleRow cfg now · outcome)).intents.get current.intent = _
  unfold World.updateIntent settledRow
  simp only [stored]
  cases settleRow cfg now before outcome with
  | error => exact stored
  | ok => exact Table.get_set_self

theorem outcomeFenced_iff (w : World) (label : Label) :
    OutcomeFenced cfg w label ↔ LateIgnored cfg w label := by
  constructor
  · rintro fenced run now current outcome before rfl found stage stored lost
    by_contra acts
    refine lost (fenced run now current outcome before _ rfl found stage stored
      (settle_get found stage stored) fun same => acts ?_)
    exact (settledRow_ignored now before outcome).mp same
  rintro ignored run now current outcome before after rfl found stage stored done changed
  by_contra lost
  rw [settle_get found stage stored] at done
  cases done
  exact changed ((settledRow_ignored now before outcome).mpr
    (ignored run now current outcome before rfl found stage stored lost))

theorem Held.lateIgnored (held : Held w) (label : Label) : LateIgnored cfg w label := by
  intro run _ current _ _ _ found _ _ lost
  exact absurd (held run current found).1 lost

/-- **Fenced outcomes.** For every schedule of claims, runs, reconciliations and claims again, from
any world: every outcome is fenced exactly if every run that lost its intent returns to a row that
its handler ignores. And from a service without runs, a schedule in which no reconciliation takes an
intent from a run that is still at work keeps every outcome fenced. -/
theorem outcomes_fenced (cfg : Settings) :
    (∀ w labels, Along (step cfg) (OutcomeFenced cfg) w labels
      ↔ Along (step cfg) (LateIgnored cfg) w labels)
    ∧ ∀ event labels, Along (step cfg) Patient (World.fresh event) labels →
      Along (step cfg) (OutcomeFenced cfg) (World.fresh event) labels := by
  refine ⟨fun w labels => along_congr outcomeFenced_iff, ?_⟩
  intro event _ patient
  refine along_of_invariant Patient Held (step_held) ?_
    (Held.fresh event) patient
  intro state label held
  exact (outcomeFenced_iff state label).mpr (held.lateIgnored label)

def defaultSettings : Settings := ⟨"evt-1", 120, 5⟩

def executingEvent : HeldEvent := ⟨.executingResponse, none, .none⟩

/-- A worker that died is reconciled away and its intent run again. -/
def rerunSchedule : List Label :=
  [.createIntent 0 .approvalPlanResume 0, .claim 0 0, .start 0 0 0, .crash 0, .reconcile 0 120,
    .claim 0 121, .start 1 0 121, .returned 1 .resumed, .settle 1 130]

theorem rerunSchedule_patient :
    Along (step defaultSettings) Patient (World.fresh executingEvent) rerunSchedule := by
  have other : ∀ {w : World} {label : Label}, (∀ intent now, label ≠ .reconcile intent now) →
      Patient w label := fun unlike intent now same => absurd same (unlike intent now)
  refine ⟨other ?_, other ?_, other ?_, other ?_, ?_, other ?_, other ?_, other ?_, other ?_,
    trivial⟩
  case refine_5 =>
    rintro intent now - - run current found
    rcases update_eq_some found with ⟨-, ⟨⟩⟩ | ⟨ne, kept⟩
    rcases update_eq_some kept with ⟨same, -⟩ | ⟨-, ⟨⟩⟩
    exact absurd same ne
  all_goals exact fun _ _ => Label.noConfusion

theorem outcomes_fenced_rerun :
    Along (step defaultSettings) (OutcomeFenced defaultSettings)
      (World.fresh executingEvent) rerunSchedule :=
  (outcomes_fenced defaultSettings).2 _ _ rerunSchedule_patient

/-- A slow run is reconciled away, its intent is claimed and started again, and then it returns. -/
def overtakenSchedule : List Label :=
  [.createIntent 0 .approvalPlanResume 0, .claim 0 0, .start 0 0 0, .reconcile 0 120, .claim 0 121,
    .start 1 0 121, .returned 0 .resumed]

/-- **The late success ends the newer run's intent**: the row goes to `TERMINAL` while the run that
holds it is still at work. -/
theorem late_success_unfenced :
    ¬ Along (step defaultSettings) (OutcomeFenced defaultSettings)
      (World.fresh executingEvent) (overtakenSchedule ++ [.settle 0 130]) := by
  intro along
  have fenced := (along_append.mp along).2.1
  have owner := fenced 0 130 _ .success _ _ rfl rfl rfl rfl rfl (by decide)
  exact absurd owner (by decide)

end ShadowTrace.ManualResolution
