/-
**Completions that do not collide agree.**

The last clause of `Stands`: a rollback whose success the provider has reported makes its way from
the executor to the compare-and-set (`Progress`), whichever process takes the steps in between. With
it, `completions_agree` holds of every schedule that `serial` admits; `completions_collide` is the
schedule of two callers in which the second one's claim fails and its handler marks the rollback of
the first one failed.
-/

import ShadowTrace.Lifecycle.SerialCompletions

namespace ShadowTrace.Lifecycle.Completions

open Relational Execution Machine

section Reported

variable {cfg : Settings} {w after : World} {p holder : ProcId} {call : Call}
  {rollback original : ActionId} {seen : ActionStatus}

/-! ### Reported successes -/

theorem Progress.stored (stands : Stands w) (progress : Progress w rollback) :
    IsA .rollback w.db rollback := by
  cases progress with
  | carried target | returned target => exact stands.target_rollback target
  | ungraded held => exact (stands.sound.rollback held).2.1
  | effective held =>
    obtain ⟨row, found, category, -⟩ := (stands.sound.rollback held).2
    exact ⟨row, found, category⟩
  | settled done =>
    obtain ⟨-, _, ⟨row, found, category, -⟩, -⟩ := done
    exact ⟨row, found, category⟩

theorem cas_settles (stands : Stands w)
    (held : w.base.rollback p = .effective original seen rollback)
    (success : hasStatus w.db rollback .success = true) (now : Time) :
    Settled (stepRollback w.base p (.cas now)).db rollback := by
  obtain ⟨row, found, response, kind⟩ :=
    stands.originals p original seen rollback (by rw [held]; rfl)
  obtain ⟨undoing, stored, category, linked⟩ :=
    stands.paired.processes p original rollback (by rw [held]; rfl)
  have apart : rollback ≠ original := by
    rintro rfl
    exact not_response_of_rollback ⟨undoing, stored, category⟩ ⟨row, found, response⟩
  have there : w.base.db.actions.get original = some row := found
  have after : (stepRollback w.base p (.cas now)).db
      = Rollback.casRollbackStatus w.base.db original seen now := by
    simp only [stepRollback, held]
    rfl
  rw [after]
  unfold Rollback.casRollbackStatus
  rw [there]
  dsimp only
  obtain back | ⟨able, ableNow⟩ := kind
  · rw [if_neg (by simp [back, Rollback.rollbackable])]
    exact ⟨success, original, ⟨undoing, stored, category, linked⟩, (hasStatus_iff found).mpr back⟩
  rw [if_pos (by rw [able, ableNow]; rfl)]
  have same : (w.base.db.putAction original (Rollback.rolledBackRow row now)).actions.get
      rollback = some undoing := (Table.get_set_ne apart).trans stored
  refine ⟨?_, original, ⟨undoing, same, category, linked⟩, ?_⟩
  · exact (hasStatus_iff same).mpr ((hasStatus_iff stored).mp success)
  · exact (hasStatus_iff (Table.get_set_self)).mpr rfl

variable (taken : Taken cfg w p call after)
include taken

theorem uncalled_kept (orderly : serial w (p, call) = true)
    (finished : hasStatus w.db rollback .approved = false) (alone : w.uncalled rollback) :
    after.uncalled rollback := by
  intro other target
  by_contra inside
  by_cases away : other = p
  · subst away
    obtain ⟨same, before | ⟨_, _, called, rfl, known⟩⟩ := called_here taken inside
    · rw [same] at target
      exact before (alone other target)
    · have aims : called = rollback := Option.some.inj (known.symm.trans (same.symm.trans target))
      simp only [serial, known, aims, Option.all_some, Bool.and_eq_true, finished] at orderly
      cases orderly.1
  · rw [taken.target_elsewhere away] at target
    rw [(taken.elsewhere away).2.2] at inside
    exact inside (alone other target)

theorem success_kept (stored : IsA .rollback w.db rollback) (fresh : rollback ∉ refutes w p call)
    (alone : w.uncalled rollback) (success : hasStatus w.db rollback .success = true) :
    hasStatus after.db rollback .success = true :=
  status_kept taken stored (.inr ⟨rfl, fresh⟩) (alone p) success

theorem settled_kept (fresh : rollback ∉ refutes w p call)
    (alone : w.uncalled rollback) (settled : Settled w.db rollback) :
    Settled after.db rollback := by
  obtain ⟨success, original, undoes, back⟩ := settled
  obtain ⟨row, found, category, linked⟩ := undoes
  refine ⟨success_kept taken ⟨row, found, category⟩ fresh alone success, original, ?_, ?_⟩
  · unfold World.db
    obtain same | ⟨_, same⟩ := taken.base
    · rw [same]
      exact ⟨row, found, category, linked⟩
    · rw [same]
      exact Undoes.step ⟨row, found, category, linked⟩
  obtain ⟨source, there, response⟩ := taken.stands.sound.source_response found category linked
  have standing : Standing w.db original .rolledBack :=
    ⟨source, there, response, .inl ((hasStatus_iff there).mp back)⟩
  obtain ⟨_, reached, -, status | ⟨able, -⟩⟩ := standing.step taken
  · exact (hasStatus_iff reached).mpr status
  · cases able

theorem carried_here (orderly : serial w (p, call) = true)
    (listed : rollback ∈ w.reported) (target : w.target p = some rollback)
    (running : w.hook p = .running) (past : answered (w.base.runner p) = true) :
    Progress after rollback := by
  have stands := taken.stands
  have busy : w.base.runner p ≠ .idle := by
    intro idle
    rw [idle] at past
    cases past
  obtain ⟨-, works⟩ := stands.executor p busy
  cases taken.goes with
  | stays same runner hook =>
    exact .carried ((target_of_rollbacks same).trans target) (hook.trans running)
      (by rw [runner]; exact past)
  | served _ _ idle | returned idle | raised idle | refused idle | claimed idle =>
    rw [running] at idle
    cases idle
  | @inside run _ goes hook base =>
    have same : after.target p = some rollback := by
      rw [← target]
      exact target_of_other base rfl
    have mine : ∀ exec : DirectRun, runnerAction (w.base.runner p)
        = some exec.action → exec.action = rollback := by
      intro _ acts
      exact Option.some.inj (acts.symm.trans (works.trans target))
    have calm : run ≠ .raise := by
      rintro rfl
      simp [serial, target, listed] at orderly
    have carries : Carries (stepRunner cfg w.base p run) p run := by
      refine stepRunner_carries cfg goes past calm ?_ ?_
      · intro exec terminal now finishing
        obtain rfl := mine exec (by rw [finishing]; rfl)
        obtain ⟨_, found, category⟩ := stands.target_rollback target
        have executing := (hasStatus_iff found).mp
          (stands.executing p _ target (by rw [finishing]; rfl))
        exact finishDirectTool_executing found category executing terminal now
      rintro exec draft rfl recording
      obtain rfl := mine exec (by rw [recording]; rfl)
      have contained : w.reported.contains exec.action = true := by simpa using listed
      simp only [serial, World.recordable, recording] at orderly
      rw [contained, Bool.not_true, Bool.false_or] at orderly
      cases draft with
      | none => cases orderly
      | some cmd =>
        rw [Option.any_some] at orderly
        cases accepted : enqueue w.db (cmd.args exec.action exec.row
            .executionResultRecord .default none) with
        | error =>
          rw [accepted] at orderly
          cases orderly
        | ok written => exact ⟨cmd, written, rfl, accepted⟩
    obtain still | ⟨idle, ends⟩ := carries
    · refine .carried same ?_ (by rw [base]; exact still)
      rw [hook, if_neg]
      intro idle
      rw [idle] at still
      cases still
    · refine .returned same ?_
      rw [hook, if_pos idle, ends]

theorem returned_here (target : w.target p = some rollback)
    (back : w.hook p = .returned) : Progress after rollback := by
  have stands := taken.stands
  obtain ⟨original, seen, held⟩ := target_eq_some target
  have others : ∀ other, other ≠ p → after.target other = some rollback →
      after.hook other = .idle := by
    intro other away aims
    rw [taken.target_elsewhere away] at aims
    rw [(taken.elsewhere away).2.2]
    by_contra inside
    exact away (stands.single other p rollback inside (by rw [back]; nofun) aims target)
  cases taken.goes with
  | stays same _ hook => exact .returned ((target_of_rollbacks same).trans target) (hook.trans back)
  | served _ _ idle | raised idle | refused idle | claimed idle | inside idle =>
    rw [back] at idle
    cases idle
  | returned _ _ base =>
    obtain ⟨row, found, -⟩ := stands.target_rollback target
    have stored : w.base.db.actions.get rollback = some row := found
    have reached : after.base = w.base.setRollback p
        (.executed original seen rollback row.status) := by
      rw [base]
      show stepRollback w.base p .returned = _
      simp only [stepRollback, held, stored]
    have memory : after.base.rollback p = .executed original seen rollback row.status := by
      rw [reached, rollback_setRollback, if_pos rfl]
    refine .ungraded memory (fun success => ?_) fun other aims => ?_
    · unfold World.db
      rw [reached]
      exact (hasStatus_iff found).mpr success
    by_cases away : other = p
    · rw [away, World.target, memory] at aims
      cases aims
    · exact others other away aims

theorem served_here (unaimed : w.target holder = none) :
    after.base.rollback holder = w.base.rollback holder
      ∨ ∃ run, holder = p ∧ call = .service run ∧ run ≠ .returned ∧ (∀ now, run ≠ .raised now)
        ∧ after.base = stepRollback w.base holder run := by
  by_cases away : holder = p
  case neg => exact .inl (taken.elsewhere away).1
  subst away
  have outside : w.hook holder = .idle := by
    by_contra inside
    obtain ⟨_, target⟩ := taken.stands.called holder inside
    rw [unaimed] at target
    cases target
  cases taken.goes with
  | stays same => exact .inl same
  | served waits calm _ _ base => exact .inr ⟨_, rfl, rfl, waits, calm, base⟩
  | returned hook | raised hook | inside hook =>
    rw [outside] at hook
    cases hook
  | refused _ target | claimed _ target =>
    rw [unaimed] at target
    cases target

variable (orderly : serial w (p, call) = true) (fresh : rollback ∉ refutes w p call)
  (finished : hasStatus w.db rollback .approved = false)
include orderly fresh finished

theorem ungraded_here {status : ActionStatus}
    (held : w.base.rollback holder = .executed original seen rollback status)
    (success : status = .success → hasStatus w.db rollback .success = true)
    (alone : w.uncalled rollback) : Progress after rollback := by
  have stored := (taken.stands.sound.rollback held).2.1
  have uncalled := uncalled_kept taken orderly finished alone
  have succeeds : status = .success → hasStatus after.db rollback .success = true :=
    fun done => success_kept taken stored fresh alone (success done)
  have unmoved : after.base.rollback holder = w.base.rollback holder → Progress after rollback :=
    fun same => .ungraded (same.trans held) succeeds uncalled
  have unaimed : w.target holder = none := by rw [World.target, held]
  obtain same | ⟨run, rfl, rfl, waits, calm, reached⟩ := served_here taken unaimed
  · exact unmoved same
  cases run with
  | grade readback =>
    simp only [refutes, held] at fresh
    simp only [stepRollback, stepGrade, held] at reached
    cases grade : Rollback.verifyRollbackEffect status readback with
    | verified | skipped =>
      have memory : after.base.rollback holder = .effective original seen rollback := by
        rw [grade] at reached
        rw [reached, rollback_setRollback, if_pos rfl]
      have done := @Rollback.verifyRollbackEffect_success status readback (by simp [grade])
      exact .effective memory (succeeds done) uncalled
    | failed | unverifiable =>
      -- a grade that is no success would be on the list
      rw [grade] at fresh
      exact absurd (List.mem_singleton.mpr rfl) fresh
  | _ =>
    simp only [stepRollback, stepRollbackStart, stepCompleteApproved, held] at reached
    exact unmoved (by rw [reached])

theorem effective_here (held : w.base.rollback holder = .effective original seen rollback)
    (success : hasStatus w.db rollback .success = true) (alone : w.uncalled rollback) :
    Progress after rollback := by
  obtain ⟨row, found, category, -⟩ := (taken.stands.sound.rollback held).2
  have uncalled := uncalled_kept taken orderly finished alone
  have succeeds := success_kept taken ⟨row, found, category⟩ fresh alone success
  have unmoved : after.base.rollback holder = w.base.rollback holder → Progress after rollback :=
    fun same => .effective (same.trans held) succeeds uncalled
  have unaimed : w.target holder = none := by rw [World.target, held]
  obtain same | ⟨run, rfl, rfl, waits, calm, reached⟩ := served_here taken unaimed
  · exact unmoved same
  cases run with
  | cas now =>
    refine .settled ?_ uncalled
    unfold World.db
    rw [reached]
    exact cas_settles taken.stands held success now
  | _ =>
    simp only [stepRollback, stepRollbackStart, stepCompleteApproved, stepGrade, held] at reached
    exact unmoved (by rw [reached])

/-- **A reported success makes progress**, whoever takes the step. -/
theorem progress_step (listed : rollback ∈ w.reported) (progress : Progress w rollback) :
    Progress after rollback := by
  cases progress with
  | @carried holder target running past =>
    by_cases away : holder = p
    · subst away
      exact carried_here taken orderly listed target running past
    refine .carried ((taken.target_elsewhere away).trans target)
      ((taken.elsewhere away).2.2.trans running) ?_
    rw [(taken.elsewhere away).2.1]
    exact past
  | @returned holder target back =>
    by_cases away : holder = p
    · subst away
      exact returned_here taken target back
    · exact .returned ((taken.target_elsewhere away).trans target)
        ((taken.elsewhere away).2.2.trans back)
  | ungraded held success alone =>
    exact ungraded_here taken orderly fresh finished held success alone
  | effective held success alone =>
    exact effective_here taken orderly fresh finished held success alone
  | settled done alone =>
    exact .settled (settled_kept taken fresh alone done)
      (uncalled_kept taken orderly finished alone)

omit taken orderly fresh finished

theorem reports_progress (stands : Stands w) (reported : rollback ∈ reports w p call) :
    hasStatus (step cfg w (p, call)).db rollback .executing = true
      ∧ Progress (step cfg w (p, call)) rollback := by
  have taken := step_taken cfg stands p call
  -- an executor that goes on past the answer carries the report
  have carries : ∀ (run : RunnerOp) (exec : DirectRun), call = .inside run →
      continues run = true → w.hook p = .running →
      runnerAction (w.base.runner p) = some exec.action →
      answered ((stepRunner cfg w.base p run).runner p) = true →
      unfinished ((stepRunner cfg w.base p run).runner p) = true →
      hasStatus (step cfg w (p, call)).db exec.action .executing = true
        ∧ Progress (step cfg w (p, call)) exec.action := by
    rintro run exec rfl goes running acts past still
    have busy : w.base.runner p ≠ .idle := by
      intro idle
      rw [idle] at acts
      cases acts
    have base : (step cfg w (p, .inside run)).base = stepRunner cfg w.base p run := by
      simp only [step, move, running, goes]
      rfl
    have hook : (step cfg w (p, .inside run)).hook p = .running := by
      rw [hook_step, if_pos rfl]
      simp only [move, running, goes, and_self, if_true]
      rw [if_neg]
      intro idle
      rw [idle] at past
      cases past
    generalize step cfg w (p, .inside run) = after at *
    have target : after.target p = some exec.action := by
      have stepped : after.base = Lifecycle.step cfg w.base (.runner p run) := base
      rw [← acts, (stands.executor p busy).2]
      exact target_of_other stepped rfl
    exact ⟨step_executing taken p exec.action target (by rw [base]; exact still),
      .carried target hook (by rw [base]; exact past)⟩
  unfold reports at reported
  split at reported
  · rename_i received
    split at reported
    · rename_i exec _ running waiting
      split at reported
      · obtain rfl := List.mem_singleton.mp reported
        refine carries (.answer (.result received)) exec rfl rfl running
          (by rw [waiting]; rfl) ?_ ?_
        all_goals
          simp only [stepRunner, stepAnswer, waiting, afterAnswer]
          rw [runner_of_set rfl]
          split <;> rfl
      · cases reported
    · cases reported
  · rename_i completed synced
    split at reported
    · rename_i exec _ running mocking
      split at reported
      · obtain rfl := List.mem_singleton.mp reported
        refine carries (.runMock completed synced) exec rfl rfl running (by rw [mocking]; rfl) ?_ ?_
        all_goals
          simp only [stepRunner, mocking]
          rw [runner_of_set rfl]
          rfl
      · cases reported
    · cases reported
  · cases reported

theorem hasStatus_unique {db : Db} {id : ActionId} {status other : ActionStatus}
    (here : hasStatus db id status = true) (apart : status ≠ other) :
    hasStatus db id other = false := by
  unfold hasStatus at *
  cases found : db.actions.get id with
  | none => rfl
  | some =>
    rw [found, Option.any_some, beq_iff_eq] at here
    rw [Option.any_some, here]
    simpa using apart

theorem step_stands (cfg : Settings) (w : World) (label : ProcId × Call)
    (stands : Stands w) (orderly : serial w label = true) :
    Stands (step cfg w label) := by
  obtain ⟨p, call⟩ := label
  have taken := step_taken cfg stands p call
  refine
    { sound := ?_
      paired := ?_
      called := step_called taken
      executor := step_executor taken
      single := step_single taken orderly
      executing := step_executing taken
      originals := step_originals taken orderly
      reported := ?_ }
  · obtain same | ⟨op, same⟩ := taken.base
    · rw [same]
      exact stands.sound
    · rw [same]
      exact step_sound cfg w.base op stands.sound
  · obtain same | ⟨op, same⟩ := taken.base
    · rw [same]
      exact stands.paired
    · rw [same]
      exact step_paired cfg w.base op stands.sound stands.paired
  intro rollback listed spared
  obtain ⟨fresh, before⟩ := not_or.mp fun either => spared (List.mem_append.mpr either)
  obtain now | earlier := List.mem_append.mp listed
  · obtain ⟨executing, carried⟩ := reports_progress stands now
    exact ⟨hasStatus_unique executing nofun, carried⟩
  · obtain ⟨finished, progress⟩ := stands.reported rollback earlier before
    exact ⟨not_approved_kept taken (progress.stored stands) finished,
      progress_step taken orderly fresh finished earlier progress⟩

theorem step_undisturbed (cfg : Settings) (w : World) (label : ProcId × Call)
    (stands : Stands w) : Undisturbed w label (step cfg w label) := by
  obtain ⟨mover, call⟩ := label
  intro other rollback away executes
  simp only [World.executes, Bool.and_eq_true, beq_iff_eq] at executes
  obtain ⟨⟨running, target⟩, executing⟩ := executes
  refine hasStatus_unique (status_kept (step_taken cfg stands mover call)
    (stands.target_rollback target) (.inl rfl) (fun aims => ?_) executing) nofun
  by_contra inside
  exact away (stands.single other mover rollback (by rw [running]; nofun) inside target aims)

theorem Stands.kept (stands : Stands w) : Kept w := by
  intro rollback listed spared quiet
  have busy : ∀ p, w.target p ≠ some rollback := by
    intro p target
    obtain ⟨original, _, held⟩ := target_eq_some target
    exact quiet p original (by rw [held]; rfl)
  cases (stands.reported rollback listed spared).2 with
  | @carried p target running past | @returned p target back => exact absurd target (busy p)
  | @ungraded p original seen status held success alone
  | @effective p original seen held success alone =>
    exact absurd (by rw [held]; rfl) (quiet p original)
  | settled done => exact done

end Reported

/-! ### Whole schedules -/

def atRest (base : Lifecycle.World) : Bool :=
  (base.runners.rows.all fun entry => entry.2 == .idle)
    && base.rollbacks.rows.all fun entry => entry.2 == .idle

theorem getD_of_rows {ρ : Type} [DecidableEq ρ] {table : Table ProcId ρ} {rest : ρ}
    (all : (table.rows.all fun entry => entry.2 == rest) = true) (p : ProcId) :
    (table.get p).getD rest = rest := by
  cases found : table.get p with
  | none => rfl
  | some entry =>
    have same := List.all_eq_true.mp all (p, entry) (Table.mem_rows.mpr found)
    exact eq_of_beq same

theorem stands_of_rest {base : Lifecycle.World} (sound : Sound base) (paired : Paired base)
    (rest : atRest base = true) : Stands (World.of base) := by
  obtain ⟨runners, rollbacks⟩ := (Bool.and_eq_true _ _).mp rest
  have idle : ∀ p, base.runner p = .idle := getD_of_rows runners
  have out : ∀ p, base.rollback p = .idle := getD_of_rows rollbacks
  have unaimed : ∀ p, (World.of base).target p = none := by
    intro p
    unfold World.target
    rw [show (World.of base).base.rollback p = .idle from out p]
  refine
    { sound, paired
      called := fun _ => absurd rfl
      executor := fun p => absurd (idle p)
      single := fun _ _ _ => absurd rfl
      executing := fun p rollback target => ?_
      originals := fun p original seen rollback works => ?_
      reported := fun rollback listed => by cases listed }
  · rw [unaimed p] at target
    cases target
  · rw [show (World.of base).base.rollback p = .idle from out p] at works
    cases works

/-- **Completions that do not collide agree.** From every reachable state of the lifecycle in which
no execution and no completion is under way, and for every interleaving of any number of
completions, replays and repairs whose steps are serial: no rollback that one caller executes is
failed by another one, and a rollback whose provider reported a success ends as a success with its
original undone, unless a verification of its effect fails. -/
theorem completions_agree (cfg : Settings) (around : Surroundings) (ops : List Op)
    (rest : atRest (run (Lifecycle.step cfg) (Lifecycle.World.initial around) ops) = true)
    (labels : List (ProcId × Call))
    (orderly : Along (step cfg) (fun w label => serial w label = true)
      (World.of (run (Lifecycle.step cfg) (Lifecycle.World.initial around) ops)) labels) :
    (∀ before label after, Occurs (step cfg)
        (World.of (run (Lifecycle.step cfg)
          (Lifecycle.World.initial around) ops)) labels before label after →
        Undisturbed before label after)
      ∧ Kept (run (step cfg) (World.of (run (Lifecycle.step cfg)
        (Lifecycle.World.initial around) ops)) labels) := by
  have start := stands_of_rest (run_sound cfg around ops)
    (run_paired cfg around ops) rest
  constructor
  · intro _ label _ occurs
    exact occurs_invariant (fun w label => serial w label = true) Stands Undisturbed
      (step_stands cfg)
      (fun w label stands _ => step_undisturbed cfg w label stands)
      start orderly occurs
  · exact (run_invariant (fun w label => serial w label = true) Stands
      (step_stands cfg) start orderly).kept

theorem quiet_of_rows {w : World}
    (all : (w.base.rollbacks.rows.all fun entry => (rollbackPair entry.2).isNone) = true)
    (rollback : ActionId) : w.quiet rollback := by
  intro p _ works
  unfold Lifecycle.World.rollback at works
  cases found : w.base.rollbacks.get p with
  | none =>
    rw [found] at works
    cases works
  | some memory =>
    rw [found, Option.getD_some] at works
    have free := List.all_eq_true.mp all (p, memory) (Table.mem_rows.mpr found)
    rw [works] at free
    cases free

def sampleBlock : List Op := sampleDecision ++ sampleExecution 1 1

def sampleStart : World :=
  World.of (run (Lifecycle.step (sampleSettings 3))
    (Lifecycle.World.initial {}) sampleBlock)

def sampleRequest : ProcId × Call :=
  (0, .service (.start 1 false 2 7 { writebackAllowed := true, adapterSupports := true } 3))

def sampleExecute (p : ProcId) : ProcId × Call :=
  (p, .execute { bindingValid := true, fenceOpen := true } 3)

def sampleWork : List (ProcId × Call) :=
  [(0, .inside (.executeDirect 2 3)), (0, .inside (.prepare .passed)),
    (0, .inside (.round false false)),
    (0, .inside (.answer (.result
      { status := .success, hasJobId := true, providerJobId := none }))),
    (0, .inside .readJob), (0, .inside (.compareAndSet true)), (0, .inside (.readReturned false)),
    (0, .inside (.finish 4))]

/-- Process 1 completes the rollback once more while process 0 verifies its effect. -/
def sampleCompletion : List (ProcId × Call) :=
  [sampleRequest, sampleExecute 0] ++ sampleWork
    ++ [(0, .service .returned), (1, .service (.completeApproved 2)),
      (0, .service (.grade (some true) 5)), (1, .service (.grade (some true) 5)),
      (0, .service (.cas 6)), (1, .service (.cas 7))]

set_option maxRecDepth 4000 in
theorem completions_agree_twice :
    Along (step (sampleSettings 3)) (fun w label => serial w label = true)
        sampleStart sampleCompletion
      ∧ 2 ∈ (run (step (sampleSettings 3)) sampleStart sampleCompletion).reported
      ∧ Settled (run (step (sampleSettings 3)) sampleStart sampleCompletion).db 2 := by
  have orderly : Along (step (sampleSettings 3))
      (fun w label => serial w label = true) sampleStart sampleCompletion := by decide
  have reported : 2 ∈ (run (step (sampleSettings 3)) sampleStart
      sampleCompletion).reported := by decide
  refine ⟨orderly, reported, ?_⟩
  exact (completions_agree (sampleSettings 3) {} sampleBlock (by decide)
    sampleCompletion orderly).2 2 reported (by decide) (quiet_of_rows (by decide) 2)

/-- Process 1 completes the same rollback. Both have found it approved; process 0 holds the claim,
and the call of process 1 raises. -/
def sampleClash : List (ProcId × Call) :=
  [sampleRequest, (1, .service (.completeApproved 2)), sampleExecute 0, sampleExecute 1]

set_option maxRecDepth 4000 in
/-- **Completions collide.** The handler of process 1 fails the rollback that process 0 executes.
The provider then reports a success to process 0, which the action cannot follow any more. -/
theorem completions_collide :
    ¬ Undisturbed (run (step (sampleSettings 3)) sampleStart sampleClash)
        (1, .service (.raised 4))
        (step (sampleSettings 3) (run (step (sampleSettings 3)) sampleStart sampleClash)
          (1, .service (.raised 4)))
      ∧ ¬ Kept (run (step (sampleSettings 3)) sampleStart
        (sampleClash ++ [(1, .service (.raised 4))] ++ sampleWork
          ++ [(0, .inside (.fail 5)), (0, .service (.raised 6))])) := by
  constructor
  · intro undisturbed
    have failed := undisturbed 0 2 (by decide) (by decide)
    revert failed
    decide
  intro kept
  have settled := kept 2 (by decide) (by decide) (quiet_of_rows (by decide) 2)
  have success := settled.1
  revert success
  decide

end ShadowTrace.Lifecycle.Completions
