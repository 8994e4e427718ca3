/-
**Serial completions agree.**

`Stands` is kept by every step that `serial` admits. The proof says once how a step may change the
status of a stored action (`Change`, from the lifecycle's `RowChange` and the ways a step goes), and
reads off it what the clauses need: a rollback that nobody is executing keeps its success, one that
a process executes stays `executing`, and an original stays what it was or is undone.
-/

import ShadowTrace.Lifecycle.CompletionExecutors

namespace ShadowTrace.Lifecycle.Completions

open Relational Execution

/-! ### Statuses -/

section

variable {w : World}

theorem step_base (cfg : Settings) (w : World) (label : ProcId × Call) :
    (step cfg w label).base = w.base
      ∨ ∃ op, (step cfg w label).base = Lifecycle.step cfg w.base op := by
  show w.apply cfg (move cfg w label.1 label.2).1 = _ ∨ ∃ op,
    w.apply cfg (move cfg w label.1 label.2).1 = _
  cases (move cfg w label.1 label.2).1 with
  | none => exact .inl rfl
  | some op => exact .inr ⟨op, rfl⟩

end

/-! ### The ways a step goes -/

variable {rollback : ActionId}

section

variable {cfg : Settings} {w : World} {p : ProcId} {call : Call}

theorem target_eq_some (target : w.target p = some rollback) :
    ∃ original seen, w.base.rollback p = .executing original seen rollback := by
  unfold World.target at target
  split at target
  · rename_i original seen _ held
    cases target
    exact ⟨original, seen, held⟩
  · cases target

theorem target_of_rollbacks {after : World} (same : after.base.rollback p = w.base.rollback p) :
    after.target p = w.target p := by
  unfold World.target
  rw [same]

theorem rollback_of_other {op : Op} (other : op.rollsBack = false) (base : Lifecycle.World) :
    (Lifecycle.step cfg base op).rollback p = base.rollback p :=
  rollback_of_same (step_rollbacks other) p

theorem target_of_other {after : World} {op : Op} (base : after.base = Lifecycle.step cfg w.base op)
    (other : op.rollsBack = false) : after.target p = w.target p :=
  target_of_rollbacks (by rw [base]; exact rollback_of_other other w.base)

theorem runner_of_other {op : Op} (other : op.runs = false) (base : Lifecycle.World) :
    (Lifecycle.step cfg base op).runner p = base.runner p :=
  (step_sameExecutors other).runner p

theorem repair_actions (cfg : Settings) (base : Lifecycle.World) (id : ActionId)
    (draft : CommandDraft) :
    (Lifecycle.step cfg base (.repairCompensation id draft)).db.actions
      = base.db.actions := by
  rw [Lifecycle.step]
  unfold stepRepairCompensation enqueueCompensation
  repeat' split
  all_goals try rfl
  rename_i row _
  cases outcome : enqueue base.db (draft.args id row .compensationRecord _ none) with
  | error => rfl
  | ok => exact (enqueue_frame outcome).2.1

section

variable (cfg : Settings) (w after : World) (p : ProcId)

/-- **How a process stands after its own step**: where it stood, unless it is a step of its
completion, of its call of `execute_action` or of its executor. -/
inductive Goes : Call → Prop
  | stays {call : Call} (rollback : after.base.rollback p = w.base.rollback p)
      (runner : after.base.runner p = w.base.runner p)
      (hook : after.hook p = w.hook p)
      (actions : after.base.db.actions = w.base.db.actions) : Goes call
  | served (waits : run ≠ .returned) (calm : ∀ now, run ≠ .raised now)
      (outside : w.hook p = .idle) (hook : after.hook p = .idle)
      (base : after.base = Lifecycle.step cfg w.base (.rollback p run)) :
      Goes (.service run)
  | returned (back : w.hook p = .returned) (hook : after.hook p = .idle)
      (base : after.base = Lifecycle.step cfg w.base (.rollback p .returned)) :
      Goes (.service .returned)
  | raised (back : w.hook p = .raised) (hook : after.hook p = .idle)
      (base : after.base = Lifecycle.step cfg w.base (.rollback p (.raised now))) :
      Goes (.service (.raised now))
  | refused {rollback : ActionId} (idle : w.hook p = .idle)
      (target : w.target p = some rollback) (finished : after.hook p ≠ .running)
      (base : after.base = w.base) : Goes (.execute env now)
  | claimed {rollback : ActionId} (idle : w.hook p = .idle)
      (target : w.target p = some rollback) (hook : after.hook p = .running)
      (base : after.base = Lifecycle.step cfg w.base (.runner p (.start rollback env now))) :
      Goes (.execute env now)
  | inside (running : w.hook p = .running) (goes : continues run = true)
      (hook : after.hook p = if (stepRunner cfg w.base p run).runner p = .idle
        then outcome run else .running)
      (base : after.base = Lifecycle.step cfg w.base (.runner p run)) :
      Goes (.inside run)

end

theorem step_goes (cfg : Settings) (stands : Stands w) (p : ProcId) (call : Call) :
    Goes cfg w (step cfg w (p, call)) p call := by
  have base : (step cfg w (p, call)).base = w.apply cfg (move cfg w p call).1 := rfl
  have hook : (step cfg w (p, call)).hook p = (move cfg w p call).2 := by rw [hook_step, if_pos rfl]
  generalize step cfg w (p, call) = after at *
  generalize moved : move cfg w p call = result at *
  have unmoved : after.base = w.base → after.hook p = w.hook p → Goes cfg w after p call := by
    intro same hook
    exact .stays (by rw [same]) (by rw [same]) hook (by rw [same])
  cases call with
  | service run =>
    cases run with
    | returned | raised =>
      rw [move] at moved
      split at moved
      · rename_i back
        subst moved
        first | exact .returned back hook base | exact .raised back hook base
      · subst moved
        exact unmoved base hook
    | _ =>
      subst moved
      by_cases outside : w.hook p = .idle
      · exact .served nofun nofun outside (hook.trans outside) base
      -- a process that waits for its call has no other step
      obtain ⟨_, target⟩ := stands.called p outside
      obtain ⟨_, _, held⟩ := target_eq_some target
      dsimp only [World.apply, Lifecycle.step] at base
      exact unmoved (base.trans (stepRollback_waits held (by nofun) (by nofun))) hook
  | execute =>
    rw [move] at moved
    split at moved
    · rename_i idle target
      repeat' split at moved
      all_goals subst moved
      all_goals first
        | exact .claimed idle target hook base
        | exact .refused idle target (by rw [hook]; nofun) base
    · subst moved
      exact unmoved base hook
  | inside =>
    rw [move] at moved
    split at moved
    · rename_i inside
      subst moved
      exact .inside inside.1 inside.2 hook base
    · subst moved
      exact unmoved base hook
  | repair id draft =>
    subst moved
    refine .stays ?_ ?_ hook ?_
    · rw [base]
      exact rollback_of_other rfl w.base
    · rw [base]
      exact runner_of_other rfl w.base
    · rw [base]
      exact repair_actions cfg w.base id draft

end

inductive Change (w : World) (p : ProcId) (call : Call) (id : ActionId)
    (row next : ActionRow) : Prop
  | still (same : next.status = row.status)
  | claimed (approved : row.status = .approved)
  | worked (running : w.hook p = .running) (target : w.target p = some id)
      (left : next.status ≠ .approved)
  | gaveUp (hook : w.hook p = .raised) (target : w.target p = some id)
      (failed : next.status = .failed)
  | refuted (held : w.base.rollback p = .executed original seen id .success)
      (listed : id ∈ refutes w p call) (failed : next.status = .failed)
  | undone {rollback : ActionId} (held : w.base.rollback p = .effective id seen rollback)
      (back : next.status = .rolledBack)
  | reviewed (early : row.status = .pending ∨ row.status = .approved)
      (waits : next.status = .waitingApproval)

/-- **A step from a world that stands**, as the clauses below read it. -/
structure Taken (cfg : Settings) (w : World) (p : ProcId) (call : Call) (after : World) : Prop where
  stands : Stands w
  base : after.base = w.base ∨ ∃ op, after.base = Lifecycle.step cfg w.base op
  goes : Goes cfg w after p call
  rows : ∀ {id row}, w.db.actions.get id = some row → ∃ next,
    after.db.actions.get id = some next ∧ next.category = row.category ∧ Change w p call id row next
  elsewhere : ∀ {other}, other ≠ p → after.base.rollback other = w.base.rollback other
    ∧ after.base.runner other = w.base.runner other ∧ after.hook other = w.hook other

variable {other : ProcId} {original : ActionId} {seen : ActionStatus}

section Statuses

variable {cfg : Settings} {w after : World} {p : ProcId} {call : Call} {id : ActionId}

theorem goes_row (stands : Stands w) (goes : Goes cfg w after p call)
    {row : ActionRow} (found : w.base.db.actions.get id = some row) :
    ∃ next, after.base.db.actions.get id = some next ∧ next.category = row.category
      ∧ Change w p call id row next := by
  have moves : ∀ {op : Op}, after.base = Lifecycle.step cfg w.base op →
      acts p op = true → (∀ next, GivesUp w.base id op → next.status = .failed →
        Change w p call id row next) →
      ∃ next, after.base.db.actions.get id = some next ∧ next.category = row.category
        ∧ Change w p call id row next := by
    intro op base mine gives
    obtain ⟨next, reached, moved⟩ := (step_effects cfg w.base op).actions.old id row found
    rw [base]
    refine ⟨next, reached, category_of_identity moved.identity, ?_⟩
    cases rowChange stands.sound mine moved with
    | still same => exact .still same
    | claimed _ approved => exact .claimed approved
    | worked _ works left =>
      have busy : w.base.runner p ≠ .idle := by
        intro idle
        rw [idle] at works
        cases works
      obtain ⟨running, same⟩ := stands.executor p busy
      exact .worked running (same.symm.trans works) left
    | undone _ held back => exact .undone held back
    | reviewed early waits => exact .reviewed early waits
    | gaveUp given failed => exact gives next given failed
  cases goes with
  | stays _ _ _ actions => exact ⟨row, by rw [actions]; exact found, rfl, .still rfl⟩
  | refused _ _ _ base => exact ⟨row, by rw [base]; exact found, rfl, .still rfl⟩
  | served _ calm _ _ base =>
    refine moves base (beq_self_eq_true p) fun next gives failed => ?_
    cases gives with
    | raised => exact absurd rfl (calm _)
    | refuted held =>
      refine .refuted held ?_ failed
      rw [refutes, held]
      exact List.mem_singleton.mpr rfl
  | returned _ _ base | claimed _ _ _ base | inside _ _ _ base =>
    exact moves base (beq_self_eq_true p) fun next gives => by cases gives
  | raised back _ base =>
    refine moves base (beq_self_eq_true p) fun next gives failed => ?_
    cases gives with
    | raised held => exact .gaveUp back (by rw [World.target, held]) failed

theorem step_taken (cfg : Settings) (stands : Stands w) (p : ProcId) (call : Call) :
    Taken cfg w p call (step cfg w (p, call)) where
  stands := stands
  base := step_base cfg w (p, call)
  goes := step_goes cfg stands p call
  rows := goes_row stands (step_goes cfg stands p call)
  elsewhere := step_elsewhere

theorem Taken.target_elsewhere (taken : Taken cfg w p call after) (away : other ≠ p) :
    after.target other = w.target other :=
  target_of_rollbacks (taken.elsewhere away).1

theorem Stands.target_rollback (stands : Stands w) (target : w.target p = some rollback) :
    IsA .rollback w.db rollback := by
  obtain ⟨_, _, held⟩ := target_eq_some target
  exact (stands.sound.rollback held).2

theorem not_response_of_rollback {db : Db} (first : IsA .rollback db id)
    (second : IsA .response db id) : False := by
  obtain ⟨_, found, category⟩ := first
  rw [second.category_eq found] at category
  cases category

section

variable (taken : Taken cfg w p call after)

include taken

/-- **A rollback that the process does not execute keeps its status**, while it is being executed
or, short of a refutation, once it has succeeded. -/
theorem status_kept {status : ActionStatus} (stored : IsA .rollback w.db rollback)
    (late : status = .executing ∨ status = .success ∧ rollback ∉ refutes w p call)
    (away : w.target p = some rollback → w.hook p = .idle)
    (before : hasStatus w.db rollback status = true) :
    hasStatus after.db rollback status = true := by
  have stands := taken.stands
  obtain ⟨row, found, category⟩ := stored
  have here := (hasStatus_iff found).mp before
  obtain ⟨_, reached, -, change⟩ := taken.rows found
  rw [hasStatus_iff reached]
  -- the status is none that a claim or a review starts from
  have notEarly : status ≠ .pending ∧ status ≠ .approved := by
    obtain rfl | ⟨rfl, -⟩ := late <;> exact ⟨nofun, nofun⟩
  cases change with
  | still same => exact same.trans here
  | claimed approved => exact absurd (here.symm.trans approved) notEarly.2
  | worked running target =>
    rw [away target] at running
    cases running
  | gaveUp hook target =>
    rw [away target] at hook
    cases hook
  | refuted held listed =>
    obtain rfl | ⟨rfl, kept⟩ := late
    · obtain ⟨ended, there, -, finished⟩ := (stands.sound.rollback held).2.2 rfl
      rw [show w.base.db.actions.get rollback = some row from found] at there
      cases there
      rw [here] at finished
      obtain finished | finished := finished <;> cases finished
    · exact absurd listed kept
  | undone held =>
    exact (not_response_of_rollback ⟨row, found, category⟩ (stands.sound.rollback held).1).elim
  | reviewed early =>
    rw [here] at early
    exact (early.elim notEarly.1 notEarly.2).elim

theorem not_approved_kept {category : ActionCategory} (stored : IsA category w.db id)
    (before : hasStatus w.db id .approved = false) :
    hasStatus after.db id .approved = false := by
  obtain ⟨row, found, -⟩ := stored
  have here : row.status ≠ .approved := by
    intro approved
    rw [(hasStatus_iff found).mpr approved] at before
    cases before
  obtain ⟨_, reached, -, change⟩ := taken.rows found
  rw [Bool.eq_false_iff, Ne, hasStatus_iff reached]
  cases change with
  | still same => rwa [same]
  | claimed approved => exact absurd approved here
  | worked _ _ left => exact left
  | gaveUp _ _ failed | refuted _ _ failed => simp [failed]
  | undone _ back => simp [back]
  | reviewed _ waits => simp [waits]

theorem Standing.step (standing : Standing w.db original seen) :
    Standing after.db original seen := by
  have stands := taken.stands
  obtain ⟨row, found, response, kind⟩ := standing
  obtain ⟨next, reached, category, change⟩ := taken.rows found
  refine ⟨next, reached, category.trans response, ?_⟩
  have away : ∀ {id : ActionId}, IsA .rollback w.db id → id ≠ original := by
    rintro id stored rfl
    exact not_response_of_rollback stored ⟨row, found, response⟩
  -- no claim and no review starts from here
  have late : row.status ≠ .pending ∧ row.status ≠ .approved := by
    obtain back | ⟨-, able⟩ := kind
    · rw [back]
      exact ⟨nofun, nofun⟩
    · constructor <;> intro early <;> rw [early] at able <;> cases able
  cases change with
  | still same => rwa [same]
  | claimed approved => exact absurd approved late.2
  | worked _ target | gaveUp _ target => exact absurd rfl (away (stands.target_rollback target))
  | refuted held => exact absurd rfl (away (stands.sound.rollback held).2.1)
  | undone _ back => exact .inl back
  | reviewed early => exact (early.elim late.1 late.2).elim

end

end Statuses

/-! ### The step -/

section

variable {cfg : Settings} {w after : World} {p : ProcId} {call : Call} {rollback : ActionId}

theorem called_here (taken : Taken cfg w p call after) (inside : after.hook p ≠ .idle) :
    after.target p = w.target p ∧ (w.hook p ≠ .idle
      ∨ ∃ env now rollback, call = .execute env now ∧ w.target p = some rollback) := by
  cases taken.goes with
  | stays rollback _ hook => exact ⟨target_of_rollbacks rollback, .inl (hook ▸ inside)⟩
  | served _ _ _ hook | returned _ hook | raised _ hook => exact absurd hook inside
  | refused _ target _ base =>
    exact ⟨target_of_rollbacks (by rw [base]), .inr ⟨_, _, _, rfl, target⟩⟩
  | claimed _ target _ base => exact ⟨target_of_other base rfl, .inr ⟨_, _, _, rfl, target⟩⟩
  | inside running _ _ base => exact ⟨target_of_other base rfl, .inl (by rw [running]; nofun)⟩

theorem step_called (taken : Taken cfg w p call after) (other : ProcId)
    (inside : after.hook other ≠ .idle) : ∃ rollback, after.target other = some rollback := by
  by_cases away : other = p
  · subst away
    obtain ⟨same, before | ⟨_, _, rollback, -, target⟩⟩ := called_here taken inside
    · rw [same]
      exact taken.stands.called other before
    · exact ⟨rollback, same.trans target⟩
  · rw [taken.target_elsewhere away]
    rw [(taken.elsewhere away).2.2] at inside
    exact taken.stands.called other inside

theorem not_free (away : other ≠ p) (inside : w.hook other ≠ .idle)
    (target : w.target other = some rollback) : w.free p rollback = false := by
  have listed : (other, w.hook other) ∈ w.hooks.rows := by
    refine Table.mem_rows.mpr ?_
    unfold World.hook at inside ⊢
    cases there : w.hooks.get other with
    | none =>
      rw [there] at inside
      exact absurd rfl inside
    | some => rfl
  unfold World.free
  rw [List.all_eq_false]
  refine ⟨_, listed, ?_⟩
  simp [away, inside, target]

theorem step_single (taken : Taken cfg w p call after)
    (orderly : serial w (p, call) = true) (first second : ProcId) (rollback : ActionId)
    (here : after.hook first ≠ .idle) (there : after.hook second ≠ .idle)
    (target : after.target first = some rollback) (other : after.target second = some rollback) :
    first = second := by
  -- the process that takes the step against one that does not
  have against : ∀ peer, peer ≠ p → after.hook p ≠ .idle → after.hook peer ≠ .idle →
      after.target p = some rollback → after.target peer = some rollback → False := by
    intro peer away inside peerInside aims peerAims
    rw [(taken.elsewhere away).2.2] at peerInside
    rw [taken.target_elsewhere away] at peerAims
    obtain ⟨same, before | ⟨_, _, called, rfl, known⟩⟩ := called_here taken inside
    · rw [same] at aims
      exact away (taken.stands.single peer p rollback peerInside before peerAims aims)
    have same' : called = rollback := Option.some.inj (known.symm.trans (same.symm.trans aims))
    simp only [serial, known, same', Option.all_some, Bool.and_eq_true] at orderly
    rw [not_free away peerInside peerAims] at orderly
    cases orderly.2
  by_cases mine : first = p
  · by_cases yours : second = p
    · rw [mine, yours]
    · subst mine
      exact (against second yours here there target other).elim
  by_cases yours : second = p
  · subst yours
    exact (against first mine there here other target).elim
  rw [(taken.elsewhere mine).2.2] at here
  rw [(taken.elsewhere yours).2.2] at there
  rw [taken.target_elsewhere mine] at target
  rw [taken.target_elsewhere yours] at other
  exact taken.stands.single first second rollback here there target other

theorem idle_of_not_running (stands : Stands w) (p : ProcId) (outside : w.hook p ≠ .running) :
    w.base.runner p = .idle := by
  by_contra busy
  exact outside (stands.executor p busy).1

theorem stepRunner_idle {base : Lifecycle.World} {run : RunnerOp}
    (idle : base.runner p = .idle) (goes : continues run = true) :
    stepRunner cfg base p run = base := by
  cases run with
  | start | crash => cases goes
  | _ => simp only [stepRunner, stepExecuteXdr, stepExecuteDirect, stepRound, stepAnswer,
      stepFinish, stepRecord, Runner.guarded, idle]

theorem stepStart_claims {base : Lifecycle.World} {env : ClaimEnv} {now : Time}
    (idle : base.runner p = .idle)
    (busy : (stepStart base p rollback env now).runner p ≠ .idle) :
    runnerAction ((stepStart base p rollback env now).runner p) = some rollback
      ∧ hasStatus (stepStart base p rollback env now).db rollback .executing = true := by
  revert busy
  unfold stepStart
  split
  · split
    · exact absurd idle
    split
    · exact absurd idle
    rename_i done
    obtain ⟨_, -, -, rfl, rfl⟩ := claimAction_eq_ok done
    intro _
    refine ⟨?_, (hasStatus_iff (Table.get_set_self)).mpr rfl⟩
    rw [runner_setRunner, if_pos rfl]
    rfl
  · exact absurd idle

theorem step_executor (taken : Taken cfg w p call after) (other : ProcId)
    (busy : after.base.runner other ≠ .idle) : after.hook other = .running
      ∧ runnerAction (after.base.runner other) = after.target other := by
  have stands := taken.stands
  by_cases away : other = p
  · subst away
    -- outside `execute_action` there is no executor
    have outside : w.hook other ≠ .running → after.base.runner other ≠ w.base.runner other := by
      intro out same
      rw [same, idle_of_not_running stands other out] at busy
      exact busy rfl
    have served : ∀ run, w.hook other ≠ .running →
        after.base ≠ Lifecycle.step cfg w.base (.rollback other run) := by
      intro _ out base
      refine outside out ?_
      rw [base]
      exact runner_of_other rfl w.base
    cases taken.goes with
    | stays rollback runner hook =>
      rw [runner] at busy ⊢
      rw [hook, target_of_rollbacks rollback]
      exact stands.executor other busy
    | served _ _ out _ base => exact absurd base (served _ (by rw [out]; nofun))
    | returned back _ base | raised back _ base =>
      exact absurd base (served _ (by rw [back]; nofun))
    | refused idle _ _ base => exact absurd (by rw [base]) (outside (by rw [idle]; nofun))
    | claimed idle target hook base =>
      have rest := idle_of_not_running stands other (by rw [idle]; nofun)
      have same : after.target other = w.target other := target_of_other base rfl
      rw [base] at busy ⊢
      exact ⟨hook, (stepStart_claims rest busy).1.trans (target.symm.trans same.symm)⟩
    | @inside run running goes hook base =>
      have same : after.target other = w.target other := target_of_other base rfl
      have stepped : after.base = stepRunner cfg w.base other run := base
      rw [stepped] at busy ⊢
      have begun : w.base.runner other ≠ .idle := by
        intro idle
        rw [stepRunner_idle idle goes] at busy
        exact busy idle
      obtain ⟨reached, moved, others⟩ := stepRunner_advances cfg w.base other run
      have runner := others other
      rw [if_pos rfl] at runner
      rw [runner] at hook busy ⊢
      rw [same]
      exact ⟨hook.trans (if_neg busy),
        (runnerAction_kept moved begun busy).trans (stands.executor other begun).2⟩
  · rw [(taken.elsewhere away).2.1] at busy ⊢
    rw [(taken.elsewhere away).2.2, taken.target_elsewhere away]
    exact stands.executor other busy

theorem step_executing (taken : Taken cfg w p call after) (other : ProcId)
    (rollback : ActionId) (target : after.target other = some rollback)
    (still : unfinished (after.base.runner other) = true) :
    hasStatus after.db rollback .executing = true := by
  have stands := taken.stands
  have busy : after.base.runner other ≠ .idle := by
    intro idle
    rw [idle] at still
    cases still
  by_cases away : other = p
  · subst away
    obtain ⟨running, -⟩ := step_executor taken other busy
    obtain ⟨same, -⟩ := called_here taken (by rw [running]; nofun)
    rw [same] at target
    unfold World.db
    cases taken.goes with
    | stays _ runner _ actions =>
      rw [runner] at still
      unfold hasStatus
      rw [actions]
      exact stands.executing other rollback target still
    | served _ _ _ hook | returned _ hook | raised _ hook =>
      rw [running] at hook
      cases hook
    | refused _ _ finished => exact absurd running finished
    | claimed idle aims _ base =>
      obtain rfl := Option.mem_unique aims target
      have rest := idle_of_not_running stands other (by rw [idle]; nofun)
      rw [base] at busy ⊢
      exact (stepStart_claims rest busy).2
    | inside _ goes _ base =>
      rw [base] at still ⊢
      obtain ⟨before, kept⟩ := stepRunner_quiet cfg w.base other goes still
      obtain ⟨row, found, -⟩ := stands.target_rollback target
      obtain ⟨reached, there, status⟩ := kept rollback row found
      have executing := (hasStatus_iff found).mp (stands.executing other rollback target before)
      exact (hasStatus_iff there).mpr (status.trans executing)
  · rw [(taken.elsewhere away).2.1] at still busy
    rw [taken.target_elsewhere away] at target
    have mine := stands.executor other busy
    refine status_kept taken (stands.target_rollback target) (.inl rfl) (fun aims => ?_)
      (stands.executing other rollback target still)
    by_contra inside
    exact away (stands.single other p rollback (by rw [mine.1]; nofun) inside target aims)

theorem served_standing (cfg : Settings) (stands : Stands w) {run : RollbackOp}
    (orderly : serial w (p, .service run) = true)
    (works : workedOn ((Lifecycle.step cfg w.base (.rollback p run)).rollback p)
      = some (original, seen, rollback)) : Standing w.db original seen := by
  have moved := step_rollback cfg w.base (.rollback p run) p
  have known := stands.originals p original seen rollback
  generalize (Lifecycle.step cfg w.base (.rollback p run)).rollback p = next at moved works
  generalize w.base.rollback p = here at moved known
  -- an approved rollback is completed while its original stands
  have stand : ∀ {mover : ProcId} {source id : ActionId} {stored row : ActionRow},
      Op.rollback p run = .rollback mover (.completeApproved id) →
      w.base.db.actions.get id = some row → row.category = .rollback →
      row.sourceActionId = some source → w.base.db.actions.get source = some stored →
      Standing w.db source stored.status := by
    intro _ source id stored row cause found category linked there
    obtain ⟨rfl, rfl⟩ := Op.rollback.inj cause
    simp only [serial, originalStands] at orderly
    rw [show w.db.actions.get id = some row from found, Option.bind_some, linked] at orderly
    simp only [show w.db.actions.get source = some stored from there,
      Option.all_some, Bool.or_eq_true, beq_iff_eq] at orderly
    obtain ⟨_, same, response⟩ := stands.sound.source_response found category linked
    obtain rfl := Option.mem_unique there same
    exact ⟨stored, there, response, orderly.symm.imp_right fun able => ⟨able, able⟩⟩
  cases moved with
  | kept | returned | graded => exact known works
  | dropped | undone => cases works
  | @started source stored id row event revision tool found response able reached fingerprint =>
    have same : source = original ∧ stored.status = seen := by
      revert works
      unfold continueRollback
      split <;> intro works <;> cases works <;> exact ⟨rfl, rfl⟩
    obtain ⟨rfl, rfl⟩ := same
    refine ⟨stored, found, response, .inr ?_⟩
    rw [able]
    exact ⟨rfl, rfl⟩
  | completed cause found category linked there | resumed cause found category linked there =>
    cases works
    exact stand cause found category linked there

theorem step_originals (taken : Taken cfg w p call after)
    (orderly : serial w (p, call) = true) (other : ProcId) (original : ActionId)
    (seen : ActionStatus) (rollback : ActionId)
    (works : workedOn (after.base.rollback other) = some (original, seen, rollback)) :
    Standing after.db original seen := by
  refine Standing.step taken ?_
  have known := taken.stands.originals other original seen rollback
  by_cases away : other = p
  · subst away
    cases taken.goes with
    | stays same => exact known (same ▸ works)
    | refused _ _ _ base => exact known (base ▸ works)
    | served _ _ _ _ base | returned _ _ base | raised _ _ base =>
      exact served_standing cfg taken.stands orderly (base ▸ works)
    | claimed _ _ _ base | inside _ _ _ base =>
      rw [base, rollback_of_other rfl] at works
      exact known works
  · rw [(taken.elsewhere away).1] at works
    exact known works

end

end ShadowTrace.Lifecycle.Completions
