/-
**The executor of a completion.**

What the proof about interleaved completions needs to know of a process inside `execute_action`: it
keeps its action until it is idle.
-/

import ShadowTrace.Lifecycle.Completions

namespace ShadowTrace.Lifecycle.Completions

open Relational Fallible Execution

/-! ### Executors -/

section

variable {cfg : Settings} {base after : Lifecycle.World} {p : ProcId} {run : RunnerOp}
  {next : Runner} {written : Lifecycle.World}

theorem runnerAction_kept {here : Runner} (moved : RunnerMove cfg base after here next)
    (begun : here ≠ .idle) (busy : next ≠ .idle) : runnerAction next = runnerAction here := by
  have guarded : ∀ {runner : Runner} {id : ActionId}, runner.guarded = some id →
      runnerAction runner = some id := by
    intro runner _ same
    cases runner <;> first | exact same | cases same
  have inside : ∀ {runner : Runner} {exec : DirectRun},
      runnerExecution runner = some exec → runnerAction runner = some exec.action := by
    intro runner _ same
    cases runner <;> first | exact congrArg (Option.map DirectRun.action) same | cases same
  cases moved with
  | dropped | submitted => exact absurd rfl busy
  | raised same => exact (guarded same).symm
  | claimed => exact absurd rfl begun
  | returned same => exact (inside same).symm
  | @answered exec attempt provider dispatches answers submits =>
    revert busy
    cases provider <;> simp only [afterAnswer] <;> (repeat' split) <;>
      first | exact fun _ => rfl | exact absurd rfl
  | @reread exec mockMode logs =>
    revert busy
    cases base.db.jobs.get exec.job <;> simp only [afterReturn] <;> (repeat' split) <;>
      first | exact fun _ => rfl | exact absurd rfl
  | _ => rfl

/-- An executor at work leaves the statuses alone. -/
def Quiet (base after : Lifecycle.World) (p : ProcId) : Prop :=
  unfinished (after.runner p) = true → unfinished (base.runner p) = true
    ∧ ∀ id row, base.db.actions.get id = some row → ∃ next, after.db.actions.get id = some next
      ∧ next.status = row.status

theorem Quiet.refl : Quiet base base p := fun still => ⟨still, fun _ row found => ⟨row, found, rfl⟩⟩

theorem runner_of_set (runners : after.runners = written.runners.set p next) :
    after.runner p = next := by
  unfold Lifecycle.World.runner
  rw [runners, Table.get_set_self]
  rfl

theorem Quiet.finished (runners : after.runners = written.runners.set p next)
    (done : unfinished next = false) :
    Quiet base after p := by
  intro still
  rw [runner_of_set runners, done] at still
  cases still

theorem Quiet.of_held {here : Runner} (held : base.runner p = here)
    (still : unfinished here = true) (actions : after.db.actions = base.db.actions) :
    Quiet base after p := by
  intro _
  rw [held, actions]
  exact ⟨still, fun _ row found => ⟨row, found, rfl⟩⟩

theorem casUpdateJob_actions (db : Db) (id : JobId) (updated : MockJob)
    (expected : ExecutionJobStatus) (synced : Bool) :
    (casUpdateJob db id updated expected synced).actions = db.actions := by
  unfold casUpdateJob
  split
  · rfl
  · split <;> rfl

variable {db : Db} {id : ActionId} {row : ActionRow}

theorem executeDirectTool_created {written : Db} {jobId : JobId} {lease : Nat} {now : Time}
    (done : executeDirectTool db id row jobId lease now = .ok (written, true)) (other : ActionId)
    (stored : ActionRow) (found : db.actions.get other = some stored) :
    ∃ next, written.actions.get other = some next ∧ next.status = stored.status := by
  unfold executeDirectTool at done
  split at done
  · obtain ⟨attached, -, done⟩ := bind_eq_ok.mp done
    cases done
  obtain ⟨_, born, done⟩ := bind_eq_ok.mp done
  cases done
  obtain ⟨_, -, there, rfl⟩ := insertJob_eq_ok born
  by_cases same : other = id
  · subst same
    obtain rfl := Option.mem_unique there found
    exact ⟨_, Table.get_set_self, rfl⟩
  · exact ⟨stored, (Table.get_set_ne same).trans found, rfl⟩

theorem stepRunner_quiet (cfg : Settings) (base : Lifecycle.World) (p : ProcId)
    (goes : continues run = true) : Quiet base (stepRunner cfg base p run) p := by
  cases run with
  | start | crash => cases goes
  | restoreOwnerless | executeXdr | record | raise | fail =>
    simp only [stepRunner, stepExecuteXdr, stepRecord]
    repeat' split
    all_goals first | exact .refl | exact .finished rfl rfl
  | executeDirect =>
    simp only [stepRunner, stepExecuteDirect]
    split
    · rename_i held
      split
      · exact .refl
      split
      · exact .finished rfl rfl
      rename_i created done
      cases created with
      | false => exact .finished rfl rfl
      | true =>
        intro _
        rw [held]
        exact ⟨rfl, executeDirectTool_created done⟩
    · exact .refl
  | prepare outcome =>
    simp only [stepRunner]
    split
    · rename_i held
      cases outcome with
      | raised => exact .finished rfl rfl
      | unready => exact .of_held held rfl rfl
      | passed =>
        dsimp only
        split
        · exact .finished rfl rfl
        · exact .of_held held rfl rfl
    · exact .refl
  | round | answer | readJob | readReturned | compareAndSet | runMock =>
    simp only [stepRunner, stepRound, stepAnswer]
    split
    · rename_i held
      (try split) <;> refine .of_held held rfl ?_
      all_goals first | rfl | exact casUpdateJob_actions _ _ _ _ _
    · exact .refl
  | finish =>
    simp only [stepRunner, stepFinish]
    split
    · split
      · exact .finished rfl rfl
      · refine .finished rfl ?_
        split <;> rfl
    · exact .refl

/-- An answer of the provider is carried to the action or given back to the caller. -/
def Carries (after : Lifecycle.World) (p : ProcId) (run : RunnerOp) : Prop :=
  answered (after.runner p) = true ∨ after.runner p = .idle ∧ outcome run = .returned

theorem Carries.of_set (runners : after.runners = written.runners.set p next)
    (goes : answered next = true ∨ next = .idle ∧ outcome run = .returned) :
    Carries after p run := by
  unfold Carries
  rw [runner_of_set runners]
  exact goes

theorem finishDirectTool_executing (found : db.actions.get id = some row)
    (category : row.category = .rollback) (executing : row.status = .executing)
    (terminal : ExecutionJobStatus) (now : Time) :
    ∃ written, finishDirectTool db id terminal now = .ok written := by
  have moved : ∃ next, movedRow row (mapJobToActionStatus terminal) now = .ok next := by
    unfold movedRow
    split
    · exact ⟨row, rfl⟩
    · rename_i other
      rw [category, executing] at *
      cases terminal <;> first | exact ⟨_, rfl⟩ | exact absurd rfl other
  obtain ⟨next, moved⟩ := moved
  refine ⟨db.putAction id next, ?_⟩
  simp only [finishDirectTool, found, moved]
  rfl

/-- **An answer is carried on**, as long as nothing raises. -/
theorem stepRunner_carries (cfg : Settings) (goes : continues run = true)
    (past : answered (base.runner p) = true) (calm : run ≠ .raise)
    (finishes : ∀ exec terminal now, base.runner p = .finishing exec terminal →
      ∃ written, finishDirectTool base.db exec.action terminal now = .ok written)
    (records : ∀ exec draft, run = .record draft → base.runner p = .recording exec →
      ∃ cmd written, draft = some cmd ∧ enqueue base.db
        (cmd.args exec.action exec.row .executionResultRecord .default none) = .ok written) :
    Carries (stepRunner cfg base p run) p run := by
  have other : ∀ {here : Runner} {goal : Prop}, base.runner p = here →
      answered here = false → goal := by
    intro _ _ held early
    rw [held, early] at past
    cases past
  cases run with
  | start | crash => cases goes
  | raise => exact absurd rfl calm
  | restoreOwnerless | executeXdr | executeDirect | prepare | round | answer | fail =>
    simp only [stepRunner, stepExecuteXdr, stepExecuteDirect, stepRound, stepAnswer]
    split
    · rename_i held
      exact other held rfl
    · exact .inl past
  | readJob | compareAndSet | runMock =>
    simp only [stepRunner]
    split
    · (try split) <;> exact .of_set rfl (.inl rfl)
    · exact .inl past
  | readReturned =>
    simp only [stepRunner]
    split
    · refine .of_set rfl ?_
      cases base.db.jobs.get _ with
      | none => exact .inr ⟨rfl, rfl⟩
      | some =>
        simp only [afterReturn]
        split
        · exact .inl rfl
        · exact .inl rfl
    · exact .inl past
  | finish now =>
    cases held : base.runner p with
    | finishing exec terminal =>
      obtain ⟨_, done⟩ := finishes exec terminal now held
      simp only [stepRunner, stepFinish, held, done]
      refine .of_set rfl ?_
      split
      · exact .inl rfl
      · exact .inr ⟨rfl, rfl⟩
    | _ => simpa only [Carries, stepRunner, stepFinish, held] using Or.inl past
  | record draft =>
    cases held : base.runner p with
    | recording exec =>
      obtain ⟨_, _, rfl, done⟩ := records exec draft rfl held
      simp only [stepRunner, stepRecord, held, done]
      exact .of_set rfl (.inr ⟨rfl, rfl⟩)
    | _ => simpa only [Carries, stepRunner, stepRecord, held] using Or.inl past

end

end ShadowTrace.Lifecycle.Completions
