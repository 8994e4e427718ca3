/-
**An uncertain side effect is not reported as failed.**

When a provider call was dispatched and no result has come back, nobody knows whether it took
effect. The tool executor leaves the job as it is, so whatever looks at it afterwards finds it open
and maps it to `executing` or `unknown`. `Doubt` is the invariant.

By design a reclaim fails job and action once the attempts are used up. Besides,
`_fail_executing_action`, which runs for any exception that leaves `execute_action`, does not ask
whether the call was dispatched.
-/

import ShadowTrace.Lifecycle.Dispatch

namespace ShadowTrace.Lifecycle

open Relational Execution Machine

/-! ### Keys and results -/

def managedKey : ExecutionKey → Bool
  | .xdr _ => true
  | _ => false

theorem managedKey_directKey (id : ActionId) (row : ActionRow) :
    managedKey (directKey id row) = false := by
  unfold directKey
  cases row.idempotencyKey <;> rfl

variable {w : World} {id : ActionId} {row : ActionRow}

theorem Sound.managedKey (sound : Sound w) {jobId : JobId} {job : JobRow}
    (found : w.db.actions.get id = some row) (managed : row.executionOwner = some .xdrManaged)
    (bound : row.executionJobId = some jobId) (stored : w.db.jobs.get jobId = some job) :
    Lifecycle.managedKey job.idempotencyKey = true := by
  obtain ⟨_, _, there, owned, key, real⟩ := sound.bindings id row found jobId bound
  obtain rfl := Option.mem_unique stored there
  obtain rfl := Option.mem_unique managed owned
  cases own : row.idempotencyKey with
  | none =>
    rw [key]
    simp [executionKey, xdrKey, own, Lifecycle.managedKey]
  | some =>
    have direct := (sound.rows id row found).keyed (by rw [own]; rfl)
    obtain direct | virtual := direct
    · rw [managed] at direct
      cases direct
    · exact absurd virtual real

theorem Sound.entitySubmit_managed (sound : Sound w)
    (found : w.db.actions.get id = some row) (submitted : hasEntitySubmit w.db id = true) :
    row.executionOwner = some .xdrManaged := by
  obtain ⟨⟨outboxId, outbox⟩, mem, matched⟩ := List.any_eq_true.mp submitted
  simp only [Bool.and_eq_true, beq_iff_eq] at matched
  obtain ⟨_, there, managed⟩ := sound.outboxes outboxId outbox (Table.mem_rows.mp mem)
  rw [matched.1, found] at there
  cases there
  exact managed matched.2

def storingResult : Runner → Option DirectRun
  | .storing exec _ | .comparing exec _ _ => some exec
  | _ => none

def finishingWith : Runner → Option (DirectRun × ExecutionJobStatus)
  | .finishing exec terminal => some (exec, terminal)
  | _ => none

/-- A job with the key has used up its attempts. -/
def Spent (cfg : Settings) (db : Db) (key : ExecutionKey) : Prop :=
  ∃ jobId job, db.jobs.get jobId = some job ∧ job.idempotencyKey = key
    ∧ cfg.reclaim.maxAttempts ≤ job.attempt

/-- The invariant: without an answer, nothing says that the call failed. -/
structure Doubt (cfg : Settings) (w : World) : Prop where
  jobs : ∀ jobId job, w.db.jobs.get jobId = some job →
    managedKey job.idempotencyKey = false → job.idempotencyKey ∉ w.answers →
    activeJob job.status = true ∨ job.status = .timedOut ∧ cfg.reclaim.maxAttempts ≤ job.attempt
  answered : ∀ p exec, storingResult (w.runner p) = some exec → exec.key ∈ w.answers
  finishing : ∀ p exec terminal, finishingWith (w.runner p) = some (exec, terminal) →
    exec.key ∉ w.answers →
    activeJob terminal = true ∨ terminal = .timedOut ∧ Spent cfg w.db exec.key

section Step

variable {cfg : Settings} {w : World} {op : Op} {after : World} {runner next : Runner}
  {key : ExecutionKey} {jobId : JobId} {job : JobRow} {exec : DirectRun} {id : ActionId}
  {row : ActionRow}

theorem RunnerMove.answers_mono (moved : RunnerMove cfg w after runner next)
    (known : key ∈ w.answers) :
    key ∈ after.answers := by
  cases moved with
  | submitted _ _ _ _ answers | dispatched _ answers => rwa [answers]
  | answered _ answers =>
    rw [answers]
    split
    · exact List.mem_cons_of_mem _ known
    · exact known
  | mocked _ answers =>
    rw [answers]
    exact List.mem_cons_of_mem _ known
  | kept logs | dropped logs | raised _ logs | claimed _ _ _ _ logs | inserted _ _ _ logs
  | called _ logs | returned _ logs | read logs | reread logs | finished logs => rwa [logs.answers]

theorem step_answers (known : key ∈ w.answers) :
    key ∈ (step cfg w op).answers := by
  obtain ⟨_, _, moved, -⟩ := step_advances cfg w op
  exact moved.answers_mono known

section

variable (sound : Sound w) (doubt : Doubt cfg w)

include sound doubt

/-- **What may happen to a job without a result**: only a reclaim touches it. -/
theorem JobMove.unanswered {next : JobRow} (stored : w.db.jobs.get jobId = some job)
    (moved : JobMove cfg w op jobId job next)
    (direct : managedKey job.idempotencyKey = false)
    (unanswered : job.idempotencyKey ∉ (step cfg w op).answers) :
    next = job ∨ next = requeuedJob job
      ∨ next = timedOutJob job ∧ cfg.reclaim.maxAttempts ≤ job.attempt := by
  -- the job of an execution has the key of the execution
  have own : ∀ {p runner exec}, w.runner p = runner →
      runnerExecution runner = some exec → exec.job = jobId →
      job.idempotencyKey = exec.key := by
    rintro p runner exec held inside rfl
    obtain ⟨_, there, key, -⟩ := (sound.running held inside).job
    obtain rfl := Option.mem_unique stored there
    exact key
  cases moved with
  | kept => exact .inl rfl
  | requeued => exact .inr (.inl rfl)
  | timedOut _ _ spent => exact .inr (.inr ⟨rfl, spent⟩)
  | synced _ _ managed =>
    obtain ⟨_, _, found, owned, bound⟩ := managed
    rw [sound.managedKey found owned bound stored] at direct
    cases direct
  | effect _ found bound submitted =>
    rw [sound.managedKey found (sound.entitySubmit_managed found submitted) bound stored] at direct
    cases direct
  | @answered p synced exec result seen cause held same expected =>
    have known := doubt.answered p exec (by rw [held]; rfl)
    rw [own held rfl same] at unanswered
    exact absurd (step_answers known) unanswered
  | @mocked p completed synced exec seen cause held same expected =>
    refine absurd ?_ unanswered
    rw [own held rfl same, cause, step, stepRunner, held]
    exact List.mem_cons_self

theorem Spent.step (spent : Spent cfg w.db key) (direct : managedKey key = false)
    (unanswered : key ∉ (step cfg w op).answers) :
    Spent cfg (step cfg w op).db key := by
  obtain ⟨jobId, job, stored, rfl, used⟩ := spent
  obtain ⟨next, reached, moved⟩ := (step_effects cfg w op).jobs.old jobId job stored
  refine ⟨jobId, next, reached, moved.identity.2, ?_⟩
  obtain rfl | rfl | ⟨rfl, -⟩ := moved.unanswered sound doubt stored direct unanswered
  · exact used
  · exact Nat.le_succ_of_le used
  · exact used

theorem step_doubt_jobs (reached : (step cfg w op).db.jobs.get jobId = some job)
    (direct : managedKey job.idempotencyKey = false)
    (unanswered : job.idempotencyKey ∉ (step cfg w op).answers) :
    activeJob job.status = true
      ∨ job.status = .timedOut ∧ cfg.reclaim.maxAttempts ≤ job.attempt := by
  obtain ⟨_, stored, moved⟩ | ⟨-, born⟩ :=
    (step_effects cfg w op).jobs.row_after reached
  · rw [moved.identity.2] at direct unanswered
    obtain rfl | rfl | ⟨rfl, spent⟩ := moved.unanswered sound doubt stored direct unanswered
    · exact doubt.jobs jobId job stored direct fun known => unanswered (step_answers known)
    · exact .inl rfl
    · exact .inr ⟨rfl, spent⟩
  · cases born
    exact .inl rfl

end

theorem afterAnswer_storing {other : DirectRun} {attempt maxRetries : Nat}
    {provider : ProviderAnswer}
    (storing : storingResult (afterAnswer exec attempt maxRetries provider) = some other) :
    other = exec ∧ provider.isResult = true := by
  cases provider <;> simp only [afterAnswer] at storing <;> (try split at storing) <;>
    first | exact ⟨(Option.some.inj storing).symm, rfl⟩ | cases storing

theorem afterAnswer_finishing (exec : DirectRun) (attempt maxRetries : Nat)
    (provider : ProviderAnswer) :
    finishingWith (afterAnswer exec attempt maxRetries provider) = none := by
  cases provider <;> simp only [afterAnswer] <;> (try split) <;> rfl

theorem afterReturn_storing (exec : DirectRun) (mockMode : Bool) (job : Option JobRow) :
    storingResult (afterReturn exec mockMode job) = none := by
  unfold afterReturn
  split
  · rfl
  · split <;> rfl

theorem afterReturn_finishing {other : DirectRun} {mockMode : Bool} {job : Option JobRow}
    {terminal : ExecutionJobStatus}
    (ending : finishingWith (afterReturn exec mockMode job) = some (other, terminal)) :
    other = exec ∧ ∃ row, job = some row ∧ row.status = terminal := by
  unfold afterReturn at ending
  split at ending
  · cases ending
  rename_i row
  split at ending
  · cases ending
  · cases ending
    exact ⟨rfl, row, rfl, rfl⟩

theorem RunnerMove.answered_of_storing (moved : RunnerMove cfg w after runner next)
    (before : ∀ exec, storingResult runner = some exec → exec.key ∈ w.answers)
    (storing : storingResult next = some exec) : exec.key ∈ after.answers := by
  cases moved with
  | kept logs | read logs => exact logs.answers ▸ before exec storing
  | answered _ answers =>
    obtain ⟨rfl, received⟩ := afterAnswer_storing storing
    rw [answers, if_pos received]
    exact List.mem_cons_self
  | reread =>
    rw [afterReturn_storing] at storing
    cases storing
  | _ => cases storing

theorem RunnerMove.finishing_before {terminal : ExecutionJobStatus}
    (moved : RunnerMove cfg w after runner next)
    (ending : finishingWith next = some (exec, terminal))
    (unanswered : exec.key ∉ after.answers) :
    finishingWith runner = some (exec, terminal)
      ∨ runnerExecution runner = some exec
        ∧ ∃ job, w.db.jobs.get exec.job = some job ∧ job.status = terminal := by
  cases moved with
  | kept => exact .inl ending
  | answered =>
    rw [afterAnswer_finishing] at ending
    cases ending
  | reread =>
    obtain ⟨rfl, job, stored, same⟩ := afterReturn_finishing ending
    exact .inr ⟨rfl, job, stored, same⟩
  | mocked _ answers =>
    cases ending
    rw [answers] at unanswered
    exact absurd List.mem_cons_self unanswered
  | _ => cases ending

theorem step_doubt (cfg : Settings) (w : World) (op : Op) (sound : Sound w)
    (doubt : Doubt cfg w) : Doubt cfg (step cfg w op) := by
  constructor
  · intro _ _ reached direct unanswered
    exact step_doubt_jobs sound doubt reached direct unanswered
  · intro p exec storing
    obtain moved | same := step_runner cfg w op p
    · exact moved.answered_of_storing (doubt.answered p) storing
    · rw [same] at storing
      exact step_answers (doubt.answered p exec storing)
  intro p exec terminal ending unanswered
  have open_ : exec.key ∉ w.answers := fun known => unanswered (step_answers known)
  have direct : managedKey exec.key = false := managedKey_directKey _ _
  have ended : activeJob terminal = true ∨ terminal = .timedOut ∧ Spent cfg w.db exec.key := by
    obtain moved | same := step_runner cfg w op p
    · obtain earlier | ⟨inside, job, stored, rfl⟩ := moved.finishing_before ending unanswered
      · exact doubt.finishing p exec terminal earlier open_
      obtain ⟨_, there, key, -⟩ := (sound.running rfl inside).job
      obtain rfl := Option.mem_unique stored there
      rw [← key] at direct open_ ⊢
      exact (doubt.jobs _ job stored direct open_).imp_right
        (And.imp_right fun spent => ⟨_, job, stored, rfl, spent⟩)
    · exact doubt.finishing p exec terminal (same ▸ ending) open_
  exact ended.imp_right (And.imp_right fun spent => spent.step sound doubt direct unanswered)

/-! ### Uncertain actions -/

/-- The provider was called for the action, and no result has come back. -/
structure Unanswered (w : World) (id : ActionId) (row : ActionRow) : Prop where
  direct : row.executionOwner = some .directTool
  dispatched : directKey id row ∈ w.dispatches
  unanswered : directKey id row ∉ w.answers

/-- The steps of the executors, without `_fail_executing_action`, and of the reclaims. -/
def Op.executes : Op → Bool
  | .runner _ (.fail _) => false
  | .runner _ _ | .reclaimJob _ _ | .reclaimAction _ _ => true
  | _ => false

theorem mapJobToActionStatus_active {status : ExecutionJobStatus}
    (active : activeJob status = true) : mapJobToActionStatus status = .executing := by
  cases status <;> first | rfl | cases active

theorem Claim.directKey_eq {snapshot : ActionRow} {owner : ExecutionOwner}
    (claim : Claim w.db id snapshot) (found : w.db.actions.get id = some row)
    (direct : row.executionOwner = some .directTool)
    (owned : snapshot.executionOwner = some owner) :
    executionKey owner id snapshot = directKey id row := by
  have same := claim.stored.same found
  have kept : row.executionOwner = snapshot.executionOwner :=
    (congrArg ActionRow.executionOwner same :)
  rw [direct, owned] at kept
  cases kept
  exact (executionKey_of_identity same .directTool id).symm

theorem Sound.boundJob_directKey (sound : Sound w) (found : w.db.actions.get id = some row)
    (direct : row.executionOwner = some .directTool) (bound : boundJob w.db row = some job) :
    ∃ jobId, w.db.jobs.get jobId = some job ∧ job.idempotencyKey = directKey id row := by
  obtain ⟨jobId, linked, stored⟩ := boundJob_eq_some bound
  obtain ⟨_, _, there, owned, key, -⟩ := sound.bindings id row found jobId linked
  obtain rfl := Option.mem_unique stored there
  obtain rfl := Option.mem_unique direct owned
  exact ⟨jobId, stored, key⟩

theorem Unanswered.active (uncertain : Unanswered w id row) (doubt : Doubt cfg w)
    (left : ¬ Spent cfg w.db (directKey id row))
    (stored : w.db.jobs.get jobId = some job) (key : job.idempotencyKey = directKey id row) :
    activeJob job.status = true := by
  have direct : managedKey job.idempotencyKey = false := by
    rw [key]
    exact managedKey_directKey _ _
  obtain active | ⟨-, spent⟩ := doubt.jobs jobId job stored direct (key ▸ uncertain.unanswered)
  · exact active
  · exact absurd ⟨jobId, job, stored, key, spent⟩ left

theorem Unanswered.reclaimVerdict {now : Time} (uncertain : Unanswered w id row)
    (sound : Sound w) (doubt : Doubt cfg w)
    (left : ¬ Spent cfg w.db (directKey id row))
    (found : w.db.actions.get id = some row)
    (acts : Execution.reclaimVerdict w.db id row cfg.reclaim now ≠ .keep) :
    Execution.reclaimVerdict w.db id row cfg.reclaim now = .reopen := by
  by_contra ends
  obtain ⟨job, bound, ended⟩ := reclaimVerdict_bound acts ends
  obtain ⟨jobId, stored, key⟩ := sound.boundJob_directKey found uncertain.direct bound
  obtain terminal | spent := ended
  · rw [activeJob_open (uncertain.active doubt left stored key)] at terminal
    cases terminal
  · exact left ⟨jobId, job, stored, key, spent⟩

/-- **Executors and reclaims keep an uncertain action uncertain**, or give it back. -/
theorem ActionMove.uncertain {after : Db} {next : ActionRow} (sound : Sound w)
    (doubt : Doubt cfg w) (found : w.db.actions.get id = some row)
    (moved : ActionMove cfg w op after id row next) (exec : op.executes = true)
    (uncertain : Unanswered w id row) (left : ¬ Spent cfg w.db (directKey id row)) :
    next.status = row.status ∨ next.status = .executing ∨ next.status = .unknown
      ∨ next.status = .approved := by
  cases moved with
  | kept | bound => exact .inl rfl
  | claimed => exact .inr (.inl rfl)
  | restored | reopened => exact .inr (.inr (.inr rfl))
  | attached _ held owned stored key done =>
    obtain ⟨-, reached, -⟩ := attachedRow_eq_ok done
    have same := (sound.claim held).directKey_eq found uncertain.direct owned
    have active := uncertain.active doubt left stored (key.trans same)
    rw [if_pos active] at reached
    exact .inr (.inr (.inl reached))
  | @finished p run direct terminal now next cause held same done =>
    subst same
    have running := sound.running held rfl
    have key : direct.key = directKey direct.action row :=
      running.claim.directKey_eq found uncertain.direct running.direct
    have ending := doubt.finishing p direct terminal (by rw [held]; rfl)
      (key ▸ uncertain.unanswered)
    obtain ⟨reached, -⟩ := movedRow_eq_ok done
    obtain active | ⟨-, spent⟩ := ending
    · rw [mapJobToActionStatus_active active] at reached
      exact .inr (.inl reached)
    · exact absurd (key ▸ spent) left
  | @timedOut now jobId job cause stored same spent executing legal =>
    subst same
    obtain ⟨stored', owner, there, owned, key⟩ := sound.jobs jobId job stored
    obtain rfl := Option.mem_unique found there
    obtain rfl := Option.mem_unique uncertain.direct owned
    exact absurd ⟨jobId, job, stored, key, spent⟩ left
  | followed _ verdict | exhausted _ verdict =>
    have reopens := uncertain.reclaimVerdict sound doubt left found (by rw [verdict]; nofun)
    rw [verdict] at reopens
    cases reopens
  | expired cause => obtain rfl | rfl := cause <;> cases exec
  | rollbackFailed cause => cases cause <;> cases exec
  | synced cause | failed cause | resolved cause | effective cause | replanned cause
  | superseded cause | evaluated cause | reviewed cause | decided cause | rolledBack cause
  | activated cause | verified cause | reported cause => subst cause; cases exec

end Step

/-! ### Every schedule -/

/-- The steps of executors and reclaims do not report an uncertain action as failed: it stays in
doubt, or is given back for an execution that attaches to the same job. -/
def KeepsDoubt (cfg : Settings) (before : World) (op : Op) (after : World) : Prop :=
  ∀ id row next, op.executes = true → before.db.actions.get id = some row →
    after.db.actions.get id = some next → Unanswered before id row →
    ¬ Spent cfg before.db (directKey id row) →
    (next.status = .failed → row.status = .failed)
      ∧ (row.status = .executing ∨ row.status = .unknown →
        next.status = .executing ∨ next.status = .unknown ∨ next.status = .approved)

variable (cfg : Settings) (around : Surroundings) (ops : List Op)

theorem initial_doubt : Doubt cfg (World.initial around) where
  jobs _ _ stored := by cases stored
  answered _ _ storing := by cases storing
  finishing _ _ _ ending := by cases ending

/-- **An uncertain side effect is not reported as failed** while its job has attempts left. -/
theorem uncertain_not_failed {before after : World} {op : Op}
    (occurs : Occurs (step cfg) (World.initial around) ops before op
      after) : KeepsDoubt cfg before op after := by
  refine occurs_invariant (fun _ _ => True)
    (fun w => Sound w ∧ Doubt cfg w) (KeepsDoubt cfg) ?_ ?_
    ⟨initial_sound .., initial_doubt ..⟩ (along_true _ _) occurs
  · rintro w op ⟨sound, doubt⟩ -
    exact ⟨step_sound cfg w op sound, step_doubt cfg w op sound doubt⟩
  rintro w op ⟨sound, doubt⟩ - id row _ exec found reached uncertain left
  have moved := (step_effects cfg w op).actions.moved found reached
  obtain same | doubtful := moved.uncertain sound doubt found exec uncertain left
  · refine ⟨same.symm.trans, fun before => ?_⟩
    rw [same]
    obtain executing | unknown := before
    · exact .inl executing
    · exact .inr (.inl unknown)
  · refine ⟨fun failed => ?_, fun _ => doubtful⟩
    rw [failed] at doubtful
    simp at doubtful

def sampleLost : List Op := sampleApproval ++ sampleCall ++ [.runner 0 .crash, .reclaimJob 1 50]

theorem uncertain_not_failed_reclaim :
    let w := run (step (sampleSettings 3)) (World.initial {}) sampleLost
    ∃ row next, w.db.actions.get 1 = some row ∧ Unanswered w 1 row
      ∧ (step (sampleSettings 3) w (.reclaimAction 1 50)).db.actions.get 1 = some next
      ∧ (next.status = .executing ∨ next.status = .unknown ∨ next.status = .approved) := by
  intro w
  have uncertain : ∃ row, w.db.actions.get 1 = some row ∧ row.status = .executing
      ∧ directKey 1 row = .direct 1 ∧ Unanswered w 1 row :=
    ⟨_, rfl, rfl, rfl, rfl, by decide, by decide⟩
  obtain ⟨row, found, executing, _, uncertain⟩ := uncertain
  have left : ¬ Spent (sampleSettings 3) w.db (directKey 1 row) := by
    rintro ⟨jobId, job, stored, -, used⟩
    have unused : ∀ entry ∈ w.db.jobs.rows, entry.2.attempt < 3 := by decide
    exact absurd used (not_le.mpr (unused (jobId, job) (Table.mem_rows.mpr stored)))
  have keeps := uncertain_not_failed (sampleSettings 3) {}
    (sampleLost ++ [.reclaimAction 1 50]) (occurs_last _ _ _)
  exact ⟨row, _, found, uncertain, rfl,
    (keeps 1 row _ rfl found rfl uncertain left).2 (.inl executing)⟩

/-- **Without attempts left, an action in doubt is failed**: the provider was called, nothing has
come back, and the reclaim of the job fails the action. -/
theorem failed_without_result :
    let w := run (step (sampleSettings 1)) (World.initial {})
      (sampleApproval ++ sampleCall ++ [.runner 0 .crash])
    ∃ row next, w.db.actions.get 1 = some row ∧ Unanswered w 1 row
      ∧ row.status = .executing
      ∧ (step (sampleSettings 1) w (.reclaimJob 1 50)).db.actions.get 1 = some next
      ∧ next.status = .failed :=
  ⟨_, _, rfl, ⟨rfl, by decide, by decide⟩, rfl, rfl, rfl⟩

end ShadowTrace.Lifecycle
