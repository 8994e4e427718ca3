/-
**Every schedule keeps the shape of the world.**

Two facts are about statuses; the rest follows from the identities of actions and jobs, which no
move changes.
-/

import ShadowTrace.Lifecycle.Changes

namespace ShadowTrace.Lifecycle

open Relational Execution

/-! ### One step keeps actions sound -/

section

variable {cfg : Settings} {w : World} {op : Op} {id : ActionId} {after db : Db}
  {row next : ActionRow} {jobId : JobId} {job : JobRow} {exec : DirectRun} {runner : Runner}

theorem IsA.step {category : ActionCategory} (stored : IsA category w.db id) :
    IsA category (step cfg w op).db id := by
  obtain ⟨row, found, same⟩ := stored
  obtain ⟨next, reached, moved⟩ := (step_effects cfg w op).actions.old id row found
  exact ⟨next, reached, (category_of_identity moved.identity).trans same⟩

theorem GivesUp.rollback (sound : Sound w) (cause : GivesUp w id op) : IsA .rollback w.db id := by
  cases cause with
  | raised held => exact (sound.rollback held).2
  | refuted held => exact (sound.rollback held).2.1

/-- A move reaches a status that the category of the action can have. -/
theorem ActionMove.possible (sound : Sound w) (found : w.db.actions.get id = some row)
    (moved : ActionMove cfg w op after id row next) :
    possibleStatus next.category next.status = true := by
  have here := (sound.rows id row found).possible
  rw [category_of_identity moved.identity]
  cases moved.change sound found with
  | still same => exact same ▸ here
  | checked move => exact possibleStatus_edge here move.edge
  | reopened _ verdict =>
    exact possibleStatus_gated (reclaimVerdict_ne_keep verdict nofun).2.1 _
  | replanned _ fingerprint =>
    have category := (sound.rows id row found).fingerprint
    rw [fingerprint] at category
    rw [← category]
    rfl
  | superseded _ selected =>
    exact possibleStatus_gated (gated_of_possible here (Planning.undeployed_status selected)) _
  | evaluated _ held same =>
    obtain ⟨stored, response⟩ := sound.evaluations _ _ held
    subst same
    rw [category_of_identity (stored.same found), response]
    rfl
  | rollbackFailed cause =>
    rw [(cause.rollback sound).category_eq found]
    rfl

theorem SoundRow.moved (sound : SoundRow w.db row) (same : identity next = identity row)
    (possible : possibleStatus next.category next.status = true) :
    SoundRow (step cfg w op).db next := by
  have kept := of_identity (fun row => (row.actionFingerprint, row.toolName, row.idempotencyKey,
    row.executionOwner, row.sourceActionId, row.executionPhase, row.category)) same fun _ => rfl
  simp only [Prod.mk.injEq] at kept
  obtain ⟨fingerprint, tool, key, owner, source, phase, category⟩ := kept
  refine ⟨?_, ?_, possible, ?_, ?_, ?_⟩
  · rw [fingerprint, category]
    exact sound.fingerprint
  · rw [tool, category]
    exact sound.tool
  · rw [key, owner, tool]
    exact sound.keyed
  · rw [category, source]
    intro rollback
    obtain ⟨original, linked, response⟩ := sound.source rollback
    exact ⟨original, linked, response.step⟩
  · rw [fingerprint, phase]
    exact sound.deferred

theorem ActionBorn.sound (born : ActionBorn w op id row) : SoundRow (step cfg w op).db row := by
  cases born with
  | @planned event revision candidate now cause tool =>
    refine ⟨rfl, fun _ => .inl tool, rfl, fun keyed => .inr ?_, nofun, nofun⟩
    simpa [Planning.materializeAction] using keyed
  | @rollback p original automated env now source tool key cause found checked =>
    have response := Rollback.preCheckRollbackable_response checked
    refine ⟨rfl, fun _ => .inr ?_, rfl, fun _ => .inl rfl, fun _ => ⟨original, rfl, ?_⟩, nofun⟩
    · exact getRollbackTool_category (Rollback.preCheckRollbackable_tool checked)
    · exact IsA.step ⟨source, found, response⟩
  | dispositionOnly => exact ⟨rfl, fun _ => .inl rfl, rfl, nofun, nofun, fun _ _ => rfl⟩
  | verification | report => exact ⟨rfl, nofun, rfl, nofun, nofun, nofun⟩

theorem step_soundRow (sound : Sound w) (found : (step cfg w op).db.actions.get id = some row) :
    SoundRow (step cfg w op).db row := by
  obtain ⟨earlier, there, moved⟩ | ⟨-, born⟩ := (step_effects cfg w op).actions.row_after found
  · exact (sound.rows id earlier there).moved moved.identity (moved.possible sound there)
  · exact born.sound

/-! ### One step keeps processes sound -/

theorem JobMove.identity {next : JobRow} (moved : JobMove cfg w op jobId job next) :
    next.actionId = job.actionId ∧ next.idempotencyKey = job.idempotencyKey := by
  cases moved with
  | synced _ projected =>
    rw [projected.rest]
    exact ⟨rfl, rfl⟩
  | _ => exact ⟨rfl, rfl⟩

theorem JobMove.event {next : JobRow} (moved : JobMove cfg w op jobId job next) :
    next.eventId = job.eventId := by
  cases moved with
  | synced _ projected => rw [projected.rest]
  | _ => rfl

theorem Claim.step {snapshot : ActionRow} (claim : Claim w.db id snapshot) :
    Claim (step cfg w op).db id snapshot :=
  { claim with stored := claim.stored.step }

theorem Running.step (running : Running w.db exec) : Running (step cfg w op).db exec := by
  obtain ⟨job, stored, key, action⟩ := running.job
  obtain ⟨next, reached, moved⟩ := (step_effects cfg w op).jobs.old exec.job job stored
  obtain ⟨sameAction, sameKey⟩ := moved.identity
  exact ⟨running.claim.step, running.direct, next, reached, sameKey.trans key,
    sameAction.trans action⟩

theorem SoundRunner.step (sound : SoundRunner w.db runner) :
    SoundRunner (step cfg w op).db runner where
  claimed id snapshot same := (sound.claimed id snapshot same).step
  running exec inside := (sound.running exec inside).step

theorem SoundRunner.of_outside (outside : runnerClaim runner = none)
    (nowhere : runnerExecution runner = none) :
    SoundRunner db runner where
  claimed id snapshot same := by
    rw [outside] at same
    cases same
  running exec inside := by
    rw [nowhere] at inside
    cases inside

/-- The executor remembers no claim, and no execution but this one. -/
def Within (exec : DirectRun) (runner : Runner) : Prop :=
  runnerClaim runner = none ∧ ∀ other, runnerExecution runner = some other → other = exec

theorem SoundRunner.of_running (running : Running db exec) (within : Within exec runner) :
    SoundRunner db runner where
  claimed id snapshot same := by
    rw [within.1] at same
    cases same
  running other there := within.2 other there ▸ running

theorem within_afterAnswer (exec : DirectRun) (attempt maxRetries : Nat)
    (provider : ProviderAnswer) :
    Within exec (afterAnswer exec attempt maxRetries provider) := by
  cases provider <;> simp only [afterAnswer] <;> (try split) <;>
    exact ⟨rfl, by simp [runnerExecution]⟩

theorem within_afterReturn (exec : DirectRun) (mockMode : Bool) (job : Option JobRow) :
    Within exec (afterReturn exec mockMode job) := by
  unfold afterReturn
  split
  · exact ⟨rfl, by rintro _ ⟨⟩⟩
  · split <;> exact ⟨rfl, by rintro _ ⟨⟩; rfl⟩

theorem RunnerMove.sound {after : World} {next : Runner}
    (claims : ∀ id snapshot, Claim w.db id snapshot → Claim after.db id snapshot)
    (runs : ∀ exec, Running w.db exec → Running after.db exec)
    (sound : SoundRunner w.db runner) (moved : RunnerMove cfg w after runner next) :
    SoundRunner after.db next := by
  have goesOn : ∀ {exec : DirectRun}, runnerExecution runner = some exec →
      Running after.db exec := fun inside => runs _ (sound.running _ inside)
  cases moved with
  | kept =>
    exact ⟨fun id snapshot same => claims id snapshot (sound.claimed id snapshot same),
      fun _ => goesOn⟩
  | dropped | raised | submitted => exact .of_outside rfl rfl
  | claimed _ owned checked reached =>
    have claimable := claimChecks_eq_ok checked
    refine ⟨fun id snapshot same => ?_, fun exec inside => by cases inside⟩
    cases same
    exact ⟨⟨_, reached, rfl⟩, owned, claimable.gated, claimable.immediate, claimable.real⟩
  | inserted direct _ born =>
    exact .of_running ⟨claims _ _ (sound.claimed _ _ rfl), direct, _, born, rfl, rfl⟩
      ⟨rfl, by rintro _ ⟨⟩; rfl⟩
  | called | dispatched | read | mocked | finished =>
    exact .of_running (goesOn rfl) ⟨rfl, by rintro _ ⟨⟩; rfl⟩
  | answered => exact .of_running (goesOn rfl) (within_afterAnswer _ _ _ _)
  | returned inside => exact .of_running (goesOn inside) ⟨rfl, by rintro _ ⟨⟩; rfl⟩
  | reread => exact .of_running (goesOn rfl) (within_afterReturn _ _ _)

section

variable (sound : Sound w)

include sound

theorem step_soundRunner (p : ProcId) :
    SoundRunner (step cfg w op).db ((step cfg w op).runner p) := by
  obtain moved | same := step_runner cfg w op p
  · exact moved.sound (fun _ _ claim => claim.step) (fun _ running => running.step)
      (sound.runners p)
  · rw [same]
    exact (sound.runners p).step

theorem step_soundEvaluation {p : ProcId} {evaluation : Evaluation}
    (held : (step cfg w op).evaluations.get p = some (some evaluation)) :
    SoundEvaluation (step cfg w op).db evaluation := by
  obtain before | ⟨found, ready⟩ :=
    (step_transition cfg w op).evaluations _ _ held
  · obtain ⟨stored, response⟩ := sound.evaluations p evaluation before
    exact ⟨stored.step, response⟩
  · refine ⟨Remembered.step ⟨evaluation.snapshot, found, rfl⟩, ?_⟩
    simp only [Approval.evaluable, Bool.and_eq_true, beq_iff_eq] at ready
    exact ready.1.1

/-- **A rollback that has ended stays as it is**, unless the rollback service gives it up. -/
theorem ActionMove.ended_still (found : w.db.actions.get id = some row)
    (moved : ActionMove cfg w op after id row next) (rollback : row.category = .rollback)
    (ended : row.status = .success ∨ row.status = .failed) :
    next.status = row.status ∨ GivesUp w id op ∧ next.status = .failed := by
  have other : ∀ {status : ActionStatus}, row.status = status → status ≠ .success →
      status ≠ .failed → False := by
    rintro status rfl notDone notFailed
    exact ended.elim notDone notFailed
  cases moved.change sound found with
  | still same => exact .inl same
  | checked move =>
    -- no edge leaves either status
    have edge := move.edge
    rw [rollback] at edge
    obtain done | failed := ended
    · rw [done] at edge
      cases edge
    · rw [failed] at edge
      cases edge
  | reopened _ verdict =>
    have executing := (reclaimVerdict_ne_keep verdict nofun).1
    exact (other executing nofun nofun).elim
  | replanned _ fingerprint =>
    have category := (sound.rows id row found).fingerprint
    rw [rollback, fingerprint] at category
    cases category
  | superseded _ selected =>
    obtain pending | waiting | approved := Planning.undeployed_status selected
    · exact (other pending nofun nofun).elim
    · exact (other waiting nofun nofun).elim
    · exact (other approved nofun nofun).elim
  | evaluated _ held same =>
    obtain ⟨stored, response⟩ := sound.evaluations _ _ held
    subst same
    rw [category_of_identity (stored.same found), response] at rollback
    cases rollback
  | rollbackFailed cause reached => exact .inr ⟨cause, reached⟩

/-- **A rollback that has ended stays ended**: it can only be failed afterwards. -/
theorem Ended.step (ended : Ended w.db id) : Ended (step cfg w op).db id := by
  obtain ⟨row, found, rollback, done⟩ := ended
  obtain ⟨next, reached, moved⟩ := (step_effects cfg w op).actions.old id row found
  refine ⟨next, reached, (category_of_identity moved.identity).trans rollback, ?_⟩
  obtain same | ⟨-, failed⟩ := moved.ended_still sound found rollback done
  · rw [same]
    exact done
  · exact .inr failed

theorem SoundRollback.step {memory : RollbackMemory} (known : SoundRollback w.db memory) :
    SoundRollback (step cfg w op).db memory := by
  cases memory with
  | idle => trivial
  | registering => exact IsA.step known
  | executing => exact ⟨known.1.step, known.2.step⟩
  | executed => exact ⟨known.1.step, known.2.1.step, fun done => (known.2.2 done).step sound⟩
  | effective => exact ⟨known.1.step, known.2.step sound⟩
  | compensating => exact Ended.step sound known

end

theorem continueRollback_sound {original rollback : ActionId} {seen : ActionStatus}
    (response : IsA .response db original) (found : db.actions.get rollback = some row)
    (category : row.category = .rollback) :
    SoundRollback db (continueRollback original seen rollback row.status) := by
  have stored : IsA .rollback db rollback := ⟨row, found, category⟩
  unfold continueRollback
  split
  · exact stored
  · exact ⟨response, stored⟩
  · rename_i done
    exact ⟨response, stored, fun _ => ⟨row, found, category, .inl done⟩⟩
  · trivial

theorem step_soundRollback (sound : Sound w) (p : ProcId) :
    SoundRollback (step cfg w op).db ((step cfg w op).rollback p) := by
  have moved := step_rollback cfg w op p
  have known := sound.rollbacks p
  generalize (step cfg w op).rollback p = next at moved
  generalize w.rollback p = here at moved known
  cases moved with
  | kept => exact known.step sound
  | dropped => trivial
  | started found response _ reached fingerprint =>
    have category := (step_soundRow sound reached).fingerprint
    rw [fingerprint] at category
    exact continueRollback_sound (IsA.step ⟨_, found, response⟩) reached category.symm
  | completed _ found category linked _ done =>
    have response := sound.source_response found category linked
    exact ⟨response.step, IsA.step ⟨_, found, category⟩,
      fun _ => Ended.step sound ⟨_, found, category, .inl done⟩⟩
  | resumed _ found category linked =>
    exact ⟨(sound.source_response found category linked).step, IsA.step ⟨_, found, category⟩⟩
  | returned found =>
    obtain ⟨response, _, there, category⟩ := known
    obtain rfl := Option.mem_unique found there
    exact ⟨response.step, IsA.step ⟨_, found, category⟩,
      fun done => Ended.step sound ⟨_, found, category, .inl done⟩⟩
  | graded => exact ⟨known.1.step, (known.2.2 rfl).step sound⟩
  | undone => exact known.2.step sound

/-! ### One step keeps jobs and outboxes sound -/

theorem SoundJob.step {next : JobRow} (sound : SoundJob w.db job)
    (action : next.actionId = job.actionId) (key : next.idempotencyKey = job.idempotencyKey) :
    SoundJob (step cfg w op).db next := by
  obtain ⟨row, owner, found, owned, same⟩ := sound
  obtain ⟨later, reached, moved⟩ := (step_effects cfg w op).actions.old job.actionId row found
  have kept := congrArg ActionRow.executionOwner moved.identity
  refine ⟨later, owner, ?_, kept.trans owned, ?_⟩
  · rw [action]
    exact reached
  · rw [key, action, same]
    exact (executionKey_of_identity moved.identity owner job.actionId).symm

theorem soundJob_born {snapshot : ActionRow} {owner : ExecutionOwner}
    (claim : Claim w.db id snapshot) (owned : snapshot.executionOwner = some owner)
    (lease : Time) :
    SoundJob (step cfg w op).db (newJob id snapshot (executionKey owner id snapshot) lease) := by
  have later : Claim (step cfg w op).db id snapshot := claim.step
  obtain ⟨row, found, same⟩ := later.stored
  have kept := congrArg ActionRow.executionOwner same
  exact ⟨row, owner, found, kept.trans owned, (executionKey_of_identity same owner id).symm⟩

theorem step_soundJob (sound : Sound w) (found : (step cfg w op).db.jobs.get jobId = some job) :
    SoundJob (step cfg w op).db job := by
  obtain ⟨earlier, there, moved⟩ | ⟨-, born⟩ := (step_effects cfg w op).jobs.row_after found
  · exact (sound.jobs jobId earlier there).step moved.identity.1 moved.identity.2
  · cases born with
    | execution _ held owned => exact soundJob_born (sound.claim held) owned _

theorem ActionMove.binding (moved : ActionMove cfg w op after id row next)
    (bound : next.executionJobId = some jobId) :
    row.executionJobId = some jobId ∨ ∃ p snapshot owner job,
      w.runner p = .claimed id snapshot ∧ snapshot.executionOwner = some owner
        ∧ (after.jobs.get jobId = some job ∨ w.db.jobs.get jobId = some job)
        ∧ job.idempotencyKey = executionKey owner id snapshot := by
  cases moved with
  | synced _ projected =>
    rw [projected.rest] at bound
    exact .inl bound
  | bound _ held owned born key =>
    cases bound
    exact .inr ⟨_, _, _, _, held, owned, .inl born, key⟩
  | attached _ held owned stored key done =>
    rw [(attachedRow_eq_ok done).1] at bound
    cases bound
    exact .inr ⟨_, _, _, _, held, owned, .inr stored, key⟩
  | finished _ _ _ done =>
    obtain ⟨-, rfl | ⟨-, rfl⟩⟩ := movedRow_eq_ok done
    · exact .inl bound
    · exact .inl bound
  | timedOut | exhausted | reopened => cases bound
  | _ => exact .inl bound

theorem step_soundBinding (sound : Sound w) (found : (step cfg w op).db.actions.get id = some row) :
    SoundBinding (step cfg w op).db id row := by
  intro jobId bound
  have effects := step_effects cfg w op
  obtain ⟨earlier, there, moved⟩ | ⟨-, born⟩ := effects.actions.row_after found
  · have same := moved.identity
    have tool : row.toolName = earlier.toolName := (congrArg ActionRow.toolName same :)
    have owner : row.executionOwner = earlier.executionOwner :=
      (congrArg ActionRow.executionOwner same :)
    -- a job that was stored before is still stored, under its key
    have later : ∀ {job : JobRow}, w.db.jobs.get jobId = some job → ∃ next,
        (step cfg w op).db.jobs.get jobId = some next
          ∧ next.idempotencyKey = job.idempotencyKey := by
      intro job stored
      obtain ⟨next, reached, movedOn⟩ := effects.jobs.old jobId job stored
      exact ⟨next, reached, movedOn.identity.2⟩
    obtain before | ⟨_, _, channel, job, held, owned, stored, key⟩ := moved.binding bound
    · obtain ⟨_, channel, stored, owned, key, real⟩ :=
        sound.bindings id earlier there jobId before
      obtain ⟨next, reached, kept⟩ := later stored
      refine ⟨next, channel, reached, owner.trans owned, ?_, tool ▸ real⟩
      rw [kept, key]
      exact (executionKey_of_identity same channel id).symm
    have claim := sound.claim held
    obtain ⟨_, present, identical⟩ := claim.stored
    obtain rfl := Option.mem_unique there present
    have reached : ∃ next, (step cfg w op).db.jobs.get jobId = some next
        ∧ next.idempotencyKey = job.idempotencyKey := by
      obtain now | before := stored
      · exact ⟨job, now, rfl⟩
      · exact later before
    obtain ⟨next, reached, kept⟩ := reached
    have ownedNow := congrArg ActionRow.executionOwner (same.trans identical)
    have toolNow := congrArg ActionRow.toolName (same.trans identical)
    refine ⟨next, channel, reached, ownedNow.trans owned, ?_, ?_⟩
    · rw [kept, key]
      exact (executionKey_of_identity (same.trans identical) channel id).symm
    · intro virtual
      exact claim.real (toolNow.symm.trans virtual)
  · cases born <;> cases bound

theorem step_soundOutbox (sound : Sound w) {id : OutboxId} {outbox : OutboxRow}
    (found : (step cfg w op).db.outboxes.get id = some outbox) :
    SoundOutbox (step cfg w op).db outbox := by
  have effects := step_effects cfg w op
  -- the action of an outbox is still stored, with the same owner
  have owns : ∀ {snapshot : ActionRow}, Remembered w.db outbox.actionId snapshot →
      (outbox.intentKind = .entityActionSubmit → snapshot.executionOwner = some .xdrManaged) →
      SoundOutbox (step cfg w op).db outbox := by
    intro snapshot remembered managed
    have still : Remembered (step cfg w op).db outbox.actionId snapshot :=
      remembered.step
    obtain ⟨row, reached, same⟩ := still
    have owner := congrArg ActionRow.executionOwner same
    exact ⟨row, reached, fun submit => owner.trans (managed submit)⟩
  obtain ⟨earlier, there, moved⟩ | ⟨-, args, cause, enqueued⟩ := effects.outboxes.row_after found
  · obtain ⟨row, present, managed⟩ := sound.outboxes id earlier there
    have action := moved.action
    have kind := moved.kind
    refine owns ⟨row, ?_, rfl⟩ fun submit => managed (kind ▸ submit)
    rw [action]
    exact present
  obtain ⟨action, kind⟩ := enqueued.command
  -- only a submit is an entity submit
  have other : args.command.intentKind ≠ .entityActionSubmit →
      ∀ {owner : Prop}, outbox.intentKind = .entityActionSubmit → owner :=
    fun different _ submit => absurd (kind.symm.trans submit) different
  cases cause with
  | submit _ held managed same =>
    subst same
    refine owns ?_ fun _ => managed
    rw [action]
    exact (sound.claim held).stored
  | @record p run exec draft cause held same =>
    subst same
    have stored : Remembered w.db outbox.actionId exec.row := by
      rw [action]
      exact (sound.running held rfl).claim.stored
    exact owns stored (other nofun)
  | @disposition env draft now next deferred row cause there ready same reached executing
  | @compensation original rollback row draft there done same =>
    subst same
    have stored : Remembered w.db outbox.actionId row := by
      rw [action]
      exact ⟨row, there, rfl⟩
    exact owns stored (other nofun)

/-- **A step keeps the shape.** -/
theorem step_sound (cfg : Settings) (w : World) (op : Op) (sound : Sound w) :
    Sound (step cfg w op) where
  rows _ _ found := step_soundRow sound found
  runners p := step_soundRunner sound p
  evaluations _ _ held := step_soundEvaluation sound held
  rollbacks p := step_soundRollback sound p
  jobs _ _ found := step_soundJob sound found
  bindings _ _ found := step_soundBinding sound found
  outboxes _ _ found := step_soundOutbox sound found

end

variable (cfg : Settings) (around : Surroundings) (ops : List Op)

theorem initial_sound : Sound (World.initial around) where
  rows id row found := by cases found
  runners p := .of_outside rfl rfl
  evaluations p evaluation held := by cases held
  rollbacks p := trivial
  jobs jobId job found := by cases found
  bindings id row found := by cases found
  outboxes id outbox found := by cases found

/-- **Every reachable world is sound.** -/
theorem run_sound : Sound (Machine.run (step cfg) (World.initial around) ops) :=
  Machine.run_invariant_of_step Sound (step_sound cfg) (initial_sound ..) ops

end ShadowTrace.Lifecycle
