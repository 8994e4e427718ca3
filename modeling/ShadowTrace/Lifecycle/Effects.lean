/-
**What one step does** (`step_transition`).

A step has the effects on the tables that the relations list, moves at most the process it names,
and says where every evaluation in progress and every logged action comes from; `Transition` holds
the three together, so that each operation is taken apart once. A transaction that raises, and an
operation whose process is not in the right place, leave the world alone, and that is a transition
too (`Transition.refl`).
-/

import ShadowTrace.Lifecycle.Processes

namespace ShadowTrace.Lifecycle

open Relational Fallible Execution

variable {id : ActionId} {jobId : JobId} {job : JobRow}

section Frames

variable {cfg : Settings} {w : World} {op : Op} {after : Db}

/-- A write to the actions alone, each row moving as listed. -/
theorem Effects.of_actions {actions : Table ActionId ActionRow}
    (acts : Table.Steps (ActionMove cfg w op { w.db with actions })
      (ActionBorn w op) w.db.actions actions) : Effects cfg w op { w.db with actions } :=
  ⟨acts, .refl fun _ _ => .kept, .kept rfl, .refl fun _ _ => .kept, fun _ => rfl⟩

theorem Effects.refl : Effects cfg w op w.db :=
  .of_actions (.refl fun _ _ => .kept)

theorem Effects.putAction {row next : ActionRow} (found : w.db.actions.get id = some row)
    (moved : ActionMove cfg w op (w.db.putAction id next) id row next) :
    Effects cfg w op (w.db.putAction id next) :=
  .of_actions (.set found moved fun _ _ => .kept)

theorem Effects.putJob {next : JobRow} (stored : w.db.jobs.get jobId = some job)
    (moved : JobMove cfg w op jobId job next) :
    Effects cfg w op { w.db with jobs := w.db.jobs.set jobId next } :=
  ⟨.refl fun _ _ => .kept, .set stored moved fun _ _ => .kept, .kept rfl,
    .refl fun _ _ => .kept, fun _ => rfl⟩

/-- An insert that meets a stored id writes nothing. -/
theorem Effects.insertAction {row : ActionRow} (born : ActionBorn w op id row) :
    Effects cfg w op (Lifecycle.insertAction w.db id row) := by
  obtain same | ⟨fresh, same⟩ := insertAction_cases w.db id row
  · rw [same]
    exact .refl
  · rw [same]
    exact .of_actions (.insert fresh born fun _ _ => .kept)

/-- Enqueueing writes the outbox alone. -/
theorem enqueue_frame {before : Db} {args : Sync.EnqueueArgs}
    (done : enqueue before args = .ok after) :
    Sync.EnqueueEffect args before.outboxes after.outboxes ∧ after.actions = before.actions
      ∧ after.jobs = before.jobs ∧ after.approvals = before.approvals
      ∧ after.events = before.events := by
  obtain ⟨_, returned⟩ := enqueue_eq_ok done
  obtain ⟨effect, -, actions, jobs, approvals, events, -⟩ := Sync.enqueueCommand_effect returned
  exact ⟨effect, actions, jobs, approvals, events⟩

/-- A command is enqueued for one of the listed causes. -/
theorem enqueue_effects {args : Sync.EnqueueArgs} (done : enqueue w.db args = .ok after)
    (cause : EnqueueCause w op after args) : Effects cfg w op after := by
  obtain ⟨effect, actions, jobs, approvals, events⟩ := enqueue_frame done
  exact ⟨.of_eq actions fun _ _ => .kept, .of_eq jobs fun _ _ => .kept, .enqueued cause effect,
    .of_eq approvals fun _ _ => .kept, fun _ => events⟩

end Frames

/-! ### Transitions -/

/-- What a step may do to the tables, the processes and the logs. -/
structure Transition (cfg : Settings) (w : World) (op : Op) (after : World) : Prop where
  effects : Effects cfg w op after.db
  executors : (∃ p run, op = .runner p run ∧ Advances cfg w after p) ∨ SameExecutors w after
  rollbacks : (∃ p run, op = .rollback p run ∧ Proceeds w op after p)
    ∨ after.rollbacks = w.rollbacks
  evaluations : ∀ p evaluation, after.evaluations.get p = some (some evaluation) →
    w.evaluations.get p = some (some evaluation)
      ∨ w.db.actions.get evaluation.action = some evaluation.snapshot
        ∧ Approval.evaluable evaluation.snapshot = true
  planned : ∀ logged ∈ after.planned, logged ∈ w.planned
    ∨ ∃ event revision candidate now, after.db.actions.get logged
      = some (Planning.materializeAction event revision candidate now)
  compensations : ∀ logged ∈ after.compensations, logged ∈ w.compensations
    ∨ ∃ original source tool key env now, Rollback.preCheckRollbackable source = .ok tool
      ∧ after.db.actions.get logged
        = some (Rollback.rollbackRow original source tool true key env now)

section Transitions

variable {cfg : Settings} {w : World} {op : Op} {db : Db}

/-- A step that moves no executor and no rollback. -/
theorem Transition.note {sync : Sync.World} {evaluations : Table ProcId (Option Evaluation)}
    {planned : List ActionId} (effects : Effects cfg w op sync.db)
    (evaluated : ∀ p evaluation, evaluations.get p = some (some evaluation) →
      w.evaluations.get p = some (some evaluation)
        ∨ w.db.actions.get evaluation.action = some evaluation.snapshot
          ∧ Approval.evaluable evaluation.snapshot = true)
    (logs : ∀ logged ∈ planned, logged ∈ w.planned
      ∨ ∃ event revision candidate now, sync.db.actions.get logged
        = some (Planning.materializeAction event revision candidate now)) :
    Transition cfg w op { w with sync, evaluations, planned } where
  effects := effects
  executors := .inr ⟨⟨rfl, rfl, rfl⟩, rfl⟩
  rollbacks := .inr rfl
  evaluations := evaluated
  planned := logs
  compensations := fun _ => .inl

/-- A write that always goes through. -/
theorem Transition.store (effects : Effects cfg w op db) : Transition cfg w op (w.store db) :=
  .note effects (fun _ _ => .inl) fun _ => .inl

theorem Transition.refl : Transition cfg w op w := .store .refl

/-- A transaction writes if it succeeds; one that raises leaves no trace. -/
theorem Transition.commit {ε : Type} {result : Except ε Db}
    (changes : ∀ after, result = .ok after → Effects cfg w op after) :
    Transition cfg w op (w.commit result) := by
  cases outcome : result with
  | error => exact .refl
  | ok after => exact .store (changes after outcome)

section Runners

variable {p : ProcId} {run : RunnerOp}

/-- A step of an executor leaves everything but executors and tables alone. -/
theorem Transition.runner {after : World} (advances : Advances cfg w after p)
    (others : SameOthers w after)
    (effects : Effects cfg w (.runner p run) after.db) :
    Transition cfg w (.runner p run) after where
  effects := effects
  executors := .inl ⟨p, run, rfl, advances⟩
  rollbacks := .inr others.rollbacks
  evaluations := fun _ _ held => .inl (others.evaluations ▸ held)
  planned := fun _ mem => .inl (others.planned ▸ mem)
  compensations := fun _ mem => .inl (others.compensations ▸ mem)

variable {here next : Runner}

/-- An executor writes and moves on. -/
theorem Transition.storeRunner (held : w.runner p = here)
    (moved : RunnerMove cfg w ((w.store db).setRunner p next) here next)
    (effects : Effects cfg w (.runner p run) db) :
    Transition cfg w (.runner p run) ((w.store db).setRunner p next) :=
  .runner (.of_held held rfl moved) ⟨rfl, rfl, rfl, rfl⟩ effects

/-- An executor moves on without a write. -/
theorem Transition.setRunner (held : w.runner p = here)
    (moved : RunnerMove cfg w (w.setRunner p next) here next) :
    Transition cfg w (.runner p run) (w.setRunner p next) :=
  .storeRunner held moved .refl

/-- An executor writes and is done. -/
theorem Transition.storeIdle (effects : Effects cfg w (.runner p run) db) :
    Transition cfg w (.runner p run) ((w.store db).setRunner p .idle) :=
  .storeRunner rfl (.dropped ⟨rfl, rfl, rfl⟩) effects

/-- An exception inside the guarded part takes the executor to its failure handler. -/
theorem Transition.raised (held : w.runner p = here) (guarded : here.guarded = some id) :
    Transition cfg w (.runner p run) (w.setRunner p (.failing id)) :=
  .setRunner held (.raised guarded ⟨rfl, rfl, rfl⟩)

end Runners

section Rollbacks

variable {p : ProcId} {run : RollbackOp}

/-- A rollback writes and moves on. -/
theorem Transition.storeRollback {here next : RollbackMemory} (held : w.rollback p = here)
    (moved : RollbackMove w (.rollback p run) ((w.store db).setRollback p next) here
      next) (effects : Effects cfg w (.rollback p run) db) :
    Transition cfg w (.rollback p run) ((w.store db).setRollback p next) where
  effects := effects
  executors := .inr ⟨⟨rfl, rfl, rfl⟩, rfl⟩
  rollbacks := .inl ⟨p, run, rfl, .of_held held rfl moved⟩
  evaluations := fun _ _ => .inl
  planned := fun _ => .inl
  compensations := fun _ => .inl

/-- A rollback moves on without a write. -/
theorem Transition.setRollback {here next : RollbackMemory} (held : w.rollback p = here)
    (moved : RollbackMove w (.rollback p run) (w.setRollback p next) here next) :
    Transition cfg w (.rollback p run) (w.setRollback p next) :=
  .storeRollback held moved .refl

end Rollbacks

end Transitions

section Steps

variable {cfg : Settings} {w : World}

/-! ### The writeback service -/

/-- The writeback service changes actions and jobs by projecting receipts only. -/
theorem sync_effects {inner : Sync.Op} (internal : inner.internal = true) :
    Effects cfg w (.sync inner)
      (Sync.step cfg.workerName w.sync inner).db := by
  obtain ⟨updates, projects⟩ := Sync.step_updates cfg.workerName w.sync internal
  refine {
    actions := Table.Steps.mono (fun _ _ _ => .synced rfl) ?_ projects.actions
    jobs := Table.Steps.mono ?_ (fun _ _ => False.elim) projects.jobs
    queue := .updated updates
    approvals := .of_eq projects.approvals fun _ _ => .kept
    events := fun _ => projects.events }
  · exact fun _ _ => False.elim
  · rintro _ _ _ (rfl | ⟨projected, managed⟩)
    · exact .kept
    · exact .synced rfl projected managed

/-! ### Reclaiming -/

variable {now : Time} {after : Db}

/-- A stale job times out together with its action, or goes back to the queue. -/
theorem reclaimJob_effects (done : reclaimStaleJobRow w.db jobId cfg.reclaim now = .ok after) :
    Effects cfg w (.reclaimJob jobId now) after := by
  obtain rfl | ⟨_, stored, active, ⟨spent, done⟩ | ⟨left, rfl⟩⟩ := reclaimStaleJobRow_eq_ok done
  · exact .refl
  · obtain rfl | ⟨_, found, executing, legal, rfl⟩ := failActionOfJob_eq_ok done
    · exact .putJob stored (.timedOut rfl active spent)
    · refine ⟨.set found ?_ fun _ _ => .kept, .set stored ?_ fun _ _ => .kept, .kept rfl,
        .refl fun _ _ => .kept, fun _ => rfl⟩
      · exact .timedOut rfl stored rfl spent executing legal
      · exact .timedOut rfl active spent
  · exact .putJob stored (.requeued rfl active left)

/-- A stale action follows its job, fails for good or is approved again. -/
theorem reclaimAction_effects
    (done : reclaimStaleExecutingAction w.db id cfg.reclaim now = .ok after) :
    Effects cfg w (.reclaimAction id now) after := by
  obtain rfl | ⟨_, _, found, committed, rfl⟩ := reclaimStaleExecutingAction_eq_ok done
  · exact .refl
  cases committed with
  | follow verdict legal => exact .putAction found (.followed rfl verdict legal)
  | exhaust verdict legal => exact .putAction found (.exhausted rfl verdict legal)
  | reopen verdict => exact .putAction found (.reopened rfl verdict)

/-- An operator resolves an action whose outcome is unknown. -/
theorem resolveUnknown_effects {resolution : UnknownResolution}
    (done : Execution.resolveUnknown w.db id resolution now = .ok after) :
    Effects cfg w (.resolveUnknown id resolution now) after := by
  obtain rfl | ⟨_, found, doubtful, legal, rfl⟩ := resolveUnknown_eq_ok done
  · exact .refl
  · exact .putAction found (.resolved rfl doubtful legal)

/-- A readback marks a submitted job, and a verified effect ends its action. -/
theorem entityEffect_effects {verified synced : Bool}
    (done : (if verified then finalizeEntityEffect w.db id synced now
      else markEntityEffectUnverified w.db id) = .ok after) :
    Effects cfg w (.entityEffect id verified synced now) after := by
  split at done
  · rename_i readback
    subst readback
    obtain rfl | ⟨_, _, _, _, target, open_, moved, rfl⟩ :=
      finalizeEntityEffect_eq_ok done
    · exact .refl
    obtain ⟨found, bound, stored, submitted⟩ := effectTarget_eq_some target
    refine ⟨.set found ?_ fun _ _ => .kept,
      .set stored (.effect rfl found bound submitted open_ (.inl rfl)) fun _ _ => .kept, .kept rfl,
      .refl fun _ _ => .kept, fun _ => rfl⟩
    obtain rfl | ⟨executing, legal, rfl⟩ := effectRow_eq_ok moved
    · exact .kept
    · exact .effective rfl executing legal
  · obtain rfl | ⟨_, _, _, target, open_, rfl⟩ := markEntityEffectUnverified_eq_ok done
    · exact .refl
    · obtain ⟨found, bound, stored, submitted⟩ := effectTarget_eq_some target
      exact .putJob stored (.effect rfl found bound submitted open_ (.inr rfl))

/-! ### Executors -/

section

variable {p : ProcId} {run : RunnerOp} {id : ActionId} {snapshot : ActionRow}
  {owner : ExecutionOwner} {jobId : JobId} {now : Time} {after : Db}

/-- An executor that finds a job under its key binds its action to it. -/
theorem attach_effects (held : w.runner p = .claimed id snapshot)
    (owned : snapshot.executionOwner = some owner)
    (found : findJob w.db (executionKey owner id snapshot) = some (jobId, job))
    (done : attachExistingJob w.db id jobId job now = .ok after) :
    Effects cfg w (.runner p run) after := by
  obtain ⟨stored, key⟩ := findJob_eq_some found
  obtain ⟨_, _, there, moved, rfl⟩ := attachExistingJob_eq_ok done
  exact .putAction there (.attached rfl held owned stored key moved)

/-- An executor that finds no job under its key opens one and binds its action. -/
theorem insert_effects {inserted : Db} {lease : Time} (held : w.runner p = .claimed id snapshot)
    (owned : snapshot.executionOwner = some owner)
    (free : findJob w.db (executionKey owner id snapshot) = none)
    (done : insertJob w.db id jobId
      (newJob id snapshot (executionKey owner id snapshot) lease) = .ok inserted)
    (jobs : after.jobs = inserted.jobs) (actions : after.actions = inserted.actions)
    (approvals : after.approvals = inserted.approvals) (events : after.events = inserted.events)
    (queue : QueueMove w (.runner p run) after) :
    Effects cfg w (.runner p run) after := by
  obtain ⟨row, fresh, there, rfl⟩ := insertJob_eq_ok done
  have bound : after.actions.get id = some { row with executionJobId := some jobId } := by
    rw [actions]
    exact Table.get_set_self
  have born : after.jobs.get jobId
      = some (newJob id snapshot (executionKey owner id snapshot) lease) := by
    rw [jobs]
    exact Table.get_set_self
  refine ⟨?_, ?_, queue, .of_eq approvals fun _ _ => .kept, fun _ => events⟩
  · rw [actions]
    exact .set there (.bound rfl held owned born rfl) fun _ _ => .kept
  · rw [jobs]
    exact .insert fresh (.execution rfl held owned free bound rfl) fun _ _ => .kept

end

/-- The job is written only while its status is the expected one. -/
theorem casUpdateJob_effects {op : Op} {updated : MockJob} {expected : ExecutionJobStatus}
    {synced : Bool} (moved : ∀ job, job.status = expected →
      JobMove cfg w op jobId job (applyJobRow job updated)) :
    Effects cfg w op (casUpdateJob w.db jobId updated expected synced) := by
  unfold casUpdateJob
  split
  · exact .refl
  rename_i job stored
  split
  · rename_i seen
    exact .putJob stored (moved job seen.1)
  · exact .refl

section Executors

variable {p : ProcId}

/-- An idle executor claims an action that has an owner. -/
theorem stepStart_transition (id : ActionId) (env : ClaimEnv) (now : Time) :
    Transition cfg w (.runner p (.start id env now)) (stepStart w p id env now) := by
  unfold stepStart
  split
  · rename_i row idle found
    split
    · exact .refl
    rename_i owned
    split
    · exact .refl
    rename_i done
    obtain ⟨_, there, checked, rfl, rfl⟩ := claimAction_eq_ok done
    obtain rfl := Option.mem_unique found there
    have owner : row.executionOwner.isSome = true := by
      simpa [Option.isSome_iff_ne_none] using owned
    exact .storeRunner idle
      (.claimed found owner checked Table.get_set_self ⟨rfl, rfl, rfl⟩)
      (.putAction found (.claimed rfl owner checked))
  · exact .refl

/-- A managed execution attaches to its job, or opens it with its command. -/
theorem stepExecuteXdr_transition (jobId : JobId) (draft : Option CommandDraft) (now : Time) :
    Transition cfg w (.runner p (.executeXdr jobId draft now))
      (stepExecuteXdr cfg w p jobId draft now) := by
  unfold stepExecuteXdr
  split
  · rename_i id snapshot held
    split
    · exact .refl
    rename_i managed
    have owned : snapshot.executionOwner = some .xdrManaged := not_not.mp managed
    split
    · exact .raised held rfl
    split
    · exact .raised held rfl
    rename_i done
    unfold executeXdrManaged at done
    split at done
    · rename_i found
      obtain ⟨attached, stored, done⟩ := bind_eq_ok.mp done
      cases done
      exact .runner (.of_set rfl (.dropped ⟨rfl, rfl, rfl⟩)) ⟨rfl, rfl, rfl, rfl⟩
        (attach_effects held owned found stored)
    rename_i free
    obtain ⟨_, stored, done⟩ := bind_eq_ok.mp done
    obtain ⟨enqueued, returned, done⟩ := bind_eq_ok.mp done
    obtain ⟨rfl, rfl⟩ := Prod.mk.inj (pure_eq_ok.mp done)
    obtain ⟨effect, actions, jobs, approvals, events⟩ := enqueue_frame returned
    obtain ⟨_, fresh, -, rfl⟩ := insertJob_eq_ok stored
    have born : enqueued.jobs.get jobId = some (newJob id snapshot (xdrKey id snapshot)
        (now + cfg.reclaim.leaseSeconds)) := by
      rw [jobs]
      exact Table.get_set_self
    refine .runner (.of_held held rfl (.submitted free born rfl rfl rfl rfl))
      ⟨rfl, rfl, rfl, rfl⟩ ?_
    refine insert_effects held owned free stored jobs actions approvals events ?_
    exact .enqueued (.submit rfl held owned rfl fresh born rfl) effect
  · exact .refl

/-- A direct execution attaches to its job, or opens it and goes on to call. -/
theorem stepExecuteDirect_transition (jobId : JobId) (now : Time) :
    Transition cfg w (.runner p (.executeDirect jobId now))
      (stepExecuteDirect cfg w p jobId now) := by
  unfold stepExecuteDirect
  split
  · rename_i snapshot held
    split
    · exact .refl
    rename_i direct
    have owned : snapshot.executionOwner = some .directTool := not_not.mp direct
    split
    · exact .raised held rfl
    rename_i done
    unfold executeDirectTool at done
    split at done
    · rename_i found
      obtain ⟨attached, stored, done⟩ := bind_eq_ok.mp done
      cases done
      exact .storeIdle (attach_effects held owned found stored)
    rename_i free
    obtain ⟨inserted, stored, done⟩ := bind_eq_ok.mp done
    obtain ⟨rfl, rfl⟩ := Prod.mk.inj (pure_eq_ok.mp done)
    obtain ⟨_, _, -, rfl⟩ := insertJob_eq_ok stored
    exact .storeRunner held (.inserted owned free Table.get_set_self ⟨rfl, rfl, rfl⟩)
      (insert_effects held owned free stored rfl rfl rfl rfl (.kept rfl))
  · exact .refl

/-- A round dispatches the call, unless a guard or an open breaker stops it. -/
theorem stepRound_transition (guardStops breakerOpen : Bool) :
    Transition cfg w (.runner p (.round guardStops breakerOpen))
      (stepRound w p guardStops breakerOpen) := by
  unfold stepRound
  split
  · rename_i held
    split
    · exact .setRunner held (.returned rfl ⟨rfl, rfl, rfl⟩)
    · exact .runner (.of_held held rfl (.dispatched rfl rfl rfl)) ⟨rfl, rfl, rfl, rfl⟩ .refl
  · exact .refl

/-- Only an answer with a result is logged. -/
theorem stepAnswer_transition (provider : ProviderAnswer) :
    Transition cfg w (.runner p (.answer provider)) (stepAnswer cfg w p provider) := by
  unfold stepAnswer
  split
  · rename_i held
    split
    · rename_i result
      exact .runner (.of_held held rfl (.answered rfl (by rw [if_pos result]) rfl))
        ⟨rfl, rfl, rfl, rfl⟩ .refl
    · rename_i silent
      exact .setRunner held (.answered rfl (by rw [if_neg silent]; rfl) rfl)
  · exact .refl

/-- The result of the call is written to the action. -/
theorem stepFinish_transition (now : Time) :
    Transition cfg w (.runner p (.finish now)) (stepFinish w p now) := by
  unfold stepFinish
  split
  · rename_i held
    split
    · exact .raised held rfl
    rename_i done
    obtain ⟨_, _, found, moved, rfl⟩ := finishDirectTool_eq_ok done
    refine .storeRunner held ?_ (.putAction found (.finished rfl held rfl moved))
    split
    · exact .finished ⟨rfl, rfl, rfl⟩
    · exact .dropped ⟨rfl, rfl, rfl⟩
  · exact .refl

/-- The executor records its result for the writeback, and is done. -/
theorem stepRecord_transition (draft : Option CommandDraft) :
    Transition cfg w (.runner p (.record draft)) (stepRecord w p draft) := by
  unfold stepRecord
  split
  · rename_i held
    split
    · exact .raised held rfl
    split
    · exact .raised held rfl
    · rename_i done
      exact .storeIdle (enqueue_effects done (.record rfl held rfl))
  · exact .refl

/-- **Every step of an executor is a transition.** -/
theorem stepRunner_transition (run : RunnerOp) :
    Transition cfg w (.runner p run) (stepRunner cfg w p run) := by
  cases run with
  | start => exact stepStart_transition ..
  | restoreOwnerless =>
    rw [stepRunner]
    split
    · rename_i held
      split
      · exact .refl
      rename_i ownerless
      split
      · exact .raised held rfl
      rename_i done
      refine .storeIdle ?_
      obtain rfl | ⟨_, found, executing, rfl⟩ := restoreApprovedOwnerless_eq_ok done
      · exact .refl
      · exact .putAction found (.restored rfl held (by simpa using ownerless) executing)
    · exact .refl
  | executeXdr => exact stepExecuteXdr_transition ..
  | executeDirect => exact stepExecuteDirect_transition ..
  | prepare =>
    rw [stepRunner]
    split
    · rename_i held
      split
      · exact .raised held rfl
      · exact .setRunner held (.returned rfl ⟨rfl, rfl, rfl⟩)
      split
      · exact .raised held rfl
      · rename_i real
        exact .setRunner held (.called real ⟨rfl, rfl, rfl⟩)
    · exact .refl
  | round => exact stepRound_transition ..
  | answer => exact stepAnswer_transition ..
  | readJob =>
    rw [stepRunner]
    split
    · rename_i held
      split
      · exact .setRunner held (.returned rfl ⟨rfl, rfl, rfl⟩)
      · exact .setRunner held (.read ⟨rfl, rfl, rfl⟩)
    · exact .refl
  | compareAndSet =>
    rw [stepRunner]
    split
    · rename_i seen held
      exact .storeRunner held (.returned rfl ⟨rfl, rfl, rfl⟩)
        (casUpdateJob_effects fun _ => .answered rfl held rfl)
    · exact .refl
  | readReturned =>
    rw [stepRunner]
    split
    · rename_i held
      exact .setRunner held (.reread ⟨rfl, rfl, rfl⟩)
    · exact .refl
  | runMock =>
    rw [stepRunner]
    split
    · rename_i seen held
      exact .runner (.of_held held rfl (.mocked rfl rfl rfl)) ⟨rfl, rfl, rfl, rfl⟩
        (casUpdateJob_effects fun _ => .mocked rfl held rfl)
    · exact .refl
  | finish => exact stepFinish_transition ..
  | record => exact stepRecord_transition ..
  | raise =>
    rw [stepRunner]
    split
    · rename_i guarded
      exact .raised rfl guarded
    · exact .refl
  | fail now =>
    rw [stepRunner]
    split
    · rename_i id held
      cases outcome : failExecutingAction w.db id now with
      | error => exact .storeIdle .refl
      | ok =>
        refine .storeIdle ?_
        obtain rfl | ⟨_, found, executing, legal, rfl⟩ := failExecutingAction_eq_ok outcome
        · exact .refl
        · exact .putAction found (.failed rfl held executing legal)
    · exact .refl
  | crash => exact .storeIdle .refl

end Executors

/-! ### Planning and approvals -/

/-- Planning inserts an action, or rewrites the one with the same fingerprint. -/
theorem stepPlan_transition (id : ActionId) (event : EventId) (revision : Nat)
    (candidate : Planning.Candidate) (now : Time) :
    Transition cfg w (.plan id event revision candidate now)
      (stepPlan w id event revision candidate now) := by
  unfold stepPlan
  split
  · exact .refl
  rename_i tool
  dsimp only
  split
  · exact .refl
  rename_i done
  obtain ⟨_, _, found, rfl⟩ | ⟨absent, fresh, rfl⟩ :=
    Planning.upsertActionRow_eq_ok done
  · obtain ⟨there, same⟩ := Planning.findByFingerprint_eq_some found
    rw [found, Option.isNone_some, if_neg Bool.false_ne_true]
    exact .store (.putAction there (.replanned rfl same))
  rw [absent, Option.isNone_none, if_pos rfl]
  refine .note (.of_actions (.insert fresh (.planned rfl (not_not.mp tool)) fun _ _ => .kept))
    (fun _ _ => .inl) fun logged mem => ?_
  obtain rfl | older := List.mem_cons.mp mem
  · exact .inr ⟨event, revision, candidate, now, Table.get_set_self⟩
  · exact .inl older

theorem supersede_effects (event : EventId) (oldRevision newRevision : Nat) (now : Time) :
    Effects cfg w (.supersede event oldRevision newRevision now)
      (Planning.supersedeUndeployedDeferred w.db event oldRevision newRevision now) := by
  refine .of_actions (.mapRows fun id row found => ?_)
  split
  · rename_i selected
    exact .superseded rfl selected
  · exact .kept

variable {cycle : Nat} {clock : Approval.Clock}

/-- An approval record and the status of its action are written together. -/
theorem setStatus_effects {op : Op} {decision : ApprovalDecisionKind} {snapshot : ActionRow}
    {target : ActionStatus}
    (done : Approval.setActionStatus (Approval.upsertRecord w.db id cycle decision clock) id
      snapshot target clock.now = .ok after) (moved : ∀ row, w.db.actions.get id = some row →
      validateActionStatusTransition snapshot.category snapshot.status target
        (snapshotEvidence snapshot target) = .ok () →
      ActionMove cfg w op after id row (row.moveTo target clock.now))
    (recorded : (∀ row, after.actions.get id = some row → row.status = target) →
      ∀ record next, ApprovalMove w op after (id, cycle) record next) :
    Effects cfg w op after := by
  obtain ⟨legal, rfl⟩ := Approval.setActionStatus_eq_ok done
  refine ⟨.modify (fun row found => moved row found legal) fun _ _ => .kept,
    .refl fun _ _ => .kept, .kept rfl, ?_, fun _ => rfl⟩
  have written : ∀ row, (w.db.actions.modify id fun row => row.moveTo target clock.now).get id
      = some row → row.status = target := by
    intro _ found
    rw [Table.get_modify, if_pos rfl, Option.map_eq_some_iff] at found
    obtain ⟨_, -, rfl⟩ := found
    rfl
  cases stored : w.db.approvals.get (id, cycle) with
  | none => exact .insert stored trivial fun _ _ => .kept
  | some record => exact .set stored (recorded written record _) fun _ _ => .kept

/-- An evaluation starts from the row as it is stored. -/
theorem stepEvaluate_transition (p : ProcId) (id : ActionId) (cycle : Nat) :
    Transition cfg w (.evaluate p id cycle) (stepEvaluate w p id cycle) := by
  unfold stepEvaluate
  split
  · rename_i found _
    split
    · rename_i ready
      refine .note .refl (fun other evaluation held => ?_) fun _ => .inl
      rw [Table.get_set] at held
      split_ifs at held with same
      · cases held
        exact .inr ⟨found, ready⟩
      · exact .inl held
    · exact .refl
  · exact .refl

/-- An evaluation is persisted against the row it started from. -/
theorem stepPersistEvaluation_transition (p : ProcId) (manifest : Approval.Manifest)
    (cap : Option ActionLevel) (clock : Approval.Clock) :
    Transition cfg w (.persistEvaluation p manifest cap clock)
      (stepPersistEvaluation w p manifest cap clock) := by
  unfold stepPersistEvaluation
  split
  · rename_i evaluation held
    have forgotten : ∀ other stored, (w.evaluations.set p none).get other = some (some stored) →
        w.evaluations.get other = some (some stored) := by
      intro _ _ there
      rw [Table.get_set] at there
      split_ifs at there with same
      · cases there
      · exact there
    dsimp only
    cases outcome : Approval.persistEvaluation w.db evaluation.action evaluation.snapshot
        evaluation.cycle (Approval.evaluateAction evaluation.snapshot manifest cap).decision
        clock with
    | error =>
      exact .note .refl (fun _ _ there => .inl (forgotten _ _ there)) fun _ => .inl
    | ok =>
      refine .note (setStatus_effects outcome ?_ ?_)
        (fun _ _ there => .inl (forgotten _ _ there)) fun _ => .inl
      · exact fun _ _ => .evaluated rfl held rfl rfl
      · exact fun written record next => .evaluated rfl held rfl written
  · exact .refl

/-- A decision closes an undecided record. -/
theorem decide_effects {manifest : Approval.Manifest} {bindingValid : Bool}
    {req : Approval.DecisionRequest}
    (done : Approval.decide w.db id manifest bindingValid req now = .ok after) :
    Effects cfg w (.decide id manifest bindingValid req now) after := by
  obtain rfl | ⟨_, _, _, found, stored, undecided, legal, rfl⟩ :=
    Approval.decide_eq_ok done
  · exact .refl
  exact ⟨.set found (.decided rfl Table.get_set_self legal) fun _ _ => .kept,
    .refl fun _ _ => .kept, .kept rfl, .set stored (.closed undecided) fun _ _ => .kept,
    fun _ => rfl⟩

/-- A timeout closes an undecided record of a waiting action. -/
theorem timedOut_effects {op : Op}
    (cause : op = .timeout id cycle now ∨ op = .scanTimeout id cycle now)
    (timedOut : Approval.TimedOut w.db id cycle now after) :
    Effects cfg w op after := by
  obtain rfl | ⟨_, _, found, waiting, stored, undecided, rfl⟩ := timedOut
  · exact .refl
  exact ⟨.set found (.expired cause waiting) fun _ _ => .kept, .refl fun _ _ => .kept, .kept rfl,
    .set stored (.closed undecided) fun _ _ => .kept, fun _ => rfl⟩

/-! ### Rollbacks -/

/-- A rollback that is given up fails its action. -/
theorem updateActionStatus_effects {op : Op} (now : Time) (cause : GivesUp w id op) :
    Effects cfg w op (Rollback.updateActionStatus w.db id .failed now) :=
  .of_actions (.modify (fun _ _ => .rollbackFailed cause) fun _ _ => .kept)

/-- A compensation is recorded for a rollback that succeeded, or by its saga. -/
theorem enqueueCompensation_transition {op : Op} {original : ActionId} {draft : CommandDraft}
    (done : ∀ row, w.db.actions.get id = some row →
      row.category = .rollback ∧ row.status = .success
        ∨ ∃ p, w.rollback p = .compensating original id) :
    Transition cfg w op (enqueueCompensation w original id draft) := by
  unfold enqueueCompensation
  split
  · exact .refl
  · rename_i row found
    exact .commit fun after enqueued =>
      enqueue_effects enqueued (.compensation found (done row found) rfl)

section Sagas

variable {p : ProcId}

theorem stepRollbackStart_transition (original : ActionId) (automated : Bool) (newId : ActionId)
    (key : IdempotencyKey) (env : Rollback.CompensationEnv) (now : Time) :
    Transition cfg w (.rollback p (.start original automated newId key env now))
      (stepRollbackStart w p original automated newId key env now) := by
  unfold stepRollbackStart
  split
  · rename_i idle
    split
    · exact .refl
    rename_i after start done
    obtain ⟨tool, found, checked, fingerprint, reached, made⟩ :=
      Rollback.rollbackAction_eq_ok done
    refine {
      effects := ?_
      executors := .inr ⟨⟨rfl, rfl, rfl⟩, rfl⟩
      rollbacks := .inl ⟨p, _, rfl, .of_held idle rfl (.started found
        (Rollback.preCheckRollbackable_response checked)
        (Rollback.preCheckRollbackable_success checked) reached fingerprint)⟩
      evaluations := fun _ _ => .inl
      planned := fun _ => .inl
      compensations := fun logged mem => ?_ }
    · obtain ⟨-, rfl⟩ | ⟨-, fresh, same, rfl⟩ := made
      · exact .refl
      · refine .of_actions (.insert fresh ?_ fun _ _ => .kept)
        rw [same]
        exact .rollback rfl found checked
    split at mem
    · rename_i created
      rw [Bool.and_eq_true] at created
      obtain ⟨fresh, rfl⟩ := created
      obtain rfl | older := List.mem_cons.mp mem
      · obtain ⟨found, -⟩ | ⟨same, -, row, -⟩ := made
        · rw [found] at fresh
          cases fresh
        · refine .inr ⟨original, start.original, tool, key, env, now, checked, ?_⟩
          rw [← row, ← same]
          exact reached
      · exact .inl older
    · exact .inl mem
  · exact .refl

theorem stepCompleteApproved_transition (rollback : ActionId) :
    Transition cfg w (.rollback p (.completeApproved rollback))
      (stepCompleteApproved w p rollback) := by
  unfold stepCompleteApproved
  split
  · rename_i idle found
    split
    · exact .refl
    rename_i linked
    split
    · exact .refl
    rename_i there
    split
    · exact .refl
    rename_i category
    split
    · rename_i done
      exact .setRollback idle
        (.completed rfl found (not_not.mp category) linked there done)
    split
    · exact .setRollback idle (.resumed rfl found (not_not.mp category) linked there)
    · exact .refl
  · exact .refl

/-- A new rollback is put up for review. -/
theorem register_effects (held : w.rollback p = .registering id)
    (done : Approval.requireManualReview w.db id 0 clock = .ok after) :
    Effects cfg w (.rollback p (.register clock)) after := by
  unfold Approval.requireManualReview at done
  split at done
  · cases done
  rename_i found
  split at done
  · rename_i written
    cases done
    refine setStatus_effects written ?_ fun written record next => .reviewed written
    intro _ there legal
    obtain rfl := Option.mem_unique found there
    exact .reviewed rfl held legal
  · cases done

/-- A rollback whose success the readback refutes fails. -/
theorem stepGrade_transition (readback : Option Bool) (now : Time) :
    Transition cfg w (.rollback p (.grade readback now)) (stepGrade w p readback now) := by
  unfold stepGrade
  split
  · rename_i held
    split
    · rename_i graded
      obtain rfl := Rollback.verifyRollbackEffect_success (.inl graded)
      exact .setRollback held .graded
    · rename_i graded
      obtain rfl := Rollback.verifyRollbackEffect_success (.inr graded)
      exact .setRollback held .graded
    all_goals
      rename_i graded
      split
      · rename_i executed
        subst executed
        obtain rfl := Rollback.verifyRollbackEffect_refuted (by rw [graded]; decide)
        exact .storeRollback held .dropped (updateActionStatus_effects now (.refuted held))
      · exact .setRollback held .dropped
  · exact .refl

/-- The original is rolled back only if it still has the status seen. -/
theorem casRollbackStatus_effects {original : ActionId} {seen : ActionStatus} (now : Time)
    (held : w.rollback p = .effective original seen id) :
    Effects cfg w (.rollback p (.cas now)) (Rollback.casRollbackStatus w.db original seen now) := by
  unfold Rollback.casRollbackStatus
  split
  · exact .refl
  rename_i found
  split
  · rename_i both
    rw [Bool.and_eq_true] at both
    exact .putAction found (.rolledBack rfl held both.2)
  · exact .refl

/-- **Every step of a rollback is a transition.** -/
theorem stepRollback_transition (run : RollbackOp) :
    Transition cfg w (.rollback p run) (stepRollback w p run) := by
  cases run with
  | start => exact stepRollbackStart_transition ..
  | completeApproved => exact stepCompleteApproved_transition ..
  | register clock =>
    rw [stepRollback]
    split
    · rename_i id held
      cases outcome : Approval.requireManualReview w.db id 0 clock with
      | error => exact .setRollback held .dropped
      | ok => exact .storeRollback held .dropped (register_effects held outcome)
    · exact .refl
  | returned =>
    rw [stepRollback]
    split
    · rename_i held
      split
      · exact .refl
      · rename_i found
        exact .setRollback held (.returned found)
    · exact .refl
  | raised now =>
    rw [stepRollback]
    split
    · rename_i held
      exact .storeRollback held .dropped (updateActionStatus_effects now (.raised held))
    · exact .refl
  | grade => exact stepGrade_transition ..
  | cas now =>
    rw [stepRollback]
    split
    · rename_i held
      exact .storeRollback held .undone (casRollbackStatus_effects now held)
    · exact .refl
  | compensate =>
    rw [stepRollback]
    split
    · rename_i held
      exact enqueueCompensation_transition fun _ _ => .inr ⟨p, held⟩
    · exact .refl

end Sagas

theorem stepRepairCompensation_transition (id : ActionId) (draft : CommandDraft) :
    Transition cfg w (.repairCompensation id draft) (stepRepairCompensation w id draft) := by
  unfold stepRepairCompensation
  split
  · exact .refl
  rename_i found
  split
  · exact .refl
  split
  · exact .refl
  split
  · rename_i done
    refine enqueueCompensation_transition fun stored there => ?_
    obtain rfl := Option.mem_unique found there
    exact .inl ⟨done.1, done.2.1⟩
  · exact .refl

/-! ### The other writers -/

/-- Activation and the command of a disposition are one transaction. -/
theorem activate_effects {env : ActivationEnv} {draft : CommandDraft}
    (done : activateAndSubmit w.db id env draft now = .ok after) :
    Effects cfg w (.activate id env draft now) after := by
  obtain rfl | ⟨row, enqueued, found, ready, legal, stored, rfl⟩ := activateAndSubmit_eq_ok done
  · exact .refl
  obtain ⟨effect, actions, jobs, approvals, events⟩ := enqueue_frame stored
  have reached : (enqueued.putAction id (row.moveTo .executing now)).actions.get id
      = some (row.moveTo .executing now) := Table.get_set_self
  refine ⟨?_, .of_eq jobs fun _ _ => .kept,
    .enqueued (.disposition rfl found ready rfl reached rfl) effect,
    .of_eq approvals fun _ _ => .kept, fun _ => events⟩
  rw [Db.putAction, actions]
  exact .set found (.activated rfl ready legal) fun _ _ => .kept

theorem finalizeVerification_effects (id : ActionId) (outcome : VerificationOutcome) (now : Time) :
    Effects cfg w (.finalizeVerification id outcome now)
      (finalizeVerificationAction w.db id outcome now) := by
  unfold finalizeVerificationAction
  split
  · exact .refl
  rename_i found
  split
  · exact .refl
  · rename_i running
    simp only [not_or, not_not] at running
    exact .putAction found (.verified rfl running.1 running.2)

theorem report_effects (id : ActionId) (event : EventId) (revision : Nat) (now : Time) :
    Effects cfg w (.report id event revision now)
      (upsertReportAction w.db id event revision now) := by
  unfold upsertReportAction
  dsimp only
  split
  · rename_i found
    obtain ⟨there, same⟩ := Planning.findByFingerprint_eq_some found
    exact .putAction there (.reported rfl same)
  · exact .insertAction (.report rfl)

/-- **Every step is a transition.** -/
theorem step_transition (cfg : Settings) (w : World) (op : Op) :
    Transition cfg w op (step cfg w op) := by
  cases op with
  | sync =>
    rw [step]
    split
    · rename_i internal
      exact .note (sync_effects internal) (fun _ _ => .inl) fun _ => .inl
    · exact .refl
  | runner => exact stepRunner_transition ..
  | reclaimJob => exact .commit fun _ => reclaimJob_effects
  | reclaimAction => exact .commit fun _ => reclaimAction_effects
  | resolveUnknown => exact .commit fun _ => resolveUnknown_effects
  | entityEffect => exact .commit fun _ => entityEffect_effects
  | plan => exact stepPlan_transition ..
  | supersede event oldRevision newRevision now =>
    exact .store (supersede_effects event oldRevision newRevision now)
  | evaluate => exact stepEvaluate_transition ..
  | persistEvaluation => exact stepPersistEvaluation_transition ..
  | decide => exact .commit fun _ => decide_effects
  | timeout => exact .store (timedOut_effects (.inl rfl) (Approval.handleTimeout_timedOut _ _ _ _))
  | scanTimeout =>
    exact .store (timedOut_effects (.inr rfl) (Approval.scanExpired_timedOut _ _ _ _))
  | rollback => exact stepRollback_transition ..
  | repairCompensation => exact stepRepairCompensation_transition ..
  | activate => exact .commit fun _ => activate_effects
  | dispositionOnly => exact .store (.insertAction (.dispositionOnly rfl))
  | createVerification =>
    refine .store ?_
    unfold createVerificationAction
    split
    · exact .refl
    · exact .insertAction (.verification rfl)
  | finalizeVerification id outcome now =>
    exact .store (finalizeVerification_effects id outcome now)
  | report id event revision now => exact .store (report_effects id event revision now)
  | others =>
    exact .store ⟨.refl fun _ _ => .kept, .refl fun _ _ => .kept, .kept rfl,
      .refl fun _ _ => .kept, nofun⟩

end Steps

/-! ### What the proofs about runs use -/

section

variable (cfg : Settings) (w : World) (op : Op)

theorem step_effects : Effects cfg w op (step cfg w op).db := (step_transition cfg w op).effects

theorem step_executors : (∃ p run, op = .runner p run ∧ Advances cfg w (step cfg w op) p)
      ∨ SameExecutors w (step cfg w op) :=
  (step_transition cfg w op).executors

theorem SameExecutors.advances {after : World} (same : SameExecutors w after)
    (p : ProcId) : Advances cfg w after p := by
  refine ⟨w.runner p, .kept same.toSameLogs, fun other => ?_⟩
  rw [same.runner other]
  split_ifs with named
  · rw [named]
  · rfl

theorem step_advances : ∃ mover, Advances cfg w (step cfg w op) mover := by
  obtain ⟨p, _, -, advances⟩ | same := step_executors cfg w op
  · exact ⟨p, advances⟩
  · exact ⟨0, same.advances cfg w 0⟩

/-- An executor moves along its control flow, or stays. -/
theorem step_runner (p : ProcId) :
    RunnerMove cfg w (step cfg w op) (w.runner p) ((step cfg w op).runner p)
      ∨ (step cfg w op).runner p = w.runner p := by
  obtain ⟨_, _, moved, others⟩ := step_advances cfg w op
  rw [others p]
  split_ifs with named
  · rw [named]
    exact .inl moved
  · exact .inr rfl

/-- A rollback moves along its control flow, or stays. -/
theorem step_rollback (p : ProcId) :
    RollbackMove w op (step cfg w op) (w.rollback p) ((step cfg w op).rollback p) := by
  obtain ⟨_, _, -, _, moved, others⟩ | same :=
    (step_transition cfg w op).rollbacks
  · rw [others p]
    split_ifs with named
    · rw [named]
      exact moved
    · exact .kept
  · rw [rollback_of_same same]
    exact .kept

end

variable {cfg : Settings} {w : World} {op : Op}

def Op.runs : Op → Bool
  | .runner .. => true
  | _ => false

theorem step_sameExecutors (other : op.runs = false) : SameExecutors w (step cfg w op) := by
  obtain ⟨_, _, rfl, -⟩ | same := step_executors cfg w op
  · cases other
  · exact same

def Op.rollsBack : Op → Bool
  | .rollback .. => true
  | _ => false

theorem step_rollbacks (other : op.rollsBack = false) :
    (step cfg w op).rollbacks = w.rollbacks := by
  obtain ⟨_, _, rfl, -⟩ | same := (step_transition cfg w op).rollbacks
  · cases other
  · exact same

/-- **A step of an executor moves that executor along its control flow.** -/
theorem stepRunner_advances (cfg : Settings) (w : World) (p : ProcId)
    (run : RunnerOp) : Advances cfg w (stepRunner cfg w p run) p := by
  obtain ⟨_, named, same, advances⟩ | same := (@stepRunner_transition cfg w p run).executors
  · obtain ⟨rfl, rfl⟩ := Op.runner.inj same
    exact advances
  · exact same.advances cfg w p

end ShadowTrace.Lifecycle
