/-
**At most one dispatch per execution key.**

A key is used up by its job: the executor that inserts the job is the only one that may call the
provider under it, and every other executor attaches to the job. Reclaiming never removes the job,
so a later execution attaches as well (`OneDispatch`).

A call with side effects never comes back to the head of the loop (`afterAnswer_not_calling`), so a
dispatch takes its executor out of the set its first two clauses range over.
-/

import ShadowTrace.Lifecycle.Soundness

namespace ShadowTrace.Lifecycle

open Relational Fallible Execution Machine

def aboutToCall : Runner → Option DirectRun
  | .inserted exec | .calling exec _ => some exec
  | _ => none

variable {runner : Runner} {exec : DirectRun}

theorem aboutToCall_execution (ready : aboutToCall runner = some exec) :
    runnerExecution runner = some exec := by
  cases runner <;> first | exact ready | cases ready

theorem afterAnswer_aboutToCall (attempt maxRetries : Nat)
    (nature : exec.row.toolName.callNature = .sideEffect) (provider : ProviderAnswer) :
    aboutToCall (afterAnswer exec attempt maxRetries provider) = none := by
  cases outcome : afterAnswer exec attempt maxRetries provider with
  | calling again next => exact absurd outcome (afterAnswer_not_calling nature provider again next)
  | inserted =>
    cases provider <;> simp only [afterAnswer] at outcome <;> (try split at outcome) <;>
      cases outcome
  | _ => rfl

theorem afterReturn_aboutToCall (exec : DirectRun) (mockMode : Bool) (job : Option JobRow) :
    aboutToCall (afterReturn exec mockMode job) = none := by
  unfold afterReturn
  split
  · rfl
  · split <;> rfl

/-- A job carries the key. -/
def HasJob (db : Db) (key : ExecutionKey) : Prop :=
  ∃ jobId job, db.jobs.get jobId = some job ∧ job.idempotencyKey = key

/-- No key is about to be called twice, or again after its dispatch. -/
structure OneDispatch (w : World) : Prop where
  alone : ∀ p other exec exec', aboutToCall (w.runner p) = some exec →
    aboutToCall (w.runner other) = some exec' → exec.key = exec'.key →
    p = other
  pending : ∀ p exec, aboutToCall (w.runner p) = some exec → exec.key ∉ w.dispatches
  spent : ∀ key, key ∈ w.dispatches ∨ key ∈ w.submits.map Prod.fst → HasJob w.db key
  dispatched : w.dispatches.Nodup
  submitted : (w.submits.map Prod.fst).Nodup

section Step

variable {cfg : Settings} {w : World} {op : Op} {p : ProcId} {exec : DirectRun}
  {after : World} {next : Runner}

theorem HasJob.step {key : ExecutionKey} (job : HasJob w.db key) :
    HasJob (step cfg w op).db key := by
  obtain ⟨jobId, row, stored, same⟩ := job
  obtain ⟨next, reached, moved⟩ := (step_effects cfg w op).jobs.old jobId row stored
  exact ⟨jobId, next, reached, moved.identity.2.trans same⟩

theorem HasJob.not_free {db : Db} {key : ExecutionKey} (job : HasJob db key) :
    findJob db key ≠ none := by
  obtain ⟨_, _, stored, same⟩ := job
  exact fun free => findJob_eq_none free stored same

theorem Sound.aboutToCall_job (sound : Sound w) (ready : aboutToCall (w.runner p) = some exec) :
    HasJob w.db exec.key := by
  obtain ⟨job, stored, key, -⟩ := (sound.running rfl (aboutToCall_execution ready)).job
  exact ⟨exec.job, job, stored, key⟩

theorem Sound.sideEffect (sound : Sound w) (running : Running w.db exec) :
    exec.row.toolName.callNature = .sideEffect := by
  obtain ⟨row, found, same⟩ := running.claim.stored
  have tool : row.toolName = exec.row.toolName := (congrArg ActionRow.toolName same :)
  have gated : row.category.humanGated = true := by
    rw [category_of_identity same]
    exact running.claim.gated
  refine Tool.callNature_sideEffect running.claim.real ?_
  rw [← tool]
  exact (sound.rows _ row found).tool gated

/-- **Where a process in front of the provider call comes from**: it was there before, under the
same execution, or it has just inserted the job of a free key. -/
theorem RunnerMove.aboutToCall (nature : ∀ exec, runnerExecution runner = some exec →
      exec.row.toolName.callNature = .sideEffect)
    (moved : RunnerMove cfg w after runner next)
    (ready : Lifecycle.aboutToCall next = some exec) :
    Lifecycle.aboutToCall runner = some exec ∨ findJob w.db exec.key = none := by
  cases moved with
  | kept | called => exact .inl ready
  | inserted _ free =>
    cases ready
    exact .inr free
  | @answered exec attempt provider dispatches answers submits =>
    rw [afterAnswer_aboutToCall attempt cfg.maxRetries (nature exec rfl) provider] at ready
    cases ready
  | reread =>
    rw [afterReturn_aboutToCall] at ready
    cases ready
  | _ => cases ready

theorem RunnerMove.logs (moved : RunnerMove cfg w after runner next) :
    (after.dispatches = w.dispatches ∧ (after.submits = w.submits
        ∨ ∃ key outbox, after.submits = (key, outbox) :: w.submits
          ∧ findJob w.db key = none ∧ HasJob after.db key))
      ∨ ∃ exec, Lifecycle.aboutToCall runner = some exec
        ∧ Lifecycle.aboutToCall next = none ∧ after.dispatches = exec.key :: w.dispatches
        ∧ after.submits = w.submits := by
  cases moved with
  | submitted free born key dispatches _ submits =>
    exact .inl ⟨dispatches, .inr ⟨_, _, submits, free, _, _, born, key⟩⟩
  | dispatched dispatches _ submits => exact .inr ⟨_, rfl, rfl, dispatches, submits⟩
  | answered dispatches _ submits | mocked dispatches _ submits =>
    exact .inl ⟨dispatches, .inl submits⟩
  | kept logs | dropped logs | raised _ logs | claimed _ _ _ _ logs | inserted _ _ _ logs
  | called _ logs | returned _ logs | read logs | reread logs | finished logs =>
    exact .inl ⟨logs.dispatches, .inl logs.submits⟩

/-- **Where a process in front of the call comes from, whatever the operation is.** Only the process
that moves can be new there, and its key had no job. -/
theorem Sound.origin (sound : Sound w) {mover : ProcId}
    (moved : RunnerMove cfg w after (w.runner mover) next)
    (stands : ∀ other, after.runner other = if other = mover then next else w.runner other)
    (ready : Lifecycle.aboutToCall (after.runner p) = some exec) :
    Lifecycle.aboutToCall (w.runner p) = some exec ∨ p = mover ∧ findJob w.db exec.key = none := by
  rw [stands p] at ready
  split_ifs at ready with named
  · have nature : ∀ exec, runnerExecution (w.runner mover) = some exec →
        exec.row.toolName.callNature = .sideEffect :=
      fun exec inside => sound.sideEffect (sound.running rfl inside)
    obtain before | free := moved.aboutToCall nature ready
    · exact .inl (named ▸ before)
    · exact .inr ⟨named, free⟩
  · exact .inl ready

theorem advances_oneDispatch (sound : Sound w) (once : OneDispatch w) {mover : ProcId}
    (jobs : ∀ key, HasJob w.db key → HasJob after.db key)
    (advances : Advances cfg w after mover) : OneDispatch after := by
  obtain ⟨_, moved, stands⟩ := advances
  have origin : ∀ p exec, aboutToCall (after.runner p) = some exec →
      aboutToCall (w.runner p) = some exec ∨ p = mover ∧ findJob w.db exec.key = none :=
    fun _ _ => sound.origin moved stands
  have alone : ∀ p other exec exec',
      aboutToCall (after.runner p) = some exec →
      aboutToCall (after.runner other) = some exec' → exec.key = exec'.key →
      p = other := by
    intro p other exec exec' ready ready' same
    obtain before | ⟨named, free⟩ := origin p exec ready <;>
      obtain before' | ⟨named', free'⟩ := origin other exec' ready'
    · exact once.alone p other exec exec' before before' same
    · exact absurd (same ▸ free') (sound.aboutToCall_job before).not_free
    · exact absurd (same ▸ free) (sound.aboutToCall_job before').not_free
    · rw [named, named']
  have spentBefore : ∀ key, key ∈ w.dispatches ∨ key ∈ w.submits.map Prod.fst →
      HasJob after.db key := fun key logged => jobs key (once.spent key logged)
  obtain ⟨dispatches, submits⟩ | ⟨called, here, left, dispatches, submits⟩ := moved.logs
  · have dispatched : after.dispatches.Nodup := by
      rw [dispatches]
      exact once.dispatched
    have pending : ∀ p exec, aboutToCall (after.runner p) = some exec →
        exec.key ∉ after.dispatches := by
      intro p exec ready mem
      rw [dispatches] at mem
      obtain before | ⟨-, free⟩ := origin p exec ready
      · exact once.pending p exec before mem
      · exact (once.spent _ (.inl mem)).not_free free
    obtain submits | ⟨key, _, submits, free, born⟩ := submits
    · refine ⟨alone, pending, ?_, dispatched, ?_⟩
      · rw [dispatches, submits]
        exact spentBefore
      · rw [submits]
        exact once.submitted
    refine ⟨alone, pending, ?_, dispatched, ?_⟩
    · simp only [dispatches, submits, List.map_cons, List.mem_cons]
      rintro other (called | rfl | older)
      · exact spentBefore other (.inl called)
      · exact born
      · exact spentBefore other (.inr older)
    · rw [submits, List.map_cons, List.nodup_cons]
      exact ⟨fun logged => (once.spent key (.inr logged)).not_free free, once.submitted⟩
  · -- the executor dispatches its key and leaves the call
    refine ⟨alone, ?_, ?_, ?_, ?_⟩
    · intro p exec ready mem
      have other : p ≠ mover := by
        rintro rfl
        rw [stands p, if_pos rfl, left] at ready
        cases ready
      obtain before | ⟨named, -⟩ := origin p exec ready
      · rw [dispatches] at mem
        obtain same | older := List.mem_cons.mp mem
        · exact other (once.alone p mover exec called before here same)
        · exact once.pending p exec before older
      · exact other named
    · simp only [dispatches, submits, List.mem_cons]
      rintro key ((rfl | older) | logged)
      · exact jobs _ (sound.aboutToCall_job here)
      · exact spentBefore key (.inl older)
      · exact spentBefore key (.inr logged)
    · rw [dispatches, List.nodup_cons]
      exact ⟨once.pending mover called here, once.dispatched⟩
    · rw [submits]
      exact once.submitted

theorem step_oneDispatch (cfg : Settings) (w : World) (op : Op) (sound : Sound w)
    (once : OneDispatch w) : OneDispatch (step cfg w op) := by
  obtain ⟨_, advances⟩ := step_advances cfg w op
  exact advances_oneDispatch sound once (fun _ job => job.step) advances

/-! ### Entity submits -/

/-- Every entity action submitted is logged. -/
def SubmitsLogged (w : World) : Prop :=
  ∀ id outbox, w.db.outboxes.get id = some outbox →
    outbox.intentKind = .entityActionSubmit →
    ∃ row, w.db.actions.get outbox.actionId = some row
      ∧ (xdrKey outbox.actionId row, id) ∈ w.submits

theorem step_submits_subset (cfg : Settings) (w : World) (op : Op) :
    w.submits ⊆ (step cfg w op).submits := by
  obtain ⟨_, _, moved, -⟩ := step_advances cfg w op
  obtain ⟨-, submits | ⟨_, _, submits, -⟩⟩ | ⟨_, -, -, -, submits⟩ := moved.logs
  all_goals rw [submits]
  · exact List.Subset.refl _
  · exact List.subset_cons_self _ _
  · exact List.Subset.refl _

theorem stepExecuteXdr_submits {id : ActionId} {snapshot : ActionRow} {jobId : JobId}
    {draft : CommandDraft} {now : Time} {job : JobRow}
    (held : w.runner p = .claimed id snapshot)
    (managed : snapshot.executionOwner = some .xdrManaged) (fresh : w.db.jobs.get jobId = none)
    (born : (stepExecuteXdr cfg w p jobId (some draft) now).db.jobs.get jobId = some job) :
    (stepExecuteXdr cfg w p jobId (some draft) now).submits
      = (xdrKey id snapshot, draft.outboxId) :: w.submits := by
  have unborn : w.db.jobs.get jobId ≠ some job := by
    rw [fresh]
    nofun
  simp only [stepExecuteXdr, held, managed, ne_eq, not_true_eq_false, if_false] at born ⊢
  split at born
  · exact absurd born unborn
  rename_i done
  unfold executeXdrManaged at done
  split at done
  · obtain ⟨attached, stored, done⟩ := bind_eq_ok.mp done
    cases done
    obtain ⟨_, _, -, -, rfl⟩ := attachExistingJob_eq_ok stored
    exact absurd born unborn
  · obtain ⟨_, -, done⟩ := bind_eq_ok.mp done
    obtain ⟨enqueued, -, done⟩ := bind_eq_ok.mp done
    cases done
    rfl

theorem step_submitsLogged (cfg : Settings) (w : World) (op : Op) (sound : Sound w)
    (logged : SubmitsLogged w) : SubmitsLogged (step cfg w op) := by
  intro id _ found submit
  have effects := step_effects cfg w op
  obtain ⟨earlier, there, moved⟩ | ⟨-, _, cause, enqueued⟩ := effects.outboxes.row_after found
  · have action := moved.action
    have kind := moved.kind
    obtain ⟨row, stored, mem⟩ := logged id earlier there (kind ▸ submit)
    obtain ⟨next, reached, movedOn⟩ := effects.actions.old earlier.actionId row stored
    have key : xdrKey earlier.actionId next = xdrKey earlier.actionId row :=
      executionKey_of_identity movedOn.identity .xdrManaged earlier.actionId
    refine ⟨next, action ▸ reached, step_submits_subset cfg w op ?_⟩
    rw [action, key]
    exact mem
  · obtain ⟨action, kind⟩ := enqueued.command
    cases cause with
    | @submit p draft now snapshot claimed jobId job cause held managed same fresh born owner =>
      subst same cause
      have claim : Claim (step cfg w (.runner p (.executeXdr jobId (some draft) now))).db
          claimed snapshot := (sound.claim held).step
      obtain ⟨row, reached, identical⟩ := claim.stored
      have key := executionKey_of_identity identical .xdrManaged claimed
      refine ⟨row, action ▸ reached, ?_⟩
      rw [step, stepRunner, stepExecuteXdr_submits held managed fresh born, action]
      exact List.mem_cons.mpr (.inl (Prod.ext key enqueued.1))
    | record _ _ same | disposition _ _ _ same | compensation _ _ same =>
      subst same; cases kind.symm.trans submit

end Step

/-! ### Every schedule -/

/-- The invariant: a key is spent on one call or one command. -/
structure KeysSpentOnce (w : World) : Prop where
  sound : Sound w
  once : OneDispatch w
  logged : SubmitsLogged w

variable (cfg : Settings) (around : Surroundings) (ops : List Op)

theorem initial_keysSpentOnce : KeysSpentOnce (World.initial around) where
  sound := initial_sound ..
  once :=
    { alone := fun _ _ _ _ ready => by cases ready
      pending := fun _ _ ready => by cases ready
      spent := fun _ logged => by rcases logged with logged | logged <;> cases logged
      dispatched := List.nodup_nil
      submitted := List.nodup_nil }
  logged _ _ found := by cases found

theorem run_keysSpentOnce :
    KeysSpentOnce (run (step cfg) (World.initial around) ops) := by
  refine run_invariant_of_step KeysSpentOnce ?_ (initial_keysSpentOnce ..) ops
  intro w op keys
  exact ⟨step_sound cfg w op keys.sound, step_oneDispatch cfg w op keys.sound keys.once,
    step_submitsLogged cfg w op keys.sound keys.logged⟩

/-- The outbox row submits an entity action under the key. -/
def EntitySubmit (db : Db) (key : ExecutionKey) (id : OutboxId) : Prop :=
  ∃ outbox row, db.outboxes.get id = some outbox ∧ outbox.intentKind = .entityActionSubmit
    ∧ db.actions.get outbox.actionId = some row ∧ xdrKey outbox.actionId row = key

/-- **At most one dispatch and one entity submit per execution key**, in every interleaving of
executors, reclaims, planners, approvers and rollbacks, whatever the providers answer. -/
theorem dispatched_at_most_once (key : ExecutionKey) :
    let w := run (step cfg) (World.initial around) ops
    w.dispatches.count key ≤ 1 ∧
      ∀ first second, EntitySubmit w.db key first → EntitySubmit w.db key second →
        first = second := by
  intro w
  have keys : KeysSpentOnce w := run_keysSpentOnce ..
  refine ⟨List.nodup_iff_count_le_one.mp keys.once.dispatched key, ?_⟩
  have mem : ∀ id, EntitySubmit w.db key id → (key, id) ∈ w.submits := by
    rintro id ⟨outbox, _, found, submit, stored, same⟩
    obtain ⟨_, there, logged⟩ := keys.logged id outbox found submit
    obtain rfl := Option.mem_unique stored there
    rw [same] at logged
    exact logged
  intro first second one two
  have equal := List.inj_on_of_nodup_map keys.once.submitted (mem first one) (mem second two)
    rfl
  exact (Prod.mk.inj equal).2

/-! ### A small run -/

def sampleSettings (attempts : Nat) : Settings where
  workerName := id
  reclaim := { maxAttempts := attempts, leaseSeconds := 10 }
  maxRetries := 2

def sampleCandidate (tool : Tool) : Planning.Candidate where
  tool := tool
  owner := some .directTool
  approvedTerminalDispositions := []
  writebackRequired := false
  writebackApplicable := false
  writebackReadiness := .notRequired
  source := none
  dispositionKey := 0
  content := 1

def sampleManifest (tool : Tool) : Approval.Manifest where
  allowedOperations := [tool]
  templateSupported := true
  supportsIdempotency := true
  supportsLookupByIdempotency := true

/-- Action 1 is planned at level `l1` and approved by the level rules. -/
def sampleApproval : List Op :=
  [.plan 1 1 1 (sampleCandidate .notifySecurityTeam) 0, .evaluate 0 1 0,
    .persistEvaluation 0 (sampleManifest .notifySecurityTeam) none { now := 0, timeout := 60 }]

def sampleCall : List Op :=
  [.runner 0 (.start 1 { bindingValid := true, fenceOpen := true } 1),
    .runner 0 (.executeDirect 1 1), .runner 0 (.prepare .passed), .runner 0 (.round false false)]

/-! ### A transaction of several steps -/

/-- **The write of a plan is a run**: the last plan superseded, then the actions one by one. -/
theorem persistActions_run {w : World} {event : EventId} {revision : Nat} {now : Time} {db : Db}
    {plan : List (ActionId × { candidate : Planning.Candidate //
      candidate.tool.category = .response })}
    (done : Planning.persistActions w.db event revision
      (plan.map fun entry => (entry.1, entry.2.1)) now = .ok db) :
    (run (step cfg) w
      ((if revision - 1 ≥ 1 then [.supersede event (revision - 1) revision now] else [])
        ++ plan.map fun entry => .plan entry.1 event revision entry.2 now)).db = db := by
  have cleared : (run (step cfg) w (if revision - 1 ≥ 1 then
      [.supersede event (revision - 1) revision now] else [])).db = if revision - 1 ≥ 1 then
      Planning.supersedeUndeployedDeferred w.db event (revision - 1) revision now
      else w.db := by
    split_ifs
    · rfl
    · rfl
  rw [Planning.persistActions, ← cleared, List.foldlM_map] at done
  rw [run_append]
  refine foldlM_run (fun {w entry _} stored => ?_) done
  simp only [step, stepPlan, entry.2.2, stored]
  rfl

end ShadowTrace.Lifecycle
