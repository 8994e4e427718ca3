/-
**Jobs that have ended.**

A job is written by the executors (`cas_update_job`), by the reclaimer and by the receipts of the
writeback service. The last two validate the change of status, so they leave a job that has ended
alone. An executor compares with the status it has read itself: a provider's answer that arrives
after the reclaimer has given the job up is read as `timedOut` and stored over it.
-/

import ShadowTrace.Execution.Stores
import ShadowTrace.Lifecycle.Legal

namespace ShadowTrace.Lifecycle

open Relational Execution Machine

/-- An executor that stores an answer read its job before it ended, or leaves the status. -/
def answersInTime (w : World) : Op → Bool
  | .runner p (.compareAndSet _) =>
    match w.runner p with
    | .comparing _ result seen =>
      !terminalJob seen.status || jobStatusOfResult seen.status result.status == seen.status
    | _ => true
  | _ => true

def mockedFrom : Runner → Option ExecutionJobStatus
  | .mocking _ seen => some seen
  | _ => none

/-- A mocked execution started from an open job. -/
def MocksOpenJobs (w : World) : Prop :=
  ∀ p seen, mockedFrom (w.runner p) = some seen → activeJob seen = true

/-- The job is stored with the status. -/
def EndedWith (id : JobId) (status : ExecutionJobStatus) (w : World) : Prop :=
  ∃ job, w.db.jobs.get id = some job ∧ job.status = status

variable {status : ExecutionJobStatus}

theorem terminalJob_final (ended : terminalJob status = true) :
    jobStatusTransitions status = [] := by
  cases status <;> first | rfl | cases ended

section Steps

variable {cfg : Settings} {w : World} {op : Op}

theorem afterReturn_mocked {exec : DirectRun} {mockMode : Bool} {job : Option JobRow}
    {seen : ExecutionJobStatus}
    (mocks : mockedFrom (afterReturn exec mockMode job) = some seen) :
    activeJob seen = true := by
  cases job with
  | none => cases mocks
  | some =>
    rw [afterReturn] at mocks
    split_ifs at mocks with active
    · cases mocks
      rw [Bool.and_eq_true] at active
      exact active.1
    · cases mocks

theorem afterAnswer_mocked (exec : DirectRun) (attempt maxRetries : Nat)
    (provider : ProviderAnswer) :
    mockedFrom (afterAnswer exec attempt maxRetries provider) = none := by
  cases provider with
  | result | timeout | raised =>
    rw [afterAnswer]
    split_ifs <;> rfl
  | propagated | softLimit => rfl

theorem RunnerMove.mocksOpenJobs {after : World} {runner next : Runner}
    (moved : RunnerMove cfg w after runner next)
    (before : ∀ seen, mockedFrom runner = some seen → activeJob seen = true) :
    ∀ seen, mockedFrom next = some seen → activeJob seen = true := by
  intro seen mocks
  cases moved with
  | kept => exact before seen mocks
  | answered =>
    rw [afterAnswer_mocked] at mocks
    cases mocks
  | reread => exact afterReturn_mocked mocks
  | _ => cases mocks

theorem step_mocksOpenJobs (holds : MocksOpenJobs w) : MocksOpenJobs (step cfg w op) := by
  intro p
  obtain moved | same := step_runner cfg w op p
  · exact moved.mocksOpenJobs (holds p)
  · rw [same]
    exact holds p

/-- **A job that has ended** keeps its status, unless a late answer is stored over it. -/
theorem JobMove.ended {jobId : JobId} {job next : JobRow}
    (moved : JobMove cfg w op jobId job next) (mocks : MocksOpenJobs w)
    (timely : answersInTime w op = true) (ended : terminalJob job.status = true) :
    next.status = job.status := by
  have notOpen : terminalJob job.status = false → next.status = job.status := by
    intro open_
    rw [ended] at open_
    cases open_
  cases moved with
  | kept => rfl
  | synced _ projected => exact projected.ended (terminalJob_final ended)
  | timedOut _ active | requeued _ active => exact notOpen (activeJob_open active)
  | @answered p synced exec result seen cause held same expected =>
    subst cause
    simp only [answersInTime, held] at timely
    have last : terminalJob seen.status = true := expected ▸ ended
    have same : jobStatusOfResult seen.status result.status = seen.status := by
      simpa [last] using timely
    exact same.trans expected.symm
  | @mocked p completed synced exec seen cause held same expected =>
    have active := mocks p seen (by rw [held]; rfl)
    exact notOpen (activeJob_open (expected ▸ active))
  | effect _ _ _ _ open_ => exact notOpen open_

theorem step_endedWith {id : JobId} {status : ExecutionJobStatus}
    (ended : terminalJob status = true) (mocks : MocksOpenJobs w)
    (timely : answersInTime w op = true) (holds : EndedWith id status w) :
    EndedWith id status (step cfg w op) := by
  obtain ⟨job, stored, rfl⟩ := holds
  obtain ⟨next, reached, moved⟩ := (step_effects cfg w op).jobs.old id job stored
  exact ⟨next, reached, moved.ended mocks timely ended⟩

end Steps

theorem run_endedWith (cfg : Settings) {start : World} (mocks : MocksOpenJobs start)
    {schedule later : List Op}
    (along : Along (step cfg) (fun w op => answersInTime w op = true) start
      (schedule ++ later)) {id : JobId} (ended : terminalJob status = true)
    (holds : EndedWith id status (run (step cfg) start schedule)) :
    EndedWith id status (run (step cfg) start (schedule ++ later)) := by
  have open_ : MocksOpenJobs (run (step cfg) start schedule) :=
    run_invariant_of_step MocksOpenJobs (fun _ _ => step_mocksOpenJobs) mocks
      schedule
  rw [run_append]
  refine (run_invariant _ (fun w => MocksOpenJobs w ∧ EndedWith id status w) ?_
    ⟨open_, holds⟩ (along_append.mp along).2).2
  rintro _ _ ⟨mocks, holds⟩ timely
  exact ⟨step_mocksOpenJobs mocks, step_endedWith ended mocks timely holds⟩

/-! ### Jobs end once -/

/-- **Jobs end once, and the stores are interchangeable.** In every schedule in which no answer is
stored over a job that had already ended when it was read, a job that has ended keeps its status.
And from stores that hold the same jobs, along every sequence of updates that the transition table
allows and whose target results the database takes, or that are refused for their expected status,
both stores give the same answer and hold the same jobs. -/
theorem jobs_end_once (cfg : Settings) (around : Surroundings) {Text Raw : Type}
    [LinearOrder Text] (redact : Redaction Text Raw) :
    (∀ schedule later, Along (step cfg) (fun w op => answersInTime w op = true)
        (World.initial around) (schedule ++ later) →
      ∀ id status, terminalJob status = true →
        EndedWith id status
          (run (step cfg) (World.initial around) schedule) →
        EndedWith id status
          (run (step cfg) (World.initial around) (schedule ++ later)))
    ∧ ∀ (start : Stores Text Raw) updates, Agree redact start.memory start.db →
      Along (stepStores redact)
        (fun stores update => admissible redact stores.memory stores.db update = true) start
        updates →
      ∀ before update after, Occurs (stepStores redact) start updates before update after →
        SameAnswer redact before update after := by
  have idle : MocksOpenJobs (World.initial around) := by
    intro _ _ mocks
    cases mocks
  constructor
  · intro _ _ along _ _ ended holds
    exact run_endedWith cfg idle along ended holds
  · intro _ _ agree along _ _ _ occurs
    exact stores_agree redact agree along occurs

/-! ### Two small runs -/

def sampleJob : ActionExecutionJob Nat Nat where
  eventId := 1
  actionId := 1
  idempotencyKey := directKey 1 Sync.sampleAction
  createdAt := some 0
  status := .running
  providerName := 0
  providerJobId := none
  providerCode := none
  providerMessage := none
  rawResult := 0
  claimedBy := none
  leaseExpiresAt := some 10
  pollAfterMs := none
  attempt := 1
  startedAt := some 1
  finishedAt := none
  updatedAt := some 1
  targetResults := []
  legacyTargetResults := true

def sampleStores : Stores Nat Nat where
  memory := { jobs := Table.empty.set 1 sampleJob }
  db := { jobs := Table.empty.set 1 { sampleJob with }, targets := .empty }

theorem sampleStores_agree (redact : Redaction Nat Nat) :
    Agree redact sampleStores.memory sampleStores.db := by
  intro _
  simp only [MemoryStore.getJob, DbStore.getJob, sampleStores, Table.get_set]
  split_ifs with same
  · rfl
  · rfl

def sampleUpdate (targets : List Nat) : JobUpdate Nat Nat where
  id := 1
  updated := { sampleJob with
    status := .success
    targetResults := targets.map fun target =>
      { canonicalTarget := target, status := .success, code := none, message := none
        artifactId := none, rawResult := 0 } }
  expected := .running
  now := 2

theorem casUpdateJob_rows_success :
    (casUpdateJob { (World.initial {}).db with
        jobs := Table.empty.set 1 (JobRecord.row { sampleJob with }) } 1
      (sampleUpdate []).updated.update .running true).jobs.get 1
      = some (JobRecord.row { sampleJob with status := .success }) := by
  refine DbStore.casUpdateJob_rows ⟨id, id⟩ sampleStores.db (sampleUpdate []) (fun _ => ?_) 1
  simp only [sampleStores, Table.get_set]
  split_ifs
  · rfl
  · rfl

theorem jobs_end_once_success :
    EndedWith 1 .success (run (step (sampleSettings 1)) (World.initial {})
      (sampleApproval ++ sampleExecution 1 1 ++ [.reclaimJob 1 50]))
    ∧ SameAnswer ⟨id, id⟩ sampleStores (sampleUpdate [2, 1])
      (stepStores ⟨id, id⟩ sampleStores (sampleUpdate [2, 1])) := by
  have both := jobs_end_once (sampleSettings 1) {} (⟨id, id⟩ : Redaction Nat Nat)
  have answered : EndedWith 1 .success (run (step (sampleSettings 1))
      (World.initial {}) (sampleApproval ++ sampleExecution 1 1)) :=
    ⟨_, rfl, rfl⟩
  constructor
  · exact both.1 (sampleApproval ++ sampleExecution 1 1) [.reclaimJob 1 50] (by decide) 1 .success
      rfl answered
  · exact both.2 sampleStores [sampleUpdate [2, 1]] (sampleStores_agree _) (by decide) _ _ _
      (.here _ _ [])

/-- **A late answer overwrites a timeout, and the stores part over a repeated target.** The provider
of job 1 answers after the reclaimer has given the job up; the executor reads `timedOut` and stores
`success` over it. An update that names a target twice is taken by the store in memory and refused
by the one in the database. -/
theorem late_answer_overwrites_timeout :
    let lost := sampleApproval ++ sampleCall ++ [.reclaimJob 1 50]
    let late := [.runner 0 (.answer (.result
        { status := .success, hasJobId := true, providerJobId := none })),
      .runner 0 .readJob, .runner 0 (.compareAndSet true)]
    let start := World.initial {}
    EndedWith 1 .timedOut (run (step (sampleSettings 1)) start lost)
    ∧ ¬ EndedWith 1 .timedOut (run (step (sampleSettings 1)) start (lost ++ late))
    ∧ (sampleStores.memory.casUpdateJob (sampleUpdate [1, 1])).map Prod.fst = .ok true
    ∧ (sampleStores.db.casUpdateJob ⟨id, id⟩ (sampleUpdate [1, 1])).1 = false := by
  refine ⟨⟨_, rfl, rfl⟩, ?_, rfl, by decide⟩
  rintro ⟨_, stored, status⟩
  cases stored
  cases status

end ShadowTrace.Lifecycle
