/-
**What the writeback service does to the tables of other services.**

It reads events and source objects, it never touches approval records, and it writes actions and
jobs in two ways only: it mirrors the status of a writeback onto its action, and it projects a
receipt onto an executing action and onto the job of an XDR managed one. `Projects before after`
says exactly that about two databases; it is reflexive and transitive. `Mirrors` follows the
mirrored status alone: which action takes it, and that a projected receipt leaves it where it is.
-/

import ShadowTrace.Sync.System

namespace ShadowTrace.Sync

open Relational Fallible

/-- The writeback mirror may move, and an executing action may follow a receipt. -/
structure ProjectedAction (row next : ActionRow) : Prop where
  rest : next = { row with status := next.status, writebackStatus := next.writebackStatus }
  status : next.status = row.status ∨ (row.status = .executing ∧
    validateActionStatusTransition row.category .executing next.status = .ok ())

/-- A job takes a status and the provider's id from a receipt, unless it has ended. -/
structure ProjectedJob (job next : JobRow) : Prop where
  rest : next = { job with status := next.status, providerJobId := next.providerJobId }
  ended : jobStatusTransitions job.status = [] → next.status = job.status

theorem ProjectedJob.trans {first second third : JobRow} (one : ProjectedJob first second)
    (two : ProjectedJob second third) : ProjectedJob first third := by
  refine ⟨by rw [two.rest, one.rest], fun ended => ?_⟩
  have same := one.ended ended
  rw [two.ended (by rw [same, ended]), same]

/-- The job belongs to an XDR managed action. -/
def BoundByXdr (db : Db) (jobId : JobId) : Prop :=
  ∃ id row, db.actions.get id = some row ∧ row.executionOwner = some .xdrManaged
    ∧ row.executionJobId = some jobId

/-- Only actions and jobs may change, and only as receipts are projected. -/
structure Projects (before after : Db) : Prop where
  actions : Table.Updates ProjectedAction before.actions after.actions
  jobs : Table.Steps (fun jobId job next => next = job ∨ (ProjectedJob job next
    ∧ BoundByXdr before jobId)) (fun _ _ => False) before.jobs after.jobs
  approvals : after.approvals = before.approvals
  events : after.events = before.events
  reports : after.reports = before.reports
  sources : after.sources = before.sources

theorem validateAction_executing_edge {category : ActionCategory} {target : ActionStatus}
    {evidence : ActionEvidence}
    (accepted : validateActionStatusTransition category .executing target evidence = .ok ()) :
    target ≠ .executing := by
  rintro rfl
  cases category <;> simp [validateActionStatusTransition, actionStatusTransitions,
    responseTransitions, rollbackTransitions, verificationTransitions, systemTransitions,
    requireThat] at accepted

theorem ProjectedAction.refl (row : ActionRow) : ProjectedAction row row := ⟨rfl, .inl rfl⟩

theorem ProjectedAction.trans {first second third : ActionRow}
    (one : ProjectedAction first second) (two : ProjectedAction second third) :
    ProjectedAction first third := by
  refine ⟨by rw [two.rest, one.rest], ?_⟩
  obtain same | ⟨executing, accepted⟩ := one.status
  · have category : second.category = first.category := by rw [one.rest]
    rw [← same, ← category]
    exact two.status
  -- the first projection ended the execution, so the second found nothing to project
  refine .inr ⟨executing, ?_⟩
  obtain same | ⟨still, -⟩ := two.status
  · rw [same]
    exact accepted
  · exact absurd still (validateAction_executing_edge accepted)

theorem Projects.queue (db : Db) (outboxes : Table OutboxId OutboxRow)
    (receipts : Table OutboxId (List Receipt)) : Projects db { db with outboxes, receipts } where
  actions := .refl ProjectedAction.refl
  jobs := .refl fun _ _ => .inl rfl
  approvals := rfl
  events := rfl
  reports := rfl
  sources := rfl

theorem Projects.refl (db : Db) : Projects db db := .queue db db.outboxes db.receipts

theorem BoundByXdr.before {before after : Db}
    (actions : Table.Updates ProjectedAction before.actions after.actions) {jobId : JobId}
    (bound : BoundByXdr after jobId) : BoundByXdr before jobId := by
  obtain ⟨id, _, found, owner, job⟩ := bound
  obtain ⟨first, there, moved⟩ := actions.row_before found
  rw [moved.rest] at owner job
  exact ⟨id, first, there, owner, job⟩

theorem Projects.trans {first second third : Db} (one : Projects first second)
    (two : Projects second third) : Projects first third where
  actions := one.actions.trans two.actions ProjectedAction.trans
  jobs := by
    refine ⟨fun jobId job found => ?_, fun jobId job absent found => ?_⟩
    · obtain ⟨middle, met, moved⟩ := one.jobs.old jobId job found
      obtain ⟨last, final, movedOn⟩ := two.jobs.old jobId middle met
      refine ⟨last, final, ?_⟩
      rcases moved with rfl | ⟨projected, bound⟩
      · exact movedOn.imp_right fun ⟨again, bound⟩ => ⟨again, bound.before one.actions⟩
      refine .inr ⟨?_, bound⟩
      rcases movedOn with rfl | ⟨again, -⟩
      · exact projected
      · exact projected.trans again
    · cases met : second.jobs.get jobId with
      | none => exact two.jobs.new jobId job met found
      | some middle => exact one.jobs.new jobId middle absent met
  approvals := two.approvals.trans one.approvals
  events := two.events.trans one.events
  reports := two.reports.trans one.reports
  sources := two.sources.trans one.sources

/-! ### The mirror -/

/-- The columns of an action that the mirror reads and writes. -/
def mirrorOf (row : ActionRow) : Bool × Option WritebackStatus :=
  (row.writebackApplicable, row.writebackStatus)

/-- What a mirrored status leaves: an action that is not applicable takes none. -/
def mirrored (status : Option WritebackStatus) (columns : Bool × Option WritebackStatus) :
    Bool × Option WritebackStatus :=
  if columns.1 then (true, status.or columns.2) else columns

theorem mirrored_none (columns : Bool × Option WritebackStatus) :
    mirrored none columns = columns := by
  obtain ⟨_ | _, -⟩ := columns
  · rfl
  · rfl

/-- The action has taken the status, if there is one; every other mirror is as it was. -/
def Mirrors (action : ActionId) (status : Option WritebackStatus)
    (before after : Table ActionId ActionRow) : Prop :=
  ∀ id, (after.get id).map mirrorOf
    = (before.get id).map fun row =>
        if id = action then mirrored status (mirrorOf row) else mirrorOf row

def SameMirrors (before after : Table ActionId ActionRow) : Prop :=
  ∀ id, (after.get id).map mirrorOf = (before.get id).map mirrorOf

section Mirrors

variable {action : ActionId} {status : Option WritebackStatus}
  {before middle after : Table ActionId ActionRow}

theorem Mirrors.refl (action : ActionId) (table : Table ActionId ActionRow) :
    Mirrors action none table table := by
  intro _
  congr 1
  funext row
  rw [mirrored_none, ite_self]

theorem Mirrors.trans_same (first : Mirrors action status before middle)
    (second : SameMirrors middle after) : Mirrors action status before after :=
  fun id => (second id).trans (first id)

theorem mirrorWritebackStatus_mirrors (db : Db) (action : ActionId) (status : WritebackStatus) :
    Mirrors action (some status) db.actions (mirrorWritebackStatus db action status).actions := by
  intro id
  simp only [mirrorWritebackStatus]
  rw [Table.get_modify]
  by_cases same : id = action
  · simp only [same]
    cases db.actions.get action with
    | none => rfl
    | some row =>
      by_cases applicable : row.writebackApplicable = true
      all_goals simp [mirrorOf, mirrored, applicable]
  · simp only [same, if_false]

end Mirrors

/-! ### The writes -/

theorem mirrorWritebackStatus_projects (db : Db) (action : ActionId) (status : WritebackStatus) :
    Projects db (mirrorWritebackStatus db action status) := by
  refine { Projects.refl db with
    actions := .modify (fun row _ => ?_) fun _ => ProjectedAction.refl }
  split
  · exact ⟨rfl, .inl rfl⟩
  · exact .refl row

variable {row : ActionRow} {receipt : Receipt} {entityPending : Bool}

theorem projectAction_projected {next : ActionRow}
    (done : projectAction row receipt entityPending = .ok next) :
    ProjectedAction row next ∧ mirrorOf next = mirrorOf row := by
  unfold projectAction applyActionTerminalFromReceipt at done
  split at done
  · cases done
    exact ⟨.refl _, rfl⟩
  split at done
  · cases done
    exact ⟨.refl _, rfl⟩
  rename_i executing
  obtain ⟨⟨⟩, accepted, done⟩ := bind_eq_ok.mp done
  cases done
  simp only [not_or, not_not] at executing
  exact ⟨⟨rfl, .inr ⟨executing.1, accepted⟩⟩, rfl⟩

theorem persistJobFromReceipt_projected {job next : JobRow}
    (done : persistJobFromReceipt job receipt = .ok next) : ProjectedJob job next := by
  unfold persistJobFromReceipt at done
  dsimp only at done
  split at done
  · obtain ⟨⟨⟩, accepted, done⟩ := bind_eq_ok.mp done
    cases done
    refine ⟨rfl, fun ended => ?_⟩
    have edge := validateJobStatusTransition_edge accepted
    rw [ended] at edge
    cases edge
  · rename_i same
    cases done
    exact ⟨rfl, fun _ => not_not.mp same⟩

theorem persistExecutionJobFromReceipt_projects {db after : Db} {id : ActionId}
    (found : db.actions.get id = some row)
    (done : persistExecutionJobFromReceipt db row receipt = .ok after) :
    (∃ jobs, after = { db with jobs }) ∧ Projects db after := by
  unfold persistExecutionJobFromReceipt at done
  split at done
  · cases done
    exact ⟨⟨_, rfl⟩, .refl _⟩
  rename_i managed
  split at done
  · cases done
    exact ⟨⟨_, rfl⟩, .refl _⟩
  rename_i jobId bound
  split at done
  · cases done
    exact ⟨⟨_, rfl⟩, .refl _⟩
  rename_i stored
  obtain ⟨_, moved, done⟩ := bind_eq_ok.mp done
  cases done
  have projected := persistJobFromReceipt_projected moved
  have xdr : BoundByXdr db jobId := ⟨id, row, found, not_not.mp managed, bound⟩
  exact ⟨⟨_, rfl⟩, { Projects.refl db with
    jobs := .set stored (.inr ⟨projected, xdr⟩) fun _ _ => .inl rfl }⟩

theorem projectReceipt_projects {db after : Db} {action : ActionId}
    (done : projectReceipt db action receipt entityPending = .ok after) :
    (∃ actions jobs, after = { db with actions, jobs }) ∧ Projects db after
      ∧ SameMirrors db.actions after.actions := by
  unfold projectReceipt at done
  split at done
  · cases done
    exact ⟨⟨_, _, rfl⟩, .refl _, fun _ => rfl⟩
  rename_i found
  obtain ⟨moved, projected, done⟩ := bind_eq_ok.mp done
  have first : Projects db { db with actions := db.actions.set action moved } :=
    { Projects.refl db with
      actions := .set ProjectedAction.refl found (projectAction_projected projected).1 }
  have there : (db.actions.set action moved).get action = some moved := Table.get_set_self
  obtain ⟨⟨_, rfl⟩, second⟩ := persistExecutionJobFromReceipt_projects there done
  refine ⟨⟨_, _, rfl⟩, first.trans second, fun id => ?_⟩
  rw [Table.get_set]
  split_ifs with same
  · rw [same, found, Option.map_some, Option.map_some, (projectAction_projected projected).2]
  · rfl

end ShadowTrace.Sync
