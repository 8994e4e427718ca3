/-
**Side effects in front of the gate** (`app/services/side_effect_convergence.py`,
`app/services/writeback_close_gate.py`).

The gate reads the actions, jobs and outboxes of an event through two projections.
-/

import ShadowTrace.Lifecycle.TerminalHeads
import ShadowTrace.Models.EventFlow

namespace ShadowTrace.Closure

open Relational

/-! ### Reading the tables -/

section

variable (db : Db) (id : ActionId) (outbox : OutboxRow) (row : ActionRow) (event : EventId)

def loadActiveOutboxes : List (OutboxId × OutboxRow) :=
  db.outboxes.rows.filter fun entry =>
    entry.2.actionId == id && entry.2.supersededByDispositionId.isNone

def currentRevision : Option Nat :=
  ((db.actions.rows.filter fun entry => entry.2.eventId == event).map
    fun entry => entry.2.planRevision).max?

def sideEffecting (category : ActionCategory) : Bool :=
  category == .response || category == .rollback

def sideEffectActions : List (ActionId × ActionRow) :=
  db.actions.rows.filter fun entry => entry.2.eventId == event && sideEffecting entry.2.category

/-! ### The commands of an action -/

def worstUnconfirmedOutboxStatus (outboxes : List (OutboxId × OutboxRow)) :
    Option WritebackStatus :=
  let parsed := (outboxes.filterMap fun entry => entry.2.latestWritebackStatus).filter
    fun status => status != .confirmed
  if parsed.contains .conflict then some .conflict
  else if parsed.contains .failed then some .failed
  else parsed.head?

def closedGateView : ClosedGateActionView :=
  let active := loadActiveOutboxes db id
  { actionId := id
    actionCategory := row.category
    writebackRequired := row.writebackRequired
    writebackApplicable := row.writebackApplicable
    writebackReadiness := row.writebackReadiness
    writebackStatus := row.writebackStatus
    -- superseded outboxes alone are no command
    hasCommand := !active.isEmpty
    allRequiredIntentsConfirmed := !active.isEmpty
      && active.all fun entry => entry.2.latestWritebackStatus == some .confirmed
    worstUnconfirmedOutboxStatus :=
      if active.isEmpty then none else worstUnconfirmedOutboxStatus active
    superseded := row.supersededByRevision.any fun revision => revision != 0
    rejected := row.status == .rejected }

section

variable (revision : Option Nat) (jobs : Table ActionId JobRow)
  (active : List (OutboxId × OutboxRow)) (verification : Option VerificationResult)

/-- The commands of each action. -/
def buildClosedGateActions : List ClosedGateActionView :=
  match revision with
  | none => []
  | some current =>
    ((sideEffectActions db event).filter fun entry =>
        entry.2.planRevision == current && entry.2.supersededByRevision.isNone).map
      fun entry => closedGateView db entry.1 entry.2

/-! ### Outstanding side effects -/

def preferActive (job : JobRow) : Table ActionId JobRow :=
  match jobs.get job.actionId with
  | none => jobs.set job.actionId job
  | some existing =>
    if Execution.activeJob job.status && !Execution.activeJob existing.status then
      jobs.set job.actionId job
    else jobs

def buildJobsByAction (jobs : List JobRow) : Table ActionId JobRow :=
  jobs.foldl preferActive Table.empty

def eventJobs : List JobRow :=
  (db.jobs.rows.map Prod.snd).filter fun job => job.eventId == event

def jobTerminalSuccess (job : Option JobRow) : Bool :=
  job.any fun row => row.status == .success || row.status == .partialSuccess

def resolveConvergencePolicy : SideEffectConvergencePolicy :=
  if row.writebackApplicable then .terminalWriteback
  else if active.any fun entry => entry.2.intentKind == .entityActionSubmit then
    .independentEntityEffect
  else if row.executionOwner == some .xdrManaged && row.writebackRequired
      && row.toolName.hasEntityEffect then .independentEntityEffect
  else .executionJobOnly

def outboxBlocksTerminalWriteback : Option SideEffectConvergenceReason :=
  if outbox.latestWritebackStatus.any fun status => status != .confirmed then
    some .terminalWritebackUnconfirmed
  else if outbox.deliveryStatus ≠ .delivered then some .outboxUndelivered
  else none

def outboxBlocksEntityEffect : Option SideEffectConvergenceReason :=
  if outbox.deliveryStatus ≠ .delivered then some .outboxUndelivered
  else if outbox.latestWritebackStatus.any fun status => status == .failed || status == .conflict
    then some .outboxNotConfirmed
  else none

def policyBlocks (policy : SideEffectConvergencePolicy) (id : ActionId) (job : Option JobRow)
    (active : List (OutboxId × OutboxRow)) (verification : Option VerificationResult) :
    Option SideEffectConvergenceReason :=
  match policy with
  | .executionJobOnly => if jobTerminalSuccess job then none else some .inFlightJob
  | .independentEntityEffect =>
    let submits := active.filter fun entry => entry.2.intentKind == .entityActionSubmit
    if submits.isEmpty then some .outboxUndelivered
    else match submits.findSome? fun entry => outboxBlocksEntityEffect entry.2 with
      | some reason => some reason
      | none =>
        if !jobTerminalSuccess job then some .inFlightJob
        else if !entityEffectVerifiedForAction verification id then some .effectUnverified
        else none
  | .terminalWriteback => active.findSome? fun entry => outboxBlocksTerminalWriteback entry.2

def actionSideEffectBlocks : Option SideEffectConvergenceReason :=
  let job := jobs.get id
  if row.status = .executing then some .executingAction
  else if job.any fun row => Execution.activeJob row.status then some .inFlightJob
  -- an action without an owner waits for an operator, not for a job
  else if row.executionOwner.isNone then none
  else policyBlocks (resolveConvergencePolicy row active) id job active verification

def classifyScope (revision : Nat) (policy : DispositionPolicy) : SideEffectScope :=
  if row.supersededByRevision.isSome then .backgroundDetached
  else if row.planRevision ≠ revision then .backgroundDetached
  else if policy = .notRequired then .backgroundDetached
  else .gateApplicable

/-- The side effects still outstanding. -/
def buildSideEffectConvergenceSummary (policy : DispositionPolicy)
    (verification : Option VerificationResult) : SideEffectConvergenceSummary :=
  match revision with
  | none => ⟨[]⟩
  | some current =>
    let jobs := buildJobsByAction (eventJobs db event)
    ⟨(sideEffectActions db event).filterMap fun entry =>
      if entry.2.status = .rejected then none
      else
        let active := loadActiveOutboxes db entry.1
        (actionSideEffectBlocks entry.1 entry.2 jobs active verification).map fun reason =>
          { actionId := entry.1
            scope := classifyScope entry.2 current policy
            convergencePolicy := resolveConvergencePolicy entry.2 active
            blockingReason := reason }⟩

/-! ### What convergence means -/

/-- The outbox is a command of the action that none has superseded. -/
def ActiveCommand : Prop :=
  ∃ key, db.outboxes.get key = some outbox ∧ outbox.actionId = id
    ∧ outbox.supersededByDispositionId = none

/-- A job of the action has succeeded, at least in part. -/
def Succeeded : Prop :=
  ∃ jobId job, db.jobs.get jobId = some job ∧ job.actionId = id
    ∧ (job.status = .success ∨ job.status = .partialSuccess)

def PolicyMet (id : ActionId) : SideEffectConvergencePolicy → Prop
  | .executionJobOnly => Succeeded db id
  | .independentEntityEffect =>
    (∃ outbox, ActiveCommand db id outbox ∧ outbox.intentKind = .entityActionSubmit)
      ∧ (∀ outbox, ActiveCommand db id outbox → outbox.intentKind = .entityActionSubmit →
        outbox.deliveryStatus = .delivered ∧ outbox.latestWritebackStatus ≠ some .failed
          ∧ outbox.latestWritebackStatus ≠ some .conflict)
      ∧ Succeeded db id ∧ entityEffectVerifiedForAction verification id = true
  | .terminalWriteback => ∀ outbox, ActiveCommand db id outbox →
    outbox.deliveryStatus = .delivered ∧ outbox.latestWritebackStatus = some .confirmed

/-- **The side effect of an action is over.** The action does not execute, none of its jobs is
active, and its policy is met; an action without an owner has never been started. -/
structure Converged (id : ActionId) (row : ActionRow) : Prop where
  finished : row.status ≠ .executing
  idle : ∀ jobId job, db.jobs.get jobId = some job → job.actionId = id →
    Execution.activeJob job.status = false
  met : ∀ owner, row.executionOwner = some owner →
    PolicyMet db verification id (resolveConvergencePolicy row (loadActiveOutboxes db id))
  unstarted : row.executionOwner = none → ∀ jobId job, db.jobs.get jobId = some job →
    job.actionId ≠ id

end

end

/-! ### The summary -/

variable {outbox : OutboxRow}

theorem mem_loadActiveOutboxes {db : Db} {id : ActionId} {key : OutboxId} :
    (key, outbox) ∈ loadActiveOutboxes db id ↔ db.outboxes.get key = some outbox
      ∧ outbox.actionId = id ∧ outbox.supersededByDispositionId = none := by
  simp only [loadActiveOutboxes, List.mem_filter, Table.mem_rows, Bool.and_eq_true, beq_iff_eq,
    Option.isNone_iff_eq_none]

/-- The table has one job for each action, an active one if there is any. -/
def Represents (jobs : List JobRow) (table : Table ActionId JobRow) : Prop :=
  (∀ job ∈ jobs, (table.get job.actionId).isSome = true)
    ∧ ∀ id job, table.get id = some job → job ∈ jobs ∧ job.actionId = id
      ∧ (Execution.activeJob job.status = false → ∀ other ∈ jobs, other.actionId = id →
        Execution.activeJob other.status = false)

variable {jobs : List JobRow} {table : Table ActionId JobRow}

theorem forall_mem_snoc {α : Type} {items : List α} {last : α} {holds : α → Prop} :
    (∀ item ∈ items ++ [last], holds item) ↔ (∀ item ∈ items, holds item) ∧ holds last := by
  rw [List.forall_mem_append, List.forall_mem_singleton]

section

variable (represents : Represents jobs table)

include represents

theorem Represents.set (job : JobRow)
    (free : Execution.activeJob job.status = true ∨ table.get job.actionId = none) :
    Represents (jobs ++ [job]) (table.set job.actionId job) := by
  obtain ⟨covers, holds⟩ := represents
  refine ⟨forall_mem_snoc.mpr ⟨fun other before => ?_, ?_⟩, fun id stored found => ?_⟩
  · rw [Table.get_set]
    split_ifs
    · rfl
    · exact covers other before
  · rw [Table.get_set_self]
    rfl
  rw [Table.get_set] at found
  split_ifs at found with same
  · cases found
    refine ⟨by simp, same.symm, fun inactive => forall_mem_snoc.mpr ⟨?_, fun _ => inactive⟩⟩
    intro other before ofAction
    obtain active | absent := free
    · rw [active] at inactive
      cases inactive
    · have present := covers other before
      rw [ofAction, same, absent] at present
      cases present
  · obtain ⟨mem, ofAction, idle⟩ := holds id stored found
    exact ⟨List.mem_append_left _ mem, ofAction, fun inactive =>
      forall_mem_snoc.mpr ⟨idle inactive, fun ofOther => absurd ofOther.symm same⟩⟩

theorem Represents.keep {job existing : JobRow} (there : table.get job.actionId = some existing)
    (hidden : Execution.activeJob existing.status = false → Execution.activeJob job.status = false)
    : Represents (jobs ++ [job]) table := by
  obtain ⟨covers, holds⟩ := represents
  refine ⟨forall_mem_snoc.mpr ⟨covers, by rw [there]; rfl⟩, fun id stored found => ?_⟩
  obtain ⟨mem, ofAction, idle⟩ := holds id stored found
  refine ⟨List.mem_append_left _ mem, ofAction, fun inactive =>
    forall_mem_snoc.mpr ⟨idle inactive, fun ofOther => ?_⟩⟩
  rw [ofOther, found] at there
  cases there
  exact hidden inactive

theorem preferActive_represents (job : JobRow) :
    Represents (jobs ++ [job]) (preferActive table job) := by
  unfold preferActive
  cases there : table.get job.actionId with
  | none => exact represents.set job (.inr there)
  | some =>
    dsimp only
    split_ifs with takes
    · rw [Bool.and_eq_true] at takes
      exact represents.set job (.inl takes.1)
    · refine represents.keep there fun inactive => ?_
      simpa [inactive] using takes

end

theorem foldl_represents (jobs : List JobRow) {seen : List JobRow}
    (represents : Represents seen table) :
    Represents (seen ++ jobs) (jobs.foldl preferActive table) := by
  induction jobs generalizing seen table with
  | nil => simpa using represents
  | cons job _ ih => simpa using ih (preferActive_represents represents job)

theorem buildJobsByAction_represents (jobs : List JobRow) :
    Represents jobs (buildJobsByAction jobs) := by
  have start : Represents [] (Table.empty : Table ActionId JobRow) := by
    refine ⟨List.forall_mem_nil _, fun id job found => ?_⟩
    cases found
  have all := foldl_represents jobs start
  rwa [List.nil_append] at all

section Blocks

variable {db : Db} {event : EventId} {verification : Option VerificationResult} {id : ActionId}
  {row : ActionRow}

theorem mem_eventJobs {job : JobRow} :
    job ∈ eventJobs db event ↔ (∃ jobId, db.jobs.get jobId = some job) ∧ job.eventId = event := by
  simp only [eventJobs, List.mem_filter, List.mem_map, beq_iff_eq, Prod.exists,
    exists_eq_right, Table.mem_rows]

theorem succeeded_of_job
    (done : jobTerminalSuccess ((buildJobsByAction (eventJobs db event)).get id) = true) :
    Succeeded db id := by
  obtain ⟨job, found, ended⟩ := Option.any_eq_true _ _ |>.mp done
  obtain ⟨mem, ofAction, -⟩ := (buildJobsByAction_represents (eventJobs db event)).2 id job found
  obtain ⟨⟨jobId, stored⟩, -⟩ := mem_eventJobs.mp mem
  exact ⟨jobId, job, stored, ofAction, by simpa using ended⟩

theorem terminalWriteback_met (sound : Sync.Sound (Sync.OutboxRow.state outbox))
    (free : outboxBlocksTerminalWriteback outbox = none) :
    outbox.deliveryStatus = .delivered ∧ outbox.latestWritebackStatus = some .confirmed := by
  unfold outboxBlocksTerminalWriteback at free
  split_ifs at free with unconfirmed undelivered
  have delivered := not_not.mp undelivered
  refine ⟨delivered, ?_⟩
  cases status : outbox.latestWritebackStatus with
  | none => exact absurd status (sound.delivered delivered)
  | some status => simpa [status] using unconfirmed

theorem entityEffect_met (free : outboxBlocksEntityEffect outbox = none) :
    outbox.deliveryStatus = .delivered ∧ outbox.latestWritebackStatus ≠ some .failed
      ∧ outbox.latestWritebackStatus ≠ some .conflict := by
  unfold outboxBlocksEntityEffect at free
  split_ifs at free with undelivered refused
  refine ⟨not_not.mp undelivered, ?_, ?_⟩
  · intro failed
    simp [failed] at refused
  · intro conflict
    simp [conflict] at refused

theorem policyMet_of_free (closable : Lifecycle.Closable db)
    {policy : SideEffectConvergencePolicy}
    (free : policyBlocks policy id ((buildJobsByAction (eventJobs db event)).get id)
      (loadActiveOutboxes db id) verification = none) : PolicyMet db verification id policy := by
  cases policy with
  | executionJobOnly =>
    simp only [policyBlocks] at free
    split_ifs at free with done
    exact succeeded_of_job done
  | independentEntityEffect =>
    simp only [policyBlocks] at free
    split at free
    · cases free
    rename_i missing
    split at free
    · cases free
    rename_i unblocked
    split_ifs at free with unfinished unverified
    rw [List.findSome?_eq_none_iff] at unblocked
    refine ⟨?_, ?_, succeeded_of_job (by simpa using unfinished), by simpa using unverified⟩
    · obtain ⟨key, outbox, active, submit⟩ : ∃ key outbox,
          (key, outbox) ∈ loadActiveOutboxes db id
            ∧ outbox.intentKind = .entityActionSubmit := by simpa using missing
      exact ⟨outbox, ⟨key, mem_loadActiveOutboxes.mp active⟩, submit⟩
    · rintro outbox ⟨key, active⟩ submit
      refine entityEffect_met (unblocked (key, outbox) (List.mem_filter.mpr ⟨?_, ?_⟩))
      · exact mem_loadActiveOutboxes.mpr active
      · exact beq_iff_eq.mpr submit
  | terminalWriteback =>
    rintro outbox ⟨key, active⟩
    have unblocked := List.findSome?_eq_none_iff.mp free (key, outbox)
      (mem_loadActiveOutboxes.mpr active)
    exact terminalWriteback_met (closable.rows key outbox active.1) unblocked

/-- **An action that blocks nothing has converged.** -/
theorem converged_of_free (closable : Lifecycle.Closable db)
    (sound : ∀ jobId job, db.jobs.get jobId = some job → Lifecycle.SoundJob db job)
    (found : db.actions.get id = some row)
    (free : actionSideEffectBlocks id row (buildJobsByAction (eventJobs db row.eventId))
      (loadActiveOutboxes db id) verification = none) : Converged db verification id row := by
  have represents := buildJobsByAction_represents (eventJobs db row.eventId)
  -- a job of the action is a job of its event, so the table knows it
  have known : ∀ {jobId : JobId} {job : JobRow}, db.jobs.get jobId = some job →
      job.actionId = id → job ∈ eventJobs db row.eventId := by
    intro jobId job stored ofAction
    obtain ⟨_, there, event⟩ := closable.jobs jobId job stored
    rw [ofAction, found] at there
    cases there
    exact mem_eventJobs.mpr ⟨⟨jobId, stored⟩, event.symm⟩
  have idle : ((buildJobsByAction (eventJobs db row.eventId)).get id).any
      (fun job => Execution.activeJob job.status) = false → ∀ jobId job,
      db.jobs.get jobId = some job → job.actionId = id →
        Execution.activeJob job.status = false := by
    intro quiet _ job stored ofAction
    have mem := known stored ofAction
    obtain ⟨shown, there⟩ := Option.isSome_iff_exists.mp (represents.1 job mem)
    rw [ofAction] at there
    rw [there] at quiet
    exact (represents.2 id shown there).2.2 quiet job mem ofAction
  simp only [actionSideEffectBlocks] at free
  split_ifs at free with executing active ownerless
  · refine ⟨executing, idle (by simpa using active), fun owner owned => ?_, ?_⟩
    · rw [owned] at ownerless
      cases ownerless
    · intro absent jobId job stored ofAction
      obtain ⟨_, _, there, owned, -⟩ := sound jobId job stored
      rw [ofAction, found] at there
      cases there
      rw [absent] at owned
      cases owned
  · refine ⟨executing, idle (by simpa using active), ?_, fun absent => ?_⟩
    · exact fun _ _ => policyMet_of_free closable free
    · rw [absent] at ownerless
      exact absurd rfl ownerless

/-- **A summary that lets a required event close** means that every side effect of the current
revision, superseded and rejected actions aside, is over. -/
theorem summary_converged (closable : Lifecycle.Closable db)
    (sound : ∀ jobId job, db.jobs.get jobId = some job → Lifecycle.SoundJob db job)
    {current : Nat}
    (clear : ∀ view ∈ (buildSideEffectConvergenceSummary db event (some current) .required
      verification).outstandingActions, view.scope ≠ .gateApplicable)
    (found : db.actions.get id = some row) (ofEvent : row.eventId = event)
    (category : sideEffecting row.category = true) (revision : row.planRevision = current)
    (standing : row.supersededByRevision = none) (wanted : row.status ≠ .rejected) :
    Converged db verification id row := by
  subst ofEvent revision
  refine converged_of_free closable sound found ?_
  by_contra blocked
  obtain ⟨reason, blocks⟩ := Option.ne_none_iff_exists'.mp blocked
  have mem : (id, row) ∈ sideEffectActions db row.eventId :=
    List.mem_filter.mpr ⟨Table.mem_rows.mpr found, by simpa using category⟩
  let view : OutstandingSideEffectView :=
    { actionId := id
      scope := .gateApplicable
      convergencePolicy := resolveConvergencePolicy row (loadActiveOutboxes db id)
      blockingReason := reason }
  refine clear view (List.mem_filterMap.mpr ⟨(id, row), mem, ?_⟩) rfl
  rw [if_neg wanted]
  simp [blocks, classifyScope, standing, view]

end Blocks

end ShadowTrace.Closure
