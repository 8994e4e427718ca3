/-
**No blind re-send.**

Between two submits of one outbox there should be a lookup that reported the earlier request as
never accepted (or as failed, where the adapter allows a safe retry). The argument is a monitor on
the adapter calls (`pending`): a row that somebody may still send has nothing pending.

This holds as long as a delivery attempt that *raises after its submit* leaves the row where no
worker picks it up. A leased row stays leased until it is marked, or expires into `paused`. A row
delivered straight from the queue is put back by the rollback, and the helper that should pause it
is refused by the delivery table (`pauseAfterUnknownSubmission_queued`).
-/

import ShadowTrace.Lib.Traces
import ShadowTrace.Sync.Safety

namespace ShadowTrace.Sync

open Relational Fallible Machine

/-! ### The monitor -/

def submits (id : OutboxId) (call : AdapterCall) : Bool := call == .submit id

def permits (id : OutboxId) : AdapterCall → Bool
  | .submit _ => false
  | .lookup outbox answer safeRetry => outbox == id && clears answer safeRetry

/-- **No blind re-send**: between any two submits of an outbox there is a permission. -/
def NoBlindResend (calls : List AdapterCall) : Prop :=
  ∀ id, Trace.Separated (submits id · = true) (permits id · = true) calls

/-- The monitor: a submit that no lookup has cleared. -/
def pending (w : World) (id : OutboxId) : Bool :=
  Trace.outstanding (submits id) (permits id) w.calls

/-! ### The condition -/

/-- The validators let action and job follow the receipt. -/
def ProjectionLegal (db : Db) (row : OutboxRow) (receipt : Receipt) : Prop :=
  ∀ action, db.actions.get row.actionId = some action →
    (action.status = .executing → receipt.status ≠ .accepted →
      validateActionStatusTransition action.category .executing
        (terminalFromReceipt receipt.status) = .ok ()) ∧
    ∀ jobId job, action.executionOwner = some .xdrManaged → action.executionJobId = some jobId →
      db.jobs.get jobId = some job → mappedJobStatus job.status receipt ≠ job.status →
        validateJobStatusTransition job.status (mappedJobStatus job.status receipt)
          (receipt.status == .confirmed) = .ok ()

/-- The adapter gives a definite answer, and nothing keeps the service from recording it. -/
def Definite (db : Db) (row : OutboxRow) (env : DeliveryEnv) : Prop :=
  ∃ submitted, env.submit = .receipt submitted ∧ env.lateError = none ∧
    (finalReceipt row env submitted).status ≠ .unknown ∧
    ProjectionLegal db row (finalReceipt row env submitted)

/-- A queued row is delivered with a definite answer. -/
def QueuedDefinite (db : Db) (id : OutboxId) (env : DeliveryEnv) : Prop :=
  ∀ row, db.outboxes.get id = some row →
    (row.deliveryStatus = .ready ∨ row.deliveryStatus = .waitingRetry) → Definite db row env

/-- **The condition on a step**: whoever delivers a row that is not leased gets a definite answer,
and a direct delivery does not meet a lease under its own name. -/
def Disciplined (w : World) : Op → Prop
  | .deliverDirect id worker _ env =>
    QueuedDefinite w.db id env ∧
      ∀ row, w.db.outboxes.get id = some row → row.deliveryStatus = .leased →
        row.lockedBy ≠ some (.worker worker)
  | .deliverClaimed p _ env =>
    match w.memory p with
    | .delivering (id :: _) => QueuedDefinite w.db id env
    | _ => True
  | _ => True

/-! ### A definite answer is recorded -/

theorem mirrorWritebackStatus_get (db : Db) (id : ActionId) (status : WritebackStatus) :
    (mirrorWritebackStatus db id status).actions.get id
      = (db.actions.get id).map fun row =>
          if row.writebackApplicable then { row with writebackStatus := some status } else row := by
  simp only [mirrorWritebackStatus, Table.get_modify, if_true]

variable {receipt : Receipt}

theorem projectAction_ok {action : ActionRow} (entityPending : Bool)
    (legal : action.status = .executing → receipt.status ≠ .accepted →
      validateActionStatusTransition action.category .executing
        (terminalFromReceipt receipt.status) = .ok ()) :
    ∃ written, projectAction action receipt entityPending = .ok written ∧
      written.executionOwner = action.executionOwner ∧
      written.executionJobId = action.executionJobId := by
  unfold projectAction applyActionTerminalFromReceipt
  split
  · exact ⟨action, rfl, rfl, rfl⟩
  split
  · exact ⟨action, rfl, rfl, rfl⟩
  rename_i moves
  simp only [not_or, not_not] at moves
  refine ⟨{ action with status := terminalFromReceipt receipt.status }, ?_, rfl, rfl⟩
  simp only [legal moves.1 moves.2]
  rfl

variable {db : Db} {row : OutboxRow}

theorem persistExecutionJobFromReceipt_ok {stored : Db} {action written : ActionRow}
    (legal : ProjectionLegal db row receipt) (found : db.actions.get row.actionId = some action)
    (jobs : stored.jobs = db.jobs) (owner : written.executionOwner = action.executionOwner)
    (bound : written.executionJobId = action.executionJobId) :
    ∃ after, persistExecutionJobFromReceipt stored written receipt = .ok after := by
  unfold persistExecutionJobFromReceipt persistJobFromReceipt
  rw [owner, bound, jobs]
  split
  · exact ⟨stored, rfl⟩
  rename_i managed
  split
  · exact ⟨stored, rfl⟩
  rename_i jobId bounded
  split
  · exact ⟨stored, rfl⟩
  rename_i job there
  have follows := (legal action found).2 jobId job (not_not.mp managed) bounded there
  by_cases same : mappedJobStatus job.status receipt ≠ job.status
  · exact ⟨_, by simp only [if_pos same, follows same]; rfl⟩
  · exact ⟨_, by simp only [if_neg same]; rfl⟩

theorem applyReceiptExecutionProjection_ok (stored : Db) (row : OutboxRow)
    (actions : stored.actions = db.actions) (jobs : stored.jobs = db.jobs)
    (legal : ProjectionLegal db row receipt) : ∃ after, applyReceiptExecutionProjection
      (mirrorWritebackStatus stored row.actionId receipt.status) row receipt = .ok after := by
  unfold applyReceiptExecutionProjection projectReceipt
  rw [mirrorWritebackStatus_get, actions]
  cases found : db.actions.get row.actionId with
  | none => exact ⟨_, rfl⟩
  | some action =>
    have moves := (legal action found).1
    set mirrored := if action.writebackApplicable then
      { action with writebackStatus := some receipt.status } else action with isMirrored
    obtain ⟨status, category, owner, bound⟩ : mirrored.status = action.status
        ∧ mirrored.category = action.category ∧ mirrored.executionOwner = action.executionOwner
        ∧ mirrored.executionJobId = action.executionJobId := by
      rw [isMirrored]
      split <;> exact ⟨rfl, rfl, rfl, rfl⟩
    rw [← status, ← category] at moves
    obtain ⟨written, projected, owner', bound'⟩ := projectAction_ok
      (row.intentKind == .entityActionSubmit && receipt.status == .accepted
        && mirrored.executionJobId.isSome) moves
    simp only [Option.map_some, Option.any_some, ← isMirrored, projected]
    exact persistExecutionJobFromReceipt_ok legal found jobs (owner'.trans owner)
      (bound'.trans bound)

theorem deliverSubmit_definite (id : OutboxId) {env : DeliveryEnv}
    (definite : Definite db row env) :
    ∃ after, deliverSubmit db id row env = .ok after := by
  obtain ⟨submitted, answered, intime, known, legal⟩ := definite
  set receipt := finalReceipt row env submitted with isReceipt
  obtain ⟨_, appended, -⟩ :=
    foldl_appendReceipt_eq (submissionReceipts row env submitted) db id
  set recorded := (submissionReceipts row env submitted).foldl
    (fun stored => appendReceipt stored id) db with isRecorded
  have written : submittedRow row receipt
      = .ok { withStatus row receipt.status with deliveryStatus := .delivered } := by
    unfold submittedRow
    rw [if_neg known]
  set written' := { withStatus row receipt.status with deliveryStatus := .delivered }
  obtain ⟨after, projected⟩ := applyReceiptExecutionProjection_ok
    { recorded with outboxes := recorded.outboxes.set id written' } row
    (by rw [appended]) (by rw [appended]) legal
  have recording : recordSubmission db id row env submitted = .ok after := by
    simp only [recordSubmission, ← isReceipt, written]
    exact projected
  refine ⟨after, ?_⟩
  simp only [deliverSubmit, answered, recording, intime]
  rfl

/-! ### The invariant -/

def WorkerMemory.queue : WorkerMemory → List OutboxId
  | .idle => []
  | .delivering queue => queue
  | .marking _ _ queue => queue

/-- The invariant: no row that can be sent has an open submit. -/
structure Safe (name : ProcId → WorkerId) (w : World) : Prop where
  separated : NoBlindResend w.calls
  absent : ∀ id, w.db.outboxes.get id = none → pending w id = false
  queued : ∀ id row, w.db.outboxes.get id = some row →
    (row.deliveryStatus = .ready ∨ row.deliveryStatus = .waitingRetry) → pending w id = false
  leased : ∀ p id row, id ∈ (w.memory p).queue → w.db.outboxes.get id = some row →
    row.deliveryStatus = .leased → row.lockedBy = some (.worker (name p)) →
    pending w id = false
  nodup : ∀ p, (w.memory p).queue.Nodup
  /-- Nor has a row whose token belongs to a lookup that found nothing. -/
  cleared : ∀ token claim row, w.claims.get token = some claim →
    claim.outcome = some .notFound → w.db.outboxes.get claim.outboxId = some row →
    Held row token → pending w claim.outboxId = false

theorem safe_initial (name : ProcId → WorkerId) (tables : Foreign) :
    Safe name (World.initial tables) where
  separated _ := Trace.separated_nil
  absent _ _ := rfl
  queued _ _ _ _ := rfl
  leased _ _ _ _ _ _ _ := rfl
  nodup _ := List.nodup_nil
  cleared _ _ _ _ _ _ _ := rfl

/-- The calls stay separated, and no submit is opened. -/
structure Unsent (before after : World) : Prop where
  separated : NoBlindResend before.calls → NoBlindResend after.calls
  lowers : ∀ id, pending before id = false → pending after id = false

variable {before after : World}

theorem unsent_of_calls (same : after.calls = before.calls) : Unsent before after :=
  ⟨fun separated => by rw [same]; exact separated, fun id low => by
    rw [pending, same]
    exact low⟩

theorem unsent_of_lookups {made : List AdapterCall} (grown : after.calls = before.calls ++ made)
    (lookups : ∀ id, .submit id ∉ made) : Unsent before after := by
  have noSubmit : ∀ id, ∀ call ∈ made, submits id call = false := by
    intro id _ mem
    rw [submits, beq_eq_false_iff_ne]
    rintro rfl
    exact lookups id mem
  refine ⟨fun separated id => ?_, fun id low => ?_⟩
  · rw [grown]
    exact (separated id).append_quiet (noSubmit id)
  · rw [pending, grown]
    exact Trace.outstanding_append_quiet low (noSubmit id)

/-- No worker can send the row. -/
structure OutOfReach (name : ProcId → WorkerId) (w : World) (id : OutboxId)
    (row : OutboxRow) : Prop where
  unqueued : ¬ (row.deliveryStatus = .ready ∨ row.deliveryStatus = .waitingRetry)
  unleased : ∀ p, id ∈ (w.memory p).queue → row.deliveryStatus = .leased →
    row.lockedBy ≠ some (.worker (name p))
  unheld : ∀ token, ¬ Held row token

section Frame

variable {name : ProcId → WorkerId} {before after : World} {op : Op}

/-- Every row after the step has nothing pending, or comes from a row before it without getting
sendable or held, but for the tokens handed out now. -/
def QuietRows (fresh : Nat → Prop) (before after : World) : Prop :=
  Table.Steps
    (fun id row next => pending after id = false
      ∨ StillStep row next ∧ ∀ token, Held next token → Held row token ∨ fresh token)
    (fun id _ => pending after id = false) before.db.outboxes after.db.outboxes

section

variable {fresh : Nat → Prop} (safe : Safe name before) (quiet : QuietRows fresh before after)
  (queues : ∀ p id, id ∈ (after.memory p).queue →
    id ∈ (before.memory p).queue ∨ pending after id = false)
  (nodup : ∀ p, (after.memory p).queue.Nodup)
  (claims : ∀ token claim, after.claims.get token = some claim → claim.outcome = some .notFound →
    pending after claim.outboxId = false ∨ (¬ fresh token ∧ ∃ old,
      before.claims.get token = some old ∧ old.outcome = claim.outcome
        ∧ old.outboxId = claim.outboxId))
include safe quiet queues nodup claims

/-- **The frame rule.** A step that makes no pending row sendable and adds no pending row to a
batch keeps the invariant, if its claims do and what it submits gets out of reach. -/
theorem Safe.move (separated : NoBlindResend after.calls)
    (lowers : ∀ id, pending before id = false → pending after id = false
      ∨ ∃ row, after.db.outboxes.get id = some row ∧ OutOfReach name after id row) :
    Safe name after := by
  have lower : ∀ {id next}, after.db.outboxes.get id = some next →
      ¬ OutOfReach name after id next → pending before id = false → pending after id = false := by
    intro id next found reachable low
    obtain low | ⟨_, stored, out⟩ := lowers id low
    · exact low
    · obtain rfl := Option.mem_unique found stored
      exact absurd out reachable
  refine ⟨separated, fun id absent => ?_, fun id next found queued => ?_,
    fun p id next mem found leased mine => ?_, nodup,
    fun token claim next open_ absent found held => ?_⟩
  · obtain low | ⟨_, stored, -⟩ := lowers id (safe.absent id (quiet.absent_before absent))
    · exact low
    · rw [absent] at stored
      cases stored
  · rcases quiet.row_after found with ⟨row, there, low | ⟨step, -⟩⟩ | ⟨-, low⟩
    · exact low
    · have sendable : Sendable next.deliveryStatus := by
        rcases queued with status | status <;> rw [status] <;> simp [Sendable]
      refine lower found (fun out => out.unqueued queued) (safe.queued id row there ?_)
      rw [← (step.still sendable).1]
      exact queued
    · exact low
  · rcases quiet.row_after found with ⟨row, there, low | ⟨step, -⟩⟩ | ⟨-, low⟩
    · exact low
    · rcases queues p id mem with earlier | low
      · obtain ⟨same, lock⟩ := step.still (by rw [leased]; simp [Sendable])
        refine lower found (fun out => out.unleased p mem leased mine)
          (safe.leased p id row earlier there ?_ ?_)
        · rw [← same]
          exact leased
        · rw [← lock]
          exact mine
      · exact low
    · exact low
  · rcases claims token claim open_ absent with low | ⟨known, old, opened, outcome, outbox⟩
    · exact low
    rcases quiet.row_after found with ⟨row, there, low | ⟨-, tokens⟩⟩ | ⟨-, low⟩
    · exact low
    · have earlier : Held row token := (tokens token held).resolve_right known
      rw [← outbox] at there found ⊢
      rw [← outcome] at absent
      exact lower found (fun out => out.unheld token held)
        (safe.cleared token old row opened absent there earlier)
    · exact low

theorem Safe.frame (unsent : Unsent before after) : Safe name after :=
  safe.move quiet queues nodup claims (unsent.separated safe.separated)
    fun id low => .inl (unsent.lowers id low)

end

/-- The frame rule for a step that only takes rows out of the batches. -/
theorem Safe.shrinks {fresh : Nat → Prop} (safe : Safe name before)
    (quiet : QuietRows fresh before after) (known : ∀ token, ¬ fresh token)
    (queues : ∀ p, (after.memory p).queue.Sublist (before.memory p).queue)
    (claims : after.claims = before.claims) (separated : NoBlindResend after.calls)
    (lowers : ∀ id, pending before id = false → pending after id = false
      ∨ ∃ row, after.db.outboxes.get id = some row ∧ OutOfReach name after id row) :
    Safe name after := by
  refine safe.move quiet (fun p id mem => .inl ((queues p).subset mem))
    (fun p => (safe.nodup p).sublist (queues p)) (fun token claim open_ _ => ?_)
    separated lowers
  rw [claims] at open_
  exact .inr ⟨known token, claim, open_, rfl, rfl⟩

theorem QuietRows.of_steps (rows : Table.Steps (fun _ => QuietStep)
    (fun id _ => pending after id = false) before.db.outboxes after.db.outboxes) :
    QuietRows (fun _ => False) before after :=
  rows.mono (fun _ _ _ step => .inr ⟨step.toStillStep, fun token held =>
    .inl (step.held token held)⟩) fun _ _ low => low

theorem QuietRows.of_eq (same : after.db = before.db) : QuietRows (fun _ => False) before after :=
  .of_steps (.of_eq (congrArg Db.outboxes same) fun _ => QuietStep.refl)

def freshToken (w : World) : Op → Nat → Prop
  | .claimPaused _ _ true, token => token = w.nextToken
  | _, _ => False

def asked (w : World) : Op → List AdapterCall
  | .retry id replay env _ => retryCalls w.db id replay env
  | _ => []

theorem unsent_of_asked (calls : after.calls = before.calls ++ asked before op) :
    Unsent before after := by
  refine unsent_of_lookups calls fun id mem => ?_
  cases op with
  | retry =>
    rw [asked, retryCalls] at mem
    split at mem
    · cases mem
    · split at mem <;> simp at mem
  | _ => cases mem

/-- **The writes of the service.** What they hand out has nothing pending: a queued row, or one that
a lookup has cleared. -/
theorem Safe.rows {ids : List OutboxId} (safe : Safe name before)
    (chain : Chain before op ids before.db after.db)
    (calls : after.calls = before.calls ++ asked before op) :
    QuietRows (freshToken before op) before after := by
  have unsent := unsent_of_asked calls
  refine Table.Steps.mono_born (fun _ _ => False.elim) (chain.steps ?_ ?_)
  · exact fun _ row => .inr ⟨StillStep.refl row, fun _ => .inl⟩
  intro id row _ _ found commit
  obtain quiet | hands := commit.step.2
  · exact .inr ⟨quiet.toStillStep, fun token held => .inl (quiet.held token held)⟩
  cases hands with
  | leased _ queued => exact .inl (unsent.lowers id (safe.queued id row found queued))
  | tokened claims paused =>
    subst claims
    refine .inr ⟨still_of_paused (.of_state_eq rfl rfl) paused, fun token held => .inr ?_⟩
    exact (LockHolder.reconcile.inj (Option.some.inj held.2)).symm
  | requeued applies =>
    obtain ⟨token, _, claim, -, opened, rfl, absent, held⟩ := applies
    exact .inl (unsent.lowers _ (safe.cleared token claim row opened absent found held))
  | retried retries lookup cleared =>
    subst retries
    rw [pending, calls, asked, lookup, Trace.outstanding_append_single]
    simp [submits, permits, cleared]

theorem Safe.quiet (safe : Safe name before) (unsent : Unsent before after)
    (quiet : QuietRows (fun _ => False) before after) (workers : after.workers = before.workers)
    (claims : after.claims = before.claims) : Safe name after := by
  refine safe.shrinks quiet (fun _ => not_false) (fun p => ?_) claims
    (unsent.separated safe.separated) fun id low => .inl (unsent.lowers id low)
  rw [World.memory, workers]
  exact List.Sublist.refl _

theorem Safe.commits {ids : List OutboxId} (safe : Safe name before)
    (chain : Chain before op ids before.db after.db)
    (calls : after.calls = before.calls ++ asked before op)
    (known : freshToken before op = fun _ => False) (workers : after.workers = before.workers)
    (claims : after.claims = before.claims) : Safe name after :=
  safe.quiet (unsent_of_asked calls) (known ▸ safe.rows chain calls) workers claims

end Frame

/-! ### Deliveries -/

theorem pending_submit_other {id other : OutboxId}
    (sent : after.calls = before.calls ++ [.submit id]) (ne : other ≠ id) :
    pending after other = pending before other := by
  rw [pending, sent, Trace.outstanding_append_single]
  have notThis : submits other (.submit id) = false := by
    rw [submits, beq_eq_false_iff_ne]
    intro same
    exact ne (AdapterCall.submit.inj same).symm
  simp [notThis, permits, pending]

theorem noBlindResend_submit {id : OutboxId} (separated : NoBlindResend before.calls)
    (sent : after.calls = before.calls ++ [.submit id]) (low : pending before id = false) :
    NoBlindResend after.calls := by
  intro other
  rw [sent]
  refine (separated other).append fun sends => ?_
  have same : other = id := by
    have equal : AdapterCall.submit id = .submit other := by simpa [submits] using sends
    exact (AdapterCall.submit.inj equal).symm
  rw [same]
  exact low

section Deliver

variable {name : ProcId → WorkerId} {before after : World} {id : OutboxId}

/-- **A delivery keeps the invariant** if the row it submits has nothing pending, an answer it gets
straight from the queue is definite, and the row leaves the batch of whoever delivers it. -/
theorem Safe.deliver {worker : WorkerId} {now : Time} {env : DeliveryEnv} (safe : Safe name before)
    (low : ∀ row, before.db.outboxes.get id = some row →
      Deliverable before.db id row worker now → pending before id = false)
    (definite : QueuedDefinite before.db id env)
    (db : after.db = (deliverOutbox before.db id worker now env).settle before.db)
    (calls : after.calls = before.calls ++ (deliverOutbox before.db id worker now env).calls)
    (queues : ∀ p, ((after.memory p).queue).Sublist (before.memory p).queue)
    (left : ∀ row, before.db.outboxes.get id = some row → row.deliveryStatus = .leased →
      row.lockedBy = some (.worker worker) →
      ∀ p, name p = worker → id ∉ (after.memory p).queue)
    (claims : after.claims = before.claims) : Safe name after := by
  have rows : Table.Updates QuietStep before.db.outboxes after.db.outboxes := by
    rw [db]
    obtain ⟨ids, chain⟩ : Chained before (.deliverDirect id worker now env) before.db _ :=
      settle_chain (.inl ⟨worker, rfl⟩)
    refine chain.steps (fun _ => QuietStep.refl) fun _ commit => ?_
    refine commit.step.2.resolve_right fun hands => ?_
    cases hands with
    | leased claims | tokened claims | retried claims => cases claims
    | requeued applies =>
      obtain ⟨_, _, _, other, -⟩ := applies
      cases other
  have moved := safe.shrinks (.of_steps (rows.mono_born fun _ _ => False.elim))
    (fun _ => not_false) queues claims
  rcases deliverOutbox_calls before.db id worker now env with
    silent | ⟨sends, row, found, deliverable, outcome⟩
  · rw [silent, List.append_nil] at calls
    have unsent := unsent_of_calls calls
    exact moved (unsent.separated safe.separated) fun other low => .inl (unsent.lowers other low)
  rw [sends] at calls
  refine moved (noBlindResend_submit safe.separated calls (low row found deliverable))
    fun other lower => ?_
  obtain ne | rfl := ne_or_eq other id
  · exact .inl ((pending_submit_other calls ne).trans lower)
  right
  cases result : deliverSubmit before.db other row env with
  | ok =>
    obtain ⟨_, written, _, _, -, wrote, -, projected⟩ := deliverSubmit_eq_ok result
    obtain ⟨⟨_, _, rfl⟩, -⟩ := projectReceipt_projects projected
    have unsendable := (submittedRow_quiet deliverable wrote).2
    have stored : after.db.outboxes.get other = some written := by
      rw [db, Tx.settle, outcome, result]
      exact Table.get_set_self
    refine ⟨written, stored, ⟨fun queued => unsendable ?_,
      fun p mem leased => absurd ?_ unsendable, fun token held => ?_⟩⟩
    · rcases queued with status | status <;> rw [status] <;> simp [Sendable]
    · rw [leased]
      simp [Sendable]
    obtain ⟨_, there, step⟩ := rows.row_before stored
    obtain rfl := Option.mem_unique found there
    have paused := (step.held token held).1
    rcases deliverable.open_ with status | status | ⟨status, -⟩ <;> rw [status] at paused <;>
      cases paused
  | error =>
    -- rolled back: the row was leased, because a queued row would have got a definite answer
    have same : after.db = before.db := by rw [db, Tx.settle, outcome, result]
    have notQueued : ¬ (row.deliveryStatus = .ready ∨ row.deliveryStatus = .waitingRetry) := by
      intro queued
      obtain ⟨settled, recorded⟩ := deliverSubmit_definite other (definite row found queued)
      rw [result] at recorded
      cases recorded
    have leased : row.deliveryStatus = .leased ∧ row.lockedBy = some (.worker worker) := by
      rcases deliverable.open_ with status | status | ⟨status, mine, -⟩
      · exact absurd (.inl status) notQueued
      · exact absurd (.inr status) notQueued
      · exact ⟨status, mine⟩
    refine ⟨row, by rw [same]; exact found, ⟨notQueued, fun p mem _ mine => ?_,
      fun token held => ?_⟩⟩
    · rw [leased.2] at mine
      have names : worker = name p := LockHolder.worker.inj (Option.some.inj mine)
      exact left row found leased.1 leased.2 p names.symm mem
    · have paused := held.1
      rw [leased.1] at paused
      cases paused

end Deliver

/-! ### The other operations -/

section

variable {name : ProcId → WorkerId} {w : World}

theorem memory_set (workers : Table ProcId WorkerMemory) (p other : ProcId)
    (memory : WorkerMemory) :
    ((workers.set p memory).get other).getD .idle
      = if other = p then memory else (workers.get other).getD .idle := by
  rw [Table.get_set]
  split <;> rfl

section

variable (safe : Safe name w)

include safe

theorem Safe.enqueue (args : EnqueueArgs) : Safe name (step name w (.enqueue args)) := by
  simp only [step]
  cases outcome : enqueueCommand w.db args with
  | error => exact safe
  | ok =>
    have effect := (enqueueCommand_effect outcome).1
    refine safe.quiet (unsent_of_calls rfl) (.of_steps ?_) rfl rfl
    exact ⟨effect.steps.old, fun other row absent _ => safe.absent other absent⟩

theorem Safe.claim (p : ProcId) (now : Time) (backoff : Nat) (ids : List OutboxId) :
    Safe name (stepClaim name w p now backoff ids) := by
  rcases stepClaim_cases name w p now backoff ids with idle | ⟨db, claimed, outcome, taken⟩
  · rw [idle]
    exact safe
  rw [taken]
  obtain ⟨⟨_, -, chain⟩, queued, sublist⟩ :=
    claimBatch_claimed (rfl : Op.claim p now backoff ids = _) outcome
  refine safe.frame (safe.rows chain (List.append_nil _).symm)
    (fun other id mem => ?_) (fun other => ?_)
    (fun token claim open_ _ => .inr ⟨not_false, claim, open_, rfl, rfl⟩) (unsent_of_calls rfl)
  · rw [World.memory, memory_set] at mem
    split_ifs at mem with mine
    · obtain ⟨row, found, was⟩ := queued id mem
      exact .inr (safe.queued id row found was)
    · exact .inl mem
  · rw [World.memory, memory_set]
    split_ifs with mine
    · exact sublist.nodup (List.nodup_dedup ids)
    · exact safe.nodup other

theorem Safe.low {id : OutboxId} {worker : WorkerId} {now : Time}
    (found : w.db.outboxes.get id = some row)
    (deliverable : Deliverable w.db id row worker now)
    (leased : row.deliveryStatus = .leased → row.lockedBy = some (.worker worker) → pending w
      id = false) : pending w id = false := by
  rcases deliverable.open_ with status | status | ⟨status, mine, -⟩
  · exact safe.queued id row found (.inl status)
  · exact safe.queued id row found (.inr status)
  · exact leased status mine

theorem Safe.deliverClaimed (distinct : Function.Injective name) (p : ProcId) (now : Time)
    (env : DeliveryEnv) (disciplined : Disciplined w (.deliverClaimed p now env)) :
    Safe name (stepDeliverClaimed name w p now env) := by
  unfold stepDeliverClaimed
  split
  · rename_i id queue holds
    simp only [Disciplined, holds] at disciplined
    have batch : (w.memory p).queue = id :: queue := by rw [holds]; rfl
    obtain ⟨absent, -⟩ := List.nodup_cons.mp (batch ▸ safe.nodup p)
    have memory : ∀ result, (afterDelivery id queue result).queue = queue := by
      intro result
      cases result <;> rfl
    refine safe.deliver (fun row found deliverable => safe.low found deliverable ?_) disciplined
      rfl rfl (fun other => ?_) (fun _ _ _ _ other same => ?_) rfl
    · exact safe.leased p id row (by rw [batch]; exact List.mem_cons_self) found
    · rw [World.memory, memory_set]
      split_ifs with mine
      · rw [memory, mine, batch]
        exact List.sublist_cons_self id queue
      · exact List.Sublist.refl _
    · obtain rfl := distinct same
      rw [World.memory, memory_set, if_pos rfl, memory]
      exact absent
  · exact safe

theorem Safe.deliverDirect (id : OutboxId) (worker : WorkerId) (now : Time) (env : DeliveryEnv)
    (disciplined : Disciplined w (.deliverDirect id worker now env)) :
    Safe name (step name w (.deliverDirect id worker now env)) := by
  obtain ⟨definite, foreign⟩ := disciplined
  refine safe.deliver (fun row found deliverable => safe.low found deliverable ?_) definite rfl rfl
    (fun other => List.Sublist.refl _) (fun row found leased mine => ?_) rfl
  · exact fun leased mine => absurd mine (foreign row found leased)
  · exact absurd mine (foreign row found leased)

theorem Safe.shrink {p : ProcId} {memory : WorkerMemory} {fresh : Nat → Prop}
    (rows : QuietRows fresh w { w with db, workers := w.workers.set p memory })
    (known : ∀ token, ¬ fresh token) (shorter : memory.queue.Sublist (w.memory p).queue) :
    Safe name { w with db, workers := w.workers.set p memory } := by
  refine safe.shrinks rows known (fun other => ?_) rfl safe.separated fun _ => .inl
  rw [World.memory, memory_set]
  split_ifs with mine
  · rw [mine]
    exact shorter
  · exact List.Sublist.refl _

theorem Safe.mark (p : ProcId) : Safe name (stepMark w p) := by
  unfold stepMark
  split
  · rename_i queue holds
    split
    · rename_i marked
      obtain ⟨ids, chain⟩ : Chained w (.mark p) w.db _ := markDelivery_chain rfl holds marked
      refine safe.shrink (safe.rows chain (List.append_nil _).symm) (fun _ => not_false) ?_
      rw [holds]
      exact List.Sublist.refl queue
    · exact safe.shrink (.of_eq rfl) (fun _ => not_false) (List.nil_sublist _)
  · exact safe

theorem Safe.claimPaused (id : OutboxId) (now : Time) (valid : Bool) :
    Safe name (stepClaimPaused w id now valid) := by
  unfold stepClaimPaused
  split
  · exact safe
  rename_i found
  split
  · rename_i free
    obtain ⟨ids, chain⟩ := claimPaused_chain found free valid
    cases valid with
    | false => exact safe.commits chain (List.append_nil _).symm rfl rfl rfl
    | true =>
      simp only [Sync.claimPaused, ↓reduceIte] at chain ⊢
      refine safe.frame (safe.rows chain (List.append_nil _).symm) (fun _ _ => .inl) safe.nodup
        (fun token claim open_ absent => ?_) (unsent_of_calls rfl)
      rw [Table.get_set] at open_
      split_ifs at open_ with new
      · cases open_
        cases absent
      · exact .inr ⟨new, claim, open_, rfl, rfl⟩
  · exact safe

theorem Safe.lookupPaused (token : Nat) (env : LookupEnv) :
    Safe name (stepLookupPaused w token env) := by
  unfold stepLookupPaused
  split
  · exact safe
  rename_i claim _
  split
  · have unsent : Unsent w
        { w with
          claims := w.claims.set token { claim with outcome := some (Sync.lookupPaused env claim) }
          calls := w.calls ++ lookupPausedCalls env claim } :=
      unsent_of_lookups rfl fun id mem => by simp [lookupPausedCalls] at mem
    refine safe.frame (.of_eq rfl) (fun _ _ => .inl) safe.nodup
      (fun other found open_ absent => ?_) unsent
    rw [Table.get_set] at open_
    split_ifs at open_ with same
    · cases open_
      rw [pending, lookupPaused_notFound (Option.some.inj absent), Trace.outstanding_append_single]
      simp [submits, permits, clears]
    · exact .inr ⟨not_false, found, open_, rfl, rfl⟩
  · exact safe

theorem Safe.applyPaused (token : Nat) (safeRetry raises : Bool) :
    Safe name (stepApplyPaused w token safeRetry raises) := by
  unfold stepApplyPaused
  split
  · exact safe
  rename_i claim opened
  split
  · exact safe
  rename_i looked
  split
  · exact safe
  split
  · rename_i applied
    obtain ⟨ids, chain⟩ : Chained w (.applyPaused token safeRetry false) w.db _ :=
      applyPausedLookupOutcome_chain
        (fun row carries => ⟨token, safeRetry, claim, rfl, opened, rfl, looked, carries⟩) applied
    exact safe.commits chain (List.append_nil _).symm rfl rfl rfl
  refine safe.frame (.of_eq rfl) (fun _ _ => .inl) safe.nodup
    (fun other found open_ _ => .inr ⟨not_false, ?_⟩) (unsent_of_calls rfl)
  rw [Table.get_set] at open_
  split_ifs at open_ with same
  · cases open_
    exact ⟨claim, by rw [same]; exact opened, rfl, rfl⟩
  · exact ⟨found, open_, rfl, rfl⟩

theorem Safe.retry (id : OutboxId) (replay : Option WritebackStatus) (env : LookupEnv)
    (raises : Bool) : Safe name (stepRetry w id replay env raises) := by
  obtain ⟨ids, chain⟩ : Chained w (.retry id replay env raises) w.db
      (stepRetry w id replay env raises).db := stepRetry_chain rfl
  have rest : (stepRetry w id replay env raises).workers = w.workers
      ∧ (stepRetry w id replay env raises).claims = w.claims
      ∧ (stepRetry w id replay env raises).calls = w.calls ++ retryCalls w.db id replay env := by
    unfold stepRetry
    split <;> exact ⟨rfl, rfl, rfl⟩
  exact safe.commits chain rest.2.2 rfl rest.1 rest.2.1

theorem Safe.commit {ε : Type} {result : Except ε Db} {op : Op}
    (chains : ∀ db, result = .ok db → Chained w op w.db db)
    (silent : asked w op = []) (known : freshToken w op = fun _ => False) :
    Safe name (w.commit result) := by
  cases outcome : result with
  | error => exact safe
  | ok db =>
    obtain ⟨_, chain⟩ := chains db outcome
    refine safe.commits chain ?_ known rfl rfl
    rw [silent, List.append_nil]
    rfl

end

theorem step_safe (distinct : Function.Injective name) (op : Op) (safe : Safe name w)
    (disciplined : Disciplined w op) : Safe name (step name w op) := by
  cases op with
  | enqueue => exact safe.enqueue ..
  | deliverDirect id worker now env => exact safe.deliverDirect id worker now env disciplined
  | claim => exact safe.claim ..
  | deliverClaimed p now env => exact safe.deliverClaimed distinct p now env disciplined
  | mark => exact safe.mark ..
  | restart => exact safe.shrink (.of_eq rfl) (fun _ => not_false) (List.nil_sublist _)
  | claimPaused => exact safe.claimPaused ..
  | lookupPaused => exact safe.lookupPaused ..
  | applyPaused => exact safe.applyPaused ..
  | releasePaused token =>
    obtain ⟨ids, chain⟩ : Chained w (.releasePaused token) w.db
        (stepReleasePaused w token).db := stepReleasePaused_chain rfl
    revert chain
    simp only [step, stepReleasePaused]
    split
    · exact fun _ => safe
    split
    · exact fun chain => safe.commits chain (List.append_nil _).symm rfl rfl rfl
    · exact fun _ => safe
  | retry => exact safe.retry ..
  | updateFromLookup =>
    exact safe.commit (fun _ => updateWritebackStatusFromLookup_chain rfl) rfl rfl
  | resolve => exact safe.commit (fun _ => resolveWriteback_chain rfl) rfl rfl
  | others =>
    exact safe.quiet (unsent_of_calls rfl) (.of_steps (.refl fun _ => QuietStep.refl)) rfl rfl

end

/-! ### Runs -/

/-- **No blind re-send.** When worker processes have names of their own, a schedule in which every
delivery straight from the queue gets a definite answer, and no direct delivery meets a lease under
its own name, never sends an outbox twice without a lookup that cleared the first request. -/
theorem no_blind_resend (name : ProcId → WorkerId) (distinct : Function.Injective name)
    (tables : Foreign) (ops : List Op)
    (disciplined : Along (step name) Disciplined (World.initial tables) ops) :
    NoBlindResend (run (step name) (World.initial tables) ops).calls :=
  (run_invariant Disciplined (Safe name) (fun _ => step_safe distinct) (safe_initial name tables)
    disciplined).separated

/-- **A blind re-send.** A direct delivery whose submit comes back with an unknown status is rolled
back to `ready`, without a receipt; the worker then claims the row and sends it again. -/
theorem resend_after_unknown :
    (run (step id) (World.initial sampleTables)
      [sampleEnqueue 7, .deliverDirect 7 9 0 (answering .unknown), .claim 0 0 0 [7],
        .deliverClaimed 0 0 (answering .confirmed)]).calls = [.submit 7, .submit 7] ∧
    ¬ NoBlindResend (run (step id) (World.initial sampleTables)
      [sampleEnqueue 7, .deliverDirect 7 9 0 (answering .unknown), .claim 0 0 0 [7],
        .deliverClaimed 0 0 (answering .confirmed)]).calls := by
  refine ⟨by decide, fun separated => ?_⟩
  obtain ⟨permission, mem, -⟩ :=
    separated 7 [] (.submit 7) [] (.submit 7) [] (by decide) (by decide) (by decide)
  cases mem

theorem no_blind_resend_definite :
    NoBlindResend (run (step id) (World.initial sampleTables)
      [sampleEnqueue 7, .deliverDirect 7 9 0 (answering .confirmed), .claim 0 0 0 [7]]).calls := by
  refine no_blind_resend id Function.injective_id sampleTables _
    ⟨trivial, ⟨fun row found _ => ?_, fun row found leased => ?_⟩, trivial, trivial⟩
  · cases found
    refine ⟨localReceipt .confirmed, rfl, rfl, by decide, fun action there => ?_⟩
    obtain rfl := Option.some.inj (show some sampleAction = some action from there)
    exact ⟨nofun, nofun⟩
  · cases found
    cases leased

end ShadowTrace.Sync
