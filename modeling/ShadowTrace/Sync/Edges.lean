/-
**Delivery statuses move along the table** (`validate_outbox_delivery_transition`).

The validator is asked by most writers, with the evidence they have. `trueEvidence` says what that
evidence is worth at the time of a step, independently of what the code passes: whether the lease
has expired, whether a lookup of the provider has shown the submission, whether the step is the
pause of an operator's retry.
-/

import ShadowTrace.Sync.Safety

namespace ShadowTrace.Sync

open Relational Fallible Machine

/-! ### The evidence there is -/

section

variable (w : World) (op : Op) (id : OutboxId) (row : OutboxRow)

/-- A lookup of the provider has shown that the submission arrived. -/
def lookupConfirms : Bool :=
  match op with
  | .applyPaused token _ _ =>
    match (w.claims.get token).bind PausedClaim.outcome with
    | some (.found receipt) => receipt.status != .unknown
    | _ => false
  | .retry _ _ env _ =>
    match queryProvider env ((latestReceipt w.db id).bind Receipt.providerJobId) with
    | .receipt received => isOperatorRetryTerminalSuccess received.status
    | _ => false
  | .updateFromLookup _ status => isOperatorRetryTerminalSuccess status
  | _ => false

def leaseIsOver : Bool :=
  match op with
  | .deliverDirect _ _ now _ | .claim _ now _ _ | .deliverClaimed _ now _ => leaseExpired row now
  | _ => false

def isRetry : Op → Bool
  | .retry _ _ _ _ => true
  | _ => false

/-- **The true values of the validator's arguments.** No step knows that a request has failed before
it left. -/
def trueEvidence (target : OutboxDeliveryStatus) : DeliveryEvidence where
  leaseExpiredResend := leaseIsOver op row
  knownPreEgressFailure := false
  lookupConfirmedSubmission := lookupConfirms w op id
  operatorRetryPause := isRetry op && target == .paused

/-- The validator accepts the move, given what is true of the row. -/
def DeliveryEdge (current target : OutboxDeliveryStatus) : Prop :=
  validateOutboxDeliveryTransition current target (trueEvidence w op id row target) = .ok ()

/-- A delivery of the outbox whose submit returned a receipt with a definite status. -/
def Answered : Prop :=
  ∃ now env submitted, Delivering w op id now env ∧ env.submit = .receipt submitted
    ∧ (finalReceipt row env submitted).status ≠ .unknown

/-- Why the delivery status of a row may have moved. -/
inductive Justified (row next : OutboxRow) : Prop
  | kept (same : next.deliveryStatus = row.deliveryStatus)
  | edge (accepted : DeliveryEdge w op id row row.deliveryStatus next.deliveryStatus)
  /-- An operator's retry pauses the row and moves on, in one transaction. -/
  | reopened (retry : isRetry op = true)
      (pause : DeliveryEdge w op id row row.deliveryStatus .paused)
      (onward : DeliveryEdge w op id row .paused next.deliveryStatus)
  /-- A delivery that was not claimed first ends with the provider's answer. -/
  | answered (answer : Answered w op id row)
      (queued : row.deliveryStatus = .ready ∨ row.deliveryStatus = .waitingRetry)
      (delivered : next.deliveryStatus = .delivered)
  | adjudicated (resolves : op = .resolve id resolution hasEvidence false)
      (delivered : next.deliveryStatus = .delivered)

end

/-! ### What the validator accepts -/

def plainEdge : OutboxDeliveryStatus → OutboxDeliveryStatus → Bool
  | .ready, .leased | .ready, .deadLetter | .waitingRetry, .leased | .waitingRetry, .deadLetter
  | .leased, .delivered | .leased, .paused | .leased, .deadLetter
  | .paused, .ready | .paused, .deadLetter => true
  | _, _ => false

section Edges

variable {w : World} {op : Op} {id : OutboxId} {row : OutboxRow}
  {current target : OutboxDeliveryStatus}

theorem edge_of_plain (plain : plainEdge current target = true)
    (pause : isRetry op = true → target ≠ .paused) :
    DeliveryEdge w op id row current target := by
  have calm : (isRetry op && target == .paused) = false := by
    cases retry : isRetry op with
    | false => rfl
    | true => simpa using pause retry
  unfold DeliveryEdge trueEvidence
  rw [calm]
  generalize leaseIsOver op row = finished
  generalize lookupConfirms w op id = looked
  cases current <;> cases target <;>
    first | exact absurd plain Bool.false_ne_true | (cases finished <;> cases looked <;> rfl)

theorem edge_of_lookup (looked : lookupConfirms w op id = true)
    (open_ : ¬ Settled current) : DeliveryEdge w op id row current .delivered := by
  have calm : (isRetry op && OutboxDeliveryStatus.delivered == .paused) = false :=
    Bool.and_false _
  unfold DeliveryEdge trueEvidence
  rw [calm, looked]
  generalize leaseIsOver op row = finished
  cases current <;> first | simp at open_; done | (cases finished <;> rfl)

theorem edge_of_pause (retry : isRetry op = true) (settled : Settled current) :
    DeliveryEdge w op id row current .paused := by
  unfold DeliveryEdge trueEvidence
  rw [retry]
  generalize leaseIsOver op row = finished
  generalize lookupConfirms w op id = looked
  obtain rfl | rfl := settled <;> cases finished <;> cases looked <;> rfl

end Edges

/-! ### The writes, one by one -/

section Writes

variable {w : World} {op : Op} {id : OutboxId} {row written : OutboxRow}

theorem justified_of_plain {current : OutboxDeliveryStatus} (target : OutboxDeliveryStatus)
    (start : row.deliveryStatus = current) (plain : plainEdge current target = true)
    (reached : written.deliveryStatus = target) (pause : target = .paused → isRetry op ≠ true) :
    Justified w op id row written := by
  refine .edge ?_
  rw [start, reached]
  exact edge_of_plain plain fun retry same => pause same retry

theorem plainEdge_deadLetter {current : OutboxDeliveryStatus} (live : ¬ Settled current) :
    plainEdge current .deadLetter = true := by
  cases current <;> first | rfl | simp at live

theorem Stops.justified (stops : Stops row written) : Justified w op id row written := by
  cases stops with
  | kept => exact .kept rfl
  | ended _ _ _ undelivered =>
    by_cases dead : row.deliveryStatus = .deadLetter
    · exact .kept dead.symm
    · exact justified_of_plain .deadLetter rfl
        (plainEdge_deadLetter (not_or.mpr ⟨undelivered, dead⟩)) rfl nofun

theorem finalizeSupersededHead_justified {newer : DispositionId}
    (done : finalizeSupersededHead row newer = .ok written) : Justified w op id row written := by
  obtain ⟨-, rfl⟩ | ⟨live, rfl⟩ := finalizeSupersededHead_cases done
  · exact .kept rfl
  · exact justified_of_plain .deadLetter rfl (plainEdge_deadLetter live) rfl nofun

theorem justified_of_paused (leased : row.deliveryStatus = .leased) (other : isRetry op = false)
    (target : written.deliveryStatus = .paused) : Justified w op id row written :=
  justified_of_plain .paused leased rfl target fun _ => ne_true_of_eq_false other

theorem Delivering.not_retry {now : Time} {env : DeliveryEnv}
    (delivers : Delivering w op id now env) : isRetry op = false := by
  obtain ⟨_, rfl⟩ | ⟨_, _, rfl, -⟩ := delivers
  · rfl
  · rfl

theorem submittedRow_justified {worker : WorkerId} {now : Time} {env : DeliveryEnv}
    {submitted : Receipt} (delivers : Delivering w op id now env)
    (deliverable : Deliverable w.db id row worker now)
    (answered : env.submit = .receipt submitted)
    (done : submittedRow row (finalReceipt row env submitted) = .ok written) :
    Justified w op id row written := by
  obtain ⟨definite, rfl⟩ | ⟨-, leased, rfl⟩ := submittedRow_cases deliverable done
  · obtain queued | ⟨leased, -⟩ := or_assoc.mpr deliverable.open_
    · exact .answered ⟨now, env, submitted, delivers, answered, definite⟩ queued rfl
    · exact justified_of_plain .delivered leased rfl rfl nofun
  · exact justified_of_paused leased delivers.not_retry rfl

theorem retryable_edge (retry : isRetry op = true) (retryable : Retryable row) :
    row.deliveryStatus = .paused ∨ DeliveryEdge w op id row row.deliveryStatus .paused := by
  obtain already | settled := retryable.closed
  · exact .inl already
  · exact .inr (edge_of_pause retry settled)

theorem justified_of_retry (retry : isRetry op = true) (retryable : Retryable row)
    (onward : DeliveryEdge w op id row .paused written.deliveryStatus) :
    Justified w op id row written := by
  obtain already | pause := retryable_edge retry retryable
  · refine .edge ?_
    rw [already]
    exact onward
  · exact .reopened retry pause onward

theorem lookupConfirms_of_applying {receipt : Receipt}
    (applies : Applying w op id row (.found receipt))
    (definite : receipt.status ≠ .unknown) : lookupConfirms w op id = true := by
  obtain ⟨_, _, _, rfl, held, -, known, -⟩ := applies
  simp [lookupConfirms, held, known, definite]

theorem lookupConfirms_of_retry {replay : Option WritebackStatus} {env : LookupEnv}
    {receipt : Receipt} (retries : op = .retry id replay env false)
    (decides : evaluateOperatorRetryLookup env row
      ((latestReceipt w.db id).bind Receipt.providerJobId) = .reconcileTerminal receipt) :
    lookupConfirms w op id = true := by
  subst retries
  unfold evaluateOperatorRetryLookup at decides
  split at decides
  · rw [lookupConfirms]
    generalize queryProvider env ((latestReceipt w.db id).bind Receipt.providerJobId) = answer
      at decides ⊢
    cases answer with
    | raised => cases decides
    | nothing =>
      simp only [decideRetry] at decides
      split_ifs at decides
    | receipt =>
      simp only [decideRetry] at decides
      split_ifs at decides with success
      exact success
  · cases decides

theorem lookedUpRow_justified {status : WritebackStatus}
    (looks : op = .updateFromLookup id status) (done : lookedUpRow row status = .ok written) :
    Justified w op id row written := by
  subst looks
  unfold lookedUpRow at done
  split at done
  · rename_i success
    have looked : lookupConfirms w (.updateFromLookup id status) id = true := success
    -- a lookup that shows a success ends an open delivery
    have ends (open_ : ¬ Settled row.deliveryStatus)
        (delivered : written.deliveryStatus = .delivered) :
        Justified w (.updateFromLookup id status) id row written := by
      refine .edge ?_
      rw [delivered]
      exact edge_of_lookup looked open_
    split at done
    iterate 4
      · rename_i current
        obtain rfl := eq_of_bind_pure done
        exact ends (by simp [current]) rfl
    all_goals
      cases done
      exact .kept rfl
  · cases done
    exact .kept rfl

theorem releaseAfterLeaseExpiry_justified (leased : row.deliveryStatus = .leased)
    (other : isRetry op = false) (done : releaseAfterLeaseExpiry row = .ok written) :
    Justified w op id row written := by
  rw [releaseAfterLeaseExpiry_leased leased] at done
  cases done
  exact justified_of_paused leased other rfl

theorem RowCommit.justified {status : Option WritebackStatus}
    (commit : RowCommit w op id row written status) : Justified w op id row written := by
  cases commit with
  | blocked _ done => exact (blockSupersededOutbox_stops done).justified
  | fenced _ done => exact (blockOutboxForWritebackFence_stops done).justified
  | expired delivers leased _ done =>
    exact releaseAfterLeaseExpiry_justified leased delivers.not_retry done
  | submitted delivers deliverable answered done =>
    exact submittedRow_justified delivers deliverable answered done
  | dated | tokened | unparsed | doubtful | released => exact .kept rfl
  | leased _ _ _ queued =>
    obtain ready | waiting := queued
    · exact justified_of_plain .leased ready rfl rfl nofun
    · exact justified_of_plain .leased waiting rfl rfl nofun
  | reclaimed claims _ leased done =>
    exact releaseAfterLeaseExpiry_justified leased (by rw [claims]; rfl) done
  | deadLettered _ _ done => exact (releaseLeasedToDeadLetter_stops done).justified
  | rejected _ open_ =>
    obtain leased | ⟨paused, -⟩ := open_
    · exact justified_of_plain .deadLetter leased rfl rfl nofun
    · exact justified_of_plain .deadLetter paused rfl rfl nofun
  | conflicted _ _ leased => exact justified_of_plain .delivered leased rfl rfl nofun
  | doubted marks leased done =>
    have same : (withStatus row .unknown).deliveryStatus = row.deliveryStatus := rfl
    rw [pauseAfterUnknownSubmission_leased _ (same.trans leased)] at done
    cases done
    exact justified_of_paused leased (by rw [marks]; rfl) rfl
  | requeued _ _ paused => exact justified_of_plain .ready paused rfl rfl nofun
  | found applies definite _ paused =>
    refine .edge ?_
    rw [paused]
    exact edge_of_lookup (lookupConfirms_of_applying applies definite) not_settled_paused
  | stopped retries retryable pauses =>
    have retry : isRetry op = true := by
      rw [retries]
      rfl
    have status := (pauseForRetry_step retryable pauses).2.1
    obtain already | pause := retryable_edge retry retryable
    · exact .kept (status.trans already.symm)
    · exact .edge (status ▸ pause)
  | reconciled retries retryable _ decides =>
    refine justified_of_retry (by rw [retries]; rfl) retryable ?_
    exact edge_of_lookup (lookupConfirms_of_retry retries decides) not_settled_paused
  | retried retries retryable =>
    have onward : DeliveryEdge w op id row .paused .ready := edge_of_plain rfl fun _ => by decide
    exact justified_of_retry (by rw [retries]; rfl) retryable onward
  | lookedUp looks _ done => exact lookedUpRow_justified looks done
  | resolved resolves => exact .adjudicated resolves rfl

end Writes

/-! ### Every step of every schedule -/

theorem EnqueueEffect.justified {w : World} {op : Op} {args : EnqueueArgs}
    {before after : Table OutboxId OutboxRow} (effect : EnqueueEffect args before after)
    {id : OutboxId} {row next : OutboxRow} (found : before.get id = some row)
    (reached : after.get id = some next) : Justified w op id row next := by
  obtain rfl | ⟨-, _, finalized⟩ := effect.rows.moved found reached
  · exact .kept rfl
  · exact finalizeSupersededHead_justified finalized

theorem step_edges (name : ProcId → WorkerId) (w : World) (op : Op) {id : OutboxId}
    {row next : OutboxRow} (found : w.db.outboxes.get id = some row)
    (reached : (step name w op).db.outboxes.get id = some next) :
    Justified w op id row next := by
  have stays : next = row → Justified w op id row next := fun same => .kept (by rw [same])
  by_cases internal : op.internal = true
  · obtain ⟨_, chain⟩ := step_chain name w internal
    exact (chain.steps (fun _ _ => .kept rfl) fun _ commit => commit.justified).moved found reached
  cases op with
  | enqueue args =>
    simp only [step] at reached
    cases outcome : enqueueCommand w.db args with
    | error =>
      rw [outcome] at reached
      exact stays (Option.mem_unique found reached).symm
    | ok =>
      rw [outcome] at reached
      exact (enqueueCommand_effect outcome).1.justified found reached
  | others => exact stays (Option.mem_unique found reached).symm
  | _ => exact absurd rfl internal

/-- **Delivery statuses move along the table.** Whatever sequence of operations the service runs,
every committed change of a delivery status is accepted by the validator with true evidence, up to
a retry's pause, an answered delivery and an adjudication. -/
theorem delivery_moves_justified (name : ProcId → WorkerId) (start : World) (schedule : List Op)
    {before after : World} {op : Op}
    (occurs : Occurs (step name) start schedule before op after) {id : OutboxId}
    {row next : OutboxRow} (found : before.db.outboxes.get id = some row)
    (reached : after.db.outboxes.get id = some next) : Justified before op id row next := by
  induction occurs with
  | here state label => exact step_edges name state label found reached
  | later _ ih => exact ih found reached

theorem delivery_moves_justified_claim :
    ∃ row next, row.deliveryStatus = .ready ∧ next.deliveryStatus = .leased
      ∧ Justified (run (step id) (World.initial sampleTables) [sampleEnqueue 1])
        (.claim 0 0 0 [1]) 1 row next :=
  ⟨_, _, rfl, rfl, delivery_moves_justified id (World.initial sampleTables)
    [sampleEnqueue 1, .claim 0 0 0 [1]] (.later (.here _ _ [])) rfl rfl⟩

/-- **A dead letter is delivered by an adjudication, and a queued row by an answer.** The fence
stops the first delivery of outbox 1; the validator accepts neither `deadLetter` to `delivered`, nor
`ready` to `delivered` without a lookup. -/
theorem dead_letter_delivered :
    let queued := run (step id) (World.initial sampleTables) [sampleEnqueue 1]
    let dead :=
      step id queued (.deliverDirect 1 0 0 { answering .confirmed with fenceOpen := false })
    let deliver := Op.deliverDirect 1 0 0 (answering .confirmed)
    let resolve := Op.resolve 1 .manualConfirmed true false
    (∃ row next, dead.db.outboxes.get 1 = some row ∧ row.deliveryStatus = .deadLetter
      ∧ (step id dead resolve).db.outboxes.get 1 = some next ∧ next.deliveryStatus = .delivered
      ∧ ¬ DeliveryEdge dead resolve 1 row row.deliveryStatus next.deliveryStatus)
    ∧ ∃ row next, queued.db.outboxes.get 1 = some row ∧ row.deliveryStatus = .ready
      ∧ (step id queued deliver).db.outboxes.get 1 = some next ∧ next.deliveryStatus = .delivered
      ∧ ¬ DeliveryEdge queued deliver 1 row row.deliveryStatus next.deliveryStatus :=
  ⟨⟨_, _, rfl, rfl, rfl, rfl, nofun⟩, _, _, rfl, rfl, rfl, rfl, nofun⟩

end ShadowTrace.Sync
