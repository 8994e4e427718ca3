/-
**What each operation commits to a row and to its action.**

Every transaction of the writeback service writes single outbox rows, and with some of them it
mirrors a status onto the action of the row. `RowCommit` lists these writes once, for all
operations. `step_chain` shows that every step consists of them, each outbox being written at most
once (`Chain`), and that it does nothing else to the tables of other services (`Projects`).
-/

import Mathlib.Data.List.Dedup
import ShadowTrace.Sync.Foreign

namespace ShadowTrace.Sync

open Relational Fallible

/-! ### The writes -/

/-- The operation delivers the outbox row. -/
def Delivering (w : World) (op : Op) (id : OutboxId) (now : Time) (env : DeliveryEnv) : Prop :=
  (∃ worker, op = .deliverDirect id worker now env)
    ∨ ∃ p queue, op = .deliverClaimed p now env ∧ w.memory p = .delivering (id :: queue)

/-- The outcome a reconciler is about to apply to a row that still carries its token. -/
def Applying (w : World) (op : Op) (id : OutboxId) (row : OutboxRow)
    (outcome : PausedLookupOutcome) : Prop :=
  ∃ token safeRetry claim, op = .applyPaused token safeRetry false
    ∧ w.claims.get token = some claim ∧ claim.outboxId = id ∧ claim.outcome = some outcome
    ∧ Held row token

section

variable (w : World) (op : Op) (id : OutboxId) (row : OutboxRow)

/-- **The writes of the service**: the row it writes, and the status it mirrors. -/
inductive RowCommit :
    OutboxRow → Option WritebackStatus → Prop
  | blocked (delivers : Delivering w op id now env)
      (done : blockSupersededOutbox row = .ok written) : RowCommit written none
  | fenced (delivers : Delivering w op id now env)
      (done : blockOutboxForWritebackFence row = .ok written) : RowCommit written none
  | expired (delivers : Delivering w op id now env) (leased : row.deliveryStatus = .leased)
      (late : leaseExpired row now = true) (done : releaseAfterLeaseExpiry row = .ok written) :
      RowCommit written none
  | submitted (delivers : Delivering w op id now env)
      (deliverable : Deliverable w.db id row worker now)
      (answered : env.submit = .receipt submitted)
      (done : submittedRow row (finalReceipt row env submitted) = .ok written) :
      RowCommit written (some (finalReceipt row env submitted).status)
  | dated (args : ClaimArgs) (claims : op = .claim p now backoff ids) :
      RowCommit (datedRetry row args) none
  | leased (worker : WorkerId) (claims : op = .claim p now backoff ids)
      (current : row.supersededByDispositionId = none)
      (queued : row.deliveryStatus = .ready ∨ row.deliveryStatus = .waitingRetry) :
      RowCommit (leasedRow row worker now) none
  | reclaimed (claims : op = .claim p now backoff ids)
      (current : row.supersededByDispositionId = none) (leased : row.deliveryStatus = .leased)
      (done : releaseAfterLeaseExpiry row = .ok written) : RowCommit written (some .unknown)
  | deadLettered (marks : op = .mark p) (leased : row.deliveryStatus = .leased)
      (done : releaseLeasedToDeadLetter row code = .ok written) : RowCommit written none
  | rejected (code : OutboxErrorCode)
      (open_ : row.deliveryStatus = .leased
        ∨ row.deliveryStatus = .paused ∧ row.supersededByDispositionId = none) :
      RowCommit (rejectedRow row code) (some .failed)
  | conflicted (code : OutboxErrorCode) (marks : op = .mark p)
      (leased : row.deliveryStatus = .leased) : RowCommit (conflictRow row code) (some .conflict)
  | doubted (marks : op = .mark p) (leased : row.deliveryStatus = .leased)
      (done : pauseAfterUnknownSubmission (withStatus row .unknown) .deliveryOutcomeUnknown
        = .ok written) : RowCommit written (some .unknown)
  /-- A reconciler claims a paused row: the mirror is written, the row's own status is not. -/
  | tokened (claims : op = .claimPaused id now true)
      (current : row.supersededByDispositionId = none) (paused : row.deliveryStatus = .paused) :
      RowCommit (tokenRow row w.nextToken now) (some .unknown)
  | unparsed (claims : op = .claimPaused id now false) : RowCommit (invalidClaimRow row) none
  | doubtful (code : OutboxErrorCode) (applies : Applying w op id row outcome)
      (current : row.supersededByDispositionId = none) (paused : row.deliveryStatus = .paused) :
      RowCommit (doubtfulRow row code) (some .unknown)
  | requeued (applies : Applying w op id row .notFound)
      (current : row.supersededByDispositionId = none) (paused : row.deliveryStatus = .paused)
      (unconfirmed : row.latestWritebackStatus ≠ some .confirmed) :
      RowCommit (requeuedRow row) (some .pending)
  | found (applies : Applying w op id row (.found receipt))
      (definite : receipt.status ≠ .unknown) (current : row.supersededByDispositionId = none)
      (paused : row.deliveryStatus = .paused) :
      RowCommit (foundRow row receipt.status) (some receipt.status)
  | released (releases : op = .releasePaused token) (paused : row.deliveryStatus = .paused) :
      RowCommit (releasedClaimRow row) none
  | stopped (retries : op = .retry id replay env false) (retryable : Retryable row)
      (pauses : pauseForRetry row = .ok written) : RowCommit written none
  | reconciled (retries : op = .retry id replay env false) (retryable : Retryable row)
      (pauses : pauseForRetry row = .ok paused)
      (decides : evaluateOperatorRetryLookup env row
        ((latestReceipt w.db id).bind Receipt.providerJobId) = .reconcileTerminal receipt) :
      RowCommit (reconciledRow paused receipt.status) (some receipt.status)
  | retried (retries : op = .retry id replay env false) (retryable : Retryable row)
      (pauses : pauseForRetry row = .ok paused)
      (asked : retryCalls w.db id replay env = [.lookup id answer safeRetry])
      (cleared : clears answer safeRetry = true) : RowCommit (retriedRow paused) (some .pending)
  | lookedUp (looks : op = .updateFromLookup id status)
      (unconfirmed : row.latestWritebackStatus ≠ some .confirmed)
      (done : lookedUpRow row status = .ok written) : RowCommit written (some status)
  /-- An adjudication delivers the row, whatever its delivery status. -/
  | resolved (resolves : op = .resolve id resolution hasEvidence false)
      (unconfirmed : row.latestWritebackStatus ≠ some .confirmed) :
      RowCommit (reconciledRow row resolution.target) (some resolution.target)

end

/-- **The steps that store a receipt of a row**: an attempt that was answered or marked, a lookup
that found the request, and the corrections of an operator. -/
inductive Records (w : World) (op : Op) (id : OutboxId) : Prop
  | answered (delivers : Delivering w op id now env) (answer : env.submit = .receipt receipt)
  | marked (marks : op = .mark p) (failed : w.memory p = .marking id error queue)
  | refused (applies : Applying w op id row .notFound)
      (code : row.lastErrorCode.any OutboxErrorCode.deterministicRejection = true)
  | found (applies : Applying w op id row (.found receipt))
  | reconciled (retries : op = .retry id replay env false)
      (decides : evaluateOperatorRetryLookup env row
        ((latestReceipt w.db id).bind Receipt.providerJobId) = .reconcileTerminal receipt)
  | resolved (resolves : op = .resolve id resolution hasEvidence false)

/-- The receipts of every row stay, unless the step stores one of it. -/
def Noted (w : World) (op : Op) (before after : Table OutboxId (List Receipt)) : Prop :=
  ∀ id, Records w op id ∨ after.get id = before.get id

theorem Noted.refl {w : World} {op : Op} (receipts : Table OutboxId (List Receipt)) :
    Noted w op receipts receipts :=
  fun _ => .inr rfl

theorem Records.noted {w : World} {op : Op} {id : OutboxId} (records : Records w op id)
    {before after : Table OutboxId (List Receipt)}
    (others : ∀ other, other ≠ id → after.get other = before.get other) :
    Noted w op before after := by
  intro other
  by_cases same : other = id
  · exact .inl (same ▸ records)
  · exact .inr (others other same)

/-- **A run of writes**: each outbox is written at most once. -/
inductive Chain (w : World) (op : Op) : List OutboxId → Db → Db → Prop
  | nil (db : Db) : Chain w op [] db db
  | cons {id : OutboxId} (earlier : Chain w op ids before middle) (fresh : id ∉ ids)
      (found : middle.outboxes.get id = some row)
      (commit : RowCommit w op id row written status)
      (queue : after.outboxes = middle.outboxes.set id written)
      (mirrors : Mirrors row.actionId status middle.actions after.actions)
      (foreign : Projects middle after) (noted : Noted w op middle.receipts after.receipts) :
      Chain w op (id :: ids) before after

abbrev Chained (w : World) (op : Op) (before after : Db) : Prop :=
  ∃ ids, Chain w op ids before after

section Chains

variable {w : World} {op : Op} {before after : Db} {id : OutboxId} {ids : List OutboxId}

theorem Chained.refl : Chained w op before before := ⟨[], .nil _⟩

theorem Chained.single {row written : OutboxRow} {status : Option WritebackStatus}
    (found : before.outboxes.get id = some row) (commit : RowCommit w op id row written status)
    (queue : after.outboxes = before.outboxes.set id written)
    (mirrors : Mirrors row.actionId status before.actions after.actions)
    (foreign : Projects before after) (noted : Noted w op before.receipts after.receipts) :
    Chained w op before after :=
  ⟨[id], .cons (.nil before) List.not_mem_nil found commit queue mirrors foreign noted⟩

section

variable (chain : Chain w op ids before after)

include chain

theorem Chain.unwritten (apart : id ∉ ids) : after.outboxes.get id = before.outboxes.get id := by
  induction chain with
  | nil => rfl
  | cons _ _ _ _ queue _ _ _ ih =>
    rw [List.mem_cons, not_or] at apart
    rw [queue, Table.get_set_ne apart.1, ih apart.2]

theorem Chain.projects : Projects before after := by
  induction chain with
  | nil => exact .refl ..
  | cons _ _ _ _ _ _ foreign _ ih => exact ih.trans foreign

theorem Chain.noted : Noted w op before.receipts after.receipts := by
  induction chain with
  | nil => exact .refl _
  | cons _ _ _ _ _ _ _ noted ih =>
    intro other
    obtain records | kept := noted other
    · exact .inl records
    · exact (ih other).imp_right kept.trans

theorem Chain.steps {moves : OutboxId → OutboxRow → OutboxRow → Prop}
    (still : ∀ id row, moves id row row)
    (each : ∀ {id row written status}, before.outboxes.get id = some row → RowCommit w op id
      row written status → moves id row written) :
    Table.Steps moves (fun _ _ => False) before.outboxes after.outboxes := by
  induction chain with
  | nil => exact .refl still
  | @cons ids before middle row written status after id earlier fresh found commit queue _ _ _ ih =>
    have there : before.outboxes.get id = some row := (earlier.unwritten fresh).symm.trans found
    have rows := ih each
    refine ⟨fun other stored known => ?_, fun other next absent reached => ?_⟩
    · rw [queue, Table.get_set]
      split_ifs with same
      · subst same
        obtain rfl := Option.mem_unique there known
        exact ⟨written, rfl, each there commit⟩
      · exact rows.old other stored known
    · rw [queue, Table.get_set] at reached
      split_ifs at reached with same
      · rw [same, there] at absent
        cases absent
      · exact rows.new other next absent reached

end

end Chains

/-! ### Every step is a chain -/

variable {status : WritebackStatus} {after : Db} {receipt : Receipt} {now : Time}

section

variable {w : World} {op : Op} {db start : Db} {id : OutboxId} {row written : OutboxRow}
  {env : DeliveryEnv} {args : ClaimArgs} {p : ProcId} {backoff : Nat} {batch ids : List OutboxId}
  {receipts : Table OutboxId (List Receipt)}

theorem mirrored_chain {action : ActionId} (found : db.outboxes.get id = some row)
    (same : action = row.actionId) (commit : RowCommit w op id row written (some status))
    (noted : Noted w op db.receipts receipts) :
    Chained w op db (mirrorWritebackStatus
      { db with outboxes := db.outboxes.set id written, receipts } action status) := by
  refine .single found commit rfl ?_
    ((Projects.queue db _ receipts).trans (mirrorWritebackStatus_projects _ _ _)) noted
  rw [← same]
  exact mirrorWritebackStatus_mirrors _ _ _

theorem stored_chain (found : db.outboxes.get id = some row)
    (commit : RowCommit w op id row written none) :
    Chained w op db { db with outboxes := db.outboxes.set id written } :=
  .single found commit rfl (.refl _ _) (.queue db _ db.receipts) (.refl _)

theorem projected_chain {entityPending : Bool} (found : db.outboxes.get id = some row)
    (commit : RowCommit w op id row written (some receipt.status))
    (noted : Noted w op db.receipts receipts)
    (done : projectReceipt (mirrorWritebackStatus
      { db with outboxes := db.outboxes.set id written, receipts } row.actionId receipt.status)
      row.actionId receipt entityPending = .ok after) : Chained w op db after := by
  obtain ⟨⟨_, _, rfl⟩, projects, mirrors⟩ := projectReceipt_projects done
  exact .single found commit rfl ((mirrorWritebackStatus_mirrors _ _ _).trans_same mirrors)
    ((Projects.queue db _ receipts).trans ((mirrorWritebackStatus_projects _ _ _).trans projects))
    noted

theorem deliverChecks_not_expired :
    deliverChecks db id row env ≠ .ok .expired := by
  unfold deliverChecks
  repeat' split
  all_goals nofun

theorem deliverGate_expired {worker : WorkerId}
    (gate : deliverGate db id row worker now env = .ok .expired) :
    row.deliveryStatus = .leased ∧ leaseExpired row now = true := by
  unfold deliverGate at gate
  split at gate
  · cases gate
  split at gate
  · cases gate
  · cases gate
  · cases gate
  · rename_i leased
    split at gate
    · cases gate
    split at gate
    · rename_i late
      exact ⟨leased, late⟩
    · exact absurd gate deliverChecks_not_expired
  all_goals exact absurd gate deliverChecks_not_expired

theorem deliverOutbox_chain {worker : WorkerId} (delivers : Delivering w op id now env)
    (done : (deliverOutbox w.db id worker now env).outcome = .ok after) :
    Chained w op w.db after := by
  unfold deliverOutbox at done
  split at done
  · cases done
    exact .refl
  rename_i row found
  have stores : ∀ {written : Except TransitionError OutboxRow} {result : Db},
      (∀ next, written = .ok next → RowCommit w op id row next none) →
      (do let written ← raiseTransition written
          return { w.db with outboxes := w.db.outboxes.set id written } :
            Except DeliveryError Db) = .ok result →
      Chained w op w.db result := by
    intro _ _ commits returned
    obtain ⟨next, moved, returned⟩ := bind_eq_ok.mp returned
    cases returned
    exact stored_chain found (commits next (raiseTransition_eq_ok.mp moved))
  split at done
  · cases done
  · cases done
    exact .refl
  · exact stores (fun _ => .blocked delivers) done
  · rename_i gate
    obtain ⟨leased, late⟩ := deliverGate_expired gate
    exact stores (fun _ => .expired delivers leased late) done
  · exact stores (fun _ => .fenced delivers) done
  rename_i gate
  obtain ⟨_, _, _, _, answered, wrote, others, projected⟩ := deliverSubmit_eq_ok done
  exact projected_chain found (.submitted delivers (deliverGate_submit gate) answered wrote)
    ((Records.answered delivers answered).noted others) projected

theorem settle_chain {worker : WorkerId} (delivers : Delivering w op id now env) :
    Chained w op w.db ((deliverOutbox w.db id worker now env).settle w.db) := by
  obtain same | ⟨_, done, same⟩ := Tx.settle_cases w.db (deliverOutbox w.db id worker now env)
  · rw [same]
    exact .refl
  · rw [same]
    exact deliverOutbox_chain delivers done

theorem claimOne_chain {claimed : Bool} (claims : op = .claim p args.now backoff batch)
    (chain : Chain w op ids start db) (fresh : id ∉ ids) (found : db.outboxes.get id = some row)
    (selected : claimable row args.now = true)
    (done : claimOne db id row args = .ok (after, claimed)) : Chain w op (id :: ids) start after
      ∧ (claimed = true → row.deliveryStatus = .ready ∨ row.deliveryStatus = .waitingRetry) := by
  have current : row.supersededByDispositionId = none := by
    simp only [claimable, Bool.and_eq_true, Option.isNone_iff_eq_none] at selected
    exact selected.1
  unfold claimOne at done
  split at done
  · cases done
    exact ⟨.cons chain fresh found (.dated args claims) rfl (.refl _ _) (.queue db _ _)
      (.refl _), nofun⟩
  split at done
  · rename_i leased
    obtain ⟨released, moved, done⟩ := bind_eq_ok.mp done
    cases done
    exact ⟨.cons chain fresh found (.reclaimed claims current leased moved) rfl
      (mirrorWritebackStatus_mirrors _ _ _)
      ((Projects.queue db _ _).trans (mirrorWritebackStatus_projects _ _ _)) (.refl _), nofun⟩
  rename_i unleased
  obtain ⟨rfl, rfl⟩ := Prod.mk.inj (eq_of_bind_pure done)
  have queued : row.deliveryStatus = .ready ∨ row.deliveryStatus = .waitingRetry := by
    unfold claimable at selected
    cases status : row.deliveryStatus <;> simp [status] at selected unleased ⊢
  exact ⟨.cons chain fresh found (.leased args.worker claims current queued) rfl (.refl _ _)
    (.queue db _ _) (.refl _), fun _ => queued⟩

/-- What holds while a batch is claimed: each row is written once, and the claimed ones were queued
when the batch began. -/
structure Claimed (w : World) (op : Op) (start : Db) (ids : List OutboxId)
    (state : Db × List OutboxId) : Prop where
  chain : ∃ written, written ⊆ ids ∧ Chain w op written start state.1
  queued : ∀ id ∈ state.2, ∃ row, start.outboxes.get id = some row ∧
    (row.deliveryStatus = .ready ∨ row.deliveryStatus = .waitingRetry)
  sublist : state.2.Sublist ids

theorem claimRow_claimed {state next : Db × List OutboxId}
    (claims : op = .claim p args.now backoff batch) (so : Claimed w op start ids state)
    (fresh : id ∉ ids) (done : claimRow args state id = .ok next) :
    Claimed w op start (ids ++ [id]) next := by
  obtain ⟨⟨written, within, chain⟩, earlier, sublist⟩ := so
  have more : ids ⊆ ids ++ [id] := List.subset_append_left ids [id]
  have kept : Claimed w op start (ids ++ [id]) state :=
    ⟨⟨written, List.Subset.trans within more, chain⟩, earlier,
      sublist.trans (List.sublist_append_left ids [id])⟩
  unfold claimRow at done
  split at done
  · cases done
    exact kept
  rename_i row found
  split at done
  · rename_i selected
    obtain ⟨⟨after, claimed⟩, one, done⟩ := bind_eq_ok.mp done
    cases done
    have unwritten : id ∉ written := fun mem => fresh (within mem)
    obtain ⟨longer, queued⟩ := claimOne_chain claims chain unwritten found selected one
    have chained : ∃ written, written ⊆ ids ++ [id] ∧ Chain w op written start after :=
      ⟨id :: written, List.cons_subset.mpr ⟨by simp, List.Subset.trans within more⟩, longer⟩
    cases claimed with
    | false => exact ⟨chained, earlier, kept.sublist⟩
    | true =>
      refine ⟨chained, fun other mem => ?_, sublist.append (List.Sublist.refl [id])⟩
      rcases List.mem_append.mp mem with before | now
      · exact earlier other before
      · obtain rfl := List.mem_singleton.mp now
        exact ⟨row, (chain.unwritten unwritten).symm.trans found, queued rfl⟩
  · cases done
    exact kept

theorem foldlM_claimRow_claimed (claims : op = .claim p args.now backoff batch)
    (rest : List OutboxId) :
    ∀ {ids : List OutboxId} {state next : Db × List OutboxId}, (ids ++ rest).Nodup →
      Claimed w op start ids state → rest.foldlM (claimRow args) state = .ok next →
      Claimed w op start (ids ++ rest) next := by
  induction rest with
  | nil =>
    intro _ _ _ _ _ done
    cases done
    rwa [List.append_nil]
  | cons id _ ih =>
    intro ids _ _ distinct so done
    obtain ⟨_, first, done⟩ := bind_eq_ok.mp done
    have fresh : id ∉ ids := fun mem =>
      (List.nodup_append.mp distinct).2.2 id mem id List.mem_cons_self rfl
    rw [List.append_cons] at distinct ⊢
    exact ih distinct (claimRow_claimed claims so fresh first) done

/-- **A batch writes each of its rows once**, and claims rows that were queued. -/
theorem claimBatch_claimed {next : Db × List OutboxId} (claims : op = .claim p args.now backoff ids)
    (done : claimBatch w.db args ids = .ok next) : Claimed w op w.db ids.dedup next :=
  foldlM_claimRow_claimed claims ids.dedup ids.nodup_dedup
    ⟨⟨[], List.Subset.refl _, .nil _⟩, List.forall_mem_nil _, List.Sublist.refl []⟩ done

theorem onLeased_chain {mark : OutboxRow → Except TransitionError Db}
    (done : onLeased db id mark = .ok after)
    (marks : ∀ row, db.outboxes.get id = some row → row.deliveryStatus = .leased →
      mark row = .ok after → Chained w op db after) :
    Chained w op db after := by
  unfold onLeased at done
  split at done
  · cases done
    exact .refl
  rename_i row found
  split at done
  · rename_i leased
    exact marks row found leased done
  · cases done
    exact .refl

theorem applyDeterministicRejection_chain {stored : OutboxRow} {code : OutboxErrorCode}
    (found : db.outboxes.get id = some row) (same : stored.actionId = row.actionId)
    (commit : RowCommit w op id row (rejectedRow stored code) (some .failed))
    (records : Records w op id)
    (done : applyDeterministicRejection db id stored code = .ok after) :
    Chained w op db after := by
  obtain ⟨-, -, done⟩ := bind_eq_ok.mp done
  rw [same] at done
  have projected : projectReceipt (mirrorWritebackStatus
      (appendReceipt { db with outboxes := db.outboxes.set id (rejectedRow stored code) } id
        (localReceipt .failed)) row.actionId (localReceipt .failed).status) row.actionId
      (localReceipt .failed) false = .ok after := done
  exact projected_chain found commit (records.noted fun _ => Table.get_set_ne) projected

theorem markDelivery_chain {error : DeliveryError} (marks : op = .mark p)
    {queue : List OutboxId} (failed : w.memory p = .marking id error queue)
    (done : markDelivery db id error = .ok after) : Chained w op db after := by
  have noted : ∀ list, Noted w op db.receipts (db.receipts.set id list) :=
    fun _ => (Records.marked marks failed).noted fun _ => Table.get_set_ne
  unfold markDelivery at done
  split at done
  · refine onLeased_chain done fun row found leased marked => ?_
    obtain ⟨released, moved, marked⟩ := bind_eq_ok.mp marked
    cases marked
    exact stored_chain found (.deadLettered marks leased moved)
  · refine onLeased_chain done fun row found leased marked => ?_
    obtain ⟨-, -, marked⟩ := bind_eq_ok.mp marked
    have projected : projectReceipt (mirrorWritebackStatus
        (appendReceipt { db with outboxes := db.outboxes.set id (conflictRow row error.code) } id
          (localReceipt .conflict)) row.actionId (localReceipt .conflict).status) row.actionId
        (localReceipt .conflict) false = .ok after := marked
    exact projected_chain found (.conflicted _ marks leased) (noted _) projected
  · refine onLeased_chain done fun row found leased marked => ?_
    exact applyDeterministicRejection_chain found rfl (.rejected _ (.inl leased))
      (.marked marks failed) marked
  · refine onLeased_chain done fun row found leased marked => ?_
    obtain ⟨_, moved, marked⟩ := bind_eq_ok.mp marked
    cases marked
    exact mirrored_chain found rfl (.doubted marks leased moved) (noted _)

end

section Lookups

variable {w : World} {op : Op} {id : OutboxId} {row : OutboxRow} {safeRetry : Bool} {token : Nat}

theorem claimPaused_chain (found : w.db.outboxes.get id = some row)
    (free : pausedClaimable row now = true) (valid : Bool) :
    Chained w (.claimPaused id now valid) w.db
      (claimPaused w.db id row w.nextToken now valid).1 := by
  simp only [pausedClaimable, Bool.and_eq_true, beq_iff_eq, Option.isNone_iff_eq_none] at free
  obtain ⟨⟨paused, current⟩, -⟩ := free
  cases valid with
  | true => exact mirrored_chain found rfl (.tokened rfl current paused) (.refl _)
  | false => exact stored_chain found (.unparsed rfl)

theorem applyFound_chain (applies : Applying w op id row (.found receipt))
    (found : w.db.outboxes.get id = some row) (current : row.supersededByDispositionId = none)
    (paused : row.deliveryStatus = .paused)
    (done : applyFound w.db id row receipt = .ok after) :
    Chained w op w.db after := by
  unfold applyFound at done
  split at done
  · cases done
    exact mirrored_chain found rfl (.doubtful _ applies current paused) (.refl _)
  rename_i definite
  obtain ⟨-, -, done⟩ := bind_eq_ok.mp done
  have projected : projectReceipt (mirrorWritebackStatus
      { appendReceipt w.db id receipt with
        outboxes := w.db.outboxes.set id (foundRow row receipt.status) }
      row.actionId receipt.status) row.actionId receipt _ = .ok after := done
  exact projected_chain found (.found applies definite current paused)
    ((Records.found applies).noted fun _ => Table.get_set_ne) projected

theorem applyNotFound_chain (applies : Applying w op id row .notFound)
    (found : w.db.outboxes.get id = some row) (current : row.supersededByDispositionId = none)
    (paused : row.deliveryStatus = .paused)
    (done : applyNotFound w.db id row safeRetry = .ok after) :
    Chained w op w.db after := by
  unfold applyNotFound at done
  split at done
  · rename_i code
    exact applyDeterministicRejection_chain found rfl (.rejected _ (.inr ⟨paused, current⟩))
      (.refused applies code) done
  split at done
  · cases done
    exact mirrored_chain found rfl (.doubtful _ applies current paused) (.refl _)
  obtain ⟨⟨⟩, accepted, done⟩ := bind_eq_ok.mp done
  obtain rfl := eq_of_bind_pure done
  exact mirrored_chain found rfl
    (.requeued applies current paused (validateWriteback_unconfirmed accepted)) (.refl _)

theorem applyPausedLookupOutcome_chain {claim : PausedClaim} {outcome : PausedLookupOutcome}
    (applies : ∀ row, Held row token → Applying w op claim.outboxId row outcome)
    (done : applyPausedLookupOutcome w.db claim token outcome safeRetry = .ok after) :
    Chained w op w.db after := by
  unfold applyPausedLookupOutcome at done
  split at done
  · cases done
    exact .refl
  rename_i row found
  split at done
  · cases done
    exact .refl
  rename_i holds
  simp only [Bool.not_eq_true, Bool.not_eq_false'] at holds
  obtain ⟨paused, locked, current, -⟩ := claimHolds_iff.mp holds
  have applies := applies row ⟨paused, locked⟩
  split at done
  · cases done
    exact mirrored_chain found rfl (.doubtful _ applies current paused) (.refl _)
  · exact applyNotFound_chain applies found current paused done
  · exact applyFound_chain applies found current paused done

theorem stepApplyPaused_chain {raises : Bool} (applies : op = .applyPaused token safeRetry raises) :
    Chained w op w.db (stepApplyPaused w token safeRetry raises).db := by
  unfold stepApplyPaused
  split
  · exact .refl
  rename_i claim held
  split
  · exact .refl
  rename_i known
  split
  · exact .refl
  split
  · rename_i done
    exact applyPausedLookupOutcome_chain
      (fun row carries => ⟨token, safeRetry, claim, applies, held, rfl, known, carries⟩) done
  · exact .refl

theorem stepReleasePaused_chain (releases : op = .releasePaused token) :
    Chained w op w.db (stepReleasePaused w token).db := by
  unfold stepReleasePaused releasePausedClaim
  split
  · exact .refl
  split
  · split
    · exact .refl
    · rename_i found
      split
      · rename_i held
        exact stored_chain found (.released releases held.1)
      · exact .refl
  · exact .refl

def header (row : OutboxRow) : ActionId × Option DispositionId × Option WritebackStatus :=
  (row.actionId, row.supersededByDispositionId, row.latestWritebackStatus)

theorem pauseForRetry_header {paused : OutboxRow} (done : pauseForRetry row = .ok paused) :
    header paused = header row := by
  unfold pauseForRetry at done
  split at done
  iterate 2
    · obtain rfl := eq_of_bind_pure done
      rfl
  · cases done
    rfl

theorem lookedUpRow_header {written : OutboxRow} (done : lookedUpRow row status = .ok written) :
    header written = header (withStatus row status) := by
  unfold lookedUpRow at done
  split at done
  · split at done
    all_goals first
      | cases done
        rfl
      | obtain rfl := eq_of_bind_pure done
        rfl
  · cases done
    rfl

variable {replay : Option WritebackStatus} {env : LookupEnv}

theorem retryPaused_chain {result : RetryResult} (retries : op = .retry id replay env false)
    (found : w.db.outboxes.get id = some row) (passes : retryGate row replay = .ok .lookup)
    (done : retryPaused w.db id row env = .ok (after, result)) :
    Chained w op w.db after := by
  have retryable := retryGate_lookup passes
  obtain ⟨paused, pauses, done⟩ := bind_eq_ok.mp done
  have same : paused.actionId = row.actionId := congrArg Prod.fst (pauseForRetry_header pauses)
  cases decides : evaluateOperatorRetryLookup env row
      ((latestReceipt w.db id).bind Receipt.providerJobId) with
  | reconcileTerminal =>
    rw [decides] at done
    obtain ⟨rfl, -⟩ := Prod.mk.inj (eq_of_bind_pure done)
    exact mirrored_chain found same (.reconciled retries retryable pauses decides)
      ((Records.reconciled retries decides).noted fun _ => Table.get_set_ne)
  | blocked =>
    rw [decides] at done
    cases done
    exact stored_chain found (.stopped retries retryable pauses)
  | reEnqueue =>
    rw [decides] at done
    obtain ⟨rfl, -⟩ := Prod.mk.inj (eq_of_bind_pure done)
    obtain ⟨_, _, asked, cleared⟩ := retryCalls_cleared found passes decides
    exact mirrored_chain found same (.retried retries retryable pauses asked cleared) (.refl _)

theorem stepRetry_chain {raises : Bool} (retries : op = .retry id replay env raises) :
    Chained w op w.db (stepRetry w id replay env raises).db := by
  unfold stepRetry
  split
  · rename_i done
    unfold retryWriteback at done
    split at done
    · cases done
    rename_i found
    split at done
    · cases done
    · cases done
      exact .refl
    · cases done
      exact .refl
    rename_i gate
    split at done
    · cases done
    · rename_i paused
      cases done
      exact retryPaused_chain retries found gate paused
  · exact .refl

theorem updateWritebackStatusFromLookup_chain (looks : op = .updateFromLookup id status)
    (done : updateWritebackStatusFromLookup w.db id status = .ok after) :
    Chained w op w.db after := by
  unfold updateWritebackStatusFromLookup at done
  split at done
  · cases done
    exact .refl
  rename_i found
  obtain ⟨⟨⟩, accepted, done⟩ := bind_eq_ok.mp done
  obtain ⟨_, moved, done⟩ := bind_eq_ok.mp done
  cases done
  exact mirrored_chain found (congrArg Prod.fst (lookedUpRow_header moved))
    (.lookedUp looks (validateWriteback_unconfirmed accepted) moved) (.refl _)

theorem resolveWriteback_chain {resolution : Resolution} {hasEvidence intentRefused : Bool}
    (resolves : op = .resolve id resolution hasEvidence intentRefused)
    (done : resolveWriteback w.db id resolution hasEvidence intentRefused = .ok after) :
    Chained w op w.db after := by
  unfold resolveWriteback at done
  split at done
  · cases done
  split at done
  · cases done
  rename_i found
  split at done
  · cases done
    exact .refl
  split at done
  · cases done
  rename_i accepted
  split at done
  · cases done
  rename_i recorded
  cases done
  obtain rfl : intentRefused = false := by simpa using recorded
  exact mirrored_chain found rfl (.resolved resolves (validateWriteback_unconfirmed accepted))
    ((Records.resolved resolves).noted fun _ => Table.get_set_ne)

end Lookups

theorem commit_chain {ε : Type} {w : World} {op : Op} {result : Except ε Db}
    (chains : ∀ after, result = .ok after → Chained w op w.db after) :
    Chained w op w.db (w.commit result).db := by
  cases outcome : result with
  | error => exact .refl
  | ok after => exact chains after outcome

/-- **Every operation the service starts is a chain of its writes.** -/
theorem step_chain (name : ProcId → WorkerId) (w : World) {op : Op}
    (internal : op.internal = true) :
    Chained w op w.db (step name w op).db := by
  cases op with
  | enqueue | others => cases internal
  | deliverDirect id worker now env =>
    exact settle_chain (.inl ⟨worker, rfl⟩)
  | claim p now backoff ids =>
    simp only [step]
    rcases stepClaim_cases name w p now backoff ids with idle | ⟨db, claimed, done, taken⟩
    · rw [idle]
      exact .refl
    · rw [taken]
      obtain ⟨written, -, chain⟩ := (claimBatch_claimed rfl done).chain
      exact ⟨written, chain⟩
  | deliverClaimed p now env =>
    simp only [step, stepDeliverClaimed]
    split
    · rename_i id queue held
      exact settle_chain (.inr ⟨p, queue, rfl, held⟩)
    · exact .refl
  | mark =>
    simp only [step, stepMark]
    split
    · rename_i failed
      split
      · rename_i done
        exact markDelivery_chain rfl failed done
      · exact .refl
    · exact .refl
  | restart => exact .refl
  | claimPaused id _ valid =>
    simp only [step, stepClaimPaused]
    split
    · exact .refl
    rename_i found
    split
    · rename_i free
      have chain := claimPaused_chain found free valid
      split <;> rename_i same <;> rw [same] at chain <;> exact chain
    · exact .refl
  | lookupPaused =>
    simp only [step, stepLookupPaused]
    repeat' split
    all_goals exact .refl
  | applyPaused => exact stepApplyPaused_chain rfl
  | releasePaused => exact stepReleasePaused_chain rfl
  | retry => exact stepRetry_chain rfl
  | updateFromLookup =>
    exact commit_chain fun _ => updateWritebackStatusFromLookup_chain rfl
  | resolve => exact commit_chain fun _ => resolveWriteback_chain rfl

end ShadowTrace.Sync
