/-
**Fencing tokens and lost tasks.**

`step_at` says once what a call can do to a task, and `history_step` turns a fact that every write
keeps about its row and its history into an invariant. Two such facts are followed: which claims
were issued for the task, and whether its last worker left it running.
-/

import ShadowTrace.Tasks.Ledger

namespace ShadowTrace.Tasks

open Relational Fallible Machine

variable {digests : Digests}

/-! ### What a call writes -/

/-- The arguments that a call of a worker passes on to `_transition`. -/
def Worker.spec : Worker → Option Transition
  | .start _ _ => some startSpec
  | .complete => some completeSpec
  | .fail summary unknown => some (failSpec summary unknown)
  | .cancel => some cancelSpec
  | .expire => some expireSpec
  | .markDead summary => some (markDeadSpec summary)
  | .recordStagedArtifactHash _ _ _ => none

/-- **What a written transition has checked and what it leaves.** -/
structure Moved (digests : Digests) (spec : Transition) (claim : AgentTaskClaim) (now : Int)
    (row next : AgentTaskRow) : Prop where
  token : row.fencingTokenHash = some (digests.hashToken claim.fencingToken)
  lease : spec.target ≠ .expired → now ≤ claim.leaseExpiresAt
  required : row.status ∈ spec.requireStatus
  allowed : row.status = spec.target ∨ spec.target ∈ allowedTransitions false row.status
  status : next.status = spec.target
  attempt : next.attempt = row.attempt
  tokenKept : next.fencingTokenHash = none ∨ next.fencingTokenHash = row.fencingTokenHash

variable {claim : AgentTaskClaim} {now : Int} {row next : AgentTaskRow} {call : Worker}
  {spec : Transition}

theorem transition_moved (written : transition digests spec claim now row = .ok (some next)) :
    Moved digests spec claim now row next := by
  unfold transition at written
  by_cases ended : row.status.terminal = true
  · simp only [ended, if_true, check_bind, pure_eq_ok, reduceCtorEq, and_false] at written
  simp only [ended, Bool.false_eq_true, if_false, check_bind, validateAgentTaskTransition,
    pure_eq_ok, Option.some.injEq] at written
  obtain ⟨-, token, -, lease, required, allowed, rfl⟩ := written
  refine ⟨by simpa using token, fun other => ?_, by simpa using required,
    by simpa using allowed, rfl, ?_, ?_⟩
  · simpa [other] using lease
  · split <;> rfl
  split
  · exact .inl rfl
  · exact .inr rfl

/-- The statuses that a sweep takes a task from, and the one it takes it to. -/
def Sweep.moves : Sweep → List AgentTaskStatus × AgentTaskStatus
  | .expireStaleClaim => ([.claimed], .expired)
  | .reconcileStaleRunning _ => ([.running], .failed)
  | .reconcileCompletedWithoutArtifact => ([.completed], .failed)
  | .retryToQueue => ([.failed, .expired], .queued)

theorem sweep_moves {call : Sweep} {tenantId : String}
    (written : call.run tenantId now row = .ok next) :
    row.status ∈ call.moves.1 ∧ next.status = call.moves.2 ∧ next.attempt = row.attempt
      ∧ next.fencingTokenHash = none := by
  cases call <;>
    simp only [Sweep.run, check_bind, validateAgentTaskTransition, pure_eq_ok] at written
  case' expireStaleClaim => obtain ⟨-, status, -, -, rfl⟩ := written
  case' reconcileStaleRunning => obtain ⟨-, status, -, rfl⟩ := written
  case' reconcileCompletedWithoutArtifact => obtain ⟨-, status, rfl⟩ := written
  case' retryToQueue => obtain ⟨-, -, status, -, rfl⟩ := written
  all_goals exact ⟨by simpa [Sweep.moves] using status, rfl, rfl, rfl⟩

/-- **The writes to the row of a task**, one constructor for each kind of call. -/
inductive Wrote (digests : Digests) : Op → String → AgentTaskRow → AgentTaskRow → Entry → Prop
  | claimed (request : AgentTaskClaimRequest) (token : String) (now : Int)
      (row next : AgentTaskRow) :
      row.status = .queued ∨ row.status = .claimed →
      next.status = .claimed →
      next.attempt = row.attempt + 1 →
      next.fencingTokenHash = some (digests.hashToken token) →
      Wrote digests (.claim request token now) request.taskId row next
        (.claimed (issuedClaim request token now row))
  | moved (call : Worker) (spec : Transition) (claim : AgentTaskClaim) (now : Int)
      (row next : AgentTaskRow) :
      call.spec = some spec →
      Moved digests spec claim now row next →
      Wrote digests (.work call claim now) claim.taskId row next (.worked claim.taskId call)
  | staged (tenantId key hash : String) (claim : AgentTaskClaim) (now : Int)
      (row next : AgentTaskRow) :
      row.status = .running →
      row.attempt = claim.attempt →
      next = { row with goal := row.goal.stage key hash, updatedAt := now } →
      Wrote digests (.work (.recordStagedArtifactHash tenantId key hash) claim now) claim.taskId
        row next (.worked claim.taskId (.recordStagedArtifactHash tenantId key hash))
  | swept (call : Sweep) (taskId tenantId : String) (now : Int) (row next : AgentTaskRow) :
      row.status ∈ call.moves.1 →
      next.status = call.moves.2 →
      next.attempt = row.attempt →
      next.fencingTokenHash = none →
      Wrote digests (.sweep call taskId tenantId now) taskId row next (.swept taskId call)

theorem claimRow_wrote {request : AgentTaskClaimRequest} {token : String}
    (written : claimRow request (digests.hashToken token) now row = .ok next) :
    Wrote digests (.claim request token now) request.taskId row next
      (.claimed (issuedClaim request token now row)) := by
  simp only [claimRow, check_bind, validateAgentTaskTransition, pure_eq_ok] at written
  obtain ⟨-, -, -, -, claimable, -, rfl⟩ := written
  exact .claimed request token now row _ (by simpa using claimable) rfl rfl rfl

theorem workerRun_wrote (written : call.run digests claim now row = .ok (some next)) :
    Wrote digests (.work call claim now) claim.taskId row next (.worked claim.taskId call) := by
  cases call with
  | recordStagedArtifactHash tenantId key hash =>
    simp only [Worker.run, Tasks.recordStagedArtifactHash, map_eq_ok, check_bind, pure_eq_ok,
      beq_iff_eq] at written
    obtain ⟨_, ⟨-, -, running, attempt, rfl⟩, same⟩ := written
    exact .staged tenantId key hash claim now row next running attempt (Option.some.inj same).symm
  | start =>
    obtain ⟨_, -, moved⟩ := bind_eq_ok.mp written
    exact .moved _ startSpec claim now row next rfl (transition_moved moved)
  | complete | fail | cancel | expire | markDead =>
    exact .moved _ _ claim now row next rfl (transition_moved written)

/-- **What a call comes to**: it leaves everything, adds a queued task or writes one row. -/
def Comes (digests : Digests) (w : World) (op : Op) (after : World) : Prop :=
  after = w
    ∨ (∃ taskId request now, w.tasks.get taskId = none
        ∧ after = { w with tasks := w.tasks.set taskId (queuedRow request now) }
        ∧ op = .enqueue taskId request now)
    ∨ ∃ taskId row next entry, w.tasks.get taskId = some row
        ∧ Wrote digests op taskId row next entry
        ∧ after = ⟨w.tasks.set taskId next, entry :: w.log⟩

theorem step_cases (digests : Digests) (w : World) (op : Op) :
    Comes digests w op (step digests w op) := by
  have onRow {taskId : String}
      {change : AgentTaskRow → Except TaskError (Option (AgentTaskRow × Entry))}
      (writes : ∀ row next entry, change row = .ok (some (next, entry)) →
        Wrote digests op taskId row next entry) :
      Comes digests w op (w.onRow taskId change) := by
    unfold World.onRow
    split
    · exact .inl rfl
    rename_i row found
    split
    · rename_i next entry written
      exact .inr (.inr ⟨taskId, row, next, entry, found, writes row next entry written, rfl⟩)
    · exact .inl rfl
  cases op with
  | enqueue taskId request now =>
    by_cases refused : digests.parameterBytes request.goal > maxGoalParametersBytes
        || w.violates taskId request
    · exact .inl (if_pos refused)
    refine .inr (.inl ⟨taskId, request, now, ?_, if_neg refused, rfl⟩)
    have absent : (w.tasks.get taskId).isSome = false := by
      simp only [World.violates, Bool.or_eq_true, not_or, Bool.not_eq_true] at refused
      exact refused.2.1
    simpa using absent
  | claim =>
    refine onRow fun row next entry written => ?_
    obtain ⟨_, claimed, same⟩ := map_eq_ok.mp written
    cases same
    exact claimRow_wrote claimed
  | work =>
    refine onRow fun row next entry written => ?_
    obtain ⟨_, worked, same⟩ := map_eq_ok.mp written
    obtain ⟨_, rfl, same⟩ := Option.map_eq_some_iff.mp same
    cases same
    exact workerRun_wrote worked
  | sweep call taskId tenantId now =>
    refine onRow fun row next entry written => ?_
    obtain ⟨_, swept, same⟩ := map_eq_ok.mp written
    cases same
    obtain ⟨source, target, attempt, token⟩ := sweep_moves swept
    exact .swept call taskId tenantId now row _ source target attempt token

/-! ### The history of a task -/

variable (w : World) (op : Op) (taskId : String)

def World.history : List Entry :=
  w.log.filter (·.taskId = taskId)

theorem wrote_taskId {op : Op} {taskId : String} {entry : Entry}
    (wrote : Wrote digests op taskId row next entry) : entry.taskId = taskId := by
  cases wrote <;> rfl

/-- **What a call does to one task**: nothing, the insert of its row, or one write. -/
theorem step_at (digests : Digests) (w : World) (op : Op) (taskId : String) :
    ((step digests w op).tasks.get taskId = w.tasks.get taskId
        ∧ (step digests w op).history taskId = w.history taskId)
      ∨ (∃ request now, op = .enqueue taskId request now ∧ w.tasks.get taskId = none
          ∧ (step digests w op).tasks.get taskId = some (queuedRow request now)
          ∧ (step digests w op).history taskId = w.history taskId)
      ∨ ∃ row next entry, w.tasks.get taskId = some row
          ∧ Wrote digests op taskId row next entry
          ∧ (step digests w op).tasks.get taskId = some next
          ∧ (step digests w op).history taskId = entry :: w.history taskId := by
  obtain same | ⟨queuedId, request, now, absent, after, isEnqueue⟩
      | ⟨writtenId, row, next, entry, found, wrote, after⟩ := step_cases digests w op
  · exact .inl (by rw [same]; exact ⟨rfl, rfl⟩)
  · rw [after]
    by_cases this : taskId = queuedId
    · subst this
      exact .inr (.inl ⟨request, now, isEnqueue, absent, Table.get_set_self, rfl⟩)
    · exact .inl ⟨Table.get_set_ne this, rfl⟩
  rw [after]
  have entryId := wrote_taskId wrote
  by_cases this : taskId = writtenId
  · subst this
    refine .inr (.inr ⟨row, next, entry, found, wrote, Table.get_set_self, ?_⟩)
    simp [World.history, entryId]
  · have other : entry.taskId ≠ taskId := fun same => this (same.symm.trans entryId)
    exact .inl ⟨Table.get_set_ne this, by simp [World.history, other]⟩

def World.all (fact : Option AgentTaskRow → List Entry → Prop) (w : World) : Prop :=
  ∀ taskId, fact (w.tasks.get taskId) (w.history taskId)

/-- **A call keeps what every write keeps** of the row of a task and its history. -/
theorem history_step {fact : Option AgentTaskRow → List Entry → Prop}
    (queued : ∀ request now history, fact none history →
      fact (some (queuedRow request now)) history)
    (written : ∀ op taskId row next entry history, Wrote digests op taskId row next entry →
      fact (some row) history → fact (some next) (entry :: history))
    (w : World) (op : Op) (holds : w.all fact) : (step digests w op).all fact := by
  intro taskId
  have here := holds taskId
  obtain ⟨row, history⟩ | ⟨request, now, -, absent, added, history⟩
      | ⟨row, next, entry, found, wrote, set, history⟩ :=
    step_at digests w op taskId
  · rw [row, history]
    exact here
  · rw [added, history]
    exact queued request now _ (absent ▸ here)
  · rw [set, history]
    exact written op taskId row next entry _ wrote (found ▸ here)

/-! ### Claims and tokens -/

def claims (history : List Entry) : List AgentTaskClaim :=
  history.filterMap fun
    | .claimed claim => some claim
    | _ => none

/-- The claim that the latest successful call of `claim` returned. -/
def World.latestClaim : Option AgentTaskClaim :=
  (claims (w.history taskId)).head?

/-- **The row knows the claims issued for it**: their attempts are its own or earlier ones, only the
latest claim has the attempt of the row, and a token hash in the row is the hash of its token. -/
def Issued (digests : Digests) : Option AgentTaskRow → List Entry → Prop
  | none, history => claims history = []
  | some row, history =>
    (∀ claim ∈ claims history, claim.attempt ≤ row.attempt)
      ∧ (∀ claim ∈ claims history, claim.attempt = row.attempt →
          (claims history).head? = some claim)
      ∧ ∀ hash, row.fencingTokenHash = some hash →
          ∃ latest, (claims history).head? = some latest
            ∧ digests.hashToken latest.fencingToken = hash

/-- A write that issues no claim keeps the attempt, and it keeps the token or clears it. -/
theorem issued_of_quiet {entry : Entry} {history : List Entry}
    (quiet : claims (entry :: history) = claims history) (attempt : next.attempt = row.attempt)
    (token : next.fencingTokenHash = none ∨ next.fencingTokenHash = row.fencingTokenHash)
    (issued : Issued digests (some row) history) :
    Issued digests (some next) (entry :: history) := by
  obtain ⟨bounded, latest, hashed⟩ := issued
  simp only [Issued, quiet, attempt]
  refine ⟨bounded, latest, fun hash same => ?_⟩
  obtain cleared | kept := token
  · simp [cleared] at same
  · exact hashed hash (kept ▸ same)

theorem wrote_issued (row next : AgentTaskRow) (entry : Entry) (history : List Entry)
    (wrote : Wrote digests op taskId row next entry) (issued : Issued digests (some row) history) :
    Issued digests (some next) (entry :: history) := by
  cases wrote with
  | claimed request token now _ _ _ _ attempt hashed =>
    have latest : claims (.claimed (issuedClaim request token now row) :: history)
        = issuedClaim request token now row :: claims history := rfl
    have number : (issuedClaim request token now row).attempt = row.attempt + 1 := rfl
    simp only [Issued, latest, attempt, List.mem_cons]
    refine ⟨fun claim mem => ?_, fun claim mem same => ?_, fun hash same => ?_⟩
    · obtain rfl | earlier := mem
      · omega
      · exact Nat.le_succ_of_le (issued.1 claim earlier)
    · obtain rfl | earlier := mem
      · rfl
      · have := issued.1 claim earlier
        omega
    · exact ⟨_, rfl, Option.mem_unique hashed same⟩
  | moved _ _ _ _ _ _ _ moved => exact issued_of_quiet rfl moved.attempt moved.tokenKept issued
  | staged _ _ _ _ _ _ _ _ _ same =>
    exact issued_of_quiet rfl (by rw [same]) (.inr (by rw [same])) issued
  | swept _ _ _ _ _ _ _ _ attempt token => exact issued_of_quiet rfl attempt (.inl token) issued

theorem issued_step (issued : w.all (Issued digests)) :
    (step digests w op).all (Issued digests) := by
  refine history_step (fun request now history absent => ?_) wrote_issued w op issued
  have none : claims history = [] := absent
  simp [Issued, none, queuedRow]

/-! ### Only the current token changes a task -/

/-- **A call that takes a claim changes a task only under the token of its latest claim**, and no
later than the lease of that claim, `expire` apart. -/
def Fenced (after : World) : Prop :=
  ∀ call claim now taskId, op = .work call claim now → after.tasks.get taskId ≠ w.tasks.get taskId →
    ∃ latest, w.latestClaim taskId = some latest ∧ claim.fencingToken = latest.fencingToken
      ∧ (call ≠ .expire → now ≤ latest.leaseExpiresAt)

/-- **What the service leaves to its callers.** A claim that is presented states no later end of its
lease than the one issued with its token, and a staged hash is recorded with a claim as it was
issued, before its lease ends. -/
def Presented : Op → Prop
  | .work (.recordStagedArtifactHash _ _ _) claim now =>
    claim ∈ claims (w.history claim.taskId) ∧ now ≤ claim.leaseExpiresAt
  | .work _ claim _ =>
    ∀ issued ∈ claims (w.history claim.taskId), issued.fencingToken = claim.fencingToken →
      claim.leaseExpiresAt ≤ issued.leaseExpiresAt
  | _ => True

theorem presented_lease {w : World} (passed : call.spec = some spec)
    (presented : Presented w (.work call claim now)) {issued : AgentTaskClaim}
    (mem : issued ∈ claims (w.history claim.taskId))
    (same : issued.fencingToken = claim.fencingToken) :
    claim.leaseExpiresAt ≤ issued.leaseExpiresAt := by
  cases call with
  | recordStagedArtifactHash => simp [Worker.spec] at passed
  | _ => exact presented issued mem same

theorem spec_expired (passed : call.spec = some spec) (other : call ≠ .expire) :
    spec.target ≠ .expired := by
  cases call with
  | expire => exact absurd rfl other
  | recordStagedArtifactHash => simp [Worker.spec] at passed
  | fail _ unknown =>
    cases passed
    cases unknown <;> simp [failSpec]
  | _ =>
    cases passed
    simp [startSpec, completeSpec, cancelSpec, markDeadSpec]

theorem step_fenced (issued : w.all (Issued digests)) (presented : Presented w op) :
    Fenced w op (step digests w op) := by
  intro _ claim now taskId isWork changed
  obtain ⟨same, -⟩ | ⟨_, _, isEnqueue, -⟩ | ⟨_, _, _, found, wrote, -⟩ :=
    step_at digests w op taskId
  · exact absurd same changed
  · exact absurd (isWork.symm.trans isEnqueue) (by simp)
  have known := issued taskId
  rw [found] at known
  obtain ⟨-, latest, hashed⟩ := known
  subst isWork
  cases wrote with
  | moved _ _ _ _ _ _ passed moved =>
    obtain ⟨last, head, sameHash⟩ := hashed _ moved.token
    have sameToken := digests.injective sameHash
    refine ⟨last, head, sameToken.symm, fun other => ?_⟩
    calc now ≤ claim.leaseExpiresAt := moved.lease (spec_expired passed other)
      _ ≤ last.leaseExpiresAt :=
        presented_lease passed presented (List.mem_of_mem_head? head) sameToken
  | staged _ _ _ _ _ _ _ _ attempt =>
    exact ⟨claim, latest claim presented.1 attempt.symm, rfl, fun _ => presented.2⟩

/-- **Only the current fencing token changes a task**, in every run in which the presented claims
are those that were issued. -/
theorem ledger_fenced (digests : Digests) (ops : List Op)
    (presented : Along (step digests) Presented .fresh ops) {before after : World} {op : Op}
    (occurs : Occurs (step digests) .fresh ops before op after) : Fenced before op after := by
  have fresh : World.fresh.all (Issued digests) := fun _ => rfl
  exact occurs_invariant Presented (World.all (Issued digests)) Fenced
    (fun w op issued _ => issued_step w op issued) step_fenced fresh presented occurs

section Runs

def plainDigests : Digests := ⟨id, fun _ => 0, fun _ _ same => same⟩

def sampleRequest : AgentTaskEnqueueRequest :=
  ⟨"event", "tenant", ⟨"1.0", "risk_score", [], [], [], none⟩, "key"⟩

def sampleClaim : AgentTaskClaim := ⟨"task", "token-of-the-worker", 300, 1, "worker", 1⟩

def startedRun : List Op :=
  [.enqueue "task" sampleRequest 0,
    .claim ⟨"task", "worker", "tenant", 300⟩ "token-of-the-worker" 0,
    .work (.start "tenant" ⟨false, false, none⟩) sampleClaim 1]

/-- The worker stages a hash of 64 characters, with the claim that is given. -/
def stageWith (claim : AgentTaskClaim) : Op :=
  .work (.recordStagedArtifactHash "tenant" "risk_assessment"
    "0123456789abcdef0123456789abcdef0123456789abcdef0123456789abcdef") claim 2

theorem ledger_fenced_staged :
    Fenced (run (step plainDigests) .fresh startedRun) (stageWith sampleClaim)
      (step plainDigests (run (step plainDigests) .fresh startedRun) (stageWith sampleClaim)) := by
  refine ledger_fenced plainDigests (startedRun ++ [stageWith sampleClaim]) ?_ (occurs_last _ _ _)
  refine ⟨trivial, trivial, fun issued mem _ => ?_, ⟨by decide, by decide⟩, trivial⟩
  have only : issued ∈ [sampleClaim] := mem
  obtain rfl := List.mem_singleton.mp only
  exact Int.le_refl _

/-- A staged hash is recorded under a token that was never issued. -/
theorem staged_unfenced :
    ∃ ops before op after, Occurs (step plainDigests) .fresh ops before op after
      ∧ ¬ Fenced before op after := by
  refine ⟨startedRun ++ [stageWith { sampleClaim with fencingToken := "another-token-value" }],
    _, _, _, occurs_last _ _ _, fun fenced => ?_⟩
  obtain ⟨latest, isLatest, token, -⟩ := fenced _ _ _ "task" rfl (by decide)
  have issued : (run (step plainDigests) .fresh startedRun).latestClaim "task" = some sampleClaim :=
    by decide
  obtain rfl := Option.mem_unique issued isLatest
  exact absurd token (by decide)

end Runs

/-! ### Tasks whose worker is lost -/

/-- **The last worker moved the task to RUNNING and reported no outcome.** Sweeps, retries and
staged hashes are no reports; a new claim makes another worker the last one. -/
def lost : List Entry → Bool
  | [] => false
  | .claimed _ :: _ => false
  | .worked _ (.start _ _) :: _ => true
  | .worked _ (.recordStagedArtifactHash _ _ _) :: earlier => lost earlier
  | .worked _ _ :: _ => false
  | .swept _ _ :: earlier => lost earlier

/-- `reconcile_stale_running` marked the task FAILED since it was last claimed. -/
def foundStale : List Entry → Bool
  | [] => false
  | .claimed _ :: _ => false
  | .swept _ (.reconcileStaleRunning _) :: _ => true
  | _ :: earlier => foundStale earlier

def LostTracked : Option AgentTaskRow → List Entry → Prop
  | none, history => history = []
  | some row, history =>
    lost history = true → row.status = .running
      ∨ foundStale history = true ∧ (row.status = .failed ∨ row.status = .queued)

theorem wrote_lostTracked (row next : AgentTaskRow) (entry : Entry) (history : List Entry)
    (wrote : Wrote digests op taskId row next entry) (tracked : LostTracked (some row) history) :
    LostTracked (some next) (entry :: history) := by
  intro isLost
  cases wrote with
  | claimed => exact absurd isLost (by simp [lost])
  | moved call _ _ _ _ _ passed moved =>
    cases call with
    | start =>
      cases passed
      exact .inl moved.status
    | recordStagedArtifactHash => simp [Worker.spec] at passed
    | _ => exact absurd isLost (by simp [lost])
  | staged _ _ _ _ _ _ _ running _ same =>
    rw [same]
    exact .inl running
  | swept call _ _ _ _ _ source target =>
    have was := tracked isLost
    cases call with
    | reconcileStaleRunning => exact .inr ⟨rfl, .inl target⟩
    | expireStaleClaim =>
      have claimed : row.status = .claimed := by simpa [Sweep.moves] using source
      simp [claimed] at was
    | reconcileCompletedWithoutArtifact =>
      have completed : row.status = .completed := by simpa [Sweep.moves] using source
      simp [completed] at was
    | retryToQueue =>
      obtain running | ⟨stale, -⟩ := was
      · simp [Sweep.moves, running] at source
      · exact .inr ⟨stale, .inr target⟩

theorem lostTracked_step (tracked : w.all LostTracked) : (step digests w op).all LostTracked := by
  refine history_step (fun request now history absent => ?_) wrote_lostTracked w op tracked
  obtain rfl : history = [] := absent
  intro isLost
  simp [lost] at isLost

/-- The task went back to the queue. -/
def Requeued (before after : World) (taskId : String) : Prop :=
  ∃ row next, before.tasks.get taskId = some row ∧ after.tasks.get taskId = some next
    ∧ row.status ≠ .queued ∧ next.status = .queued

theorem step_requeued (tracked : w.all LostTracked) (taskId : String)
    (requeued : Requeued w (step digests w op) taskId)
    (isLost : lost (w.history taskId) = true) : foundStale (w.history taskId) = true := by
  obtain ⟨_, _, found, after, notQueued, queued⟩ := requeued
  have was := tracked taskId
  rw [found] at was
  obtain running | ⟨stale, -⟩ := was isLost
  · -- no write takes a running task to the queue
    exfalso
    obtain ⟨same, -⟩ | ⟨_, _, -, absent, -⟩ | ⟨_, _, _, here, wrote, set, -⟩ :=
      step_at digests w op taskId
    · obtain rfl := Option.some.inj ((after.symm.trans same).trans found)
      exact notQueued queued
    · exact absurd (found.symm.trans absent) (by simp)
    obtain rfl := Option.mem_unique found here
    obtain rfl := Option.mem_unique after set
    cases wrote with
    | claimed _ _ _ _ _ source => simp [running] at source
    | moved _ _ _ _ _ _ _ moved =>
      have allowed := moved.allowed
      simp [moved.status.symm.trans queued, running, allowedTransitions] at allowed
    | staged _ _ _ _ _ _ _ _ _ same =>
      rw [same] at queued
      exact notQueued queued
    | swept call _ _ _ _ _ source target =>
      rw [running] at source
      rw [queued] at target
      cases call <;> simp [Sweep.moves] at source target
  · exact stale

/-- **A lost task returns to the queue only after the stale sweep has ended it.** -/
theorem lost_requeued_after_sweep (digests : Digests) (ops : List Op) {before after : World}
    {op : Op} (occurs : Occurs (step digests) .fresh ops before op after) (taskId : String)
    (requeued : Requeued before after taskId) (isLost : lost (before.history taskId) = true) :
    foundStale (before.history taskId) = true := by
  have fresh : World.fresh.all LostTracked := fun _ => rfl
  exact occurs_invariant (fun _ _ => True) (World.all LostTracked)
    (fun before _ after => ∀ taskId, Requeued before after taskId →
      lost (before.history taskId) = true → foundStale (before.history taskId) = true)
    (fun w op tracked _ => lostTracked_step w op tracked)
    (fun w op tracked _ => step_requeued w op tracked)
    fresh (along_true _ _) occurs taskId requeued isLost

/-- The worker stays silent for longer than `stale_after_seconds`. -/
def sweptRun : List Op :=
  startedRun ++ [.sweep (.reconcileStaleRunning 300) "task" "tenant" 400]

theorem sweptRun_requeued : Requeued (run (step plainDigests) .fresh sweptRun)
      (step plainDigests (run (step plainDigests) .fresh sweptRun)
        (.sweep .retryToQueue "task" "tenant" 401)) "task" :=
  ⟨_, _, rfl, rfl, by decide, by decide⟩

theorem lost_requeued_swept :
    foundStale ((run (step plainDigests) .fresh sweptRun).history "task") = true :=
  lost_requeued_after_sweep plainDigests _ (occurs_last _ _ _) "task" sweptRun_requeued (by decide)

/-- **The stale sweep takes a lost worker for one without side effects**, so that its task is
repeated. -/
theorem lost_requeued :
    ∃ ops before op after, Occurs (step plainDigests) .fresh ops before op after
      ∧ Requeued before after "task" ∧ lost (before.history "task") = true :=
  ⟨_, _, _, _, occurs_last _ sweptRun _, sweptRun_requeued, by decide⟩

end ShadowTrace.Tasks
