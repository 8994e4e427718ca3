/-
**The writeback service as a machine.**

A `World` is the database, what the running processes hold in memory between their transactions, and
the list of adapter calls made so far. An `Op` is one committed or rolled back transaction, or one
provider lookup outside a transaction; it carries the clock and every answer of the outside.
`others` stands for the rest of the application: it may rewrite every table except the outboxes and
the receipts.
-/

import ShadowTrace.Lib.Runs
import ShadowTrace.Sync.Operator

namespace ShadowTrace.Sync

open Relational

abbrev ProcId := Nat

/-- What a worker remembers between two transactions. -/
inductive WorkerMemory
  | idle
  | delivering (queue : List OutboxId)
  | marking (outbox : OutboxId) (error : DeliveryError) (queue : List OutboxId)

/-- The database, what each worker remembers, and the calls made so far. -/
structure World where
  db : Db
  workers : Table ProcId WorkerMemory
  claims : Table Nat PausedClaim
  nextToken : Nat
  calls : List AdapterCall

variable (name : ProcId → WorkerId) (w : World) (p : ProcId)

def World.memory : WorkerMemory :=
  (w.workers.get p).getD .idle

/-- The tables that the rest of the application writes too. -/
structure Foreign extends Surroundings where
  actions : Table ActionId ActionRow := .empty
  approvals : Table (ActionId × Nat) ApprovalRow := .empty
  jobs : Table JobId JobRow := .empty

/-- A transaction of the service, or one that another service commits. -/
inductive Op
  | enqueue (args : EnqueueArgs)
  | deliverDirect (id : OutboxId) (worker : WorkerId) (now : Time) (env : DeliveryEnv)
  | claim (p : ProcId) (now : Time) (backoff : Nat) (ids : List OutboxId)
  | deliverClaimed (p : ProcId) (now : Time) (env : DeliveryEnv)
  | mark (p : ProcId)
  | restart (p : ProcId)
  | claimPaused (id : OutboxId) (now : Time) (valid : Bool)
  | lookupPaused (token : Nat) (env : LookupEnv)
  | applyPaused (token : Nat) (safeRetry raises : Bool)
  | releasePaused (token : Nat)
  | retry (id : OutboxId) (replay : Option WritebackStatus) (env : LookupEnv) (raises : Bool)
  | updateFromLookup (id : OutboxId) (status : WritebackStatus)
  | resolve (id : OutboxId) (resolution : Resolution) (hasEvidence intentRefused : Bool)
  | others (tables : Foreign)

/-- The operations only this service starts: the rest of the application enqueues commands inside
its own transactions. -/
def Op.internal : Op → Bool
  | .enqueue _ | .others _ => false
  | _ => true

def World.commit {ε : Type} (w : World) : Except ε Db → World
  | .ok db => { w with db }
  | .error _ => w

section

variable (token : Nat) (id : OutboxId) (now : Time) (backoff : Nat) (ids : List OutboxId)

def afterDelivery (queue : List OutboxId) : Except DeliveryError Db → WorkerMemory
  | .ok _ => .delivering queue
  | .error error => .marking id error queue

def stepDeliverClaimed (env : DeliveryEnv) : World :=
  match w.memory p with
  | .delivering (id :: queue) =>
    let tx := deliverOutbox w.db id (name p) now env
    { w with
      db := tx.settle w.db
      workers := w.workers.set p (afterDelivery id queue tx.outcome)
      calls := w.calls ++ tx.calls }
  | _ => w

def stepClaim : World :=
  match w.memory p with
  | .idle | .delivering [] =>
    match claimBatch w.db { worker := name p, now, backoff } ids with
    | .ok (db, claimed) => { w with db, workers := w.workers.set p (.delivering claimed) }
    | .error _ => w
  | _ => w

theorem stepClaim_cases : stepClaim name w p now backoff ids = w
      ∨ ∃ db claimed,
        claimBatch w.db { worker := name p, now, backoff } ids = .ok (db, claimed)
          ∧ stepClaim name w p now backoff ids
            = { w with db, workers := w.workers.set p (.delivering claimed) } := by
  unfold stepClaim
  cases claimBatch w.db { worker := name p, now, backoff } ids with
  | error =>
    left
    split <;> rfl
  | ok next =>
    split
    iterate 2 exact .inr ⟨next.1, next.2, rfl, rfl⟩
    · exact .inl rfl

/-- The worker writes down a failed delivery. If that raises too, `run_once` ends. -/
def stepMark : World :=
  match w.memory p with
  | .marking id error queue =>
    match markDelivery w.db id error with
    | .ok db => { w with db, workers := w.workers.set p (.delivering queue) }
    | .error _ => { w with workers := w.workers.set p .idle }
  | _ => w

def stepClaimPaused (valid : Bool) : World :=
  match w.db.outboxes.get id with
  | none => w
  | some row =>
    if pausedClaimable row now then
      match claimPaused w.db id row w.nextToken now valid with
      | (db, some claim) =>
        { w with db, claims := w.claims.set w.nextToken claim, nextToken := w.nextToken + 1 }
      | (db, none) => { w with db }
    else w

def stepLookupPaused (env : LookupEnv) : World :=
  match w.claims.get token with
  | none => w
  | some claim =>
    if claim.outcome = none then
      { w with
        claims := w.claims.set token { claim with outcome := some (lookupPaused env claim) }
        calls := w.calls ++ lookupPausedCalls env claim }
    else w

def stepApplyPaused (safeRetry raises : Bool) : World :=
  match w.claims.get token with
  | none => w
  | some claim =>
    match claim.outcome with
    | none => w
    | some outcome =>
      if claim.applyFailed then w
      else
        match raises, applyPausedLookupOutcome w.db claim token outcome safeRetry with
        | false, .ok db => { w with db }
        | _, _ => { w with claims := w.claims.set token { claim with applyFailed := true } }

def stepReleasePaused : World :=
  match w.claims.get token with
  | none => w
  | some claim =>
    if claim.applyFailed then { w with db := releasePausedClaim w.db claim token }
    else w

def stepRetry (replay : Option WritebackStatus) (env : LookupEnv) (raises : Bool) : World :=
  let called := { w with calls := w.calls ++ retryCalls w.db id replay env }
  match raises, retryWriteback w.db id replay env with
  | false, .ok (db, _) => { called with db }
  | _, _ => called

end

def step : Op → World
  | .enqueue args => w.commit ((enqueueCommand w.db args).map Prod.fst)
  | .deliverDirect id worker now env =>
    let tx := deliverOutbox w.db id worker now env
    { w with db := tx.settle w.db, calls := w.calls ++ tx.calls }
  | .claim p now backoff ids => stepClaim name w p now backoff ids
  | .deliverClaimed p now env => stepDeliverClaimed name w p now env
  | .mark p => stepMark w p
  | .restart p => { w with workers := w.workers.set p .idle }
  | .claimPaused id now valid => stepClaimPaused w id now valid
  | .lookupPaused token env => stepLookupPaused w token env
  | .applyPaused token safeRetry raises => stepApplyPaused w token safeRetry raises
  | .releasePaused token => stepReleasePaused w token
  | .retry id replay env raises => stepRetry w id replay env raises
  | .updateFromLookup id status => w.commit (updateWritebackStatusFromLookup w.db id status)
  | .resolve id resolution hasEvidence intentRefused =>
    w.commit (resolveWriteback w.db id resolution hasEvidence intentRefused)
  | .others tables =>
    { w with db := { w.db with
        events := tables.events, reports := tables.reports, sources := tables.sources
        actions := tables.actions, approvals := tables.approvals, jobs := tables.jobs } }

/-- A service that has not run yet: other tables may be filled, the queue is empty. -/
def World.initial (tables : Foreign) : World where
  db := { tables with }
  workers := .empty
  claims := .empty
  nextToken := 0
  calls := []

end ShadowTrace.Sync
