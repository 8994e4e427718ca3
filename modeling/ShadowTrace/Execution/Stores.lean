/-
**The two job stores** (`cas_update_job` of `DbExecutionJobStore` and `InMemoryExecutionJobStore`).

Both compare the status of a job with the one the caller has seen and then replace the job. The
store in memory validates a change of status and keeps the update as it is; the one in the database
writes the columns of `_apply_job_row`, stamps `updated_at`, and puts redacted target results in a
table of their own, which refuses duplicates and contradictions. `Text` and `Raw` stand for strings
and JSON objects.
-/

import Mathlib.Data.List.Sort
import ShadowTrace.Lib.Runs
import ShadowTrace.Execution.Runner

namespace ShadowTrace.Execution

open Relational Machine

/-! ### Jobs -/

inductive TargetExecutionStatus
  | success | failed | unknown | skipped
  deriving DecidableEq

section

variable (Text Raw : Type)

/-- The outcome on one target of a job. -/
structure TargetExecutionResult where
  canonicalTarget : Text
  status : TargetExecutionStatus
  code : Option Text
  message : Option Text
  artifactId : Option Text
  rawResult : Raw

/-- What a job is about. -/
structure JobIdentity where
  eventId : EventId
  actionId : ActionId
  idempotencyKey : ExecutionKey
  createdAt : Option Time

structure JobState where
  status : ExecutionJobStatus
  providerName : Text
  providerJobId : Option Nat
  providerCode : Option Text
  providerMessage : Option Text
  rawResult : Raw
  claimedBy : Option Text
  leaseExpiresAt : Option Time
  pollAfterMs : Option Nat
  attempt : Nat
  startedAt : Option Time
  finishedAt : Option Time

structure ActionExecutionJob extends JobIdentity, JobState Text Raw where
  updatedAt : Option Time
  targetResults : List (TargetExecutionResult Text Raw)
  legacyTargetResults : Bool

structure JobRecord extends JobIdentity, JobState Text Raw where
  updatedAt : Option Time

/-! ### Target results -/

/-- The sanitisers. -/
structure Redaction where
  text : Text → Text
  raw : Raw → Raw

end

section Targets

variable {Text Raw : Type} [LinearOrder Text]

section

variable (redact : Redaction Text Raw) (result : TargetExecutionResult Text Raw)
  (targets : List (TargetExecutionResult Text Raw))

def sanitizeTargetExecutionResult : TargetExecutionResult Text Raw :=
  { result with
    code := result.code.map redact.text
    message := result.message.map redact.text
    artifactId := result.artifactId.map redact.text
    rawResult := redact.raw result.rawResult }

def sortTargets : List (TargetExecutionResult Text Raw) :=
  targets.insertionSort fun first second => first.canonicalTarget ≤ second.canonicalTarget

def normalizeTargets : List (TargetExecutionResult Text Raw) :=
  sortTargets (targets.map (sanitizeTargetExecutionResult redact))

abbrev TargetKey (Text : Type) :=
  Text × TargetExecutionStatus × Option Text × Option Text × Option Text

def targetIdentityKey : TargetKey Text :=
  (result.canonicalTarget, result.status, result.code, result.message, result.artifactId)

def targetsMatch (existing incoming : List (TargetExecutionResult Text Raw)) : Bool :=
  (sortTargets existing).map targetIdentityKey == (sortTargets incoming).map targetIdentityKey

abbrev TargetTable (Text Raw : Type) := Table (JobId × Nat) (List (TargetExecutionResult Text Raw))

def loadTargetResults (table : TargetTable Text Raw) (id : JobId) (attempt : Nat) :
    List (TargetExecutionResult Text Raw) :=
  sortTargets ((table.get (id, attempt)).getD [])

def syncTargetResults (table : TargetTable Text Raw) (id : JobId) (attempt : Nat)
    (targets : List (TargetExecutionResult Text Raw)) : Option (TargetTable Text Raw) :=
  if targets.isEmpty then some table
  else
    let normalized := normalizeTargets redact targets
    if ¬ (normalized.map TargetExecutionResult.canonicalTarget).Nodup then none
    else
      let existing := loadTargetResults table id attempt
      if existing.isEmpty then some (table.set (id, attempt) normalized)
      else if targetsMatch existing normalized then some table
      else none

end

end Targets

/-! ### The stores -/

structure MemoryStore (Text Raw : Type) where
  jobs : Table JobId (ActionExecutionJob Text Raw)

structure DbStore (Text Raw : Type) where
  jobs : Table JobId (JobRecord Text Raw)
  targets : TargetTable Text Raw

/-- The arguments of `cas_update_job`, and the clock of the database store. -/
structure JobUpdate (Text Raw : Type) where
  id : JobId
  updated : ActionExecutionJob Text Raw
  expected : ExecutionJobStatus
  now : Time

section Stores

variable {Text Raw : Type} [LinearOrder Text]

def MemoryStore.getJob (store : MemoryStore Text Raw) (id : JobId) :
    Option (ActionExecutionJob Text Raw) :=
  store.jobs.get id

def MemoryStore.casUpdateJob (store : MemoryStore Text Raw) (update : JobUpdate Text Raw) :
    Except TransitionError (Bool × MemoryStore Text Raw) :=
  match store.jobs.get update.id with
  | none => .ok (false, store)
  | some current =>
    if current.status ≠ update.expected then .ok (false, store)
    else if current.status = update.updated.status then
      .ok (true, { jobs := store.jobs.set update.id update.updated })
    else do
      validateJobStatusTransition current.status update.updated.status
      return (true, { jobs := store.jobs.set update.id update.updated })

def JobRecord.job (row : JobRecord Text Raw) (targets : List (TargetExecutionResult Text Raw)) :
    ActionExecutionJob Text Raw :=
  { row with targetResults := targets, legacyTargetResults := targets.isEmpty }

def DbStore.getJob (store : DbStore Text Raw) (id : JobId) :
    Option (ActionExecutionJob Text Raw) :=
  (store.jobs.get id).map fun row => row.job (loadTargetResults store.targets id row.attempt)

def JobRecord.apply (row : JobRecord Text Raw) (job : ActionExecutionJob Text Raw) (now : Time) :
    JobRecord Text Raw :=
  { row with toJobState := job.toJobState, updatedAt := some now }

def DbStore.casUpdateJob (redact : Redaction Text Raw) (store : DbStore Text Raw)
    (update : JobUpdate Text Raw) : Bool × DbStore Text Raw :=
  match store.jobs.get update.id with
  | none => (false, store)
  | some row =>
    if row.status ≠ update.expected then (false, store)
    else
      match syncTargetResults redact store.targets update.id update.updated.attempt
        update.updated.targetResults with
      | none => (false, store)
      | some targets =>
        (true, { jobs := store.jobs.set update.id (row.apply update.updated update.now), targets })

end Stores

/-! ### When the stores agree -/

section

variable {Text Raw : Type} [LinearOrder Text] {redact : Redaction Text Raw} {db : DbStore Text Raw}
  {memory : MemoryStore Text Raw}

/-- A job of the store in memory: its columns, and its targets as the database would show them. -/
def memoryView (redact : Redaction Text Raw) (job : ActionExecutionJob Text Raw) :
    JobState Text Raw × List (TargetKey Text) :=
  (job.toJobState, (normalizeTargets redact job.targetResults).map targetIdentityKey)

def storedView (job : ActionExecutionJob Text Raw) :
    JobState Text Raw × List (TargetKey Text) :=
  (job.toJobState, job.targetResults.map targetIdentityKey)

/-- **The stores hold the same jobs**, up to the columns only one of them writes. -/
def Agree (redact : Redaction Text Raw) (memory : MemoryStore Text Raw) (db : DbStore Text Raw) :
    Prop :=
  ∀ id, (memory.getJob id).map (memoryView redact) = (db.getJob id).map storedView

def tableAllows (current target : ExecutionJobStatus) : Bool :=
  current == target || (validateJobStatusTransition current target).isOk

/-- The target results name no target twice and repeat what is stored for the attempt, if anything
is. -/
def targetsStorable (redact : Redaction Text Raw) (db : DbStore Text Raw)
    (update : JobUpdate Text Raw) : Bool :=
  let normalized := normalizeTargets redact update.updated.targetResults
  let existing := loadTargetResults db.targets update.id update.updated.attempt
  decide (normalized.map TargetExecutionResult.canonicalTarget).Nodup
    && (existing.isEmpty || targetsMatch existing normalized)

/-- An update that is refused for its expected status, or that both stores can take. -/
def admissible (redact : Redaction Text Raw) (memory : MemoryStore Text Raw)
    (db : DbStore Text Raw) (update : JobUpdate Text Raw) : Bool :=
  (memory.getJob update.id).all fun job => job.status != update.expected ||
    (tableAllows job.status update.updated.status && targetsStorable redact db update)

/-! ### Sorted targets -/

theorem sortTargets_sortTargets (targets : List (TargetExecutionResult Text Raw)) :
    sortTargets (sortTargets targets) = sortTargets targets := by
  exact (List.pairwise_insertionSort _ targets).insertionSort_eq

theorem sortTargets_loaded (table : TargetTable Text Raw) (id : JobId) (attempt : Nat) :
    sortTargets (loadTargetResults table id attempt) = loadTargetResults table id attempt :=
  sortTargets_sortTargets _

theorem sortTargets_normalized (redact : Redaction Text Raw)
    (targets : List (TargetExecutionResult Text Raw)) :
    sortTargets (normalizeTargets redact targets) = normalizeTargets redact targets :=
  sortTargets_sortTargets _

theorem targetsMatch_loaded {table : TargetTable Text Raw} {id : JobId} {attempt : Nat}
    {targets : List (TargetExecutionResult Text Raw)} :
    targetsMatch (loadTargetResults table id attempt) (normalizeTargets redact targets) = true
      ↔ (loadTargetResults table id attempt).map targetIdentityKey
        = (normalizeTargets redact targets).map targetIdentityKey := by
  rw [targetsMatch, sortTargets_loaded, sortTargets_normalized, beq_iff_eq]

theorem normalizeTargets_nil (redact : Redaction Text Raw) :
    normalizeTargets redact ([] : List (TargetExecutionResult Text Raw)) = [] := rfl

theorem syncTargetResults_storable {update : JobUpdate Text Raw}
    (storable : targetsStorable redact db update = true) :
    ∃ targets, syncTargetResults redact db.targets update.id update.updated.attempt
        update.updated.targetResults = some targets
      ∧ (loadTargetResults targets update.id update.updated.attempt).map targetIdentityKey
        = (normalizeTargets redact update.updated.targetResults).map targetIdentityKey
      ∧ ∀ id attempt, id ≠ update.id →
        loadTargetResults targets id attempt = loadTargetResults db.targets id attempt := by
  simp only [targetsStorable, Bool.and_eq_true, decide_eq_true_eq, Bool.or_eq_true,
    targetsMatch_loaded] at storable
  obtain ⟨distinct, consistent⟩ := storable
  unfold syncTargetResults
  by_cases none_ : update.updated.targetResults.isEmpty = true
  · rw [if_pos none_]
    have empty : update.updated.targetResults = [] := List.isEmpty_iff.mp none_
    refine ⟨db.targets, rfl, ?_, fun _ _ _ => rfl⟩
    obtain free | same := consistent
    · rw [List.isEmpty_iff.mp free, empty, normalizeTargets_nil]
    · exact same
  rw [if_neg none_]
  simp only [distinct]
  by_cases free : (loadTargetResults db.targets update.id update.updated.attempt).isEmpty = true
  · rw [if_pos free]
    refine ⟨_, rfl, ?_, fun id attempt apart => ?_⟩
    · rw [loadTargetResults, Table.get_set_self, Option.getD_some, sortTargets_normalized]
    · rw [loadTargetResults, Table.get_set_ne fun same => apart (congrArg Prod.fst same)]
      rfl
  · rw [if_neg free]
    obtain free' | same := consistent
    · exact absurd free' free
    · rw [if_pos (targetsMatch_loaded.mpr same)]
      exact ⟨db.targets, rfl, same, fun _ _ _ => rfl⟩

/-! ### One update -/

theorem Agree.job (agree : Agree redact memory db) (id : JobId) :
    (memory.jobs.get id = none ∧ db.jobs.get id = none)
      ∨ ∃ job row, memory.jobs.get id = some job ∧ db.jobs.get id = some row
        ∧ job.status = row.status := by
  have same := agree id
  simp only [MemoryStore.getJob, DbStore.getJob] at same
  cases stored : memory.jobs.get id with
  | none =>
    cases there : db.jobs.get id with
    | none => exact .inl ⟨rfl, rfl⟩
    | some => simp [stored, there] at same
  | some job =>
    cases there : db.jobs.get id with
    | none => simp [stored, there] at same
    | some row =>
      simp only [stored, there, Option.map_some, Option.some.injEq] at same
      have columns : job.toJobState = row.toJobState := congrArg Prod.fst same
      exact .inr ⟨job, row, rfl, rfl, congrArg JobState.status columns⟩

omit [LinearOrder Text] in
theorem MemoryStore.casUpdateJob_allowed {update : JobUpdate Text Raw}
    {job : ActionExecutionJob Text Raw} (stored : memory.jobs.get update.id = some job)
    (seen : job.status = update.expected)
    (allowed : tableAllows job.status update.updated.status = true) :
    memory.casUpdateJob update
      = .ok (true, { jobs := memory.jobs.set update.id update.updated }) := by
  unfold MemoryStore.casUpdateJob
  rw [stored]
  dsimp only
  rw [if_neg (not_not.mpr seen)]
  by_cases same : job.status = update.updated.status
  · rw [if_pos same]
  rw [if_neg same]
  simp only [tableAllows, Bool.or_eq_true, beq_iff_eq, same, false_or] at allowed
  cases checked : validateJobStatusTransition job.status update.updated.status with
  | error =>
    rw [checked] at allowed
    cases allowed
  | ok => rfl

theorem casUpdateJob_agree {update : JobUpdate Text Raw} (agree : Agree redact memory db)
    (admitted : admissible redact memory db update = true) :
    ∃ after, memory.casUpdateJob update = .ok ((db.casUpdateJob redact update).1, after)
      ∧ Agree redact after (db.casUpdateJob redact update).2 := by
  unfold DbStore.casUpdateJob
  obtain ⟨absent, gone⟩ | ⟨job, _, stored, there, status⟩ := agree.job update.id
  · rw [gone]
    refine ⟨memory, ?_, agree⟩
    rw [MemoryStore.casUpdateJob, absent]
  rw [there]
  dsimp only
  by_cases seen : job.status = update.expected
  · have both : tableAllows job.status update.updated.status = true
        ∧ targetsStorable redact db update = true := by
      simpa [admissible, MemoryStore.getJob, stored, seen] using admitted
    obtain ⟨_, synced, shown, others⟩ := syncTargetResults_storable both.2
    rw [if_neg (not_not.mpr (status.symm.trans seen)), synced]
    refine ⟨_, MemoryStore.casUpdateJob_allowed stored seen both.1, fun id => ?_⟩
    simp only [MemoryStore.getJob, DbStore.getJob]
    by_cases same : id = update.id
    · subst same
      rw [Table.get_set_self, Table.get_set_self]
      simp only [Option.map_some, memoryView, storedView, JobRecord.job, JobRecord.apply, shown]
    rw [Table.get_set_ne same, Table.get_set_ne same]
    have before := agree id
    simp only [others id _ same]
    exact before
  · rw [if_pos (fun same => seen (status.trans same))]
    refine ⟨memory, ?_, agree⟩
    rw [MemoryStore.casUpdateJob, stored]
    dsimp only
    rw [if_pos seen]

/-! ### Every sequence of updates -/

/-- The same jobs, kept in both stores. -/
structure Stores (Text Raw : Type) where
  memory : MemoryStore Text Raw
  db : DbStore Text Raw

def stepStores (redact : Redaction Text Raw) (stores : Stores Text Raw)
    (update : JobUpdate Text Raw) : Stores Text Raw where
  memory := match stores.memory.casUpdateJob update with
    | .ok (_, after) => after
    | .error _ => stores.memory
  db := (stores.db.casUpdateJob redact update).2

/-- Memory gives the answer of the database, and the stores stay alike. -/
def SameAnswer (redact : Redaction Text Raw) (stores : Stores Text Raw)
    (update : JobUpdate Text Raw) (after : Stores Text Raw) : Prop :=
  stores.memory.casUpdateJob update
      = .ok ((stores.db.casUpdateJob redact update).1, after.memory)
    ∧ Agree redact after.memory after.db

theorem stepStores_same {stores : Stores Text Raw} {update : JobUpdate Text Raw}
    (agree : Agree redact stores.memory stores.db)
    (admitted : admissible redact stores.memory stores.db update = true) :
    SameAnswer redact stores update (stepStores redact stores update) := by
  obtain ⟨_, answer, agrees⟩ := casUpdateJob_agree agree admitted
  unfold SameAnswer stepStores
  rw [answer]
  exact ⟨rfl, agrees⟩

/-- **The stores are interchangeable** along every sequence of admissible updates. -/
theorem stores_agree (redact : Redaction Text Raw) {start : Stores Text Raw}
    (agree : Agree redact start.memory start.db) {updates : List (JobUpdate Text Raw)}
    (along : Along (stepStores redact)
      (fun stores update => admissible redact stores.memory stores.db update = true) start updates)
    {before after : Stores Text Raw} {update : JobUpdate Text Raw}
    (occurs : Occurs (stepStores redact) start updates before update after) :
    SameAnswer redact before update after :=
  occurs_invariant _ (fun stores => Agree redact stores.memory stores.db)
    (SameAnswer redact) (fun _ _ holds admitted => (stepStores_same holds admitted).2)
    (fun _ _ => stepStores_same) agree along occurs

/-! ### The store the executors use -/

def JobRecord.row (record : JobRecord Text Raw) : JobRow where
  eventId := record.eventId
  actionId := record.actionId
  idempotencyKey := record.idempotencyKey
  status := record.status
  leaseExpiresAt := record.leaseExpiresAt
  attempt := record.attempt
  providerJobId := record.providerJobId

def ActionExecutionJob.update (job : ActionExecutionJob Text Raw) : MockJob where
  status := job.status
  providerJobId := job.providerJobId
  leaseExpiresAt := job.leaseExpiresAt
  attempt := job.attempt

/-- **The store in the database is the one the executors use**: on the columns they read, its update
is `casUpdateJob`, told whether the target results could be stored. -/
theorem DbStore.casUpdateJob_rows (redact : Redaction Text Raw) (store : DbStore Text Raw)
    (update : JobUpdate Text Raw) {db : Db}
    (rows : ∀ id, db.jobs.get id = (store.jobs.get id).map JobRecord.row) (id : JobId) :
    (Execution.casUpdateJob db update.id update.updated.update update.expected
        (syncTargetResults redact store.targets update.id update.updated.attempt
          update.updated.targetResults).isSome).jobs.get id
      = ((store.casUpdateJob redact update).2.jobs.get id).map JobRecord.row := by
  unfold DbStore.casUpdateJob Execution.casUpdateJob
  cases stored : store.jobs.get update.id with
  | none => simp [rows, stored]
  | some record =>
    have status : record.row.status = record.status := rfl
    by_cases seen : record.status = update.expected
    · cases syncTargetResults redact store.targets update.id update.updated.attempt
          update.updated.targetResults with
      | none => simp [rows, stored]
      | some =>
        simp only [rows, stored, Option.map_some, status, seen, Option.isSome_some, and_self,
          if_true, ne_eq, not_true_eq_false, if_false, Table.get_set]
        split_ifs
        · rfl
        · rfl
    · simp [rows, stored, status, seen]

end

end ShadowTrace.Execution
