/-
**What every schedule of the writeback service preserves.**

Every write of the service moves its row along the protocol.
-/

import ShadowTrace.Sync.Commits

namespace ShadowTrace.Sync

open Relational Machine

/-! ### One write -/

section

variable {w : World} {op : Op} {id : OutboxId} {row written : OutboxRow}
  {status : Option WritebackStatus}

section

variable (w : World) (op : Op) (id : OutboxId) (row : OutboxRow)

/-- **The four ways to hand a row out** for a submission: a worker leases it, an operator's claim
puts a token on it, a lookup that found nothing queues it again, or a retry does. -/
inductive HandsOut : OutboxRow → Prop
  | leased {written : OutboxRow} (claims : op = .claim p now backoff ids)
      (queued : row.deliveryStatus = .ready ∨ row.deliveryStatus = .waitingRetry) : HandsOut written
  | tokened (claims : op = .claimPaused id now true) (paused : row.deliveryStatus = .paused) :
      HandsOut (tokenRow row w.nextToken now)
  | requeued {written : OutboxRow} (applies : Applying w op id row .notFound) : HandsOut written
  | retried {written : OutboxRow} (retries : op = .retry id replay env false)
      (asked : retryCalls w.db id replay env = [.lookup id answer safeRetry])
      (cleared : clears answer safeRetry = true) : HandsOut written

end

/-- **Every write follows the protocol**, quietly unless it hands out a row. -/
theorem RowCommit.step (commit : RowCommit w op id row written status) :
    RowStep row written ∧ (QuietStep row written ∨ HandsOut w op id row written) := by
  have quietly : ∀ {next}, QuietStep row next →
      RowStep row next ∧ (QuietStep row next ∨ HandsOut w op id row next) :=
    fun quiet => ⟨quiet.toRowStep, .inl quiet⟩
  have unsettled : row.deliveryStatus = .leased → ¬ Settled row.deliveryStatus :=
    fun leased => leased ▸ not_settled_leased
  cases commit with
  | blocked _ done => exact quietly (blockSupersededOutbox_stops done).quiet
  | fenced _ done => exact quietly (blockOutboxForWritebackFence_stops done).quiet
  | expired _ _ _ done | reclaimed _ _ _ done => exact quietly (releaseAfterLeaseExpiry_quiet done)
  | submitted _ deliverable _ done => exact quietly (submittedRow_quiet deliverable done).1
  | dated | unparsed =>
    exact quietly ⟨⟨.of_state_eq rfl rfl, fun _ => ⟨rfl, rfl⟩⟩, fun _ held => held⟩
  | leased worker claims current queued =>
    exact ⟨leasedRow_step worker _ current queued, .inr (.leased claims queued)⟩
  | deadLettered _ _ done => exact quietly (releaseLeasedToDeadLetter_stops done).quiet
  | rejected _ open_ =>
    have free := open_.elim unsettled fun paused => paused.1 ▸ not_settled_paused
    exact quietly (quiet_of_settled (.of_move rfl (.reject _ _ _ free)) settled_deadLetter)
  | conflicted _ _ leased =>
    exact quietly (quiet_of_settled (.of_move rfl (.answer _ _ _ .conflict (unsettled leased)))
      settled_delivered)
  | doubted _ leased done =>
    rw [pauseAfterUnknownSubmission_leased _
      (show (withStatus row _).deliveryStatus = _ from leased)] at done
    cases done
    exact quietly (quiet_of_paused (.of_move rfl (.pause _ _ _ (.inl leased))) rfl rfl)
  | tokened claims _ paused => exact ⟨.of_state_eq rfl rfl, .inr (.tokened claims paused)⟩
  | doubtful code _ _ paused => exact quietly (doubtfulRow_quiet paused code)
  | requeued applies current paused unconfirmed =>
    exact ⟨requeuedRow_step paused current unconfirmed, .inr (.requeued applies)⟩
  | found _ _ _ paused => exact quietly (foundRow_quiet paused _)
  | released _ paused => exact quietly (quiet_of_paused (.of_state_eq rfl rfl) paused rfl)
  | stopped _ retryable pauses => exact quietly (pauseForRetry_step retryable pauses).1
  | reconciled _ retryable pauses =>
    obtain ⟨quiet, paused, -⟩ := pauseForRetry_step retryable pauses
    refine quietly (quiet_of_settled (quiet.toRowStep.trans (reconciledRow_step ?_ _))
      settled_delivered)
    exact paused ▸ not_settled_paused
  | retried retries retryable pauses asked cleared =>
    obtain ⟨quiet, paused, current, same⟩ := pauseForRetry_step retryable pauses
    have unconfirmed := retryable.unconfirmed
    rw [← same] at unconfirmed
    exact ⟨quiet.toRowStep.trans (retriedRow_step paused current unconfirmed),
      .inr (.retried retries asked cleared)⟩
  | lookedUp _ unconfirmed done => exact quietly (lookedUpRow_quiet unconfirmed done)
  | resolved _ unconfirmed =>
    exact quietly (quiet_of_settled
      (.of_move rfl (.correct _ .delivered _ _ _ unconfirmed (.inl rfl))) settled_delivered)

end

/-! ### One step -/

section

variable {name : ProcId → WorkerId} {w : World}

/-- Rows move along the protocol and none appears. -/
abbrev QueueUpdates (before after : Table OutboxId OutboxRow) : Prop :=
  Table.Updates RowStep before after

theorem QueueUpdates.refl (table : Table OutboxId OutboxRow) : QueueUpdates table table :=
  Table.Evolves.refl RowStep.refl

/-- **The service's own operations only update the queue**, and write nothing else outside it than
mirrors and projections. -/
theorem step_updates (name : ProcId → WorkerId) (w : World) {op : Op}
    (internal : op.internal = true) :
    QueueUpdates w.db.outboxes (step name w op).db.outboxes
      ∧ Projects w.db (step name w op).db := by
  obtain ⟨_, chain⟩ := step_chain name w internal
  exact ⟨chain.steps (fun _ => RowStep.refl) fun _ commit => commit.step.1, chain.projects⟩

/-- A step updates the rows there are or enqueues one. -/
inductive QueueChange (before after : Table OutboxId OutboxRow) : Prop
  | updated (updates : QueueUpdates before after)
  | enqueued (args : EnqueueArgs) (effect : EnqueueEffect args before after)

/-- Any other change of the queue is an enqueue. -/
theorem step_change (name : ProcId → WorkerId) (w : World) (op : Op) :
    QueueChange w.db.outboxes (step name w op).db.outboxes := by
  by_cases internal : op.internal = true
  · exact .updated (step_updates name w internal).1
  cases op with
  | enqueue args =>
    rw [step]
    cases outcome : enqueueCommand w.db args with
    | error => exact .updated (.refl _)
    | ok => exact .enqueued args (enqueueCommand_effect outcome).1
  | others => exact .updated (.refl _)
  | _ => exact absurd rfl internal

end

/-! ### Rows follow the protocol -/

variable {row : OutboxRow}

theorem isActiveHead_current (active : isActiveHead row = true) :
    row.supersededByDispositionId = none := by
  simp only [isActiveHead, Bool.and_eq_true, Option.isNone_iff_eq_none] at active
  exact active.2

variable {before after : Table OutboxId OutboxRow}

section

variable {args : EnqueueArgs} (effect : EnqueueEffect args before after)

include effect

/-- **The rows after an enqueue**: only the head of the slot is touched. -/
theorem EnqueueEffect.rows :
    Table.Steps (fun _ row next => next = row
        ∨ headOf args row = true ∧ ∃ newer, finalizeSupersededHead row newer = .ok next)
      (Enqueued args) before after := by
  cases effect with
  | carried same => exact .of_eq same fun _ _ => .inl rfl
  | inserted command sequence same fresh _ set =>
    rw [set]
    exact .insert fresh ⟨rfl, command, sequence, same, rfl⟩ fun _ _ => .inl rfl
  | superseded command sequence head row marked same fresh found heads other finalized _ set =>
    have free : (before.set head marked).get args.outboxId = none := by
      rw [Table.get_set_ne (Ne.symm other), fresh]
    rw [set]
    exact .insert_after (.set found (.inr ⟨heads, _, finalized⟩) fun _ _ => .inl rfl) free
      ⟨rfl, command, sequence, same, rfl⟩

theorem EnqueueEffect.steps :
    Table.Steps (fun _ => QuietStep) (Enqueued args) before after := by
  refine effect.rows.mono ?_ fun _ _ born => born
  rintro _ row _ (rfl | ⟨heads, _, finalized⟩)
  · exact .refl _
  · exact finalizeSupersededHead_quiet (isActiveHead_current (headOf_active heads)) finalized

theorem EnqueueEffect.evolves : Table.Evolves RowStep FreshRow before after := by
  refine effect.steps.mono (fun _ _ _ quiet => quiet.toRowStep) ?_
  rintro _ _ ⟨-, _, _, -, rfl⟩
  rfl

end

/-- **The refinement**: rows move as the protocol allows, new rows are fresh. -/
theorem QueueChange.evolves (change : QueueChange before after) :
    Table.Evolves RowStep FreshRow before after := by
  cases change with
  | updated updates => exact Table.Evolves.mono (fun _ _ => id) (fun _ => False.elim) updates
  | enqueued _ effect => exact effect.evolves

section

variable (name : ProcId → WorkerId) (w : World) (op : Op)

theorem step_evolves : Table.Evolves RowStep FreshRow w.db.outboxes (step name w op).db.outboxes :=
  (step_change name w op).evolves

/-- Every stored row is in a sound state of the protocol. -/
def SoundQueue : Prop :=
  ∀ id row, w.db.outboxes.get id = some row → Sound (OutboxRow.state row)

theorem soundQueue_initial (tables : Foreign) : SoundQueue (World.initial tables) := by
  intro _ _ found
  cases found

theorem freshRow_sound (fresh : FreshRow row) : Sound (OutboxRow.state row) := by
  rw [fresh]
  exact ⟨nofun, nofun, nofun⟩

theorem step_soundQueue (sound : SoundQueue w) : SoundQueue (step name w op) := by
  intro id row found
  obtain ⟨old, earlier, moved⟩ | ⟨-, fresh⟩ := (step_evolves name w op).row_after found
  · exact moved.moves.sound (sound id old earlier)
  · exact freshRow_sound fresh

theorem run_soundQueue (tables : Foreign) (ops : List Op) :
    SoundQueue (run (step name) (World.initial tables) ops) :=
  run_invariant_of_step SoundQueue (step_soundQueue name) (soundQueue_initial tables) ops

/-! ### A small run -/

def sampleAction : ActionRow where
  eventId := 1
  planRevision := 1
  actionFingerprint := .response 1 1 1
  category := .response
  toolName := .notifySecurityTeam
  level := .l1
  executionPhase := .postVerify
  status := .approved
  executionOwner := some .directTool
  writebackRequired := true
  writebackApplicable := true
  writebackReadiness := .ready
  dispositionSourceRef := some 1
  updatedAt := 0

def sampleEvent : EventRow where
  status := .executingResponse
  severity := .high
  finalVerdict := .confirmedThreat
  dispositionPolicy := .required

def sampleTables : Foreign where
  events := Table.empty.set 1 sampleEvent
  sources := Table.empty.set 1 0
  actions := Table.empty.set 1 sampleAction

/-- Commands for the one slot of the sample event: each supersedes the one before. -/
def sampleCommand (id : OutboxId) : Command where
  actionId := 1
  dispositionId := id
  closureCycle := 1
  intentKind := .eventStatusUpdate
  idempotencyKey := id
  supersedesDispositionId := none
  targetDisposition := none
  body := id

def sampleEnqueue (id : OutboxId) : Op := .enqueue
  { command := sampleCommand id, eventId := 1, sourceRecordId := 1, slot := 0, outboxId := id
    guardAllows := true }

/-- A provider that answers a submission with the status and has no readback. -/
def answering (status : WritebackStatus) : DeliveryEnv where
  fenceOpen := true
  precheck := .ok ()
  submit := .receipt (localReceipt status)
  supportsReadback := false
  readback := .nothing
  lateError := none

/-! ### Confirmed is absorbing -/

/-- The row is stored with a confirmed writeback. -/
def Confirmed (id : OutboxId) (w : World) : Prop :=
  ∃ row, w.db.outboxes.get id = some row ∧ row.latestWritebackStatus = some .confirmed

theorem step_confirmed (id : OutboxId) (w : World) (op : Op) (sound : SoundQueue w)
    (confirmed : Confirmed id w) : Confirmed id (step name w op) := by
  obtain ⟨row, found, status⟩ := confirmed
  obtain ⟨next, reached, moved⟩ := (step_evolves name w op).old id row found
  exact ⟨next, reached, moved.moves.confirmed (sound id row found) status⟩

/-- **Confirmed is absorbing.** In every schedule of the service, a writeback that is confirmed in
one committed state is confirmed in every later one. -/
theorem confirmed_absorbing (name : ProcId → WorkerId) (tables : Foreign) (ops later : List Op)
    (id : OutboxId)
    (confirmed : Confirmed id (run (step name) (World.initial tables) ops)) :
    Confirmed id (run (step name) (World.initial tables) (ops ++ later)) := by
  have sound := run_soundQueue name tables ops
  rw [run_append]
  exact run_stable SoundQueue (Confirmed id) (step_soundQueue name)
    (step_confirmed name id) sound confirmed later

theorem confirmed_absorbing_retry :
    Confirmed 7 (run (step id) (World.initial sampleTables)
      ([sampleEnqueue 7, .deliverDirect 7 0 0 (answering .confirmed)] ++
        [.retry 7 none ⟨true, true, true, some none, none⟩ false])) :=
  confirmed_absorbing id sampleTables _ _ 7 ⟨_, rfl, by decide⟩

/-! ### One active head per slot -/

/-- Two active heads of one slot are the same row. -/
def UniqueHeads (table : Table OutboxId OutboxRow) : Prop :=
  ∀ id other row stored, table.get id = some row → table.get other = some stored →
    isActiveHead row = true → isActiveHead stored = true → sameSlot row stored = true → id = other

theorem RowStep.sameSlot {next row' next' : OutboxRow} (step : RowStep row next)
    (step' : RowStep row' next') : sameSlot next next' = sameSlot row row' := by
  obtain ⟨event, cycle, slot⟩ := step.place
  obtain ⟨event', cycle', slot'⟩ := step'.place
  simp only [Sync.sameSlot, event, event', cycle, cycle', slot, slot', step.kind, step'.kind]

theorem RowStep.activeHead {next : OutboxRow} (step : RowStep row next)
    (active : isActiveHead next = true) : isActiveHead row = true := by
  simp only [isActiveHead, Bool.and_eq_true, step.kind] at active ⊢
  refine ⟨active.1, ?_⟩
  cases lineage : row.supersededByDispositionId with
  | none => rfl
  | some =>
    have stale : (OutboxRow.state row).superseded = true := by simp [OutboxRow.state, lineage]
    have still : next.supersededByDispositionId.isSome = true := step.moves.superseded stale
    rw [Option.isNone_iff_eq_none.mp active.2] at still
    cases still

theorem Updates.uniqueHeads (updates : Table.Updates RowStep before after)
    (unique : UniqueHeads before) :
    UniqueHeads after := by
  intro id other _ _ found found' active active' same
  obtain ⟨old, there, step⟩ := updates.row_before found
  obtain ⟨old', there', step'⟩ := updates.row_before found'
  refine unique id other old old' there there' (step.activeHead active)
    (step'.activeHead active') ?_
  rw [← step.sameSlot step']
  exact same

theorem sameSlot_comm (row stored : OutboxRow) : sameSlot row stored = sameSlot stored row := by
  simp only [sameSlot, BEq.comm]

theorem insert_uniqueHeads {table : Table OutboxId OutboxRow} {id : OutboxId}
    (clean : ∀ other stored, table.get other = some stored → violatesUnique row stored = false)
    (unique : UniqueHeads table) : UniqueHeads (table.set id row) := by
  have apart : ∀ other stored, table.get other = some stored → isActiveHead row = true →
      isActiveHead stored = true → sameSlot row stored = true → False := by
    intro other stored found active active' same
    have collides := clean other stored found
    simp [violatesUnique, active, active', same] at collides
  intro first second one two found found' active active' same
  rw [Table.get_set] at found found'
  split_ifs at found found' with isFirst isSecond isSecond
  · rw [isFirst, isSecond]
  · cases found
    exact (apart second two found' active active' same).elim
  · obtain rfl := Option.some.inj found'
    rw [sameSlot_comm] at same
    exact (apart first one found active' active same).elim
  · exact unique first second one two found found' active active' same

theorem QueueChange.uniqueHeads (change : QueueChange before after) (unique : UniqueHeads before) :
    UniqueHeads after := by
  cases change with
  | updated updates => exact Updates.uniqueHeads updates unique
  | enqueued _ effect =>
    cases effect with
    | carried same => rw [same]; exact unique
    | inserted _ _ _ _ clean set =>
      rw [set]
      exact insert_uniqueHeads clean unique
    | superseded _ _ _ row marked _ _ found heads _ finalized clean set =>
      have current := isActiveHead_current (headOf_active heads)
      have step : RowStep row marked := (finalizeSupersededHead_quiet current finalized).toRowStep
      rw [set]
      exact insert_uniqueHeads clean
        (Updates.uniqueHeads (Table.Evolves.set RowStep.refl found step) unique)

/-! ### Superseded rows -/

/-- Whatever is submitted is stored and not superseded. -/
def AllowedCall (call : AdapterCall) : Prop :=
  ∀ id, call = .submit id →
    ∃ row, w.db.outboxes.get id = some row ∧ row.supersededByDispositionId = none

theorem deliverOutbox_allowed (id : OutboxId) (worker : WorkerId) (now : Time) (env : DeliveryEnv) :
    ∀ call ∈ (deliverOutbox w.db id worker now env).calls, AllowedCall w call := by
  intro _ made
  rcases deliverOutbox_calls w.db id worker now env with
    silent | ⟨sends, row, found, deliverable, -⟩
  · rw [silent] at made
    cases made
  rw [sends, List.mem_singleton] at made
  rintro other same
  rw [made] at same
  obtain rfl := AdapterCall.submit.inj same
  exact ⟨row, found, deliverable.current⟩

/-- **What a step sends**: nothing for a superseded row. -/
theorem step_calls : ∃ made, (step name w op).calls = w.calls ++ made ∧
      ∀ call ∈ made, AllowedCall w call := by
  have silent : ∀ {next : World}, next.calls = w.calls →
      ∃ made, next.calls = w.calls ++ made ∧ ∀ call ∈ made, AllowedCall w call :=
    fun same => ⟨[], by rw [same, List.append_nil], nofun⟩
  cases op with
  | deliverDirect id worker now env => exact ⟨_, rfl, deliverOutbox_allowed w id worker now env⟩
  | deliverClaimed _ now env =>
    simp only [step, stepDeliverClaimed]
    split
    · exact ⟨_, rfl, deliverOutbox_allowed w _ _ now env⟩
    · exact silent rfl
  | lookupPaused =>
    simp only [step, stepLookupPaused]
    split
    · exact silent rfl
    split
    · refine ⟨_, rfl, fun call made id same => ?_⟩
      rw [same] at made
      simp [lookupPausedCalls] at made
    · exact silent rfl
  | retry id replay env =>
    refine ⟨retryCalls w.db id replay env, ?_, fun call made other same => ?_⟩
    · simp only [step, stepRetry]
      split <;> rfl
    rw [same] at made
    unfold retryCalls at made
    split at made
    · cases made
    · split at made <;> simp at made
  | restart | others => exact silent rfl
  | enqueue | claim | mark | claimPaused | applyPaused | releasePaused | updateFromLookup
  | resolve =>
    refine silent ?_
    simp only [step, World.commit, stepClaim, stepMark, stepClaimPaused, stepApplyPaused,
      stepReleasePaused]
    repeat' split
    all_goals rfl

/-- The row is superseded and settled, and has been submitted `sent` times so far. -/
def Superseded (id : OutboxId) (sent : Nat) (w : World) : Prop :=
  (∃ row, w.db.outboxes.get id = some row ∧ row.supersededByDispositionId.isSome = true ∧
    Settled row.deliveryStatus) ∧ w.calls.count (.submit id) = sent

theorem step_superseded (id : OutboxId) (sent : Nat) (w : World) (op : Op)
    (sound : SoundQueue w) (superseded : Superseded id sent w) :
    Superseded id sent (step name w op) := by
  obtain ⟨⟨row, found, stale, -⟩, count⟩ := superseded
  refine ⟨?_, ?_⟩
  · obtain ⟨next, reached, moved⟩ := (step_evolves name w op).old id row found
    have still : next.supersededByDispositionId.isSome = true := moved.moves.superseded stale
    exact ⟨next, reached, still, (moved.moves.sound (sound id row found)).superseded still⟩
  obtain ⟨made, grown, allowed⟩ := step_calls name w op
  have none_ : made.count (.submit id) = 0 := by
    refine List.count_eq_zero.mpr fun mem => ?_
    obtain ⟨_, there, current⟩ := allowed _ mem id rfl
    obtain rfl := Option.mem_unique found there
    rw [current] at stale
    cases stale
  rw [grown, List.count_append, none_, Nat.add_zero, count]

end

/-- **Superseded rows are over.** In every reachable state the slots have at most one active head
each; and a row that has been superseded is settled, stays superseded and settled in every later
state, and is never submitted again. -/
theorem superseded_terminal (name : ProcId → WorkerId) (tables : Foreign) (ops : List Op) :
    UniqueHeads (run (step name) (World.initial tables) ops).db.outboxes ∧
    ∀ id row, (run (step name) (World.initial tables) ops).db.outboxes.get id = some row →
      row.supersededByDispositionId.isSome = true → ∀ later : List Op,
        Superseded id
          ((run (step name) (World.initial tables) ops).calls.count (.submit id))
          (run (step name) (World.initial tables) (ops ++ later)) := by
  refine ⟨?_, fun id row found stale later => ?_⟩
  · refine run_invariant_of_step (fun w => UniqueHeads w.db.outboxes)
      (fun w op unique => (step_change name w op).uniqueHeads unique) ?_ ops
    intro _ _ _ _ found
    cases found
  have sound := run_soundQueue name tables ops
  rw [run_append]
  refine run_stable SoundQueue _ (step_soundQueue name) (step_superseded name id _) sound
    ⟨⟨row, found, stale, ?_⟩, rfl⟩ later
  exact (sound id row found).superseded stale

theorem superseded_terminal_unsent :
    Superseded 7 0 (run (step id) (World.initial sampleTables)
      ([sampleEnqueue 7, sampleEnqueue 8] ++ [.deliverDirect 7 0 0 (answering .confirmed)])) :=
  (superseded_terminal id sampleTables [sampleEnqueue 7, sampleEnqueue 8]).2 7 _ rfl (by decide) _

end ShadowTrace.Sync
