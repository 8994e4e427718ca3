/-
**The dispatch of investigations as one machine.**

Dispatchers claim and publish intents, workers start and complete them, a reconciler takes back what
has gone stale, requests create intents and supersede automatic ones. A label is one committed
transaction with its clock; one that loads a row without locking it is two steps (`readEnqueued` and
`revert`, `selectActive` and `httpIntent`).

`RowStep` says once what a transaction may do to one row (`step_row`).
-/

import ShadowTrace.Intents.Outcome

namespace ShadowTrace.Intents

open Relational Fallible

abbrev HandlerId := Nat

/-- The ledger, and the rows that handlers have loaded. -/
structure World where
  ledger : Ledger
  reverting : HandlerId → Option (IntentId × IntentRow)
  superseding : HandlerId → List (IntentId × IntentRow)

def World.init (db : Db) : World := ⟨⟨db, Table.empty⟩, fun _ => none, fun _ => []⟩

/-- One transaction on the ledger. -/
inductive Op
  /-- The policy accepts an event that was created, promoted or left alone for long enough. -/
  | createAuto (fresh : IntentId) (event : EventId) (mode : OrchestrationMode)
  | selectActive (handler : HandlerId) (event : EventId)
  | httpIntent (handler : HandlerId) (fresh : IntentId) (req : HttpRequest)
  | claim (worker : WorkerId) (id : IntentId)
  | commitEnqueued (id : IntentId) (responseEligible : Bool)
  | readEnqueued (handler : HandlerId) (id : IntentId)
  | revert (handler : HandlerId) (failure : PublishFailure) (conserveRetryBudget : Bool)
  | markStarted (id : IntentId) (task : TaskId)
  | complete (id : IntentId) (task : TaskId) (completion : Completion)
  | reconcile (id : IntentId)
  | softLimit (call : SoftLimitCall)
  | inlineStarted (id : IntentId)
  | others (db : Db)
  | deleteEvent (event : EventId)

structure Label where
  now : Time
  op : Op

section

variable (cfg : IntentSettings) (w : World) (ledger : Ledger)

def World.loadEnqueued (id : IntentId) : Option (IntentId × IntentRow) :=
  (w.ledger.intents.get id).bind fun row => if row.status = .enqueued then some (id, row) else none

def Ledger.revert (loaded : Option (IntentId × IntentRow)) (failure : PublishFailure)
    (conserveRetryBudget : Bool) (now : Time) : Ledger :=
  match loaded with
  | none => ledger
  | some (id, row) =>
    match row.revertEnqueued cfg id failure conserveRetryBudget now with
    | .ok (some changed) =>
      { ledger with intents := ledger.intents.modify id fun stored => row.flush changed stored now }
    | _ => ledger

def Ledger.settle {ε : Type} (ledger : Ledger) : Except ε Ledger → Ledger
  | .ok after => after
  | .error _ => ledger

/-- An insertion under an identifier that is in use is not enabled. -/
def Ledger.whenFresh (fresh : IntentId) (after : Ledger) : Ledger :=
  if ledger.intents.get fresh = none then after else ledger

def Ledger.deleteEvent (event : EventId) : Ledger :=
  { db := { ledger.db with events := ledger.db.events.deleteWhere fun id _ => id == event }
    intents := ledger.intents.deleteWhere fun _ row => row.eventId == event }

def step (label : Label) : World :=
  let ledger := w.ledger
  let now := label.now
  match label.op with
  | .createAuto fresh event mode =>
    { w with
      ledger := ledger.whenFresh fresh (ledger.maybeCreatePending event fresh mode now) }
  | .selectActive handler event =>
    { w with superseding := Function.update w.superseding handler (ledger.activeAutoIntents event) }
  | .httpIntent handler fresh req =>
    { w with
      ledger := ledger.whenFresh fresh (ledger.settle
        (ledger.createOrReplayHttpIntent req fresh (w.superseding handler) now))
      superseding := Function.update w.superseding handler [] }
  | .claim worker id => { w with ledger := ledger.onRow id (IntentRow.claim cfg worker now) }
  | .commitEnqueued id responseEligible =>
    { w with ledger := ledger.commitEnqueued id responseEligible now }
  | .readEnqueued handler id =>
    { w with reverting := Function.update w.reverting handler (w.loadEnqueued id) }
  | .revert handler failure conserve =>
    { w with
      ledger := ledger.revert cfg (w.reverting handler) failure conserve now
      reverting := Function.update w.reverting handler none }
  | .markStarted id task => { w with ledger := ledger.markStarted id task now }
  | .complete id task completion =>
    { w with ledger := ledger.onRow id (IntentRow.complete id task completion now) }
  | .reconcile id =>
    { w with
      ledger := ledger.onRow id fun row =>
        row.reconcile cfg id (ledger.eventStatus row.eventId) now }
  | .softLimit call =>
    { w with ledger := ledger.settle ((applySoftTimeLimitOutcome cfg ledger call).map Prod.fst) }
  | .inlineStarted id => { w with ledger := ledger.onRow id (IntentRow.markInlineStarted id now) }
  | .others db => { w with ledger := { ledger with db } }
  | .deleteEvent event => { w with ledger := ledger.deleteEvent event }

/-! ### What a transaction does to a row -/

/-- The transactions that end a delivery which a worker has started. -/
def Ends (label : Label) (id : IntentId) (row : IntentRow) : Prop :=
  match label.op with
  | .complete other task _ => other = id ∧ row.brokerTaskId = some task
  | .reconcile other => other = id ∧ row.stale cfg label.now = true
  | .softLimit call => call.intent = some id
  | .httpIntent handler _ _ => ∃ loaded, (id, loaded) ∈ w.superseding handler
  | .revert handler _ _ => ∃ loaded, w.reverting handler = some (id, loaded)
  | _ => False

end

section

variable (cfg : IntentSettings) (w : World) (label : Label) (id : IntentId) (row : IntentRow)

/-- What one transaction may do to a row. -/
inductive RowStep : IntentRow → Prop
  | kept : RowStep row
  | idle (event : next.eventId = row.eventId) (quiet : next.live = false)
      (ends : row.status = .started → Ends cfg w label id row) : RowStep next
  | enqueued (entry : label.op = .commitEnqueued id eligible) (claimed : row.status = .claimed)
      (event : next.eventId = row.eventId)
      (task : next.brokerTaskId = some (.derived id next.revision))
      (unclaimed : next.claimExpiresAt = none)
      (alone : ∀ other sibling, other ≠ id → w.ledger.intents.get other = some sibling →
        sibling.eventId = row.eventId → sibling.live = false) : RowStep next
  /-- A worker starts the delivery that was published, or takes it again. -/
  | started (live : row.live = true) (event : next.eventId = row.eventId)
      (status : next.status = .started) (revision : next.revision = row.revision)
      (task : next.brokerTaskId = row.brokerTaskId
        ∨ next.brokerTaskId = some (.derived id row.revision) ∨ row.brokerTaskId = none)
      (claim : next.claimExpiresAt = none ∨ next.claimExpiresAt = row.claimExpiresAt) : RowStep next
  | inline (entry : label.op = .inlineStarted id) (event : next.eventId = row.eventId)
      (task : next.brokerTaskId = some (.derived id next.revision))
      (unclaimed : next.claimExpiresAt = none) (waiting : row.live = false) : RowStep next

end

section Rows

variable {cfg : IntentSettings} {ledger after : Ledger} {reason : IntentId → Prop} {now : Time}
  {key : IntentId} {row : IntentRow} {req : HttpRequest}

/-- A transaction that publishes nothing; the rows it adds are idle. -/
abbrev Quiets (reason : IntentId → Prop) (ledger after : Ledger) : Prop :=
  Table.Steps (Settles reason) (fun _ row => row.live = false) ledger.intents after.intents

variable {loaded : List (IntentId × IntentRow)}

theorem flushSkips_settles {skipped : SkipReason}
    (done : ledger.flushSkips skipped now loaded = .ok after) :
    Table.Steps (Settles fun id => ∃ copy, (id, copy) ∈ loaded) (fun _ _ => False) ledger.intents
      after.intents := by
  refine foldlM_keeps (fun state => Table.Steps (Settles fun id => ∃ copy, (id, copy) ∈ loaded)
    (fun _ _ => False) ledger.intents state.intents) ?_ (.refl Settles.refl) done
  intro _ _ entry mem stepped settled
  obtain ⟨changed, skip, stepped⟩ := bind_eq_ok.mp stepped
  cases stepped
  refine settled.trans (.modify (fun stored there => ?_) Settles.refl) Settles.trans
    fun _ _ _ impossible _ => impossible
  obtain ⟨open_, status⟩ := skip_row skip
  have flushed : (entry.2.flush changed stored now).status = .skipped := by
    rw [flush_status (by rw [status]; exact Ne.symm open_), status]
  exact .inr ⟨rfl, live_eq_false (by rw [flushed]; decide), fun _ => ⟨entry.2, mem⟩⟩

theorem rearmed_quiets {armed : IntentRow} {replacing : Option HttpRequest}
    (found : ledger.intents.get key = some row) (ended : row.status ∈ [.dead, .skipped])
    (rearmed : row.rearm key replacing now = .ok armed) :
    Quiets reason ledger (ledger.put key armed) := by
  obtain ⟨event, status⟩ := rearm_row rearmed
  refine .set found (.inr ⟨event, live_eq_false (by rw [status]; decide), fun started => ?_⟩)
    Settles.refl
  rw [started] at ended
  exact absurd ended (by decide)

theorem liftTransition_eq_ok {α : Type} {first : Except IntentTransitionError α} {value : α} :
    liftTransition first = .ok value ↔ first = .ok value := by
  cases first with
  | error | ok => simp [liftTransition]

theorem replayHttpIntent_quiets (found : ledger.intents.get key = some row)
    (done : ledger.replayHttpIntent req key row now = .ok after) :
    Quiets reason ledger after := by
  unfold Ledger.replayHttpIntent at done
  split_ifs at done with reused ended
  · obtain ⟨_, rearmed, done⟩ := bind_eq_ok.mp done
    cases done
    exact rearmed_quiets found ended.2 (liftTransition_eq_ok.mp rearmed)
  · cases done
    exact .refl Settles.refl

theorem takeOverHttpIntent_quiets (found : ledger.intents.get key = some row)
    (done : ledger.takeOverHttpIntent req key row now = .ok after) :
    Quiets reason ledger after := by
  unfold Ledger.takeOverHttpIntent at done
  split_ifs at done with ended
  obtain ⟨_, rearmed, done⟩ := bind_eq_ok.mp done
  cases done
  exact rearmed_quiets found ended (liftTransition_eq_ok.mp rearmed)

theorem createOrReplayHttpIntent_quiets {fresh : IntentId}
    (unused : ledger.intents.get fresh = none)
    (done : ledger.createOrReplayHttpIntent req fresh loaded now = .ok after) :
    Quiets (fun id => ∃ copy, (id, copy) ∈ loaded) ledger after := by
  unfold Ledger.createOrReplayHttpIntent at done
  split at done
  · cases done
  split at done
  · next key row asked =>
    have found := Table.mem_rows.mp (List.mem_of_find?_eq_some asked)
    exact replayHttpIntent_quiets found done
  split_ifs at done with started
  split at done
  · next key row asked =>
    have found := Table.mem_rows.mp (List.mem_of_find?_eq_some asked)
    exact takeOverHttpIntent_quiets found done
  obtain ⟨superseded, flushed, done⟩ := bind_eq_ok.mp done
  cases done
  have settled := flushSkips_settles (liftTransition_eq_ok.mp flushed)
  have absent : superseded.intents.get fresh = none := by
    cases met : superseded.intents.get fresh with
    | none => rfl
    | some row => exact (settled.new fresh row unused met).elim
  exact settled.trans (.insert absent rfl Settles.refl) Settles.trans
    fun _ _ _ impossible _ => impossible.elim

theorem revert_quiets {failure : PublishFailure} {conserve : Bool}
    {loaded : Option (IntentId × IntentRow)} :
    Quiets (fun id => ∃ copy, loaded = some (id, copy)) ledger
      (ledger.revert cfg loaded failure conserve now) := by
  unfold Ledger.revert
  split
  · exact .refl Settles.refl
  next key copy =>
  split
  · next changed reverted =>
    obtain ⟨enqueued, -, moved⟩ := revertEnqueued_row reverted
    have idle : changed.status ≠ .enqueued ∧ changed.status ≠ .started := by
      obtain ⟨status, -⟩ | ⟨-, status, -⟩ | ⟨-, status, -⟩ := moved
      all_goals
        rw [status]
        decide
    refine .modify (fun stored found =>
      .inr ⟨rfl, live_eq_false ?_, fun _ => ⟨copy, rfl⟩⟩) Settles.refl
    rw [flush_status (enqueued ▸ idle.1)]
    exact idle
  · exact .refl Settles.refl

theorem createAuto_quiets {fresh : IntentId} {event : EventId} {mode : OrchestrationMode} :
    Quiets (fun _ => False) ledger
      (ledger.whenFresh fresh (ledger.maybeCreatePending event fresh mode now)) := by
  unfold Ledger.whenFresh
  split_ifs with unused
  · unfold Ledger.maybeCreatePending
    split_ifs
    · exact .refl Settles.refl
    · exact .insert unused rfl Settles.refl
  · exact .refl Settles.refl

end Rows

/-! ### Every step -/

section

variable {cfg : IntentSettings} {w : World} {label : Label} {id : IntentId} {next : IntentRow}

abbrev RowSteps (cfg : IntentSettings) (w : World) (label : Label) (after : Ledger) : Prop :=
  Table.Steps (RowStep cfg w label) (fun _ row => row.live = false) w.ledger.intents after.intents

theorem Quiets.rowSteps {reason : IntentId → Prop} {after : Ledger}
    (quiets : Quiets reason w.ledger after)
    (ends : ∀ id row, reason id → Ends cfg w label id row) :
    RowSteps cfg w label after := by
  refine quiets.mono ?_ fun _ _ idle => idle
  rintro id row _ (rfl | ⟨event, idle, touched⟩)
  · exact .kept
  · exact .idle event idle fun started => ends id row (touched started)

theorem onRow_rowSteps {key : IntentId}
    {change : IntentRow → Except IntentTransitionError (Option IntentRow)}
    (moves : ∀ row next, change row = .ok (some next) → RowStep cfg w label key row next) :
    RowSteps cfg w label (w.ledger.onRow key change) :=
  Ledger.onRow_steps (fun row next _ => moves row next) fun _ _ => .kept

theorem alone_of_unblocked {event : EventId}
    (unblocked : w.ledger.siblingBlocking id event = false) (other : IntentId)
    (sibling : IntentRow) (apart : other ≠ id)
    (found : w.ledger.intents.get other = some sibling) (ours : sibling.eventId = event) :
    sibling.live = false := by
  unfold Ledger.siblingBlocking at unblocked
  rw [List.any_eq_false] at unblocked
  have free := unblocked (other, sibling) (Table.mem_rows.mpr found)
  refine live_eq_false ⟨fun enqueued => ?_, fun started => ?_⟩
  · simp [ours, apart, enqueued] at free
  · simp [ours, apart, started] at free

section OneRow

variable {row : IntentRow} {now : Time}

theorem RowStep.unstarted (event : next.eventId = row.eventId) (quiet : next.live = false)
    (waiting : row.status ≠ .started) : RowStep cfg w label id row next :=
  .idle event quiet fun started => absurd started waiting

theorem claim_rowStep {worker : WorkerId} (changed : row.claim cfg worker now = .ok (some next)) :
    RowStep cfg w label id row next := by
  obtain ⟨status, event, taken⟩ := claim_row changed
  refine .unstarted event (live_eq_false (by rw [status]; decide)) ?_
  obtain ⟨-, claimed, -⟩ | ⟨pending | retry, -⟩ := taken
  · rw [claimed]; decide
  · rw [pending]; decide
  · rw [retry]; decide

theorem commitEnqueued_rowStep {eligible : Bool} {event : Option EventStatus}
    (entry : label.op = .commitEnqueued id eligible)
    (changed : row.commitEnqueued id event (w.ledger.siblingBlocking id row.eventId) eligible
      now = .ok (some next)) :
    RowStep cfg w label id row next := by
  obtain ⟨claimed, event, ⟨status, -⟩ | ⟨-, status, -⟩ | ⟨unblocked, -, -, task, unclaimed⟩⟩ :=
    commitEnqueued_row changed
  iterate 2
    exact .unstarted event (live_eq_false (by rw [status]; decide)) (by rw [claimed]; decide)
  · exact .enqueued entry claimed event task unclaimed (alone_of_unblocked unblocked)

theorem markStarted_rowStep {task : TaskId}
    (changed : (row.markStarted id task now).2 = some next) :
    RowStep cfg w label id row next := by
  obtain ⟨live, event, status, revision, broker, held, claim⟩ := markStarted_row changed
  refine .started live event status revision ?_ claim
  obtain none | same | derived := held
  · exact .inr (.inr none)
  · exact .inl (by rw [broker, same])
  · exact .inr (.inl (by rw [broker, derived]))

theorem reconcile_quiet {event : Option EventStatus}
    (changed : row.reconcile cfg id event now = .ok (some next)) :
    row.stale cfg now = true ∧ next.eventId = row.eventId ∧ next.live = false := by
  obtain ⟨stale, -, event, moved⟩ := reconcile_row changed
  refine ⟨stale, event, live_eq_false ?_⟩
  obtain ⟨-, status, -⟩ | ⟨-, status, -⟩ | ⟨-, status, -⟩ := moved
  · constructor
    all_goals
      intro same
      rw [same] at status
      exact absurd status (by decide)
  · rw [status]; decide
  · rw [status]; decide

end OneRow

theorem step_rowSteps (undeleted : ∀ event, label.op ≠ .deleteEvent event) :
    RowSteps cfg w label (step cfg w label).ledger := by
  obtain ⟨now, op⟩ := label
  have unchanged : RowSteps cfg w ⟨now, op⟩ w.ledger :=
    .refl fun _ _ => .kept
  cases op with
  | createAuto => exact createAuto_quiets.rowSteps fun _ _ => False.elim
  | selectActive | readEnqueued | others => exact unchanged
  | httpIntent =>
    simp only [step, Ledger.whenFresh]
    split_ifs with unused
    · unfold Ledger.settle
      split
      · next after done =>
        exact (createOrReplayHttpIntent_quiets unused done).rowSteps fun _ _ copied => copied
      · exact unchanged
    · exact unchanged
  | claim => exact onRow_rowSteps fun _ _ => claim_rowStep
  | commitEnqueued =>
    exact onRow_rowSteps fun _ _ => commitEnqueued_rowStep rfl
  | revert => exact revert_quiets.rowSteps fun _ _ copied => copied
  | markStarted =>
    exact onRow_rowSteps fun row next changed => markStarted_rowStep (Except.ok.inj changed)
  | complete =>
    refine onRow_rowSteps fun row next changed => ?_
    obtain ⟨-, broker, event, idle⟩ := complete_row changed
    exact .idle event idle fun _ => ⟨rfl, broker⟩
  | reconcile =>
    refine onRow_rowSteps fun row next changed => ?_
    obtain ⟨stale, event, idle⟩ := reconcile_quiet changed
    exact .idle event idle fun _ => ⟨rfl, stale⟩
  | softLimit =>
    simp only [step, Ledger.settle]
    split
    · next after done =>
      obtain ⟨⟨final, outcome⟩, applied, rfl⟩ := map_eq_ok.mp done
      exact Quiets.rowSteps ((apply_settles applied).mono_born fun _ _ impossible =>
        impossible.elim) fun _ _ named => named
    · exact unchanged
  | inlineStarted =>
    refine onRow_rowSteps fun row next changed => ?_
    obtain ⟨waiting, event, task, unclaimed⟩ := markInlineStarted_row changed
    exact .inline rfl event task unclaimed waiting
  | deleteEvent event => exact absurd rfl (undeleted event)

/-- **A row after a step**: it comes from a row before by a `RowStep`, or it is new and idle. -/
theorem step_row (reached : (step cfg w label).ledger.intents.get id = some next) :
    (∃ row, w.ledger.intents.get id = some row ∧ RowStep cfg w label id row next)
      ∨ (w.ledger.intents.get id = none ∧ next.live = false) := by
  by_cases deletes : ∃ event, label.op = .deleteEvent event
  · obtain ⟨_, deletes⟩ := deletes
    simp only [step, deletes, Ledger.deleteEvent, Table.get_deleteWhere] at reached
    exact .inl ⟨next, (Option.filter_eq_some_iff.mp reached).1, .kept⟩
  · exact (step_rowSteps (not_exists.mp deletes)).row_after reached

theorem step_present {row : IntentRow} (found : w.ledger.intents.get id = some row)
    (undeleted : label.op ≠ .deleteEvent row.eventId) :
    ∃ next, (step cfg w label).ledger.intents.get id = some next := by
  by_cases deletes : ∃ event, label.op = .deleteEvent event
  · obtain ⟨event, deletes⟩ := deletes
    have other : (row.eventId == event) = false := by
      rw [beq_eq_false_iff_ne]
      rintro rfl
      exact undeleted deletes
    exact ⟨row, by simp [step, deletes, Ledger.deleteEvent, Table.get_deleteWhere, found, other]⟩
  · obtain ⟨next, reached, -⟩ := (step_rowSteps (not_exists.mp deletes)).old id row found
    exact ⟨next, reached⟩

end

end ShadowTrace.Intents
