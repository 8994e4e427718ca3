/-
**Deliveries of an event: one at a time, and owned by the worker that was admitted.**

Both rest on `step_row`, and on `Published`: a live row carries the task id of its revision.
-/

import ShadowTrace.Intents.System

namespace ShadowTrace.Intents

open Relational Machine

/-! ### One live delivery -/

section

variable {cfg : IntentSettings} {w : World} {label : Label} {id : IntentId} {row next : IntentRow}

/-- An event has at most one live intent. -/
def OneLive (ledger : Ledger) : Prop :=
  ∀ first second one other, ledger.intents.get first = some one →
    ledger.intents.get second = some other → one.eventId = other.eventId →
    one.live = true → other.live = true → first = second

def Label.dispatched (label : Label) : Bool :=
  match label.op with
  | .inlineStarted _ => false
  | _ => true

theorem step_live (dispatched : label.dispatched = true)
    (reached : (step cfg w label).ledger.intents.get id = some next)
    (live : next.live = true) :
    ∃ row, w.ledger.intents.get id = some row ∧ next.eventId = row.eventId
      ∧ (row.live = true ∨ ∃ eligible, label.op = .commitEnqueued id eligible
        ∧ ∀ other sibling, other ≠ id → w.ledger.intents.get other = some sibling →
          sibling.eventId = row.eventId → sibling.live = false) := by
  obtain ⟨row, found, moved⟩ | ⟨-, idle⟩ := step_row reached
  · refine ⟨row, found, ?_⟩
    cases moved with
    | kept => exact ⟨rfl, .inl live⟩
    | idle _ quiet =>
      rw [quiet] at live
      cases live
    | enqueued entry _ event _ _ alone => exact ⟨event, .inr ⟨_, entry, alone⟩⟩
    | started before event => exact ⟨event, .inl before⟩
    | inline entry =>
      unfold Label.dispatched at dispatched
      rw [entry] at dispatched
      cases dispatched
  · rw [idle] at live
    cases live

theorem step_oneLive (dispatched : label.dispatched = true) (unique : OneLive w.ledger) :
    OneLive (step cfg w label).ledger := by
  intro first second one _ foundFirst foundSecond event liveFirst liveSecond
  obtain ⟨one', before, eventFirst, entered⟩ := step_live dispatched foundFirst liveFirst
  obtain ⟨other', before', eventSecond, entered'⟩ := step_live dispatched foundSecond liveSecond
  have together : one'.eventId = other'.eventId := by rw [← eventFirst, ← eventSecond, event]
  by_contra apart
  rcases entered with live | ⟨eligible, entry, alone⟩
  · rcases entered' with live' | ⟨eligible', entry', alone'⟩
    · exact apart (unique first second one' other' before before' together live live')
    · have idle := alone' first one' apart before together
      rw [live] at idle
      cases idle
  rcases entered' with live' | ⟨eligible', entry', alone'⟩
  · have idle := alone second other' (Ne.symm apart) before' together.symm
    rw [live'] at idle
    cases idle
  -- one step publishes one intent
  rw [entry] at entry'
  injection entry' with same
  exact apart same

/-- **At most one live delivery per event**, in every state that is reached without the inline entry
point. -/
theorem one_live_delivery (cfg : IntentSettings) (db : Db) (labels : List Label)
    (dispatched : ∀ label ∈ labels, label.dispatched = true) :
    OneLive (run (step cfg) (World.init db) labels).ledger := by
  have start : OneLive (World.init db).ledger := by
    intro _ _ _ _ found
    cases found
  generalize World.init db = w at start
  induction labels generalizing w with
  | nil => exact start
  | cons label _ ih =>
    refine ih (fun other mem => dispatched other (.tail _ mem)) _ ?_
    exact step_oneLive (dispatched label (.head _)) start

def requestedRun : List Label :=
  [⟨0, .selectActive 0 0⟩, ⟨0, .httpIntent 0 0 firstRequest⟩, ⟨1, .claim 0 0⟩,
    ⟨2, .commitEnqueued 0 false⟩, ⟨3, .markStarted 0 (.derived 0 1)⟩]

theorem one_live_delivery_requested :
    (∀ label ∈ requestedRun, label.dispatched = true)
      ∧ OneLive (run (step defaultIntentSettings) (World.init (eventOnly .new))
        requestedRun).ledger :=
  ⟨by decide, one_live_delivery defaultIntentSettings (eventOnly .new) requestedRun (by decide)⟩

end

/-! ### Owned deliveries -/

section

variable {cfg : IntentSettings} {w : World} {label : Label} {id : IntentId} {task : TaskId}
  {row next : IntentRow} {revision : Nat} {now : Time}

/-- A live row is published under the task id of its revision, and nobody claims it. -/
def Published (ledger : Ledger) : Prop :=
  ∀ id row, ledger.intents.get id = some row → row.live = true →
    row.brokerTaskId = some (.derived id row.revision) ∧ row.claimExpiresAt = none

theorem step_published (published : Published w.ledger) : Published (step cfg w label).ledger := by
  intro id next reached live
  obtain ⟨row, found, moved⟩ | ⟨-, idle⟩ := step_row reached
  · cases moved with
    | kept => exact published id next found live
    | idle _ quiet =>
      rw [quiet] at live
      cases live
    | enqueued _ _ _ task unclaimed | inline _ _ task unclaimed => exact ⟨task, unclaimed⟩
    | started before _ _ revision task claim =>
      obtain ⟨broker, unclaimed⟩ := published id row found before
      rw [broker] at task
      rw [revision]
      refine ⟨?_, ?_⟩
      · rcases task with same | derived | none
        · exact same
        · exact derived
        · cases none
      · rcases claim with free | same
        · exact free
        · rw [same, unclaimed]
  · rw [idle] at live
    cases live

/-- **Live rows carry the task id of their revision** in every state that is reached. -/
theorem run_published (cfg : IntentSettings) (db : Db) (labels : List Label) :
    Published (run (step cfg) (World.init db) labels).ledger := by
  refine run_invariant_of_step (fun w : World => Published w.ledger)
    (fun _ _ => step_published) ?_ labels
  intro _ _ found
  cases found

/-- What may end a delivery that was accepted: its own completion, a reconciliation after the
staleness limit, a soft limit, a request that supersedes the intent, and the deletion of the
event. -/
def Releases (cfg : IntentSettings) (id : IntentId) (task : TaskId) (w : World)
    (label : Label) : Prop :=
  match label.op with
  | .complete other presented _ => other = id ∧ presented = task
  | .reconcile other => other = id ∧ ∃ row, w.ledger.intents.get id = some row
      ∧ cfg.startedStale < label.now - row.updatedAt
  | .softLimit call => call.intent = some id
  | .httpIntent handler _ _ => ∃ copy, (id, copy) ∈ w.superseding handler
  | .deleteEvent event => ∃ row, w.ledger.intents.get id = some row ∧ row.eventId = event
  | _ => False

/-- No failure handler is between its read of the intent and its write. -/
def Unread (w : World) (id : IntentId) : Prop :=
  ∀ handler copy, w.reverting handler ≠ some (id, copy)

/-- The delivery of the task runs the started intent. -/
structure Owned (w : World) (id : IntentId) (task : TaskId) (revision : Nat) : Prop where
  published : Published w.ledger
  unread : Unread w id
  row : ∃ row, w.ledger.intents.get id = some row ∧ row.status = .started ∧ row.revision = revision
  task : task = .derived id revision

section

variable (owned : Owned w id task revision)

include owned

theorem Owned.started : ∃ row, w.ledger.intents.get id = some row ∧ row.status = .started
      ∧ row.revision = revision ∧ row.brokerTaskId = some task ∧ row.claimExpiresAt = none := by
  obtain ⟨row, found, status, same⟩ := owned.row
  obtain ⟨broker, unclaimed⟩ := owned.published id row found (by simp [IntentRow.live, status])
  rw [same, ← owned.task] at broker
  exact ⟨row, found, status, same, broker, unclaimed⟩

theorem Ends.releases (found : w.ledger.intents.get id = some row)
    (ends : Ends cfg w label id row) : Releases cfg id task w label := by
  obtain ⟨_, there, status, -, broker, unclaimed⟩ := owned.started
  obtain rfl := Option.mem_unique found there
  obtain ⟨_, op⟩ := label
  cases op with
  | complete =>
    obtain ⟨same, presentedTask⟩ := ends
    rw [broker] at presentedTask
    exact ⟨same, (Option.some.inj presentedTask).symm⟩
  | reconcile =>
    obtain ⟨same, stale⟩ := ends
    refine ⟨same, row, found, ?_⟩
    simpa [IntentRow.stale, unclaimed, status] using stale
  | softLimit | httpIntent => exact ends
  | revert handler =>
    obtain ⟨copy, held⟩ := ends
    exact absurd held (owned.unread handler copy)
  | createAuto | selectActive | claim | commitEnqueued | readEnqueued | markStarted
  | inlineStarted | others | deleteEvent => exact ends.elim

theorem step_unread : Unread (step cfg w label) id := by
  intro handler copy held
  obtain ⟨_, found, status, -⟩ := owned.started
  obtain ⟨_, op⟩ := label
  cases op with
  | readEnqueued =>
    simp only [step, Function.update_apply] at held
    split_ifs at held with same
    · obtain ⟨_, there, entry⟩ := Option.bind_eq_some_iff.mp held
      split_ifs at entry with enqueued
      cases entry
      obtain rfl := Option.mem_unique found there
      rw [status] at enqueued
      cases enqueued
    · exact owned.unread handler copy held
  | revert =>
    simp only [step, Function.update_apply] at held
    split_ifs at held with same
    exact owned.unread handler copy held
  | createAuto | selectActive | httpIntent | claim | commitEnqueued | markStarted | complete
  | reconcile | softLimit | inlineStarted | others | deleteEvent =>
    exact owned.unread handler copy held

/-- **A step that does not release an intent leaves it to its owner.** -/
theorem step_owned (held : ¬ Releases cfg id task w label) :
    Owned (step cfg w label) id task revision := by
  refine ⟨step_published owned.published, step_unread owned, ?_, owned.task⟩
  obtain ⟨row, found, status, same, -⟩ := owned.started
  have undeleted : label.op ≠ .deleteEvent row.eventId := by
    intro deleted
    refine held ?_
    unfold Releases
    rw [deleted]
    exact ⟨row, found, rfl⟩
  obtain ⟨next, reached⟩ : ∃ next, (step cfg w label).ledger.intents.get id = some next :=
    step_present found undeleted
  refine ⟨next, reached, ?_⟩
  obtain ⟨_, there, moved⟩ | ⟨absent, -⟩ := step_row reached
  · obtain rfl := Option.mem_unique found there
    cases moved with
    | kept => exact ⟨status, same⟩
    | idle _ _ ends => exact absurd ((ends status).releases owned found) held
    | enqueued _ claimed =>
      rw [status] at claimed
      cases claimed
    | started _ _ reachedStatus kept => exact ⟨reachedStatus, by rw [kept, same]⟩
    | inline _ _ _ _ waiting => simp [IntentRow.live, status] at waiting
  · rw [found] at absent
    cases absent

theorem Owned.accepts {other : TaskId} (accepted : w.ledger.admission id other now = .accepted) :
    other = task := by
  obtain ⟨row, found, status, same, broker, -⟩ := owned.started
  unfold Ledger.admission at accepted
  rw [found] at accepted
  dsimp only at accepted
  unfold IntentRow.markStarted at accepted
  have active : row.status ∉ terminalIntentStatuses := by rw [status]; decide
  split_ifs at accepted with held derived
  · rw [broker] at held
    exact (Option.some.inj held).symm
  · rw [derived, owned.task, same]

end

theorem accepted_row (cfg : IntentSettings) (published : Published w.ledger)
    (accepted : w.ledger.admission id task now = .accepted) :
    ∃ row next, w.ledger.intents.get id = some row ∧ task = .derived id row.revision
      ∧ (step cfg w ⟨now, .markStarted id task⟩).ledger.intents.get id = some next
      ∧ next.status = .started ∧ next.revision = row.revision := by
  unfold Ledger.admission at accepted
  cases found : w.ledger.intents.get id with
  | none => simp [found] at accepted
  | some row =>
    rw [found] at accepted
    dsimp only at accepted
    refine ⟨row, ?_⟩
    simp only [step, Ledger.markStarted, Ledger.onRow, found]
    unfold IntentRow.markStarted at accepted ⊢
    split_ifs at accepted ⊢ with ended started held derived waiting foreign
    · have broker := (published id row found (by simp [IntentRow.live, started])).1
      rw [held] at broker
      exact ⟨row, trivial, Option.some.inj broker, found, started, rfl⟩
    · exact ⟨_, trivial, derived, Table.get_set_self, started, rfl⟩
    have enqueued : row.status = .enqueued := not_not.mp waiting
    have broker := (published id row found (by simp [IntentRow.live, enqueued])).1
    rw [broker] at foreign
    have same : TaskId.derived id row.revision = task := by simpa using foreign
    exact ⟨_, trivial, same.symm, Table.get_set_self, rfl, rfl⟩

theorem owned_of_accepted (published : Published w.ledger) (unread : Unread w id)
    (accepted : w.ledger.admission id task now = .accepted) :
    ∃ revision, Owned (step cfg w ⟨now, .markStarted id task⟩) id task revision := by
  obtain ⟨row, next, -, derived, reached, status, same⟩ :=
    accepted_row cfg published accepted
  exact ⟨row.revision, step_published published, unread, ⟨next, reached, status, same⟩, derived⟩

/-- **An accepted delivery owns its intent.** -/
theorem accepted_delivery_owns (cfg : IntentSettings) (db : Db) (past : List Label)
    (id : IntentId) (task : TaskId) (now : Time)
    (accepted : (run (step cfg) (World.init db) past).ledger.admission id task now = .accepted)
    (unread : Unread (run (step cfg) (World.init db) past) id) :
    let started := step cfg (run (step cfg) (World.init db) past) ⟨now, .markStarted id task⟩
    ∃ revision, ∀ labels,
      Along (step cfg) (fun w label => ¬ Releases cfg id task w label) started labels →
      (∃ row, (run (step cfg) started labels).ledger.intents.get id = some row
        ∧ row.status = .started ∧ row.revision = revision)
      ∧ ∀ before label after, Occurs (step cfg) started labels before label after →
        ∀ other, label.op = .markStarted id other →
          before.ledger.admission id other label.now = .accepted → other = task := by
  intro started
  obtain ⟨revision, owned⟩ : ∃ revision, Owned started id task revision :=
    owned_of_accepted (run_published cfg db past) unread accepted
  refine ⟨revision, fun labels along => ⟨?_, ?_⟩⟩
  · have kept : Owned (run (step cfg) started labels) id task revision :=
      run_invariant _ (fun w => Owned w id task revision) (fun _ _ => step_owned) owned along
    exact kept.row
  intro before _ _ occurs _ _ again
  have held : Owned before id task revision :=
    occurs_invariant _ (fun w => Owned w id task revision)
      (fun before _ _ => Owned before id task revision)
      (fun _ _ => step_owned) (fun _ _ owned _ => owned) owned along occurs
  exact held.accepts again

def automaticRun : List Label :=
  [⟨0, .createAuto 0 0 .graph⟩, ⟨1, .claim 0 0⟩, ⟨2, .commitEnqueued 0 false⟩]

theorem accepted_delivery_owns_automatic :
    let published := run (step defaultIntentSettings) (World.init (eventOnly .new)) automaticRun
    published.ledger.admission 0 (.derived 0 1) 3 = .accepted ∧ Unread published 0
      ∧ ∃ revision, ∀ labels,
        Along (step defaultIntentSettings)
          (fun w label => ¬ Releases defaultIntentSettings 0 (.derived 0 1) w label)
          (step defaultIntentSettings published ⟨3, .markStarted 0 (.derived 0 1)⟩) labels →
        (∃ row, (run (step defaultIntentSettings) (step defaultIntentSettings published
            ⟨3, .markStarted 0 (.derived 0 1)⟩) labels).ledger.intents.get 0 = some row
          ∧ row.status = .started ∧ row.revision = revision)
        ∧ ∀ before label after, Occurs (step defaultIntentSettings) (step defaultIntentSettings
            published ⟨3, .markStarted 0 (.derived 0 1)⟩) labels before label after →
          ∀ other, label.op = .markStarted 0 other →
            before.ledger.admission 0 other label.now = .accepted → other = .derived 0 1 := by
  have unread : Unread (run (step defaultIntentSettings) (World.init (eventOnly .new))
      automaticRun) 0 := fun _ _ held => by cases held
  exact ⟨rfl, unread, accepted_delivery_owns defaultIntentSettings (eventOnly .new) automaticRun 0
    (.derived 0 1) 3 rfl unread⟩

/-- A started delivery is accepted a second time, a request supersedes it, and a failure handler
that had read the row before takes it back. -/
theorem accepted_delivery_disturbed :
    let started := run (step defaultIntentSettings) (World.init (eventOnly .new))
      (automaticRun ++ [⟨3, .readEnqueued 0 0⟩, ⟨4, .markStarted 0 (.derived 0 1)⟩])
    (started.ledger.intents.get 0).map IntentRow.status = some .started
      ∧ started.ledger.admission 0 (.derived 0 1) 5 = .accepted
      ∧ ((run (step defaultIntentSettings) started [⟨5, .selectActive 1 0⟩,
          ⟨6, .httpIntent 1 1 firstRequest⟩]).ledger.intents.get 0).map IntentRow.status
        = some .skipped
      ∧ ((run (step defaultIntentSettings) started
          [⟨5, .revert 0 (.transient 0) false⟩]).ledger.intents.get 0).map
          (fun row => (row.status, row.revision)) = some (.retry, 2) := by
  decide

end

end ShadowTrace.Intents
