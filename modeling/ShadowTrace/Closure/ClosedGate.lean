/-
**The gate in front of `CLOSED`, over whole histories.**

A `World` is the action lifecycle with the context journals of the events. The state machine is the
only writer of a status: the rest of the application creates events as `new` and leaves the statuses
of stored events alone (`keepsStatuses`).
-/

import ShadowTrace.Closure.StateMachine

namespace ShadowTrace.Closure

open Relational Machine

/-- The settings of the lifecycle, and the kind of disposition adapter. -/
structure Settings where
  life : Lifecycle.Settings
  dispositionIsMock : Bool

/-- The lifecycle, with the context journals of the events. -/
structure World where
  life : Lifecycle.World
  journals : Table EventId EventJournal

def World.db (w : World) : Db := w.life.db

/-- The journal of an event, empty until something is written. -/
def World.journal (w : World) (event : EventId) : EventJournal := (w.journals.get event).getD {}

/-- A transaction that raises leaves no trace. -/
def World.commit {ε : Type} (w : World) : Except ε Db → World
  | .ok db => { w with life := w.life.store db }
  | .error _ => w

/-- A step of the lifecycle, an operation of the state machine, or a journal write. -/
inductive Op
  | life (op : Lifecycle.Op)
  | transition (event : EventId) (target : EventStatus) (caller : Option TransitionContext)
      (choices : Choices) (now : Time)
  | forceClose (event : EventId) (isAdmin : Bool) (now : Time)
  | softTimeLimit (event : EventId) (choices : Choices)
  /-- `repair_post_commit_projection` rebuilds the context of an event from its row. -/
  | repairProjection (event : EventId)
  | journal (event : EventId) (entry : EventJournal)

/-- Stored events keep their status, new ones are `new`. -/
def keepsStatuses (before after : Table EventId EventRow) : Bool :=
  (before.rows.all fun entry => (after.get entry.1).any fun row => row.status == entry.2.status)
    && after.rows.all fun entry => (before.get entry.1).isSome || entry.2.status == .new

/-- The rest of the application does not write the status of an event. -/
def respectsStatuses (db : Db) : Lifecycle.Op → Bool
  | .others events _ _ => keepsStatuses db.events events
  | _ => true

/-- One transaction of a history. -/
def step (cfg : Settings) (w : World) : Op → World
  | .life op =>
    if respectsStatuses w.db op then { w with life := Lifecycle.step cfg.life w.life op }
    else w
  | .transition event target caller choices now =>
    w.commit (transition cfg.dispositionIsMock w.db (w.journal event) event target
      caller choices now)
  | .forceClose event isAdmin now => w.commit (forceClose w.db event isAdmin now)
  | .softTimeLimit event choices =>
    w.commit (softTimeLimit cfg.dispositionIsMock w.db (w.journal event) event choices)
  | .repairProjection _ => w
  | .journal event entry => { w with journals := w.journals.set event entry }

/-- The start: events, reports and source objects are there, nothing has been planned. -/
def World.initial (around : Surroundings) : World where
  life := .initial around
  journals := .empty

/-! ### What one step does -/

section

variable {cfg : Settings} {w : World} {op : Op} {event : EventId} {row : EventRow}

/-- What a step does to the statuses: nothing, or one move of one event. -/
inductive StatusStep (cfg : Settings) (w after : World) : Prop
  | kept (stored : ∀ event row, w.db.events.get event = some row →
      ∃ next, after.db.events.get event = some next ∧ next.status = row.status)
  | moved {event : EventId}
      (written : WritesEvent cfg.dispositionIsMock w.db (w.journal event) event
        after.db) (journals : after.journals = w.journals)

/-- What every step is: see `step_taken`. -/
structure Taken (cfg : Settings) (w after : World) : Prop where
  statuses : StatusStep cfg w after
  life : ∃ inner, after.life = Lifecycle.step cfg.life w.life inner

theorem Taken.refl : Taken cfg w w where
  statuses := .kept fun _ row found => ⟨row, found, rfl⟩
  life := ⟨.others w.db.events w.db.reports w.db.sources, rfl⟩

theorem commit_taken {ε : Type} {result : Except ε Db}
    (writes : ∀ after, result = .ok after → after = w.db
      ∨ WritesEvent cfg.dispositionIsMock w.db (w.journal event) event after) :
    Taken cfg w (w.commit result) := by
  cases outcome : result with
  | error => exact .refl
  | ok after =>
    obtain rfl | written := writes after outcome
    · exact .refl
    refine ⟨.moved written rfl, ?_⟩
    obtain ⟨_, next, -, -, rfl⟩ := written
    exact ⟨.others (w.db.events.set event next) w.db.reports w.db.sources, rfl⟩

theorem keepsStatuses_stored {before after : Table EventId EventRow}
    (keeps : keepsStatuses before after = true) (found : before.get event = some row) :
    ∃ next, after.get event = some next ∧ next.status = row.status := by
  rw [keepsStatuses, Bool.and_eq_true] at keeps
  have kept := List.all_eq_true.mp keeps.1 (event, row) (Table.mem_rows.mpr found)
  obtain ⟨next, reached, same⟩ := Option.any_eq_true _ _ |>.mp kept
  exact ⟨next, reached, beq_iff_eq.mp same⟩

theorem life_statuses {inner : Lifecycle.Op} (respects : respectsStatuses w.db inner = true)
    (found : w.db.events.get event = some row) :
    ∃ next, (Lifecycle.step cfg.life w.life inner).db.events.get event = some next
      ∧ next.status = row.status := by
  cases other : inner.writesEvents with
  | false =>
    have same := (Lifecycle.step_effects cfg.life w.life inner).events other
    rw [same]
    exact ⟨row, found, rfl⟩
  | true =>
    cases inner with
    | others => exact keepsStatuses_stored respects found
    | _ => cases other

/-- Every step is a step of the lifecycle, and it moves the status of at most one event, along one
of the moves of the service. -/
theorem step_taken (cfg : Settings) (w : World) (op : Op) : Taken cfg w (step cfg w op) := by
  cases op with
  | life inner =>
    rw [step]
    split_ifs with respects
    · exact ⟨.kept fun _ _ => life_statuses respects, inner, rfl⟩
    · exact .refl
  | transition => exact commit_taken fun after done => .inr (transition_writes done)
  | forceClose => exact commit_taken fun after done => .inr (forceClose_writes done)
  | softTimeLimit => exact commit_taken fun _ => softTimeLimit_writes
  | repairProjection => exact .refl
  | journal => exact ⟨.kept fun _ row found => ⟨row, found, rfl⟩, Taken.refl.life⟩

/-- The invariant: a sound lifecycle in which writebacks can be judged at the gate. -/
def Standing (w : World) : Prop :=
  Lifecycle.Sound w.life ∧ Lifecycle.Closable w.db

theorem step_standing (cfg : Settings) (w : World) (op : Op)
    (standing : Standing w) : Standing (step cfg w op) := by
  obtain ⟨sound, closable⟩ := standing
  obtain ⟨_, same⟩ := (step_taken cfg w op).life
  rw [Standing, World.db, same]
  exact ⟨Lifecycle.step_sound _ _ _ sound, Lifecycle.step_closable sound closable⟩

/-- A closed event stays closed. -/
theorem step_closed (found : w.db.events.get event = some row) (closed : row.status = .closed) :
    ∃ next, (step cfg w op).db.events.get event = some next
      ∧ next.status = .closed := by
  cases (step_taken cfg w op).statuses with
  | kept stored =>
    obtain ⟨next, reached, same⟩ := stored event row found
    exact ⟨next, reached, same.trans closed⟩
  | @moved other written journals =>
    obtain ⟨earlier, _, there, moved, same⟩ := written
    have open_ : earlier.status ≠ .closed := by
      cases moved with
      | validated open_ | forced open_ => exact open_
    by_cases here : event = other
    · subst here
      obtain rfl := Option.mem_unique found there
      exact absurd closed open_
    · refine ⟨row, ?_, closed⟩
      rw [same]
      exact (Table.get_set_ne here).trans found

/-- A step that closes an event meets what the gate asks. -/
theorem step_soundlyClosed (standing : Standing w) {next : EventRow}
    (found : w.db.events.get event = some row) (open_ : row.status ≠ .closed)
    (reached : (step cfg w op).db.events.get event = some next)
    (closed : next.status = .closed) (required : next.dispositionPolicy = .required)
    (synced : next.externalUnsynced = false) :
    ∃ revision, SoundlyClosed cfg.dispositionIsMock (step cfg w op).db
      ((step cfg w op).journal event) event revision := by
  obtain ⟨sound, closable⟩ := standing
  cases (step_taken cfg w op).statuses with
  | kept stored =>
    obtain ⟨_, there, same⟩ := stored event row found
    obtain rfl := Option.mem_unique reached there
    exact absurd (same.symm.trans closed) open_
  | @moved other written journals =>
    obtain ⟨_, written, there, moved, same⟩ := written
    have here : event = other := by
      by_contra different
      rw [same, Table.get_set_ne different, found] at reached
      cases reached
      exact open_ closed
    subst here
    rw [same, Table.get_set_self] at reached
    cases reached
    obtain rfl := Option.mem_unique found there
    have kept : (step cfg w op).journal event = w.journal event := by
      rw [World.journal, journals, World.journal]
    cases moved with
    | validated _ policy gate =>
      have wanted : row.dispositionPolicy = .required := policy.symm.trans required
      have accepted := (validateClosedGate_required (congrArg some wanted)).mp (gate closed)
      obtain ⟨revision, sound⟩ := soundlyClosed_of_gate closable sound.jobs wanted accepted
      refine ⟨revision, ?_⟩
      rw [kept, same]
      exact sound.of_events _
    | forced _ unsynced =>
      rw [unsynced] at synced
      cases synced

end

/-! ### Whole histories -/

variable (cfg : Settings) (around : Surroundings) (ops : List Op)

theorem initial_standing : Standing (World.initial around) :=
  ⟨Lifecycle.initial_sound .., Lifecycle.initial_closable ..⟩

/-- **The gate is sound.** Whenever a step of any history closes an event with a required
disposition that counts as synchronised, the committed state has a report, every side effect of the
current revision is over, every required writeback of it is confirmed, and exactly one terminal
disposition of that revision is in force and confirmed. The answer of the gate does not depend on
what the caller passed, and a closed event stays closed. -/
theorem closed_gate_sound :
    (∀ before op after, Occurs (step cfg) (World.initial around) ops before op after →
      ∀ event row next, before.db.events.get event = some row → row.status ≠ .closed →
        after.db.events.get event = some next → next.status = .closed →
        next.dispositionPolicy = .required → next.externalUnsynced = false →
        ∃ revision, SoundlyClosed cfg.dispositionIsMock after.db (after.journal event) event
          revision)
    ∧ (∀ (db : Db) (journal : EventJournal) (event : EventId) (row : EventRow) (choices : Choices)
        (caller other : Option TransitionContext),
        validateClosedGate (buildAuthoritativeContext cfg.dispositionIsMock db journal event
            row caller choices)
          = validateClosedGate (buildAuthoritativeContext cfg.dispositionIsMock db journal
            event row other choices))
    ∧ ∀ event row,
        (run (step cfg) (World.initial around) ops).db.events.get event
          = some row → row.status = .closed → ∀ later, ∃ next,
        (run (step cfg) (World.initial around)
          (ops ++ later)).db.events.get event = some next ∧ next.status = .closed := by
  refine ⟨fun before op after occurs => ?_, fun _ _ _ _ _ _ _ => rfl, ?_⟩
  · apply occurs_invariant (fun _ _ => True) Standing _ ?_ ?_
      (initial_standing ..) (along_true _ _) occurs
    · exact fun w op standing _ => step_standing cfg w op standing
    · exact fun _ _ standing _ _ _ _ => step_soundlyClosed standing
  · intro event row found closed later
    rw [run_append]
    refine run_invariant_of_step (fun w : World => ∃ next,
      w.db.events.get event = some next ∧ next.status = .closed) ?_ ⟨row, found, closed⟩ later
    rintro _ _ ⟨_, there, still⟩
    exact step_closed there still

/-! ### A false positive that is disposed of and closed -/

/-- An event that turned out to be a false positive, with its report and its source object. -/
def sampleReporting : Surroundings where
  events := Table.empty.set 1
    { status := .reporting, severity := .low, finalVerdict := .falsePositive
      dispositionPolicy := .required }
  reports := Table.empty.set 1 1
  sources := Table.empty.set 1 0

def sampleSettings : Settings where
  life :=
    { workerName := id, reclaim := { maxAttempts := 3, leaseSeconds := 10 }, maxRetries := 2 }
  dispositionIsMock := false

def sampleConfirmation : Sync.DeliveryEnv :=
  { Sync.answering .confirmed with
    submit := .receipt (Sync.localReceipt .confirmed (some .readbackVerified)) }

/-- Its disposition is planned, activated, delivered and confirmed. -/
def sampleDisposition : List Op :=
  [.life (.dispositionOnly 1 1 (some 1) 0),
    .life (.activate 1 ⟨true, true, true, .ignored⟩ ⟨7, 7, 7, 1, 7, true⟩ 1),
    .life (.sync (.deliverDirect 7 0 2 sampleConfirmation))]

def sampleStart : World := World.initial sampleReporting

def sampleClose : Op := .transition 1 .closed none ⟨0, 0⟩ 3

theorem closed_gate_sound_falsePositive :
    let before := run (step sampleSettings) sampleStart sampleDisposition
    let after := step sampleSettings before sampleClose
    (after.db.events.get 1).map EventRow.status = some .closed
      ∧ ∃ revision, SoundlyClosed false after.db (after.journal 1) 1 revision := by
  refine ⟨by decide, ?_⟩
  have sound := (closed_gate_sound sampleSettings sampleReporting
    (sampleDisposition ++ [sampleClose])).1 _ _ _
      (occurs_last sampleStart sampleDisposition sampleClose)
  exact sound 1 _ _ rfl (by decide) rfl (by decide) (by decide) (by decide)

end ShadowTrace.Closure
