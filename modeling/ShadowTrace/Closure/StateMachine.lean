/-
**The state machine of an event** (`app/services/state_machine_service.py`).

An operation is one transaction that writes the row of one event, along one of the moves `EventMove`
lists. `softTimeLimit` (`app/services/soft_time_limit_outcome.py`) fails an event whose task ran too
long.
-/

import ShadowTrace.Closure.Convergence

namespace ShadowTrace.Closure

open Relational Fallible

/-- What the context of an event says about its verification. -/
structure EventJournal where
  verificationResult : Option (Option VerificationResult) := none
  snapshot : Option VerificationResult := none
  dispositionOnlyIntent : Bool := false

section

variable (isMock : Bool) (db : Db) (journal : EventJournal) (event : EventId) (revision : Nat)

/-- `_load_verification_result`: a journal entry that cannot be read hides the snapshot. -/
def loadVerificationResult : Option VerificationResult :=
  match journal.verificationResult with
  | some entry => entry
  | none => journal.snapshot

/-! ### The context -/

/-- `LIMIT 1` without an order: the database chooses one of the rows. -/
def limitOne {α : Type} (choice : Nat) (rows : List α) : Option α := rows[choice % rows.length]?

/-- What the database chooses while a context is built. -/
structure Choices where
  deferred : Nat
  outbox : Nat

def deferredActions : List (ActionId × ActionRow) :=
  db.actions.rows.filter fun entry =>
    entry.2.eventId == event && entry.2.planRevision == revision
      && Lifecycle.deferredAction entry.2

def statusUpdates (id : ActionId) : List (OutboxId × OutboxRow) :=
  db.outboxes.rows.filter fun entry => entry.2.actionId == id && Sync.isActiveHead entry.2

def terminalView (id : ActionId) (row : ActionRow) (key : OutboxId) (outbox : OutboxRow) :
    TerminalEventWritebackView :=
  let latest := Sync.latestReceipt db key
  { actionId := id
    writebackId := key
    dispositionId := outbox.dispositionId
    closureCycle := outbox.closureCycle
    intentKind := .eventStatusUpdate
    approvedDisposition := row.approvedTerminalDispositions.head?.getD .pending
    actualDisposition := outbox.targetDisposition.getD .pending
    receiptStatus := outbox.latestWritebackStatus.getD .pending
    planRevision := revision
    simulated := latest.map Receipt.simulated
    confirmationEvidence := latest.bind Receipt.confirmationEvidence }

def buildTerminalWritebackView (revision : Option Nat) (choices : Choices) :
    Option TerminalEventWritebackView := do
  let current ← revision
  let (id, row) ← limitOne choices.deferred (deferredActions db event current)
  let (key, outbox) ← limitOne choices.outbox (statusUpdates db id)
  return terminalView db current id row key outbox

def readClosureCycle : Option Nat :=
  ((db.outboxes.rows.filter fun entry => entry.2.eventId == event).map
    fun entry => entry.2.closureCycle).max?

def responseActions (revision : Option Nat) : List ActionRow :=
  (db.actions.rows.map Prod.snd).filter fun row => row.eventId == event
    && some row.planRevision == revision && row.category == .response
    && row.supersededByRevision.isNone

/-- Of the caller's context three fields are read. -/
def buildAuthoritativeContext (row : EventRow) (caller : Option TransitionContext)
    (choices : Choices) : TransitionContext :=
  let revision := currentRevision db event
  let responses := responseActions db event revision
  { finalVerdict := some row.finalVerdict
    dispositionPolicy := some row.dispositionPolicy
    severity := some row.severity
    dispositionOnlyIntent := journal.dispositionOnlyIntent
    responseActionsAreDispositionOnly :=
      if responses.isEmpty then none
      else some (responses.all fun row => row.toolName == .updateSourceEventDisposition)
    hasEntitySideEffectActions :=
      responses.any fun row => row.toolName != .updateSourceEventDisposition
    reportExists := db.reports.rows.any fun entry => entry.2 == event
    forceClose := false
    applicableRequiredActions := buildClosedGateActions db event revision
    terminalEventWriteback := buildTerminalWritebackView db event revision choices
    currentPlanRevision := revision
    currentClosureCycle := readClosureCycle db event
    sideEffectConvergence := some (buildSideEffectConvergenceSummary db event revision
      row.dispositionPolicy (loadVerificationResult journal))
    -- the business inputs of the caller
    needInvestigation := caller.bind TransitionContext.needInvestigation
    recommendation := caller.bind TransitionContext.recommendation
    escalated := caller.any TransitionContext.escalated
    dispositionIsMock := isMock }

/-! ### The operations -/

inductive StateMachineError
  | eventNotFound
  | flow (error : EventFlowError)
  | replanLimit (current : Nat)
  | unauthorized
  | alreadyClosed
  | forceCloseEdge (current : EventStatus)

def maxReplanCount : Nat := 3

def applyPreTransition (row : EventRow) (target : EventStatus) (ctx : TransitionContext) :
    Except StateMachineError EventRow :=
  let escalated := row.escalated
    || (ctx.escalated && (target == .contained || target == .failed))
  if target = .replanning then
    if row.replanCount + 1 > maxReplanCount then .error (.replanLimit row.replanCount)
    else .ok { row with replanCount := row.replanCount + 1, escalated }
  else .ok { row with escalated }

def writeStatus (row : EventRow) (target : EventStatus) (now : Time) : EventRow :=
  { row with
    status := target, rowVersion := row.rowVersion + 1
    closedAt := if target = .closed then some now else row.closedAt }

def liftFlow {α : Type} : Except EventFlowError α → Except StateMachineError α
  | .ok value => .ok value
  | .error error => .error (.flow error)

/-- Lock the event, rebuild the context from the database, validate the edge, write the new status.
-/
def transition (target : EventStatus) (caller : Option TransitionContext) (choices : Choices)
    (now : Time) : Except StateMachineError Db :=
  match db.events.get event with
  | none => .error .eventNotFound
  | some row => do
    let ctx := buildAuthoritativeContext isMock db journal event row caller choices
    liftFlow (validateTransition row.status target ctx)
    let prepared ← applyPreTransition row target ctx
    return { db with events := db.events.set event (writeStatus prepared target now) }

/-- The administrator's way around the gate. -/
def forceClose (isAdmin : Bool) (now : Time) : Except StateMachineError Db := do
  check isAdmin .unauthorized
  match db.events.get event with
  | none => .error .eventNotFound
  | some row => do
    check (row.status != .closed) .alreadyClosed
    check (decide (.closed ∈ stateTransitions row.status)) (.forceCloseEdge row.status)
    let closed := { writeStatus row .closed now with externalUnsynced := true }
    return { db with events := db.events.set event closed }

/-- `_transition_event_failed_in_session`, as a soft time limit ends an event that is neither closed
nor failed. -/
def softTimeLimit (choices : Choices) : Except StateMachineError Db :=
  match db.events.get event with
  | none => .ok db
  | some row =>
    if row.status = .failed ∨ row.status = .closed then .ok db
    else do
      let ctx := buildAuthoritativeContext isMock db journal event row none choices
      liftFlow (validateTransition row.status .failed ctx)
      let failed := { row with status := .failed, rowVersion := row.rowVersion + 1 }
      return { db with events := db.events.set event failed }

/-! ### What a required close establishes -/

/-- An active status update of an action of the event. -/
def TerminalUpdate (key : OutboxId) (outbox : OutboxRow) : Prop :=
  db.outboxes.get key = some outbox ∧ Sync.isActiveHead outbox = true
    ∧ ∃ row, db.actions.get outbox.actionId = some row ∧ row.eventId = event
      ∧ row.planRevision = revision

/-- A status update that the source object is known to carry: it is confirmed, it wrote the
disposition that was approved first, and outside of mock mode a real receipt with strong evidence
says so. -/
structure Confirmed (key : OutboxId) (outbox : OutboxRow) : Prop where
  status : outbox.latestWritebackStatus = some .confirmed
  approved : ∃ row disposition, db.actions.get outbox.actionId = some row
    ∧ row.approvedTerminalDispositions.head? = some disposition
    ∧ outbox.targetDisposition = some disposition ∧ disposition ∈ terminalSourceDispositions
  evidenced : isMock = false → ∃ receipt evidence, Sync.latestReceipt db key = some receipt
    ∧ receipt.simulated = false ∧ receipt.confirmationEvidence = some evidence
    ∧ evidence ∈ strongConfirmationEvidence

/-- A writeback that was ready and is over: every command in force is confirmed, and so is the
action. -/
structure WrittenBack (id : ActionId) (row : ActionRow) : Prop where
  ready : row.writebackReadiness = .ready
  commanded : loadActiveOutboxes db id ≠ []
  confirmed : ∀ entry ∈ loadActiveOutboxes db id, entry.2.latestWritebackStatus = some .confirmed
  status : row.writebackStatus = some .confirmed

/-- **What is true of an event that the gate has closed.** -/
structure SoundlyClosed : Prop where
  report : ∃ id, db.reports.get id = some event
  current : currentRevision db event = some revision
  converged : ∀ id row, db.actions.get id = some row → row.eventId = event →
    row.planRevision = revision → sideEffecting row.category = true →
    row.supersededByRevision = none → row.status ≠ .rejected →
    Converged db (loadVerificationResult journal) id row
  written : ∀ id row, db.actions.get id = some row → row.eventId = event →
    row.planRevision = revision → sideEffecting row.category = true →
    row.supersededByRevision = none → row.status ≠ .rejected → row.writebackRequired = true →
    row.writebackApplicable = true → WrittenBack db id row
  terminal : ∃ key outbox, TerminalUpdate db event revision key outbox
    ∧ Confirmed isMock db key outbox
    ∧ ∀ other row, TerminalUpdate db event revision other row → other = key

end

theorem SoundlyClosed.of_events {isMock : Bool} {db : Db} {journal : EventJournal}
    {event : EventId} {revision : Nat} (closed : SoundlyClosed isMock db journal event revision)
    (events : Table EventId EventRow) :
    SoundlyClosed isMock { db with events } journal event revision where
  report := closed.report
  current := closed.current
  converged id row found ofEvent ofRevision category standing wanted := by
    have side := closed.converged id row found ofEvent ofRevision category standing wanted
    exact ⟨side.finished, side.idle, side.met, side.unstarted⟩
  written id row found ofEvent ofRevision category standing wanted required applicable := by
    have back := closed.written id row found ofEvent ofRevision category standing wanted required
      applicable
    exact ⟨back.ready, back.commanded, back.confirmed, back.status⟩
  terminal := by
    obtain ⟨key, outbox, update, confirmed, alone⟩ := closed.terminal
    exact ⟨key, outbox, update, ⟨confirmed.status, confirmed.approved, confirmed.evidenced⟩, alone⟩

theorem limitOne_mem {α : Type} {choice : Nat} {rows : List α} {row : α}
    (chosen : limitOne choice rows = some row) : row ∈ rows :=
  List.mem_of_getElem? chosen

section Close

variable {isMock : Bool} {db : Db} {journal : EventJournal} {event : EventId}
  {caller : Option TransitionContext} {choices : Choices}

theorem buildTerminalWritebackView_eq_some {revision : Option Nat}
    {view : TerminalEventWritebackView}
    (built : buildTerminalWritebackView db event revision choices = some view) :
    ∃ current id row key outbox, revision = some current ∧ db.actions.get id = some row
      ∧ outbox.actionId = id ∧ TerminalUpdate db event current key outbox
      ∧ view = terminalView db current id row key outbox := by
  simp only [buildTerminalWritebackView, Option.bind_eq_bind, Option.bind_eq_some_iff,
    Option.pure_def, Option.some.injEq, Prod.exists] at built
  obtain ⟨current, same, id, row, deferred, key, outbox, update, rfl⟩ := built
  have mem := limitOne_mem deferred
  have queued := limitOne_mem update
  simp only [deferredActions, List.mem_filter, Table.mem_rows, Bool.and_eq_true,
    beq_iff_eq] at mem
  simp only [statusUpdates, List.mem_filter, Table.mem_rows, Bool.and_eq_true, beq_iff_eq] at queued
  obtain ⟨found, ⟨ofEvent, ofRevision⟩, -⟩ := mem
  obtain ⟨stored, ofAction, active⟩ := queued
  refine ⟨current, id, row, key, outbox, same, found, ofAction, ?_, rfl⟩
  exact ⟨stored, active, row, ofAction ▸ found, ofEvent, ofRevision⟩

theorem some_of_terminal {value : Option SourceDisposition}
    (terminal : value.getD .pending ∈ terminalSourceDispositions) :
    value = some (value.getD .pending) := by
  cases value with
  | none => exact absurd terminal (by decide)
  | some => rfl

theorem confirmed_of_view {ctx : TransitionContext} {revision : Nat} {row : ActionRow}
    {key : OutboxId} {outbox : OutboxRow} (found : db.actions.get outbox.actionId = some row)
    (holds : TerminalHolds ctx (terminalView db revision outbox.actionId row key outbox)) :
    Confirmed ctx.dispositionIsMock db key outbox := by
  have disposition := holds.disposition
  have actual := holds.actual
  have confirmed := holds.confirmed
  have real := holds.real
  have strong := holds.strong
  simp only [terminalView] at disposition actual confirmed real strong
  refine ⟨?_, ⟨row, _, found, some_of_terminal disposition, ?_, disposition⟩, fun live => ?_⟩
  · exact (Option.getD_eq_iff.mp confirmed).resolve_right (fun none => by cases none.2)
  · rw [← actual]
    exact some_of_terminal (actual ▸ disposition)
  · obtain ⟨receipt, latest, simulated⟩ := Option.map_eq_some_iff.mp (real live)
    obtain ⟨evidence, given, mem⟩ := strong live
    rw [latest] at given
    exact ⟨receipt, evidence, latest, simulated, given, mem⟩

theorem writtenBack_of_gate {ctx : TransitionContext} {revision : Nat} {id : ActionId}
    {row : ActionRow} (gate : RequiredGate ctx)
    (shown : ctx.applicableRequiredActions = buildClosedGateActions db event (some revision))
    (found : db.actions.get id = some row) (ofEvent : row.eventId = event)
    (ofRevision : row.planRevision = revision) (category : sideEffecting row.category = true)
    (standing : row.supersededByRevision = none) (wanted : row.status ≠ .rejected)
    (required : row.writebackRequired = true) (applicable : row.writebackApplicable = true) :
    WrittenBack db id row := by
  have listed : closedGateView db id row ∈ buildClosedGateActions db event (some revision) := by
    refine List.mem_map.mpr ⟨(id, row), ?_, rfl⟩
    simp [sideEffectActions, Table.mem_rows, found, ofEvent, ofRevision, category, standing]
  have counts : closedGateView db id row
      ∈ filterApplicableRequired ctx.applicableRequiredActions := by
    rw [shown]
    refine List.mem_filter.mpr ⟨listed, ?_⟩
    simpa [closedGateView, required, applicable, standing, wanted, sideEffecting] using category
  obtain ⟨ready, -, confirmed, status⟩ := gate.written _ counts
  obtain ⟨commanded, confirmed⟩ := (Bool.and_eq_true _ _).mp confirmed
  exact ⟨ready, by simpa using commanded, by simpa using confirmed, status⟩

/-- **What the gate has seen.** The context is rebuilt from the tables, so an accepted context tells
what the tables hold, whatever the caller passed. -/
theorem soundlyClosed_of_gate {row : EventRow} (closable : Lifecycle.Closable db)
    (sound : ∀ jobId job, db.jobs.get jobId = some job → Lifecycle.SoundJob db job)
    (required : row.dispositionPolicy = .required)
    (gate : RequiredGate (buildAuthoritativeContext isMock db journal event row caller choices)) :
    ∃ revision, SoundlyClosed isMock db journal event revision := by
  obtain ⟨_, built, holds⟩ := gate.terminal
  obtain ⟨revision, _, _, key, outbox, current, found, rfl, update, rfl⟩ :=
    buildTerminalWritebackView_eq_some built
  refine ⟨revision, ?_, current, ?_, ?_, key, outbox, update, confirmed_of_view found holds, ?_⟩
  · obtain ⟨⟨report, ofEvent⟩, mem, same⟩ := List.any_eq_true.mp gate.report
    obtain rfl := beq_iff_eq.mp same
    exact ⟨report, Table.mem_rows.mp mem⟩
  · intro _ _ found ofEvent ofRevision category standing wanted
    obtain ⟨_, shown, clear⟩ := gate.converged
    cases shown
    rw [current, required] at clear
    exact summary_converged closable sound clear found ofEvent category ofRevision standing wanted
  · exact fun _ _ => writtenBack_of_gate gate (congrArg (buildClosedGateActions db event) current)
  · rintro _ _ ⟨there, active, _, owned, ofEvent, ofRevision⟩
    obtain ⟨queued, head, owner', owned', ofEvent', ofRevision'⟩ := update
    exact closable.terminal_unique there queued active head owned owned'
      (ofEvent.trans ofEvent'.symm) (ofRevision.trans ofRevision'.symm)

end Close

/-! ### What the operations write -/

/-- The moves of the service: a validated edge, or a forced closure. -/
inductive EventMove (isMock : Bool) (db : Db) (journal : EventJournal) (event : EventId)
    (row : EventRow) : EventRow → Prop
  | validated (open_ : row.status ≠ .closed)
      (policy : next.dispositionPolicy = row.dispositionPolicy)
      (gate : next.status = .closed → validateClosedGate
        (buildAuthoritativeContext isMock db journal event row caller choices) = .ok ()) :
      EventMove isMock db journal event row next
  | forced (open_ : row.status ≠ .closed) (unsynced : next.externalUnsynced = true) :
      EventMove isMock db journal event row next

/-- The row of the event moves, nothing else. -/
def WritesEvent (isMock : Bool) (db : Db) (journal : EventJournal) (event : EventId) (after : Db) :
    Prop :=
  ∃ row next, db.events.get event = some row ∧ EventMove isMock db journal event row next
    ∧ after = { db with events := db.events.set event next }

section Operations

variable {isMock : Bool} {db after : Db} {journal : EventJournal} {event : EventId}

theorem liftFlow_eq_ok {result : Except EventFlowError Unit} :
    liftFlow result = .ok () ↔ result = .ok () := by
  cases result with
  | error | ok => simp [liftFlow]

theorem applyPreTransition_policy {row prepared : EventRow} {target : EventStatus}
    {ctx : TransitionContext} (done : applyPreTransition row target ctx = .ok prepared) :
    prepared.dispositionPolicy = row.dispositionPolicy := by
  unfold applyPreTransition at done
  split_ifs at done with replans exhausted
  · cases done
    rfl
  · cases done
    rfl

theorem transition_writes {target : EventStatus} {caller : Option TransitionContext}
    {choices : Choices} {now : Time}
    (done : transition isMock db journal event target caller choices now = .ok after) :
    WritesEvent isMock db journal event after := by
  unfold transition at done
  split at done
  · cases done
  rename_i row found
  rw [unit_bind, liftFlow_eq_ok] at done
  obtain ⟨accepted, done⟩ := done
  obtain ⟨prepared, applied, done⟩ := bind_eq_ok.mp done
  cases done
  obtain ⟨open_, -, gate⟩ := validateTransition_eq_ok accepted
  have policy := applyPreTransition_policy applied
  exact ⟨row, writeStatus prepared target now, found, .validated open_ policy gate, rfl⟩

theorem forceClose_writes {isAdmin : Bool} {now : Time}
    (done : forceClose db event isAdmin now = .ok after) :
    WritesEvent isMock db journal event after := by
  unfold forceClose at done
  rw [check_bind] at done
  obtain ⟨-, done⟩ := done
  split at done
  · cases done
  rename_i row found
  rw [check_bind, check_bind] at done
  obtain ⟨open_, -, done⟩ := done
  cases done
  exact ⟨row, _, found, .forced (bne_iff_ne.mp open_) rfl, rfl⟩

theorem softTimeLimit_writes {choices : Choices}
    (done : softTimeLimit isMock db journal event choices = .ok after) :
    after = db ∨ WritesEvent isMock db journal event after := by
  unfold softTimeLimit at done
  split at done
  · exact .inl (eq_of_ok done)
  rename_i row found
  split at done
  · exact .inl (eq_of_ok done)
  rename_i running
  rw [unit_bind, liftFlow_eq_ok] at done
  obtain ⟨-, done⟩ := done
  cases done
  have open_ : row.status ≠ .closed := fun closed => running (.inr closed)
  have gate : EventStatus.failed = .closed → validateClosedGate
      (buildAuthoritativeContext isMock db journal event row none choices) = .ok () := by
    intro impossible
    cases impossible
  exact .inr ⟨row, { row with status := .failed, rowVersion := row.rowVersion + 1 }, found,
    .validated open_ rfl gate, rfl⟩

end Operations

end ShadowTrace.Closure
