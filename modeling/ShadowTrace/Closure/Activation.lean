/-
**The activation of the deferred disposition** (`app/services/event_disposition_service.py`).

`activate_and_submit` decides whether the terminal disposition of an event may be written back now.
It reads the deferred action of the revision, asks the resolver for the disposition, waits for the
effects (`afterEffectResolutionReady`) and then submits: an event status update that is already in
force is reported again, otherwise `Lifecycle.activateAndSubmit` enqueues one.
-/

import ShadowTrace.Closure.Resolver
import ShadowTrace.Closure.StateMachine

namespace ShadowTrace.Closure

open Relational Execution

/-! ### The answer -/

/-- Why a call ends without an activation. -/
inductive ActivationSkip
  | notRequired | terminalNotInApprovedSet | capabilityBlocked | verdictNotTerminal
  | effectNotReady | alreadySubmitted | notApproved | concurrentHeadConflict
  deriving DecidableEq

structure ActivationResult where
  actionId : Option ActionId := none
  activated : Bool := false
  skippedReason : Option ActivationSkip := none
  derivedDisposition : Option SourceDisposition := none
  dispositionId : Option DispositionId := none
  writebackId : Option OutboxId := none

/-- Why a call raises. -/
inductive ActivationError
  | eventNotFound | actionMissing | dispositionNotAllowed | outboxMissing
  | execution (error : ExecutionError)
  | afterwards

/-- What the caller passes, and what the outside says. -/
structure ActivationCall where
  eventDispositionSupported : Bool
  dispositionOnlyIntent : Bool
  verification : Option VerificationResult
  templateUnchanged : Bool
  dispositionAllowed : Bool
  draft : CommandDraft
  now : Time
  choice : Nat
  /-- A concurrent activation won the active head: the database as it left it. -/
  raced : Option Db
  raisesAfterwards : Bool

/-! ### The effect gate -/

def firstById (rows : List (ActionId × ActionRow)) : Option (ActionId × ActionRow) :=
  rows.foldl (fun best entry =>
    match best with
    | none => some entry
    | some first => if entry.1 < first.1 then some entry else some first) none

section

variable (db : Db) (event : EventId) (revision : Nat) (id : ActionId)

def getDeferredAction : Option (ActionId × ActionRow) :=
  firstById (deferredActions db event revision)

def immediateActions : List (ActionId × ActionRow) :=
  db.actions.rows.filter fun entry =>
    entry.2.eventId == event && entry.2.planRevision == revision
      && entry.2.executionPhase == .immediate && entry.2.supersededByRevision.isNone
      && entry.2.toolName != .updateSourceEventDisposition

def verificationReady (result : VerificationResult) : Bool :=
  result.verificationPhase == .effect && !result.needActionReplan && !result.needManualResolution
    && (result.overallStatus == .success || result.overallStatus == .partialDone)
    && !hasImmediateEffectPending (some result)

def afterEffectResolutionReady (verdict : FinalVerdict) (revision : Nat) (call : ActivationCall) :
    Bool :=
  if call.dispositionOnlyIntent then
    verdict == .falsePositive && (immediateActions db event revision).isEmpty
  else call.verification.any verificationReady

/-! ### The submission -/

/-- The event status updates `_find_active_terminal_outbox` chooses from. -/
def terminalOutboxes (closureCycle : Nat) : List (OutboxId × OutboxRow) :=
  db.outboxes.rows.filter fun entry =>
    entry.2.actionId == id && entry.2.closureCycle == closureCycle && Sync.isActiveHead entry.2
      && entry.2.logicalSlot == Slot.terminal.index

def skipped (reason : ActivationSkip) (target : Option SourceDisposition) : ActivationResult :=
  { actionId := some id, skippedReason := some reason, derivedDisposition := target }

def ActivationResult.naming (result : ActivationResult) (entry : OutboxId × OutboxRow) :
    ActivationResult :=
  { result with dispositionId := some entry.2.dispositionId, writebackId := some entry.1 }

/-- What is reported after the insert was rejected by the index of active heads. -/
def headConflict (closureCycle : Nat) (target : SourceDisposition) : ActivationResult :=
  let answer := skipped id .concurrentHeadConflict (some target)
  match Sync.activeHead db event closureCycle Slot.terminal.index with
  | some winner => answer.naming winner
  | none => answer

def commitActivation (row : ActionRow) (target : SourceDisposition) (call : ActivationCall) :
    Except ActivationError (Db × ActivationResult) :=
  match Lifecycle.activateAndSubmit db id
      ⟨true, call.templateUnchanged, call.dispositionAllowed, target⟩ call.draft call.now with
  | .error (.enqueue .guardrailViolation) => .ok (db, skipped id .capabilityBlocked (some target))
  | .error error => .error (.execution error)
  | .ok after =>
    match call.raced, limitOne call.choice (terminalOutboxes after id row.planRevision) with
    | some raced, _ => .ok (raced, headConflict raced event id row.planRevision target)
    | none, none => .error .outboxMissing
    | none, some entry =>
      if call.raisesAfterwards then .error .afterwards
      else
        .ok (after, ActivationResult.naming
          { actionId := some id, activated := true, derivedDisposition := some target } entry)

def submit (target : SourceDisposition) (call : ActivationCall) :
    Except ActivationError (Db × ActivationResult) :=
  match db.actions.get id with
  | none => .error .actionMissing
  | some row =>
    match limitOne call.choice (terminalOutboxes db id row.planRevision) with
    | some entry => .ok (db, (skipped id .alreadySubmitted (some target)).naming entry)
    | none =>
      if row.status ≠ .approved then .ok (db, skipped id .notApproved (some target))
      else if !row.writebackApplicable then .ok (db, skipped id .notRequired (some target))
      else if row.writebackReadiness ≠ .ready then
        .ok (db, skipped id
          (if capabilityBlocked row.writebackReadiness then .capabilityBlocked
            else .effectNotReady) (some target))
      else if !call.dispositionAllowed then .error .dispositionNotAllowed
      else commitActivation db event id row target call

def ActivationSkip.ofResolver : SkippedReason → ActivationSkip
  | .terminalNotInApprovedSet => .terminalNotInApprovedSet
  | .capabilityBlocked => .capabilityBlocked
  | .verdictNotTerminal => .verdictNotTerminal

def activateAndSubmit (call : ActivationCall) : Except ActivationError (Db × ActivationResult) :=
  match db.events.get event, getDeferredAction db event revision with
  | none, _ => .error .eventNotFound
  | some _, none => .ok (db, { skippedReason := some .notRequired })
  | some row, some (id, deferred) =>
    if row.dispositionPolicy = .notRequired then .ok (db, skipped id .notRequired none)
    else
      let resolved := resolve
        { finalVerdict := row.finalVerdict
          verification := call.verification
          dispositionOnly := call.dispositionOnlyIntent
          dispositionPolicy := row.dispositionPolicy
          writebackReadiness := deferred.writebackReadiness
          eventDispositionSupported := call.eventDispositionSupported }
        deferred.approvedTerminalDispositions
      match resolved.skippedReason, resolved.needManualResolution, resolved.disposition with
      | some reason, _, _ => .ok (db, skipped id (.ofResolver reason) none)
      | none, false, some target =>
        if afterEffectResolutionReady db event row.finalVerdict revision call then
          submit db event id target call
        else .ok (db, skipped id .effectNotReady (some target))
      | none, _, _ => .ok (db, skipped id .effectNotReady none)

/-! ### Answers that name a writeback -/

/-- The outbox is the active terminal command of the event or the action. -/
structure TerminalInForce (key : OutboxId) : Prop where
  stored : ∃ outbox, db.outboxes.get key = some outbox ∧ Sync.isActiveHead outbox = true
    ∧ outbox.logicalSlot = Slot.terminal.index ∧ (outbox.actionId = id ∨ outbox.eventId = event)

end

section Named

variable {db after : Db} {event : EventId} {id : ActionId} {target : SourceDisposition}
  {call : ActivationCall} {answer : ActivationResult} {key : OutboxId} {revision : Nat}

theorem firstById_mem {rows : List (ActionId × ActionRow)} {entry : ActionId × ActionRow}
    (first : firstById rows = some entry) : entry ∈ rows := by
  -- the best entry so far is one of the rows
  refine List.foldlRecOn rows _ (motive := fun best => ∀ entry, best = some entry → entry ∈ rows)
    (fun _ absent => by cases absent) (fun best ih other mem entry same => ?_) entry first
  cases best with
  | none =>
    cases same
    exact mem
  | some =>
    dsimp only at same
    split_ifs at same with smaller
    · cases same
      exact mem
    · exact ih entry same

theorem terminalOutboxes_inForce {closureCycle : Nat} {entry : OutboxId × OutboxRow}
    (mem : entry ∈ terminalOutboxes db id closureCycle) :
    TerminalInForce db event id entry.1 := by
  simp only [terminalOutboxes, List.mem_filter, Bool.and_eq_true, beq_iff_eq] at mem
  obtain ⟨stored, ⟨⟨ofAction, -⟩, active⟩, slot⟩ := mem
  exact ⟨entry.2, Table.mem_rows.mp stored, active, slot, .inl ofAction⟩

theorem headConflict_inForce {closureCycle : Nat}
    (named : (headConflict db event id closureCycle target).writebackId = some key) :
    TerminalInForce db event id key := by
  unfold headConflict at named
  split at named
  · rename_i winner found
    cases named
    have stored := List.mem_of_find?_eq_some found
    have holds := List.find?_some found
    simp only [Bool.and_eq_true, beq_iff_eq] at holds
    obtain ⟨⟨⟨active, ofEvent⟩, -⟩, slot⟩ := holds
    exact ⟨winner.2, Table.mem_rows.mp stored, active, slot, .inr ofEvent⟩
  · cases named

theorem commitActivation_inForce {row : ActionRow}
    (done : commitActivation db event id row target call = .ok (after, answer))
    (named : answer.writebackId = some key) : TerminalInForce after event id key := by
  unfold commitActivation at done
  split at done
  · cases done
    cases named
  · cases done
  split at done
  · cases done
    exact headConflict_inForce named
  · cases done
  rename_i chosen
  split_ifs at done
  cases done
  cases named
  exact terminalOutboxes_inForce (limitOne_mem chosen)

theorem submit_inForce (done : submit db event id target call = .ok (after, answer))
    (named : answer.writebackId = some key) : TerminalInForce after event id key := by
  unfold submit at done
  split at done
  · cases done
  split at done
  · rename_i chosen
    cases done
    cases named
    exact terminalOutboxes_inForce (limitOne_mem chosen)
  -- every refusal leaves the writeback open
  split_ifs at done
  iterate 4
    cases done
    cases named
  exact commitActivation_inForce done named

def resolveFor (row : EventRow) (deferred : ActionRow) (call : ActivationCall) : ResolveResult :=
  resolve
    { finalVerdict := row.finalVerdict
      verification := call.verification
      dispositionOnly := call.dispositionOnlyIntent
      dispositionPolicy := row.dispositionPolicy
      writebackReadiness := deferred.writebackReadiness
      eventDispositionSupported := call.eventDispositionSupported }
    deferred.approvedTerminalDispositions

/-- The gates a call has passed when it enqueues. -/
structure Opened (db : Db) (event : EventId) (revision : Nat) (call : ActivationCall)
    (id : ActionId) (target : SourceDisposition) : Prop where
  deferred : ∃ row deferred, db.events.get event = some row
    ∧ (id, deferred) ∈ deferredActions db event revision
    ∧ resolveFor row deferred call = { disposition := some target }
    ∧ afterEffectResolutionReady db event row.finalVerdict revision call = true

theorem activateAndSubmit_opened {row : EventRow} {deferred : ActionRow}
    (found : db.events.get event = some row)
    (first : getDeferredAction db event revision = some (id, deferred))
    (required : row.dispositionPolicy ≠ .notRequired)
    (resolved : resolveFor row deferred call = { disposition := some target })
    (ready : afterEffectResolutionReady db event row.finalVerdict revision call = true) :
    activateAndSubmit db event revision call = submit db event id target call := by
  unfold resolveFor at resolved
  unfold activateAndSubmit
  rw [found, first]
  dsimp only
  rw [if_neg required, resolved]
  dsimp only
  rw [if_pos ready]

/-- **A call submits behind both gates**, or it leaves the writeback open. -/
theorem activateAndSubmit_cases (db : Db) (event : EventId) (revision : Nat)
    (call : ActivationCall) :
    (∃ id target, Opened db event revision call id target
        ∧ activateAndSubmit db event revision call = submit db event id target call)
      ∨ activateAndSubmit db event revision call = .error .eventNotFound
      ∨ ∃ answer, activateAndSubmit db event revision call = .ok (db, answer)
        ∧ answer.activated = false ∧ answer.writebackId = none := by
  unfold activateAndSubmit
  split
  · exact .inr (.inl rfl)
  · exact .inr (.inr ⟨_, rfl, rfl, rfl⟩)
  rename_i row id deferred found first
  split
  · exact .inr (.inr ⟨_, rfl, rfl, rfl⟩)
  dsimp only
  split
  · exact .inr (.inr ⟨_, rfl, rfl, rfl⟩)
  · rename_i target reason manual disposition
    split
    · rename_i ready
      refine .inl ⟨id, target, ⟨row, deferred, found, firstById_mem first, ?_, ready⟩, rfl⟩
      rw [ResolveResult.mk.injEq]
      exact ⟨disposition, reason, manual⟩
    · exact .inr (.inr ⟨_, rfl, rfl, rfl⟩)
  · exact .inr (.inr ⟨_, rfl, rfl, rfl⟩)

/-- **An answer that names a writeback**: the effects were resolved, and the writeback is the
terminal one. -/
theorem activateAndSubmit_named
    (done : activateAndSubmit db event revision call = .ok (after, answer))
    (named : answer.writebackId = some key) :
    (∃ row, db.events.get event = some row
        ∧ afterEffectResolutionReady db event row.finalVerdict revision call = true)
      ∧ ∃ id deferred, (id, deferred) ∈ deferredActions db event revision
        ∧ TerminalInForce after event id key := by
  rcases activateAndSubmit_cases db event revision call with
    ⟨id, target, ⟨row, deferred, found, listed, -, ready⟩, same⟩ | raised | ⟨other, same, -, open_⟩
  · exact ⟨⟨row, found, ready⟩, id, deferred, listed, submit_inForce (same ▸ done) named⟩
  · rw [raised] at done
    cases done
  rw [same] at done
  cases done
  rw [open_] at named
  cases named

/-! ### Calls that enqueue -/

/-- The call has committed a new event status update: it says so, or the delivery after the commit
raised. -/
def enqueued : Except ActivationError (Db × ActivationResult) → Bool
  | .ok (_, answer) => answer.activated
  | .error .afterwards => true
  | .error _ => false

theorem enqueued_opened (done : enqueued (activateAndSubmit db event revision call) = true) :
    ∃ id target, Opened db event revision call id target := by
  rcases activateAndSubmit_cases db event revision call with
    ⟨id, target, opened, -⟩ | raised | ⟨other, same, inactive, -⟩
  · exact ⟨id, target, opened⟩
  · rw [raised] at done
    cases done
  · rw [same] at done
    rw [enqueued, inactive] at done
    cases done

end Named

end ShadowTrace.Closure
