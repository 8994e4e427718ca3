/-
**The promotion ledger** (`app/services/detection_promotion_service.py`).

A promotion is a saga: the candidate is ingested as a source alert, its event is linked, the package
goes into production. After each stage the row of the promotion key is updated in a transaction that
locks it and compares its status with the status the caller has seen. Any number of calls with one
key run side by side here, every command is a step, and ingestion, connectors and packages answer as
they like.
-/

import ShadowTrace.Lib.Coroutines

namespace ShadowTrace.Promotion

open Coroutine

inductive DetectionPromotionStatus
  | pending | sourcePersisted | eventLinked | completed | retry | dead | manual
  deriving DecidableEq

inductive ReasonCode
  | ingestFailed | contextProjectionFailed
  deriving DecidableEq

structure TypedIngestResult where
  accepted : Bool
  eventId : Option String
  sourceRecordId : Option String
  errorMessage : Option String

/-- The columns of `DetectionPromotionORM` that change; `retryCount` and `projectionError` are keys
of its payload. -/
structure Record where
  status : DetectionPromotionStatus := .pending
  derivedConnectorId : Option String := none
  sourceRecordId : Option String := none
  eventId : Option String := none
  linkRevision : Nat := 0
  ingestResult : Option TypedIngestResult := none
  reasonCodes : List ReasonCode := []
  reasonMessage : Option String := none
  retryCount : Nat := 0
  projectionError : Bool := false

/-- The keyword arguments of `_update_ledger`. The source record may be passed as `None`. -/
structure Updates where
  status : Option DetectionPromotionStatus := none
  derivedConnectorId : Option String := none
  sourceRecordId : Option (Option String) := none
  eventId : Option String := none
  linkRevision : Option Nat := none
  ingestResult : Option TypedIngestResult := none
  reasonCodes : Option (List ReasonCode) := none
  reasonMessage : Option String := none

variable (record : Record)

def updateLedger (updates : Updates) (row : Record) : Record :=
  if updates.status.isSome ∧ row.status ≠ record.status then row
  else if row.status = .completed then row
  else
    { row with
      status := updates.status.getD row.status
      derivedConnectorId := updates.derivedConnectorId <|> row.derivedConnectorId
      sourceRecordId := updates.sourceRecordId.getD row.sourceRecordId
      eventId := updates.eventId <|> row.eventId
      linkRevision := updates.linkRevision.getD row.linkRevision
      ingestResult := updates.ingestResult <|> row.ingestResult
      reasonCodes := updates.reasonCodes.getD row.reasonCodes
      reasonMessage := updates.reasonMessage <|> row.reasonMessage }

def DetectionPromotionStatus.ingests (status : DetectionPromotionStatus) : Bool :=
  status == .pending || status == .retry

def noteProjection (failed : Bool) (row : Record) : Record :=
  if failed then
    { row with
      projectionError := true
      reasonCodes := if .contextProjectionFailed ∈ row.reasonCodes then row.reasonCodes
        else row.reasonCodes ++ [.contextProjectionFailed] }
  else
    { row with
      projectionError := false
      reasonCodes := row.reasonCodes.filter (· ≠ .contextProjectionFailed) }

/-! ### Calls -/

inductive Command
  | get
  | insert
  | update (record : Record) (updates : Updates)
  | increment
  | noteProjection (failed : Bool)
  | ingest
  /-- Gates, connectors and packages: whatever else may raise or answer with a text. -/
  | others

abbrev Command.Value : Command → Type
  | .get => Option Record
  | .insert => Bool
  | .update _ _ => Record
  | .increment => Option Nat
  | .noteProjection _ => Unit
  | .ingest => Except String TypedIngestResult
  | .others => String

/-- What the outside decides about a command: a transaction may be refused, or its answer lost. -/
structure Input where
  refused : Bool
  lost : Bool
  ingest : Except String TypedIngestResult
  answer : Option String

/-- The transaction of a command: the row it leaves, and what it returns or that it raised. -/
def execute (input : Input) (ledger : Option Record) :
    (cmd : Command) → Option Record × Option cmd.Value
  | .get => (ledger, some ledger)
  | .insert =>
    match ledger with
    | none => (some {}, some true)
    | some row => (some row, some false)
  | .update record updates =>
    (ledger.map (updateLedger record updates), ledger.map (updateLedger record updates))
  | .increment =>
    match ledger with
    | none => (none, none)
    | some row =>
      if row.status.ingests then
        (some { row with retryCount := row.retryCount + 1 }, some (some (row.retryCount + 1)))
      else (some row, some none)
  | .noteProjection failed => (ledger.map (noteProjection failed), some ())
  | .ingest => (ledger, some input.ingest)
  | .others => (ledger, input.answer)

def exec (_ : Nat) (input : Input) (ledger : Option Record) (cmd : Command) :
    Option Record × Option cmd.Value :=
  if input.refused then (ledger, none)
  else if input.lost then ((execute input ledger cmd).1, none)
  else execute input ledger cmd

abbrev Call := Program Command (fun cmd => Option cmd.Value) (Option Record)

def send (cmd : Command) (next : cmd.Value → Call) : Call :=
  .call cmd fun reply => reply.elim (.done none) next

def finalizePromotion : Call :=
  if record.status = .dead then .done none
  else if record.status = .completed ∧ record.eventId.isSome then
    .call .others fun projected =>
      if projected.isNone || record.projectionError then
        send (.noteProjection projected.isNone) fun _ => .done (some record)
      else .done (some record)
  else .done (some record)

def maxPromotionIngestRetries : Nat := 5

def ingestFailureResult (message : String) : Call :=
  send .increment fun count =>
    match count with
    | none => send .get fun current => current.elim (.done none) finalizePromotion
    | some count =>
      send (.update record
        { status := some (if count ≥ maxPromotionIngestRetries then .dead else .retry)
          reasonCodes := some [.ingestFailed]
          reasonMessage := some message }) finalizePromotion

def complete : Call :=
  if record.status = .eventLinked then
    send .others fun _ => send (.update record { status := some .completed }) finalizePromotion
  else finalizePromotion record

def linkEvent : Call :=
  if record.status = .sourcePersisted then
    match record.ingestResult.bind (·.eventId) with
    | none => .done none
    | some eventId =>
      send (.update record
        { status := some .eventLinked
          eventId := some eventId
          linkRevision := some (record.linkRevision
            + if record.eventId.any (· ≠ eventId) then 1 else 0) }) complete
  else complete record

def ingestAlert : Call :=
  send .ingest fun result =>
    match result with
    | .error message => ingestFailureResult record message
    | .ok typed =>
      if !typed.accepted || typed.eventId.isNone then
        ingestFailureResult record
          ((typed.errorMessage.filter (· ≠ "")).getD "ingest did not produce event_id")
      else
        send (.update record
          { status := some .sourcePersisted
            sourceRecordId := some typed.sourceRecordId
            ingestResult := some typed }) linkEvent

def advance : Call :=
  send .others fun connector =>
    send (.update record { derivedConnectorId := some connector }) fun record =>
      if record.status.ingests then ingestAlert record else linkEvent record

def insertLedger : Nat → Call
  | 0 => .done none
  | attempts + 1 =>
    send .insert fun inserted =>
      if inserted then advance {}
      else send .get fun existing => existing.elim (insertLedger attempts) advance

/-- `promote_candidate`; a stored promotion that is not completed is resumed. -/
def promoteCandidate : Call :=
  send .others fun _ => send .get fun existing =>
    match existing with
    | some record =>
      if record.status = .completed then finalizePromotion record
      else send .others fun _ => advance record
    | none => send .others fun _ => insertLedger 5

def system : System (Option Record) Command (fun cmd => Option cmd.Value) (Option Record)
    Unit Input Empty where
  exec := exec
  body _ := promoteCandidate
  outside change := change.elim

/-! ### Forward -/

def DetectionPromotionStatus.rank : DetectionPromotionStatus → Nat
  | .pending | .retry | .dead | .manual => 0
  | .sourcePersisted => 1
  | .eventLinked => 2
  | .completed => 3

/-- **Forward.** The row stays, its stage does not go down, COMPLETED and DEAD are not left, and the
event id stays once it is set. -/
def Forward : Option Record → Option Record → Prop
  | none, _ => True
  | some _, none => False
  | some row, some next =>
    row.status.rank ≤ next.status.rank
      ∧ (row.status = .completed ∨ row.status = .dead → next.status = row.status)
      ∧ ∀ eventId, row.eventId = some eventId → next.eventId = some eventId

/-- A row with an event is linked or further on. -/
def Sound (ledger : Option Record) : Prop :=
  ∀ row ∈ ledger, row.eventId.isSome → 2 ≤ row.status.rank

theorem Forward.refl (ledger : Option Record) : Forward ledger ledger := by
  cases ledger with
  | none => trivial
  | some => exact ⟨Nat.le_refl _, fun _ => rfl, fun _ same => same⟩

theorem Forward.trans {first second third : Option Record} (one : Forward first second)
    (two : Forward second third) : Forward first third := by
  rcases first with _ | _
  · trivial
  rcases second with _ | _
  · exact one.elim
  rcases third with _ | _
  · exact two.elim
  obtain ⟨rank, ended, event⟩ := one
  obtain ⟨rank', ended', event'⟩ := two
  refine ⟨Nat.le_trans rank rank', fun past => ?_, fun id same => event' id (event id same)⟩
  have same := ended past
  exact (ended' (same ▸ past)).trans same

/-- **The moves of one call**, from the status it has seen to the one it asks for. The event id
comes with the link. -/
def Edge (seen : DetectionPromotionStatus) (updates : Updates) : Prop :=
  match updates.status with
  | none => updates.eventId = none
  | some target =>
    seen.ingests ∧ (target = .sourcePersisted ∨ target = .retry ∨ target = .dead)
        ∧ updates.eventId = none
      ∨ seen = .sourcePersisted ∧ target = .eventLinked
      ∨ seen = .eventLinked ∧ target = .completed ∧ updates.eventId = none

def Command.Legal : Command → Prop
  | .update record updates => Edge record.status updates
  | _ => True

theorem Sound.unset {row : Record} (sound : Sound (some row)) (early : row.status.rank < 2) :
    row.eventId = none := by
  cases stored : row.eventId with
  | none => rfl
  | some =>
    have := sound row rfl (by rw [stored]; rfl)
    omega

theorem forward_of_same {row next : Record} (sound : Sound (some row))
    (status : next.status = row.status) (event : next.eventId = row.eventId) :
    Sound (some next) ∧ Forward (some row) (some next) := by
  refine ⟨fun other mem => ?_, ?_⟩
  · cases mem
    rw [event, status]
    exact sound row rfl
  · rw [Forward, status, event]
    exact ⟨Nat.le_refl _, fun _ => rfl, fun _ same => same⟩

theorem updateLedger_forward {record row : Record} {updates : Updates}
    (edge : Edge record.status updates) (sound : Sound (some row)) :
    Sound (some (updateLedger record updates row))
      ∧ Forward (some row) (some (updateLedger record updates row)) := by
  unfold updateLedger
  split
  · exact ⟨sound, .refl _⟩
  rename_i fresh
  split
  · exact ⟨sound, .refl _⟩
  unfold Edge at edge
  cases asked : updates.status with
  | none =>
    simp only [asked] at edge
    refine forward_of_same sound rfl ?_
    simp [edge]
  | some =>
    simp only [asked, Option.isSome_some, true_and, not_not] at edge fresh
    rw [← fresh] at edge
    simp only [Sound, Forward, Option.mem_some_iff, forall_eq']
    obtain ⟨ingests, -, event⟩ | ⟨persisted, rfl⟩ | ⟨linked, rfl, event⟩ := edge
    · have low : row.status.rank = 0 ∧ ¬ (row.status = .completed ∨ row.status = .dead) := by
        revert ingests
        cases row.status <;> decide
      rw [event, sound.unset (by omega), low.1]
      exact ⟨by simp, Nat.zero_le _, fun past => absurd past low.2, by simp⟩
    · rw [sound.unset (by rw [persisted]; decide), persisted]
      exact ⟨fun _ => by decide, by decide, by decide, by simp⟩
    · rw [event, linked]
      exact ⟨fun _ => by decide, by decide, by decide, fun _ same => same⟩

variable {cmd : Command}

theorem execute_forward (input : Input) {ledger : Option Record} (legal : cmd.Legal)
    (sound : Sound ledger) :
    Sound (execute input ledger cmd).1 ∧ Forward ledger (execute input ledger cmd).1 := by
  cases ledger with
  | none => cases cmd <;> exact ⟨by simp [execute, Sound], trivial⟩
  | some =>
    cases cmd with
    | update => exact updateLedger_forward legal sound
    | increment =>
      simp only [execute]
      split
      all_goals exact forward_of_same sound rfl rfl
    | noteProjection failed => cases failed <;> exact forward_of_same sound rfl rfl
    | _ => exact forward_of_same sound rfl rfl

def contract : Contract (Option Record) := ⟨Sound, Forward, Forward.refl, Forward.trans⟩

section Calls

def Keeps (program : Call) : Prop :=
  ∀ task ledger, Safe exec contract task (fun _ _ => True) program ledger

theorem keeps_done (value : Option Record) : Keeps (.done value) := fun _ _ => trivial

theorem keeps_call {next : Option cmd.Value → Call} (legal : cmd.Legal)
    (rest : ∀ reply, Keeps (next reply)) : Keeps (.call cmd next) := by
  intro task _ later _ sound input
  have forward := execute_forward input legal sound
  suffices both : Sound (exec task input later cmd).1
      ∧ Forward later (exec task input later cmd).1 from ⟨both.1, both.2, rest _ _ _⟩
  unfold exec
  split
  · exact ⟨sound, .refl _⟩
  split
  · exact forward
  · exact forward

theorem keeps_send {next : cmd.Value → Call} (legal : cmd.Legal)
    (rest : ∀ value, Keeps (next value)) : Keeps (send cmd next) := by
  refine keeps_call legal fun reply => ?_
  cases reply with
  | none => exact keeps_done none
  | some value => exact rest value

theorem keeps_finalizePromotion : Keeps (finalizePromotion record) := by
  unfold finalizePromotion
  split
  · exact keeps_done _
  split
  · refine keeps_call trivial fun projected => ?_
    split
    · exact keeps_send trivial fun _ => keeps_done _
    · exact keeps_done _
  · exact keeps_done _

theorem keeps_complete : Keeps (complete record) := by
  unfold complete
  split
  · rename_i linked
    refine keeps_send trivial fun _ => keeps_send ?_ keeps_finalizePromotion
    exact .inr (.inr ⟨linked, rfl, rfl⟩)
  · exact keeps_finalizePromotion record

theorem keeps_linkEvent : Keeps (linkEvent record) := by
  unfold linkEvent
  split
  · rename_i persisted
    split
    · exact keeps_done _
    · exact keeps_send (.inr (.inl ⟨persisted, rfl⟩)) keeps_complete
  · exact keeps_complete record

theorem keeps_ingestFailureResult {record : Record} (ingests : record.status.ingests = true)
    (message : String) : Keeps (ingestFailureResult record message) := by
  refine keeps_send trivial fun count => ?_
  cases count with
  | none =>
    refine keeps_send trivial fun current => ?_
    cases current with
    | none => exact keeps_done none
    | some current => exact keeps_finalizePromotion current
  | some count =>
    refine keeps_send (.inl ⟨ingests, ?_, rfl⟩) keeps_finalizePromotion
    by_cases spent : count ≥ maxPromotionIngestRetries
    · exact .inr (.inr (if_pos spent))
    · exact .inr (.inl (if_neg spent))

theorem keeps_advance : Keeps (advance record) := by
  refine keeps_send trivial fun connector => keeps_send rfl fun record => ?_
  split
  · rename_i ingests
    refine keeps_send trivial fun result => ?_
    cases result with
    | error message => exact keeps_ingestFailureResult ingests message
    | ok =>
      dsimp only
      split
      · exact keeps_ingestFailureResult ingests _
      · exact keeps_send (.inl ⟨ingests, .inl rfl, rfl⟩) keeps_linkEvent
  · exact keeps_linkEvent record

theorem keeps_insertLedger (attempts : Nat) : Keeps (insertLedger attempts) := by
  induction attempts with
  | zero => exact keeps_done none
  | succ _ ih =>
    refine keeps_send trivial fun inserted => ?_
    split
    · exact keeps_advance {}
    refine keeps_send trivial fun existing => ?_
    cases existing with
    | none => exact ih
    | some record => exact keeps_advance record

theorem keeps_promoteCandidate : Keeps promoteCandidate := by
  refine keeps_send trivial fun _ => keeps_send trivial fun existing => ?_
  cases existing with
  | none => exact keeps_send trivial fun _ => keeps_insertLedger 5
  | some record =>
    dsimp only
    split
    · exact keeps_finalizePromotion record
    · exact keeps_send trivial fun _ => keeps_advance record

end Calls

/-- **The promotion ledger only moves forward**, from any state a schedule of calls with one key
reaches to any later one. -/
theorem promotion_forward (first second : List (Label Unit Input Empty)) :
    Forward (system.run (World.idle none) first).store
      (system.run (World.idle none) (first ++ second)).store := by
  have entry (task : Nat) (job : Unit) (ledger : Option Record) (_ : contract.inv ledger) :
      Safe system.exec contract task (fun _ _ => True) (system.body job) ledger :=
    keeps_promoteCandidate task ledger
  have start : (World.idle none : World (Option Record) Command _ (Option Record)).Meets
      system.exec contract := .idle fun _ mem => by cases mem
  exact System.run_moves entry (fun change => change.elim) start first second

end ShadowTrace.Promotion
