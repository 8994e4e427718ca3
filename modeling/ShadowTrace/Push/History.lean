/-
**Deliveries that overlap** (`receive` and `_mark_delivery` of `app/ingestion/push_receiver.py`,
`_mark_connectors` of `app/ingestion/source_ingester.py`).

The history of a connector is one key of its metadata. A receive that has processed its batch, a
status update and an ingestion that claims the connector each read the row, change a copy of the
metadata and write the whole document back, in transactions that lock nothing at the read. The
advisory lock of a receive is per delivery, and its session gives the connection back at the first
commit: no step here waits for it.
-/

import ShadowTrace.Push.Receiver

namespace ShadowTrace.Push

open Polling (ConnectorStatus)

/-! ### The writers of a row -/

/-- What the other writers do to their copy of the row: `_mark_connectors`, and
`_ensure_connector_for_ref` for an item that is ingested. -/
inductive Change
  | mark (status : ConnectorStatus) (errorCategory : String)
  | own (tenant adapter : String)

def Change.apply : Change → Connector → Connector
  | .mark status errorCategory, row =>
    { row with
      status := status
      metadata := { row.metadata with
        lastIngestionError := if errorCategory ≠ "" then some errorCategory else none } }
  | .own tenant adapter, row =>
    { row with
      metadata := { row.metadata with
        sourceTenantId := some tenant
        ingestionAdapter := some adapter } }

/-- The `UPDATE` of a flush: it sets the columns that differ from the copy that was read. -/
def flush (copy changed stored : Connector) : Connector :=
  { stored with
    status := if changed.status = copy.status then stored.status else changed.status
    metadata := if changed.metadata = copy.metadata then stored.metadata else changed.metadata }

/-- Where a receive stands: its delivery is new, its batch is processed, the row is read for the
mark, or it has answered (`none` if it raised). -/
inductive Phase
  | opened
  | processed (summary : IngestionSummary)
  | marking (summary : IngestionSummary) (copy : Connector)
  | ended (answer : Option IngestionSummary)
  deriving DecidableEq

/-- The row of one connector and those at work on it. `history` is what the row should remember:
the deliveries in the order in which their marks were committed. -/
structure World where
  row : Option Connector
  receives : Nat → Option (PushBatchEnvelope × Phase)
  updates : Nat → Option (Connector × Change)
  history : List String

def World.start (row : Option Connector) : World :=
  ⟨row, fun _ => none, fun _ => none, deliveries row⟩

def World.enter (w : World) (id : Nat) (batch : PushBatchEnvelope) (phase : Phase) : World :=
  { w with receives := Function.update w.receives id (some (batch, phase)) }

/-- What a receive does next. -/
inductive Action
  | process (outside : Outside) | read | commit | fail

inductive Label
  | arrive (id : Nat) (batch : PushBatchEnvelope)
  | proceed (id : Nat) (action : Action)
  | readUpdate (id : Nat) (change : Change)
  | commitUpdate (id : Nat)

def arrive (w : World) (id : Nat) (batch : PushBatchEnvelope) : World :=
  let ensured := { w with row := some (ensureConnector batch w.row) }
  if deliverySeen ensured.row batch.deliveryId then
    ensured.enter id batch (.ended (some { duplicate := batch.objects.length }))
  else ensured.enter id batch .opened

section Machine

variable (supported : List String)

section

variable (w : World)

def proceed (id : Nat) (batch : PushBatchEnvelope) : Phase → Action → World
  | .opened, .process outside =>
    match (processBatch supported outside batch).summary with
    | none => w.enter id batch (.ended none)
    | some summary => w.enter id batch (.processed summary)
  | .processed summary, .read =>
    match w.row with
    | none => w.enter id batch (.ended none)
    | some copy => w.enter id batch (.marking summary copy)
  | .marking summary copy, .commit =>
    match w.row with
    | none => w.enter id batch (.ended none)
    | some stored =>
      { w.enter id batch (.ended (some summary)) with
        row := flush copy (markDelivery copy batch.deliveryId summary.degraded) stored
        history := remember w.history batch.deliveryId }
  | .ended _, .fail => w
  | _, .fail => w.enter id batch (.ended none)
  | _, _ => w

def step : Label → World
  | .arrive id batch => if (w.receives id).isNone then arrive w id batch else w
  | .proceed id action =>
    match w.receives id with
    | some (batch, phase) => proceed supported w id batch phase action
    | none => w
  | .readUpdate id change =>
    { w with updates := Function.update w.updates id (w.row.map (·, change)) }
  | .commitUpdate id =>
    match w.updates id with
    | some (copy, change) =>
      { w with
        row := w.row.map (flush copy (change.apply copy))
        updates := Function.update w.updates id none }
    | none => w

/-! ### A history that stays whole -/

def copyOf : Label → Option Connector
  | .proceed id .commit =>
    match w.receives id with
    | some (_, .marking _ copy) => some copy
    | _ => none
  | .commitUpdate id => (w.updates id).map Prod.fst
  | _ => none

/-- **No other delivery was stored since the read**: the step writes over the history it has
read. -/
def Undisturbed (label : Label) : Prop :=
  ∀ copy ∈ copyOf w label, deliveries w.row = deliveries (some copy)

instance (w : World) (label : Label) : Decidable (Undisturbed w label) := by
  unfold Undisturbed
  infer_instance

/-- **The deliveries of the window are remembered**: received again, each is a duplicate. -/
def Remembered : Prop :=
  ∀ id batch, w.receives id = none → batch.deliveryId ∈ w.history →
    (step supported w (.arrive id batch)).receives id =
      some (batch, .ended (some { duplicate := batch.objects.length }))

/-- The row holds the recorded history. -/
def Intact : Prop := deliveries w.row = w.history

end

variable {supported} {w : World}

theorem deliveries_flush {copy changed stored : Connector}
    (same : deliveries (some stored) = deliveries (some copy)) :
    deliveries (some (flush copy changed stored)) = deliveries (some changed) := by
  by_cases unchanged : changed.metadata = copy.metadata
  · simp_all [deliveries, flush]
  · simp [deliveries, flush, unchanged]

theorem Change.deliveries_apply (change : Change) (copy : Connector) :
    deliveries (some (change.apply copy)) = deliveries (some copy) := by
  cases change <;> rfl

theorem arrive_intact (intact : Intact w) (id : Nat) (batch : PushBatchEnvelope) :
    Intact (arrive w id batch) := by
  have ensured : deliveries (some (ensureConnector batch w.row)) = w.history := by
    rw [deliveries_ensureConnector, intact]
  simp only [arrive]
  split_ifs
  · exact ensured
  · exact ensured

theorem proceed_intact (intact : Intact w) {id : Nat} {batch : PushBatchEnvelope}
    {phase : Phase} {action : Action} (running : w.receives id = some (batch, phase))
    (undisturbed : Undisturbed w (.proceed id action)) :
    Intact (proceed supported w id batch phase action) := by
  rw [proceed.eq_def]
  split
  · split <;> exact intact
  · split <;> exact intact
  · next summary copy =>
    split
    · exact intact
    next stored found =>
    have same : deliveries (some stored) = deliveries (some copy) :=
      found ▸ undisturbed copy (by simp [copyOf, running])
    refine (deliveries_flush same).trans ?_
    rw [deliveries_markDelivery, ← same, ← found, intact]
  all_goals exact intact

/-- **The step lemma.** A step that writes over the history it has read keeps the history. -/
theorem step_intact (w : World) (label : Label) (intact : Intact w)
    (undisturbed : Undisturbed w label) : Intact (step supported w label) := by
  cases label with
  | arrive id batch =>
    simp only [step]
    split_ifs
    · exact arrive_intact intact id batch
    · exact intact
  | proceed =>
    simp only [step]
    split
    · next batch phase running => exact proceed_intact intact running undisturbed
    · exact intact
  | readUpdate => exact intact
  | commitUpdate =>
    simp only [step]
    split
    · next copy change pending =>
      have same : deliveries w.row = deliveries (some copy) :=
        undisturbed copy (by simp [copyOf, pending])
      show deliveries (w.row.map _) = w.history
      cases found : w.row with
      | none => rw [← intact, found]; rfl
      | some =>
        rw [found] at same
        rw [Option.map_some, deliveries_flush same, change.deliveries_apply, ← same, ← found,
          intact]
    · exact intact

theorem start_intact (row : Option Connector) : Intact (.start row) := rfl

theorem Intact.remembered (intact : Intact w) : Remembered supported w := by
  intro _ batch idle _
  have seen : batch.deliveryId ∈ deliveries (some (ensureConnector batch w.row)) := by
    rwa [deliveries_ensureConnector, intact]
  simp only [step, idle, arrive, deliverySeen_iff.mpr seen]
  exact Function.update_self ..

/-- **Deliveries are remembered.** From any row, on every schedule on which each writer of the row
writes over the history it has read, a delivery that is still in the window is a duplicate when it
is received again. -/
theorem deliveries_remembered (row : Option Connector) (labels : List Label)
    (undisturbed : Machine.Along (step supported) Undisturbed (.start row) labels) :
    Remembered supported (Machine.run (step supported) (.start row) labels) :=
  (Machine.run_invariant Undisturbed Intact step_intact (start_intact row) undisturbed).remembered

theorem flush_self (copy changed : Connector) (same : changed.sourceProduct = copy.sourceProduct) :
    flush copy changed copy = changed := by
  obtain ⟨product, status, metadata⟩ := changed
  simp only [flush] at same ⊢
  congr
  · exact same.symm
  all_goals exact ite_eq_right_iff.mpr Eq.symm

def serially (id : Nat) (batch : PushBatchEnvelope) (outside : Outside) : List Label :=
  [.arrive id batch, .proceed id (.process outside), .proceed id .read, .proceed id .commit]

/-- **The machine runs `receive`**: with nothing in between, the steps of a receive leave its row
and its answer. -/
theorem run_serially (id : Nat) (batch : PushBatchEnvelope) (outside : Outside)
    (idle : w.receives id = none) (ensured : outside.ensured = true)
    (marked : outside.marked = true) :
    (Machine.run (step supported) w (serially id batch outside)).row =
        (receive supported outside batch w.row).row ∧
      (Machine.run (step supported) w (serially id batch outside)).receives id =
        some (batch, .ended (receive supported outside batch w.row).answer) := by
  by_cases seen : deliverySeen (some (ensureConnector batch w.row)) batch.deliveryId = true
  · simp [serially, step, arrive, proceed, receive, World.enter, idle, ensured, seen]
  cases processed : processBatch supported outside batch with
  | mk _ answer =>
    cases answer with
    | none =>
      simp [serially, step, arrive, proceed, receive, World.enter, idle, ensured, seen, processed]
    | some summary =>
      have written := flush_self (ensureConnector batch w.row)
        (markDelivery _ batch.deliveryId summary.degraded) rfl
      simp [serially, step, arrive, proceed, receive, World.enter, idle, ensured, seen, processed,
        marked, written]

end Machine

theorem run_serially_calm : (Machine.run (step ["1"]) (.start none) (serially 1 oneAlert .calm)).row
      = (receive ["1"] .calm oneAlert none).row :=
  (run_serially 1 oneAlert .calm rfl rfl rfl).1

def secondAlert : PushBatchEnvelope := { oneAlert with deliveryId := "batch-2" }

/-- Two deliveries of one connector, from a row that does not exist yet: both read the row for
their marks before either commits. -/
def overlapping : List Label :=
  [.arrive 1 oneAlert, .arrive 2 secondAlert, .proceed 1 (.process .calm),
    .proceed 2 (.process .calm), .proceed 1 .read, .proceed 2 .read, .proceed 1 .commit,
    .proceed 2 .commit]

theorem overlapping_delivery_forgotten :
    ¬Remembered ["1"] (Machine.run (step ["1"]) (.start none) overlapping) := by
  intro remembered
  have again := congrArg (Option.map Prod.snd) (remembered 3 oneAlert rfl (by decide))
  exact absurd again (by decide)

/-- Two deliveries one after the other, and the first one once more while a status is written. -/
theorem deliveries_remembered_serially :
    Remembered ["1"] (Machine.run (step ["1"]) (.start none)
      (serially 1 oneAlert .calm ++ serially 2 secondAlert .calm
        ++ [.readUpdate 1 (.mark .online ""), .arrive 3 oneAlert, .commitUpdate 1])) :=
  deliveries_remembered none _ (by decide)

end ShadowTrace.Push
