/-
**The push receiver** (`app/ingestion/push_receiver.py`, with `ingest_items` of
`app/ingestion/source_ingester.py`).

A delivery is a batch of raw objects under a delivery id. The objects that parse are ingested one by
one, and whatever happened to them the id is then stored in the metadata of the connector. A
delivery whose id is stored is answered as a duplicate.

The loop catches every exception of an ingestion, so a database error counts as a rejected object,
and the delivery is stored as processed. The poll loop shares `ingest_items` and keeps its watermark
after a rejection, so that the page is read again.
-/

import Mathlib.Data.List.Sort
import ShadowTrace.Ingest.Service
import ShadowTrace.Polling.Checkpoints

namespace ShadowTrace.Push

open Ingest (SourceObjectKind)
open Polling (ConnectorStatus)

/-! ### The connector and the delivery -/

def maxDeliveryHistory : Nat := 500

structure Metadata where
  ingestionAdapter : Option String
  sourceTenantId : Option String
  processedDeliveryIds : List String
  lastIngestionError : Option String
  deriving DecidableEq

structure Connector where
  sourceProduct : String
  status : ConnectorStatus
  metadata : Metadata
  deriving DecidableEq

structure SourceItem where
  kind : SourceObjectKind
  connectorId : String

structure RawReference where
  sourceKind : Option String
  connectorId : Option String
  sourceProduct : Option String
  schemaVersion : Option String

/-- A payload that is an object; `parsed` is what `parse_source_item` makes of it. -/
structure Payload where
  reference : Option RawReference
  parsed : SourceObjectKind → Option SourceItem

/-- An object of a batch. Without a `payload` key it is its own payload; `none` is a payload that
is not an object. -/
structure RawObject where
  sourceKind : Option String
  payload : Option Payload

/-- A delivery: raw objects under a delivery id. -/
structure PushBatchEnvelope where
  connectorId : String
  deliveryId : String
  objects : List RawObject
  sourceProduct : Option String

/-- The `reason` of an object that does not parse. -/
inductive Reason
  | payloadNotObject | unknownSourceKind | connectorObjectNotSupportedInPush | missingReference
  | connectorIdMismatch | sourceProductMismatch | schemaUnsupported | schemaValidation
  deriving DecidableEq

/-- How an ingestion fails: the content is refused, a dependency fails, or the task is cancelled,
which is no `Exception`. -/
inductive Failure
  | refused | transient | cancelled
  deriving DecidableEq

inductive ErrorEntry
  | pushValidation (position : Nat) (reason : Reason)
  | sourceIngest (failure : Failure)
  | behaviorObservationProjection
  deriving DecidableEq

structure IngestionSummary where
  accepted : Nat := 0
  duplicate : Nat := 0
  rejected : Nat := 0
  degraded : Bool := false
  errors : List ErrorEntry := []
  deriving DecidableEq

/-- What happens outside during one receive, object by object: how the ingestion of the object at
a position ends (`idempotent` and `behavior_failed` if it succeeds), and whether the record of its
rejection can be stored. -/
structure Outside where
  ensured : Bool
  ingestOne : Nat → Except Failure (Bool × Bool)
  recorded : Nat → Bool
  marked : Bool

/-! ### Parsing -/

def sourceObjectKind : String → Option SourceObjectKind
  | "incident" => some .incident
  | "alert" => some .alert
  | "asset" => some .asset
  | "log" => some .log
  | "connector" => some .connector
  | _ => none

def orText (value : Option String) (default : String) : String :=
  (value.filter (· ≠ "")).getD default

def parseObject (supported : List String) (batch : PushBatchEnvelope) (raw : RawObject) :
    Except Reason SourceItem := do
  let some payload := raw.payload | throw .payloadNotObject
  let kindRaw := raw.sourceKind <|> payload.reference.bind (·.sourceKind)
  let some kind := kindRaw.bind sourceObjectKind | throw .unknownSourceKind
  if kind = .connector then throw .connectorObjectNotSupportedInPush
  let some reference := payload.reference | throw .missingReference
  if reference.connectorId ≠ some batch.connectorId then throw .connectorIdMismatch
  if batch.sourceProduct.isSome ∧ reference.sourceProduct ≠ batch.sourceProduct then
    throw .sourceProductMismatch
  if orText reference.schemaVersion "1" ∉ supported then throw .schemaUnsupported
  let some item := payload.parsed kind | throw .schemaValidation
  if item.connectorId ≠ batch.connectorId then throw .connectorIdMismatch
  return item

def inferSourceProduct (objects : List RawObject) : Option String :=
  objects.findSome? fun raw =>
    ((raw.payload.bind (·.reference)).bind (·.sourceProduct)).filter (· ≠ "")

def sourceProcessingOrder : SourceObjectKind → Nat
  | .connector => 0
  | .incident => 1
  | .alert => 2
  | .asset => 3
  | .log => 4

/-! ### One receive -/

def ensureConnector (batch : PushBatchEnvelope) : Option Connector → Connector
  | some row => row
  | none =>
    let product := orText batch.sourceProduct
      ((inferSourceProduct batch.objects).getD "push")
    { sourceProduct := product
      status := .online
      metadata := ⟨some product, none, [], none⟩ }

/-- `metadata.get("processed_delivery_ids") or []` of a row that may be missing. -/
def deliveries (row : Option Connector) : List String :=
  (row.map (·.metadata.processedDeliveryIds)).getD []

def deliverySeen (row : Option Connector) (deliveryId : String) : Bool :=
  deliveryId ∈ deliveries row

def remember (history : List String) (deliveryId : String) : List String :=
  let longer := if deliveryId ∈ history then history else history ++ [deliveryId]
  longer.drop (longer.length - maxDeliveryHistory)

def markDelivery (row : Connector) (deliveryId : String) (degraded : Bool) : Connector :=
  { row with
    status := .online
    metadata := { row.metadata with
      processedDeliveryIds := remember row.metadata.processedDeliveryIds deliveryId
      lastIngestionError := if degraded then some "object_rejected" else none } }

def IngestionSummary.reject (entry : ErrorEntry) (summary : IngestionSummary) :
    IngestionSummary :=
  { summary with rejected := summary.rejected + 1, errors := entry :: summary.errors }

def IngestionSummary.ingest (idempotent behaviorFailed : Bool) (summary : IngestionSummary) :
    IngestionSummary :=
  { accepted := if idempotent then summary.accepted else summary.accepted + 1
    duplicate := if idempotent then summary.duplicate + 1 else summary.duplicate
    rejected := summary.rejected
    degraded := behaviorFailed || summary.degraded
    errors := if behaviorFailed then .behaviorObservationProjection :: summary.errors
      else summary.errors }

def IngestionSummary.add (summary processed : IngestionSummary) : IngestionSummary :=
  { accepted := summary.accepted + processed.accepted
    duplicate := summary.duplicate + processed.duplicate
    rejected := summary.rejected + processed.rejected
    degraded := summary.degraded || processed.degraded || summary.rejected + processed.rejected != 0
    errors := summary.errors ++ processed.errors }

/-- What a batch has done so far. -/
structure Progress where
  attempted : List Nat
  summary : Option IngestionSummary

def Progress.after (position : Nat) (count : IngestionSummary → IngestionSummary)
    (rest : Progress) : Progress :=
  ⟨position :: rest.attempted, rest.summary.map count⟩

def ingestItems (outside : Outside) : List (Nat × SourceItem) → Progress
  | [] => ⟨[], some {}⟩
  | (position, _) :: rest =>
    match outside.ingestOne position with
    | .ok (idempotent, behaviorFailed) =>
      (ingestItems outside rest).after position (·.ingest idempotent behaviorFailed)
    | .error .cancelled => ⟨[position], none⟩
    | .error failure =>
      -- `except Exception`: the record of the rejection has its own transaction, and may raise
      if outside.recorded position then
        (ingestItems outside rest).after position (·.reject (.sourceIngest failure))
      else ⟨[position], none⟩

/-- What a receive leaves behind. -/
structure Receipt where
  row : Option Connector
  attempted : List Nat
  answer : Option IngestionSummary

section Receive

variable (supported : List String) {summary : IngestionSummary}

/-- The first loop of `receive`: the parsed objects with their positions, and the summary. -/
def parseObjects (outside : Outside) (batch : PushBatchEnvelope) :
    List (RawObject × Nat) → Option (List (Nat × SourceItem) × IngestionSummary)
  | [] => some ([], {})
  | (raw, position) :: rest =>
    match parseObject supported batch raw with
    | .ok item =>
      (parseObjects outside batch rest).map fun later =>
        ((position, item) :: later.1, later.2)
    | .error reason =>
      if outside.recorded position then
        (parseObjects outside batch rest).map fun later =>
          (later.1, later.2.reject (.pushValidation position reason))
      else none

/-- The body of `receive` between the look at the history and the mark. -/
def processBatch (outside : Outside) (batch : PushBatchEnvelope) : Progress :=
  match parseObjects supported outside batch batch.objects.zipIdx with
  | none => ⟨[], none⟩
  | some (valid, summary) =>
    -- incidents first, so that a linked alert finds its event
    let ordered := valid.insertionSort fun first second =>
      sourceProcessingOrder first.2.kind ≤ sourceProcessingOrder second.2.kind
    let processed := ingestItems outside ordered
    ⟨processed.attempted, processed.summary.map summary.add⟩

def receive (outside : Outside) (batch : PushBatchEnvelope) (row : Option Connector) : Receipt :=
  if outside.ensured then
    let connector := ensureConnector batch row
    if deliverySeen (some connector) batch.deliveryId then
      ⟨some connector, [], some { duplicate := batch.objects.length }⟩
    else
      match processBatch supported outside batch with
      | ⟨attempted, none⟩ => ⟨some connector, attempted, none⟩
      | ⟨attempted, some summary⟩ =>
        if outside.marked then
          ⟨some (markDelivery connector batch.deliveryId summary.degraded), attempted,
            some summary⟩
        else ⟨some connector, attempted, none⟩
  else ⟨row, [], none⟩

/-! ### The loops -/

/-- The object at the position parses. -/
def Valid (batch : PushBatchEnvelope) (position : Nat) : Prop :=
  ∃ raw item, batch.objects[position]? = some raw ∧
    parseObject supported batch raw = .ok item

variable {supported} {outside : Outside} {batch : PushBatchEnvelope}

/-- The objects that the first loop passes on are those that parse. -/
theorem mem_parseObjects {objects : List (RawObject × Nat)} {position : Nat} {item : SourceItem}
    {valid : List (Nat × SourceItem)}
    (parsed : parseObjects supported outside batch objects = some (valid, summary)) :
    (position, item) ∈ valid
      ↔ ∃ raw, (raw, position) ∈ objects ∧ parseObject supported batch raw = .ok item := by
  induction objects generalizing valid summary with
  | nil =>
    cases parsed
    simp
  | cons object _ ih =>
    obtain ⟨raw, place⟩ := object
    rw [parseObjects] at parsed
    split at parsed
    · next parses =>
      obtain ⟨⟨_, _⟩, rested, same⟩ := Option.map_eq_some_iff.mp parsed
      cases same
      simp [ih rested, or_and_right, exists_or, parses, eq_comm (a := item)]
    · next fails =>
      split_ifs at parsed
      obtain ⟨⟨_, _⟩, rested, same⟩ := Option.map_eq_some_iff.mp parsed
      cases same
      simp [ih rested, or_and_right, exists_or, fails]

/-- The first loop raises where a parse error cannot be recorded. -/
theorem parseObjects_raises {objects : List (RawObject × Nat)} :
    parseObjects supported outside batch objects = none
      ↔ ∃ entry ∈ objects, ∃ reason, parseObject supported batch entry.1 = .error reason
        ∧ outside.recorded entry.2 = false := by
  induction objects with
  | nil => simp [parseObjects]
  | cons object _ ih =>
    rw [parseObjects]
    split
    · next parses => simp [ih, parses]
    · next fails =>
      split_ifs with recorded
      · simp [ih, recorded]
      · simp [fails, recorded]

/-- An ingestion ends the receive: it is cancelled, or its failure cannot be recorded. -/
def Breaks (outside : Outside) (position : Nat) : Prop :=
  ∃ failure, outside.ingestOne position = .error failure
    ∧ (failure = .cancelled ∨ outside.recorded position = false)

theorem ingestItems_raises {items : List (Nat × SourceItem)} :
    (ingestItems outside items).summary = none ↔ ∃ item ∈ items, Breaks outside item.1 := by
  induction items with
  | nil => simp [ingestItems]
  | cons item _ ih =>
    rw [ingestItems]
    split
    · next done => simp [Progress.after, ih, Breaks, done]
    · next failed => simp [Breaks, failed]
    · next failure uncancelled failed =>
      have goesOn : failure ≠ .cancelled := uncancelled
      split_ifs with recorded
      · simp [Progress.after, ih, Breaks, failed, recorded, goesOn]
      · simp [Breaks, failed, recorded]

theorem ingestItems_attempted {items : List (Nat × SourceItem)}
    (returned : (ingestItems outside items).summary = some summary) :
    (ingestItems outside items).attempted = items.map Prod.fst := by
  induction items generalizing summary with
  | nil => rfl
  | cons item _ ih =>
    obtain ⟨position, source⟩ := item
    rw [ingestItems] at returned ⊢
    split at returned
    · obtain ⟨_, rested, -⟩ := Option.map_eq_some_iff.mp returned
      exact congrArg (position :: ·) (ih rested)
    · cases returned
    · split_ifs at returned ⊢ with recorded
      obtain ⟨_, rested, -⟩ := Option.map_eq_some_iff.mp returned
      exact congrArg (position :: ·) (ih rested)

theorem processBatch_attempted
    (returned : (processBatch supported outside batch).summary = some summary) {position : Nat}
    (valid : Valid supported batch position) :
    position ∈ (processBatch supported outside batch).attempted := by
  obtain ⟨raw, _, found, parses⟩ := valid
  have mem : (raw, position) ∈ batch.objects.zipIdx :=
    List.mem_zipIdx_iff_getElem?.mpr found
  rw [processBatch] at returned ⊢
  split at returned
  · cases returned
  next items counts parsed =>
  obtain ⟨_, ingested, -⟩ := Option.map_eq_some_iff.mp returned
  rw [ingestItems_attempted ingested]
  exact List.mem_map.mpr
    ⟨_, List.mem_insertionSort _ |>.mpr ((mem_parseObjects parsed).mpr ⟨raw, mem, parses⟩), rfl⟩

/-- **What interrupts a batch**: the failure of an object that cannot be recorded, or a cancelled
ingestion. -/
def Interrupted (supported : List String) (outside : Outside) (batch : PushBatchEnvelope) :
    Prop :=
  ∃ raw position, batch.objects[position]? = some raw
    ∧ ((∃ reason, parseObject supported batch raw = .error reason
        ∧ outside.recorded position = false)
      ∨ (∃ item, parseObject supported batch raw = .ok item) ∧ Breaks outside position)

theorem processBatch_raises : (processBatch supported outside batch).summary = none
    ↔ Interrupted supported outside batch := by
  have place : ∀ raw position, (raw, position) ∈ batch.objects.zipIdx
      ↔ batch.objects[position]? = some raw := fun _ _ => List.mem_zipIdx_iff_getElem?
  unfold processBatch Interrupted
  split
  · next raised =>
    obtain ⟨⟨raw, position⟩, mem, unrecorded⟩ := parseObjects_raises.mp raised
    exact iff_of_true rfl ⟨raw, position, (place raw position).mp mem, .inl unrecorded⟩
  next valid _ parsed =>
  rw [Option.map_eq_none_iff, ingestItems_raises]
  simp only [List.mem_insertionSort, Prod.exists, mem_parseObjects parsed, place]
  constructor
  · rintro ⟨position, item, ⟨raw, found, parses⟩, breaks⟩
    exact ⟨raw, position, found, .inr ⟨⟨item, parses⟩, breaks⟩⟩
  · rintro ⟨raw, position, found, ⟨reason, fails, lost⟩ | ⟨⟨item, parses⟩, breaks⟩⟩
    · have raised := parseObjects_raises.mpr
        ⟨(raw, position), (place raw position).mpr found, reason, fails, lost⟩
      cases parsed.symm.trans raised
    · exact ⟨position, item, ⟨raw, found, parses⟩, breaks⟩

/-! ### The history -/

variable {row : Option Connector}

@[simp] theorem deliveries_ensureConnector :
    deliveries (some (ensureConnector batch row)) = deliveries row := by
  cases row <;> rfl

@[simp] theorem deliveries_markDelivery (connector : Connector) (deliveryId : String)
    (degraded : Bool) :
    deliveries (some (markDelivery connector deliveryId degraded)) =
      remember (deliveries (some connector)) deliveryId := by
  simp only [deliveries, markDelivery, Option.map_some, Option.getD_some]

theorem deliverySeen_iff {deliveryId : String} :
    deliverySeen row deliveryId = true ↔ deliveryId ∈ deliveries row := decide_eq_true_iff

theorem mem_remember {history : List String} {deliveryId : String}
    (absent : deliveryId ∉ history) : deliveryId ∈ remember history deliveryId := by
  have early : (history ++ [deliveryId]).length - maxDeliveryHistory ≤ history.length := by
    simp only [List.length_append, List.length_singleton, maxDeliveryHistory]
    omega
  simp only [remember, if_neg absent, List.drop_append_of_le_length early]
  exact List.mem_append_right _ List.mem_cons_self

/-- **A known delivery is a duplicate**, whatever it holds. -/
theorem receive_duplicate (ensured : outside.ensured = true)
    (seen : deliverySeen row batch.deliveryId = true) :
    receive supported outside batch row =
      ⟨some (ensureConnector batch row), [],
        some { duplicate := batch.objects.length }⟩ := by
  have known : deliverySeen (some (ensureConnector batch row)) batch.deliveryId = true := by
    rwa [deliverySeen_iff, deliveries_ensureConnector, ← deliverySeen_iff]
  rw [receive, if_pos ensured, if_pos known]

/-- **A receive of an unknown delivery.** It raises and leaves the history as it is, or it attempts
every valid object and stores the delivery. -/
theorem receive_unseen (unseen : deliverySeen row batch.deliveryId = false) :
    ((receive supported outside batch row).answer = none ∧
        deliveries (receive supported outside batch row).row = deliveries row) ∨
      ((receive supported outside batch row).answer ≠ none ∧
        (∀ position, Valid supported batch position →
          position ∈ (receive supported outside batch row).attempted) ∧
        deliverySeen (receive supported outside batch row).row batch.deliveryId = true) := by
  have absent : batch.deliveryId ∉ deliveries row := by
    rw [← deliverySeen_iff, unseen]
    exact Bool.false_ne_true
  have known : ¬deliverySeen (some (ensureConnector batch row)) batch.deliveryId = true := by
    rwa [deliverySeen_iff, deliveries_ensureConnector]
  rw [receive]
  by_cases ensured : outside.ensured = true
  · simp only [if_pos ensured, if_neg known]
    split
    · exact .inl ⟨rfl, deliveries_ensureConnector⟩
    next attempted summary processed =>
    split_ifs with marked
    · refine .inr ⟨Option.some_ne_none _, fun position valid => ?_, ?_⟩
      · have returned : (processBatch supported outside batch).summary = some summary := by
          rw [processed]
        simpa only [processed] using processBatch_attempted returned valid
      · rw [deliverySeen_iff] at known ⊢
        rw [deliveries_markDelivery]
        exact mem_remember known
    · exact .inl ⟨rfl, deliveries_ensureConnector⟩
  · rw [if_neg ensured]
    exact .inl ⟨rfl, rfl⟩

theorem receive_raises (unseen : deliverySeen row batch.deliveryId = false) :
    (receive supported outside batch row).answer = none
      ↔ outside.ensured = false ∨ outside.marked = false
        ∨ Interrupted supported outside batch := by
  have known : ¬deliverySeen (some (ensureConnector batch row)) batch.deliveryId = true := by
    rwa [deliverySeen_iff, deliveries_ensureConnector, ← deliverySeen_iff, Bool.not_eq_true]
  rw [receive, ← processBatch_raises]
  cases outside.ensured with
  | false => simp
  | true =>
    simp only [if_neg known]
    cases processBatch supported outside batch with
    | mk _ summary =>
      cases summary with
      | none => simp
      | some => cases outside.marked <;> simp

/-! ### Sending a delivery again -/

variable (supported outside batch row)

/-- **A transient loss.** The delivery was not known, and a valid object of it was not ingested
although its content was not refused: its own ingestion failed, or the receive raised before it. -/
def Missed (position : Nat) : Prop :=
  Valid supported batch position ∧ deliverySeen row batch.deliveryId = false ∧
    ((position ∈ (receive supported outside batch row).attempted ∧
        ∃ failure, outside.ingestOne position = .error failure ∧ failure ≠ .refused) ∨
      (position ∉ (receive supported outside batch row).attempted ∧
        (receive supported outside batch row).answer = none))

/-- **Nothing is lost.** Every such object is attempted by the next receive of the delivery that
returns, on any later row that no other receive of the delivery has marked. -/
def LosesNothing : Prop :=
  ∀ position, Missed supported outside batch row position →
    ∀ (later : Option Connector) (again : Outside),
      (deliverySeen later batch.deliveryId = true →
        deliverySeen (receive supported outside batch row).row batch.deliveryId = true) →
      (receive supported again batch later).answer ≠ none →
        position ∈ (receive supported again batch later).attempted

/-- The failures that a receive which stores its delivery must not meet: those of an ingestion of
a valid object, unless the content is refused. -/
def OnlyRefuses : Prop :=
  ∀ position, Valid supported batch position →
    ∀ failure, outside.ingestOne position = .error failure → failure = .refused

def Outside.calm : Outside := ⟨true, fun _ => .ok (false, false), fun _ => true, true⟩

/-- **When a delivery that is sent again recovers what it lost**: it was known before, or the first
receive raised, or the receive met no other failure than refusals. -/
theorem resend_attempts_missed_iff :
    LosesNothing supported outside batch row ↔
      deliverySeen row batch.deliveryId = true ∨
        (outside.ensured = false ∨ outside.marked = false ∨
          Interrupted supported outside batch) ∨
        OnlyRefuses supported outside batch := by
  by_cases seen : deliverySeen row batch.deliveryId = true
  · refine iff_of_true (fun position missed => ?_) (.inl seen)
    exact absurd (missed.2.1.symm.trans seen) Bool.false_ne_true
  have unseen := Bool.eq_false_iff.mpr seen
  rw [← receive_raises unseen]
  rcases @receive_unseen supported outside batch row unseen with
    ⟨raised, kept⟩ | ⟨returned, attempted, stored⟩
  · refine iff_of_true (fun position missed later again quiet completes => ?_)
      (.inr (.inl raised))
    have fresh : deliverySeen later batch.deliveryId = false := by
      refine Bool.eq_false_iff.mpr fun known => seen ?_
      rw [deliverySeen_iff, ← kept, ← deliverySeen_iff]
      exact quiet known
    rcases @receive_unseen supported again batch later fresh with failed | ⟨_, all, _⟩
    · exact absurd failed.1 completes
    · exact all position missed.1
  · constructor
    · -- the delivery is stored: sent again it is a duplicate, and nothing of it is attempted
      intro recovers
      refine .inr (.inr fun position valid failure failed => ?_)
      by_contra transient
      have missed : Missed supported outside batch row position :=
        ⟨valid, unseen, .inl ⟨attempted position valid, failure, failed, transient⟩⟩
      have again := recovers position missed _ .calm id
      rw [receive_duplicate rfl stored] at again
      exact List.not_mem_nil (again (Option.some_ne_none _))
    · rintro (known | raised | refuses) position ⟨valid, _, lost⟩
      · exact absurd known seen
      · exact absurd raised returned
      · rcases lost with ⟨_, failure, failed, transient⟩ | ⟨_, raised⟩
        · exact absurd (refuses position valid failure failed) transient
        · exact absurd raised returned

end Receive

def oneAlert : PushBatchEnvelope :=
  ⟨"edr", "batch-1",
    [⟨some "alert", some ⟨some ⟨none, some "edr", none, none⟩, fun kind => some ⟨kind, "edr"⟩⟩⟩],
    none⟩

def databaseError : Outside := { Outside.calm with ingestOne := fun _ => .error .transient }

theorem transient_failure_lost : ¬LosesNothing ["1"] databaseError oneAlert none := by
  intro recovers
  have missed : Missed ["1"] databaseError oneAlert none 0 :=
    ⟨⟨_, _, rfl, rfl⟩, rfl, .inl ⟨by decide, .transient, rfl, by decide⟩⟩
  have again := recovers 0 missed _ .calm id (by decide)
  exact absurd again (by decide)

end ShadowTrace.Push
