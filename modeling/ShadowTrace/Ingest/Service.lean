/-
**The ingestion of source objects** (`app/services/event_service.py`).

A source object is delivered with the references its adapter has verified. Ingestion links it to an
event: a first alert opens a provisional event of its own; an incident promotes one provisional
event of the alerts it names and merges the others into it, unless work on them has begun.

Ingestion is one transaction in two halves: `Intake.route` is what it reads, the branch of `_ingest`
and `_promote_or_relate_alerts` it takes; `Intake.commit` is what it writes.

An object is identified with its reference: `stable_source_record_id` is a digest of the five
fields, taken to be injective. The rows of `source_event_link` are a list in the order of their ids.
-/

import ShadowTrace.Intents.System

namespace ShadowTrace.Ingest

open Relational Intents Closure

/-! ### The rows -/

inductive SourceObjectKind
  | incident | alert | asset | log | connector
  deriving DecidableEq

/-- `SourceReference`: the five fields of `canonical_source_identity`. -/
structure SourceReference where
  sourceProduct : Nat
  sourceTenantId : Nat
  connectorId : Nat
  sourceKind : SourceObjectKind
  sourceObjectId : Nat
  deriving DecidableEq

/-- What a source object is to its event. -/
inductive LinkRole
  | primary | provisional | related
  deriving DecidableEq

inductive PromotionStatus
  | unpromoted | promoted

structure SourceEventLink where
  source : SourceReference
  event : EventId
  role : LinkRole
  promotionStatus : PromotionStatus

/-- The source columns of an event. -/
structure EventSources where
  currentPrimarySourceRecordId : SourceReference
  dispositionSourceRef : Option SourceReference

inductive ContextField
  | event | sourceSnapshot
  | written (name : Nat)
  deriving DecidableEq

/-- The rows besides actions and reports that work on an event leaves. -/
inductive Activity
  | evidence | agentTrace | toolCallLog | llmCallLog
  | context (field : ContextField)
  deriving DecidableEq

/-- `event` and `source_snapshot` are written when the event is created. -/
def Activity.isWork : Activity → Bool
  | .context .event | .context .sourceSnapshot => false
  | _ => true

/-- The tables that ingestion reads and writes. -/
structure Intake where
  ledger : Ledger
  sources : List SourceReference
  links : List SourceEventLink
  origins : Table EventId EventSources
  activity : List (EventId × Activity)

/-- A normalised source object. -/
structure IngestableSource where
  reference : SourceReference
  occurredAt : Time
  severity : Severity
  incidentRef : Option SourceReference
  relatedAlertRefs : List SourceReference

/-- A delivery: the object and what the transaction does not decide itself. -/
structure Delivery where
  source : IngestableSource
  /-- The row that an unordered query for the links of an object returns. -/
  pick : SourceReference → Nat
  policy : DispositionPolicy
  /-- The automatic intent, if the policy for them accepts the event. -/
  auto : Option (IntentId × OrchestrationMode)
  now : Time

/-- The reference of the delivered object. -/
abbrev Delivery.ref (delivery : Delivery) : SourceReference := delivery.source.reference

/-- `new_event_id`, of the object that opens the event and the time it occurred. -/
abbrev NewEventId := SourceReference → Time → EventId

/-! ### Explicit associations -/

structure AssociationError where
  sourceObjectId : Nat
  relatedSourceObjectId : Nat
  expectedKind : SourceObjectKind

inductive IngestError
  | association (error : AssociationError)
  | eventReferenced

def IngestableSource.associations (source : IngestableSource) :
    List (SourceReference × SourceObjectKind) :=
  source.incidentRef.toList.map (·, .incident) ++ source.relatedAlertRefs.map (·, .alert)

/-- An incident has to be of the same product and tenant, an alert of the same connector too. -/
def validAssociation (primary related : SourceReference) (expectedKind : SourceObjectKind) : Bool :=
  related.sourceKind == expectedKind
    && related.sourceProduct == primary.sourceProduct
    && related.sourceTenantId == primary.sourceTenantId
    && (expectedKind == .incident || related.connectorId == primary.connectorId)

def validateExplicitAssociations (source : IngestableSource) : Except IngestError Unit :=
  let primary := source.reference
  match source.associations.find? fun entry => !validAssociation primary entry.1 entry.2 with
  | some (related, expectedKind) =>
    .error (.association ⟨primary.sourceObjectId, related.sourceObjectId, expectedKind⟩)
  | none => .ok ()

theorem validateExplicitAssociations_eq_ok {source : IngestableSource} :
    validateExplicitAssociations source = .ok ()
      ↔ ∀ entry ∈ source.associations,
        validAssociation source.reference entry.1 entry.2 = true := by
  unfold validateExplicitAssociations
  cases found : source.associations.find? fun entry =>
      !validAssociation source.reference entry.1 entry.2 with
  | none =>
    simp only [found]
    simpa using found
  | some entry =>
    simp only [found, reduceCtorEq, false_iff]
    intro valid
    have refused := List.find?_some found
    rw [valid entry (List.mem_of_find?_eq_some found)] at refused
    cases refused

/-! ### What ingestion reads -/

/-- The branches of `_ingest`. -/
inductive Route
  | idempotent
  | relate (event : EventId)
  | promote (target : EventId) (mergeable blocked : List EventId)
  | separate (blocked : List EventId)
  | create

namespace Intake

section

variable (intake : Intake) (source : SourceReference) (delivery : Delivery) (event : EventId)

def known : Bool := decide (source ∈ intake.sources)

def eventExists : Bool :=
  (intake.ledger.db.events.get event).isSome

def linksOf : List SourceEventLink :=
  intake.links.filter fun link => link.source == source

def incidentEvent (pick : SourceReference → Nat) (incident : SourceReference) : Option EventId :=
  if intake.known incident then
    match limitOne (pick incident) ((intake.linksOf incident).filter
      fun link => link.role == .primary || link.role == .provisional) with
    | some link => if intake.eventExists link.event then some link.event else none
    | none => none
  else none

def provisionalEvent (pick : SourceReference → Nat) (alert : SourceReference) : Option EventId :=
  if intake.known alert then
    match limitOne (pick alert) (intake.linksOf alert) with
    | some link =>
      if intake.eventExists link.event && link.role == .provisional then some link.event else none
    | none => none
  else none

def provisionalEvents : List EventId :=
  (delivery.source.relatedAlertRefs.filterMap (intake.provisionalEvent delivery.pick)).eraseDups

def eventHasMergeBlockers : Bool :=
  (intake.ledger.db.actions.rows.any fun entry => entry.2.eventId == event)
    || (intake.ledger.db.reports.rows.any fun entry => entry.2 == event)
    || intake.activity.any fun entry => entry.1 == event && entry.2.isWork

def promotion : Route :=
  let events := intake.provisionalEvents delivery
  match events.filter fun event => !intake.eventHasMergeBlockers event with
  | target :: mergeable => .promote target mergeable (events.filter intake.eventHasMergeBlockers)
  | [] => if events = [] then .create else .separate events

def parentEvent : Option EventId :=
  if delivery.ref.sourceKind ∈ [.alert, .log, .asset] then
    delivery.source.incidentRef.bind (intake.incidentEvent delivery.pick)
  else none

def route : Route :=
  if intake.linksOf delivery.ref ≠ [] then .idempotent
  else
    match intake.parentEvent delivery with
    | some event => .relate event
    | none =>
      if delivery.ref.sourceKind = .incident then intake.promotion delivery
      else .create

/-! ### What ingestion writes -/

def upsertSource : Intake :=
  { intake with
    sources := if source ∈ intake.sources then intake.sources else source :: intake.sources }

def addLink (link : SourceEventLink) : Intake :=
  { intake with links := intake.links ++ [link] }

def attachIntent : Intake :=
  match delivery.auto with
  | none => intake
  | some (fresh, mode) =>
    { intake with
      ledger := intake.ledger.whenFresh fresh
        (intake.ledger.maybeCreatePending event fresh mode delivery.now) }

def touchEvent (change : EventRow → EventRow) : Intake :=
  { intake with
    ledger := { intake.ledger with
      db := { intake.ledger.db with
        events := intake.ledger.db.events.modify event fun row =>
          { change row with rowVersion := row.rowVersion + 1 } } } }

end

end Intake

def newEventRow (delivery : Delivery) : EventRow where
  status := .new
  severity := delivery.source.severity
  finalVerdict := .none
  dispositionPolicy := delivery.policy

def creationRole (kind : SourceObjectKind) : LinkRole :=
  if kind = .alert then .provisional else .primary

/-- Incidents and alerts can be written back to; logs and assets cannot. -/
def creationDispositionRef (source : SourceReference) : Option SourceReference :=
  if source.sourceKind = .incident ∨ source.sourceKind = .alert then some source else none

/-- A link of a merged event goes to the surviving one, unless its object is linked there. -/
def moveLink (links : List SourceEventLink) (target secondary : EventId) (link : SourceEventLink) :
    Option SourceEventLink :=
  if link.event = secondary then
    if links.any fun other => other.source == link.source && other.event == target then none
    else some ⟨link.source, target, .related, .promoted⟩
  else some link

def flipPromotion (target : EventId) (link : SourceEventLink) : SourceEventLink :=
  if link.event = target ∧ link.role = .provisional then { link with promotionStatus := .promoted }
  else link

namespace Intake

section Writes

variable (newId : NewEventId)

section

variable (intake : Intake) (delivery : Delivery) (target : EventId)

def createdLink : SourceEventLink where
  source := delivery.ref
  event := newId delivery.ref delivery.source.occurredAt
  role := creationRole delivery.ref.sourceKind
  promotionStatus := .unpromoted

def createNewEvent : Intake :=
  let ref := delivery.ref
  let event := newId ref delivery.source.occurredAt
  if intake.eventExists event then intake.addLink ⟨ref, event, .related, .unpromoted⟩
  else
    { intake with
      ledger := { intake.ledger with
        db := { intake.ledger.db with
          events := intake.ledger.db.events.set event (newEventRow delivery) } }
      origins := intake.origins.set event ⟨ref, creationDispositionRef ref⟩
      links := intake.links ++ [createdLink newId delivery] }

def addRelatedLinkIfMissing (source : SourceReference) (intake : Intake) (event : EventId) :
    Intake :=
  if intake.links.any fun link => link.source == source && link.event == event then intake
  else intake.addLink ⟨source, event, .related, .unpromoted⟩

def mergeProvisionalEvent (intake : Intake) (secondary : EventId) : Intake :=
  { intake with
    ledger := intake.ledger.deleteEvent secondary
    links := intake.links.filterMap (moveLink intake.links target secondary)
    origins := intake.origins.deleteWhere fun event _ => event == secondary
    activity := intake.activity.filter fun entry =>
      !(entry.1 == secondary && entry.2 matches .context _) }

def eventReferenced (event : EventId) : Bool :=
  (intake.ledger.db.actions.rows.any fun entry => entry.2.eventId == event)
    || (intake.ledger.db.reports.rows.any fun entry => entry.2 == event)
    || (intake.ledger.db.jobs.rows.any fun entry => entry.2.eventId == event)
    || (intake.ledger.db.outboxes.rows.any fun entry => entry.2.eventId == event)
    || decide ((event, .evidence) ∈ intake.activity)

def mergeAll (mergeable : List EventId) : Intake :=
  mergeable.foldl (mergeProvisionalEvent target) intake

def promotionLinks (links : List SourceEventLink) (incident : SourceReference) (target : EventId)
    (blocked : List EventId) : List SourceEventLink :=
  links.map (flipPromotion target) ++ ⟨incident, target, .primary, .promoted⟩
    :: blocked.map fun event => ⟨incident, event, .related, .unpromoted⟩

def promote (mergeable blocked : List EventId) : Intake :=
  let ref := delivery.ref
  let merged := (intake.mergeAll target mergeable).touchEvent target fun row =>
    { row with dispositionPolicy := delivery.policy }
  attachIntent
    { merged with
      origins := merged.origins.modify target fun _ => ⟨ref, some ref⟩
      links := promotionLinks merged.links ref target blocked }
    delivery target

def commit : Route → Except IngestError Intake
  | .idempotent => .ok intake
  | .relate event =>
    .ok ((intake.touchEvent event id).addLink ⟨delivery.ref, event, .related, .unpromoted⟩)
  | .promote target mergeable blocked =>
    if mergeable.any intake.eventReferenced then .error .eventReferenced
    else .ok (intake.promote delivery target mergeable blocked)
  | .separate blocked =>
    .ok (blocked.foldl (addRelatedLinkIfMissing delivery.ref)
      (intake.createNewEvent newId delivery))
  | .create =>
    .ok ((intake.createNewEvent newId delivery).attachIntent delivery
      (newId delivery.ref delivery.source.occurredAt))

def ingest : Except IngestError Intake := do
  validateExplicitAssociations delivery.source
  (intake.upsertSource delivery.ref).commit newId delivery
    (intake.route delivery)

end

end Writes

end Intake

/-! ### The machine -/

/-- What other transactions leave: one event row rewritten, links as they are, everything else as
they like. Only ingestion deletes events and writes links; the events that the service creates for
uploaded files, which never have a link, are left out. -/
structure Elsewhere where
  db : Db
  event : EventId
  rewrite : EventRow → EventRow
  intents : Table IntentId IntentRow
  activity : List (EventId × Activity)

def Intake.elsewhere (intake : Intake) (change : Elsewhere) : Intake :=
  { intake with
    ledger :=
      { db := { change.db with
          events := intake.ledger.db.events.modify change.event change.rewrite }
        intents := change.intents }
    activity := change.activity }

inductive Label
  | ingest (delivery : Delivery)
  | elsewhere (change : Elsewhere)

/-- One transaction; a delivery that is refused leaves nothing. -/
def step (newId : NewEventId) (intake : Intake) : Label → Intake
  | .ingest delivery =>
    match intake.ingest newId delivery with
    | .ok after => after
    | .error _ => intake
  | .elsewhere change => intake.elsewhere change

def Intake.init (db : Db) : Intake where
  ledger := ⟨{ db with events := Table.empty }, Table.empty⟩
  sources := []
  links := []
  origins := Table.empty
  activity := []

/-! ### What the route says -/

section

variable {intake : Intake} {delivery : Delivery} {pick : SourceReference → Nat}
  {source : SourceReference} {event : EventId} {link : SourceEventLink}

theorem mem_linksOf :
    link ∈ intake.linksOf source ↔ link ∈ intake.links ∧ link.source = source := by
  simp [Intake.linksOf]

theorem linksOf_eq_nil :
    intake.linksOf source = [] ↔ ∀ link ∈ intake.links, link.source ≠ source := by
  simp [Intake.linksOf]

theorem limitOne_of_ne_nil {α : Type} (choice : Nat) {rows : List α} (some_row : rows ≠ []) :
    ∃ row ∈ rows, limitOne choice rows = some row := by
  have bound : choice % rows.length < rows.length :=
    Nat.mod_lt _ (List.length_pos_iff.mpr some_row)
  exact ⟨rows[choice % rows.length], List.getElem_mem bound, List.getElem?_eq_getElem bound⟩

theorem provisionalEvent_eq_some (found : intake.provisionalEvent pick source = some event) :
    ∃ link ∈ intake.links, link.source = source ∧ link.event = event ∧ link.role = .provisional
      ∧ intake.eventExists event = true := by
  unfold Intake.provisionalEvent at found
  split_ifs at found with known
  split at found
  · next link picked =>
    obtain ⟨mem, from_source⟩ := mem_linksOf.mp (limitOne_mem picked)
    split_ifs at found with both
    obtain ⟨present, role⟩ := Bool.and_eq_true_iff.mp both
    cases found
    exact ⟨link, mem, from_source, rfl, beq_iff_eq.mp role, present⟩
  · cases found

theorem mem_provisionalEvents :
    event ∈ intake.provisionalEvents delivery
      ↔ ∃ alert ∈ delivery.source.relatedAlertRefs,
        intake.provisionalEvent delivery.pick alert = some event := by
  simp [Intake.provisionalEvents]

-- the library has this of `List.dedup` only, which keeps the last occurrence
theorem nodup_eraseDups {α : Type} [DecidableEq α] (rows : List α) : rows.eraseDups.Nodup := by
  induction length : rows.length using Nat.strong_induction_on generalizing rows with
  | _ size ih =>
    cases rows with
    | nil => simp
    | cons row rest =>
      rw [List.eraseDups_cons, List.nodup_cons]
      have shorter : (rest.filter fun other => !other == row).length < size := by
        rw [← length]
        exact Nat.lt_succ_of_le (List.length_filter_le _ _)
      refine ⟨?_, ih _ shorter _ rfl⟩
      simp

theorem incidentEvent_eq_some (found : intake.incidentEvent pick source = some event) :
    (∃ link ∈ intake.links, link.source = source ∧ link.event = event)
      ∧ intake.eventExists event = true := by
  unfold Intake.incidentEvent at found
  split_ifs at found with known
  split at found
  · next link picked =>
    obtain ⟨mem, from_source⟩ := mem_linksOf.mp (List.mem_filter.mp (limitOne_mem picked)).1
    split_ifs at found with present
    cases found
    exact ⟨⟨link, mem, from_source, rfl⟩, present⟩
  · cases found

section

variable (intake : Intake) (delivery : Delivery)

/-- What the tables say if the route is taken. -/
inductive Reads : Route → Prop
  | idempotent (linked : intake.linksOf delivery.ref ≠ []) : Reads .idempotent
  | relate {event : EventId} (unlinked : intake.linksOf delivery.ref = [])
      (named : delivery.source.incidentRef = some incident)
      (found : intake.incidentEvent delivery.pick incident = some event) : Reads (.relate event)
  | promote (unlinked : intake.linksOf delivery.ref = [])
      (kind : delivery.ref.sourceKind = .incident)
      (pristine : target :: mergeable
        = (intake.provisionalEvents delivery).filter (!intake.eventHasMergeBlockers ·))
      (apart : blocked = (intake.provisionalEvents delivery).filter intake.eventHasMergeBlockers) :
      Reads (.promote target mergeable blocked)
  | separate (unlinked : intake.linksOf delivery.ref = [])
      (kind : delivery.ref.sourceKind = .incident)
      (some_event : intake.provisionalEvents delivery ≠ [])
      (blocked : ∀ event ∈ intake.provisionalEvents delivery,
        intake.eventHasMergeBlockers event = true) :
      Reads (.separate (intake.provisionalEvents delivery))
  | create (unlinked : intake.linksOf delivery.ref = [])
      (orphan : intake.parentEvent delivery = none)
      (alone : delivery.ref.sourceKind = .incident →
        intake.provisionalEvents delivery = []) : Reads .create

end

theorem promotion_target {target : EventId} {mergeable : List EventId}
    (pristine : target :: mergeable
      = (intake.provisionalEvents delivery).filter (!intake.eventHasMergeBlockers ·)) :
    target ∉ mergeable ∧ intake.eventExists target = true := by
  have nodup : (target :: mergeable).Nodup := by
    rw [pristine]
    exact (nodup_eraseDups _).filter _
  have first : target ∈ target :: mergeable := List.mem_cons_self
  rw [pristine] at first
  obtain ⟨_, -, found⟩ := mem_provisionalEvents.mp (List.mem_filter.mp first).1
  obtain ⟨-, -, -, -, -, present⟩ := provisionalEvent_eq_some found
  exact ⟨(List.nodup_cons.mp nodup).1, present⟩

theorem promotion_reads (unlinked : intake.linksOf delivery.ref = [])
    (orphan : intake.parentEvent delivery = none)
    (kind : delivery.ref.sourceKind = .incident) :
    Reads intake delivery (intake.promotion delivery) := by
  unfold Intake.promotion
  dsimp only
  split
  · next target mergeable pristine => exact .promote unlinked kind pristine.symm rfl
  next blocked =>
  split_ifs with none_found
  · exact .create unlinked orphan fun _ => none_found
  · exact .separate unlinked kind none_found fun event mem => by
      simpa using List.filter_eq_nil_iff.mp blocked event mem

theorem parentEvent_eq_some (found : intake.parentEvent delivery = some event) :
    ∃ incident, delivery.source.incidentRef = some incident
      ∧ intake.incidentEvent delivery.pick incident = some event := by
  unfold Intake.parentEvent at found
  split_ifs at found
  exact Option.bind_eq_some_iff.mp found

theorem route_reads (intake : Intake) (delivery : Delivery) :
    Reads intake delivery (intake.route delivery) := by
  unfold Intake.route
  cases found : intake.parentEvent delivery with
  | some =>
    obtain ⟨_, named, event_of⟩ := parentEvent_eq_some found
    split_ifs with linked
    · exact .idempotent linked
    all_goals exact .relate (not_not.mp linked) named event_of
  | none =>
    split_ifs with linked kind
    · exact .idempotent linked
    · exact promotion_reads (not_not.mp linked) found kind
    · exact .create (not_not.mp linked) found fun incident => absurd incident kind

end

/-! ### Where the links go -/

section

variable {intake : Intake} {delivery : Delivery} {target secondary event : EventId}
  {mergeable : List EventId} {link : SourceEventLink}

theorem attachIntent_eq (intake : Intake) (delivery : Delivery) (event : EventId) :
    (intake.attachIntent delivery event).links = intake.links
      ∧ (intake.attachIntent delivery event).origins = intake.origins
      ∧ (intake.attachIntent delivery event).activity = intake.activity
      ∧ (intake.attachIntent delivery event).ledger.db = intake.ledger.db := by
  unfold Intake.attachIntent Ledger.whenFresh Ledger.maybeCreatePending Ledger.put
  split
  · exact ⟨rfl, rfl, rfl, rfl⟩
  · split_ifs <;> exact ⟨rfl, rfl, rfl, rfl⟩

theorem touchEvent_exists (change : EventRow → EventRow) (other : EventId) :
    (intake.touchEvent event change).eventExists other = intake.eventExists other := by
  unfold Intake.eventExists Intake.touchEvent
  rw [Table.get_modify]
  split_ifs with same
  · simp
  · rfl

theorem merge_exists (other : EventId) :
    (intake.mergeProvisionalEvent target secondary).eventExists other
      = (intake.eventExists other && other != secondary) := by
  unfold Intake.eventExists Intake.mergeProvisionalEvent Ledger.deleteEvent
  rw [Table.get_deleteWhere]
  cases intake.ledger.db.events.get other with
  | none => rfl
  | some => by_cases same : other = secondary <;> simp [same, Option.filter]

theorem mem_merge (apart : target ≠ secondary)
    (mem : link ∈ (intake.mergeProvisionalEvent target secondary).links) :
    link.event ≠ secondary
      ∧ (link ∈ intake.links
        ∨ (link.event = target ∧ ∃ old ∈ intake.links, old.source = link.source
          ∧ old.event = secondary)) := by
  obtain ⟨old, stored, moved⟩ := List.mem_filterMap.mp mem
  unfold moveLink at moved
  split_ifs at moved with here
  · cases moved
    exact ⟨apart, .inr ⟨rfl, old, stored, rfl, here⟩⟩
  · cases moved
    exact ⟨here, .inl stored⟩

theorem merge_keeps (stored : link ∈ intake.links) (elsewhere : link.event ≠ secondary) :
    link ∈ (intake.mergeProvisionalEvent target secondary).links := by
  refine List.mem_filterMap.mpr ⟨link, stored, ?_⟩
  unfold moveLink
  rw [if_neg elsewhere]

theorem merge_moves (apart : target ≠ secondary) (stored : link ∈ intake.links)
    (here : link.event = secondary) :
    ∃ moved ∈ (intake.mergeProvisionalEvent target secondary).links,
      moved.source = link.source ∧ moved.event = target := by
  by_cases there : intake.links.any fun other =>
      other.source == link.source && other.event == target
  · obtain ⟨other, kept, same⟩ := List.any_eq_true.mp there
    simp only [Bool.and_eq_true, beq_iff_eq] at same
    exact ⟨other, merge_keeps kept (by rw [same.2]; exact apart), same⟩
  refine ⟨⟨link.source, target, .related, .promoted⟩, ?_, rfl, rfl⟩
  refine List.mem_filterMap.mpr ⟨link, stored, ?_⟩
  unfold moveLink
  rw [if_pos here, if_neg there]

theorem mergeAll_exists (intake : Intake) (target : EventId) (mergeable : List EventId)
    (other : EventId) :
    (intake.mergeAll target mergeable).eventExists other
      = (intake.eventExists other && decide (other ∉ mergeable)) := by
  unfold Intake.mergeAll
  induction mergeable generalizing intake with
  | nil => simp
  | cons secondary rest ih =>
    rw [List.foldl_cons, ih, merge_exists]
    by_cases same : other = secondary <;> by_cases later : other ∈ rest <;> simp [same, later]

theorem mem_mergeAll (apart : target ∉ mergeable)
    (mem : link ∈ (intake.mergeAll target mergeable).links) :
    link.event ∉ mergeable
      ∧ (link ∈ intake.links
        ∨ (link.event = target ∧ ∃ old ∈ intake.links, old.source = link.source
          ∧ old.event ∈ mergeable)) := by
  induction mergeable generalizing intake with
  | nil => exact ⟨List.not_mem_nil, .inl mem⟩
  | cons secondary rest ih =>
    rw [List.mem_cons, not_or] at apart
    obtain ⟨not_later, before | ⟨at_target, old, before, same, later⟩⟩ := ih apart.2 mem
    · obtain ⟨not_here, stored | ⟨at_target, old, stored, same, here⟩⟩ := mem_merge apart.1 before
      · exact ⟨by simp [not_here, not_later], .inl stored⟩
      · exact ⟨by simp [not_here, not_later], .inr ⟨at_target, old, stored, same, by simp [here]⟩⟩
    have stays : link.event ∉ secondary :: rest := by
      rw [at_target, List.mem_cons, not_or]
      exact apart
    obtain ⟨-, stored | ⟨moved, -⟩⟩ := mem_merge apart.1 before
    · exact ⟨stays, .inr ⟨at_target, old, stored, same, List.mem_cons_of_mem _ later⟩⟩
    · rw [moved] at later
      exact absurd later apart.2

theorem mergeAll_keeps (stored : link ∈ intake.links) (elsewhere : link.event ∉ mergeable) :
    link ∈ (intake.mergeAll target mergeable).links := by
  induction mergeable generalizing intake with
  | nil => exact stored
  | cons _ _ ih =>
    rw [List.mem_cons, not_or] at elsewhere
    exact ih (merge_keeps stored elsewhere.1) elsewhere.2

theorem mergeAll_moves (apart : target ∉ mergeable) (stored : link ∈ intake.links)
    (inside : link.event ∈ mergeable) :
    ∃ moved ∈ (intake.mergeAll target mergeable).links,
      moved.source = link.source ∧ moved.event = target := by
  induction mergeable generalizing intake with
  | nil => cases inside
  | cons secondary rest ih =>
    rw [List.mem_cons, not_or] at apart
    by_cases here : link.event = secondary
    · obtain ⟨moved, mem, same, at_target⟩ := merge_moves apart.1 stored here
      have stays : moved.event ∉ rest := by rw [at_target]; exact apart.2
      have kept : moved ∈ (Intake.mergeAll _ target rest).links := mergeAll_keeps mem stays
      exact ⟨moved, kept, same, at_target⟩
    · have later := (List.mem_cons.mp inside).resolve_left here
      exact ih apart.2 (merge_keeps stored here) later

end

end ShadowTrace.Ingest
