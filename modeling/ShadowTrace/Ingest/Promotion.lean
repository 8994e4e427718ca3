/-
**One primary source for each event.**

An incident that promotes an event becomes its primary source, and the event is written back to the
incident from then on. The provisional link of the alert stays provisional, with a promotion marker
that `_promote_or_relate_alerts` never reads; a second incident that names the same alert finds the
event again and takes it over, or merges it away.
-/

import ShadowTrace.Ingest.Service

namespace ShadowTrace.Ingest

open Relational Fallible Intents Machine

/-! ### Primary links -/

def isPrimaryOf (event : EventId) (link : SourceEventLink) : Bool :=
  link.event == event && link.role == .primary

def Intake.primaryLinks (intake : Intake) (event : EventId) : List SourceEventLink :=
  intake.links.filter (isPrimaryOf event)

section Links

variable {links : List SourceEventLink} {target secondary event : EventId}

theorem moveLink_filter (links : List SourceEventLink) (target secondary event : EventId)
    (link : SourceEventLink) :
    (moveLink links target secondary link).filter (isPrimaryOf event)
      = if event = secondary then none else Option.guard (isPrimaryOf event) link := by
  have moved : isPrimaryOf event ⟨link.source, target, .related, .promoted⟩ = false := by
    simp [isPrimaryOf]
  unfold moveLink
  by_cases here : link.event = secondary
  · have dropped : event ≠ secondary → isPrimaryOf event link = false := by
      intro other
      simp [isPrimaryOf, here, Ne.symm other]
    by_cases same : event = secondary
    · split_ifs <;> simp [moved]
    · split_ifs <;> simp [moved, Option.guard, dropped same]
  · rw [if_neg here]
    by_cases same : event = secondary
    · simp [isPrimaryOf, same, here]
    · rw [if_neg same]
      rfl

theorem filter_moveLink (links rows : List SourceEventLink) (target secondary event : EventId) :
    (rows.filterMap (moveLink links target secondary)).filter (isPrimaryOf event)
      = if event = secondary then [] else rows.filter (isPrimaryOf event) := by
  rw [List.filter_filterMap]
  simp only [moveLink_filter]
  split_ifs with same
  · simp
  · rw [List.filterMap_eq_filter]

theorem mergeAll_view {β : Type} (view : Intake → β) {gone : β} {target event : EventId}
    (one : ∀ intake secondary, view (intake.mergeProvisionalEvent target secondary)
      = if event = secondary then gone else view intake) (intake : Intake)
    (mergeable : List EventId) : view (intake.mergeAll target mergeable)
      = if event ∈ mergeable then gone else view intake := by
  unfold Intake.mergeAll
  induction mergeable generalizing intake with
  | nil => simp
  | cons secondary rest ih =>
    rw [List.foldl_cons, ih, one]
    by_cases later : event ∈ rest <;> by_cases here : event = secondary <;> simp [later]

theorem mergeAll_primaryLinks (intake : Intake) (target : EventId) (mergeable : List EventId)
    (event : EventId) : (intake.mergeAll target mergeable).primaryLinks event
      = if event ∈ mergeable then [] else intake.primaryLinks event :=
  mergeAll_view (·.primaryLinks event) (fun intake secondary =>
    filter_moveLink intake.links intake.links target secondary event) intake mergeable

theorem mergeAll_origins (intake : Intake) (target : EventId) (mergeable : List EventId)
    (event : EventId) : (intake.mergeAll target mergeable).origins.get event
      = if event ∈ mergeable then none else intake.origins.get event := by
  refine mergeAll_view (·.origins.get event) (fun intake secondary => ?_) intake mergeable
  unfold Intake.mergeProvisionalEvent
  rw [Table.get_deleteWhere]
  cases intake.origins.get event <;> by_cases here : event = secondary <;>
    simp [here]

theorem filter_flipPromotion (links : List SourceEventLink) (target event : EventId) :
    (links.map (flipPromotion target)).filter (isPrimaryOf event)
      = links.filter (isPrimaryOf event) := by
  induction links with
  | nil => rfl
  | cons link _ ih =>
    rw [List.map_cons, List.filter_cons, List.filter_cons, ih]
    by_cases flipped : link.event = target ∧ link.role = .provisional
    · have provisional : isPrimaryOf event link = false := by simp [isPrimaryOf, flipped.2]
      have still : isPrimaryOf event (flipPromotion target link) = false := by
        simp [isPrimaryOf, flipPromotion, flipped]
      rw [provisional, still]
      simp
    · rw [flipPromotion, if_neg flipped]

theorem filter_promotionLinks (links : List SourceEventLink) (incident : SourceReference)
    (target : EventId) (blocked : List EventId) (event : EventId) :
    (Intake.promotionLinks links incident target blocked).filter (isPrimaryOf event)
      = links.filter (isPrimaryOf event)
        ++ if event = target then [⟨incident, target, .primary, .promoted⟩] else [] := by
  have apart : (blocked.map fun other : EventId =>
      (⟨incident, other, .related, .unpromoted⟩ : SourceEventLink)).filter (isPrimaryOf event)
        = [] := by
    rw [List.filter_eq_nil_iff]
    intro _ mem
    obtain ⟨_, -, rfl⟩ := List.mem_map.mp mem
    simp [isPrimaryOf]
  unfold Intake.promotionLinks
  rw [List.filter_append, filter_flipPromotion, List.filter_cons, apart]
  by_cases here : event = target
  · simp [isPrimaryOf, here]
  · simp [isPrimaryOf, here, Ne.symm here]

theorem addLink_related (intake : Intake) (source : SourceReference) (other event : EventId)
    (promotion : PromotionStatus) :
    (intake.addLink ⟨source, other, .related, promotion⟩).primaryLinks event
      = intake.primaryLinks event := by
  simp [Intake.primaryLinks, Intake.addLink, isPrimaryOf]

end Links

/-! ### What a transaction does -/

/-- Nothing happens to primary links, origins and existing events. -/
structure Quiet (before after : Intake) : Prop where
  primaries : ∀ event, after.primaryLinks event = before.primaryLinks event
  origins : ∀ event, after.origins.get event = before.origins.get event
  existing : ∀ event, after.eventExists event = before.eventExists event

/-- A new event, with its object as the primary source unless it is an alert. -/
structure Opened (before after : Intake) (source : SourceReference) (opened : EventId) : Prop where
  fresh : before.eventExists opened = false
  primaries : ∀ event, after.primaryLinks event = before.primaryLinks event
    ++ if event = opened ∧ source.sourceKind ≠ .alert
      then [⟨source, opened, .primary, .unpromoted⟩] else []
  origins : ∀ event, after.origins.get event
    = if event = opened then some ⟨source, creationDispositionRef source⟩
      else before.origins.get event
  existing : ∀ event, after.eventExists event = (before.eventExists event || event == opened)

/-- The incident takes over the target; the mergeable events are gone. -/
structure Promoted (before after : Intake) (incident : SourceReference) (target : EventId)
    (mergeable : List EventId) : Prop where
  present : before.eventExists target = true
  apart : target ∉ mergeable
  primaries : ∀ event, after.primaryLinks event
    = (if event ∈ mergeable then [] else before.primaryLinks event)
      ++ if event = target then [⟨incident, target, .primary, .promoted⟩] else []
  origins : ∀ event, after.origins.get event
    = if event = target then (before.origins.get event).map fun _ => ⟨incident, some incident⟩
      else if event ∈ mergeable then none else before.origins.get event
  existing : ∀ event, after.eventExists event
    = (before.eventExists event && decide (event ∉ mergeable))

theorem Quiet.refl (intake : Intake) : Quiet intake intake :=
  ⟨fun _ => rfl, fun _ => rfl, fun _ => rfl⟩

variable {before middle after : Intake}

theorem Quiet.trans (first : Quiet before middle) (second : Quiet middle after) :
    Quiet before after where
  primaries event := (second.primaries event).trans (first.primaries event)
  origins event := (second.origins event).trans (first.origins event)
  existing event := (second.existing event).trans (first.existing event)

variable {source : SourceReference} {opened : EventId}

theorem Opened.framed {start : Intake} (first : Quiet start before)
    (opens : Opened before middle source opened) (last : Quiet middle after) :
    Opened start after source opened where
  fresh := (first.existing opened).symm.trans opens.fresh
  primaries event := by rw [last.primaries, opens.primaries, first.primaries]
  origins event := by rw [last.origins, opens.origins, first.origins]
  existing event := by rw [last.existing, opens.existing, first.existing]

theorem Promoted.of_quiet {incident : SourceReference} {target : EventId} {mergeable : List EventId}
    (first : Quiet before middle) (second : Promoted middle after incident target mergeable) :
    Promoted before after incident target mergeable where
  present := (first.existing target).symm.trans second.present
  apart := second.apart
  primaries event := by rw [second.primaries, first.primaries]
  origins event := by rw [second.origins, first.origins]
  existing event := by rw [second.existing, first.existing]

section Effects

variable {intake : Intake}

theorem upsertSource_quiet (intake : Intake) (source : SourceReference) :
    Quiet intake (intake.upsertSource source) :=
  ⟨fun _ => rfl, fun _ => rfl, fun _ => rfl⟩

theorem addLink_quiet (intake : Intake) (source : SourceReference) (event : EventId)
    (promotion : PromotionStatus) :
    Quiet intake (intake.addLink ⟨source, event, .related, promotion⟩) :=
  ⟨fun _ => addLink_related intake source event _ promotion, fun _ => rfl, fun _ => rfl⟩

theorem attachIntent_quiet (intake : Intake) (delivery : Delivery) (event : EventId) :
    Quiet intake (intake.attachIntent delivery event) := by
  obtain ⟨links, origins, -, db⟩ := attachIntent_eq intake delivery event
  refine ⟨fun other => ?_, fun other => ?_, fun other => ?_⟩
  · rw [Intake.primaryLinks, links, Intake.primaryLinks]
  · rw [origins]
  · rw [Intake.eventExists, db, Intake.eventExists]

theorem touchEvent_quiet (intake : Intake) (event : EventId) (change : EventRow → EventRow) :
    Quiet intake (intake.touchEvent event change) :=
  ⟨fun _ => rfl, fun _ => rfl, touchEvent_exists change⟩

theorem addRelated_quiet (source : SourceReference) (intake : Intake) (events : List EventId) :
    Quiet intake (events.foldl (Intake.addRelatedLinkIfMissing source) intake) := by
  refine List.foldlRecOn (motive := Quiet intake) events _ (.refl intake) ?_
  intro later quiet event _
  refine quiet.trans ?_
  unfold Intake.addRelatedLinkIfMissing
  split_ifs
  · exact .refl later
  · exact addLink_quiet later source event .unpromoted

theorem createNewEvent_effect (newId : NewEventId) (intake : Intake)
    (delivery : Delivery) :
    Quiet intake (intake.createNewEvent newId delivery)
      ∨ ∃ opened, Opened intake (intake.createNewEvent newId delivery)
        delivery.ref opened := by
  unfold Intake.createNewEvent
  dsimp only
  split_ifs with taken
  · exact .inl (addLink_quiet intake _ _ _)
  rw [Bool.not_eq_true] at taken
  refine .inr ⟨_, taken, fun event => ?_, fun event => ?_, fun event => ?_⟩
  · unfold Intake.primaryLinks
    by_cases alert : delivery.ref.sourceKind = .alert
    · simp [isPrimaryOf, Intake.createdLink, creationRole, alert]
    · by_cases here : event = newId delivery.ref delivery.source.occurredAt
      · simp [isPrimaryOf, Intake.createdLink, creationRole, alert, here]
      · simp [isPrimaryOf, Intake.createdLink, here, Ne.symm here]
  · rw [Table.get_set]
  · unfold Intake.eventExists
    rw [Table.get_set]
    split_ifs with here
    · simp [here]
    · simp [here]

theorem promote_exists (intake : Intake) (delivery : Delivery) (target : EventId)
    (mergeable blocked : List EventId) (event : EventId) :
    (intake.promote delivery target mergeable blocked).eventExists event
      = (intake.eventExists event && decide (event ∉ mergeable)) := by
  rw [← mergeAll_exists intake target mergeable event]
  exact ((attachIntent_quiet _ delivery target).existing event).trans (touchEvent_exists _ event)

theorem promote_effect (delivery : Delivery) {target : EventId} {mergeable : List EventId}
    (blocked : List EventId) (present : intake.eventExists target = true)
    (apart : target ∉ mergeable) :
    Promoted intake (intake.promote delivery target mergeable blocked) delivery.ref
      target mergeable := by
  have attached := attachIntent_quiet
    { (intake.mergeAll target mergeable).touchEvent target fun row =>
        { row with dispositionPolicy := delivery.policy } with
      origins := (intake.mergeAll target mergeable).origins.modify target fun _ =>
        ⟨delivery.ref, some delivery.ref⟩
      links := Intake.promotionLinks (intake.mergeAll target mergeable).links
        delivery.ref target blocked } delivery target
  refine ⟨present, apart, fun event => ?_, fun event => ?_, fun event => ?_⟩
  · refine (attached.primaries event).trans ?_
    rw [← mergeAll_primaryLinks intake target mergeable event]
    exact filter_promotionLinks _ _ _ _ _
  · refine (attached.origins event).trans ?_
    rw [Table.get_modify, mergeAll_origins]
    by_cases here : event = target
    · rw [if_pos here, if_pos here, here, if_neg apart]
    · rw [if_neg here, if_neg here]
  · exact promote_exists intake delivery target mergeable blocked event

end Effects

section Steps

variable (newId : NewEventId)

section

variable (intake : Intake) (label : Label)

def takesOver : Label → List EventId
  | .ingest delivery =>
    match intake.ingest newId delivery, intake.route delivery with
    | .ok _, .promote target mergeable _ => target :: mergeable
    | _, _ => []
  | .elsewhere _ => []

/-- What one transaction does to the primary sources. -/
inductive StepEffect (after : Intake) : Prop
  | quiet (quiet : Quiet intake after) (taken : takesOver newId intake label = [])
  | opened {opened : EventId} (entry : label = .ingest delivery)
      (opened : Opened intake after delivery.ref opened)
      (taken : takesOver newId intake label = [])
  | promoted (entry : label = .ingest delivery)
      (promoted : Promoted intake after delivery.ref target mergeable)
      (taken : takesOver newId intake label = target :: mergeable)

theorem ingest_eq_ok {newId : NewEventId} {intake : Intake}
    {delivery : Delivery} : intake.ingest newId delivery = .ok after
      ↔ validateExplicitAssociations delivery.source = .ok ()
        ∧ (intake.upsertSource delivery.ref).commit newId delivery
          (intake.route delivery) = .ok after :=
  unit_bind

def Route.takes : Route → List EventId
  | .promote target mergeable _ => target :: mergeable
  | _ => []

theorem ingest_effect {intake : Intake} {delivery : Delivery}
    (done : intake.ingest newId delivery = .ok after) :
    StepEffect newId intake (.ingest delivery) after := by
  have committed := (ingest_eq_ok.mp done).2
  have read := route_reads intake delivery
  have taken : takesOver newId intake (.ingest delivery)
      = (intake.route delivery).takes := by
    simp only [takesOver, done]
    cases intake.route delivery <;> rfl
  have upserted := upsertSource_quiet intake delivery.ref
  have created : ∀ {later}, Quiet ((intake.upsertSource
      delivery.ref).createNewEvent newId delivery) later →
      takesOver newId intake (.ingest delivery) = [] →
      StepEffect newId intake (.ingest delivery) later := by
    intro _ rest taken
    obtain quiet | ⟨_, born⟩ := createNewEvent_effect newId
      (intake.upsertSource delivery.ref) delivery
    · exact .quiet (upserted.trans (quiet.trans rest)) taken
    · exact .opened rfl (.framed upserted born rest) taken
  generalize intake.route delivery = route at committed read taken
  cases read with
  | idempotent =>
    cases committed
    exact .quiet upserted taken
  | relate =>
    cases committed
    exact .quiet (upserted.trans ((touchEvent_quiet _ _ id).trans (addLink_quiet _ _ _ _))) taken
  | @promote target mergeable blocked unlinked kind pristine apart =>
    simp only [Intake.commit] at committed
    split_ifs at committed with referenced
    cases committed
    obtain ⟨alone, present⟩ := promotion_target pristine
    have promoted := promote_effect delivery blocked
      ((upserted.existing target).trans present) alone
    exact .promoted rfl (.of_quiet upserted promoted) taken
  | separate =>
    cases committed
    exact created (addRelated_quiet ..) taken
  | create =>
    cases committed
    exact created (attachIntent_quiet ..) taken

theorem elsewhere_quiet (change : Elsewhere) : Quiet intake (intake.elsewhere change) := by
  refine ⟨fun _ => rfl, fun _ => rfl, fun event => ?_⟩
  unfold Intake.eventExists Intake.elsewhere
  rw [Table.get_modify]
  split_ifs with same
  · rw [same, Option.isSome_map]
  · rfl

theorem step_effect : StepEffect newId intake label (step newId intake label) := by
  cases label with
  | elsewhere change => exact .quiet (elsewhere_quiet intake change) rfl
  | ingest delivery =>
    unfold step
    dsimp only
    cases done : intake.ingest newId delivery with
    | ok => exact ingest_effect newId done
    | error =>
      refine .quiet (.refl intake) ?_
      simp only [takesOver, done]

end

end Steps

/-! ### The primary source of an event -/

/-- Each event has at most one primary link, and is written back to the source of that link. -/
structure OnePrimary (intake : Intake) : Prop where
  atMostOne : ∀ event, (intake.primaryLinks event).length ≤ 1
  designated : ∀ event, ∀ link ∈ intake.primaryLinks event, ∃ sources,
    intake.origins.get event = some sources ∧ sources.dispositionSourceRef = some link.source

/-- No primary link is lost. -/
def KeepsPrimary (before after : Intake) : Prop :=
  ∀ event, ∀ link ∈ before.primaryLinks event, link ∈ after.primaryLinks event

/-- A committed state with one primary source for each event, none of which was lost to it. -/
def Sound (before after : Intake) : Prop := OnePrimary after ∧ KeepsPrimary before after

/-- **No event is taken over twice.** The incident takes over, and merges away, only events that no
incident is the primary source of. -/
def Untaken (newId : NewEventId) (intake : Intake) (label : Label) :
    Prop :=
  ∀ event ∈ takesOver newId intake label, intake.primaryLinks event = []

instance (newId : NewEventId) (intake : Intake) (label : Label) :
    Decidable (Untaken newId intake label) :=
  inferInstanceAs (Decidable (∀ event ∈ takesOver newId intake label,
    intake.primaryLinks event = []))

def Label.AlertOrIncident : Label → Prop
  | .ingest delivery => delivery.ref.sourceKind = .alert
      ∨ delivery.ref.sourceKind = .incident
  | .elsewhere _ => True

/-- The primary links are on events that exist, and every event has its origin recorded. -/
structure Recorded (intake : Intake) : Prop where
  placed : ∀ event, intake.eventExists event = false → intake.primaryLinks event = []
  recorded : ∀ event, intake.eventExists event = true → (intake.origins.get event).isSome = true

section Invariants

variable {newId : NewEventId} {before after : Intake} {label : Label}

theorem recorded_init (db : Db) : Recorded (Intake.init db) where
  placed _ _ := rfl
  recorded _ exists_ := by simp [Intake.eventExists, Intake.init] at exists_

theorem onePrimary_init (db : Db) : OnePrimary (Intake.init db) where
  atMostOne _ := Nat.zero_le 1
  designated _ := List.forall_mem_nil _

theorem StepEffect.recorded (effect : StepEffect newId before label after)
    (known : Recorded before) : Recorded after := by
  cases effect with
  | quiet quiet =>
    constructor
    · intro event missing
      rw [quiet.existing] at missing
      rw [quiet.primaries, known.placed event missing]
    intro event present
    rw [quiet.existing] at present
    rw [quiet.origins]
    exact known.recorded event present
  | opened _ opened =>
    constructor
    · intro event missing
      rw [opened.existing, Bool.or_eq_false_iff, beq_eq_false_iff_ne] at missing
      rw [opened.primaries, known.placed event missing.1, if_neg fun both => missing.2 both.1]
      rfl
    intro event present
    rw [opened.existing, Bool.or_eq_true, beq_iff_eq] at present
    rw [opened.origins]
    split_ifs with here
    · rfl
    · exact known.recorded event (present.resolve_right here)
  | promoted _ promoted =>
    constructor
    · intro event missing
      rw [promoted.existing, Bool.and_eq_false_iff, decide_eq_false_iff_not, not_not] at missing
      have apart : event ≠ _ := fun same => missing.elim
        (fun gone => Bool.false_ne_true (gone.symm.trans (same ▸ promoted.present)))
        fun merged => promoted.apart (same ▸ merged)
      rw [promoted.primaries, if_neg apart, List.append_nil]
      split_ifs with merged
      · rfl
      · exact known.placed event (missing.resolve_right merged)
    · intro event present
      rw [promoted.existing, Bool.and_eq_true, decide_eq_true_eq] at present
      rw [promoted.origins, if_neg present.2]
      split_ifs with here
      · rw [Option.isSome_map]
        exact known.recorded event present.1
      · exact known.recorded event present.1

section Promoted

variable {incident : SourceReference} {target : EventId} {mergeable : List EventId}
  (promoted : Promoted before after incident target mergeable)

include promoted

theorem Promoted.stays {event : EventId} (elsewhere : event ≠ target)
    (unmerged : event ∉ mergeable) : after.primaryLinks event = before.primaryLinks event := by
  rw [promoted.primaries, if_neg unmerged, if_neg elsewhere, List.append_nil]

theorem Promoted.merged_away {event : EventId} (elsewhere : event ≠ target)
    (merged : event ∈ mergeable) : after.primaryLinks event = [] := by
  rw [promoted.primaries, if_pos merged, if_neg elsewhere]
  rfl

theorem Promoted.taken (untaken : before.primaryLinks target = []) :
    after.primaryLinks target = [⟨incident, target, .primary, .promoted⟩] := by
  rw [promoted.primaries, if_neg promoted.apart, if_pos rfl, untaken]
  rfl

theorem Promoted.untaken_of_sound (sound : Sound before after) :
    ∀ event ∈ target :: mergeable, before.primaryLinks event = [] := by
  obtain ⟨now, keeps⟩ := sound
  intro event mem
  by_cases here : event = target
  · have bound := now.atMostOne event
    rw [promoted.primaries, if_pos here, if_neg (here ▸ promoted.apart), List.length_append]
      at bound
    exact List.eq_nil_of_length_eq_zero (Nat.le_zero.mp (Nat.le_of_add_le_add_right bound))
  have merged := (List.mem_cons.mp mem).resolve_left here
  refine List.eq_nil_iff_forall_not_mem.mpr fun link old => ?_
  have lost := keeps event link old
  rw [promoted.merged_away here merged] at lost
  exact List.not_mem_nil lost

theorem Promoted.onePrimary (known : Recorded before) (one : OnePrimary before)
    (untaken : before.primaryLinks target = []) : OnePrimary after := by
  have taken := promoted.taken untaken
  refine ⟨fun event => ?_, fun event link mem => ?_⟩
  · by_cases here : event = target
    · rw [here, taken]
      exact Nat.le_refl 1
    · by_cases merged : event ∈ mergeable
      · rw [promoted.merged_away here merged]
        exact Nat.zero_le 1
      · rw [promoted.stays here merged]
        exact one.atMostOne event
  by_cases here : event = target
  · rw [here, taken, List.mem_singleton] at mem
    obtain ⟨sources, stored⟩ := Option.isSome_iff_exists.mp
      (known.recorded target promoted.present)
    refine ⟨⟨incident, some incident⟩, ?_, by rw [mem]⟩
    rw [promoted.origins, if_pos here, here, stored]
    rfl
  · by_cases merged : event ∈ mergeable
    · rw [promoted.merged_away here merged] at mem
      cases mem
    · rw [promoted.stays here merged] at mem
      rw [promoted.origins, if_neg here, if_neg merged]
      exact one.designated event link mem

theorem Promoted.sound_iff (known : Recorded before) (one : OnePrimary before) :
    Sound before after ↔ ∀ event ∈ target :: mergeable, before.primaryLinks event = [] := by
  constructor
  · exact promoted.untaken_of_sound
  intro untaken
  refine ⟨promoted.onePrimary known one (untaken target List.mem_cons_self), ?_⟩
  intro event _ old
  have elsewhere : event ∉ target :: mergeable := by
    intro inside
    rw [untaken event inside] at old
    exact List.not_mem_nil old
  rw [List.mem_cons, not_or] at elsewhere
  rw [promoted.stays elsewhere.1 elsewhere.2]
  exact old

end Promoted

theorem Opened.sound {event : EventId} (opened : Opened before after source event)
    (kind : source.sourceKind = .alert ∨ source.sourceKind = .incident) (known : Recorded before)
    (one : OnePrimary before) : Sound before after := by
  have none_here : before.primaryLinks event = [] := known.placed event opened.fresh
  have stays : ∀ other, other ≠ event →
      after.primaryLinks other = before.primaryLinks other := by
    intro _ elsewhere
    rw [opened.primaries, if_neg fun both => elsewhere both.1, List.append_nil]
  have here : after.primaryLinks event
      = if source.sourceKind ≠ .alert then [⟨source, event, .primary, .unpromoted⟩] else [] := by
    rw [opened.primaries, none_here, List.nil_append]
    simp only [true_and]
  refine ⟨⟨fun other => ?_, fun other link mem => ?_⟩, fun other link old => ?_⟩
  · by_cases same : other = event
    · rw [same, here]
      split_ifs <;> simp
    · rw [stays other same]
      exact one.atMostOne other
  · by_cases same : other = event
    · rw [same, here] at mem
      split_ifs at mem with incident
      · refine ⟨⟨source, creationDispositionRef source⟩, ?_, ?_⟩
        · rw [opened.origins, if_pos same]
        · rw [List.mem_singleton.mp mem]
          exact if_pos kind.symm
      · cases mem
    · rw [stays other same] at mem
      rw [opened.origins, if_neg same]
      exact one.designated other link mem
  · have same : other ≠ event := by
      rintro rfl
      rw [none_here] at old
      exact List.not_mem_nil old
    rw [stays other same]
    exact old

theorem Quiet.sound (quiet : Quiet before after) (one : OnePrimary before) :
    Sound before after := by
  refine ⟨⟨fun event => ?_, fun event link mem => ?_⟩, fun event link old => ?_⟩
  · rw [quiet.primaries]
    exact one.atMostOne event
  · rw [quiet.primaries] at mem
    rw [quiet.origins]
    exact one.designated event link mem
  · rw [quiet.primaries]
    exact old

/-- **One transaction** keeps one primary source for each event exactly when it takes over no event
that has one. -/
theorem StepEffect.sound_iff (effect : StepEffect newId before label after)
    (kind : label.AlertOrIncident) (known : Recorded before) (one : OnePrimary before) :
    Sound before after ↔ Untaken newId before label := by
  unfold Untaken
  cases effect with
  | quiet quiet taken =>
    rw [taken]
    exact iff_of_true (quiet.sound one) (List.forall_mem_nil _)
  | opened entry opened taken =>
    subst entry
    rw [taken]
    exact iff_of_true (opened.sound kind known one) (List.forall_mem_nil _)
  | promoted _ promoted taken =>
    rw [taken]
    exact promoted.sound_iff known one

theorem along_sound_iff {labels : List Label} (kinds : ∀ label ∈ labels, label.AlertOrIncident)
    (known : Recorded before) (one : OnePrimary before) :
    Along (step newId)
        (fun intake label => Sound intake (step newId intake label)) before labels
      ↔ Along (step newId) (Untaken newId) before labels := by
  induction labels generalizing before with
  | nil => exact Iff.rfl
  | cons label _ ih =>
    have effect := step_effect newId before label
    have now := effect.sound_iff (kinds label List.mem_cons_self) known one
    have later := fun sound : Sound before (step newId before label) =>
      ih (fun other mem => kinds other (List.mem_cons_of_mem _ mem)) (effect.recorded known)
        sound.1
    constructor
    · rintro ⟨sound, rest⟩
      exact ⟨now.mp sound, (later sound).mp rest⟩
    · rintro ⟨untaken, rest⟩
      have sound := now.mpr untaken
      exact ⟨sound, (later sound).mpr rest⟩

end Invariants

/-- **One primary source.** Along every schedule of alert and incident ingestions, with whatever
the other services do in between, every committed state has at most one primary link for each event,
the event is written back to the source of that link, and no event loses its primary source to a
later promotion or merge — exactly when no incident takes over an event that has a primary
source. -/
theorem one_primary_iff (newId : NewEventId) (db : Db)
    {labels : List Label} (kinds : ∀ label ∈ labels, label.AlertOrIncident) :
    Along (step newId)
        (fun intake label => Sound intake (step newId intake label)) (Intake.init db) labels
      ↔ Along (step newId) (Untaken newId) (Intake.init db) labels :=
  along_sound_iff kinds (recorded_init db) (onePrimary_init db)

def sampleObject (kind : SourceObjectKind) (id : Nat) : SourceReference := ⟨0, 0, 0, kind, id⟩

def sampleDelivery (reference : SourceReference) (incidentRef : Option SourceReference)
    (relatedAlertRefs : List SourceReference) : Delivery where
  source := ⟨reference, 0, .high, incidentRef, relatedAlertRefs⟩
  pick := fun _ => 0
  policy := .required
  auto := none
  now := 0

def sampleEventId (reference : SourceReference) (_ : Time) : EventId := reference.sourceObjectId

def namedOnce : List Label :=
  [.ingest (sampleDelivery (sampleObject .alert 1) none []),
   .ingest (sampleDelivery (sampleObject .incident 2) none [sampleObject .alert 1])]

theorem one_primary_named_once :
    (∀ label ∈ namedOnce, label.AlertOrIncident)
      ∧ Along (step sampleEventId)
        (fun intake label => Sound intake (step sampleEventId intake label))
        (Intake.init (eventOnly .new)) namedOnce := by
  have kinds : ∀ label ∈ namedOnce, label.AlertOrIncident := by
    intro _ mem
    simp only [namedOnce, List.mem_cons, List.not_mem_nil, or_false] at mem
    obtain rfl | rfl := mem
    · exact .inl rfl
    · exact .inr rfl
  exact ⟨kinds, (one_primary_iff sampleEventId (eventOnly .new) kinds).mpr (by decide)⟩

/-- **Two incidents name one alert.** The second incident takes the event over from the first: the
event has two primary links and is written back to the second incident. -/
theorem one_primary_taken_over :
    let after := run (step sampleEventId) (Intake.init (eventOnly .new))
      (namedOnce ++ [.ingest (sampleDelivery (sampleObject .incident 3) none
        [sampleObject .alert 1])])
    (after.primaryLinks 1).map SourceEventLink.source
        = [sampleObject .incident 2, sampleObject .incident 3]
      ∧ (after.origins.get 1).bind EventSources.dispositionSourceRef
        = some (sampleObject .incident 3)
      ∧ ¬ OnePrimary after := by
  refine ⟨by decide, by decide, fun one => ?_⟩
  exact absurd (one.atMostOne 1) (by decide)

end ShadowTrace.Ingest
