/-
**An incident and its alerts, when all references are mutual.**

Whatever arrives first, the others find it: a late alert finds its incident through its own
`incident_ref`, a late incident finds its alerts through its own `related_alert_refs`, and an object
that is delivered again takes the shortcut for linked objects.
-/

import ShadowTrace.Ingest.Promotion

namespace ShadowTrace.Ingest

open Relational Machine

/-! ### An incident and its alerts -/

/-- An incident and the alerts that explicit references connect to it. -/
structure IncidentCase where
  incident : SourceReference
  alerts : List SourceReference
  named : List SourceReference
  referring : List SourceReference
  incident_kind : incident.sourceKind = .incident
  alert_kind : ∀ alert ∈ alerts, alert.sourceKind = .alert
  named_alerts : ∀ alert ∈ named, alert ∈ alerts
  connected : ∀ alert ∈ alerts, alert ∈ named ∨ alert ∈ referring
  named_valid : ∀ alert ∈ named, validAssociation incident alert .alert = true
  referring_valid : ∀ alert ∈ referring, validAssociation alert incident .incident = true

namespace IncidentCase

section

variable (case : IncidentCase)

def objects : List SourceReference := case.incident :: case.alerts

def incidentRef (alert : SourceReference) : Option SourceReference :=
  if alert ∈ case.referring then some case.incident else none

/-- The delivered object is one of the case, with its references. -/
inductive Carries (source : IngestableSource) : Prop
  | incident (object : source.reference = case.incident) (ref : source.incidentRef = none)
      (related : ∀ alert, alert ∈ source.relatedAlertRefs ↔ alert ∈ case.named)
  | alert (object : source.reference ∈ case.alerts)
      (ref : source.incidentRef = case.incidentRef source.reference)
      (related : source.relatedAlertRefs = [])

/-- Only objects of the case are delivered; the other services do as they like. -/
def Admits : Label → Prop
  | .ingest delivery => case.Carries delivery.source
  | .elsewhere _ => True

/-- The incident names every alert, and every alert refers to it. -/
def Mutual : Prop :=
  ∀ alert ∈ case.alerts, alert ∈ case.named ∧ alert ∈ case.referring

/-- All objects of the case are linked to one event. -/
def Joined (intake : Intake) : Prop :=
  ∃ event, ∀ object ∈ case.objects, ∃ link ∈ intake.links,
    link.source = object ∧ link.event = event

end

end IncidentCase

def Unhindered (intake : Intake) : Label → Prop
  | .ingest delivery => ∀ event ∈ intake.provisionalEvents delivery,
      intake.eventHasMergeBlockers event = false ∧ intake.eventReferenced event = false
  | .elsewhere _ => True

def Delivered (labels : List Label) (object : SourceReference) : Prop :=
  ∃ delivery, Label.ingest delivery ∈ labels ∧ delivery.ref = object

section

variable (newId : NewEventId) (case : IncidentCase)

/-- The objects of the case open different events. -/
def DistinctEventIds : Prop :=
  ∀ first ∈ case.objects, ∀ second ∈ case.objects, ∀ time other,
    newId first time = newId second other → first = second

/-- **Confluence.** In whatever order and however often the objects arrive, they end up linked to
the same event, provided no merge was blocked. -/
def Confluent : Prop :=
  ∀ db labels, (∀ label ∈ labels, case.Admits label) →
    (∀ object ∈ case.objects, Delivered labels object) →
    Along (step newId) Unhindered (Intake.init db) labels →
    case.Joined (run (step newId) (Intake.init db) labels)

end

section Objects

variable {case : IncidentCase} {source : IngestableSource}

theorem IncidentCase.incident_not_alert (case : IncidentCase) : case.incident ∉ case.alerts := by
  intro mem
  have both := (case.alert_kind _ mem).symm.trans case.incident_kind
  cases both

theorem IncidentCase.Carries.mem_objects (carries : case.Carries source) :
    source.reference ∈ case.objects := by
  cases carries with
  | incident object => exact List.mem_cons.mpr (.inl object)
  | alert object => exact List.mem_cons_of_mem _ object

theorem IncidentCase.Carries.is_incident (carries : case.Carries source)
    (kind : source.reference.sourceKind = .incident) :
    source.reference = case.incident := by
  cases carries with
  | incident object => exact object
  | alert object =>
    rw [case.alert_kind _ object] at kind
    cases kind

theorem IncidentCase.Carries.valid (carries : case.Carries source) :
    validateExplicitAssociations source = .ok () := by
  rw [validateExplicitAssociations_eq_ok]
  unfold IngestableSource.associations
  cases carries with
  | incident object ref related =>
    rw [ref, object]
    rintro ⟨alert, kind⟩ mem
    simp only [Option.toList_none, List.map_nil, List.nil_append, List.mem_map]
      at mem
    obtain ⟨alert, mem, rfl, rfl⟩ := mem
    exact case.named_valid alert ((related alert).mp mem)
  | alert _ ref related =>
    rw [ref, related]
    unfold IncidentCase.incidentRef
    split_ifs with refers
    · rintro entry mem
      simp only [Option.toList_some, List.map_cons, List.map_nil, List.append_nil,
        List.mem_singleton] at mem
      rw [mem]
      exact case.referring_valid _ refers
    · rintro entry mem
      simp at mem

end Objects

/-! ### Mutual references -/

def Linked (intake : Intake) (object : SourceReference) : Prop :=
  ∃ link ∈ intake.links, link.source = object

/-- The incident has not arrived: each alert is in a provisional event. -/
structure Waiting (case : IncidentCase) (intake : Intake) : Prop where
  absent : ¬ Linked intake case.incident
  provisional : ∀ link ∈ intake.links, link.role = .provisional
  single : ∀ first ∈ intake.links, ∀ second ∈ intake.links, first.source = second.source →
    first.event = second.event

/-- Every link goes to the event of the incident. -/
structure United (case : IncidentCase) (intake : Intake) (event : EventId) : Prop where
  together : ∀ link ∈ intake.links, link.event = event
  primary : ∃ link ∈ intake.links, link.source = case.incident ∧ link.role = .primary

/-- The invariant while the objects of a case arrive. -/
structure Gathered (newId : NewEventId) (case : IncidentCase)
    (intake : Intake) : Prop where
  objects : ∀ link ∈ intake.links, link.source ∈ case.objects
  known : ∀ link ∈ intake.links, intake.known link.source = true
  alive : ∀ link ∈ intake.links, intake.eventExists link.event = true
  named : ∀ event, intake.eventExists event = true →
    ∃ object ∈ case.objects, Linked intake object ∧ ∃ time, event = newId object time
  phase : Waiting case intake ∨ ∃ event, United case intake event

section Gather

variable {newId : NewEventId} {case : IncidentCase}
  {intake after : Intake} {delivery : Delivery} {link : SourceEventLink}

theorem linksOf_eq_nil_iff {object : SourceReference} :
    intake.linksOf object = [] ↔ ¬ Linked intake object := by
  simp [linksOf_eq_nil, Linked]

theorem Waiting.found (waiting : Waiting case intake) (gathered : Gathered newId case intake)
    (mem : link ∈ intake.links) (pick : SourceReference → Nat) :
    intake.provisionalEvent pick link.source = some link.event := by
  have some_link : intake.linksOf link.source ≠ [] := by
    rw [Ne, linksOf_eq_nil_iff, not_not]
    exact ⟨link, mem, rfl⟩
  obtain ⟨picked, inside, chosen⟩ := limitOne_of_ne_nil (pick link.source) some_link
  obtain ⟨stored, same⟩ := mem_linksOf.mp inside
  have event : picked.event = link.event := waiting.single picked stored link mem same
  have present : intake.eventExists picked.event = true := gathered.alive picked stored
  have role : picked.role = .provisional := waiting.provisional picked stored
  unfold Intake.provisionalEvent
  rw [if_pos (gathered.known link mem), chosen]
  dsimp only
  rw [present, role, event]
  rfl

variable {event : EventId}

theorem United.found (united : United case intake event)
    (gathered : Gathered newId case intake) (pick : SourceReference → Nat) :
    intake.incidentEvent pick case.incident = some event := by
  obtain ⟨link, mem, same, role⟩ := united.primary
  have some_link : (intake.linksOf case.incident).filter
      (fun link => link.role == .primary || link.role == .provisional) ≠ [] := by
    refine List.ne_nil_of_mem (a := link) (List.mem_filter.mpr ⟨mem_linksOf.mpr ⟨mem, same⟩, ?_⟩)
    rw [role]
    rfl
  obtain ⟨picked, inside, chosen⟩ := limitOne_of_ne_nil (pick case.incident) some_link
  obtain ⟨stored, -⟩ := mem_linksOf.mp (List.mem_filter.mp inside).1
  have known : intake.known case.incident = true := same ▸ gathered.known link mem
  have present : intake.eventExists picked.event = true := gathered.alive picked stored
  unfold Intake.incidentEvent
  rw [if_pos known, chosen]
  dsimp only
  rw [if_pos present, united.together picked stored]

theorem Gathered.waiting (gathered : Gathered newId case intake)
    (unlinked : intake.linksOf case.incident = []) : Waiting case intake := by
  obtain waiting | ⟨_, united⟩ := gathered.phase
  · exact waiting
  · obtain ⟨link, mem, same, -⟩ := united.primary
    exact absurd ⟨link, mem, same⟩ (linksOf_eq_nil_iff.mp unlinked)

theorem gathered_init (db : Db) : Gathered newId case (Intake.init db) where
  objects := List.forall_mem_nil _
  known := List.forall_mem_nil _
  alive := List.forall_mem_nil _
  named event present := by simp [Intake.eventExists, Intake.init] at present
  phase := .inl
    { absent := fun ⟨_, mem, _⟩ => absurd mem List.not_mem_nil
      provisional := List.forall_mem_nil _
      single := List.forall_mem_nil _ }

theorem Gathered.of_same (gathered : Gathered newId case intake)
    (links : after.links = intake.links)
    (sources : ∀ object, intake.known object = true → after.known object = true)
    (existing : ∀ event, after.eventExists event = intake.eventExists event) :
    Gathered newId case after := by
  -- the links are all that the phases read
  obtain ⟨⟩ := after
  subst links
  refine ⟨gathered.objects, fun link mem => sources _ (gathered.known link mem),
    fun link mem => (existing _).trans (gathered.alive link mem),
    fun event present => gathered.named event ((existing event).symm.trans present), ?_⟩
  obtain waiting | ⟨event, united⟩ := gathered.phase
  · exact .inl ⟨waiting.absent, waiting.provisional, waiting.single⟩
  · exact .inr ⟨event, united.together, united.primary⟩

theorem forall_links_append {holds : SourceEventLink → Prop}
    (links : after.links = intake.links ++ [link]) (old : ∀ link ∈ intake.links, holds link)
    (new : holds link) : ∀ link ∈ after.links, holds link := by
  rw [links]
  exact List.forall_mem_append.mpr ⟨old, List.forall_mem_singleton.mpr new⟩

/-- A delivery keeps what is linked, and links its object. -/
structure Gathers (newId : NewEventId) (case : IncidentCase)
    (intake after : Intake) (object : SourceReference) : Prop where
  gathered : Gathered newId case after
  keeps : ∀ other, Linked intake other → Linked after other
  linked : Linked after object

theorem Gathered.append (gathered : Gathered newId case intake)
    (links : after.links = intake.links ++ [link]) (object : link.source ∈ case.objects)
    (sources : ∀ object, intake.known object = true → after.known object = true)
    (known : after.known link.source = true) (existing : ∀ event, after.eventExists event
      = (intake.eventExists event || event == link.event))
    (name : intake.eventExists link.event = true ∨ ∃ time, link.event = newId link.source time)
    (phase : Waiting case after ∨ ∃ event, United case after event) :
    Gathers newId case intake after link.source := by
  have linked : Linked after link.source :=
    ⟨link, by rw [links]; exact List.mem_append_right _ List.mem_cons_self, rfl⟩
  have stays : ∀ object, Linked intake object → Linked after object := by
    rintro _ ⟨old, mem, same⟩
    exact ⟨old, by rw [links]; exact List.mem_append_left _ mem, same⟩
  refine ⟨⟨forall_links_append links gathered.objects object, forall_links_append links
    (fun other old => sources _ (gathered.known other old)) known,
    forall_links_append links (fun other old => ?_) ?_, ?_, phase⟩, stays, linked⟩
  · rw [existing, gathered.alive other old, Bool.true_or]
  · rw [existing, beq_self_eq_true, Bool.or_true]
  intro event present
  rw [existing, Bool.or_eq_true, beq_iff_eq] at present
  have old : intake.eventExists event = true → ∃ object ∈ case.objects, Linked after object
      ∧ ∃ time, event = newId object time := by
    intro there
    obtain ⟨object, mem, linked, time, named⟩ := gathered.named event there
    exact ⟨object, mem, stays object linked, time, named⟩
  obtain there | rfl := present
  · exact old there
  · obtain there | ⟨time, named⟩ := name
    · exact old there
    · exact ⟨link.source, object, linked, time, named⟩

theorem upsertSource_known (intake : Intake) (source : SourceReference) :
    (intake.upsertSource source).known source = true
      ∧ ∀ object, intake.known object = true →
        (intake.upsertSource source).known object = true := by
  unfold Intake.upsertSource Intake.known
  by_cases there : source ∈ intake.sources
  · simp [there]
  · simp only [there, if_false, decide_eq_true_eq, List.mem_cons, true_or, true_and]
    exact fun _ => .inr

theorem attachIntent_sources (intake : Intake) (delivery : Delivery) (event : EventId) :
    (intake.attachIntent delivery event).sources = intake.sources := by
  unfold Intake.attachIntent
  split <;> rfl

/-- An object is recorded, with an event of its own. -/
structure Arrives (newId : NewEventId) (delivery : Delivery)
    (intake after : Intake) : Prop where
  links : after.links = intake.links ++ [Intake.createdLink newId delivery]
  sources : after.sources = (intake.upsertSource delivery.ref).sources
  existing : ∀ event, after.eventExists event = (intake.eventExists event
    || event == newId delivery.ref delivery.source.occurredAt)

theorem create_commits (newId : NewEventId) (delivery : Delivery)
    (fresh : intake.eventExists (newId delivery.ref delivery.source.occurredAt) = false) :
    ∃ after, (intake.upsertSource delivery.ref).commit newId delivery .create
        = .ok after ∧ Arrives newId delivery intake after := by
  have created : (intake.upsertSource delivery.ref).createNewEvent newId delivery
      = _ := if_neg (ne_true_of_eq_false fresh)
  refine ⟨_, rfl, (attachIntent_eq _ _ _).1.trans (congrArg Intake.links created),
    (attachIntent_sources _ _ _).trans (by rw [created]),
    fun event => ((attachIntent_quiet _ _ _).existing event).trans ?_⟩
  rw [created]
  unfold Intake.eventExists
  rw [Table.get_set]
  split_ifs with here
  · simp [here]
  · simp [here, Intake.upsertSource]

section Deliveries

variable (distinct : DistinctEventIds newId case) (gathered : Gathered newId case intake)
  (carries : case.Carries delivery.source)
  (unlinked : intake.linksOf delivery.ref = [])

include distinct gathered carries unlinked in
theorem fresh_of_unlinked (time : Time) :
    intake.eventExists (newId delivery.ref time) = false := by
  by_contra taken
  rw [Bool.not_eq_false] at taken
  obtain ⟨_, mem, linked, _, same⟩ := gathered.named _ taken
  have equal : delivery.ref = _ := distinct _ carries.mem_objects _ mem _ _ same
  exact linksOf_eq_nil_iff.mp unlinked (equal ▸ linked)

include distinct gathered carries unlinked in
theorem create_gathers
    (waits : Waiting case intake)
    (first : delivery.ref = case.incident → intake.links = []) :
    ∃ after, (intake.upsertSource delivery.ref).commit newId delivery .create
        = .ok after
      ∧ Gathers newId case intake after delivery.ref := by
  obtain ⟨after, committed, links, sources, existing⟩ := create_commits newId delivery
    (fresh_of_unlinked distinct gathered carries unlinked delivery.source.occurredAt)
  have known : after.known delivery.ref = true
      ∧ ∀ object, intake.known object = true → after.known object = true := by
    unfold Intake.known
    rw [sources]
    exact upsertSource_known intake delivery.ref
  refine ⟨after, committed, gathered.append links carries.mem_objects known.2 known.1 existing
    (.inr ⟨_, rfl⟩) ?_⟩
  cases carries with
  | incident object =>
    rw [first object, List.nil_append] at links
    refine .inr ⟨newId delivery.ref delivery.source.occurredAt, ?_, ?_⟩
    · intro _ mem
      rw [links, List.mem_singleton] at mem
      rw [mem]
      rfl
    · refine ⟨_, by rw [links]; exact List.mem_cons_self, object, ?_⟩
      show creationRole delivery.source.reference.sourceKind = .primary
      rw [object, case.incident_kind]
      rfl
  | alert object =>
    have split : ∀ link, link ∈ after.links ↔ link ∈ intake.links
        ∨ link = Intake.createdLink newId delivery := by
      intro _
      rw [links, List.mem_append, List.mem_singleton]
    have unseen : ∀ link ∈ intake.links, link.source ≠ delivery.ref :=
      linksOf_eq_nil.mp unlinked
    refine .inl ⟨?_, ?_, ?_⟩
    · rintro ⟨link, mem, same⟩
      obtain old | rfl := (split link).mp mem
      · exact waits.absent ⟨link, old, same⟩
      · have alert : case.incident ∈ case.alerts := same ▸ object
        exact case.incident_not_alert alert
    · refine forall_links_append links waits.provisional ?_
      show creationRole delivery.ref.sourceKind = .provisional
      rw [case.alert_kind _ object]
      rfl
    intro link mem other also same
    obtain old | rfl := (split link).mp mem
    · obtain old' | rfl := (split other).mp also
      · exact waits.single link old other old' same
      · exact absurd same (unseen link old)
    · obtain old' | rfl := (split other).mp also
      · exact absurd same.symm (unseen other old')
      · rfl

end Deliveries

theorem relate_gathers (gathered : Gathered newId case intake)
    (carries : case.Carries delivery.source) (united : United case intake event) :
    ∃ after, (intake.upsertSource delivery.ref).commit newId delivery
        (.relate event) = .ok after
      ∧ Gathers newId case intake after delivery.ref := by
  obtain ⟨known, sources⟩ := upsertSource_known intake delivery.ref
  obtain ⟨first, stored, same, role⟩ := united.primary
  have present : intake.eventExists event = true :=
    united.together first stored ▸ gathered.alive first stored
  refine ⟨_, rfl, @Gathered.append _ _ _ _ ⟨_, event, .related, .unpromoted⟩ gathered rfl
    carries.mem_objects sources known ?_ (.inl present) ?_⟩
  · intro other
    refine (touchEvent_exists _ other).trans ?_
    by_cases here : other = event
    · rw [here, beq_self_eq_true, Bool.or_true]
      exact present
    · rw [beq_eq_false_iff_ne.mpr here, Bool.or_false]
      rfl
  · exact .inr ⟨event, forall_links_append rfl united.together rfl, first,
      List.mem_append_left _ stored, same, role⟩

theorem mem_flip {links : List SourceEventLink} {target : EventId}
    (mem : link ∈ links.map (flipPromotion target)) :
    ∃ old ∈ links, old.source = link.source ∧ old.event = link.event := by
  obtain ⟨old, stored, rfl⟩ := List.mem_map.mp mem
  refine ⟨old, stored, ?_⟩
  unfold flipPromotion
  split_ifs <;> exact ⟨rfl, rfl⟩

theorem flip_mem {links : List SourceEventLink} (target : EventId) (mem : link ∈ links) :
    ∃ now ∈ links.map (flipPromotion target), now.source = link.source := by
  refine ⟨flipPromotion target link, List.mem_map_of_mem mem, ?_⟩
  unfold flipPromotion
  split_ifs <;> rfl

theorem mergeAll_sources (intake : Intake) (target : EventId) (mergeable : List EventId) :
    (intake.mergeAll target mergeable).sources = intake.sources := by
  induction mergeable generalizing intake with
  | nil => rfl
  | cons _ _ ih => exact ih ..

section Promotion

variable {target : EventId} {mergeable : List EventId}

theorem promote_links (intake : Intake) (delivery : Delivery) (target : EventId)
    (mergeable blocked : List EventId) : (intake.promote delivery target mergeable blocked).links
      = Intake.promotionLinks (intake.mergeAll target mergeable).links delivery.ref
        target blocked :=
  (attachIntent_eq _ _ _).1

theorem promote_known (intake : Intake) (delivery : Delivery) (target : EventId)
    (mergeable blocked : List EventId) (object : SourceReference) :
    (intake.promote delivery target mergeable blocked).known object = intake.known object := by
  have same : (intake.promote delivery target mergeable blocked).sources = intake.sources :=
    (attachIntent_sources _ _ _).trans (mergeAll_sources intake target mergeable)
  rw [Intake.known, same, Intake.known]

theorem promote_mem (apart : target ∉ mergeable)
    (complete : ∀ link ∈ intake.links, link.event ∈ target :: mergeable) {link : SourceEventLink}
    (mem : link ∈ (intake.promote delivery target mergeable []).links) :
    link.event = target
      ∧ (link.source = delivery.ref ∨ Linked intake link.source) := by
  rw [promote_links, Intake.promotionLinks, List.map_nil, List.mem_append, List.mem_singleton]
    at mem
  obtain flipped | rfl := mem
  · obtain ⟨merged, inside, source, event⟩ := mem_flip flipped
    rw [← source, ← event]
    obtain ⟨unmerged, stored | ⟨moved, old, stored, same, -⟩⟩ := mem_mergeAll apart inside
    · have here := (List.mem_cons.mp (complete merged stored)).resolve_right unmerged
      exact ⟨here, .inr ⟨merged, stored, rfl⟩⟩
    · exact ⟨moved, .inr ⟨old, stored, same⟩⟩
  · exact ⟨rfl, .inl rfl⟩

theorem promote_linked (apart : target ∉ mergeable) {object : SourceReference}
    (linked : Linked intake object) :
    Linked (intake.promote delivery target mergeable []) object := by
  have merged : Linked (intake.mergeAll target mergeable) object := by
    obtain ⟨link, stored, same⟩ := linked
    by_cases inside : link.event ∈ mergeable
    · obtain ⟨moved, mem, source, -⟩ := mergeAll_moves apart stored inside
      exact ⟨moved, mem, source.trans same⟩
    · exact ⟨link, mergeAll_keeps stored inside, same⟩
  obtain ⟨_, stored, same⟩ := merged
  obtain ⟨now, mem, source⟩ := flip_mem target stored
  refine ⟨now, ?_, source.trans same⟩
  rw [promote_links, Intake.promotionLinks]
  exact List.mem_append_left _ mem

theorem promote_gathers (gathered : Gathered newId case intake)
    (object : delivery.ref = case.incident)
    (known : intake.known delivery.ref = true)
    (apart : target ∉ mergeable) (present : intake.eventExists target = true)
    (complete : ∀ link ∈ intake.links, link.event ∈ target :: mergeable) :
    Gathers newId case intake (intake.promote delivery target mergeable [])
      delivery.ref := by
  have effect := promote_effect delivery [] present apart
  have survives :
      (intake.promote delivery target mergeable []).eventExists target = true := by
    rw [effect.existing, present, decide_eq_true apart]
    rfl
  have primary : (⟨delivery.ref, target, .primary, .promoted⟩ : SourceEventLink)
      ∈ (intake.promote delivery target mergeable []).links := by
    rw [promote_links]
    exact List.mem_append_right _ List.mem_cons_self
  refine ⟨⟨?_, ?_, ?_, ?_, ?_⟩, fun _ => promote_linked apart, _, primary, rfl⟩
  · intro _ mem
    obtain ⟨-, source | ⟨old, stored, same⟩⟩ := promote_mem apart complete mem
    · rw [source, object]
      exact List.mem_cons_self
    · rw [← same]
      exact gathered.objects old stored
  · intro _ mem
    rw [promote_known]
    obtain ⟨-, source | ⟨old, stored, same⟩⟩ := promote_mem apart complete mem
    · rw [source]
      exact known
    · rw [← same]
      exact gathered.known old stored
  · intro _ mem
    rw [(promote_mem apart complete mem).1]
    exact survives
  · intro event there
    rw [effect.existing, Bool.and_eq_true] at there
    obtain ⟨named, mem, linked, time, name⟩ := gathered.named event there.1
    exact ⟨named, mem, promote_linked apart linked, time, name⟩
  · refine .inr ⟨target, fun link mem => (promote_mem apart complete mem).1, ?_⟩
    exact ⟨_, primary, object, rfl⟩

end Promotion

/-! ### The routes of a delivery -/

section

variable (mutual_ : case.Mutual) (gathered : Gathered newId case intake)
  (carries : case.Carries delivery.source)

include mutual_ gathered carries

theorem Waiting.finds (waiting : Waiting case intake)
    (object : delivery.source.reference = case.incident) :
    ∀ link ∈ intake.links, link.event ∈ intake.provisionalEvents delivery := by
  intro link mem
  have alert : link.source ∈ case.alerts :=
    (List.mem_cons.mp (gathered.objects link mem)).resolve_left fun same =>
      waiting.absent ⟨link, mem, same⟩
  refine mem_provisionalEvents.mpr ⟨link.source, ?_, waiting.found gathered mem _⟩
  cases carries with
  | incident _ _ related => exact (related _).mpr (mutual_ _ alert).1
  | alert inside =>
    rw [object] at inside
    exact absurd inside case.incident_not_alert

theorem waiting_of_orphan (unlinked : intake.linksOf delivery.ref = [])
    (orphan : intake.parentEvent delivery = none) : Waiting case intake := by
  obtain waiting | ⟨_, united⟩ := gathered.phase
  · exact waiting
  cases carries with
  | incident object => exact gathered.waiting (object ▸ unlinked)
  | alert object ref =>
    have found := united.found gathered delivery.pick
    rw [Intake.parentEvent, if_pos (by rw [case.alert_kind _ object]; decide), ref,
      IncidentCase.incidentRef, if_pos (mutual_ _ object).2, Option.bind_some, found] at orphan
    cases orphan

omit mutual_

theorem united_of_parent {incident : SourceReference}
    (named : delivery.source.incidentRef = some incident)
    (found : intake.incidentEvent delivery.pick incident = some event) :
    United case intake event := by
  have same : incident = case.incident := by
    cases carries with
    | incident _ ref =>
      rw [ref] at named
      cases named
    | alert _ ref =>
      rw [ref, IncidentCase.incidentRef] at named
      split_ifs at named
      exact (Option.some.inj named).symm
  subst same
  obtain waiting | ⟨_, united⟩ := gathered.phase
  · obtain ⟨⟨link, mem, source, -⟩, -⟩ := incidentEvent_eq_some found
    exact absurd ⟨link, mem, source⟩ waiting.absent
  · obtain rfl := Option.some.inj ((united.found gathered _).symm.trans found)
    exact united

end

section Unhindered

variable (unhindered : Unhindered intake (.ingest delivery))

include unhindered

theorem Unhindered.none_blocked :
    (intake.provisionalEvents delivery).filter intake.eventHasMergeBlockers = [] :=
  List.filter_eq_nil_iff.mpr fun event mem => by
    rw [(unhindered event mem).1]
    exact Bool.false_ne_true

theorem Unhindered.all_mergeable :
    (intake.provisionalEvents delivery).filter (!intake.eventHasMergeBlockers ·)
      = intake.provisionalEvents delivery :=
  List.filter_eq_self.mpr fun event mem => by
    rw [(unhindered event mem).1]
    rfl

theorem Unhindered.none_referenced {mergeable : List EventId}
    (inside : ∀ event ∈ mergeable, event ∈ intake.provisionalEvents delivery) :
    mergeable.any (intake.upsertSource delivery.ref).eventReferenced = false := by
  rw [List.any_eq_false]
  intro event mem
  rw [Bool.not_eq_true]
  exact (unhindered event (inside event mem)).2

end Unhindered

section

variable (distinct : DistinctEventIds newId case) (mutual_ : case.Mutual)
  (gathered : Gathered newId case intake)

include distinct mutual_ gathered

/-- **The delivery of an object**, when all references are mutual and no work is in the way. -/
theorem ingest_gathers (carries : case.Carries delivery.source)
    (unhindered : Unhindered intake (.ingest delivery)) :
    ∃ after, intake.ingest newId delivery = .ok after
      ∧ Gathers newId case intake after delivery.ref := by
  suffices commits : ∃ after, (intake.upsertSource delivery.ref).commit newId
      delivery (intake.route delivery) = .ok after
      ∧ Gathers newId case intake after delivery.ref by
    obtain ⟨after, committed, gathers⟩ := commits
    exact ⟨after, ingest_eq_ok.mpr ⟨carries.valid, committed⟩, gathers⟩
  obtain ⟨known, sources⟩ := upsertSource_known intake delivery.ref
  have upserted : Gathered newId case (intake.upsertSource delivery.ref) :=
    gathered.of_same rfl sources fun _ => rfl
  have read := route_reads intake delivery
  generalize intake.route delivery = route at read ⊢
  cases read with
  | idempotent linked =>
    refine ⟨_, rfl, upserted, fun _ stays => stays, ?_⟩
    by_contra unlinked
    exact linked (linksOf_eq_nil_iff.mpr unlinked)
  | relate _ named found =>
    exact relate_gathers gathered carries (united_of_parent gathered carries named found)
  | @promote target mergeable blocked unlinked kind pristine apart =>
    have object := carries.is_incident kind
    have waiting := gathered.waiting (object ▸ unlinked)
    obtain ⟨alone, present⟩ := promotion_target pristine
    rw [unhindered.all_mergeable] at pristine
    rw [unhindered.none_blocked] at apart
    subst apart
    have inside : ∀ event ∈ mergeable, event ∈ intake.provisionalEvents delivery :=
      fun event mem => pristine ▸ List.mem_cons_of_mem _ mem
    have unreferenced := unhindered.none_referenced inside
    have gathers := promote_gathers upserted object known alone present
      (by rw [pristine]; exact waiting.finds mutual_ gathered carries object)
    refine ⟨_, ?_, gathers.gathered, gathers.keeps, gathers.linked⟩
    simp only [Intake.commit, unreferenced, Bool.false_eq_true, if_false]
  | separate _ _ some_event blocked =>
    obtain ⟨event, mem⟩ := List.exists_mem_of_ne_nil _ some_event
    have clear := (unhindered event mem).1
    rw [blocked event mem] at clear
    cases clear
  | create unlinked orphan alone =>
    have waiting := waiting_of_orphan mutual_ gathered carries unlinked orphan
    refine create_gathers distinct gathered carries unlinked waiting fun object => ?_
    refine List.eq_nil_iff_forall_not_mem.mpr fun link mem => ?_
    have inside := waiting.finds mutual_ gathered carries object link mem
    rw [alone (by rw [object]; exact case.incident_kind)] at inside
    exact List.not_mem_nil inside

theorem step_gathered {label : Label} (admits : case.Admits label)
    (unhindered : Unhindered intake label) : Gathered newId case (step newId intake label)
      ∧ ∀ object, Linked intake object ∨ Delivered [label] object →
        Linked (step newId intake label) object := by
  cases label with
  | elsewhere change =>
    have quiet := elsewhere_quiet intake change
    refine ⟨gathered.of_same rfl (fun _ known => known) quiet.existing, ?_⟩
    rintro _ (linked | ⟨_, mem, -⟩)
    · exact linked
    · simp at mem
  | ingest delivery =>
    obtain ⟨after, done, gathers⟩ := ingest_gathers distinct mutual_ gathered admits unhindered
    have stepped : step newId intake (.ingest delivery) = after := by simp only [step, done]
    rw [stepped]
    refine ⟨gathers.gathered, ?_⟩
    rintro object (linked | ⟨_, mem, rfl⟩)
    · exact gathers.keeps object linked
    · obtain rfl := Label.ingest.inj (List.mem_singleton.mp mem)
      exact gathers.linked

/-- **A whole schedule.** Every object that is delivered is linked, and stays so. -/
theorem run_gathered {labels : List Label} (admits : ∀ label ∈ labels, case.Admits label)
    (unhindered : Along (step newId) Unhindered intake labels) :
    Gathered newId case (run (step newId) intake labels)
      ∧ ∀ object, Linked intake object ∨ Delivered labels object →
        Linked (run (step newId) intake labels) object := by
  induction labels generalizing intake with
  | nil =>
    refine ⟨gathered, ?_⟩
    rintro _ (linked | ⟨_, mem, -⟩)
    · exact linked
    · cases mem
  | cons label _ ih =>
    obtain ⟨now, links⟩ := step_gathered distinct mutual_ gathered (admits label List.mem_cons_self)
      unhindered.1
    obtain ⟨then_, stays⟩ := ih now
      (fun other mem => admits other (List.mem_cons_of_mem _ mem)) unhindered.2
    refine ⟨then_, ?_⟩
    rintro object (linked | ⟨delivery, mem, same⟩)
    · exact stays object (.inl (links object (.inl linked)))
    obtain here | later := List.mem_cons.mp mem
    · have linked := links object (.inr ⟨delivery, List.mem_singleton.mpr here, same⟩)
      exact stays object (.inl linked)
    · exact stays object (.inr ⟨delivery, later, same⟩)

end

end Gather

theorem confluent_of_mutual {newId : NewEventId} {case : IncidentCase}
    (distinct : DistinctEventIds newId case) (mutual_ : case.Mutual) :
    Confluent newId case := by
  intro db _ admits delivered unhindered
  obtain ⟨gathered, linked⟩ :=
    run_gathered distinct mutual_ (gathered_init db) admits unhindered
  have arrived := linked case.incident (.inr (delivered _ List.mem_cons_self))
  obtain waiting | ⟨event, united⟩ := gathered.phase
  · exact absurd arrived waiting.absent
  · refine ⟨event, fun object mem => ?_⟩
    obtain ⟨link, stored, same⟩ := linked object (.inr (delivered object mem))
    exact ⟨link, stored, same, united.together link stored⟩

end ShadowTrace.Ingest
