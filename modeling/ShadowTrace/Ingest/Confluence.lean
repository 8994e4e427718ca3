/-
**The order in which an incident and its alerts arrive.**

A reference can stand on either side: an alert may name its incident, an incident its alerts.
Ingestion follows each reference in one direction only, and only when the object that carries it
arrives. So the order of arrival does not matter exactly when every alert and the incident name
each other.
-/

import ShadowTrace.Ingest.Gathering

namespace ShadowTrace.Ingest

open Intents Machine

/-! ### A missing reference -/

namespace IncidentCase

def deliver (case : IncidentCase) (object : SourceReference) : Delivery where
  source :=
    { reference := object
      occurredAt := 0
      severity := .high
      incidentRef := if object = case.incident then none else case.incidentRef object
      relatedAlertRefs := if object = case.incident then case.named else [] }
  pick := fun _ => 0
  policy := .required
  auto := none
  now := 0

theorem deliver_carries (case : IncidentCase) {object : SourceReference}
    (mem : object ∈ case.objects) : case.Carries (case.deliver object).source := by
  by_cases same : object = case.incident
  · refine .incident same (if_pos same) fun alert => ?_
    simp only [deliver, if_pos same]
  · exact .alert ((List.mem_cons.mp mem).resolve_left same) (if_neg same) (if_neg same)

end IncidentCase

section Scatter

variable {newId : NewEventId} {case : IncidentCase} {intake : Intake}
  {delivery : Delivery} {alert object : SourceReference}

theorem provisionalEvents_eq_nil
    (unknown : ∀ alert ∈ delivery.source.relatedAlertRefs, intake.known alert = false) :
    intake.provisionalEvents delivery = [] := by
  refine List.eq_nil_iff_forall_not_mem.mpr fun event mem => ?_
  obtain ⟨alert, named, found⟩ := mem_provisionalEvents.mp mem
  rw [Intake.provisionalEvent, unknown alert named] at found
  cases found

theorem route_create (unlinked : intake.linksOf delivery.ref = [])
    (orphan : intake.parentEvent delivery = none)
    (alone : intake.provisionalEvents delivery = []) : intake.route delivery = .create := by
  unfold Intake.route Intake.promotion
  rw [if_neg (not_not.mpr unlinked), orphan, alone]
  simp

theorem step_create (newId : NewEventId)
    (carries : case.Carries delivery.source)
    (created : intake.route delivery = .create)
    (fresh : intake.eventExists (newId delivery.ref delivery.source.occurredAt) = false) :
    Arrives newId delivery intake (step newId intake (.ingest delivery)) := by
  obtain ⟨after, committed, left⟩ := create_commits newId delivery fresh
  rw [← created] at committed
  have done : intake.ingest newId delivery = .ok after :=
    ingest_eq_ok.mpr ⟨carries.valid, committed⟩
  simp only [step, done]
  exact left

theorem linksOf_append {links : List SourceEventLink} {link : SourceEventLink}
    (other : link.source ≠ object) :
    (links ++ [link]).filter (fun row => row.source == object)
      = links.filter (fun row => row.source == object) := by
  rw [List.filter_append, List.filter_singleton, beq_eq_false_iff_ne.mpr other]
  exact List.append_nil _

theorem alert_keeps (newId : NewEventId) (delivery : Delivery)
    (kind : delivery.ref.sourceKind = .alert) (linked : intake.linksOf object ≠ []) :
    (step newId intake (.ingest delivery)).linksOf object = intake.linksOf object := by
  unfold step
  dsimp only
  cases done : intake.ingest newId delivery with
  | error => rfl
  | ok =>
    have committed := (ingest_eq_ok.mp done).2
    have read := route_reads intake delivery
    have other : intake.linksOf delivery.ref = [] →
        delivery.ref ≠ object := by
      rintro unlinked rfl
      exact linked unlinked
    generalize intake.route delivery = route at committed read
    cases read with
    | idempotent =>
      cases committed
      rfl
    | relate unlinked =>
      cases committed
      exact linksOf_append (other unlinked)
    | promote _ incident | separate _ incident =>
      rw [kind] at incident
      cases incident
    | create unlinked =>
      cases committed
      unfold Intake.linksOf
      rw [(attachIntent_eq _ _ _).1]
      unfold Intake.createNewEvent
      dsimp only
      split_ifs
      all_goals exact linksOf_append (other unlinked)

theorem alerts_keep {alerts : List SourceReference} (inside : ∀ alert ∈ alerts, alert ∈ case.alerts)
    (linked : intake.linksOf object ≠ []) :
    (run (step newId) intake
      (alerts.map fun alert => .ingest (case.deliver alert))).linksOf object
        = intake.linksOf object := by
  induction alerts generalizing intake with
  | nil => rfl
  | cons alert _ ih =>
    have kept := alert_keeps newId (case.deliver alert)
      (case.alert_kind alert (inside alert List.mem_cons_self)) linked
    rw [List.map_cons, run_cons, ih (fun other mem =>
      inside other (List.mem_cons_of_mem _ mem)) (by rw [kept]; exact linked), kept]

theorem alert_unhindered (mem : alert ∈ case.alerts) :
    intake.provisionalEvents (case.deliver alert) = [] := by
  refine provisionalEvents_eq_nil fun other named => ?_
  have not_incident := ne_of_mem_of_not_mem mem case.incident_not_alert
  simp only [IncidentCase.deliver, if_neg not_incident] at named
  cases named

theorem alerts_unhindered {alerts : List SourceReference}
    (inside : ∀ alert ∈ alerts, alert ∈ case.alerts) :
    Along (step newId) Unhindered intake
      (alerts.map fun alert => .ingest (case.deliver alert)) := by
  induction alerts generalizing intake with
  | nil => trivial
  | cons alert _ ih =>
    refine ⟨fun event mem => ?_, ih fun other later => ?_⟩
    · rw [alert_unhindered (inside alert List.mem_cons_self)] at mem
      cases mem
    · exact inside other (List.mem_cons_of_mem _ later)

theorem first_delivery (newId : NewEventId) (db : Db)
    (inside : object ∈ case.objects) :
    Arrives newId (case.deliver object) (Intake.init db)
      (step newId (Intake.init db) (.ingest (case.deliver object))) := by
  have created : (Intake.init db).route (case.deliver object) = .create := by
    refine route_create rfl ?_ (provisionalEvents_eq_nil fun _ _ => rfl)
    unfold Intake.parentEvent
    split_ifs
    · exact Option.bind_eq_none_iff.mpr fun _ _ => rfl
    · rfl
  exact step_create newId (case.deliver_carries inside) created rfl

def apartSchedule (case : IncidentCase) (first second : SourceReference) : List Label :=
  .ingest (case.deliver first) :: .ingest (case.deliver second)
    :: case.alerts.map fun alert => .ingest (case.deliver alert)

theorem apartSchedule_admitted {first second : SourceReference} (first_in : first ∈ case.objects)
    (second_in : second ∈ case.objects) : ∀ label ∈ apartSchedule case first second,
      case.Admits label := by
  intro _ mem
  simp only [apartSchedule, List.mem_cons, List.mem_map] at mem
  obtain rfl | rfl | ⟨_, inside, rfl⟩ := mem
  · exact case.deliver_carries first_in
  · exact case.deliver_carries second_in
  · exact case.deliver_carries (List.mem_cons_of_mem _ inside)

theorem apartSchedule_delivers {first second : SourceReference}
    (incident_in : case.incident = first ∨ case.incident = second) :
    ∀ object ∈ case.objects, Delivered (apartSchedule case first second) object := by
  intro object mem
  obtain rfl | alert := List.mem_cons.mp mem
  · obtain same | same := incident_in
    · exact ⟨case.deliver first, by simp [apartSchedule], same.symm⟩
    · exact ⟨case.deliver second, by simp [apartSchedule], same.symm⟩
  · refine ⟨case.deliver object, ?_, rfl⟩
    simp only [apartSchedule, List.mem_cons, List.mem_map]
    exact .inr (.inr ⟨object, alert, rfl⟩)

theorem joined_at_creation {event : EventId}
    (created : intake.linksOf object = [Intake.createdLink newId (case.deliver object)])
    (joined : ∃ link ∈ (run (step newId) intake
      (case.alerts.map fun alert => .ingest (case.deliver alert))).links,
        link.source = object ∧ link.event = event) :
    newId object 0 = event := by
  obtain ⟨_, mem, source, here⟩ := joined
  have stored := mem_linksOf.mpr ⟨mem, source⟩
  have linked : intake.linksOf object ≠ [] := by
    rw [created]
    exact List.cons_ne_nil _ _
  rw [alerts_keep (fun _ inside => inside) linked, created, List.mem_singleton] at stored
  rw [← here, stored]
  rfl

section TwoDeliveries

variable {first second : SourceReference} (distinct : DistinctEventIds newId case)
  (first_in : first ∈ case.objects) (second_in : second ∈ case.objects) (different : first ≠ second)
  (orphan : ∀ intake : Intake, intake.sources = [first] →
    intake.parentEvent (case.deliver second) = none
      ∧ intake.provisionalEvents (case.deliver second) = [])

include distinct first_in second_in different orphan

theorem two_events (db : Db) :
    let last := step newId (step newId (Intake.init db) (.ingest (case.deliver first)))
      (.ingest (case.deliver second))
    last.linksOf first = [Intake.createdLink newId (case.deliver first)]
      ∧ last.linksOf second = [Intake.createdLink newId (case.deliver second)] := by
  intro last
  obtain ⟨links, sources, existing⟩ := first_delivery newId db first_in
  set middle := step newId (Intake.init db) (.ingest (case.deliver first))
  obtain ⟨no_parent, no_event⟩ := orphan middle sources
  have unlinked : middle.linksOf second = [] := by
    rw [linksOf_eq_nil, links]
    intro _ mem
    rw [List.mem_singleton.mp mem]
    exact different
  have fresh : middle.eventExists (newId second 0) = false := by
    rw [existing]
    have apart : newId second 0 ≠ newId first 0 := fun same =>
      different (distinct _ second_in _ first_in _ _ same).symm
    exact beq_eq_false_iff_ne.mpr apart
  have both : last.links = middle.links ++ [Intake.createdLink newId (case.deliver second)] :=
    (step_create newId (case.deliver_carries second_in)
      (route_create unlinked no_parent no_event) fresh).links
  clear_value last
  rw [links, Intake.init, List.nil_append] at both
  constructor
  · simp [Intake.linksOf, both, Intake.createdLink, IncidentCase.deliver, Ne.symm different]
  · simp [Intake.linksOf, both, Intake.createdLink, IncidentCase.deliver, different]

/-- **Two objects that do not find each other stay apart.** The first arrives, the second finds
nothing to join, and no later delivery of an alert repairs it. -/
theorem scattered (incident_in : case.incident = first ∨ case.incident = second) :
    ¬ Confluent newId case := by
  intro confluent
  have unhindered : Along (step newId) Unhindered (Intake.init (eventOnly .new))
      (apartSchedule case first second) := by
    obtain ⟨-, sources, -⟩ := first_delivery newId (eventOnly .new) first_in
    refine ⟨fun event mem => ?_, fun event mem => ?_, ?_⟩
    · rw [provisionalEvents_eq_nil fun _ _ => rfl] at mem
      cases mem
    · rw [(orphan _ sources).2] at mem
      cases mem
    · exact alerts_unhindered fun _ inside => inside
  obtain ⟨_, joined⟩ := confluent (eventOnly .new) _
    (apartSchedule_admitted first_in second_in) (apartSchedule_delivers incident_in) unhindered
  obtain ⟨of_first, of_second⟩ :=
    two_events distinct first_in second_in different orphan (eventOnly .new)
  have at_first := joined_at_creation of_first (joined first first_in)
  have at_second := joined_at_creation of_second (joined second second_in)
  exact different (distinct _ first_in _ second_in _ _ (at_first.trans at_second.symm))

end TwoDeliveries

theorem scattered_of_unnamed (distinct : DistinctEventIds newId case)
    (inside : alert ∈ case.alerts) (unnamed : alert ∉ case.named) :
    ¬ Confluent newId case := by
  have different := ne_of_mem_of_not_mem inside case.incident_not_alert
  refine scattered distinct (List.mem_cons_of_mem _ inside) List.mem_cons_self different
    (fun intake sources => ⟨?_, provisionalEvents_eq_nil fun other named => ?_⟩) (.inr rfl)
  · have kind : (case.deliver case.incident).source.reference.sourceKind = .incident :=
      case.incident_kind
    unfold Intake.parentEvent
    rw [kind]
    rfl
  · simp only [IncidentCase.deliver] at named
    have apart : other ≠ alert := by
      rintro rfl
      exact unnamed named
    simp [Intake.known, sources, apart]

theorem scattered_of_unreferring (distinct : DistinctEventIds newId case)
    (inside : alert ∈ case.alerts) (silent : alert ∉ case.referring) :
    ¬ Confluent newId case := by
  have different := ne_of_mem_of_not_mem inside case.incident_not_alert
  refine scattered distinct List.mem_cons_self (List.mem_cons_of_mem _ inside)
    (Ne.symm different) (fun intake sources => ⟨?_, alert_unhindered inside⟩) (.inl rfl)
  have no_ref : (case.deliver alert).source.incidentRef = none := by
    simp only [IncidentCase.deliver, IncidentCase.incidentRef, if_neg different, if_neg silent]
  unfold Intake.parentEvent
  rw [no_ref]
  split_ifs <;> rfl

end Scatter

/-- **Arrival-order confluence.** For an incident and the alerts that explicit references connect to
it: every order of arrival, with any re-deliveries and whatever the other services do, ends with all
objects linked to one event, unless a merge was blocked — exactly when every alert names the
incident and the incident names every alert. -/
theorem arrival_confluence_iff {newId : NewEventId}
    {case : IncidentCase} (distinct : DistinctEventIds newId case) :
    Confluent newId case ↔ case.Mutual := by
  constructor
  · intro confluent _ inside
    constructor
    · by_contra unnamed
      exact scattered_of_unnamed distinct inside unnamed confluent
    · by_contra silent
      exact scattered_of_unreferring distinct inside silent confluent
  · exact confluent_of_mutual distinct

def samplePair (named referring : Bool) (either : named || referring) : IncidentCase where
  incident := sampleObject .incident 2
  alerts := [sampleObject .alert 1]
  named := if named then [sampleObject .alert 1] else []
  referring := if referring then [sampleObject .alert 1] else []
  incident_kind := rfl
  alert_kind := by decide
  named_alerts := by cases named <;> decide
  connected := by cases named <;> cases referring <;> first | decide | cases either
  named_valid := by cases named <;> decide
  referring_valid := by cases referring <;> decide

theorem samplePair_distinct (named referring : Bool) (either : named || referring) :
    DistinctEventIds sampleEventId (samplePair named referring either) := by
  intro _ first_in _ second_in _ _ same
  simp only [IncidentCase.objects, samplePair, List.mem_cons, List.not_mem_nil, or_false]
    at first_in second_in
  obtain rfl | rfl := first_in <;> obtain rfl | rfl := second_in
  · rfl
  · simp [sampleEventId, sampleObject] at same
  · simp [sampleEventId, sampleObject] at same
  · rfl

theorem arrival_confluence_mutual :
    DistinctEventIds sampleEventId (samplePair true true rfl)
      ∧ Confluent sampleEventId (samplePair true true rfl) :=
  ⟨samplePair_distinct true true rfl,
    (arrival_confluence_iff (samplePair_distinct true true rfl)).mpr
      (by unfold IncidentCase.Mutual; decide)⟩

/-- **An alert that names its incident, delivered first.** The incident does not name the alert and
opens an event of its own; delivering both again changes nothing. -/
theorem arrival_confluence_one_sided :
    let pair := samplePair false true rfl
    let alert : Label := .ingest (pair.deliver (sampleObject .alert 1))
    let incident : Label := .ingest (pair.deliver (sampleObject .incident 2))
    let after := run (step sampleEventId) (Intake.init (eventOnly .new))
      [alert, incident, alert, incident]
    after.links.map (fun link => (link.source, link.event))
        = [(sampleObject .alert 1, 1), (sampleObject .incident 2, 2)]
      ∧ ¬ Confluent sampleEventId pair := by
  refine ⟨by decide, ?_⟩
  exact scattered_of_unnamed (samplePair_distinct false true rfl) (.head _) List.not_mem_nil

end ShadowTrace.Ingest
