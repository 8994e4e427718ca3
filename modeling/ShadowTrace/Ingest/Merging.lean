/-
**Merging against running investigations.**

The ingestion of an incident first looks for rows that work on an event has left
(`_event_has_merge_blockers`), and later, in the same transaction, deletes the events it merges with
whatever intents they have. The check reads neither the intents nor the status of the event, and it
locks nothing. So the machine here takes the two halves of an ingestion as two steps, with the
dispatch of investigations and the rows that work leaves in between.
-/

import ShadowTrace.Ingest.Promotion

namespace ShadowTrace.Ingest

open Relational Intents Machine

abbrev ProcessId := Nat

/-! ### Investigations that have begun -/

/-- A delivery of an intent is under way, or the event has left its first status. -/
def Intake.running (intake : Intake) (event : EventId) : Bool :=
  (intake.ledger.intents.rows.any fun entry => entry.2.eventId == event && entry.2.live)
    || (intake.ledger.eventStatus event).any (· != .new)

def Intake.begun (intake : Intake) (event : EventId) : Bool :=
  intake.running event || intake.eventHasMergeBlockers event

/-! ### The machine -/

def Route.merged : Route → List EventId
  | .promote _ mergeable _ => mergeable
  | _ => []

/-- The tables, the rows that the dispatch has loaded, and the ingestions that have read their route
and not committed yet. -/
structure Site where
  intake : Intake
  reverting : HandlerId → Option (IntentId × IntentRow)
  superseding : HandlerId → List (IntentId × IntentRow)
  pending : ProcessId → Option (Delivery × Route)

def Site.init (db : Db) : Site := ⟨Intake.init db, fun _ => none, fun _ => [], fun _ => none⟩

def Site.merging (site : Site) (process : ProcessId) : List EventId :=
  ((site.pending process).map fun entry => entry.2.merged).getD []

/-- A half of an ingestion, a step of the dispatch, or work on events. -/
inductive SiteLabel
  | assess (process : ProcessId) (delivery : Delivery)
  | commit (process : ProcessId)
  | dispatch (label : Intents.Label)
  | work (activity : List (EventId × Activity))

def Site.assess (site : Site) (delivery : Delivery) : Option (Delivery × Route) :=
  match validateExplicitAssociations delivery.source with
  | .ok _ => some (delivery, site.intake.route delivery)
  | .error _ => none

def Intake.finish (newId : NewEventId) (intake : Intake) :
    Option (Delivery × Route) → Intake
  | none => intake
  | some (delivery, route) =>
    match (intake.upsertSource delivery.ref).commit newId delivery route with
    | .ok after => after
    | .error _ => intake

def Site.dispatch (cfg : IntentSettings) (site : Site) (label : Intents.Label) : Site :=
  let w := Intents.step cfg ⟨site.intake.ledger, site.reverting, site.superseding⟩ label
  { site with
    intake := { site.intake with ledger := w.ledger }
    reverting := w.reverting
    superseding := w.superseding }

def siteStep (cfg : IntentSettings) (newId : NewEventId)
    (site : Site) : SiteLabel → Site
  | .assess process delivery =>
    { site with pending := Function.update site.pending process (site.assess delivery) }
  | .commit process =>
    { site with
      intake := site.intake.finish newId (site.pending process)
      pending := Function.update site.pending process none }
  | .dispatch label => site.dispatch cfg label
  | .work activity => { site with intake := { site.intake with activity } }

/-! ### What a commit does to the events -/

/-- No event has begun that had not begun before. -/
structure Calm (before after : Intake) : Prop where
  intents : ∀ id row, after.ledger.intents.get id = some row → row.live = true →
    before.ledger.intents.get id = some row
  status : ∀ event status, after.ledger.eventStatus event = some status → status ≠ .new →
    before.ledger.eventStatus event = some status
  actions : after.ledger.db.actions = before.ledger.db.actions
  reports : after.ledger.db.reports = before.ledger.db.reports
  activity : ∀ entry ∈ after.activity, entry ∈ before.activity

namespace Calm

theorem refl (intake : Intake) : Calm intake intake :=
  ⟨fun _ _ found _ => found, fun _ _ found _ => found, rfl, rfl, fun _ mem => mem⟩

theorem trans {before middle after : Intake} (first : Calm before middle)
    (second : Calm middle after) : Calm before after where
  intents id row found live := first.intents id row (second.intents id row found live) live
  status event status found moved :=
    first.status event status (second.status event status found moved) moved
  actions := second.actions.trans first.actions
  reports := second.reports.trans first.reports
  activity entry mem := first.activity entry (second.activity entry mem)

theorem begun {before after : Intake} (calm : Calm before after) {event : EventId}
    (now : after.begun event = true) : before.begun event = true := by
  unfold Intake.begun Intake.running Intake.eventHasMergeBlockers at now ⊢
  simp only [Bool.or_eq_true, List.any_eq_true, Bool.and_eq_true] at now ⊢
  obtain (⟨⟨id, row⟩, found, of_event, live⟩ | moved) | ((acted | reported) | ⟨entry, mem, of_⟩)
    := now
  · have stored := calm.intents id row (Table.mem_rows.mp found) live
    exact .inl (.inl ⟨(id, row), Table.mem_rows.mpr stored, of_event, live⟩)
  · refine .inl (.inr ?_)
    cases found : after.ledger.eventStatus event with
    | none =>
      rw [found] at moved
      cases moved
    | some status =>
      rw [found] at moved
      rw [calm.status event status found (by simpa using moved)]
      exact moved
  · rw [calm.actions] at acted
    exact .inr (.inl (.inl acted))
  · rw [calm.reports] at reported
    exact .inr (.inl (.inr reported))
  · exact .inr (.inr ⟨entry, calm.activity entry mem, of_⟩)

end Calm

section Commits

variable {newId : NewEventId} {intake after : Intake}
  {delivery : Delivery} {event : EventId}

theorem calm_of_ledger (ledger : after.ledger = intake.ledger)
    (activity : after.activity = intake.activity) : Calm intake after := by
  constructor
  iterate 2
    · rw [ledger]
      exact fun _ _ found _ => found
  · rw [ledger]
  · rw [ledger]
  · rw [activity]
    exact fun _ mem => mem

theorem touchEvent_calm (intake : Intake) (event : EventId) (change : EventRow → EventRow)
    (kept : ∀ row, (change row).status = row.status) :
    Calm intake (intake.touchEvent event change) := by
  refine ⟨fun _ _ found _ => found, fun other status found _ => ?_, rfl, rfl,
    fun _ mem => mem⟩
  unfold Intake.touchEvent Ledger.eventStatus at found
  rw [Table.get_modify] at found
  unfold Ledger.eventStatus
  split_ifs at found with same
  · rw [Option.map_map] at found
    rw [← found]
    congr 1
    funext row
    exact (kept row).symm
  · exact found

theorem attachIntent_calm (intake : Intake) (delivery : Delivery) (event : EventId) :
    Calm intake (intake.attachIntent delivery event) := by
  obtain ⟨-, -, activity, db⟩ := attachIntent_eq intake delivery event
  refine ⟨fun id row found live => ?_, fun other status found _ => ?_, by rw [db], by rw [db], ?_⟩
  · unfold Intake.attachIntent Ledger.whenFresh Ledger.maybeCreatePending Ledger.put at found
    split at found
    · exact found
    split_ifs at found with unused known
    · exact found
    · rw [Table.get_set] at found
      split_ifs at found with here
      · cases found
        cases live
      · exact found
    · exact found
  · unfold Ledger.eventStatus at found ⊢
    rw [db] at found
    exact found
  · rw [activity]
    exact fun _ mem => mem

theorem createNewEvent_calm (newId : NewEventId) (intake : Intake)
    (delivery : Delivery) : Calm intake (intake.createNewEvent newId delivery) := by
  unfold Intake.createNewEvent
  dsimp only
  split_ifs with taken
  · exact calm_of_ledger rfl rfl
  refine ⟨fun _ _ found _ => found, fun other status found moved => ?_, rfl, rfl,
    fun _ mem => mem⟩
  unfold Ledger.eventStatus at found ⊢
  rw [Table.get_set] at found
  split_ifs at found with here
  · cases found
    exact absurd rfl moved
  · exact found

theorem merge_calm (target : EventId) (intake : Intake) (secondary : EventId) :
    Calm intake (intake.mergeProvisionalEvent target secondary) := by
  refine ⟨fun id row found _ => ?_, fun other status found _ => ?_, rfl, rfl,
    fun entry mem => ?_⟩
  · unfold Intake.mergeProvisionalEvent Ledger.deleteEvent at found
    rw [Table.get_deleteWhere, Option.filter_eq_some_iff] at found
    exact found.1
  · unfold Intake.mergeProvisionalEvent Ledger.deleteEvent Ledger.eventStatus at found
    rw [Table.get_deleteWhere] at found
    obtain ⟨_, kept, rfl⟩ := Option.map_eq_some_iff.mp found
    rw [Option.filter_eq_some_iff] at kept
    unfold Ledger.eventStatus
    rw [kept.1]
    rfl
  · exact (List.mem_filter.mp mem).1

theorem mergeAll_calm (intake : Intake) (target : EventId) (mergeable : List EventId) :
    Calm intake (intake.mergeAll target mergeable) := by
  induction mergeable generalizing intake with
  | nil => exact .refl intake
  | cons secondary _ ih => exact (merge_calm target intake secondary).trans (ih _)

theorem addRelated_calm (source : SourceReference) (intake : Intake) (events : List EventId) :
    Calm intake (events.foldl (Intake.addRelatedLinkIfMissing source) intake) := by
  refine List.foldlRecOn (motive := Calm intake) events _ (.refl intake) ?_
  intro later calm _ _
  refine calm.trans ?_
  unfold Intake.addRelatedLinkIfMissing
  split_ifs
  · exact .refl later
  · exact calm_of_ledger rfl rfl

theorem promote_calm (intake : Intake) (delivery : Delivery) (target : EventId)
    (mergeable blocked : List EventId) :
    Calm intake (intake.promote delivery target mergeable blocked) := by
  refine (mergeAll_calm intake target mergeable).trans ?_
  refine (touchEvent_calm _ target
    (fun row => { row with dispositionPolicy := delivery.policy }) fun _ => rfl).trans ?_
  refine Calm.trans ?_ (attachIntent_calm _ delivery target)
  exact calm_of_ledger rfl rfl

theorem commit_calm {route : Route}
    (done : intake.commit newId delivery route = .ok after) : Calm intake after := by
  cases route with
  | idempotent =>
    cases done
    exact .refl intake
  | relate event =>
    cases done
    exact (touchEvent_calm intake event id fun _ => rfl).trans (calm_of_ledger rfl rfl)
  | promote target mergeable blocked =>
    simp only [Intake.commit] at done
    split_ifs at done
    cases done
    exact promote_calm intake delivery target mergeable blocked
  | separate =>
    cases done
    exact (createNewEvent_calm newId intake delivery).trans (addRelated_calm _ _ _)
  | create =>
    cases done
    exact (createNewEvent_calm newId intake delivery).trans (attachIntent_calm _ _ _)

theorem commit_exists {route : Route}
    (done : intake.commit newId delivery route = .ok after)
    (present : intake.eventExists event = true) (unmerged : event ∉ route.merged) :
    after.eventExists event = true := by
  have created : (intake.createNewEvent newId delivery).eventExists event = true := by
    obtain quiet | ⟨_, born⟩ := createNewEvent_effect newId intake delivery
    · rw [quiet.existing, present]
    · rw [born.existing, present, Bool.true_or]
  cases route with
  | idempotent =>
    cases done
    exact present
  | relate =>
    cases done
    exact (touchEvent_exists id event).trans present
  | promote _ mergeable =>
    simp only [Intake.commit] at done
    split_ifs at done
    cases done
    have kept : decide (event ∉ mergeable) = true := decide_eq_true unmerged
    rw [promote_exists, present, kept]
    rfl
  | separate =>
    cases done
    exact ((addRelated_quiet _ _ _).existing event).trans created
  | create =>
    cases done
    exact ((attachIntent_quiet _ _ _).existing event).trans created

end Commits

/-! ### Every schedule -/

section

variable (cfg : IntentSettings) (newId : NewEventId)

/-- A commit deletes no event on which work has begun. -/
def Spares (before : Site) (label : SiteLabel) (after : Site) : Prop :=
  ∀ process, label = .commit process → ∀ event, before.intake.eventExists event = true →
    before.intake.begun event = true → after.intake.eventExists event = true

/-- **The condition on a schedule.** When an ingestion checks the provisional events of the alerts
it names, a running investigation of one of them has left a row; and no investigation of an event
that is about to be merged begins before the commit. -/
def Careful (site : Site) : SiteLabel → Prop
  | .assess _ delivery => ∀ event ∈ site.intake.provisionalEvents delivery,
      site.intake.running event = true → site.intake.eventHasMergeBlockers event = true
  | .commit _ => True
  | label => ∀ process, ∀ event ∈ site.merging process,
      (siteStep cfg newId site label).intake.begun event = true →
        site.intake.begun event = true

/-- No investigation of an event that is about to be deleted has begun. -/
def Guarded (site : Site) : Prop :=
  ∀ process, ∀ event ∈ site.merging process, site.intake.begun event = false

variable {cfg newId} {site : Site}

theorem finish_calm (intake : Intake) (entry : Option (Delivery × Route)) :
    Calm intake (intake.finish newId entry) := by
  unfold Intake.finish
  split
  · exact .refl intake
  next delivery route =>
  have upserted : Calm intake (intake.upsertSource delivery.ref) :=
    calm_of_ledger rfl rfl
  split
  · next done => exact upserted.trans (commit_calm done)
  · exact .refl intake

theorem assess_guarded {delivery : Delivery} {event : EventId}
    (careful : ∀ event ∈ site.intake.provisionalEvents delivery,
      site.intake.running event = true → site.intake.eventHasMergeBlockers event = true)
    (mem : event ∈ ((site.assess delivery).map fun entry => entry.2.merged).getD []) :
    site.intake.begun event = false := by
  have chosen : event ∈ (site.intake.route delivery).merged := by
    unfold Site.assess at mem
    split at mem
    · exact mem
    · cases mem
  have read := route_reads site.intake delivery
  generalize site.intake.route delivery = route at chosen read
  cases read with
  | @promote target mergeable blocked unlinked kind pristine apart =>
    have inside : event ∈ target :: mergeable := List.mem_cons_of_mem target chosen
    rw [pristine] at inside
    obtain ⟨provisional, free⟩ := List.mem_filter.mp inside
    rw [Bool.not_eq_true'] at free
    have idle : site.intake.running event = false := by
      by_contra running
      rw [careful event provisional (by simpa using running)] at free
      cases free
    rw [Intake.begun, idle, free]
    rfl
  | _ => cases chosen

theorem siteStep_guarded {label : SiteLabel} (guarded : Guarded site)
    (careful : Careful cfg newId site label) :
    Guarded (siteStep cfg newId site label) := by
  intro process event mem
  cases label with
  | assess acting =>
    unfold Site.merging siteStep at mem
    dsimp only at mem
    by_cases same : process = acting
    · subst same
      rw [Function.update_self] at mem
      exact assess_guarded careful mem
    · rw [Function.update_of_ne same] at mem
      exact guarded process event mem
  | commit acting =>
    unfold Site.merging siteStep at mem
    dsimp only at mem
    by_cases same : process = acting
    · subst same
      rw [Function.update_self] at mem
      cases mem
    rw [Function.update_of_ne same] at mem
    have before := guarded process event mem
    by_contra now
    rw [Bool.not_eq_false] at now
    rw [(finish_calm _ _).begun now] at before
    cases before
  | dispatch | work =>
    have before := guarded process event mem
    by_contra now
    rw [careful process event mem (by simpa using now)] at before
    cases before

theorem siteStep_spares {label : SiteLabel} (guarded : Guarded site) :
    Spares site label (siteStep cfg newId site label) := by
  rintro process rfl event present begun
  have unmerged : event ∉ site.merging process := by
    intro mem
    rw [guarded process event mem] at begun
    cases begun
  unfold Site.merging at unmerged
  unfold siteStep Intake.finish
  dsimp only
  split
  · exact present
  next delivery route pending =>
  rw [pending] at unmerged
  split
  · next done => exact commit_exists done present unmerged
  · exact present

end

/-- **Merging spares running work.** Along every interleaving of ingestions with the dispatch, the
start and the work of investigations: if every running investigation has left a row when an
ingestion checks its event, and none begins between a check and the commit that follows it, no
commit deletes an event whose investigation has begun. -/
theorem merge_spares_begun (cfg : IntentSettings)
    (newId : NewEventId) (db : Db) {labels : List SiteLabel}
    (careful : Along (siteStep cfg newId) (Careful cfg newId) (Site.init db) labels)
    {before after : Site} {label : SiteLabel}
    (occurs : Occurs (siteStep cfg newId) (Site.init db) labels before label after) :
    Spares before label after := by
  refine occurs_invariant (Careful cfg newId) Guarded Spares
    (fun _ _ => siteStep_guarded) (fun _ _ guarded _ => siteStep_spares guarded) ?_ careful occurs
  exact fun _ _ mem => absurd mem List.not_mem_nil

def twoAlerts : List SiteLabel :=
  [.assess 0 (sampleDelivery (sampleObject .alert 1) none []), .commit 0,
   .assess 0 (sampleDelivery (sampleObject .alert 2) none []), .commit 0]

def namingBoth : SiteLabel :=
  .assess 0 (sampleDelivery (sampleObject .incident 3) none
    [sampleObject .alert 1, sampleObject .alert 2])

theorem merge_spares_begun_pristine :
    let step := siteStep defaultIntentSettings sampleEventId
    let before := run step (Site.init (eventOnly .new)) (twoAlerts ++ [namingBoth])
    before.merging 0 = [2] ∧ Spares before (.commit 0) (step before (.commit 0)) := by
  have careful : Along (siteStep defaultIntentSettings sampleEventId)
      (Careful defaultIntentSettings sampleEventId) (Site.init (eventOnly .new))
      (twoAlerts ++ [namingBoth] ++ [.commit 0]) := by
    refine ⟨?_, trivial, ?_, trivial, ?_, trivial, trivial⟩
    all_goals
      show ∀ event ∈ Intake.provisionalEvents _ _, _
      decide
  exact ⟨by decide, merge_spares_begun defaultIntentSettings sampleEventId (eventOnly .new) careful
    (occurs_last _ _ _)⟩

def startSecond : List SiteLabel :=
  [.dispatch ⟨0, .httpIntent 0 0 { firstRequest with event := 2 }⟩, .dispatch ⟨1, .claim 0 0⟩,
   .dispatch ⟨2, .commitEnqueued 0 false⟩, .dispatch ⟨3, .markStarted 0 (.derived 0 1)⟩]

/-- **A started investigation is deleted with its event.** The worker has not written a row yet when
the incident arrives. -/
theorem merge_deletes_started :
    let step := siteStep defaultIntentSettings sampleEventId
    let before := run step (Site.init (eventOnly .new)) (twoAlerts ++ startSecond)
    let after := run step before [namingBoth, .commit 0]
    (before.intake.ledger.intents.get 0).map IntentRow.status = some .started
      ∧ (before.intake.ledger.intents.get 0).map IntentRow.eventId = some 2
      ∧ before.intake.eventExists 2 = true
      ∧ after.intake.eventExists 2 = false
      ∧ (after.intake.ledger.intents.get 0).isNone := by
  decide

end ShadowTrace.Ingest
