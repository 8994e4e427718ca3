/-
**No plan advance is lost** (`app/services/approval_engine.py`).

A decider looks at the plan only after its own commit (`_maybe_advance_plan`). Approvals, rejections
and `handle_timeout` look at the plan of the action they decided; a scan looks once at the latest
plan of every event it has touched.
-/

import Mathlib.Order.MinMax
import ShadowTrace.Approval.Deciders

namespace ShadowTrace.Approval

open Relational Machine

/-! ### Plans under decisions -/

section

variable {db after : Db} {event : EventId} {revision : Nat} {key : ActionId × Nat}

theorem isPlanFullyDecided_iff :
    isPlanFullyDecided db event revision = true ↔ ∀ id row, db.actions.get id = some row →
      inPlan event revision row = true → approvalTerminal row.status = true := by
  simp only [isPlanFullyDecided, List.all_eq_true, Prod.forall, Table.mem_rows, Bool.or_eq_true,
    Bool.not_eq_true', ← Bool.not_eq_true, ← imp_iff_not_or]

theorem latestRevision_le_iff {bound : Nat} :
    latestRevision db event ≤ bound ↔ ∀ id row, db.actions.get id = some row →
      row.eventId = event → row.planRevision ≤ bound := by
  have folds : ∀ entries : List (ActionId × ActionRow),
      entries.foldr (fun entry => max entry.2.planRevision) 0 ≤ bound
        ↔ ∀ entry ∈ entries, entry.2.planRevision ≤ bound := by
    intro entries
    induction entries with
    | nil => simp
    | cons _ _ ih => rw [List.foldr_cons, max_le_iff, ih, List.forall_mem_cons]
  simp only [latestRevision, folds, List.mem_filter, Prod.forall, Table.mem_rows, beq_iff_eq,
    and_imp]

def placed (row : ActionRow) : EventId × Nat × ActionCategory × Option Nat :=
  (row.eventId, row.planRevision, row.category, row.supersededByRevision)

/-- Only the decided action moves, to the end of its approval. -/
def Redecided (decided id : ActionId) (row next : ActionRow) : Prop :=
  (id ≠ decided → next = row) ∧ (id = decided → approvalTerminal next.status = true)
    ∧ placed next = placed row

theorem Writes.redecided (written : Writes db key after) :
    Table.Steps (Redecided key.1) (fun _ _ => False) db.actions after.actions := by
  cases written with
  | @intro stored target now id cycle row record found _ _ _ terminal =>
    exact .set_at found ⟨absurd rfl, fun _ => terminal, rfl⟩
      fun _ _ other => ⟨fun _ => rfl, fun same => absurd same other, rfl⟩

theorem inPlan_iff {row : ActionRow} :
    inPlan event revision row = true
      ↔ placed row = (event, revision, .response, none) ∧ row.status ≠ .superseded := by
  simp [inPlan, evaluable, placed, and_assoc]

theorem inPlan_of_placed {row next : ActionRow} (same : placed next = placed row)
    (terminal : approvalTerminal next.status = true) (mem : inPlan event revision row = true) :
    inPlan event revision next = true := by
  rw [inPlan_iff] at mem ⊢
  refine ⟨same.trans mem.1, ?_⟩
  intro superseded
  rw [superseded] at terminal
  cases terminal

theorem Writes.latestRevision (written : Writes db key after) (event : EventId) :
    latestRevision after event = Approval.latestRevision db event := by
  refine eq_of_forall_ge_iff fun bound => ?_
  rw [latestRevision_le_iff, latestRevision_le_iff]
  have columns : ∀ row next : ActionRow, placed next = placed row →
      next.eventId = row.eventId ∧ next.planRevision = row.planRevision := by
    intro _ _ same
    exact ⟨congrArg Prod.fst same, congrArg (fun columns => columns.2.1) same⟩
  constructor
  · intro all id row found same
    obtain ⟨next, reached, -, -, place⟩ := written.redecided.old id row found
    obtain ⟨sameEvent, sameRevision⟩ := columns row next place
    exact sameRevision ▸ all id next reached (sameEvent.trans same)
  intro all id next reached same
  obtain ⟨row, found, -, -, place⟩ := written.redecided.row_before reached
  obtain ⟨sameEvent, sameRevision⟩ := columns row next place
  exact sameRevision.symm ▸ all id row found (sameEvent.symm.trans same)

theorem Writes.fullyDecided (written : Writes db key after)
    (all : isPlanFullyDecided db event revision = true) :
    isPlanFullyDecided after event revision = true := by
  rw [isPlanFullyDecided_iff] at all ⊢
  intro id next reached mem
  obtain ⟨_, found, apart, here, -⟩ := written.redecided.row_before reached
  by_cases same : id = key.1
  · exact here same
  · obtain rfl := apart same
    exact all id next found mem

theorem Writes.fullyDecided_of_apart (written : Writes db key after)
    (apart : ∀ row, after.actions.get key.1 = some row → inPlan event revision row = false)
    (all : isPlanFullyDecided after event revision = true) :
    isPlanFullyDecided db event revision = true := by
  rw [isPlanFullyDecided_iff] at all ⊢
  intro id row found mem
  obtain ⟨next, reached, same, here, place⟩ := written.redecided.old id row found
  by_cases decided : id = key.1
  · have inside := inPlan_of_placed place (here decided) mem
    rw [apart next (decided ▸ reached)] at inside
    cases inside
  · obtain rfl := same decided
    exact all id next reached mem

end

/-! ### Who owes a look at a plan -/

def Decider.targets : Decider → List Target
  | .scanning _ _ touched => touched.map .latest
  | .checking targets => targets
  | .advancing event revision targets => .plan event revision :: targets
  | .idle | .timingOut _ _ => []

/-- A decider will still look at the plan. -/
def Owes (db : Db) (decider : Decider) (plan : EventId × Nat) : Prop :=
  ∃ target ∈ decider.targets, target.resolve db = plan

/-- A scan rejects the last open action of the plan only while it is the latest of its event. -/
def scansLatest (event : EventId) (revision : Nat) (w : World) : DeciderId × DeciderOp → Bool
  | (p, .scanNext) =>
    match w.decider p with
    | .scanning _ ((action, _) :: _) _ =>
      !(w.db.actions.get action).any (inPlan event revision)
        || !isPlanFullyDecided (step w (p, .scanNext)).db event revision
        || revision == latestRevision w.db event
    | _ => true
  | _ => true

section Owes

variable {db after : Db} {decider next : Decider} {event : EventId} {revision : Nat}

theorem Owes.of_latest {plan : EventId × Nat}
    (same : ∀ event, latestRevision after event = latestRevision db event)
    (owes : Owes db decider plan) : Owes after decider plan := by
  obtain ⟨target, mem, resolved⟩ := owes
  refine ⟨target, mem, ?_⟩
  cases target with
  | plan => exact resolved
  | latest =>
    rw [← resolved]
    simp only [Target.resolve, same]

theorem Turn.owes (turn : Turn db decider next) (owes : Owes db decider (event, revision))
    (all : isPlanFullyDecided db event revision = true) : Owes db next (event, revision) := by
  obtain ⟨target, mem, resolved⟩ := owes
  cases turn with
  | read | gone | scan | done => cases mem
  | skip => exact ⟨target, mem, resolved⟩
  | commit =>
    obtain ⟨touchedEvent, listed, rfl⟩ := List.mem_map.mp mem
    exact ⟨_, List.mem_map.mpr ⟨touchedEvent, List.mem_eraseDups.mpr listed, rfl⟩, resolved⟩
  | undecided found undone =>
    obtain rfl | later := List.mem_cons.mp mem
    · rw [found] at resolved
      subst resolved
      exact absurd all undone
    · exact ⟨target, later, resolved⟩
  | observed found =>
    obtain rfl | later := List.mem_cons.mp mem
    · rw [found] at resolved
      subst resolved
      exact ⟨_, List.mem_cons_self, rfl⟩
    · exact ⟨target, List.mem_cons_of_mem _ later, resolved⟩

variable {row : ActionRow} {op : DeciderOp} {key : ActionId × Nat}

theorem Settles.owes {plan : EventId × Nat} (settles : Settles row op decider key next)
    (owes : Owes db decider plan) : Owes db next plan := by
  obtain ⟨_, mem, resolved⟩ := owes
  cases settles with
  | decided | timedOut => cases mem
  | scanned =>
    obtain ⟨touchedEvent, listed, rfl⟩ := List.mem_map.mp mem
    refine ⟨_, List.mem_map.mpr ⟨touchedEvent, ?_, rfl⟩, resolved⟩
    split_ifs
    · exact listed
    · exact List.mem_append_left _ listed

theorem owed_owes (place : placed row = (event, revision, .response, none)) :
    Owes db (owed row) (event, revision) := by
  simp only [placed, Prod.mk.injEq] at place
  obtain ⟨rfl, rfl, response, -⟩ := place
  unfold owed
  rw [if_neg (by rw [response]; nofun)]
  exact ⟨.plan row.eventId row.planRevision, List.mem_singleton.mpr rfl, rfl⟩

theorem owed_not_advancing (row : ActionRow) (event : EventId) (revision : Nat)
    (targets : List Target) : owed row ≠ .advancing event revision targets := by
  unfold owed
  split_ifs
  · nofun
  · nofun

theorem Settles.not_advancing (settles : Settles row op decider key next) (event : EventId)
    (revision : Nat) (targets : List Target) : next ≠ .advancing event revision targets := by
  cases settles with
  | decided | timedOut => exact owed_not_advancing row event revision targets
  | scanned => nofun

theorem Settles.owes_plan {w : World} {p : DeciderId} (found : w.db.actions.get key.1 = some row)
    (settles : Settles row op (w.decider p) key next)
    (latest : scansLatest event revision w (p, op) = true)
    (all : isPlanFullyDecided (step w (p, op)).db event revision = true)
    (place : placed row = (event, revision, .response, none)) :
    Owes w.db next (event, revision) := by
  generalize held : w.decider p = decider at settles
  cases settles with
  | decided | timedOut => exact owed_owes place
  | scanned _ waiting =>
    have mem : inPlan event revision row = true := by
      rw [inPlan_iff, waiting]
      exact ⟨place, by decide⟩
    have current : revision = latestRevision w.db event := by
      simpa [scansLatest, held, found, mem, all] using latest
    simp only [placed, Prod.mk.injEq] at place
    obtain ⟨rfl, rfl, response, -⟩ := place
    refine ⟨.latest row.eventId, List.mem_map.mpr ⟨row.eventId, ?_, rfl⟩, ?_⟩
    · rw [if_neg (by rw [response]; decide)]
      exact List.mem_append_right _ (List.mem_singleton.mpr rfl)
    · rw [Target.resolve, ← current]

end Owes

/-! ### Debts along a schedule -/

/-- An action of the plan has been decided. -/
def Touched (w : World) (event : EventId) (revision : Nat) : Prop :=
  ∃ key ∈ w.decisions, ∃ row, w.db.actions.get key.1 = some row ∧ inPlan event revision row = true

/-- **Debts.** A plan that the deciders have completed is requested, or somebody still has to look
at it. -/
def Debt (w : World) (event : EventId) (revision : Nat) : Prop :=
  Touched w event revision → isPlanFullyDecided w.db event revision = true →
    (event, revision) ∈ w.requests ∨ ∃ p, Owes w.db (w.decider p) (event, revision)

/-- A decider that is about to ask for a plan advance has found the plan decided. -/
def Observed (w : World) : Prop :=
  ∀ p event revision targets, w.decider p = .advancing event revision targets →
    isPlanFullyDecided w.db event revision = true

section Step

variable {w after : World} {p : DeciderId} {next : Decider} {event : EventId} {revision : Nat}

theorem owes_of_set (deciders : after.deciders = w.deciders.set p next)
    (latest : ∀ event, latestRevision after.db event = latestRevision w.db event)
    (kept : Owes w.db (w.decider p) (event, revision) → Owes w.db next (event, revision))
    (owes : ∃ p, Owes w.db (w.decider p) (event, revision)) :
    ∃ p, Owes after.db (after.decider p) (event, revision) := by
  obtain ⟨other, owing⟩ := owes
  refine ⟨other, ?_⟩
  rw [decider_of_set deciders]
  split_ifs with same
  · exact (kept (same ▸ owing)).of_latest latest
  · exact owing.of_latest latest

theorem step_debt (holding : Holding w) (debt : Debt w event revision) {op : DeciderOp}
    (latest : scansLatest event revision w (p, op) = true) :
    Debt (step w (p, op)) event revision := by
  have acts := step_acts holding p op
  intro touched all
  have completes := all
  generalize step w (p, op) = after at acts touched all ⊢
  cases acts with
  | stayed => exact debt touched all
  | turned turn =>
    obtain requested | owes := debt touched all
    · exact .inl requested
    · exact .inr (owes_of_set rfl (fun _ => rfl) (fun owing => turn.owes owing all) owes)
  | requested held =>
    obtain requested | ⟨other, target, mem, resolved⟩ := debt touched all
    · exact .inl (List.mem_cons_of_mem _ requested)
    by_cases same : other = p
    · subst same
      rw [held] at mem
      obtain rfl | later := List.mem_cons.mp mem
      · exact .inl (resolved ▸ List.mem_cons_self)
      · refine .inr ⟨other, target, ?_, resolved⟩
        rw [decider_of_set rfl, if_pos rfl]
        exact later
    · refine .inr ⟨other, target, ?_, resolved⟩
      rw [decider_of_set rfl, if_neg same]
      exact mem
  | @wrote _ key row next db found settles written =>
    obtain ⟨decided, reached, -, -, place⟩ := written.redecided.old key.1 row found
    have unchanged := written.latestRevision
    cases inside : inPlan event revision decided with
    | true =>
      -- the decision is one of the plan: its decider owes the look
      have owing := settles.owes_plan found latest completes
        (place.symm.trans (inPlan_iff.mp inside).1)
      refine .inr ⟨p, ?_⟩
      rw [decider_of_set rfl, if_pos rfl]
      exact owing.of_latest unchanged
    | false =>
      -- the decision is of another plan: nothing about this one has changed
      have apart : ∀ shown, db.actions.get key.1 = some shown →
          inPlan event revision shown = false := by
        intro _ there
        obtain rfl := Option.mem_unique reached there
        exact inside
      have earlier : Touched w event revision := by
        obtain ⟨other, mem, shown, there, listed⟩ := touched
        obtain rfl | before := List.mem_cons.mp mem
        · rw [apart shown there] at listed
          cases listed
        obtain ⟨old, stored, same, -⟩ := written.redecided.row_before there
        by_cases this : other.1 = key.1
        · rw [apart shown (this ▸ there)] at listed
          cases listed
        · exact ⟨other, before, old, stored, same this ▸ listed⟩
      obtain requested | owes := debt earlier (written.fullyDecided_of_apart apart all)
      · exact .inl requested
      · exact .inr (owes_of_set rfl unchanged settles.owes owes)

theorem step_observed (holding : Holding w) (observed : Observed w) (op : DeciderOp) :
    Observed (step w (p, op)) := by
  have acts := step_acts holding p op
  generalize step w (p, op) = after at acts ⊢
  intro other event revision targets held
  cases acts with
  | stayed => exact observed other event revision targets held
  | @turned _ next turn =>
    rw [decider_of_set rfl] at held
    split_ifs at held with same
    · subst held
      generalize w.decider p = decider at turn
      cases turn with
      | observed _ all => exact all
    · exact observed other event revision targets held
  | @wrote _ key row next db found settles written =>
    rw [decider_of_set rfl] at held
    split_ifs at held with same
    · subst held
      have nothing := settles.not_advancing
      exact absurd rfl (nothing event revision targets)
    · exact written.fullyDecided (observed other event revision targets held)
  | requested =>
    rw [decider_of_set rfl] at held
    split_ifs at held with same
    · exact observed other event revision targets held

/-- What every schedule keeps that scans the plan only while it is the latest. -/
structure Advances (event : EventId) (revision : Nat) (w : World) : Prop where
  holding : Holding w
  observed : Observed w
  debt : Debt w event revision

theorem of_advances (db : Db) (event : EventId) (revision : Nat) :
    Advances event revision (World.of db) where
  holding := (of_once db).holding
  observed := by
    intro _ _ _ _ held
    cases held
  debt := by
    rintro ⟨_, mem, -⟩
    cases mem

end Step

def AtRest (w : World) : Prop := ∀ p, w.decider p = .idle

theorem atRest_of_rows {w : World} (idle : ∀ entry ∈ w.deciders.rows, entry.2 = .idle) :
    AtRest w := by
  intro p
  unfold World.decider
  cases found : w.deciders.get p with
  | none => rfl
  | some decider => exact idle (p, decider) (Table.mem_rows.mpr found)

/-- **No plan advance is lost.** For every schedule in which no scan rejects the last open action of
the plan once its event has a newer one: an advance is requested only for a plan that is fully
decided, and once the deciders are at rest, a plan they have completed is requested. -/
theorem advance_requested (db : Db) (event : EventId) (revision : Nat)
    (schedule : List (DeciderId × DeciderOp))
    (latest : Along step (fun w label => scansLatest event revision w label = true)
      (World.of db) schedule) :
    (∀ before label after, Occurs step (World.of db) schedule before label after →
        ∀ plan ∈ after.requests, plan ∉ before.requests →
          isPlanFullyDecided before.db plan.1 plan.2 = true)
      ∧ (let w := run step (World.of db) schedule
        AtRest w → Touched w event revision →
          isPlanFullyDecided w.db event revision = true → (event, revision) ∈ w.requests) := by
  have keeps : ∀ w label, Advances event revision w →
      scansLatest event revision w label = true → Advances event revision (step w label) :=
    fun w label held scans =>
      ⟨step_holding held.holding label, step_observed held.holding held.observed label.2,
        step_debt held.holding held.debt scans⟩
  constructor
  · intro before _ after occurs
    refine occurs_invariant _ (Advances event revision)
      (fun before _ after => ∀ plan ∈ after.requests, plan ∉ before.requests →
        isPlanFullyDecided before.db plan.1 plan.2 = true) keeps ?_ (of_advances db event revision)
      latest occurs
    rintro w ⟨p, op⟩ held - _ mem fresh
    have acts := step_acts held.holding p op
    generalize step w (p, op) = reached at acts mem
    cases acts with
    | stayed | turned | wrote => exact absurd mem fresh
    | requested advancing =>
      obtain rfl | earlier := List.mem_cons.mp mem
      · exact held.observed p _ _ _ advancing
      · exact absurd earlier fresh
  · intro w rest touched all
    have held : Advances event revision w :=
      run_invariant _ (Advances event revision) keeps (of_advances db event revision) latest
    obtain requested | ⟨p, _, mem, -⟩ := held.debt touched all
    · exact requested
    · rw [rest p] at mem
      cases mem

/-- Actions 1 and 2 of one plan are decided by two processes at once; the one that looks last asks
for the advance. -/
def sampleTwo : Db :=
  { sampleRequested with
    actions := sampleRequested.actions.set 2 (sampleWaiting 1 1)
    approvals := sampleRequested.approvals.set (2, 1)
      (newRecord .requireApproval { now := 0, timeout := 60 }) }

def sampleDecisions : List (DeciderId × DeciderOp) :=
  [(0, sampleApprove), (0, .check), (1, .scanStart 61), (1, .scanNext), (1, .scanNext),
    (0, .check), (1, .check), (1, .request), (1, .check)]

theorem advance_requested_two :
    let w := run step (World.of sampleTwo) sampleDecisions
    AtRest w ∧ isPlanFullyDecided w.db 1 1 = true ∧ (1, 1) ∈ w.requests := by
  have rest : AtRest (run step (World.of sampleTwo) sampleDecisions) :=
    atRest_of_rows (by decide)
  have touched : Touched (run step (World.of sampleTwo) sampleDecisions) 1 1 :=
    ⟨(1, 1), by decide, (sampleWaiting 1 1).moveTo .approved 61, by decide, by decide⟩
  exact ⟨rest, by decide,
    (advance_requested sampleTwo 1 1 sampleDecisions (by decide)).2 rest touched (by decide)⟩

/-- Action 1 of revision 1 waits, and the event has a plan of revision 2. -/
def sampleOld : Db :=
  { sampleRequested with
    actions := sampleRequested.actions.set 2
      { sampleWaiting 1 2 with status := .pending } }

/-- **An old plan is not advanced by a scan.** The scan rejects the only action of revision 1 and
then looks at revision 2. -/
theorem old_plan_not_requested :
    let w := run step (World.of sampleOld)
      [(0, .scanStart 61), (0, .scanNext), (0, .scanNext), (0, .check), (0, .check)]
    AtRest w ∧ w.decisions = [(1, 1)] ∧ isPlanFullyDecided w.db 1 1 = true ∧ w.requests = [] := by
  exact ⟨atRest_of_rows (by decide), by decide, by decide, by decide⟩

end ShadowTrace.Approval
