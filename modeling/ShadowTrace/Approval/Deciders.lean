/-
**Deciders on approval records, interleaved** (`app/services/approval_engine.py`).

Approvals and rejections lock the action, and a scan of expired records locks each action before it
looks at its status. `handle_timeout` locks nothing: it reads the action and the record, and writes
both at the end of its transaction, over whatever they hold by then. Here a process that handles a
timeout stands between its read and its write, a scan between its records, and every decider that
has committed still owes its look at the plan (`Decider`).
-/

import ShadowTrace.Approval.Engine
import ShadowTrace.Lib.Runs
import ShadowTrace.Planning.Persist

namespace ShadowTrace.Approval

open Relational Machine

abbrev DeciderId := Nat

/-! ### Plans -/

def approvalTerminal (status : ActionStatus) : Bool := status == .approved || status == .rejected

section

variable (db : Db) (event : EventId)

def inPlan (revision : Nat) (row : ActionRow) : Bool :=
  row.eventId == event && row.planRevision == revision && evaluable row

def isPlanFullyDecided (revision : Nat) : Bool :=
  db.actions.rows.all fun entry =>
    !inPlan event revision entry.2 || approvalTerminal entry.2.status

def latestRevision : Nat :=
  (db.actions.rows.filter fun entry => entry.2.eventId == event).foldr
    (fun entry best => max entry.2.planRevision best) 0

/-- What a decider will look at: the plan of the action it decided, or the latest one of an event
that a scan has touched. -/
inductive Target
  | plan (event : EventId) (revision : Nat)
  | latest (event : EventId)
  deriving DecidableEq

def Target.resolve : Target → EventId × Nat
  | .plan event revision => (event, revision)
  | .latest event => (event, latestRevision db event)

/-! ### The machine -/

/-- Where a process that decides stands between its transactions. -/
inductive Decider
  | idle
  /-- `handle_timeout` has read the action waiting and the record open. -/
  | timingOut (action : ActionId) (cycle : Nat)
  | scanning (now : Time) (left : List (ActionId × Nat)) (touched : List EventId)
  | checking (targets : List Target)
  | advancing (event : EventId) (revision : Nat) (targets : List Target)
  deriving DecidableEq

/-- The database, the deciders, the decisions written to records and the plan advances requested,
newest first. -/
structure World where
  db : Db
  deciders : Table DeciderId Decider
  decisions : List (ActionId × Nat)
  requests : List (EventId × Nat)

variable (w : World) (p : DeciderId)

def World.decider : Decider :=
  (w.deciders.get p).getD .idle

def World.setDecider (decider : Decider) : World := { w with deciders := w.deciders.set p decider }

/-- One transaction of a decider. -/
inductive DeciderOp
  /-- The transaction of `approve` or `reject`. Before it a replayed decision id is looked up; one
  that is found ends the call without a write. -/
  | decide (action : ActionId) (manifest : Manifest) (bindingValid : Bool)
      (request : DecisionRequest) (now : Time)
  | timeoutRead (action : ActionId) (cycle : Nat)
  | timeoutWrite (now : Time)
  | scanStart (now : Time)
  | scanNext
  | check
  | request

def readsOpen (id : ActionId) (cycle : Nat) : Bool :=
  (db.actions.get id).any (fun row => row.status == .waitingApproval)
    && (db.approvals.get (id, cycle)).any fun record => record.decidedAt.isNone

def writeTimeout (id : ActionId) (cycle : Nat) (now : Time) : Db :=
  { db with
    approvals := db.approvals.modify (id, cycle) fun record => timedOutRecord record now
    actions := db.actions.modify id fun row => row.moveTo .rejected now }

def expiredRecords (now : Time) : List (ActionId × Nat) :=
  (db.approvals.rows.filter fun entry => expiredRecord entry.2 now).map Prod.fst

/-- What a decider of an action owes: a rollback is continued by its own handler. -/
def owed (row : ActionRow) : Decider :=
  if row.category = .rollback then .idle else .checking [.plan row.eventId row.planRevision]

def stepDecide (action : ActionId) (manifest : Manifest) (bindingValid : Bool)
    (request : DecisionRequest) (now : Time) : World :=
  match w.decider p, w.db.actions.get action, pendingRecord w.db action with
  | .idle, some row, some (cycle, _) =>
    match applyDecision w.db action row manifest bindingValid request now with
    | .error _ => w
    | .ok db =>
      { w.setDecider p (owed row) with
        db, decisions := (action, cycle) :: w.decisions }
  | _, _, _ => w

def stepTimeoutWrite (now : Time) : World :=
  match w.decider p with
  | .timingOut action cycle =>
    match w.db.actions.get action with
    | none => w.setDecider p .idle
    | some row =>
      { w.setDecider p (owed row) with
        db := writeTimeout w.db action cycle now
        decisions := (action, cycle) :: w.decisions }
  | _ => w

def stepScanNext : World :=
  match w.decider p with
  | .scanning _ [] touched => w.setDecider p (.checking (touched.eraseDups.map .latest))
  | .scanning now ((action, cycle) :: left) touched =>
    match w.db.actions.get action with
    | none => w.setDecider p (.scanning now left touched)
    | some row =>
      if row.status ≠ .waitingApproval then w.setDecider p (.scanning now left touched)
      else
        let touched := if row.category = .rollback then touched else touched ++ [row.eventId]
        { w.setDecider p (.scanning now left touched) with
          db := writeTimeout w.db action cycle now
          decisions := (action, cycle) :: w.decisions }
  | _ => w

def step : DeciderId × DeciderOp → World
  | (p, .decide action manifest bindingValid request now) =>
    stepDecide w p action manifest bindingValid request now
  | (p, .timeoutRead action cycle) =>
    match w.decider p with
    | .idle =>
      if readsOpen w.db action cycle then w.setDecider p (.timingOut action cycle)
      else w
    | _ => w
  | (p, .timeoutWrite now) => stepTimeoutWrite w p now
  | (p, .scanStart now) =>
    match w.decider p with
    | .idle => w.setDecider p (.scanning now (expiredRecords w.db now) [])
    | _ => w
  | (p, .scanNext) => stepScanNext w p
  | (p, .check) =>
    match w.decider p with
    | .checking [] => w.setDecider p .idle
    | .checking (target :: targets) =>
      let plan := target.resolve w.db
      if isPlanFullyDecided w.db plan.1 plan.2 then
        w.setDecider p (.advancing plan.1 plan.2 targets)
      else w.setDecider p (.checking targets)
    | _ => w
  | (p, .request) =>
    match w.decider p with
    | .advancing event revision targets =>
      { w.setDecider p (.checking targets) with requests := (event, revision) :: w.requests }
    | _ => w

def World.of : World where
  db := db
  deciders := .empty
  decisions := []
  requests := []

end

/-! ### Timeouts without interruption -/

variable {db after : Db} {id : ActionId} {cycle : Nat} {row : ActionRow} {record : ApprovalRow}
  {w : World} {p : DeciderId} {next : Decider} {key : ActionId × Nat}

theorem readsOpen_iff :
    readsOpen db id cycle = true ↔ ∃ row record, db.actions.get id = some row
      ∧ row.status = .waitingApproval ∧ db.approvals.get (id, cycle) = some record
      ∧ record.decidedAt = none := by
  unfold readsOpen
  cases db.actions.get id with
  | none => simp
  | some =>
    cases db.approvals.get (id, cycle) with
    | none | some => simp

theorem writeTimeout_eq (found : db.actions.get id = some row)
    (stored : db.approvals.get (id, cycle) = some record) (now : Time) :
    writeTimeout db id cycle now = rejectOnTimeout db id row cycle record now := by
  unfold writeTimeout rejectOnTimeout Db.putAction
  unfold Table.modify
  rw [found, stored]

theorem mem_expiredRecords {now : Time} : key ∈ expiredRecords db now
      ↔ ∃ record, db.approvals.get key = some record ∧ expiredRecord record now = true := by
  simp [expiredRecords, Table.mem_rows]

/-! ### What a decision writes -/

/-- The status a decided record stands for: its operator tells whose decision it is. -/
def recordedStatus (record : ApprovalRow) : Option ActionStatus :=
  match record.operator with
  | none => none
  | some .engine => some (ApprovalDecisionKind.target record.decision)
  | some .systemTimeout => some .rejected
  | some (.principal _) => record.idempotency.map fun used => ApprovalOperation.target used.1

/-- A decision: a stored record is closed, and the action follows it. -/
inductive Writes (db : Db) : ActionId × Nat → Db → Prop
  | intro {id : ActionId} {cycle : Nat} {row : ActionRow} {record : ApprovalRow}
      (found : db.actions.get id = some row) (stored : db.approvals.get (id, cycle) = some record)
      (decided : written.decidedAt.isSome = true) (agrees : recordedStatus written = some target)
      (terminal : approvalTerminal target = true) :
      Writes db (id, cycle)
        { db with
          approvals := db.approvals.set (id, cycle) written
          actions := db.actions.set id (row.moveTo target now) }

theorem writeTimeout_writes (found : db.actions.get id = some row)
    (stored : db.approvals.get (id, cycle) = some record) (now : Time) :
    Writes db (id, cycle) (writeTimeout db id cycle now) := by
  rw [writeTimeout_eq found stored]
  exact .intro found stored rfl rfl rfl

theorem applyDecision_writes {manifest : Manifest} {bindingValid : Bool} {request : DecisionRequest}
    {now : Time} (found : db.actions.get id = some row)
    (pending : pendingRecord db id = some (cycle, record))
    (done : applyDecision db id row manifest bindingValid request now = .ok after) :
    row.status = .waitingApproval ∧ Writes db (id, cycle) after := by
  obtain ⟨_, _, same, waiting, -, rfl⟩ := applyDecision_eq_ok done
  rw [pending] at same
  cases same
  refine ⟨waiting, .intro found (pendingRecord_eq_some pending).1 rfl rfl ?_⟩
  cases request.operation <;> rfl

/-! ### What a step does -/

def Decider.holds : Decider → List (ActionId × Nat)
  | .timingOut action cycle => [(action, cycle)]
  | .scanning _ left _ => left
  | .idle | .checking _ | .advancing _ _ _ => []

/-- A decider goes on without a write. -/
inductive Turn (db : Db) : Decider → Decider → Prop
  | read {cycle : Nat} (opened : readsOpen db action cycle = true) :
      Turn db .idle (.timingOut action cycle)
  | gone (action : ActionId) (cycle : Nat) : Turn db (.timingOut action cycle) .idle
  | scan (now : Time) : Turn db .idle (.scanning now (expiredRecords db now) [])
  | skip (now : Time) (key : ActionId × Nat) (left : List (ActionId × Nat))
      (touched : List EventId) :
      Turn db (.scanning now (key :: left) touched) (.scanning now left touched)
  | commit (now : Time) (touched : List EventId) :
      Turn db (.scanning now [] touched) (.checking (touched.eraseDups.map .latest))
  | done : Turn db (.checking []) .idle
  | undecided (resolved : target.resolve db = plan)
      (open_ : ¬ isPlanFullyDecided db plan.1 plan.2 = true) :
      Turn db (.checking (target :: targets)) (.checking targets)
  | observed (resolved : target.resolve db = plan)
      (all : isPlanFullyDecided db plan.1 plan.2 = true) :
      Turn db (.checking (target :: targets)) (.advancing plan.1 plan.2 targets)

/-- A decider writes a decision, with what it still owes afterwards. -/
inductive Settles (row : ActionRow) : DeciderOp → Decider → ActionId × Nat → Decider → Prop
  | decided {cycle : Nat} (waiting : row.status = .waitingApproval) :
      Settles row (.decide action manifest bindingValid request now) .idle (action, cycle)
        (owed row)
  | timedOut (now : Time) (action : ActionId) (cycle : Nat) :
      Settles row (.timeoutWrite now) (.timingOut action cycle) (action, cycle) (owed row)
  | scanned (now : Time) {key : ActionId × Nat} (waiting : row.status = .waitingApproval) :
      Settles row .scanNext (.scanning now (key :: left) touched) key
        (.scanning now left
          (if row.category = .rollback then touched else touched ++ [row.eventId]))

/-- What one transaction does. -/
inductive Acts (w : World) (p : DeciderId) : DeciderOp → World → Prop
  | stayed (op : DeciderOp) : Acts w p op w
  | turned {next : Decider} (turn : Turn w.db (w.decider p) next) :
      Acts w p op (w.setDecider p next)
  | wrote {key : ActionId × Nat} {row : ActionRow} {next : Decider} {db : Db}
      (found : w.db.actions.get key.1 = some row)
      (settles : Settles row op (w.decider p) key next) (written : Writes w.db key db) :
      Acts w p op { w.setDecider p next with db, decisions := key :: w.decisions }
  | requested (held : w.decider p = .advancing event revision targets) :
      Acts w p .request
        { w.setDecider p (.checking targets) with requests := (event, revision) :: w.requests }

/-- What a decider still holds is stored. -/
def Holding (w : World) : Prop :=
  ∀ p, ∀ key ∈ (w.decider p).holds, (w.db.approvals.get key).isSome = true

theorem step_acts (holding : Holding w) (p : DeciderId) (op : DeciderOp) :
    Acts w p op (step w (p, op)) := by
  cases op with
  | decide =>
    simp only [step, stepDecide]
    split
    · rename_i idle found pending
      split
      · exact .stayed _
      · rename_i done
        obtain ⟨waiting, written⟩ := applyDecision_writes found pending done
        exact .wrote found (idle ▸ .decided waiting) written
    · exact .stayed _
  | timeoutRead =>
    simp only [step]
    split
    · rename_i idle
      split
      · rename_i opened
        exact .turned (idle ▸ .read opened)
      · exact .stayed _
    · exact .stayed _
  | timeoutWrite now =>
    simp only [step, stepTimeoutWrite]
    split
    · rename_i action cycle held
      split
      · exact .turned (held ▸ .gone action cycle)
      rename_i found
      have kept := holding p (action, cycle) (held ▸ List.mem_singleton.mpr rfl)
      obtain ⟨_, stored⟩ := Option.isSome_iff_exists.mp kept
      exact .wrote found (held ▸ .timedOut now action cycle)
        (writeTimeout_writes found stored now)
    · exact .stayed _
  | scanStart now =>
    simp only [step]
    split
    · rename_i idle
      exact .turned (idle ▸ .scan now)
    · exact .stayed _
  | scanNext =>
    simp only [step, stepScanNext]
    split
    · rename_i now touched held
      exact .turned (held ▸ .commit now touched)
    · rename_i now action cycle left touched held
      split
      · exact .turned (held ▸ .skip now (action, cycle) left touched)
      rename_i found
      split
      · exact .turned (held ▸ .skip now (action, cycle) left touched)
      rename_i waiting
      have kept := holding p (action, cycle) (held ▸ List.mem_cons_self)
      obtain ⟨_, stored⟩ := Option.isSome_iff_exists.mp kept
      exact .wrote found (held ▸ .scanned now (not_not.mp waiting))
        (writeTimeout_writes found stored now)
    · exact .stayed _
  | check =>
    simp only [step]
    split
    · rename_i held
      exact .turned (held ▸ .done)
    · rename_i held
      split
      · rename_i all
        exact .turned (held ▸ .observed rfl all)
      · rename_i undecided
        exact .turned (held ▸ .undecided rfl undecided)
    · exact .stayed _
  | request =>
    simp only [step]
    split
    · rename_i held
      exact .requested held
    · exact .stayed _

theorem decider_of_set {after : World} (deciders : after.deciders = w.deciders.set p next)
    (other : DeciderId) :
    after.decider other = if other = p then next else w.decider other := by
  unfold World.decider
  rw [deciders, Table.get_set]
  split_ifs
  · rfl
  · rfl

/-! ### The records in hand -/

theorem owed_holds (row : ActionRow) : (owed row).holds = [] := by
  unfold owed
  split_ifs
  · rfl
  · rfl

theorem Turn.holds {decider : Decider} (turn : Turn db decider next) (mem : key ∈ next.holds) :
    key ∈ decider.holds ∨ (db.approvals.get key).isSome = true := by
  cases turn with
  | read opened =>
    obtain rfl := List.mem_singleton.mp mem
    obtain ⟨_, _, -, -, stored, -⟩ := readsOpen_iff.mp opened
    rw [stored]
    exact .inr rfl
  | scan =>
    obtain ⟨_, stored, -⟩ := mem_expiredRecords.mp mem
    rw [stored]
    exact .inr rfl
  | skip => exact .inl (List.mem_cons_of_mem _ mem)
  | gone | commit | done | undecided | observed => cases mem

theorem Settles.holds {op : DeciderOp} {decider : Decider}
    (settles : Settles row op decider key next) :
    next.holds ⊆ decider.holds := by
  cases settles with
  | decided | timedOut => simp [owed_holds]
  | scanned => exact List.subset_cons_self _ _

theorem Writes.stored {other : ActionId × Nat} (written : Writes db key after)
    (stored : (db.approvals.get other).isSome = true) :
    (after.approvals.get other).isSome = true := by
  cases written with
  | intro =>
    rw [Table.get_set]
    split_ifs
    · rfl
    · exact stored

theorem holding_of_next {after : World} (holding : Holding w)
    (deciders : after.deciders = w.deciders.set p next)
    (kept : ∀ key, (w.db.approvals.get key).isSome = true →
      (after.db.approvals.get key).isSome = true)
    (taken : ∀ key ∈ next.holds, key ∈ (w.decider p).holds
      ∨ (w.db.approvals.get key).isSome = true) : Holding after := by
  intro other key mem
  refine kept key ?_
  rw [decider_of_set deciders] at mem
  split_ifs at mem
  · exact (taken key mem).elim (holding p key) id
  · exact holding other key mem

theorem step_holding (holding : Holding w) (label : DeciderId × DeciderOp) :
    Holding (step w label) := by
  obtain ⟨p, op⟩ := label
  have acts := step_acts holding p op
  generalize step w (p, op) = after at acts ⊢
  cases acts with
  | stayed => exact holding
  | turned turn => exact holding_of_next holding rfl (fun _ => id) fun _ => turn.holds
  | wrote _ settles written =>
    exact holding_of_next holding rfl (fun _ => written.stored) fun _ mem =>
      .inl (settles.holds mem)
  | requested =>
    refine holding_of_next holding rfl (fun _ => id) fun key mem => ?_
    cases mem

/-! ### One decision -/

/-- The record is decided, and the action has the status it says. -/
def Agreed (db : Db) (key : ActionId × Nat) : Prop :=
  ∃ record row, db.approvals.get key = some record ∧ record.decidedAt.isSome = true
    ∧ db.actions.get key.1 = some row ∧ recordedStatus record = some row.status

/-- **One decision takes effect.** No record is decided twice, and what is recorded is what the
action shows. -/
def OneDecision (w : World) : Prop := w.decisions.Nodup ∧ ∀ key ∈ w.decisions, Agreed w.db key

def timely (w : World) : DeciderId × DeciderOp → Bool
  | (p, .timeoutWrite _) =>
    match w.decider p with
    | .timingOut action cycle => readsOpen w.db action cycle
    | _ => true
  | _ => true

/-- What a timely schedule keeps: an action is decided once, and then it no longer waits. -/
structure Once (w : World) : Prop where
  holding : Holding w
  distinct : (w.decisions.map Prod.fst).Nodup
  agreed : ∀ key ∈ w.decisions, Agreed w.db key
  decided : ∀ key ∈ w.decisions, ∀ row, w.db.actions.get key.1 = some row →
    approvalTerminal row.status = true

theorem of_once (db : Db) : Once (World.of db) where
  holding _ := List.forall_mem_nil _
  distinct := List.nodup_nil
  agreed := List.forall_mem_nil _
  decided := List.forall_mem_nil _

theorem Settles.waiting {op : DeciderOp} (found : w.db.actions.get key.1 = some row)
    (settles : Settles row op (w.decider p) key next)
    (intime : timely w (p, op) = true) : row.status = .waitingApproval := by
  generalize held : w.decider p = decider at settles
  cases settles with
  | decided waiting | scanned _ waiting => exact waiting
  | timedOut _ action cycle =>
    have opened : readsOpen w.db action cycle = true := by simpa only [timely, held] using intime
    obtain ⟨_, _, there, waiting, -⟩ := readsOpen_iff.mp opened
    obtain rfl := Option.mem_unique found there
    exact waiting

theorem Writes.agreed (written : Writes db key after) :
    Agreed after key ∧ (∀ row, after.actions.get key.1 = some row →
      approvalTerminal row.status = true)
    ∧ ∀ other : ActionId × Nat, other.1 ≠ key.1 →
      after.actions.get other.1 = db.actions.get other.1
        ∧ after.approvals.get other = db.approvals.get other := by
  cases written with
  | intro _ _ decided agrees terminal =>
    refine ⟨⟨_, _, Table.get_set_self, decided, Table.get_set_self, agrees⟩, ?_, ?_⟩
    · intro _ there
      rw [Table.get_set_self] at there
      cases there
      exact terminal
    · intro _ apart
      refine ⟨Table.get_set_ne apart, Table.get_set_ne ?_⟩
      rintro rfl
      exact apart rfl

theorem step_once {label : DeciderId × DeciderOp} (once : Once w)
    (intime : timely w label = true) : Once (step w label) := by
  obtain ⟨p, op⟩ := label
  have holding := step_holding once.holding (p, op)
  have acts := step_acts once.holding p op
  generalize step w (p, op) = after at holding acts ⊢
  cases acts with
  | stayed => exact once
  | turned | requested => exact ⟨holding, once.distinct, once.agreed, once.decided⟩
  | @wrote _ key row next db found settles written =>
    -- the action waits, so no decision of it has been written yet
    have waiting := settles.waiting found intime
    have fresh : ∀ other ∈ w.decisions, other.1 ≠ key.1 := by
      intro other mem same
      have terminal := once.decided other mem row (same ▸ found)
      rw [waiting] at terminal
      cases terminal
    obtain ⟨agreed, terminal, frame⟩ := written.agreed
    refine ⟨holding, ?_, ?_, ?_⟩
    · rw [List.map_cons, List.nodup_cons]
      refine ⟨?_, once.distinct⟩
      intro mem
      obtain ⟨other, listed, same⟩ := List.mem_map.mp mem
      exact fresh other listed same
    · intro other mem
      obtain rfl | listed := List.mem_cons.mp mem
      · exact agreed
      · obtain ⟨record, shown, stored, since, there, same⟩ := once.agreed other listed
        obtain ⟨actions, approvals⟩ := frame other (fresh other listed)
        exact ⟨record, shown, approvals.trans stored, since, actions.trans there, same⟩
    · intro other mem
      obtain rfl | listed := List.mem_cons.mp mem
      · exact terminal
      · intro shown there
        rw [(frame other (fresh other listed)).1] at there
        exact once.decided other listed shown there

/-- **One decision.** Approvals, rejections, timeouts and scans may interleave in any way: as long
as every timeout writes while what it has read still holds, a record is decided once, and its action
shows the decision recorded. -/
theorem one_decision (db : Db) (schedule : List (DeciderId × DeciderOp))
    (intime : Along step (fun w label => timely w label = true) (World.of db) schedule) :
    OneDecision (run step (World.of db) schedule) := by
  have once : Once (run step (World.of db) schedule) :=
    run_invariant _ Once (fun _ _ => step_once) (of_once db) intime
  exact ⟨once.distinct.of_map _, once.agreed⟩

/-! ### A timeout that does not look again -/

def sampleWaiting (event : EventId) (revision : Nat) : ActionRow :=
  { Planning.materializeAction event revision
      { tool := .blockIp, owner := some .directTool, approvedTerminalDispositions := []
        writebackRequired := false, writebackApplicable := false, writebackReadiness := .ready
        source := none, dispositionKey := 0, content := 1 } 0 with
    status := .waitingApproval }

def sampleRequested : Db where
  actions := .set .empty 1 (sampleWaiting 1 1)
  approvals := .set .empty (1, 1) (newRecord .requireApproval { now := 0, timeout := 60 })

def sampleProvider : Manifest where
  allowedOperations := [.blockIp]
  templateSupported := true
  supportsIdempotency := true
  supportsLookupByIdempotency := true

def sampleApprove : DeciderOp :=
  .decide 1 sampleProvider true
    { operation := .approve, principal := 7, decisionId := none, payloadHash := 0 } 61

/-- Two timeouts and an approval: whoever comes first decides. -/
theorem one_decision_request :
    (run step (World.of sampleRequested) [(0, .timeoutRead 1 1), (0, .timeoutWrite 61),
        (1, sampleApprove), (2, .scanStart 62), (2, .scanNext)]).decisions = [(1, 1)]
      ∧ OneDecision (run step (World.of sampleRequested)
        [(0, .timeoutRead 1 1), (0, .timeoutWrite 61), (1, sampleApprove), (2, .scanStart 62),
          (2, .scanNext)]) :=
  ⟨by decide, one_decision _ _ (by decide)⟩

/-- **A timeout overwrites an approval.** It has read the action waiting and the record open; the
approval commits, and the timeout writes its rejection over it. -/
theorem timeout_overwrites_approval :
    let approved := run step (World.of sampleRequested)
      [(0, .timeoutRead 1 1), (1, sampleApprove)]
    let w := step approved (0, .timeoutWrite 61)
    (approved.db.actions.get 1).map (fun row => row.status) = some .approved
      ∧ (w.db.actions.get 1).map (fun row => row.status) = some .rejected
      ∧ ¬ OneDecision w := by
  refine ⟨by decide, by decide, ?_⟩
  rintro ⟨distinct, -⟩
  revert distinct
  decide

end ShadowTrace.Approval
