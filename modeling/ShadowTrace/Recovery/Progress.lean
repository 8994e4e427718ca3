/-
**When the recovery loop ends.**

The verify node and the recovery node judge a writeback by different criteria, the strength of its
evidence and its status, and each hands over to the other. With fixed rows and a provider that
always gives the same answers the loop ends unless it comes back to where it was.
-/

import ShadowTrace.Lib.Loops
import ShadowTrace.Recovery.Targets

namespace ShadowTrace.Recovery

open Relation Loop

namespace Fixed

variable {fixed : Fixed} {state later : GraphState}

/-! ### One visit -/

variable {key : OutboxId} {rest : List OutboxId}

theorem exits_of_patch (patch : (fixed.recoveryNode state).halted = true
    ∨ (fixed.recoveryNode state).needManualResolution = true) :
    ∃ exit, fixed.next (.writebackRecovery, state) = .inr exit := by
  simp only [next, routeAfterWritebackRecovery]
  by_cases halted : (fixed.recoveryNode state).halted = true
  · exact ⟨.halt, by simp [halted, lead]⟩
  · exact ⟨.manual, by simp [halted, patch.resolve_left halted, lead]⟩

def passed (fixed : Fixed) (state : GraphState) (rest : List OutboxId) : GraphState :=
  { state.keep rest (fixed.targets state) state.lookupCount state.retryCount with
    halted := false
    needActionReplan := false
    needWritebackRecovery := !rest.isEmpty || !(fixed.targets state).pending.isEmpty
    needManualResolution := false }

def revisited (fixed : Fixed) (state : GraphState) (writeback : WritebackState) : GraphState :=
  { state.keep (fixed.targets state).recoverable (fixed.targets state) writeback.lookupCount
      writeback.retryCount with
    halted := false
    needActionReplan := false
    needWritebackRecovery := true
    needManualResolution := false }

theorem passed_kept (state : GraphState) (rest : List OutboxId) :
    Kept (fixed.targets state) rest (fixed.passed state rest) := ⟨rfl, rfl, rfl, rfl⟩

theorem revisited_kept (state : GraphState) (writeback : WritebackState) :
    Kept (fixed.targets state) (fixed.targets state).recoverable
      (fixed.revisited state writeback) := ⟨rfl, rfl, rfl, rfl⟩

section Visit

variable (first : (fixed.targets state).recoverable = key :: rest)

include first

theorem recoveryNode_of_dropped (drops : dropped fixed.port (fixed.writeback state key) = true) :
    fixed.recoveryNode state = fixed.passed state rest := by
  obtain ⟨action, calm, same⟩ : (fixed.handled state key).1.action = .noop
      ∧ (fixed.handled state key).1.escalated = false
      ∧ (fixed.handled state key).2 = fixed.writeback state key :=
    execute_of_dropped state.readiness drops
  have counters : (fixed.writeback state key).lookupCount = state.lookupCount
      ∧ (fixed.writeback state key).retryCount = state.retryCount := ⟨rfl, rfl⟩
  simp only [recoveryNode, first]
  simp [GraphState.afterTarget, passed, action, calm, same, counters]

theorem recoveryNode_of_repeats
    (again : (fixed.handled state key).1.repeats) :
    fixed.recoveryNode state
      = fixed.revisited state (fixed.handled state key).2 := by
  obtain ⟨calm, action⟩ := again
  simp only [recoveryNode]
  rcases action with looks | retries
  · simp [GraphState.afterTarget, revisited, looks, calm, first]
  · simp [GraphState.afterTarget, revisited, retries, calm, first]

theorem exits_of_ends
    (ends : (fixed.handled state key).1.ends) :
    ∃ exit, fixed.next (.writebackRecovery, state) = .inr exit := by
  refine exits_of_patch ?_
  simp only [recoveryNode, first]
  by_cases escalated : (fixed.handled state key).1.escalated = true
  · exact .inr (by simp [GraphState.afterTarget, escalated])
  · have waits := ends.resolve_left escalated
    exact .inl (by simp [GraphState.afterTarget, escalated, waits])

theorem goesOn_of_dropped (drops : dropped fixed.port (fixed.writeback state key) = true)
    (more : rest ≠ [] ∨ (fixed.targets state).pending ≠ []) :
    GoesOn fixed.next (.writebackRecovery, state)
      (.writebackRecovery, fixed.passed state rest) := by
  have asked : (fixed.passed state rest).needWritebackRecovery = true := by
    simpa [passed] using more
  simp only [GoesOn, next, recoveryNode_of_dropped first drops, routeAfterWritebackRecovery, asked]
  rfl

theorem returns_of_dropped (drops : dropped fixed.port (fixed.writeback state key) = true)
    (last : rest = []) (idle : (fixed.targets state).pending = []) :
    GoesOn fixed.next (.writebackRecovery, state) (.verify, fixed.passed state []) := by
  have asked : (fixed.passed state []).needWritebackRecovery = false := by simp [passed, idle]
  rw [← last] at asked ⊢
  simp only [GoesOn, next, recoveryNode_of_dropped first drops, routeAfterWritebackRecovery, asked]
  rfl

theorem goesOn_of_repeats
    (again : (fixed.handled state key).1.repeats) :
    GoesOn fixed.next (.writebackRecovery, state) (.writebackRecovery,
      fixed.revisited state (fixed.handled state key).2) := by
  simp only [GoesOn, next, recoveryNode_of_repeats first again]
  rfl

end Visit

/-! ### What the next visit meets -/

theorem passed_recovering (more : rest ≠ [] ∨ (fixed.targets state).pending ≠ []) :
    Recovering (fixed.passed state rest) where
  asked := by simpa [passed] using more
  mapped := (passed_kept state rest).mapped

theorem revisited_recovering (state : GraphState) (writeback : WritebackState) :
    Recovering (fixed.revisited state writeback) where
  asked := rfl
  mapped := (revisited_kept state writeback).mapped

theorem passed_writeback (recovering : Recovering state)
    (part : ∀ key ∈ rest, key ∈ (fixed.targets state).recoverable) :
    fixed.writeback (fixed.passed state rest) = fixed.writeback state := by
  funext key
  have same := status_of_kept recovering part (passed_kept state rest) rfl key
  simp only [writeback, same]
  rfl

theorem revisited_writeback (recovering : Recovering state) (key : OutboxId) :
    fixed.writeback (fixed.revisited state (fixed.handled state key).2) key
      = (fixed.handled state key).2 := by
  obtain ⟨id, status⟩ : (fixed.handled state key).2.writebackId = key
      ∧ (fixed.handled state key).2.currentStatus = fixed.status state key := execute_same ..
  have found : fixed.status (fixed.revisited state (fixed.handled state key).2) key
      = fixed.status state key :=
    status_of_kept recovering (fun _ listed => listed) (revisited_kept state _) rfl key
  generalize fixed.handled state key = done at id status found ⊢
  rw [writeback, found, ← status, ← id]
  rfl

theorem revisited_targets (state : GraphState) (done : WritebackState) :
    fixed.targets (fixed.revisited state done) = fixed.targets state :=
  targets_of_kept (fun _ listed => listed) (revisited_kept state done)

/-! ### The end of a pass -/

/-- The loop is about to handle a writeback of the kind. -/
structure At (fixed : Fixed) (kind : WritebackState → Prop) (place : Node × GraphState) : Prop where
  node : place.1 = .writebackRecovery
  recovering : Recovering place.2
  first : ∃ key rest, (fixed.targets place.2).recoverable = key :: rest
    ∧ kind (fixed.writeback place.2 key)

/-- A stuck target is looked up for ever. -/
theorem not_leaves_of_stuck {place : Node × GraphState}
    (there : fixed.At (fun writeback => stuck fixed.port writeback = true) place) :
    ¬ Leaves fixed.next place := by
  refine not_leaves_of_invariant _ ?_ there
  rintro ⟨_, state⟩ ⟨rfl, recovering, key, rest, first, holds⟩
  obtain ⟨again, counted⟩ : (fixed.handled state key).1.repeats
      ∧ (fixed.handled state key).2 = { fixed.writeback state key with lookupCount := 0 } :=
    execute_of_stuck state.readiness holds
  refine ⟨_, goesOn_of_repeats first again, rfl, revisited_recovering _ _, key, rest, ?_, ?_⟩
  · rw [revisited_targets]
    exact first
  · rw [revisited_writeback recovering key, counted]
    exact holds

/-- **A target that is neither dropped nor stuck ends the loop.** -/
theorem leaves_of_advancing {place : Node × GraphState}
    (there : fixed.At (fun writeback => dropped fixed.port writeback = false
      ∧ stuck fixed.port writeback = false) place) :
    Leaves fixed.next place := by
  refine leaves_of_measure _
    (fun place => (maxLookups - place.2.lookupCount) + (maxRetries - place.2.retryCount)) ?_ there
  rintro ⟨_, state⟩ ⟨rfl, recovering, key, rest, first, kept, moves⟩
  have advances : Advances fixed.port (fixed.writeback state key) (fixed.handled state key) :=
    execute_advances state.readiness kept moves
  rcases advances with ends | ⟨again, fewer, kept, moves⟩
  · exact .inl (exits_of_ends first ends)
  refine .inr ⟨_, goesOn_of_repeats first again, ?_, fewer⟩
  refine ⟨rfl, revisited_recovering _ _, key, rest, ?_, ?_⟩
  · rw [revisited_targets]
    exact first
  · rw [revisited_writeback recovering key]
    exact ⟨kept, moves⟩

theorem exits_of_nil (recovering : Recovering state)
    (empty : (fixed.targets state).recoverable = []) :
    ∃ exit, fixed.next (.writebackRecovery, state) = .inr exit := by
  refine exits_of_patch ?_
  simp only [recoveryNode, empty]
  by_cases idle : (fixed.targets state).pending = []
  · exact .inr (by simp [GraphState.withoutTargets, idle, recovering.asked])
  · exact .inl (by simp [GraphState.withoutTargets, idle])

/-- **Dropping the first targets** leads to the next one, with the counters as they were. -/
theorem reaches_next {front back : List OutboxId} (recovering : Recovering state)
    (listed : (fixed.targets state).recoverable = front ++ back)
    (drops : ∀ key ∈ front, dropped fixed.port (fixed.writeback state key) = true)
    (more : back ≠ [] ∨ (fixed.targets state).pending ≠ []) :
    ∃ later, ReflTransGen (GoesOn fixed.next) (.writebackRecovery, state)
        (.writebackRecovery, later) ∧ Recovering later
      ∧ fixed.targets later
          = ⟨back, (fixed.targets state).pending, (fixed.targets state).statusMap⟩
      ∧ fixed.writeback later = fixed.writeback state
      ∧ fixed.passed later [] = fixed.passed state [] := by
  induction front generalizing state with
  | nil =>
    refine ⟨state, .refl, recovering, ?_, rfl, rfl⟩
    rw [← show (fixed.targets state).recoverable = back from listed]
  | cons head front ih =>
    have moreLeft : front ++ back ≠ [] ∨ (fixed.targets state).pending ≠ [] := by
      rcases more with left | pending
      · exact .inl fun empty => left (List.append_eq_nil_iff.mp empty).2
      · exact .inr pending
    have part : ∀ key ∈ front ++ back, key ∈ (fixed.targets state).recoverable := by
      intro _ later
      rw [listed]
      exact List.mem_cons_of_mem head later
    have targets := targets_of_kept part (passed_kept state (front ++ back))
    have same := passed_writeback recovering part
    obtain ⟨later, reaches, still, found, writebacks, returned⟩ :=
      ih (passed_recovering moreLeft) (by rw [targets])
        (fun key early => by rw [same]; exact drops key (List.mem_cons_of_mem head early))
        (by rw [targets]; exact more)
    have round := goesOn_of_dropped listed (drops head (List.mem_cons_self ..)) moreLeft
    refine ⟨later, .head round reaches, still, ?_, writebacks.trans same, returned.trans ?_⟩
    · rw [found, targets]
    · rw [passed, targets]
      rfl

/-! ### The outcome of a pass -/

def blocker (fixed : Fixed) (state : GraphState) : Option OutboxId :=
  (fixed.targets state).recoverable.find? fun key => !dropped fixed.port (fixed.writeback state key)

/-- **The pass ends the loop**: the first target that is not dropped is not stuck, or there is no
target, or an action is still pending after all of them. -/
def Ends (fixed : Fixed) (state : GraphState) : Prop :=
  match fixed.blocker state with
  | some key => stuck fixed.port (fixed.writeback state key) = false
  | none => (fixed.targets state).recoverable = [] ∨ (fixed.targets state).pending ≠ []

/-- **The pass drains the targets**: all of them are dropped, and no action is pending. -/
def Drains (fixed : Fixed) (state : GraphState) : Prop :=
  fixed.blocker state = none ∧ (fixed.targets state).recoverable ≠ []
    ∧ (fixed.targets state).pending = []

theorem blocker_eq_none (none_ : fixed.blocker state = none) {key : OutboxId}
    (listed : key ∈ (fixed.targets state).recoverable) :
    dropped fixed.port (fixed.writeback state key) = true := by
  have all := List.find?_eq_none.mp none_ key listed
  simpa using all

section

variable (recovering : Recovering state)

include recovering

/-- If every target is dropped, recovery returns to verify. -/
theorem drains_reaches (drains : fixed.Drains state) :
    TransGen (GoesOn fixed.next) (.writebackRecovery, state) (.verify, fixed.passed state []) := by
  obtain ⟨none_, some_, idle⟩ := drains
  obtain ⟨front, last, listed⟩ := (List.eq_nil_or_concat _).resolve_left some_
  rw [List.concat_eq_append] at listed
  have drops : ∀ key ∈ front ++ [last], dropped fixed.port (fixed.writeback state key) = true :=
    fun key early => blocker_eq_none none_ (listed ▸ early)
  obtain ⟨later, reaches, _, targets, same, returned⟩ := reaches_next recovering listed
    (fun key early => drops key (List.mem_append_left _ early)) (.inl (List.cons_ne_nil _ _))
  have first : (fixed.targets later).recoverable = last :: [] := by rw [targets]
  have droppedLast : dropped fixed.port (fixed.writeback later last) = true := by
    rw [same]
    exact drops last (List.mem_append_right _ (List.mem_singleton_self _))
  have calm : (fixed.targets later).pending = [] := by
    rw [targets]
    exact idle
  rw [← returned]
  exact TransGen.tail' reaches (returns_of_dropped first droppedLast rfl calm)

theorem blocker_reaches (found : fixed.blocker state = some key) :
    dropped fixed.port (fixed.writeback state key) = false
      ∧ ∃ later, ReflTransGen (GoesOn fixed.next) (.writebackRecovery, state)
          (.writebackRecovery, later)
        ∧ ∀ kind : WritebackState → Prop, kind (fixed.writeback state key) →
          fixed.At kind (.writebackRecovery, later) := by
  obtain ⟨kept, _, back, listed, drops⟩ := List.find?_eq_some_iff_append.mp found
  obtain ⟨later, reaches, still, targets, same, -⟩ :=
    reaches_next recovering listed (by simpa using drops)
      (.inl (List.cons_ne_nil _ _))
  refine ⟨by simpa using kept, later, reaches, fun kind holds => ⟨rfl, still, key, back, ?_, ?_⟩⟩
  · rw [targets]
  · rw [same]
    exact holds

theorem leaves_of_pending (none_ : fixed.blocker state = none)
    (pending : (fixed.targets state).pending ≠ []) :
    Leaves fixed.next (.writebackRecovery, state) := by
  have listed : (fixed.targets state).recoverable = (fixed.targets state).recoverable ++ [] :=
    (List.append_nil _).symm
  obtain ⟨later, reaches, still, targets, -⟩ := reaches_next recovering listed
    (fun _ => blocker_eq_none none_) (.inr pending)
  have empty : (fixed.targets later).recoverable = [] := by rw [targets]
  obtain ⟨_, leaves⟩ := exits_of_nil still empty
  rw [leaves_iff_of_reaches reaches]
  exact leaves_of_exit leaves

/-- **One pass.** The loop leaves from the recovery node if the pass ends it, or if the pass drains
the targets and the loop leaves from verify. -/
theorem leaves_recovery_iff : Leaves fixed.next (.writebackRecovery, state)
      ↔ fixed.Ends state
        ∨ (fixed.Drains state ∧ Leaves fixed.next (.verify, fixed.passed state [])) := by
  rcases found : fixed.blocker state with _ | key
  · by_cases empty : (fixed.targets state).recoverable = []
    · obtain ⟨_, leaves⟩ := exits_of_nil recovering empty
      have ends : fixed.Ends state := by simp [Ends, found, empty]
      exact iff_of_true (leaves_of_exit leaves) (.inl ends)
    by_cases idle : (fixed.targets state).pending = []
    · have drains : fixed.Drains state := ⟨found, empty, idle⟩
      have open_ : ¬ fixed.Ends state := by simp [Ends, found, empty, idle]
      rw [leaves_iff_of_reaches (drains_reaches recovering drains).to_reflTransGen]
      simp [drains, open_]
    · have ends : fixed.Ends state := by simp [Ends, found, idle]
      exact iff_of_true (leaves_of_pending recovering found idle) (.inl ends)
  · obtain ⟨kept, _, reaches, comes⟩ := blocker_reaches recovering found
    have blocked : ¬ fixed.Drains state := by simp [Drains, found]
    rw [leaves_iff_of_reaches reaches]
    by_cases holds : stuck fixed.port (fixed.writeback state key) = true
    · have open_ : ¬ fixed.Ends state := by simp [Ends, found, holds]
      exact iff_of_false (not_leaves_of_stuck (comes _ holds)) (by simp [open_, blocked])
    · have moves : stuck fixed.port (fixed.writeback state key) = false := by simpa using holds
      have ends : fixed.Ends state := by simp [Ends, found, moves]
      exact iff_of_true (leaves_of_advancing (comes _ ⟨kept, moves⟩)) (.inl ends)

end

/-! ### From verify -/

variable {node : Node} {result : VerificationResult}

theorem routeAfterVerify_recovery (leads : routeAfterVerify state = .inl node) :
    node = .writebackRecovery ∧ state.halted = false ∧ state.needManualResolution = false
      ∧ state.needWritebackRecovery = true := by
  unfold routeAfterVerify at leads
  split_ifs at leads with halted manual recovery
  exact ⟨(Sum.inl.inj leads).symm, by simpa using halted, by simpa using manual, recovery⟩

/-- Verify hands over to recovery. -/
structure HandedOver (fixed : Fixed) (state : GraphState) (result : VerificationResult) : Prop where
  verified : fixed.verification = some result
  planned : (fixed.policyRequired && fixed.plan.isNone) = false
  running : state.halted = false
  recovery : result.needWritebackRecovery = true
  manual : result.needManualResolution = false

theorem goesOn_of_handedOver (handed : fixed.HandedOver state result) :
    GoesOn fixed.next (.verify, state) (.writebackRecovery, fixed.project state result) := by
  have node : fixed.verifyNode state = fixed.project state result := by
    simp [verifyNode, handed.running, handed.planned, handed.verified, handed.recovery]
  have route : routeAfterVerify (fixed.project state result) = .inl .writebackRecovery := by
    simp [routeAfterVerify, project, handed.running, handed.manual, handed.recovery]
  simp only [GoesOn, next, node, route]
  rfl

theorem goesOn_verify (handed : GoesOn fixed.next (.verify, state) (node, later)) :
    node = .writebackRecovery
      ∧ ∃ result, fixed.HandedOver state result ∧ later = fixed.project state result := by
  rcases route : routeAfterVerify (fixed.verifyNode state) with next_ | exit
  · simp only [GoesOn, next, route] at handed
    obtain ⟨rfl, rfl⟩ := handed
    obtain ⟨rfl, halted, manual, recovery⟩ := routeAfterVerify_recovery route
    refine ⟨rfl, ?_⟩
    unfold verifyNode at halted manual recovery ⊢
    split_ifs at halted manual recovery ⊢ with stopped unplanned
    · rw [stopped] at halted
      cases halted
    · cases manual
    rcases verified : fixed.verification with _ | result
    · simp only [verified] at manual
      cases manual
    simp only [verified] at halted manual recovery ⊢
    split_ifs at halted manual recovery ⊢ with failed
    · cases manual
    · exact ⟨result, ⟨verified, Bool.eq_false_iff.mpr unplanned, Bool.eq_false_iff.mpr stopped,
        recovery, manual⟩, rfl⟩
  · simp only [GoesOn, next, route] at handed
    cases handed

theorem project_recovering (handed : fixed.HandedOver state result) :
    Recovering (fixed.project state result) where
  asked := handed.recovery
  mapped := storedMap_ne _

/-- **Verify finds what it has found before.** A pass that drains its targets brings it nothing
new. -/
theorem verify_again (handed : fixed.HandedOver state result) :
    GoesOn fixed.next (.verify, fixed.passed (fixed.project state result) [])
      (.writebackRecovery, fixed.project state result) := by
  have again : fixed.HandedOver (fixed.passed (fixed.project state result) []) result :=
    ⟨handed.verified, handed.planned, rfl, handed.recovery, handed.manual⟩
  have same : fixed.project (fixed.passed (fixed.project state result) []) result
      = fixed.project state result := by
    simp [project, passed, GraphState.keep, handed.running]
  have round := goesOn_of_handedOver again
  rw [same] at round
  exact round

/-- The loop leaves from verify if and only if what verify hands over ends it. -/
def VerifyClears (fixed : Fixed) (state : GraphState) : Prop :=
  ∀ later, fixed.next (.verify, state) = .inl (.writebackRecovery, later) → fixed.Ends later

theorem leaves_verify_iff :
    Leaves fixed.next (.verify, state) ↔ fixed.VerifyClears state := by
  rcases round : fixed.next (.verify, state) with ⟨node, later⟩ | exit
  · obtain ⟨rfl, result, handed, rfl⟩ := goesOn_verify round
    have recovering := project_recovering handed
    have clears : fixed.VerifyClears state ↔ fixed.Ends (fixed.project state result) := by
      unfold VerifyClears
      rw [round]
      simp
    rw [leaves_iff_of_goesOn round, clears, leaves_recovery_iff recovering]
    refine or_iff_left ?_
    rintro ⟨drains, leaves⟩
    -- the drained pass leads back to where it began
    have cycle := (drains_reaches recovering drains).tail (verify_again handed)
    refine not_leaves_of_cycle cycle ?_
    rw [leaves_iff_of_reaches (drains_reaches recovering drains).to_reflTransGen]
    exact leaves
  · refine iff_of_true (leaves_of_exit round) fun later leads => ?_
    rw [round] at leads
    cases leads

/-! ### The loop -/

theorem routeAfterWritebackRecovery_recovery
    (leads : routeAfterWritebackRecovery state = .inl .writebackRecovery) :
    state.halted = false ∧ state.needManualResolution = false
      ∧ state.needWritebackRecovery = true := by
  unfold routeAfterWritebackRecovery at leads
  split_ifs at leads with halted manual recovery replan
  · exact ⟨Bool.eq_false_iff.mpr halted, Bool.eq_false_iff.mpr manual, recovery⟩
  · cases leads

theorem afterTarget_mapped (state : GraphState) (targets : Targets) (rest : List OutboxId)
    (done : WritebackRecoveryResult × WritebackState) :
    (state.afterTarget targets rest done).statusMap ≠ some [] := by
  unfold GraphState.afterTarget
  split_ifs <;> exact storedMap_ne _

theorem goesOn_recovery
    (stays : GoesOn fixed.next (.writebackRecovery, state) (.writebackRecovery, later)) :
    Recovering later := by
  rcases route : routeAfterWritebackRecovery (fixed.recoveryNode state) with node | exit
  · simp only [GoesOn, next, route] at stays
    obtain ⟨rfl, rfl⟩ := stays
    obtain ⟨halted, manual, asked⟩ := routeAfterWritebackRecovery_recovery route
    refine ⟨asked, ?_⟩
    rcases first : (fixed.targets state).recoverable with _ | ⟨key, rest⟩
    · simp only [recoveryNode, first, GraphState.withoutTargets] at halted manual asked
      split_ifs at halted manual asked
    · simp only [recoveryNode, first]
      exact afterTarget_mapped _ _ _ _
  · simp only [GoesOn, next, route] at stays
    cases stays

def ClearsAt (fixed : Fixed) : Node → GraphState → Prop
  | .verify, state => fixed.VerifyClears state
  | .writebackRecovery, state => fixed.Ends state
      ∨ (fixed.Drains state ∧ fixed.VerifyClears (fixed.passed state []))

/-- **When the loop leaves.** From verify: what it hands over, if anything, is a pass that ends.
From recovery: after one visit, which completes the map of statuses, the rest of the pass ends, or
it drains the targets and verify then hands over a pass that ends. -/
def Clears (fixed : Fixed) : Node → GraphState → Prop
  | .verify, state => fixed.ClearsAt .verify state
  | .writebackRecovery, state => ∀ node later,
      fixed.next (.writebackRecovery, state) = .inl (node, later) → fixed.ClearsAt node later

theorem leaves_after_visit (round : GoesOn fixed.next (.writebackRecovery, state) (node, later)) :
    Leaves fixed.next (node, later) ↔ fixed.ClearsAt node later := by
  cases node with
  | verify => exact leaves_verify_iff
  | writebackRecovery =>
    unfold ClearsAt
    rw [leaves_recovery_iff (goesOn_recovery round), leaves_verify_iff]

end Fixed

/-! ### A confirmation without evidence -/

def acknowledgedDb : Db :=
  let db := Verify.containedDb .required Verify.blockedAddress
  { db with
    receipts := db.receipts.set 5 [Sync.localReceipt .confirmed (some .adapterAcknowledged)] }

def confirmingPort : SyncPort where
  lookup := fun _ => .answers (some .confirmed)
  retryRaises := fun _ => false

def acknowledged : Fixed where
  event := 1
  db := acknowledgedDb
  plan := some Verify.containedPlan
  policyRequired := true
  agent := some (Verify.observingEnv, true)
  arrangeWritebacks := id
  arrangeActions := id
  sameWritebacks := List.Perm.refl
  sameActions := List.Perm.refl
  resolvers := true
  port := some confirmingPort

def executedState : GraphState where
  halted := false
  overallStatus := none
  needActionReplan := false
  needWritebackRecovery := false
  needManualResolution := false
  failedWritebacks := []
  recoverableWritebackIds := []
  pendingWritebackActionIds := []
  writebackStatus := none
  statusMap := none
  lookupCount := 0
  retryCount := 0
  readiness := .ready
  executionOk := true

end ShadowTrace.Recovery
