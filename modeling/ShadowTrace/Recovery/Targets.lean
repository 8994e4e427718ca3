/-
**What one visit leaves to the next.**

A visit of the recovery node refreshes its targets and their statuses from the stored outboxes, and
stores what it has found. With fixed rows the next visit finds nothing to refresh.

Only a checkpoint with an empty map of statuses is different. Its first visit takes every target
without a stored status for one that has none; the map is then stored as none, and later visits read
the scalar status in its place. `Recovering` excludes this for states the two nodes produce.
-/

import ShadowTrace.Recovery.Graph

namespace ShadowTrace.Recovery

/-! ### Maps of statuses -/

section

variable {map : StatusMap} {key other : OutboxId} {status : WritebackStatus}

theorem lookup_assign_self : (map.assign key status).lookup key = some (some status) := by
  unfold StatusMap.assign
  split_ifs with there
  · exact there
  · exact List.lookup_cons_self

theorem lookup_assign_of_ne (differ : other ≠ key) :
    (map.assign key status).lookup other = map.lookup other := by
  unfold StatusMap.assign
  split_ifs with there
  · rfl
  · rw [List.lookup_cons, beq_eq_false_iff_ne.mpr differ]

theorem assign_ne_nil : map.assign key status ≠ [] := by
  unfold StatusMap.assign
  split_ifs with there
  · rintro rfl
    cases there
  · exact List.cons_ne_nil _ _

theorem storedMap_ne (map : StatusMap) : (if map.isEmpty then none else some map) ≠ some [] := by
  split_ifs with empty
  · exact (Option.some_ne_none _).symm
  · intro none_
    exact empty (List.isEmpty_iff.mpr (Option.some.inj none_))

end

namespace Fixed

variable {fixed : Fixed}

/-! ### The targets of the next visit -/

section

variable {map : StatusMap} {key other : OutboxId} {status : WritebackStatus}
  {recoverable : List OutboxId}

/-- The status map shows what is stored. -/
def Current (fixed : Fixed) (recoverable : List OutboxId) (map : StatusMap) : Prop :=
  ∀ key ∈ recoverable, ∀ status, fixed.storedStatus key = some status →
    map.lookup key = some (some status)

theorem refreshStatus_self (stored : fixed.storedStatus key = some status) :
    (fixed.refreshStatus map key).lookup key = some (some status) := by
  simp only [refreshStatus, stored]
  exact lookup_assign_self

theorem refreshStatus_keeps (stored : fixed.storedStatus key = some status)
    (there : map.lookup key = some (some status)) :
    (fixed.refreshStatus map other).lookup key = some (some status) := by
  by_cases same : key = other
  · rw [← same]
    exact refreshStatus_self stored
  unfold refreshStatus
  split
  · rw [lookup_assign_of_ne same]
    exact there
  · exact there

theorem refreshStatus_ne_nil (known : map ≠ []) : fixed.refreshStatus map key ≠ [] := by
  unfold refreshStatus
  split
  · exact assign_ne_nil
  · exact known

theorem foldl_refreshStatus_keeps (stored : fixed.storedStatus key = some status)
    (there : map.lookup key = some (some status)) :
    (recoverable.foldl fixed.refreshStatus map).lookup key = some (some status) := by
  induction recoverable generalizing map with
  | nil => exact there
  | cons _ _ ih => exact ih (refreshStatus_keeps stored there)

theorem refreshRecoverableStatuses_current (wired : fixed.resolvers = true) :
    fixed.Current recoverable (fixed.refreshRecoverableStatuses recoverable map) := by
  simp only [refreshRecoverableStatuses, wired]
  intro _ listed _ stored
  induction recoverable generalizing map with
  | nil => cases listed
  | cons _ _ ih =>
    rw [List.foldl_cons]
    rcases List.mem_cons.mp listed with rfl | later
    · exact foldl_refreshStatus_keeps stored (refreshStatus_self stored)
    · exact ih later

theorem foldl_refreshStatus_of_current (current : fixed.Current recoverable map) :
    recoverable.foldl fixed.refreshStatus map = map := by
  induction recoverable with
  | nil => rfl
  | cons head _ ih =>
    have same : fixed.refreshStatus map head = map := by
      unfold refreshStatus
      split
      next status stored => exact if_pos (current head (List.mem_cons_self ..) status stored)
      next => rfl
    rw [List.foldl_cons, same]
    exact ih fun key listed => current key (List.mem_cons_of_mem _ listed)

theorem refreshRecoverableStatuses_of_current
    (current : fixed.resolvers = true → fixed.Current recoverable map) :
    fixed.refreshRecoverableStatuses recoverable map = map := by
  unfold refreshRecoverableStatuses
  split_ifs with wired
  · exact foldl_refreshStatus_of_current (current wired)
  · rfl

theorem refreshRecoverableStatuses_ne_nil (known : map ≠ []) :
    fixed.refreshRecoverableStatuses recoverable map ≠ [] := by
  unfold refreshRecoverableStatuses
  split_ifs with wired
  · induction recoverable generalizing map with
    | nil => exact known
    | cons _ _ ih => exact ih (refreshStatus_ne_nil known)
  · exact known

end

section Pending

variable {targets : Targets} {found : List (OutboxId × WritebackStatus)} {actions : List ActionId}

def Outboxless (fixed : Fixed) (actions : List ActionId) : Prop :=
  ∀ action ∈ actions, fixed.actionOutboxes action = []

theorem foldl_promote_pending :
    (found.foldl Targets.promote targets).pending = targets.pending := by
  induction found generalizing targets with
  | nil => rfl
  | cons _ _ ih => exact ih

theorem foldl_promote_ne_nil (known : targets.statusMap ≠ []) :
    (found.foldl Targets.promote targets).statusMap ≠ [] := by
  induction found generalizing targets with
  | nil => exact known
  | cons _ _ ih => exact ih assign_ne_nil

theorem refreshPendingAction_outboxless {action : ActionId}
    (clear : fixed.Outboxless targets.pending) :
    fixed.Outboxless (fixed.refreshPendingAction targets action).pending := by
  unfold refreshPendingAction
  split
  next none_ =>
    intro one listed
    rcases List.mem_append.mp listed with old | new
    · exact clear one old
    · rw [List.mem_singleton.mp new]
      exact none_
  next =>
    rw [foldl_promote_pending]
    exact clear

theorem foldl_refreshPendingAction_outboxless (clear : fixed.Outboxless targets.pending) :
    fixed.Outboxless (actions.foldl fixed.refreshPendingAction targets).pending := by
  induction actions generalizing targets with
  | nil => exact clear
  | cons _ _ ih => exact ih (refreshPendingAction_outboxless clear)

theorem foldl_refreshPendingAction_of_outboxless (clear : fixed.Outboxless actions) :
    actions.foldl fixed.refreshPendingAction targets
      = { targets with pending := targets.pending ++ actions } := by
  induction actions generalizing targets with
  | nil => rw [List.append_nil]; rfl
  | cons head _ ih =>
    have stays : fixed.refreshPendingAction targets head
        = { targets with pending := targets.pending ++ [head] } := by
      simp only [refreshPendingAction, clear head (List.mem_cons_self ..)]
    rw [List.foldl_cons, stays, ih fun one listed => clear one (List.mem_cons_of_mem _ listed)]
    simp

theorem foldl_refreshPendingAction_ne_nil (known : targets.statusMap ≠ []) :
    (actions.foldl fixed.refreshPendingAction targets).statusMap ≠ [] := by
  induction actions generalizing targets with
  | nil => exact known
  | cons _ _ ih =>
    refine ih ?_
    unfold refreshPendingAction
    split
    · exact known
    · exact foldl_promote_ne_nil known

end Pending

/-! ### What a visit stores -/

variable {state later : GraphState} {remaining : List OutboxId}

theorem targets_current (wired : fixed.resolvers = true) (state : GraphState) :
    fixed.Current (fixed.targets state).recoverable (fixed.targets state).statusMap :=
  refreshRecoverableStatuses_current wired

theorem targets_outboxless (wired : fixed.resolvers = true) (state : GraphState) :
    fixed.Outboxless (fixed.targets state).pending := by
  simp only [targets, refreshPendingActionTargets, wired]
  exact foldl_refreshPendingAction_outboxless fun _ listed => absurd listed (List.not_mem_nil)

theorem targets_ne_nil (known : state.statusMap.getD [] ≠ []) :
    (fixed.targets state).statusMap ≠ [] := by
  refine refreshRecoverableStatuses_ne_nil ?_
  unfold refreshPendingActionTargets
  split_ifs with wired
  · exact foldl_refreshPendingAction_ne_nil known
  · exact known

/-- The state after a recovery that keeps `remaining`. -/
structure Kept (targets : Targets) (remaining : List OutboxId) (later : GraphState) : Prop where
  failed : later.failedWritebacks = remaining.map .writeback
  recoverable : later.recoverableWritebackIds = remaining
  pending : later.pendingWritebackActionIds = targets.pending
  statusMap : later.statusMap = if targets.statusMap.isEmpty then none else some targets.statusMap

variable {targets : Targets}

theorem Kept.normalized (kept : Kept targets remaining later) :
    normalizeRecoveryTargets later = (remaining, targets.pending) := by
  simp only [normalizeRecoveryTargets, kept.failed, kept.recoverable, kept.pending]
  cases remaining <;> cases targets.pending <;> rfl

theorem Kept.map (kept : Kept targets remaining later) :
    later.statusMap.getD [] = targets.statusMap := by
  rw [kept.statusMap]
  split_ifs with empty
  · exact (List.isEmpty_iff.mp empty).symm
  · rfl

/-- **The next visit** works on what is left of the same targets. -/
theorem targets_of_kept (part : ∀ key ∈ remaining, key ∈ (fixed.targets state).recoverable)
    (kept : Kept (fixed.targets state) remaining later) :
    fixed.targets later
      = ⟨remaining, (fixed.targets state).pending, (fixed.targets state).statusMap⟩ := by
  have pending : fixed.refreshPendingActionTargets
      ⟨remaining, (fixed.targets state).pending, (fixed.targets state).statusMap⟩
      = ⟨remaining, (fixed.targets state).pending, (fixed.targets state).statusMap⟩ := by
    unfold refreshPendingActionTargets
    split_ifs with wired
    · rw [foldl_refreshPendingAction_of_outboxless (targets_outboxless wired state)]
      rfl
    · rfl
  have statuses : fixed.refreshRecoverableStatuses remaining (fixed.targets state).statusMap
      = (fixed.targets state).statusMap :=
    refreshRecoverableStatuses_of_current fun wired key listed =>
      targets_current wired state key (part key listed)
  rw [targets, kept.normalized, kept.map]
  simp only [pending, statuses]

/-- The state has come to the recovery node from one of the two nodes. -/
structure Recovering (state : GraphState) : Prop where
  asked : state.needWritebackRecovery = true
  mapped : state.statusMap ≠ some []

theorem Kept.mapped (kept : Kept targets remaining later) : later.statusMap ≠ some [] := by
  rw [kept.statusMap]
  exact storedMap_ne _

theorem Recovering.known (recovering : Recovering state) :
    (state.statusMap.isSome || !(fixed.targets state).statusMap.isEmpty)
      = !(fixed.targets state).statusMap.isEmpty := by
  rcases stored : state.statusMap with _ | map
  · rfl
  have known : (fixed.targets state).statusMap ≠ [] := by
    refine targets_ne_nil ?_
    rw [stored]
    exact fun empty => recovering.mapped (stored.trans (congrArg some empty))
  simp [known]

theorem status_of_kept (recovering : Recovering state)
    (part : ∀ key ∈ remaining, key ∈ (fixed.targets state).recoverable)
    (kept : Kept (fixed.targets state) remaining later)
    (scalar : later.writebackStatus = state.writebackStatus) (key : OutboxId) :
    fixed.status later key = fixed.status state key := by
  have known : (later.statusMap.isSome || !(fixed.targets state).statusMap.isEmpty)
      = !(fixed.targets state).statusMap.isEmpty := by
    rw [kept.statusMap]
    by_cases empty : (fixed.targets state).statusMap.isEmpty = true <;> simp [empty]
  simp only [status, targets_of_kept part kept, known, recovering.known, scalar]

end Fixed

end ShadowTrace.Recovery
