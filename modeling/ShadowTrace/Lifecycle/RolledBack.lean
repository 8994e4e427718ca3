/-
**An undone action has a successful rollback.**

An original action becomes `rolledBack` by a compare-and-set of the process that has graded its
rollback. `Undone` asks that a rollback action of it then stands in `success`. Three kinds of steps
break it; `steady` asks for the state in which none does harm:

* the grading process fails the rollback action although another one has already used its success;
* a process whose execution raised, for instance on a claim held by another one, does the same;
* a process that graded earlier undoes the original after the rollback was failed.
-/

import ShadowTrace.Lifecycle.Legal

namespace ShadowTrace.Lifecycle

open Relational Execution Machine

/-! ### Rollback actions and the actions they undo -/

/-- A rollback action of the original. -/
def Undoes (db : Db) (original rollback : ActionId) : Prop :=
  ∃ row, db.actions.get rollback = some row ∧ row.category = .rollback
    ∧ row.sourceActionId = some original

def rollbackPair : RollbackMemory → Option (ActionId × ActionId)
  | .executing original _ rollback | .executed original _ rollback _
  | .effective original _ rollback => some (original, rollback)
  | .idle | .registering _ | .compensating _ _ => none

/-- Fingerprints and processes name the original that the rollback row names. -/
structure Paired (w : World) : Prop where
  rows : ∀ id row, w.db.actions.get id = some row → ∀ event revision original tool,
    row.actionFingerprint = .rollback event revision original tool →
    row.sourceActionId = some original
  processes : ∀ p original rollback, rollbackPair (w.rollback p) = some (original, rollback) →
    Undoes w.db original rollback

variable {rollback id : ActionId} {row : ActionRow} {status : ActionStatus}

section Step

variable {cfg : Settings} {w : World} {op : Op} {original : ActionId}

theorem Undoes.step (undoes : Undoes w.db original rollback) :
    Undoes (step cfg w op).db original rollback := by
  obtain ⟨row, found, category, linked⟩ := undoes
  obtain ⟨next, reached, moved⟩ := (step_effects cfg w op).actions.old rollback row found
  have source : next.sourceActionId = row.sourceActionId :=
    (congrArg ActionRow.sourceActionId moved.identity :)
  exact ⟨next, reached, (category_of_identity moved.identity).trans category, source.trans linked⟩

theorem step_pairedRow (paired : Paired w)
    (found : (step cfg w op).db.actions.get id = some row) {event : EventId}
    {revision : Nat} {tool : Tool}
    (fingerprint : row.actionFingerprint = .rollback event revision original tool) :
    row.sourceActionId = some original := by
  obtain ⟨earlier, there, moved⟩ | ⟨-, born⟩ := (step_effects cfg w op).actions.row_after found
  · have same : row.actionFingerprint = earlier.actionFingerprint :=
      (congrArg ActionRow.actionFingerprint moved.identity :)
    have source : row.sourceActionId = earlier.sourceActionId :=
      (congrArg ActionRow.sourceActionId moved.identity :)
    rw [source]
    exact paired.rows id earlier there event revision original tool (same.symm.trans fingerprint)
  · cases born with
    | rollback =>
      obtain ⟨-, -, same, -⟩ := Fingerprint.rollback.inj fingerprint
      exact congrArg some same
    | planned | dispositionOnly | verification | report => cases fingerprint

theorem rollbackPair_continue {seen : ActionStatus} {pair : ActionId × ActionId}
    (works : rollbackPair (continueRollback original seen rollback status) = some pair) :
    pair = (original, rollback) := by
  cases status <;> first | exact (Option.some.inj works).symm | cases works

theorem step_paired (cfg : Settings) (w : World) (op : Op) (sound : Sound w)
    (paired : Paired w) : Paired (step cfg w op) where
  rows id row found event revision original tool fingerprint :=
    step_pairedRow paired found fingerprint
  processes p original rollback works := by
    have moved := step_rollback cfg w op p
    have known := paired.processes p
    generalize (step cfg w op).rollback p = next at moved works
    generalize w.rollback p = here at moved known
    cases moved with
    | kept | returned | graded => exact (known original rollback works).step
    | dropped | undone => cases works
    | started _ _ _ reached fingerprint =>
      obtain ⟨rfl, rfl⟩ := Prod.mk.inj (rollbackPair_continue works)
      have category := (step_soundRow sound reached).fingerprint
      rw [fingerprint] at category
      exact ⟨_, reached, category.symm, step_pairedRow paired reached fingerprint⟩
    | completed _ found category linked | resumed _ found category linked =>
      cases works
      exact Undoes.step ⟨_, found, category, linked⟩

end Step

section Undoing

variable {cfg : Settings} {w : World} {op : Op}

/-- **Only the compare-and-set of a graded rollback undoes an action.** -/
theorem ActionMove.rolledBack_by {after : Db} {next : ActionRow}
    (moved : ActionMove cfg w op after id row next) (undone : next.status = .rolledBack) :
    row.status = .rolledBack ∨ ∃ p now seen rollback, op = .rollback p (.cas now)
      ∧ w.rollback p = .effective id seen rollback := by
  -- the edges of the table end an execution elsewhere
  have executing : ∀ {category : ActionCategory},
      ActionStatus.rolledBack ∉ actionStatusTransitions category .executing := by
    intro category
    cases category <;> decide
  cases moved with
  | kept | bound => exact .inl undone
  | synced _ projected =>
    obtain same | ⟨-, legal⟩ := projected.status
    · exact .inl (same.symm.trans undone)
    · rw [undone] at legal
      exact absurd (validateAction_eq_ok.mp legal).edge executing
  | attached _ _ _ _ _ done =>
    obtain ⟨-, reached, -⟩ := attachedRow_eq_ok done
    rw [undone] at reached
    split at reached
    · cases reached
    · exact absurd reached.symm mapJobToActionStatus_ne.2.2
  | finished _ _ _ done =>
    obtain ⟨reached, -⟩ := movedRow_eq_ok done
    exact absurd (reached.symm.trans undone) mapJobToActionStatus_ne.2.2
  | @followed now target cause verdict legal =>
    rw [show target = ActionStatus.rolledBack from undone] at legal
    exact absurd (validateAction_eq_ok.mp legal).edge executing
  | @resolved resolution now cause doubtful legal => cases resolution <;> cases undone
  | evaluated _ _ _ decided => exact absurd (decided.symm.trans undone) Approval.target_ne.2.2
  | @decided manifest bindingValid req now cycle record cause recorded legal =>
    cases operation : req.operation <;> rw [operation] at undone <;> cases undone
  | rolledBack cause held => exact .inr ⟨_, _, _, _, cause, held⟩
  | @verified outcome now cause category running => cases outcome <;> cases undone
  | _ => cases undone

theorem ActionBorn.not_rolledBack (born : ActionBorn w op id row) : row.status ≠ .rolledBack := by
  cases born with
  | @rollback p original automated env now source tool key cause found checked =>
    show (Rollback.rollbackInitialStatus tool.level automated).1 ≠ .rolledBack
    unfold Rollback.rollbackInitialStatus
    split <;> nofun
  | _ => nofun

end Undoing

/-! ### Consistency -/

/-- **Rollback consistency.** Every undone action has a rollback action that succeeded. -/
def Undone (db : Db) : Prop :=
  ∀ id row, db.actions.get id = some row → row.status = .rolledBack →
    ∃ rollback undoing, db.actions.get rollback = some undoing ∧ undoing.category = .rollback
      ∧ undoing.sourceActionId = some id ∧ undoing.status = .success

def hasStatus (db : Db) (id : ActionId) (status : ActionStatus) : Bool :=
  (db.actions.get id).any fun row => row.status == status

theorem hasStatus_iff {db : Db} (found : db.actions.get id = some row) :
    hasStatus db id status = true ↔ row.status = status := by
  rw [hasStatus, found, Option.any_some, beq_iff_eq]

/-- **A step that keeps the verdicts in line.** A rollback is given up only while its original still
stands, and an original is undone only while the rollback still counts as a success. -/
def steady (w : World) : Op → Bool
  | .rollback p (.raised _) =>
    match w.rollback p with
    | .executing original _ _ => !hasStatus w.db original .rolledBack
    | _ => true
  | .rollback p (.grade (some false) _) =>
    match w.rollback p with
    | .executed original _ _ .success => !hasStatus w.db original .rolledBack
    | _ => true
  | .rollback p (.cas _) =>
    match w.rollback p with
    | .effective _ _ rollback => hasStatus w.db rollback .success
    | _ => true
  | _ => true

section Consistency

variable {cfg : Settings} {w : World} {op : Op}

theorem GivesUp.not_rolledBack {original : ActionId} {undoing : ActionRow} (paired : Paired w)
    (quiet : steady w op = true) (found : w.db.actions.get original = some row)
    (stored : w.db.actions.get rollback = some undoing)
    (linked : undoing.sourceActionId = some original) (gives : GivesUp w rollback op) :
    row.status ≠ .rolledBack := by
  intro undone
  -- the process that gives up works on this very original
  have same : ∀ {p : ProcId} {other : ActionId},
      rollbackPair (w.rollback p) = some (other, rollback) → other = original := by
    intro p other works
    obtain ⟨_, there, -, source⟩ := paired.processes p other rollback works
    obtain rfl := Option.mem_unique stored there
    exact Option.mem_unique source linked
  have back : hasStatus w.db original .rolledBack = true := (hasStatus_iff found).mpr undone
  cases gives with
  | raised held | refuted held =>
    obtain rfl := same (by rw [held]; rfl)
    simp only [steady, held, back] at quiet
    cases quiet

theorem success_kept {original : ActionId} {undoing next : ActionRow} (sound : Sound w)
    (paired : Paired w) (quiet : steady w op = true)
    (found : w.db.actions.get original = some row) (undone : row.status = .rolledBack)
    (stored : w.db.actions.get rollback = some undoing)
    (category : undoing.category = .rollback) (linked : undoing.sourceActionId = some original)
    (success : undoing.status = .success)
    (moved : ActionMove cfg w op (step cfg w op).db rollback undoing next) :
    next.status = .success := by
  obtain same | ⟨gives, -⟩ := moved.ended_still sound stored category (.inl success)
  · exact same.trans success
  · exact absurd undone (gives.not_rolledBack paired quiet found stored linked)

theorem step_undone (sound : Sound w) (paired : Paired w) (undone : Undone w.db)
    (quiet : steady w op = true) : Undone (step cfg w op).db := by
  intro id _ found back
  have effects := (step_effects cfg w op).actions
  -- the rollback keeps its link, so its status is what is left to show
  have keeps : ∀ rollback undoing, w.db.actions.get rollback = some undoing →
      undoing.category = .rollback → undoing.sourceActionId = some id →
      (∀ next, ActionMove cfg w op (step cfg w op).db rollback undoing next →
        next.status = .success) →
      ∃ rollback undoing, (step cfg w op).db.actions.get rollback = some undoing
        ∧ undoing.category = .rollback ∧ undoing.sourceActionId = some id
        ∧ undoing.status = .success := by
    intro rollback undoing stored category linked success
    obtain ⟨next, reached, moved⟩ := effects.old rollback undoing stored
    have source : next.sourceActionId = undoing.sourceActionId :=
      (congrArg ActionRow.sourceActionId moved.identity :)
    exact ⟨rollback, next, reached, (category_of_identity moved.identity).trans category,
      source.trans linked, success next moved⟩
  obtain ⟨earlier, there, moved⟩ | ⟨-, born⟩ := effects.row_after found
  · obtain before | ⟨p, _, _, rollback, rfl, held⟩ := moved.rolledBack_by back
    · obtain ⟨rollback, undoing, stored, category, linked, success⟩ :=
        undone id earlier there before
      exact keeps rollback undoing stored category linked fun _ =>
        success_kept sound paired quiet there before stored category linked success
    · obtain ⟨undoing, stored, category, linked⟩ :=
        paired.processes p id rollback (by rw [held]; rfl)
      have success : undoing.status = .success := by
        simp only [steady, held] at quiet
        exact (hasStatus_iff stored).mp quiet
      refine keeps rollback undoing stored category linked fun next moves => ?_
      obtain same | ⟨gives, -⟩ := moves.ended_still sound stored category (.inl success)
      · exact same.trans success
      · cases gives
  · exact absurd back born.not_rolledBack

end Consistency

variable (cfg : Settings) (around : Surroundings) (ops : List Op)

theorem initial_paired : Paired (World.initial around) where
  rows id row found := by cases found
  processes p original rollback works := by cases works

theorem run_paired :
    Paired (run (step cfg) (World.initial around) ops) := by
  refine (run_invariant_of_step (fun w => Sound w ∧ Paired w) ?_
    ⟨initial_sound .., initial_paired ..⟩ ops).2
  rintro w op ⟨sound, paired⟩
  exact ⟨step_sound cfg w op sound, step_paired cfg w op sound paired⟩

/-- **Every undone action has a successful rollback**, in every state that steady steps reach:
requests, approvals, completions, replays and repairs in any order, with any readbacks. -/
theorem undone_by_success (quiet : Along (step cfg)
      (fun w op => steady w op = true) (World.initial around) ops) :
    Undone (run (step cfg) (World.initial around) ops).db := by
  have none : Undone (World.initial around).db := fun id row found => by cases found
  refine (run_invariant (fun w op => steady w op = true)
    (fun w => Sound w ∧ Paired w ∧ Undone w.db) ?_
    ⟨initial_sound .., initial_paired .., none⟩ quiet).2.2
  rintro w op ⟨sound, paired, undone⟩ calm
  exact ⟨step_sound cfg w op sound, step_paired cfg w op sound paired,
    step_undone sound paired undone calm⟩

def sampleUndo : List Op :=
  sampleRollback ++ [.rollback 0 (.grade (some true) 4), .rollback 0 (.cas 5)]

set_option maxRecDepth 2000 in
theorem undone_by_success_request :
    Along (step (sampleSettings 3)) (fun w op => steady w op = true)
        (World.initial {}) sampleUndo
      ∧ hasStatus (run (step (sampleSettings 3)) (World.initial {})
        sampleUndo).db 1 .rolledBack = true
      ∧ Undone (run (step (sampleSettings 3)) (World.initial {})
        sampleUndo).db := by
  have quiet : Along (step (sampleSettings 3)) (fun w op => steady w op = true)
      (World.initial {}) sampleUndo := by decide
  exact ⟨quiet, by decide,
    undone_by_success (sampleSettings 3) {} sampleUndo quiet⟩

set_option maxRecDepth 2000 in
/-- **A replay fails the rollback of an undone action.** The completion is called again after the
original was undone, and this time the readback contradicts the effect. -/
theorem undone_then_failed :
    ¬ Undone (run (step (sampleSettings 3)) (World.initial {})
      (sampleUndo
        ++ [.rollback 1 (.completeApproved 2), .rollback 1 (.grade (some false) 6)])).db := by
  intro undone
  obtain ⟨rollback, undoing, stored, category, -, success⟩ := undone 1 _ rfl (by decide)
  -- the only rollback action is the failed one
  have only : ∀ entry ∈ (run (step (sampleSettings 3)) (World.initial {})
      (sampleUndo ++ [.rollback 1 (.completeApproved 2),
        .rollback 1 (.grade (some false) 6)])).db.actions.rows,
      entry.2.category = .rollback → entry.2.status ≠ .success := by decide
  exact only (rollback, undoing) (Table.mem_rows.mpr stored) category success

end ShadowTrace.Lifecycle
