/-
**The checkpoint of a source stream** (`app/ingestion/source_ingester.py`).

A poller reads the checkpoint of its connector and object kind, ingests page after page, and after
each page replaces the checkpoint by a conditional statement: an insert that does nothing when there
is a row, or an update of the row version it knows. Status updates raise the version too.
-/

import Mathlib.Data.Int.Order.Basic
import Mathlib.Data.List.Induction
import Mathlib.Order.Nat
import ShadowTrace.Lib.Runs

namespace ShadowTrace.Polling

open Machine

variable {χ ω : Type}

/-! ### Watermarks -/

/-- How far a stream has been read: the cursor of a page, and the newest stamp. -/
structure Watermark (χ : Type) where
  cursor : Option χ
  updatedAfter : Option Int
  deriving DecidableEq

/-- A page of a listing, with the cursor of the next one. -/
structure SourcePage (χ ω : Type) where
  items : List ω
  nextCursor : Option χ
  hasMore : Bool

section

variable (watermark : Option (Watermark χ)) (stamp : ω → Option Int) (before : Option (Watermark χ))
  (page : SourcePage χ ω)

def watermarkCursor : Option χ :=
  watermark.bind Watermark.cursor

def watermarkTime : Option Int :=
  watermark.bind Watermark.updatedAfter

/-- The newest stamp of a page; items without one do not count. -/
def maxItemUpdatedAfter : Option Int :=
  (page.items.filterMap stamp).max?

/-- The later of two stamps; one that is missing loses. -/
def laterUpdatedAfter : Option Int → Option Int → Option Int
  | none, right => right
  | left, none => left
  | some left, some right => if left ≤ right then some right else some left

/-- `_next_watermark`: only the last page of a chain moves the time. -/
def nextWatermark : Watermark χ where
  cursor := page.nextCursor
  updatedAfter :=
    if page.hasMore then watermarkTime before
    else if page.items.isEmpty then watermarkTime before
    else laterUpdatedAfter (watermarkTime before) (maxItemUpdatedAfter stamp page)

/-- A watermark that goes back in time; one without a time never does. -/
def watermarkIsRegression (current : Option (Watermark χ)) (incoming : Watermark χ) : Bool :=
  match watermarkTime current, incoming.updatedAfter with
  | some known, some new => decide (new < known)
  | _, _ => false

/-! ### The row -/

inductive ConnectorStatus
  | online | degraded | offline | unknown
  deriving DecidableEq

/-- The row of `source_checkpoint` for one stream. -/
structure CheckpointRow (χ : Type) where
  watermark : Option (Watermark χ)
  rowVersion : Nat
  status : ConnectorStatus
  degradedReason : Option String
  deriving DecidableEq

/-- What a poller holds of the row between its commits. -/
structure CheckpointState (χ : Type) where
  watermark : Option (Watermark χ)
  rowVersion : Option Nat

def loadCheckpoint : Option (CheckpointRow χ) → CheckpointState χ
  | none => ⟨none, none⟩
  | some row => ⟨row.watermark, some row.rowVersion⟩

/-- The causes of a `CheckpointConflictError`. -/
inductive CheckpointConflict
  | watermarkRegression | insertConflict | rowVersionConflict

/-- An insert if the poller knows of no row, an update of the version it knows otherwise. -/
def commitCheckpoint (known : CheckpointState χ) (watermark : Watermark χ)
    (row : Option (CheckpointRow χ)) : Except CheckpointConflict (CheckpointRow χ) :=
  if watermarkIsRegression known.watermark watermark then .error .watermarkRegression
  else
    match known.rowVersion, row with
    | none, none => .ok ⟨some watermark, 1, .online, none⟩
    | none, some _ => .error .insertConflict
    | some _, none => .error .rowVersionConflict
    | some version, some row =>
      if row.rowVersion = version then .ok ⟨some watermark, version + 1, .online, none⟩
      else .error .rowVersionConflict

def categoryOrNone (category : String) : Option String :=
  if category = "" then none else some category

/-- A status update; it raises the version and leaves the watermark alone. -/
def markKindCheckpoint (status : ConnectorStatus) (category : String) :
    Option (CheckpointRow χ) → CheckpointRow χ
  | none => ⟨none, 1, status, categoryOrNone category⟩
  | some row =>
    { row with
      rowVersion := row.rowVersion + 1, status, degradedReason := categoryOrNone category }

/-- The version of a row, zero before there is one. -/
def versionOf (row : Option (CheckpointRow χ)) : Nat := (row.map CheckpointRow.rowVersion).getD 0

/-- The stored `updated_after`. -/
def storedTime (row : Option (CheckpointRow χ)) : Option Int :=
  watermarkTime (row.bind CheckpointRow.watermark)

/-- A known time stays known and does not go back. -/
def NotBefore (old new : Option Int) : Prop :=
  ∀ time, old = some time → ∃ later, new = some later ∧ time ≤ later

theorem NotBefore.refl (time : Option Int) : NotBefore time time :=
  fun value known => ⟨value, known, le_refl value⟩

theorem laterUpdatedAfter_not_before (left right : Option Int) :
    NotBefore left (laterUpdatedAfter left right) := by
  rintro time rfl
  cases right with
  | none => exact ⟨time, rfl, le_refl time⟩
  | some right =>
    show ∃ later, (if time ≤ right then some right else some time) = some later ∧ time ≤ later
    split_ifs with later
    · exact ⟨right, rfl, later⟩
    · exact ⟨time, rfl, le_refl time⟩

theorem laterUpdatedAfter_eq_some {left right : Option Int} {time : Int}
    (later : laterUpdatedAfter left right = some time) : left = some time ∨ right = some time := by
  unfold laterUpdatedAfter at later
  grind

theorem nextWatermark_not_before :
    NotBefore (watermarkTime before) (nextWatermark stamp before page).updatedAfter := by
  unfold nextWatermark
  split_ifs
  · exact .refl _
  · exact .refl _
  · exact laterUpdatedAfter_not_before _ _

end

variable {known : CheckpointState χ} {row : Option (CheckpointRow χ)}

/-- **A commit that takes effect** found the row version its poller knows. -/
theorem commitCheckpoint_eq_ok {watermark : Watermark χ} {after : CheckpointRow χ}
    (done : commitCheckpoint known watermark row = .ok after) :
    row.map CheckpointRow.rowVersion = known.rowVersion
      ∧ after = ⟨some watermark, versionOf row + 1, .online, none⟩ := by
  obtain ⟨_, version⟩ := known
  unfold commitCheckpoint at done
  split_ifs at done
  cases version with
  | none =>
    cases row with
    | none => exact ⟨rfl, (Except.ok.inj done).symm⟩
    | some => cases done
  | some version =>
    cases row with
    | none => cases done
    | some row =>
      by_cases same : row.rowVersion = version
      · simp only [same] at done
        subst same
        exact ⟨rfl, (Except.ok.inj done).symm⟩
      · simp [same] at done

/-! ### Pollers -/

/-- The row of one stream, and what each poller of it holds. -/
structure World (χ : Type) where
  row : Option (CheckpointRow χ)
  pollers : Nat → Option (CheckpointState χ)

def World.fresh : World χ := ⟨none, fun _ => none⟩

/-- A transaction of a poller, its end, or a status update. -/
inductive Label (χ ω : Type)
  | load (poller : Nat)
  | beginUnscoped (poller : Nat)
  | commit (poller : Nat) (page : SourcePage χ ω)
  | stop (poller : Nat)
  | mark (status : ConnectorStatus) (category : String)

/-- The poller that takes the step. -/
def Label.poller : Label χ ω → Option Nat
  | .load poller | .beginUnscoped poller | .commit poller _ | .stop poller => some poller
  | .mark _ _ => none

section

variable (stamp : ω → Option Int) (w : World χ)

def World.setPoller (poller : Nat) (state : Option (CheckpointState χ)) : World χ :=
  { w with pollers := Function.update w.pollers poller state }

/-- A poller whose commit is refused ends. -/
def World.commit (poller : Nat) (page : SourcePage χ ω) : World χ :=
  match w.pollers poller with
  | none => w
  | some known =>
    match commitCheckpoint known (nextWatermark stamp known.watermark page) w.row with
    | .ok row =>
      { w with row := some row }.setPoller poller (some ⟨row.watermark, some row.rowVersion⟩)
    | .error _ => w.setPoller poller none

/-- One transaction on the stream. -/
def step : Label χ ω → World χ
  | .load poller => w.setPoller poller (some (loadCheckpoint w.row))
  | .beginUnscoped poller => w.setPoller poller (some ⟨none, none⟩)
  | .commit poller page => w.commit stamp poller page
  | .stop poller => w.setPoller poller none
  | .mark status category => { w with row := some (markKindCheckpoint status category w.row) }

/-- The state a schedule leads to, from an empty table. -/
def reach (labels : List (Label χ ω)) : World χ :=
  run (step stamp) World.fresh labels

end

/-! ### What a step can do -/

variable {stamp : ω → Option Int} {w : World χ}

/-- Every change a step can make: to what one poller knows, or to the row. -/
inductive Move (stamp : ω → Option Int) (w : World χ) : Label χ ω → World χ → Prop
  | know (label : Label χ ω) (poller : Nat) (state : Option (CheckpointState χ))
      (by_poller : label.poller = some poller)
      (view : ∀ known, state = some known → known = loadCheckpoint w.row ∨ known = ⟨none, none⟩) :
      Move stamp w label (w.setPoller poller state)
  | still (label : Label χ ω) (poller : Nat) (by_poller : label.poller = some poller)
      (absent : w.pollers poller = none) : Move stamp w label w
  | commit (poller : Nat) (page : SourcePage χ ω) (known : CheckpointState χ)
      (found : w.pollers poller = some known)
      (agrees : w.row.map CheckpointRow.rowVersion = known.rowVersion) :
      Move stamp w (.commit poller page)
        ({ w with
            row := some ⟨some (nextWatermark stamp known.watermark page), versionOf w.row + 1,
              .online, none⟩ }.setPoller poller
          (some ⟨some (nextWatermark stamp known.watermark page), some (versionOf w.row + 1)⟩))
  | mark (status : ConnectorStatus) (category : String) :
      Move stamp w (.mark status category)
        { w with row := some (markKindCheckpoint status category w.row) }

theorem step_move (stamp : ω → Option Int) (w : World χ) (label : Label χ ω) :
    Move stamp w label (step stamp w label) := by
  cases label with
  | load poller =>
    refine .know _ poller _ rfl fun known same => .inl ?_
    exact (Option.some.inj same).symm
  | beginUnscoped poller =>
    refine .know _ poller _ rfl fun known same => .inr ?_
    exact (Option.some.inj same).symm
  | stop poller => exact .know _ poller none rfl fun known same => by cases same
  | mark => exact .mark ..
  | commit poller page =>
    show Move stamp w _ (w.commit stamp poller page)
    unfold World.commit
    split
    case h_1 absent => exact .still _ poller rfl absent
    case h_2 known found =>
      split
      case h_2 => exact .know _ poller none rfl fun known same => by cases same
      case h_1 row done =>
        obtain ⟨agrees, rfl⟩ := commitCheckpoint_eq_ok done
        exact .commit poller page known found agrees

/-! ### Versions -/

theorem versionOf_mark (status : ConnectorStatus) (category : String)
    (row : Option (CheckpointRow χ)) :
    versionOf (some (markKindCheckpoint status category row)) = versionOf row + 1 := by
  cases row with
  | none | some => rfl

/-- A step leaves the row alone or raises its version. -/
theorem step_row (stamp : ω → Option Int) (w : World χ) (label : Label χ ω) :
    (step stamp w label).row = w.row ∨ versionOf w.row < versionOf (step stamp w label).row := by
  have move := step_move stamp w label
  generalize step stamp w label = next at move
  cases move with
  | know | still => exact .inl rfl
  | commit => exact .inr (Nat.lt_succ_self _)
  | mark =>
    refine .inr ?_
    rw [versionOf_mark]
    exact Nat.lt_succ_self _

theorem step_version_le (stamp : ω → Option Int) (w : World χ) (label : Label χ ω) :
    versionOf w.row ≤ versionOf (step stamp w label).row := by
  obtain same | raised := step_row stamp w label
  · rw [same]
  · exact Nat.le_of_lt raised

/-- What a poller knows of a row is not ahead of it, and right if the version is. -/
def Sees (known : CheckpointState χ) (row : Option (CheckpointRow χ)) : Prop :=
  known.rowVersion.getD 0 ≤ versionOf row
    ∧ (known.rowVersion = row.map CheckpointRow.rowVersion →
      known.watermark = row.bind CheckpointRow.watermark)

/-- The invariant: every poller sees the row. -/
structure Sound (w : World χ) : Prop where
  view : ∀ poller known, w.pollers poller = some known → Sees known w.row

theorem loadCheckpoint_view (row : Option (CheckpointRow χ)) :
    (loadCheckpoint row).rowVersion = row.map CheckpointRow.rowVersion
      ∧ (loadCheckpoint row).watermark = row.bind CheckpointRow.watermark := by
  cases row with
  | none | some => exact ⟨rfl, rfl⟩

/-- A poller that has just loaded the row, or starts without it, sees it. -/
theorem view_sound (view : known = loadCheckpoint row ∨ known = ⟨none, none⟩) :
    Sees known row := by
  obtain rfl | rfl := view
  · obtain ⟨version, watermark⟩ := loadCheckpoint_view row
    rw [Sees, version]
    exact ⟨Nat.le_refl _, fun _ => watermark⟩
  refine ⟨Nat.zero_le _, fun same => ?_⟩
  cases row with
  | none => rfl
  | some => cases same

/-- A write of somebody else leaves a poller behind the row. -/
theorem Sees.stale {after : Option (CheckpointRow χ)} (sees : Sees known row)
    (raised : versionOf row < versionOf after) : Sees known after := by
  have older := sees.1
  refine ⟨older.trans (Nat.le_of_lt raised), fun same => ?_⟩
  have equal : known.rowVersion.getD 0 = versionOf after := by
    rw [same]
    rfl
  omega

theorem step_sound (stamp : ω → Option Int) (w : World χ) (label : Label χ ω)
    (sound : Sound w) : Sound (step stamp w label) := by
  have raises := step_row stamp w label
  have move := step_move stamp w label
  generalize step stamp w label = next at raises move
  constructor
  intro poller known there
  cases move with
  | know _ _ _ _ view =>
    rcases update_eq_some there with ⟨rfl, same⟩ | ⟨-, kept⟩
    · exact view_sound (view known same)
    · exact sound.view poller known kept
  | still => exact sound.view poller known there
  | commit =>
    rcases update_eq_some there with ⟨rfl, ⟨⟩⟩ | ⟨-, kept⟩
    · exact ⟨Nat.le_refl _, fun _ => rfl⟩
    · exact (sound.view poller known kept).stale (Nat.lt_succ_self _)
  | mark =>
    refine (sound.view poller known there).stale ?_
    rw [versionOf_mark]
    exact Nat.lt_succ_self _

theorem reach_sound (stamp : ω → Option Int) (labels : List (Label χ ω)) :
    Sound (reach stamp labels) := by
  refine run_invariant_of_step Sound (step_sound stamp) ⟨?_⟩ labels
  intro _ _ found
  cases found

theorem Sound.step_time (sound : Sound w) (label : Label χ ω) :
    NotBefore (storedTime w.row) (storedTime (step stamp w label).row) := by
  have move := step_move stamp w label
  generalize step stamp w label = next at move
  cases move with
  | know | still => exact .refl _
  | commit poller page known found agrees =>
    have seen := (sound.view poller known found).2 agrees.symm
    show NotBefore (watermarkTime (w.row.bind CheckpointRow.watermark)) _
    rw [← seen]
    exact nextWatermark_not_before stamp known.watermark page
  | mark =>
    cases found : w.row with
    | none => exact fun _ absurd => by cases absurd
    | some => exact .refl _

/-! ### Since a poller's own last step -/

/-- What a poller holds comes from its own last step. -/
theorem last_step (stamp : ω → Option Int) (labels : List (Label χ ω)) {poller : Nat}
    (found : (reach stamp labels).pollers poller = some known) :
    ∃ earlier own later, labels = earlier ++ own :: later ∧ own.poller = some poller
      ∧ (∀ label ∈ later, label.poller ≠ some poller)
      ∧ known.rowVersion.getD 0 ≤ versionOf (reach stamp (earlier ++ [own])).row := by
  induction labels using List.reverseRecOn with
  | nil => cases found
  | append_singleton labels label ih =>
    by_cases own : label.poller = some poller
    · refine ⟨labels, label, [], rfl, own, List.forall_mem_nil _, ?_⟩
      exact ((reach_sound stamp (labels ++ [label])).view poller known found).1
    have last : reach stamp (labels ++ [label]) = step stamp (reach stamp labels) label :=
      run_append _ _ _
    rw [last] at found
    have kept : (reach stamp labels).pollers poller = some known := by
      have move := step_move stamp (reach stamp labels) label
      generalize step stamp (reach stamp labels) label = next at move found
      cases move with
      | still | mark => exact found
      | know | commit =>
        rcases update_eq_some found with ⟨rfl, -⟩ | ⟨-, kept⟩
        · exact absurd (by first | assumption | rfl) own
        · exact kept
    obtain ⟨earlier, mine, later, rfl, by_poller, others, older⟩ := ih kept
    refine ⟨earlier, mine, later ++ [label], ?_, by_poller, ?_, older⟩
    · rw [List.append_assoc, List.cons_append]
    intro other mem
    rcases List.mem_append.mp mem with before | here
    · exact others other before
    · obtain rfl := List.mem_singleton.mp here
      exact own

theorem commit_effective {poller : Nat} {page : SourcePage χ ω}
    (changed : (step stamp w (.commit poller page)).row ≠ w.row) :
    ∃ known, w.pollers poller = some known
      ∧ w.row.map CheckpointRow.rowVersion = known.rowVersion := by
  have move := step_move stamp w (.commit poller page)
  generalize step stamp w (.commit poller page) = next at move changed
  cases move with
  | know | still => exact absurd rfl changed
  | commit _ _ known found agrees => exact ⟨known, found, agrees⟩

/-- Between two states of one version nobody has written the row. -/
theorem row_kept (stamp : ω → Option Int) (w : World χ) (labels : List (Label χ ω))
    (same : versionOf (run (step stamp) w labels).row = versionOf w.row)
    {before after : World χ} {label : Label χ ω}
    (occurs : Occurs (step stamp) w labels before label after) :
    after.row = before.row := by
  have still := (run_eq_iff (fun w : World χ => versionOf w.row)
    (step_version_le stamp) w labels).mp same before label after occurs
  obtain rfl := occurs.after_eq
  obtain kept | raised := step_row stamp before label
  · exact kept
  · exact absurd still.symm (Nat.ne_of_lt raised)

/-- **Checkpoints.** For every number of pollers of a stream and every interleaving of their loads,
commits and status updates: no step takes the stored `updated_after` back, and a commit changes the
row only if nobody has written it since the poller's own last step, its load or its last commit. -/
theorem checkpoints_never_regress (stamp : ω → Option Int) (labels : List (Label χ ω)) :
    (∀ label, NotBefore (storedTime (reach stamp labels).row)
      (storedTime (step stamp (reach stamp labels) label).row))
    ∧ ∀ poller page,
      (step stamp (reach stamp labels) (.commit poller page)).row ≠ (reach stamp labels).row →
      ∃ earlier own later, labels = earlier ++ own :: later ∧ own.poller = some poller
        ∧ (∀ label ∈ later, label.poller ≠ some poller)
        ∧ ∀ before label after,
          Occurs (step stamp) (reach stamp (earlier ++ [own])) later before label after →
          after.row = before.row := by
  refine ⟨(reach_sound stamp labels).step_time, fun poller page changed => ?_⟩
  obtain ⟨known, found, agrees⟩ := commit_effective changed
  obtain ⟨earlier, own, later, rfl, mine, others, older⟩ := last_step stamp labels found
  refine ⟨earlier, own, later, rfl, mine, others, fun before label after occurs => ?_⟩
  have split : reach stamp (earlier ++ own :: later)
      = run (step stamp) (reach stamp (earlier ++ [own])) later := by
    unfold reach
    rw [← run_append, List.append_assoc, List.singleton_append]
  have now : versionOf (reach stamp (earlier ++ own :: later)).row
      = known.rowVersion.getD 0 := by
    rw [← agrees]
    rfl
  rw [split] at now
  have rises := run_le (fun w : World χ => versionOf w.row) (step_version_le stamp)
    (reach stamp (earlier ++ [own])) later
  refine row_kept stamp _ later ?_ occurs
  exact le_antisymm (now.trans_le older) rises

def contendedLabels : List (Label Nat Int) :=
  [.load 0, .load 1, .commit 1 ⟨[5], none, false⟩]

theorem checkpoints_never_regress_contended :
    NotBefore (storedTime (reach some contendedLabels).row)
      (storedTime (step some (reach some contendedLabels) (.commit 0 ⟨[3], none, false⟩)).row)
    ∧ ∃ earlier own later, contendedLabels = earlier ++ own :: later ∧ own.poller = some 1
      ∧ (∀ label ∈ later, label.poller ≠ some 1)
      ∧ ∀ before label after,
        Occurs (step some) (reach some (earlier ++ [own])) later before label after →
        after.row = before.row :=
  ⟨(checkpoints_never_regress some contendedLabels).1 _,
    (checkpoints_never_regress some contendedLabels).2 1 ⟨[9], none, false⟩ (by decide)⟩

end ShadowTrace.Polling
