/-
**The state of a source object** (`should_apply_source_update` and `_upsert_source_object` in
`app/services/event_service.py`).

The versions of an object are delivered in any order, and more than once. The row takes over a
version that is demonstrably newer: of a later timestamp, or of the same one if only the new version
has a token. Of versions that tie, it keeps the one that came first.
-/

import ShadowTrace.Db.Rows

namespace ShadowTrace.Ingest

variable {ν : Type}

/-- What a delivery carries and a row holds as current; `normalized` is `none` for an empty dict. -/
structure SourceVersion (ν : Type) where
  statusRaw : Option String := none
  disposition : SourceDisposition := .unknown
  concurrencyToken : Option String
  updatedAt : Option Time
  normalized : Option ν
  deriving DecidableEq

def SourceVersion.bare (version : SourceVersion ν) : SourceVersion ν :=
  { version with normalized := none }

def shouldApplySourceUpdate (stored incoming : SourceVersion ν) : Bool :=
  match stored.updatedAt, incoming.updatedAt with
  | some old, some new =>
    if new ≠ old then decide (new > old)
    else stored.concurrencyToken.isNone && incoming.concurrencyToken.isSome
  | some _, none => false
  | none, some _ => true
  | none, none => stored.concurrencyToken.isNone && incoming.concurrencyToken.isSome

def upsertSourceObject : Option (SourceVersion ν) → SourceVersion ν → SourceVersion ν
  | none, source => source
  | some existing, source =>
    if shouldApplySourceUpdate existing source then
      { source with normalized := source.normalized.or existing.normalized }
    else existing

def deliver (row : Option (SourceVersion ν)) (versions : List (SourceVersion ν)) :
    Option (SourceVersion ν) :=
  versions.foldl (fun row source => some (upsertSourceObject row source)) row

variable {newest : SourceVersion ν} {versions first second : List (SourceVersion ν)}

theorem shouldApplySourceUpdate_asymm {stored incoming : SourceVersion ν}
    (newer : shouldApplySourceUpdate stored incoming = true) :
    shouldApplySourceUpdate incoming stored = false := by
  unfold shouldApplySourceUpdate at newer ⊢
  grind [Option.isNone_iff_eq_none]

theorem shouldApplySourceUpdate_self (version : SourceVersion ν) :
    shouldApplySourceUpdate version version = false := by
  by_contra newer
  exact newer (shouldApplySourceUpdate_asymm (Bool.not_eq_false _ ▸ newer))

section

variable
  (above : ∀ source ∈ versions, source = newest ∨ shouldApplySourceUpdate source newest = true)
include above

theorem deliver_newest (row : Option (SourceVersion ν))
    (start : (∃ data, row = some { newest with normalized := newest.normalized.or data })
      ∨ newest ∈ versions ∧ ∀ stored ∈ row, shouldApplySourceUpdate stored newest = true) :
    ∃ data, deliver row versions
      = some { newest with normalized := newest.normalized.or data } := by
  induction versions generalizing row with
  | nil => exact start.resolve_right fun later => List.not_mem_nil later.1
  | cons source rest ih =>
    obtain ⟨here, later⟩ := List.forall_mem_cons.mp above
    refine ih later _ ?_
    obtain ⟨data, rfl⟩ | ⟨mem, older⟩ := start
    · have stays : shouldApplySourceUpdate newest source = false :=
        here.elim (fun same => same ▸ shouldApplySourceUpdate_self newest)
          shouldApplySourceUpdate_asymm
      exact .inl ⟨data, congrArg some (if_neg (ne_true_of_eq_false stays))⟩
    obtain rfl | newer := here
    · cases row with
      | none => exact .inl ⟨none, by rw [Option.or_none]; rfl⟩
      | some stored => exact .inl ⟨stored.normalized, congrArg some (if_pos (older stored rfl))⟩
    · refine .inr ⟨(List.mem_cons.mp mem).resolve_left ?_, ?_⟩
      · rintro rfl
        rw [shouldApplySourceUpdate_self] at newer
        cases newer
      rintro _ ⟨⟩
      cases row with
      | none => exact newer
      | some stored =>
        rw [upsertSourceObject]
        split_ifs
        · exact newer
        · exact older stored rfl

/-- **Source state converges.** If one version is demonstrably newer than all the others, the row
ends up the same in whatever order, and however often, the versions are delivered; for the
normalized data this holds if that version has any. -/
theorem deliver_convergent (mem : newest ∈ versions)
    (once : ∀ source, source ∈ first ↔ source ∈ versions)
    (again : ∀ source, source ∈ second ↔ source ∈ versions) :
    (deliver none first).map (·.bare) = (deliver none second).map (·.bare)
      ∧ (newest.normalized.isSome → deliver none first = deliver none second) := by
  have reaches := fun {order} (same : ∀ source, source ∈ order ↔ source ∈ versions) =>
    deliver_newest (fun source listed => above source ((same source).mp listed)) none
      (.inr ⟨(same newest).mpr mem, nofun⟩)
  obtain ⟨_, one⟩ := reaches once
  obtain ⟨_, two⟩ := reaches again
  rw [one, two]
  refine ⟨rfl, fun data => ?_⟩
  rw [Option.or_of_isSome data, Option.or_of_isSome data]

end

def sampleVersion (token : Option String) (updatedAt : Time) : SourceVersion Unit :=
  { concurrencyToken := token, updatedAt := some updatedAt, normalized := some () }

theorem deliver_convergent_two : deliver none [sampleVersion none 1, sampleVersion none 2]
      = deliver none [sampleVersion none 2, sampleVersion none 1] :=
  (deliver_convergent (by decide) (.tail _ (.head _)) (fun _ => Iff.rfl)
    fun _ => (List.Perm.swap _ _ []).mem_iff).2 rfl

/-- **A tie.** Of two versions of one timestamp the row keeps the one that comes first. -/
theorem deliver_tied : deliver none [sampleVersion (some "a") 1, sampleVersion (some "b") 1]
      ≠ deliver none [sampleVersion (some "b") 1, sampleVersion (some "a") 1] := by
  decide

end ShadowTrace.Ingest
