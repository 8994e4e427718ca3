/-
**The identity of a source** (`app/models/ids.py`, and `compute_source_locator_hash` of
`app/agents/response_agent.py`).

An event is named after the day its source occurred and the digest of five components joined by a
bar. The digest is a parameter. It stands for as many digits of the hash as the identifier keeps.
-/

import Mathlib.Logic.Function.Basic

namespace ShadowTrace.Ids

/-- The five components of a source's identity. -/
structure SourceIdentity where
  sourceProduct : List Char
  sourceTenantId : List Char
  connectorId : List Char
  sourceKind : List Char
  sourceObjectId : List Char
  deriving DecidableEq

def SourceIdentity.parts (source : SourceIdentity) : List (List Char) :=
  [source.sourceProduct, source.sourceTenantId, source.connectorId, source.sourceKind,
    source.sourceObjectId]

def canonicalSourceIdentity (source : SourceIdentity) : List Char := ['|'].intercalate source.parts

/-- An instant, in seconds, with the offset from UTC it is written in. -/
structure Stamp where
  instant : Int
  offset : Int

/-- `_yyyymmdd`: the day of the date as it is written, counted from that of instant zero. -/
def Stamp.yyyymmdd (stamp : Stamp) : Int := (stamp.instant + stamp.offset) / 86400

section

variable {δ : Type} (digest : List Char → δ)

/-- `evt-{YYYYMMDD}-{8hex}`. -/
def newEventId (identity : List Char) (occurredAt : Stamp) : Int × δ :=
  (occurredAt.yyyymmdd, digest identity)

def computeSourceLocatorHash (locator : Option SourceIdentity) : Option δ :=
  locator.map fun source => digest (canonicalSourceIdentity source)

/-- No other source has the identity, an event id or the locator hash of this one. -/
def Alone (source : SourceIdentity) : Prop :=
  ∀ other ≠ source, canonicalSourceIdentity other ≠ canonicalSourceIdentity source
    ∧ (∀ first second, newEventId digest (canonicalSourceIdentity other) first
      ≠ newEventId digest (canonicalSourceIdentity source) second)
    ∧ computeSourceLocatorHash digest (some other) ≠ computeSourceLocatorHash digest (some source)

/-- The event that `_ingest` creates for a source. -/
def createdEventId (source : SourceIdentity) (occurredAt updatedAt : Option Stamp) (now : Stamp) :
    Int × δ :=
  newEventId digest (canonicalSourceIdentity source) ((occurredAt.or updatedAt).getD now)

end

/-! ### Distinct sources -/

section

variable {source other : SourceIdentity}

theorem plain_iff : (∀ part ∈ source.parts, '|' ∉ part)
    ↔ (canonicalSourceIdentity source).count '|' = 4 := by
  simp [canonicalSourceIdentity, SourceIdentity.parts, ← List.count_eq_zero]
  omega

theorem canonicalSourceIdentity_inj (plain : ∀ part ∈ source.parts, '|' ∉ part)
    (same : canonicalSourceIdentity other = canonicalSourceIdentity source) : other = source := by
  -- there are as many bars, so the other components have none either
  have alike : ∀ part ∈ other.parts, '|' ∉ part := by
    rw [plain_iff, same]
    exact plain_iff.mp plain
  have parts := congrArg (List.splitOn '|') same
  rw [canonicalSourceIdentity, canonicalSourceIdentity,
    List.splitOn_intercalate _ alike (List.cons_ne_nil _ _),
    List.splitOn_intercalate _ plain (List.cons_ne_nil _ _)] at parts
  cases other
  cases source
  simpa [SourceIdentity.parts] using parts

/-- A bar in one of two neighbours can be taken for the one between them. -/
theorem shift_bar {left right : List Char} (bar : '|' ∈ left ∨ '|' ∈ right) :
    ∃ left' right', left' ≠ left
      ∧ ∀ rest, left' ++ '|' :: (right' ++ rest) = left ++ '|' :: (right ++ rest) := by
  obtain inside | inside := bar
  · obtain ⟨front, back, rfl⟩ := List.append_of_mem inside
    exact ⟨front, back ++ '|' :: right, by simp, by simp⟩
  · obtain ⟨front, back, rfl⟩ := List.append_of_mem inside
    exact ⟨left ++ '|' :: front, back, by simp, by simp⟩

theorem plain_of_alone
    (alone : ∀ other, canonicalSourceIdentity other = canonicalSourceIdentity source →
      other = source) : ∀ part ∈ source.parts, '|' ∉ part := by
  obtain ⟨product, tenant, connector, kind, object⟩ := source
  simp only [canonicalSourceIdentity, SourceIdentity.parts, List.intercalate, List.intersperse,
    List.flatten_cons, List.singleton_append] at alone
  have first : ¬ ('|' ∈ product ∨ '|' ∈ tenant) := by
    intro bar
    obtain ⟨left, right, differs, same⟩ := shift_bar bar
    cases alone ⟨left, right, connector, kind, object⟩ (by simp only [same])
    exact differs rfl
  have second : ¬ ('|' ∈ connector ∨ '|' ∈ kind) := by
    intro bar
    obtain ⟨left, right, differs, same⟩ := shift_bar bar
    cases alone ⟨product, tenant, left, right, object⟩ (by simp only [same])
    exact differs rfl
  have third : ¬ ('|' ∈ kind ∨ '|' ∈ object) := by
    intro bar
    obtain ⟨left, right, differs, same⟩ := shift_bar bar
    cases alone ⟨product, tenant, connector, left, right⟩ (by simpa using same [])
    exact differs rfl
  simp only [not_or] at first second third
  simp [SourceIdentity.parts, first, second, third]

/-- **A source has its identifiers alone** exactly if none of its components holds the bar. -/
theorem alone_iff {δ : Type} {digest : List Char → δ} (injective : Function.Injective digest)
    (source : SourceIdentity) : Alone digest source ↔ ∀ part ∈ source.parts, '|' ∉ part := by
  constructor
  · intro apart
    refine plain_of_alone fun other same => ?_
    by_contra differs
    exact (apart other differs).1 same
  · intro plain other differs
    have apart := mt (canonicalSourceIdentity_inj plain) differs
    exact ⟨apart, fun _ _ same => apart (injective (Prod.mk.inj same).2),
      fun same => apart (injective (Option.some.inj same))⟩

def plainSource : SourceIdentity := ⟨['x'], ['t'], ['c'], ['k'], ['1']⟩

theorem plainSource_alone : Alone (id : List Char → List Char) plainSource :=
  (alone_iff Function.injective_id plainSource).mpr (by decide)

def barredSource : SourceIdentity := { plainSource with sourceProduct := ['x', '|', 'y'] }

/-- The bar of the product is taken for the one that ends it. -/
theorem barredSource_shared :
    let other := { plainSource with sourceTenantId := ['y', '|', 't'] }
    other ≠ barredSource ∧ ∀ {δ : Type} (digest : List Char → δ) (occurredAt : Stamp),
      newEventId digest (canonicalSourceIdentity other) occurredAt
        = newEventId digest (canonicalSourceIdentity barredSource) occurredAt
      ∧ computeSourceLocatorHash digest (some other)
        = computeSourceLocatorHash digest (some barredSource) :=
  ⟨by decide, fun _ _ => ⟨rfl, rfl⟩⟩

end

/-! ### One instant -/

/-- **Two spellings of an instant name the same event** exactly if both dates are as many midnights
from the day of the instant in UTC. -/
theorem createdEventId_eq_iff {δ : Type} (digest : List Char → δ) (source : SourceIdentity)
    (instant first second : Int) (updatedAt : Option Stamp) (now : Stamp) :
    createdEventId digest source (some ⟨instant, first⟩) updatedAt now
        = createdEventId digest source (some ⟨instant, second⟩) updatedAt now
      ↔ (instant % 86400 + first) / 86400 = (instant % 86400 + second) / 86400 := by
  have day : ∀ offset, (instant + offset) / 86400
      = instant / 86400 + (instant % 86400 + offset) / 86400 := by
    omega
  simp [createdEventId, newEventId, Stamp.yyyymmdd, day]

/-- Half past eleven in the evening, and half past midnight an hour to the east. -/
theorem plainSource_renamed :
    createdEventId id plainSource (some ⟨84600, 0⟩) none ⟨0, 0⟩
      ≠ createdEventId id plainSource (some ⟨84600, 3600⟩) none ⟨0, 0⟩ := by
  decide

end ShadowTrace.Ids
