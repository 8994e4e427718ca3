/-
**The versioned cache of a context field** (`app/services/context_service.py`).

The journal holds every value a field was given, the Redis hash one value beside one version. Any
number of calls work on one field of an open event, and every database statement and every Redis
command is a step; a call may end, or be given up, at any point.
-/

import ShadowTrace.Lib.Runs

namespace ShadowTrace.Context

open Machine

section Field

variable {Value : Type}

/-- The journal value of a version; versions are counted from 1. -/
def IsVersion (journal : List Value) (value : Value) (version : Nat) : Prop :=
  0 < version ∧ journal[version - 1]? = some value

/-- `current_version` of the field, whose row its first write inserts. -/
def currentVersion (journal : List Value) : Option Nat :=
  if journal = [] then none else some journal.length

variable {journal : List Value} {value : Value}

theorem IsVersion.append {version : Nat} (holds : IsVersion journal value version)
    (later : List Value) : IsVersion (journal ++ later) value version := by
  obtain ⟨positive, stored⟩ := holds
  refine ⟨positive, ?_⟩
  rw [List.getElem?_append_left (List.getElem?_eq_some_iff.mp stored).1]
  exact stored

theorem isVersion_last (journal : List Value) (value : Value) :
    IsVersion (journal ++ [value]) value (journal.length + 1) := by
  refine ⟨Nat.succ_pos _, ?_⟩
  simp

theorem isVersion_current (last : journal.getLast? = some value) :
    IsVersion journal value journal.length := by
  obtain ⟨earlier, rfl⟩ := List.getLast?_eq_some_iff.mp last
  simpa using isVersion_last earlier value

/-- Where a call is. `rebuilding` carries the number of versions its journal read has seen. -/
inductive Call (Value : Type)
  | idle
  | writing (value : Value) (version : Nat)
  | rebuilding (value : Value) (seen : Nat)
  | storing (value : Value) (version : Option Nat)
  | reading (value : Value)
  | checking (value : Value) (version : Option Nat)
  | returned (value : Value) (version : Nat)

/-- The journal, the cache, and what the processes hold. -/
structure World (Value : Type) where
  journal : List Value
  cached : Option Value := none
  cachedVersion : Option Nat := none
  calls : Nat → Call Value := fun _ => .idle

/-- One step of a writer or a reader. -/
inductive Label (Value : Type)
  /-- The transaction of `set`. -/
  | set (p : Nat) (value : Value)
  | compareAndSet (p expected : Nat) (value : Value)
  /-- `set_analysis_only_complete` where the journal already has the value. -/
  | reassert (p : Nat)
  /-- One `HSET` of a write or a rebuild; `_redis_set_fields` may repeat it. -/
  | hset (p : Nat)
  | finish (p : Nat)
  | rebuildFromJournal (p : Nat)
  | loadFieldVersions (p : Nat)
  /-- The two `HGET` of `get`. -/
  | hgetValue (p : Nat)
  | hgetVersion (p : Nat)
  | checkVersion (p : Nat)

section

variable {fallback : Value} (w : World Value) (p : Nat)

def World.enter (call : Call Value) : World Value :=
  { w with calls := fun other => if other = p then call else w.calls other }

def World.write (value : Value) : World Value :=
  ({ w with journal := w.journal ++ [value] } : World Value).enter p
    (.writing value (w.journal.length + 1))

/-- One step; `fallback` is the value of a field that was never written. -/
def step (fallback : Value) (w : World Value) : Label Value → World Value
  | .set p value => w.write p value
  | .compareAndSet p expected value => if w.journal.length = expected then w.write p value else w
  | .reassert p =>
    match w.journal.getLast? with
    | some value => w.enter p (.writing value w.journal.length)
    | none => w
  | .hset p =>
    match w.calls p with
    | .writing value version => { w with cached := some value, cachedVersion := some version }
    | .storing value version =>
      { w with cached := some value, cachedVersion := version.or w.cachedVersion }
    | _ => w
  | .finish p => w.enter p .idle
  | .rebuildFromJournal p =>
    w.enter p (.rebuilding (w.journal.getLast?.getD fallback) w.journal.length)
  | .loadFieldVersions p =>
    match w.calls p with
    | .rebuilding value _ => w.enter p (.storing value (currentVersion w.journal))
    | _ => w
  | .hgetValue p =>
    match w.cached with
    | some value => w.enter p (.reading value)
    | none => w
  | .hgetVersion p =>
    match w.calls p with
    | .reading value => w.enter p (.checking value w.cachedVersion)
    | _ => w
  | .checkVersion p =>
    match w.calls p with
    | .checking value (some version) =>
      if currentVersion w.journal = some version then
        w.enter p (.returned value version)
      else w.enter p .idle
    | _ => w.enter p .idle

/-- **Coherence**: the hash holds the journal value of its version, and a `get` whose check passed
returns the value of the version that was current at the check. -/
def Coherent : Prop :=
  (∀ value version, w.cached = some value → w.cachedVersion = some version →
      IsVersion w.journal value version) ∧
    ∀ p value version, w.calls p = .returned value version → IsVersion w.journal value version

/-- No write falls between the two reads of a rebuild or of a `get`, and no rebuild stores a value
without a version over one with a version. -/
def Orderly : Label Value → Prop
  | .loadFieldVersions p => ∀ value seen, w.calls p = .rebuilding value seen →
      w.journal.length = seen
  | .hset p => ∀ value, w.calls p = .storing value none → w.cachedVersion = none
  | .hgetVersion p => ∀ value, w.calls p = .reading value → w.cached = some value
  | _ => True

/-- The value and the version that a call takes to belong together. -/
def Call.tag : Call Value → Option (Value × Nat)
  | .writing value version | .returned value version => some (value, version)
  | .storing value version | .checking value version => version.map (value, ·)
  | .rebuilding value seen => if seen = 0 then none else some (value, seen)
  | .idle | .reading _ => none

/-- Whatever carries a version is the value of that version. -/
structure Tagged : Prop where
  cache : ∀ value version, w.cached = some value → w.cachedVersion = some version →
    IsVersion w.journal value version
  calls : ∀ p value version, (w.calls p).tag = some (value, version) →
    IsVersion w.journal value version

theorem Tagged.enter {w : World Value} (tagged : Tagged w) (p : Nat)
    {call : Call Value} (entered : ∀ value version, call.tag = some (value, version) →
      IsVersion w.journal value version) : Tagged (w.enter p call) where
  cache := tagged.cache
  calls other value version tag := by
    simp only [World.enter] at tag
    split at tag
    · exact entered value version tag
    · exact tagged.calls other value version tag

theorem Tagged.write {w : World Value} (tagged : Tagged w) (p : Nat) (value : Value) :
    Tagged (w.write p value) := by
  have grown : Tagged { w with journal := w.journal ++ [value] } :=
    ⟨fun value version here there => (tagged.cache value version here there).append _,
      fun p value version tag => (tagged.calls p value version tag).append _⟩
  refine grown.enter p fun value version tag => ?_
  cases tag
  exact isVersion_last _ _

theorem step_tagged (label : Label Value) (tagged : Tagged w)
    (orderly : Orderly w label) : Tagged (step fallback w label) := by
  cases label with
  | set => exact tagged.write ..
  | compareAndSet p _ value =>
    simp only [step]
    split
    · exact tagged.write p value
    · exact tagged
  | reassert p =>
    simp only [step]
    split
    · rename_i last
      refine tagged.enter p fun value version tag => ?_
      cases tag
      exact isVersion_current last
    · exact tagged
  | hset p =>
    simp only [step]
    split
    · rename_i value version held
      refine ⟨fun _ _ here there => ?_, tagged.calls⟩
      cases here
      cases there
      exact tagged.calls p value version (by rw [held]; rfl)
    · rename_i value version held
      refine ⟨fun _ _ here there => ?_, tagged.calls⟩
      cases here
      cases version with
      | none => simp [orderly value held] at there
      | some version =>
        have same : version = _ := Option.some.inj there
        exact same ▸ tagged.calls p value version (by rw [held]; rfl)
    · exact tagged
  | finish p => exact tagged.enter p nofun
  | rebuildFromJournal p =>
    refine tagged.enter p fun value version tag => ?_
    cases last : w.journal.getLast? with
    | none => simp [Call.tag, List.getLast?_eq_none_iff.mp last] at tag
    | some =>
      have written : w.journal.length ≠ 0 := by
        rintro empty
        simp [List.length_eq_zero_iff.mp empty] at last
      simp only [Call.tag, written, last] at tag
      cases tag
      exact isVersion_current last
  | loadFieldVersions p =>
    simp only [step]
    split
    · rename_i value seen held
      refine tagged.enter p fun _ version tag => ?_
      have here := orderly value seen held
      subst here
      simp only [currentVersion] at tag
      split at tag
      · cases tag
      rename_i written
      cases tag
      refine tagged.calls p value _ ?_
      simp [held, Call.tag, written]
    · exact tagged
  | hgetValue p =>
    simp only [step]
    split
    · exact tagged.enter p nofun
    · exact tagged
  | hgetVersion p =>
    simp only [step]
    split
    · rename_i value held
      refine tagged.enter p fun _ version tag => ?_
      obtain ⟨_, there, same⟩ := Option.map_eq_some_iff.mp tag
      cases same
      exact tagged.cache value version (orderly value held) there
    · exact tagged
  | checkVersion p =>
    simp only [step]
    split
    · rename_i value version held
      split
      · refine tagged.enter p fun _ _ tag => ?_
        cases tag
        exact tagged.calls p value version (by rw [held]; rfl)
      · exact tagged.enter p nofun
    · exact tagged.enter p nofun

end

/-- **The cache is coherent** in every orderly run, from any journal and an empty hash. -/
theorem cache_coherent (fallback : Value) (journal : List Value) (labels : List (Label Value))
    (orderly : Along (step fallback) Orderly { journal } labels) :
    Coherent (run (step fallback) { journal } labels) := by
  have empty : Tagged ({ journal } : World Value) := ⟨nofun, nofun⟩
  have tagged := run_invariant Orderly Tagged step_tagged empty orderly
  exact ⟨tagged.cache, fun p value version held => tagged.calls p value version (by rw [held]; rfl)⟩

end Field

/-- A write, and a `get` of another call. -/
theorem cache_coherent_read :
    Coherent (run (step 0) { journal := [] }
      [.set 0 7, .hset 0, .hgetValue 1, .hgetVersion 1, .checkVersion 1]) := by
  refine cache_coherent 0 [] _ ⟨trivial, ?_, trivial, ?_, trivial, trivial⟩
  · rintro _ ⟨⟩
  · rintro _ ⟨⟩
    rfl

/-- A write between the two reads of a rebuild: the old value is stored under the new version. -/
theorem rebuild_not_coherent :
    ¬ Coherent (run (step 0) { journal := [1] }
      [.rebuildFromJournal 0, .set 1 2, .loadFieldVersions 0, .hset 0]) := by
  intro coherent
  have stored := (coherent.1 1 2 rfl rfl).2
  cases stored

end ShadowTrace.Context
