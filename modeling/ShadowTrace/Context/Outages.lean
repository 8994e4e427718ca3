/-
**Reading one's writes across Redis outages** (`app/services/context_service.py`).

One process calls the store of an open event while Redis comes and goes, also within a call. The
model follows one field through its journal, the Redis hash and the copy of the context that the
process keeps for thirty seconds while Redis is away.
-/

import ShadowTrace.Context.Journal

namespace ShadowTrace.Context

open Machine

/-- What becomes of the `HSET` of a call: lost, applied without the caller learning it, or done. -/
inductive Write
  | lost | unreported | done
  deriving DecidableEq

/-- How Redis answers during one call: the first ping, the reads after it, the ping of a rebuild and
the write. -/
structure Redis where
  ping : Bool
  answers : Bool
  pingAgain : Bool
  write : Write

section Field

variable {Value : Type}

/-- `written` is what the last successful write was asked to write. -/
structure Store (Value : Type) where
  journal : List Value
  cached : Option Value := none
  cachedVersion : Option Nat := none
  degraded : Option (Value × Int) := none
  written : Option Value := none

/-- A call. `read` is `get_full_context`, or a `get` of another field; `stale` says that it finds a
version behind. -/
inductive Op (Value : Type)
  | set (value : Value) (redis : Redis) (now : Int)
  | compareAndSet (expected : Nat) (value : Value) (redis : Redis) (now : Int)
  | setOther (redis : Redis) (now : Int)
  | get (redis : Redis) (now : Int)
  | read (stale : Bool) (redis : Redis) (now : Int)

variable (fallback : Value)

section

variable [DecidableEq Value] (final : Option Value) (store : Store Value)

def Store.latest : Value := store.journal.getLast?.getD fallback

/-- `_redis_set_fields` with the current value and version of the field. -/
def Store.hset (write : Write) : Store Value :=
  if write = .lost then store
  else { store with
    cached := some (store.latest fallback)
    cachedVersion := (currentVersion store.journal).or store.cachedVersion }

/-- `rebuild_context`. A call that got this far after a successful ping has dropped the copy, which
the rebuild replaces or drops anyway. -/
def Store.rebuildContext (redis : Redis) (now : Int) : Store Value :=
  if redis.pingAgain then { store.hset fallback redis.write with degraded := none }
  else { store with degraded := some (store.latest fallback, now) }

/-- The copy that `_get_degraded_if_fresh` returns. -/
def Store.fresh (now : Int) : Option Value :=
  (store.degraded.filter fun copy => decide (now - copy.2 ≤ 30)).map Prod.fst

/-- The value of the hash, where its version is the one in the database. -/
def Store.checked : Option Value :=
  if store.journal ≠ [] ∧ store.cachedVersion = currentVersion store.journal then store.cached
  else none

/-- A read: the store it leaves and the value it returns, `none` where it raises. `hash` is what the
hash has to offer. -/
def Store.access (hash : Option Value) (redis : Redis) (now : Int) : Store Value × Option Value :=
  match redis.ping, redis.answers, hash, store.fresh now with
  | true, false, _, _ => ({ store with degraded := none }, none)
  | true, true, some value, _ => ({ store with degraded := none }, some value)
  | false, _, _, some value => (store, some value)
  | _, _, _, _ => (store.rebuildContext fallback redis now, some (store.latest fallback))

def Store.get (redis : Redis) (now : Int) : Store Value × Option Value :=
  store.access fallback store.checked redis now

/-- The journal after a write. `final` is the value that `analysis_only_complete` never leaves;
other fields have none. -/
def journaled (journal : List Value) (value : Value) : List Value :=
  match final, journal.getLast? with
  | some top, some last =>
    let effective := if last = top then top else value
    if last = effective then journal else journal ++ [effective]
  | _, _ => journal ++ [value]

/-- `set`: a copy is kept up to date only where Redis was not reached. -/
def Store.set (value : Value) (redis : Redis) (now : Int) : Store Value :=
  let written := ({ store with
    journal := journaled final store.journal value, written := some value } : Store Value).hset
      fallback redis.write
  if redis.write = .done then written
  else { written with degraded := store.degraded.map fun _ => (written.latest fallback, now) }

def Store.step : Op Value → Store Value
  | .set value redis now => store.set fallback final value redis now
  | .compareAndSet expected value redis now =>
    if store.journal.length ≠ expected then store
    else match final with
      | some top => if value = top then store.set fallback final value redis now else store
      | none => ({ store with
          journal := store.journal ++ [value], written := some value } : Store Value).hset fallback
            redis.write
  | .setOther redis now =>
    if redis.write = .done then store
    else { store with degraded := store.degraded.map fun copy => (copy.1, now) }
  | .get redis now => (store.get fallback redis now).1
  | .read stale redis now =>
    (store.access fallback (if stale then none else some fallback) redis now).1

/-- **`get` returns the last write.** -/
def ReadsLastWrite (before : Store Value) (op : Op Value) : Prop :=
  ∀ redis now value last, op = .get redis now → (before.get fallback redis now).2 = some value →
    before.written = some last → value = last

/-- No copy of the context is left behind: none is held when a `set` reaches Redis or a
`compare_and_set` succeeds. -/
def Refreshed : Op Value → Prop
  | .set _ redis _ => redis.write = .done → store.degraded = none
  | .compareAndSet expected _ _ _ => store.journal.length = expected → store.degraded = none
  | _ => True

/-- What the hash and the last write have to do with the journal. -/
structure Backed : Prop where
  written : ∀ value, store.written = some value → store.journal.getLast? = some value
  cache : ∀ value version, store.cached = some value → store.cachedVersion = some version →
    IsVersion store.journal value version
  unversioned : store.journal = [] → store.cachedVersion = none

/-- The degraded copy, if there is one, has the latest value. -/
def CopyCurrent : Prop :=
  ∀ copy ∈ store.degraded, copy.1 = store.latest fallback

end

variable {fallback} {store : Store Value}

theorem Backed.append (backed : Backed store) (value : Value) :
    Backed { store with journal := store.journal ++ [value], written := some value } where
  written last asked := by
    cases asked
    simp
  cache value version here there := (backed.cache value version here there).append _
  unversioned empty := by simp at empty

theorem hset_degraded (store : Store Value) (write : Write) :
    (store.hset fallback write).degraded = store.degraded := by
  unfold Store.hset
  split_ifs <;> rfl

section

variable (backed : Backed store)

include backed

theorem Backed.hset (write : Write) : Backed (store.hset fallback write) := by
  unfold Store.hset
  split_ifs with lost
  · exact backed
  refine ⟨backed.written, fun value version here there => ?_, fun empty => ?_⟩
  · cases last : store.journal.getLast? with
    | none =>
      have empty := List.getLast?_eq_none_iff.mp last
      simp [currentVersion, empty, backed.unversioned empty] at there
    | some =>
      have filled : store.journal ≠ [] := by
        rintro empty
        simp [empty] at last
      simp only [currentVersion, filled, if_false, Option.some_or, Option.some.injEq] at there
      simp only [Store.latest, last, Option.some.injEq] at here
      subst here there
      exact isVersion_current last
  · have none : store.cachedVersion = none := backed.unversioned empty
    simp [currentVersion, show store.journal = [] from empty, none]

theorem Backed.copied (copy : Option (Value × Int)) : Backed { store with degraded := copy } :=
  ⟨backed.written, backed.cache, backed.unversioned⟩

theorem Backed.rebuildContext (redis : Redis) (now : Int) :
    Backed (store.rebuildContext fallback redis now) ∧
      CopyCurrent fallback (store.rebuildContext fallback redis now) := by
  unfold Store.rebuildContext
  split_ifs
  · exact ⟨(backed.hset redis.write).copied none, nofun⟩
  · refine ⟨backed.copied _, fun copy held => ?_⟩
    cases held
    rfl

theorem access_keeps (current : CopyCurrent fallback store) (hash : Option Value) (redis : Redis)
    (now : Int) : Backed (store.access fallback hash redis now).1 ∧
      CopyCurrent fallback (store.access fallback hash redis now).1 := by
  unfold Store.access
  split
  iterate 2 exact ⟨backed.copied none, nofun⟩
  · exact ⟨backed, current⟩
  · exact backed.rebuildContext redis now

end

theorem get_reads (backed : Backed store) (current : CopyCurrent fallback store) {redis : Redis}
    {now : Int} {value last : Value} (returned : (store.get fallback redis now).2 = some value)
    (asked : store.written = some last) : value = last := by
  have ends := backed.written last asked
  have latest : store.latest fallback = last := by rw [Store.latest, ends, Option.getD_some]
  unfold Store.get Store.access at returned
  split at returned
  · cases returned
  · rename_i hash
    cases returned
    unfold Store.checked at hash
    split_ifs at hash with versions
    have there : store.cachedVersion = some store.journal.length := by
      rw [versions.2, currentVersion, if_neg versions.1]
    have stored := (backed.cache value _ hash there).2
    rw [← List.getLast?_eq_getElem?, ends] at stored
    exact (Option.some.inj stored).symm
  · rename_i held
    cases returned
    obtain ⟨kept, filtered, rfl⟩ := Option.map_eq_some_iff.mp held
    exact (current kept (Option.filter_eq_some_iff.mp filtered).1).trans latest
  · exact (Option.some.inj returned).symm.trans latest

variable [DecidableEq Value]

theorem step_keeps (store : Store Value) (op : Op Value)
    (kept : Backed store ∧ CopyCurrent fallback store) (refreshed : Refreshed store op) :
    Backed (store.step fallback none op) ∧ CopyCurrent fallback (store.step fallback none op) := by
  obtain ⟨backed, current⟩ := kept
  cases op with
  | set value redis =>
    have written : Backed (Store.hset fallback _ redis.write) := (backed.append value).hset _
    simp only [Store.step, Store.set]
    split_ifs with reached
    · refine ⟨written, fun copy held => ?_⟩
      rw [hset_degraded, refreshed reached] at held
      cases held
    · refine ⟨written.copied _, fun copy held => ?_⟩
      obtain ⟨_, _, rfl⟩ := Option.map_eq_some_iff.mp held
      rfl
  | compareAndSet _ value redis =>
    simp only [Store.step]
    split_ifs with behind
    · exact ⟨backed, current⟩
    · refine ⟨(backed.append value).hset redis.write, fun copy held => ?_⟩
      rw [hset_degraded, refreshed (not_not.mp behind)] at held
      cases held
  | setOther =>
    simp only [Store.step]
    split_ifs
    · exact ⟨backed, current⟩
    · refine ⟨backed.copied _, fun copy held => ?_⟩
      obtain ⟨before, stored, rfl⟩ := Option.map_eq_some_iff.mp held
      exact current before stored
  | get redis now | read _ redis now => exact access_keeps backed current _ redis now

variable (fallback)

/-- **A process reads its last write**, of every field but the monotone marker, in every run that
leaves no copy behind. -/
theorem reads_last_write (journal : List Value) (ops : List (Op Value))
    (refreshed : Along (Store.step fallback none) Refreshed { journal } ops)
    {before after : Store Value} {op : Op Value}
    (occurs : Occurs (Store.step fallback none) { journal } ops before op after) :
    ReadsLastWrite fallback before op := by
  have start : Backed ({ journal } : Store Value) ∧
      CopyCurrent fallback ({ journal } : Store Value) := ⟨⟨nofun, nofun, fun _ => rfl⟩, nofun⟩
  refine occurs_invariant Refreshed (fun store => Backed store ∧ CopyCurrent fallback store)
    (fun before op _ => ReadsLastWrite fallback before op) step_keeps ?_ start refreshed occurs
  intro _ _ kept _ _ _ _ _ _ returned asked
  exact get_reads kept.1 kept.2 returned asked

end Field

def away : Redis := ⟨false, false, false, .lost⟩

def there : Redis := ⟨true, true, true, .done⟩

/-- A field is written and read while Redis is away. -/
theorem reads_last_write_away :
    ReadsLastWrite 0 (run (Store.step 0 none) { journal := [1] } [.get away 0, .set 2 away 5])
      (.get away 10) := by
  refine reads_last_write 0 [1] ([.get away 0, .set 2 away 5] ++ [.get away 10]) ?_
    (occurs_last _ _ _)
  exact ⟨trivial, nofun, trivial, trivial⟩

/-- `analysis_only_complete` stays true when it is set to false. -/
theorem marker_not_read :
    ∃ ops before op after,
      Occurs (Store.step false (some true)) { journal := [] } ops before op after ∧
        ¬ ReadsLastWrite false before op := by
  refine ⟨[.set true there 0, .set false there 1] ++ [.get there 2], _, _, _, occurs_last _ _ _, ?_⟩
  intro reads
  cases reads there 2 true false rfl (by decide) (by decide)

end ShadowTrace.Context
