/-
**The context store** (`app/services/context_service.py`, `app/services/working_memory.py`), as far
as `verification_result` goes.

The journal in the database is the authority. Redis holds a copy with its version, and while Redis
is down a process serves a copy of its own for a while (`degraded`). A write of the working memory
is a compare-and-set on the journal that refreshes Redis, but not the degraded copy. A read compares
the version of the Redis copy with the journal, and does not do so for the degraded one.
-/

import ShadowTrace.Models.Verification

namespace ShadowTrace.Verify

structure Versioned where
  version : Nat
  value : Option VerificationResult

structure ContextStore where
  /-- The latest version of the journal; version 0 stands for a field never written. -/
  journal : Versioned
  /-- The Redis hash, if the key exists, with the version it carries for the field. -/
  redis : Option Versioned
  degraded : Option (Option VerificationResult × Time)
  closedSnapshot : Option (Option VerificationResult)
  behind : ∀ cached, redis = some cached → cached.version ≤ journal.version

structure ContextAccess where
  memory : Bool
  commits : Bool
  caches : Bool
  reachable : Bool
  /-- The Redis copy carries the current version of every other field. -/
  othersCurrent : Bool
  readAt : Time
  readRaises : Bool

def degradedCacheTtlSeconds : Nat := 30

section

variable (store : ContextStore) (access : ContextAccess)

def ContextStore.journalled (result : VerificationResult) : Versioned :=
  ⟨store.journal.version + 1, some result⟩

/-- `compare_and_set`, once it commits: the journal and, where it can be reached, Redis. -/
def ContextStore.compareAndSet (caches : Bool) (result : VerificationResult) : ContextStore where
  journal := store.journalled result
  redis := if caches then some (store.journalled result) else store.redis
  degraded := store.degraded
  closedSnapshot := store.closedSnapshot
  behind := by
    intro cached found
    split_ifs at found
    · cases found
      exact le_rfl
    · exact Nat.le_succ_of_le (store.behind cached found)

/-- `_write_verification_result`: a write that fails is logged and forgotten. -/
def ContextStore.write (result : VerificationResult) : ContextStore :=
  if access.memory && access.commits then store.compareAndSet access.caches result else store

def ContextStore.rebuild : Option VerificationResult :=
  match store.closedSnapshot with
  | some snapshot => snapshot
  | none => store.journal.value

def ContextStore.freshDegraded (now : Time) : Option (Option VerificationResult) :=
  store.degraded.bind fun (value, stamp) =>
    if now - stamp ≤ degradedCacheTtlSeconds then some value else none

def ContextStore.getFullContext : Option VerificationResult :=
  if access.reachable then
    match store.redis with
    | none => store.rebuild
    | some cached =>
      if cached.version = store.journal.version ∧ access.othersCurrent then cached.value
      else store.rebuild
  else
    match store.freshDegraded access.readAt with
    | some value => value
    | none => store.rebuild

/-! ### Reading back -/

/-- The read is served by a copy in Redis that this write refreshed. -/
def servedByRedis : Bool :=
  access.reachable && access.caches && access.othersCurrent

def servedByDegraded : Bool :=
  !access.reachable && (store.freshDegraded access.readAt).isSome

/-- **The read shows the write**: it was committed, and it is read from Redis, or rebuilt from the
journal. -/
def ShowsWrite : Prop :=
  access.memory = true ∧ access.commits = true
    ∧ (servedByRedis access = true
      ∨ servedByDegraded store access = false ∧ store.closedSnapshot = none)

end

section ReadBack

variable {store : ContextStore} {access : ContextAccess} {result : VerificationResult}

theorem write_committed (memory : access.memory = true) (commits : access.commits = true) :
    store.write access result = store.compareAndSet access.caches result := by
  simp [ContextStore.write, memory, commits]

theorem getFullContext_reachable (reachable : access.reachable = true) :
    (store.compareAndSet access.caches result).getFullContext access
      = if servedByRedis access then some result
        else (store.compareAndSet access.caches result).rebuild := by
  unfold ContextStore.getFullContext servedByRedis
  rw [if_pos reachable, reachable]
  by_cases caches : access.caches = true
  · have fresh : (store.compareAndSet access.caches result).redis
        = some (store.journalled result) := if_pos caches
    rw [fresh]
    by_cases others : access.othersCurrent = true
    · simp [caches, ContextStore.compareAndSet, ContextStore.journalled]
    · simp [others]
  have kept : (store.compareAndSet access.caches result).redis = store.redis := if_neg caches
  rw [kept]
  cases found : store.redis with
  | none => simp [caches]
  | some cached =>
    have older : cached.version ≤ store.journal.version := store.behind cached found
    have apart : cached.version ≠ (store.compareAndSet access.caches result).journal.version := by
      show cached.version ≠ store.journal.version + 1
      omega
    dsimp only
    rw [if_neg (fun both => apart both.1)]
    simp [caches]

theorem getFullContext_unreachable (reachable : ¬ access.reachable = true) :
    (store.compareAndSet access.caches result).getFullContext access
      = (store.freshDegraded access.readAt).getD
        (store.compareAndSet access.caches result).rebuild := by
  unfold ContextStore.getFullContext
  rw [if_neg reachable]
  have same : (store.compareAndSet access.caches result).freshDegraded access.readAt
      = store.freshDegraded access.readAt := rfl
  rw [same]
  cases store.freshDegraded access.readAt with
  | none | some => rfl

theorem getFullContext_write (shows : ShowsWrite store access) :
    (store.write access result).getFullContext access = some result := by
  obtain ⟨memory, commits, served⟩ := shows
  rw [write_committed memory commits]
  by_cases reachable : access.reachable = true
  · rw [getFullContext_reachable reachable]
    split_ifs with cached
    · rfl
    · rcases served with isCached | ⟨-, open_⟩
      · exact absurd isCached cached
      · simp [ContextStore.rebuild, ContextStore.compareAndSet, ContextStore.journalled, open_]
  rw [getFullContext_unreachable reachable]
  rcases served with isCached | ⟨current, open_⟩
  · simp [servedByRedis, reachable] at isCached
  have absent : store.freshDegraded access.readAt = none := by
    simpa [servedByDegraded, reachable] using current
  rw [absent]
  simp [ContextStore.rebuild, ContextStore.compareAndSet, ContextStore.journalled, open_]

end ReadBack

/-! ### What is left over -/

/-- What a read shows if it does not show the write: the degraded copy or the snapshot of a closed
event, or, if nothing was written, whatever the store showed before. -/
def leftover (store : ContextStore) (access : ContextAccess) : Option VerificationResult :=
  if access.memory && access.commits then
    if access.reachable then store.closedSnapshot.join
    else (store.freshDegraded access.readAt).getD store.closedSnapshot.join
  else store.getFullContext access

theorem rebuild_closed {store : ContextStore} (closed : store.closedSnapshot ≠ none) (caches : Bool)
    (result : VerificationResult) :
    (store.compareAndSet caches result).rebuild = store.closedSnapshot.join := by
  obtain ⟨_, found⟩ := Option.ne_none_iff_exists'.mp closed
  simp [ContextStore.rebuild, ContextStore.compareAndSet, found]

/-- **A read that does not show the write shows what is left over.** -/
theorem getFullContext_leftover {store : ContextStore} {access : ContextAccess}
    (hidden : ¬ ShowsWrite store access) (result : VerificationResult) :
    (store.write access result).getFullContext access = leftover store access := by
  by_cases written : access.memory = true ∧ access.commits = true
  · rw [write_committed written.1 written.2]
    simp only [ShowsWrite, written.1, written.2, true_and, not_or, not_and] at hidden
    obtain ⟨uncached, closed⟩ := hidden
    by_cases reachable : access.reachable = true
    · rw [getFullContext_reachable reachable, if_neg uncached]
      rw [rebuild_closed (closed (by simp [servedByDegraded, reachable]))]
      simp [leftover, written, reachable]
    rw [getFullContext_unreachable reachable]
    cases fresh : store.freshDegraded access.readAt with
    | some => simp [leftover, written, reachable, fresh]
    | none =>
      have rebuilt := rebuild_closed (closed (by simp [servedByDegraded, fresh])) access.caches
      simp [leftover, written, fresh, rebuilt]
  · have lost : ¬ (access.memory && access.commits) = true := by simpa using written
    unfold leftover ContextStore.write
    rw [if_neg lost, if_neg lost]

end ShadowTrace.Verify
