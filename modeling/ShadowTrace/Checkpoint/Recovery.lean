/-
**When a fresh saver can take a thread up again.**

A fresh saver has no basis. Hydration gives it one only if it loads a payload; where the payload is
missing or stale, the fence that stands in the way is not taken over. So what a crash between
reserve and publish, a lost reply or a cleanup leaves behind decides whether the next checkpoint can
be persisted.
-/

import ShadowTrace.Checkpoint.Chain

namespace ShadowTrace.Checkpoint

open Coroutine

variable {χ : Type}

def Store.create (store : Store χ) (saver : Nat) : Store χ :=
  { store with savers := Function.update store.savers saver Saver.create }

/-- A fresh saver hydrates the thread and puts a checkpoint, while Redis answers and nobody else is
at work. -/
def recover (store : Store χ) (task saver : Nat) (checkpoint : χ) :
    Store χ × Except PersistenceError Unit :=
  (aput saver checkpoint).run exec task .replied
    ((agetTuple saver).run exec task .replied (store.create saver)).1

/-- The checkpoint is stored under the generation of the fence. -/
def Persisted (checkpoint : χ) (outcome : Store χ × Except PersistenceError Unit) : Prop :=
  outcome.2 = .ok () ∧ ∃ raw rest, outcome.1.keys.payload = some raw
    ∧ raw.storage = checkpoint :: rest ∧ raw.generation = outcome.1.keys.fence

variable {raw : Envelope χ}

section Run

variable {store : Store χ} {task saver : Nat}

theorem loadPayload_run :
    loadPayload.run exec task .replied store
      = (store.execute task .getPayload, .ok store.keys.payload) := rfl

theorem loadGenerationFence_run :
    loadGenerationFence.run exec task .replied store
      = (store.execute task .getFence, .ok store.keys.fence) := rfl

def Saver.expected (saver : Saver χ) : Int := (saver.basis.getD 0 : Nat)

theorem reserveGeneration_run_current
    (current : store.keys.Accepts (store.savers saver).expected) :
    (reserveGeneration saver).run exec task .replied store
      = (store.execute task (.reserve (store.savers saver).expected),
          .ok ((store.keys.sequence + 1 : Nat) : Int)) := by
  have reply : ((RedisCommand.reserve (store.savers saver).expected).execute store.keys).2
      = ((store.keys.sequence + 1 : Nat) : Int) :=
    congrArg Prod.snd (checkpointReserveScript_of_accepts current)
  show (ite (((RedisCommand.reserve (store.savers saver).expected).execute store.keys).2 < 0) _ _ :
    SaverProgram χ _).run exec task .replied _ = _
  rw [if_neg (by rw [reply]; exact Int.not_lt.mpr (Int.natCast_nonneg _))]
  show (store.execute task (.reserve (store.savers saver).expected), Except.ok
    ((RedisCommand.reserve (store.savers saver).expected).execute store.keys).2) = _
  rw [reply]

theorem reserveGeneration_run_stale
    (stale : ¬ store.keys.Accepts (store.savers saver).expected) :
    ((reserveGeneration saver).run exec task .replied store).2
      = .error (.staleBasis (store.savers saver).expected) := by
  have reply : ((RedisCommand.reserve (store.savers saver).expected).execute store.keys).2 = -1 :=
    congrArg Prod.snd (checkpointReserveScript_of_refused stale)
  show ((ite (((RedisCommand.reserve (store.savers saver).expected).execute store.keys).2 < 0) _ _ :
    SaverProgram χ _).run exec task .replied _).2 = _
  rw [if_pos (by rw [reply]; exact (by decide : (-1 : Int) < 0))]
  rfl

theorem publish_run {generation : Nat} (fence : store.keys.fence = some generation) :
    (publish saver generation raw).run exec task .replied store
      = ({ store.execute task (.publish generation raw) with
          keys := { store.keys with payload := some raw } }, .ok ()) := by
  have script : (RedisCommand.publish (generation : Int) raw).execute store.keys
      = ({ store.keys with payload := some raw }, (1 : Int)) :=
    checkpointPublishScript_of_current (published_eq_iff.mpr fence)
  show (ite (((RedisCommand.publish (generation : Int) raw).execute store.keys).2 ≠ (1 : Int)) _ _ :
    SaverProgram χ _).run exec task .replied (store.execute task (.publish generation raw)) = _
  rw [if_neg (by rw [script]; exact not_not.mpr rfl)]
  show (store.execute task (.publish generation raw), _) = _
  unfold Store.execute
  rw [script]

/-- A saver that has not failed and talks to Redis. -/
structure Saver.Ready (saver : Saver χ) : Prop where
  failed : saver.failed = false
  usesRedis : saver.usesRedis = true

theorem persistLocked_run_stale {storage : List χ} (ready : (store.savers saver).Ready)
    (present : (store.savers saver).memory.storage = some storage)
    (stale : ¬ store.keys.Accepts (store.savers saver).expected) :
    ((persistLocked saver).run exec task .replied store).2
      = .error (.staleBasis (store.savers saver).expected) := by
  have state : (self saver).run exec task .replied store = (store, store.savers saver) := rfl
  unfold persistLocked
  simp only [Program.bind_eq, Program.run_bind, state, ready.failed, ready.usesRedis, present,
    Bool.false_eq_true, Bool.not_true, Option.isNone_some, if_false,
    reserveGeneration_run_stale stale, Program.pure_eq, Program.run_done]

/-- **The basis decides.** A saver that is ready persists when its basis is the fence value. -/
theorem persistLocked_run_current {storage : List χ} (ready : (store.savers saver).Ready)
    (present : (store.savers saver).memory.storage = some storage)
    (current : store.keys.Accepts (store.savers saver).expected) :
    ((persistLocked saver).run exec task .replied store).2 = .ok ()
    ∧ ((persistLocked saver).run exec task .replied store).1.keys
      = ⟨store.keys.sequence + 1, some (store.keys.sequence + 1),
          some ⟨2, some (store.keys.sequence + 1), storage,
            (store.savers saver).memory.writes⟩⟩ := by
  have state : ∀ other : Store χ,
      (self saver).run exec task .replied other = (other, other.savers saver) := fun _ => rfl
  have reserved : (store.execute task (.reserve (store.savers saver).expected)).keys
      = { store.keys with
          sequence := store.keys.sequence + 1, fence := some (store.keys.sequence + 1) } :=
    congrArg Prod.fst (checkpointReserveScript_of_accepts current)
  have exported : ((store.execute task (.reserve (store.savers saver).expected)).savers
      saver).exportThread ((store.keys.sequence + 1 : Nat) : Int)
      = some ⟨2, some (store.keys.sequence + 1), storage, (store.savers saver).memory.writes⟩ := by
    show (store.savers saver).memory.storage.map _ = _
    rw [present]
    rfl
  have fence : (store.execute task (.reserve (store.savers saver).expected)).keys.fence
      = some (store.keys.sequence + 1) := by rw [reserved]
  unfold persistLocked
  simp only [Program.bind_eq, Program.run_bind, state, ready.failed, ready.usesRedis, present,
    Bool.false_eq_true, Bool.not_true, Option.isNone_some, if_false,
    reserveGeneration_run_current current, exported, publish_run fence, Program.pure_eq,
    Program.run_done]
  refine ⟨trivial, ?_⟩
  show Keys.mk (store.execute task (.reserve (store.savers saver).expected)).keys.sequence
    (store.execute task (.reserve (store.savers saver).expected)).keys.fence _ = _
  rw [reserved]

/-- **A saver persists exactly when its basis is the fence value.** -/
theorem aput_run (checkpoint : χ) (ready : (store.savers saver).Ready) :
    Persisted checkpoint ((aput saver checkpoint).run exec task .replied store)
      ↔ store.keys.Accepts (store.savers saver).expected := by
  -- the checkpoint is put into the memory of the saver first
  let put : Store χ := { store with
    savers := Function.update store.savers saver ((store.savers saver).put checkpoint) }
  have state : put.savers saver = (store.savers saver).put checkpoint := Function.update_self ..
  have readyPut : (put.savers saver).Ready := by
    rw [state]
    exact ⟨ready.failed, ready.usesRedis⟩
  have present : (put.savers saver).memory.storage
      = some (checkpoint :: (store.savers saver).memory.storage.getD []) := by
    rw [state]
    rfl
  have expected : (put.savers saver).expected = (store.savers saver).expected := by
    rw [state]
    rfl
  show Persisted checkpoint ((persistLocked saver).run exec task .replied put) ↔ _
  constructor
  · rintro ⟨done, -⟩
    by_contra stale
    rw [persistLocked_run_stale readyPut present (by rw [expected]; exact stale)] at done
    cases done
  · intro current
    have outcome := @persistLocked_run_current χ put task saver _ readyPut present
      (by rw [expected]; exact current)
    exact ⟨outcome.1, by rw [outcome.2]; exact ⟨_, _, rfl, rfl, rfl⟩⟩

def Keys.hydrated (keys : Keys χ) : Saver χ :=
  match keys.payload with
  | none => Saver.create
  | some raw =>
    if isStale raw keys.fence then Saver.create
    else Saver.create.importThread raw
      (if keys.fence.getD 0 > 0 then keys.fence.getD 0 else raw.payloadGeneration)

/-- **Hydration alone.** The keys stay, and the saver loads what is not stale. -/
theorem agetTuple_run (formats : ∀ raw, store.keys.payload = some raw →
      raw.format = 1 ∨ raw.format = 2) :
    ((agetTuple saver).run exec task .replied (store.create saver)).1.keys = store.keys
    ∧ ((agetTuple saver).run exec task .replied (store.create saver)).1.savers saver
      = store.keys.hydrated := by
  have state : (store.create saver).savers saver = Saver.create := Function.update_self ..
  have read : ∀ other : Store χ,
      (self saver).run exec task .replied other = (other, other.savers saver) := fun _ => rfl
  unfold agetTuple hydrate Keys.hydrated
  have unfailed : ¬ (Saver.create : Saver χ).failed = true := Bool.false_ne_true
  have unused : ¬ (!(Saver.create : Saver χ).usesRedis
      || (Saver.create : Saver χ).memory.storage.isSome) = true := Bool.false_ne_true
  have payload : (store.create saver).keys.payload = store.keys.payload := rfl
  have fence : ((store.create saver).execute task .getPayload).keys.fence = store.keys.fence := rfl
  simp only [Program.bind_eq, Program.run_bind, read, state, if_neg unfailed, if_neg unused,
    loadPayload_run, payload]
  cases found : store.keys.payload with
  | none => exact ⟨rfl, state⟩
  | some raw =>
    simp only [Program.run_bind, loadGenerationFence_run, fence]
    by_cases stale : isStale raw store.keys.fence = true
    · rw [if_pos stale, if_pos stale]
      exact ⟨rfl, state⟩
    have known : ¬ (raw.format ≠ 1 ∧ raw.format ≠ 2) := by
      rcases formats raw found with one | two
      · exact fun both => both.1 one
      · exact fun both => both.2 two
    rw [if_neg stale, if_neg stale, if_neg known]
    refine ⟨rfl, ?_⟩
    exact (Function.update_self ..).trans (by rw [← state]; rfl)

end Run

section Persists

variable {keys : Keys χ} {log : List (Entry χ)}

theorem accepts_natCast (number : Nat) : keys.Accepts (number : Int) ↔ keys.current = number := by
  rw [accepts_iff]
  constructor
  · intro implied
    exact Int.ofNat_inj.mp (implied (Int.natCast_nonneg number))
  · intro same _
    rw [same]

theorem Agrees.positive (agrees : Agrees keys log) {number : Nat}
    (fence : keys.fence = some number) : 0 < number := by
  obtain ⟨_, -, reserved⟩ := agrees.fence number fence
  obtain ⟨-, -, -, rfl⟩ := reserved_eq_some.mp reserved
  exact Nat.succ_pos _

theorem isStale_iff {number : Nat} (sound : Sound log raw) (positive : 0 < number) :
    isStale raw (some number) = true ↔ raw.generation ≠ some number := by
  unfold isStale
  rcases sound with ⟨format, untagged⟩ | ⟨format, tag, tagged, -⟩
  · rw [if_pos format, decide_eq_true_iff, untagged]
    exact ⟨fun _ => (Option.some_ne_none number).symm, fun _ => positive⟩
  · rw [if_neg (by rw [format]; decide), decide_eq_true_iff, Envelope.payloadGeneration, tagged,
      Option.getD_some, Option.getD_some, ne_eq, ne_eq, Option.some.injEq]

theorem payloadGeneration_of_no_fence (sound : Sound log raw)
    (loadable : ¬ isStale raw none = true) :
    raw.payloadGeneration = 0 := by
  unfold isStale at loadable
  rcases sound with ⟨-, untagged⟩ | ⟨format, -, -, -⟩
  · rw [Envelope.payloadGeneration, untagged]
    rfl
  · rwa [if_neg (by rw [format]; decide), decide_eq_true_iff, not_not] at loadable

/-- **The basis after hydration** is the fence value exactly when there is no fence, or the payload
carries its generation. -/
theorem hydrate_basis (agrees : Agrees keys log) :
    keys.Accepts keys.hydrated.expected
      ↔ keys.fence = none ∨ ∃ raw, keys.payload = some raw ∧ raw.generation = keys.fence := by
  rw [Saver.expected, accepts_natCast]
  unfold Keys.current Keys.hydrated
  cases fence : keys.fence with
  | none =>
    refine iff_of_true ?_ (.inl rfl)
    cases stored : keys.payload with
    | none => rfl
    | some raw =>
      by_cases stale : isStale raw none = true
      · simp only [if_pos stale]
        rfl
      · simp only [if_neg stale]
        exact (payloadGeneration_of_no_fence (agrees.payload raw stored) stale).symm
  | some number =>
    have positive : 0 < number := agrees.positive fence
    cases stored : keys.payload with
    | none =>
      refine iff_of_false (Nat.ne_of_gt positive) ?_
      rintro (⟨⟨⟩⟩ | ⟨_, ⟨⟩, -⟩)
    | some raw =>
      have loadable := isStale_iff (agrees.payload raw stored) positive
      by_cases stale : isStale raw (some number) = true
      · simp only [if_pos stale]
        refine iff_of_false (Nat.ne_of_gt positive) ?_
        rintro (⟨⟨⟩⟩ | ⟨_, ⟨⟩, same⟩)
        exact loadable.mp stale same
      simp only [if_neg stale]
      refine iff_of_true ?_
        (.inr ⟨raw, rfl, not_not.mp fun differs => stale (loadable.mpr differs)⟩)
      exact (if_pos positive).symm

end Persists

/-- **Recovery.** In every state that the savers of a thread can leave behind, a fresh saver that
hydrates the thread and puts a checkpoint persists it exactly when there is no fence, or the stored
payload carries the generation of the fence. -/
theorem fresh_saver_persists_iff {store : Store χ} (untouched : store.Untouched)
    (labels : Schedule χ) (task saver : Nat) (checkpoint : χ) :
    Persisted checkpoint (recover (reach store labels) task saver checkpoint)
      ↔ (reach store labels).keys.fence = none
        ∨ ∃ raw, (reach store labels).keys.payload = some raw
          ∧ raw.generation = (reach store labels).keys.fence := by
  have agrees := (reach_fenced untouched labels).agrees
  have formats : ∀ raw, (reach store labels).keys.payload = some raw →
      raw.format = 1 ∨ raw.format = 2 := by
    intro raw stored
    rcases agrees.payload raw stored with legacy | ⟨format, -⟩
    · exact .inl legacy.1
    · exact .inr format
  obtain ⟨keys, state⟩ := @agetTuple_run χ (reach store labels) task saver formats
  have ready : (reach store labels).keys.hydrated.Ready := by
    unfold Keys.hydrated
    cases (reach store labels).keys.payload with
    | none => exact ⟨rfl, rfl⟩
    | some =>
      dsimp only
      split_ifs with stale
      all_goals exact ⟨rfl, rfl⟩
  unfold recover
  rw [aput_run checkpoint (by rw [state]; exact ready), keys, state]
  exact hydrate_basis agrees

def cleanup : Schedule Nat :=
  .start 0 (.deleteThread 0) :: List.replicate 5 (.resume 0 .replied)

/-- A saver puts a checkpoint and crashes between its reservation and its publication. -/
def crashedPut : Schedule Nat :=
  .start 0 (.put 0 7) :: List.replicate 4 (.resume 0 .replied) ++ [.cancel 0]

theorem not_persisted_of_error {checkpoint : χ} {outcome : Store χ × Except PersistenceError Unit}
    {error : PersistenceError} (rejected : outcome.2 = .error error) :
    ¬ Persisted checkpoint outcome := by
  rintro ⟨done, -⟩
  rw [rejected] at done
  cases done

/-- **A thread that is stuck.** After a cleanup, and after a crash between reserve and publish, the
put of a fresh saver is rejected as stale. -/
theorem fresh_saver_rejected :
    ¬ Persisted 8 (recover (reach (Store.fresh 0) cleanup) 1 1 8)
    ∧ ¬ Persisted 8 (recover (reach (Store.fresh 0) crashedPut) 1 1 8) := by
  have afterCleanup : (recover (reach (Store.fresh 0) cleanup) 1 1 8).2
      = .error (.staleBasis 0) := by decide
  have afterCrash : (recover (reach (Store.fresh 0) crashedPut) 1 1 8).2
      = .error (.staleBasis 0) := by decide
  exact ⟨not_persisted_of_error afterCleanup, not_persisted_of_error afterCrash⟩

def completedPut : Schedule Nat :=
  .start 0 (.put 0 7) :: List.replicate 7 (.resume 0 .replied)

theorem fresh_saver_persists_after_put :
    Persisted 8 (recover (reach (Store.fresh 0) completedPut) 1 1 8) :=
  (fresh_saver_persists_iff (Store.fresh_untouched 0) completedPut 1 1 8).mpr
    (.inr ⟨⟨2, some 1, [7], []⟩, by decide, by decide⟩)

end ShadowTrace.Checkpoint
