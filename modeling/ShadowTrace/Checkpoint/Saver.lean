/-
**The checkpoint saver** (`app/orchestration/checkpointer.py`).

Any number of savers, in any number of processes, share the keys of a thread. The coroutines of a
saver are programs over commands to Redis and on its own fields. Keys expire at any time.

The lock around `_persist` and `adelete_thread` is not modelled: coroutines may overlap here in
every way that it allows, and in others.
-/

import ShadowTrace.Checkpoint.Redis
import ShadowTrace.Lib.Coroutines

namespace ShadowTrace.Checkpoint

open Coroutine

variable {χ : Type}

/-! ### Savers -/

/-- The checkpoints a saver holds in memory. -/
structure Memory (χ : Type) where
  storage : Option (List χ)
  writes : List χ
deriving DecidableEq

/-- One `RedisCheckpointer` of the thread. -/
structure Saver (χ : Type) where
  redis : Bool
  memory : Memory χ
  /-- The last generation this saver has loaded or published (`_thread_basis_generation`). -/
  basis : Option Nat
  pinned : Bool
  failed : Bool
  memoryFallback : Bool
deriving DecidableEq

def Saver.create : Saver χ := ⟨true, ⟨none, []⟩, none, false, false, false⟩

section

variable (saver : Saver χ)

def Saver.usesRedis : Bool :=
  saver.redis && !saver.pinned && !saver.memoryFallback

def Saver.put (checkpoint : χ) : Saver χ :=
  { saver with
    memory := { saver.memory with storage := some (checkpoint :: saver.memory.storage.getD []) } }

def Saver.exportThread (generation : Int) : Option (Envelope χ) :=
  saver.memory.storage.map fun storage => ⟨2, some generation.toNat, storage, saver.memory.writes⟩

def Saver.importThread (raw : Envelope χ) (basis : Nat) : Saver χ :=
  { saver with
    memory := ⟨some raw.storage, raw.writes ++ saver.memory.writes⟩
    basis := some basis }

def Saver.markPersistenceFailure : Saver χ :=
  { saver with pinned := true, failed := true, memoryFallback := true }

end

/-! ### Commands -/

/-- What the client makes of an exception: `is_event_loop_error`, `_is_transient_redis_error`. -/
structure Fault where
  eventLoop : Bool
  transient : Bool
deriving DecidableEq

/-- What becomes of a command whose reply fails. -/
inductive Fate
  | executed
  | lost
  | delayed
deriving DecidableEq

/-- A Redis command may be answered, fail, be executed with its reply lost, or arrive after its
sender has given up (`Outside.arrive`). -/
inductive Transport
  | replied
  | failed (fault : Fault) (fate : Fate)
deriving DecidableEq

inductive Command (χ : Type)
  | redis (cmd : RedisCommand χ)
  | self (saver : Nat)
  | assign (saver : Nat) (change : Saver χ → Saver χ)
  | load (saver : Nat) (raw : Envelope χ) (basis : Nat)

abbrev Command.Reply : Command χ → Type
  | .redis cmd => Except Fault cmd.Reply
  | .self _ => Saver χ
  | .assign _ _ => Unit
  | .load _ _ _ => Unit

/-- The keys, the savers, the log (newest entry first), and the commands still on their way. -/
structure Store (χ : Type) where
  keys : Keys χ
  savers : Nat → Saver χ
  log : List (Entry χ)
  delayed : List (Nat × RedisCommand χ)

def Store.execute (store : Store χ) (task : Nat) (cmd : RedisCommand χ) : Store χ :=
  { store with
    keys := (cmd.execute store.keys).1
    log := ⟨task, .command cmd, store.keys⟩ :: store.log }

def exec (task : Nat) (transport : Transport) (store : Store χ) :
    (cmd : Command χ) → Store χ × cmd.Reply
  | .redis cmd =>
    match transport with
    | .replied => (store.execute task cmd, .ok (cmd.execute store.keys).2)
    | .failed fault .executed => (store.execute task cmd, .error fault)
    | .failed fault .lost => (store, .error fault)
    | .failed fault .delayed =>
      ({ store with delayed := store.delayed ++ [(task, cmd)] }, .error fault)
  | .self saver => (store, store.savers saver)
  | .assign saver change =>
    ({ store with savers := Function.update store.savers saver (change (store.savers saver)) }, ())
  | .load saver raw basis =>
    ({ store with
        savers := Function.update store.savers saver ((store.savers saver).importThread raw basis)
        log := ⟨task, .load raw, store.keys⟩ :: store.log }, ())

/-- What happens besides: keys expire, other threads take generations, a delayed command arrives, a
saver falls back to memory or recovers because of other threads. -/
inductive Outside
  | expireFence
  | expirePayload
  | otherThreads (generations : Nat)
  | arrive (index : Nat)
  | memoryFallback (saver : Nat) (active : Bool)

def outside (change : Outside) (store : Store χ) : Store χ :=
  match change with
  | .expireFence => { store with keys := { store.keys with fence := none } }
  | .expirePayload => { store with keys := { store.keys with payload := none } }
  | .otherThreads generations =>
    { store with keys := { store.keys with sequence := store.keys.sequence + generations } }
  | .arrive index =>
    match store.delayed[index]? with
    | none => store
    | some (task, cmd) =>
      { store.execute task cmd with delayed := store.delayed.eraseIdx index }
  | .memoryFallback saver active =>
    { store with
      savers := Function.update store.savers saver
        { store.savers saver with memoryFallback := active } }

/-! ### Coroutines -/

abbrev SaverProgram (χ α : Type) : Type := Program (Command χ) Command.Reply α

/-- Why a saver raises. -/
inductive PersistenceError
  | readBlocked
  | blocked
  | fenceFailed
  | staleBasis (expected : Int)
  | publishFailed (generation : Int)
  | superseded (generation : Int)
deriving DecidableEq

def redis (cmd : RedisCommand χ) : SaverProgram χ (Except Fault cmd.Reply) :=
  Program.request (Command.redis cmd)

def self (saver : Nat) : SaverProgram χ (Saver χ) := Program.request (Command.self saver)

def assign (saver : Nat) (change : Saver χ → Saver χ) : SaverProgram χ Unit :=
  Program.request (Command.assign saver change)

def redisCallWithLoopRetry (cmd : RedisCommand χ) :
    SaverProgram χ (Except Fault cmd.Reply) := do
  match ← redis cmd with
  | .ok reply => return .ok reply
  | .error fault => if fault.eventLoop then redis cmd else return .error fault

def redisCallWithTransientRetry (cmd : RedisCommand χ) :
    Nat → SaverProgram χ (Except Fault cmd.Reply)
  | 0 => redisCallWithLoopRetry cmd
  | retries + 1 => do
    match ← redisCallWithLoopRetry cmd with
    | .ok reply => return .ok reply
    | .error fault =>
      if fault.transient then redisCallWithTransientRetry cmd retries
      else return .error fault

def persistTransientRetries : Nat := 2

variable (saver : Nat)

def enableMemoryFallback : SaverProgram χ Unit :=
  assign saver fun state => { state with memoryFallback := true }

def bestEffortDeleteStalePayload : SaverProgram χ Unit := do
  let _ ← redisCallWithLoopRetry (RedisCommand.deletePayload : RedisCommand χ)
  return ()

def advanceGenerationFence (expected : Int) : SaverProgram χ (Except Fault Int) :=
  redisCallWithTransientRetry (.reserve expected) persistTransientRetries

def reserveGeneration : SaverProgram χ (Except PersistenceError Int) := do
  let state ← self saver
  let expected : Int := (state.basis.getD 0 : Nat)
  match ← advanceGenerationFence expected with
  | .error _ =>
    bestEffortDeleteStalePayload
    assign saver Saver.markPersistenceFailure
    return .error .fenceFailed
  | .ok generation =>
    if generation < 0 then
      assign saver Saver.markPersistenceFailure
      return .error (.staleBasis expected)
    else return .ok generation

def publish (saver : Nat) (generation : Int) (raw : Envelope χ) :
    SaverProgram χ (Except PersistenceError Unit) := do
  match ← redisCallWithTransientRetry (.publish generation raw) persistTransientRetries with
  | .error _ =>
    assign saver Saver.markPersistenceFailure
    return .error (.publishFailed generation)
  | .ok published =>
    if published ≠ (1 : Int) then
      assign saver Saver.markPersistenceFailure
      return .error (.superseded generation)
    else return .ok ()

def persistLocked : SaverProgram χ (Except PersistenceError Unit) := do
  let state ← self saver
  if state.failed then return .error .blocked
  else if !state.usesRedis then
    if state.memoryFallback then assign saver fun state => { state with pinned := true }
    return .ok ()
  else if state.memory.storage.isNone then return .ok ()
  else
    match ← reserveGeneration saver with
    | .error error => return .error error
    | .ok generation =>
      match (← self saver).exportThread generation with
      | none => return .ok ()
      | some raw =>
        match ← publish saver generation raw with
        | .error error => return .error error
        | .ok () =>
          assign saver fun state => { state with basis := some generation.toNat }
          return .ok ()

def loadFailed : SaverProgram χ Unit :=
  assign saver fun state => { state with pinned := true, memoryFallback := true }

/-- The test of a payload against the fence that was read after it. -/
def isStale (raw : Envelope χ) (fence : Option Nat) : Bool :=
  if raw.format = 1 then decide (fence.getD 0 > 0)
  else decide (raw.payloadGeneration ≠ fence.getD 0)

def loadPayload : SaverProgram χ (Except Fault (Option (Envelope χ))) :=
  redisCallWithLoopRetry .getPayload

def loadGenerationFence : SaverProgram χ (Except Fault (Option Nat)) :=
  redisCallWithLoopRetry .getFence

def hydrate : SaverProgram χ Unit := do
  let state ← self saver
  if !state.usesRedis || state.memory.storage.isSome then return ()
  else
    match ← loadPayload with
    | .error _ => loadFailed saver
    | .ok none => return ()
    | .ok (some raw) =>
      match ← loadGenerationFence with
      | .error _ => loadFailed saver
      | .ok fence =>
        if isStale raw fence then return ()
        -- an envelope of another format cannot be imported
        else if raw.format ≠ 1 ∧ raw.format ≠ 2 then loadFailed saver
        else
          Program.request (Command.load saver raw
            (if fence.getD 0 > 0 then fence.getD 0 else raw.payloadGeneration))

def deleteFailed (hadPersistenceFailure : Bool) : SaverProgram χ Unit := do
  if hadPersistenceFailure then assign saver fun state => { state with failed := true }
  bestEffortDeleteStalePayload
  enableMemoryFallback saver

def adeleteThreadLocked : SaverProgram χ Unit := do
  let state ← self saver
  assign saver fun state => { state with memory := ⟨none, []⟩, pinned := false, basis := none }
  if !state.redis then return ()
  else
    match ← advanceGenerationFence forceGenerationExpected with
    | .error _ => deleteFailed saver state.failed
    | .ok _ =>
      match ← redisCallWithLoopRetry (RedisCommand.deletePayload : RedisCommand χ) with
      | .error _ => deleteFailed saver state.failed
      | .ok _ => assign saver fun state => { state with failed := false }

/-- The calls of a saver. -/
inductive Job (χ : Type)
  | getTuple (saver : Nat)
  | put (saver : Nat) (checkpoint : χ)
  | putWrites (saver : Nat) (writes : List χ)
  | deleteThread (saver : Nat)

def agetTuple : SaverProgram χ (Except PersistenceError Unit) := do
  let state ← self saver
  if state.failed then return .error .readBlocked
  else
    hydrate saver
    return .ok ()

def aput (checkpoint : χ) : SaverProgram χ (Except PersistenceError Unit) := do
  assign saver fun state => state.put checkpoint
  persistLocked saver

def aputWrites (writes : List χ) : SaverProgram χ (Except PersistenceError Unit) := do
  assign saver fun state =>
    { state with memory := { state.memory with writes := writes ++ state.memory.writes } }
  persistLocked saver

def body : Job χ → SaverProgram χ (Except PersistenceError Unit)
  | .getTuple saver => agetTuple saver
  | .put saver checkpoint => aput saver checkpoint
  | .putWrites saver writes => aputWrites saver writes
  | .deleteThread saver => do
    adeleteThreadLocked saver
    return .ok ()

def system : System (Store χ) (Command χ) Command.Reply (Except PersistenceError Unit) (Job χ)
    Transport Outside := ⟨exec, body, outside⟩

abbrev Schedule (χ : Type) : Type := List (Label (Job χ) Transport Outside)

/-- Before the first saver has touched the thread: there is no fence, at most a payload from an
older deployment, and no saver has a basis. -/
structure Store.Untouched (store : Store χ) : Prop where
  fence : store.keys.fence = none
  payload : ∀ raw, store.keys.payload = some raw → raw.Legacy
  basis : ∀ saver, (store.savers saver).basis = none
  log : store.log = []
  delayed : store.delayed = []

/-- A thread nobody has used, after other threads have taken some generations. -/
def Store.fresh (sequence : Nat) : Store χ :=
  ⟨⟨sequence, none, none⟩, fun _ => Saver.create, [], []⟩

theorem Store.fresh_untouched (sequence : Nat) : (Store.fresh sequence : Store χ).Untouched :=
  ⟨rfl, fun _ stored => (by cases stored), fun _ => rfl, rfl, rfl⟩

def reach (store : Store χ) (labels : Schedule χ) : Store χ :=
  (system.run (World.idle store) labels).store

end ShadowTrace.Checkpoint
