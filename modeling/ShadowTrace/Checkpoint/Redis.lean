/-
**The Redis keys of one checkpoint thread** (`app/orchestration/checkpointer.py`).

A thread has a payload key, a generation fence, and a share in the sequence that numbers the
generations of all threads. One script compares the fence with the caller's basis and moves it; the
other stores a payload if the fence is still the caller's generation.

The server keeps a log of what it has executed, each entry with the keys that were found there. No
command reads the log.
-/

import Mathlib.Data.Int.Basic

namespace ShadowTrace.Checkpoint

variable {χ : Type}

/-- The envelope under the payload key: the exported memory of a saver. Format 1 has no generation.
-/
structure Envelope (χ : Type) where
  format : Nat
  generation : Option Nat
  storage : List χ
  writes : List χ
deriving DecidableEq

def Envelope.payloadGeneration (batch : Envelope χ) : Nat := batch.generation.getD 0

def Envelope.Legacy (batch : Envelope χ) : Prop :=
  batch.format = 1 ∧ batch.generation = none

/-- The keys a thread depends on. The sequence has no lifetime, the other two may expire. -/
structure Keys (χ : Type) where
  sequence : Nat
  fence : Option Nat
  payload : Option (Envelope χ)
deriving DecidableEq

/-- The fence value as the reserve script reads it: a missing key counts as 0. -/
def Keys.current (keys : Keys χ) : Nat := keys.fence.getD 0

def forceGenerationExpected : Int := -1

/-- A reservation is refused when the caller names a basis and the fence is another. -/
def Keys.Accepts (keys : Keys χ) (expected : Int) : Prop :=
  ¬ (expected ≥ 0 ∧ (keys.current : Int) ≠ expected)

instance (keys : Keys χ) (expected : Int) : Decidable (keys.Accepts expected) :=
  inferInstanceAs (Decidable (¬ _))

def checkpointReserveScript (expected : Int) (keys : Keys χ) : Keys χ × Int :=
  if expected ≥ 0 ∧ (keys.current : Int) ≠ expected then (keys, -1)
  else
    ({ keys with sequence := keys.sequence + 1, fence := some (keys.sequence + 1) },
      ((keys.sequence + 1 : Nat) : Int))

/-- The fence value as the publish script reads it: a missing key counts as -1. -/
def Keys.published (keys : Keys χ) : Int := (keys.fence.map Int.ofNat).getD (-1)

def checkpointPublishScript (generation : Int) (raw : Envelope χ) (keys : Keys χ) : Keys χ × Int :=
  if keys.published ≠ generation then (keys, 0) else ({ keys with payload := some raw }, 1)

/-- What a saver asks of the server. -/
inductive RedisCommand (χ : Type)
  | reserve (expected : Int)
  | publish (generation : Int) (raw : Envelope χ)
  | getPayload
  | getFence
  | deletePayload
deriving DecidableEq

abbrev RedisCommand.Reply : RedisCommand χ → Type
  | .reserve _ => Int
  | .publish _ _ => Int
  | .getPayload => Option (Envelope χ)
  | .getFence => Option Nat
  | .deletePayload => Unit

def RedisCommand.execute : (command : RedisCommand χ) → Keys χ → Keys χ × command.Reply
  | .reserve expected, keys => checkpointReserveScript expected keys
  | .publish generation raw, keys => checkpointPublishScript generation raw keys
  | .getPayload, keys => (keys, keys.payload)
  | .getFence, keys => (keys, keys.fence)
  | .deletePayload, keys => ({ keys with payload := none }, ())

/-! ### The log -/

/-- A command, or a payload that a saver takes into its memory. -/
inductive Action (χ : Type)
  | command (command : RedisCommand χ)
  | load (raw : Envelope χ)
deriving DecidableEq

/-- An executed action, with the keys it found. -/
structure Entry (χ : Type) where
  task : Nat
  action : Action χ
  before : Keys χ

section

variable (entry : Entry χ)

def Entry.reservation : Option (Int × Nat) :=
  match entry.action with
  | .command (.reserve expected) =>
    if entry.before.Accepts expected then some (expected, entry.before.sequence + 1) else none
  | _ => none

/-- The generation that the entry reserved. -/
def Entry.reserved : Option Nat := entry.reservation.map Prod.snd

/-- The generation that the entry published. -/
def Entry.published : Option Nat :=
  match entry.action with
  | .command (.publish generation _) =>
    if entry.before.published = generation then entry.before.fence else none
  | _ => none

def Entry.read : Option (Envelope χ) :=
  match entry.action with
  | .command .getPayload => entry.before.payload
  | _ => none

def Entry.loaded : Option (Envelope χ) :=
  match entry.action with
  | .load raw => some raw
  | _ => none

end

def lastPublished (log : List (Entry χ)) : Option Nat := log.findSome? Entry.published

/-! ### What the scripts do -/

section

variable {keys : Keys χ} {expected generation : Int} {raw : Envelope χ}

theorem accepts_iff : keys.Accepts expected ↔ (0 ≤ expected → (keys.current : Int) = expected) := by
  simp only [Keys.Accepts, not_and, not_not]

/-- **A reservation moves the fence to a generation nobody has had.** -/
theorem checkpointReserveScript_of_accepts (accepted : keys.Accepts expected) :
    checkpointReserveScript expected keys
      = ({ keys with sequence := keys.sequence + 1, fence := some (keys.sequence + 1) },
          ((keys.sequence + 1 : Nat) : Int)) :=
  if_neg accepted

theorem checkpointReserveScript_of_refused (refused : ¬ keys.Accepts expected) :
    checkpointReserveScript expected keys = (keys, -1) :=
  if_pos (not_not.mp refused)

theorem published_eq_iff {number : Nat} :
    keys.published = (number : Int) ↔ keys.fence = some number := by
  unfold Keys.published
  cases keys.fence with
  | none => simp
  | some =>
    rw [Option.map_some, Option.getD_some, Option.some.injEq]
    exact Int.ofNat_inj

theorem checkpointPublishScript_of_current (current : keys.published = generation) :
    checkpointPublishScript generation raw keys = ({ keys with payload := some raw }, 1) :=
  if_neg (not_not.mpr current)

theorem checkpointPublishScript_of_superseded (superseded : keys.published ≠ generation) :
    checkpointPublishScript generation raw keys = (keys, 0) :=
  if_pos superseded

end

end ShadowTrace.Checkpoint
