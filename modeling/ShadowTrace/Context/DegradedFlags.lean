/-
**Degraded flags** (`DegradedFlagService.set_flag`).

A call reads the list column of the event, changes the entry of one flag and writes the whole list
back. It takes no row lock, so other calls may commit between its read and its write.
-/

import ShadowTrace.Lib.Runs

namespace ShadowTrace.Context

open Machine

/-- An entry `name=value`, or a bare `name`. Flag names have no `=` in them, so that the entries of
a flag are those with its name. -/
structure FlagEntry (Name : Type) where
  name : Name
  value : Option String
  deriving DecidableEq

inductive FlagValue
  | off | on
  | other (text : String)

section

variable (Name Writer : Type)

structure SetFlag where
  name : Name
  value : FlagValue
  writer : Writer

/-- Who may write a flag, and which flags there are. -/
structure FlagSettings where
  trustedCallers : Writer → Bool
  allowlist : Name → Bool

/-- The column of one event, the calls that have read it, and the calls that have committed, the
newest first. -/
structure FlagStore where
  flags : List (FlagEntry Name)
  reads : Nat → Option (SetFlag Name Writer × List (FlagEntry Name)) := fun _ => none
  committed : List (SetFlag Name Writer) := []

/-- A writer reads the flags, and commits what it has made of them. -/
inductive FlagOp
  | read (call : Nat) (req : SetFlag Name Writer)
  | commit (call : Nat)

end

variable {Name Writer : Type} [DecidableEq Name]

def formatDegradedFlag (name : Name) : FlagValue → Option (FlagEntry Name)
  | .off => none
  | .on => some ⟨name, some "true"⟩
  | .other text => some ⟨name, some text⟩

def applyFlagToList (flags : List (FlagEntry Name)) (name : Name) (value : FlagValue) :
    List (FlagEntry Name) :=
  flags.filter (·.name ≠ name) ++ (formatDegradedFlag name value).toList

namespace FlagStore

variable (store : FlagStore Name Writer)

def step (cfg : FlagSettings Name Writer) : FlagOp Name Writer → FlagStore Name Writer
  | .read call req =>
    if cfg.trustedCallers req.writer && cfg.allowlist req.name then
      { store with reads := Function.update store.reads call (some (req, store.flags)) }
    else store
  | .commit call =>
    match store.reads call with
    | none => store
    | some (req, current) =>
      let updated := applyFlagToList current req.name req.value
      { flags := if updated = current then store.flags else updated
        reads := Function.update store.reads call none
        committed := req :: store.committed }

/-- Every flag has the entry that the last call for it has committed. -/
def Kept (initial : List (FlagEntry Name)) : Prop :=
  ∀ name, store.flags.filter (·.name = name)
    = (store.committed.find? (·.name = name)).elim (initial.filter (·.name = name))
      fun req => (formatDegradedFlag name req.value).toList

/-- Whoever commits finds the column as it was read. -/
def Undisturbed : FlagOp Name Writer → Prop
  | .read _ _ => True
  | .commit call => ∀ req seen, store.reads call = some (req, seen) → store.flags = seen

end FlagStore

theorem filter_applyFlagToList (flags : List (FlagEntry Name)) (name other : Name)
    (value : FlagValue) :
    (applyFlagToList flags name value).filter (·.name = other)
      = if name = other then (formatDegradedFlag name value).toList
        else flags.filter (·.name = other) := by
  rw [applyFlagToList, List.filter_append, List.filter_filter]
  split_ifs with same
  · subst same
    cases value <;> simp [formatDegradedFlag]
  · have kept : ∀ entry ∈ flags, (decide (entry.name = other) && decide (entry.name ≠ name))
        = decide (entry.name = other) := by
      intro entry _
      by_cases named : entry.name = other <;> simp [named, Ne.symm same]
    rw [List.filter_congr kept]
    cases value <;> simp [formatDegradedFlag, same]

theorem step_kept {cfg : FlagSettings Name Writer} {store : FlagStore Name Writer}
    {initial : List (FlagEntry Name)} (op : FlagOp Name Writer) (kept : store.Kept initial)
    (undisturbed : store.Undisturbed op) : (store.step cfg op).Kept initial := by
  cases op with
  | read =>
    rw [FlagStore.step]
    split_ifs <;> exact kept
  | commit =>
    rw [FlagStore.step]
    split
    · exact kept
    rename_i req seen found
    obtain rfl := undisturbed req seen found
    intro name
    dsimp only
    -- a list that stays as it is need not be written
    rw [show (if _ = store.flags then store.flags else _) = _ from ite_eq_right_iff.mpr Eq.symm,
      filter_applyFlagToList, List.find?_cons]
    split_ifs with same
    · simp [same]
    · simpa [same] using kept name

/-- **No flag is lost**, if every call that commits finds the column as it read it: after any
interleaving of calls, each flag has the entry that the last call for it has committed. -/
theorem flags_kept (cfg : FlagSettings Name Writer) (initial : List (FlagEntry Name))
    (ops : List (FlagOp Name Writer))
    (undisturbed : Along (FlagStore.step · cfg) FlagStore.Undisturbed
      { flags := initial } ops) :
    (run (FlagStore.step · cfg) { flags := initial } ops).Kept initial :=
  run_invariant _ (FlagStore.Kept · initial)
    (fun _ => step_kept) (fun _ => rfl) undisturbed

def sampleFlags : FlagSettings Nat Unit := ⟨fun _ => true, fun _ => true⟩

/-- Two calls for two flags, one after the other. -/
theorem flags_kept_two : (run (FlagStore.step · sampleFlags) { flags := [] }
    [.read 0 ⟨1, .on, ()⟩, .commit 0, .read 1 ⟨2, .on, ()⟩, .commit 1]).Kept [] := by
  refine flags_kept sampleFlags [] _ ⟨trivial, ?_, trivial, ?_, trivial⟩
  all_goals exact fun _ _ found => (Prod.mk.inj (Option.some.inj found)).2

/-- **A lost flag.** Two calls read the empty list; the second writes its own flag alone. -/
theorem flag_lost :
    let store := run (FlagStore.step · sampleFlags) { flags := [] }
      [.read 0 ⟨1, .on, ()⟩, .read 1 ⟨2, .on, ()⟩, .commit 0, .commit 1]
    store.flags = [⟨2, some "true"⟩] ∧ ¬ store.Kept [] := by
  refine ⟨by decide, fun kept => ?_⟩
  have first := kept 1
  revert first
  decide

end ShadowTrace.Context
