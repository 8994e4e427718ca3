/-
**The lease of an event** (`app/orchestration/lease.py`).

One Redis key names the worker that orchestrates an event. Workers acquire, renew and release it
in any interleaving, the key may expire at any time, and a command may raise whether or not Redis
has executed it.
-/

import ShadowTrace.Lib.Coroutines

namespace ShadowTrace.Lease

open Coroutine Machine

variable {ω : Type} [DecidableEq ω]

/-! ### The key -/

structure LeaseKey (ω : Type) where
  owner : ω
  ttl : Nat
deriving DecidableEq

def defaultLeaseTtl : Nat := 600

def releaseScript (owner : ω) : Option (LeaseKey ω) → Option (LeaseKey ω) × Int
  | none => (none, -1)
  | some lease => if lease.owner = owner then (none, 1) else (some lease, 0)

inductive Command (ω : Type)
  | setNx (owner : ω) (ttl : Nat)
  | get
  | expire (caller : ω) (ttl : Nat)
  | release (owner : ω)
deriving DecidableEq

inductive RedisError
  | unavailable
deriving DecidableEq

abbrev Command.Answer : Command ω → Type
  | .setNx _ _ => Bool
  | .get => Option ω
  | .expire _ _ => Bool
  | .release _ => Int

abbrev Command.Reply (command : Command ω) : Type := Except RedisError command.Answer

def Command.execute :
    (command : Command ω) → Option (LeaseKey ω) → Option (LeaseKey ω) × command.Answer
  | .setNx owner ttl, none => (some ⟨owner, ttl⟩, true)
  | .setNx _ _, some lease => (some lease, false)
  | .get, lease => (lease, lease.map LeaseKey.owner)
  | .expire _ _, none => (none, false)
  | .expire _ ttl, some lease => (some { lease with ttl }, true)
  | .release owner, lease => releaseScript owner lease

inductive Delivery
  | answered
  | raised (executed : Bool)
deriving DecidableEq

def Delivery.executed : Delivery → Bool
  | .answered => true
  | .raised executed => executed

def exec (_ : Nat) (delivery : Delivery) (lease : Option (LeaseKey ω)) (command : Command ω) :
    Option (LeaseKey ω) × command.Reply :=
  (if delivery.executed then (command.execute lease).1 else lease,
    match delivery with
    | .answered => .ok (command.execute lease).2
    | .raised _ => .error .unavailable)

/-! ### The workers -/

abbrev LeaseProgram (ω α : Type) : Type := Program (Command ω) Command.Reply α

/-- A single `SET NX EX`. -/
def acquire (owner : ω) (ttl : Nat) : LeaseProgram ω (Except RedisError Bool) :=
  Program.request (Command.setNx owner ttl)

def extend (owner : ω) : LeaseProgram ω (Except RedisError Bool) :=
  .call (Command.expire owner defaultLeaseTtl) fun
    | .error error => .done (.error error)
    | .ok _ => .done (.ok true)

def compareOwner (owner current : ω) : LeaseProgram ω (Except RedisError Bool) :=
  if current ≠ owner then .done (.ok false) else extend owner

/-- A `GET` that compares the owner, and an `EXPIRE` that does not. -/
def renew (owner : ω) : LeaseProgram ω (Except RedisError Bool) :=
  .call Command.get fun
    | .error error => .done (.error error)
    | .ok none => .done (.ok false)
    | .ok (some current) => compareOwner owner current

/-- A script that compares and deletes. -/
def release (owner : ω) : LeaseProgram ω (Except RedisError Bool) :=
  .call (Command.release owner) fun
    | .error error => .done (.error error)
    | .ok code => .done (.ok (decide (code = (1 : Int) ∨ code = (-1 : Int))))

inductive Job (ω : Type)
  | acquire (owner : ω) (ttl : Nat)
  | renew (owner : ω)
  | release (owner : ω)

def body : Job ω → LeaseProgram ω (Except RedisError Bool)
  | .acquire owner ttl => acquire owner ttl
  | .renew owner => renew owner
  | .release owner => release owner

/-- The only change from outside: the key expires. -/
inductive Outside
  | expire

def outside : Outside → Option (LeaseKey ω) → Option (LeaseKey ω)
  | .expire, _ => none

def system : System (Option (LeaseKey ω)) (Command ω) Command.Reply (Except RedisError Bool) (Job ω)
    Delivery Outside := ⟨exec, body, outside⟩

abbrev Workers (ω : Type) : Type :=
  World (Option (LeaseKey ω)) (Command ω) Command.Reply (Except RedisError Bool)

abbrev Schedule (ω : Type) : Type := List (Label (Job ω) Delivery Outside)

section

variable (w : Workers ω) (label : Label (Job ω) Delivery Outside)

def pendingOf (task : Nat) : Option (Command ω) :=
  (w.tasks task).bind Program.pending

/-! ### What is claimed of a step -/

/-- A renewal that takes effect finds its caller's lease, and one that reports success has found
it. -/
def RenewSafe : Prop :=
  ∀ task delivery caller ttl, label = .resume task delivery →
    pendingOf w task = some (.expire caller ttl) →
    (delivery.executed = true → ∀ lease, w.store = some lease → lease.owner = caller)
    ∧ (((system.step w label).tasks task).bind Program.result = some (.ok true) →
      ∃ lease, w.store = some lease ∧ lease.owner = caller)

def ReleaseSafe : Prop :=
  ∀ task delivery owner, label = .resume task delivery → pendingOf w task = some (.release owner) →
    ∀ lease, w.store = some lease → (system.step w label).store ≠ some lease → lease.owner = owner

/-- No lease goes away while a renewal of its owner is between its two commands. -/
def Undisturbed : Prop :=
  ∀ lease, w.store = some lease → (system.step w label).store = none →
    ∀ task ttl, pendingOf w task ≠ some (.expire lease.owner ttl)

end

/-! ### Releases -/

variable {lease : LeaseKey ω} {program : LeaseProgram ω (Except RedisError Bool)}
  {command : Command ω} {task : Nat} {w : Workers ω}

theorem releaseScript_removes {owner : ω}
    (gone : (releaseScript owner (some lease)).1 ≠ some lease) : lease.owner = owner := by
  by_contra other
  exact gone (by rw [releaseScript, if_neg other])

theorem release_safe (w : Workers ω) (label : Label (Job ω) Delivery Outside) :
    ReleaseSafe w label := by
  rintro task delivery owner rfl pending lease held gone
  obtain ⟨program, found, waits⟩ := Option.bind_eq_some_iff.mp pending
  cases program with
  | done => cases waits
  | call command =>
    obtain rfl : command = .release owner := Option.some.inj waits
    simp only [System.step, found, system, exec, held] at gone
    by_cases executed : delivery.executed = true
    · rw [if_pos executed] at gone
      exact releaseScript_removes gone
    · rw [if_neg executed] at gone
      exact absurd rfl gone

/-! ### Renewals -/

inductive Stage : LeaseProgram ω (Except RedisError Bool) → Prop
  | fresh (job : Job ω) : Stage (body job)
  | extending (owner : ω) : Stage (extend owner)
  | finished (value : Except RedisError Bool) : Stage (.done value)

def Extending (program : LeaseProgram ω (Except RedisError Bool)) (caller : ω) : Prop :=
  ∃ ttl, program.pending = some (.expire caller ttl)

omit [DecidableEq ω] in
theorem not_extending_done {value : Except RedisError Bool} {caller : ω} :
    ¬ Extending (.done value) caller := by
  rintro ⟨ttl, pending⟩
  cases pending

theorem not_extending_body (job : Job ω) (caller : ω) : ¬ Extending (body job) caller := by
  rintro ⟨ttl, pending⟩
  cases job with
  | acquire | renew | release => cases pending

/-- Whoever is between the two commands of a renewal has the lease. -/
def Holds (lease : Option (LeaseKey ω)) (program : LeaseProgram ω (Except RedisError Bool)) :
    Prop :=
  Stage program ∧ ∀ caller, Extending program caller → ∃ held, lease = some held
    ∧ held.owner = caller

/-- **One command of a worker.** It reaches the second half of a renewal only with the lease in its
own name. -/
theorem Stage.next (stage : Stage program)
    {next : command.Reply → LeaseProgram ω (Except RedisError Bool)}
    (calls : program = .call command next) (task : Nat) (delivery : Delivery)
    (lease : Option (LeaseKey ω)) :
    Holds (exec task delivery lease command).1 (next (exec task delivery lease command).2) := by
  have ended : ∀ {program : LeaseProgram ω (Except RedisError Bool)}
      {value : Except RedisError Bool} {after : Option (LeaseKey ω)}, program = .done value →
      Holds after program := by
    rintro program value after rfl
    exact ⟨.finished value, fun _ extending => absurd extending not_extending_done⟩
  cases stage with
  | finished => cases calls
  | extending =>
    cases calls
    cases delivery with
    | answered | raised => exact ended rfl
  | fresh job =>
    cases job with
    | acquire =>
      cases calls
      exact ended rfl
    | release =>
      cases calls
      cases delivery with
      | answered | raised => exact ended rfl
    | renew owner =>
      cases calls
      cases delivery with
      | raised => exact ended rfl
      | answered =>
        cases lease with
        | none => exact ended rfl
        | some held =>
          show Holds (some held) (compareOwner owner held.owner)
          by_cases mine : held.owner = owner
          · rw [compareOwner, if_neg (not_not.mpr mine)]
            refine ⟨.extending owner, ?_⟩
            rintro caller ⟨ttl, pending⟩
            obtain ⟨rfl, -⟩ := Command.expire.inj (Option.some.inj pending)
            exact ⟨held, rfl, mine⟩
          · rw [compareOwner, if_pos mine]
            exact ended rfl

/-- Every worker is where it can be, and one between the two commands of a renewal has the lease. -/
structure Sound (w : Workers ω) : Prop where
  staged : ∀ task program, w.tasks task = some program → Stage program
  held : ∀ task program caller, w.tasks task = some program → Extending program caller →
    ∃ lease, w.store = some lease ∧ lease.owner = caller

theorem sound_iff : Sound w ↔ ∀ task program, w.tasks task = some program → Holds w.store program :=
  ⟨fun sound task program found => ⟨sound.staged task program found, fun caller =>
      sound.held task program caller found⟩,
    fun each => ⟨fun task program found => (each task program found).1,
      fun task program caller found => (each task program found).2 caller⟩⟩

theorem execute_keeps (stays : (command.execute (some lease)).1 ≠ none) :
    ∃ after, (command.execute (some lease)).1 = some after ∧ after.owner = lease.owner := by
  cases command with
  | setNx | get => exact ⟨lease, rfl, rfl⟩
  | expire _ ttl => exact ⟨{ lease with ttl }, rfl, rfl⟩
  | release owner =>
    change (releaseScript owner (some lease)).1 ≠ none at stays
    by_cases mine : lease.owner = owner
    · rw [releaseScript, if_pos mine] at stays
      exact absurd rfl stays
    · refine ⟨lease, ?_, rfl⟩
      show (releaseScript owner (some lease)).1 = some lease
      rw [releaseScript, if_neg mine]

theorem exec_keeps {delivery : Delivery}
    (stays : (exec task delivery (some lease) command).1 ≠ none) :
    ∃ after, (exec task delivery (some lease) command).1 = some after
      ∧ after.owner = lease.owner := by
  unfold exec at stays ⊢
  by_cases executed : delivery.executed = true
  · simp only [executed] at stays ⊢
    exact execute_keeps stays
  · simp only [executed] at stays ⊢
    exact ⟨lease, rfl, rfl⟩

omit [DecidableEq ω] in
theorem pendingOf_eq (found : w.tasks task = some program) :
    pendingOf w task = program.pending := by
  unfold pendingOf
  rw [found]
  rfl

theorem Sound.held_after {label : Label (Job ω) Delivery Outside} (sound : Sound w)
    (undisturbed : Undisturbed w label) {after : Option (LeaseKey ω)}
    (moved : (system.step w label).store = after)
    (keeps : ∀ lease, w.store = some lease → after ≠ none →
      ∃ later, after = some later ∧ later.owner = lease.owner) {caller : ω}
    (found : w.tasks task = some program) (extending : Extending program caller) :
    ∃ lease, after = some lease ∧ lease.owner = caller := by
  obtain ⟨lease, stored, rfl⟩ := sound.held task program caller found extending
  obtain ⟨ttl, pending⟩ := extending
  by_cases gone : after = none
  · have := undisturbed lease stored (moved.trans gone) task ttl
    rw [pendingOf_eq found] at this
    exact absurd pending this
  · exact keeps lease stored gone

theorem step_sound (w : Workers ω) (label : Label (Job ω) Delivery Outside)
    (sound : Sound w) (undisturbed : Undisturbed w label) :
    Sound (system.step w label) := by
  obtain same | ⟨task, job, -, -, moved⟩ | ⟨task, delivery, command, _, -, found, moved⟩
    | ⟨task, -, moved⟩ | ⟨change, -, moved⟩ := system.step_cases w label
  · rw [same]
    exact sound
  · rw [moved]
    refine sound_iff.mpr fun other program there => ?_
    rcases update_eq_some there with ⟨rfl, ⟨⟩⟩ | ⟨-, kept⟩
    · exact ⟨.fresh job, fun caller extending => absurd extending (not_extending_body job caller)⟩
    · exact sound_iff.mp sound other program kept
  · have keeps : ∀ lease, w.store = some lease → (exec task delivery w.store command).1 ≠ none →
        ∃ later, (exec task delivery w.store command).1 = some later
          ∧ later.owner = lease.owner := by
      intro _ stored stays
      rw [stored] at stays ⊢
      exact exec_keeps stays
    rw [moved]
    refine sound_iff.mpr fun other program there => ?_
    rcases update_eq_some there with ⟨rfl, ⟨⟩⟩ | ⟨-, kept⟩
    · exact (sound.staged other _ found).next rfl other delivery w.store
    · exact ⟨sound.staged other program kept, fun caller extending =>
        sound.held_after undisturbed (by rw [moved]; rfl) keeps kept extending⟩
  · rw [moved]
    refine sound_iff.mpr fun other program there => ?_
    rcases update_eq_some there with ⟨-, ⟨⟩⟩ | ⟨-, kept⟩
    exact sound_iff.mp sound other program kept
  · rw [moved]
    refine ⟨sound.staged, ?_⟩
    intro _ _ _ found extending
    exact sound.held_after undisturbed (by rw [moved]; rfl) (fun _ _ => absurd rfl)
      found extending

theorem Sound.renew_safe (sound : Sound w) (label : Label (Job ω) Delivery Outside) :
    RenewSafe w label := by
  rintro task delivery caller ttl rfl pending
  obtain ⟨program, found, waits⟩ := Option.bind_eq_some_iff.mp pending
  obtain ⟨lease, stored, mine⟩ := sound.held task program caller found ⟨ttl, waits⟩
  refine ⟨fun _ other same => ?_, fun _ => ⟨lease, stored, mine⟩⟩
  obtain rfl := Option.mem_unique stored same
  exact mine

/-- **The lease.** For any number of workers and every interleaving of their commands, with the key
expiring at any time: a release never removes another owner's lease. And in every schedule in which
no lease goes away while a renewal of its owner is between its `GET` and its `EXPIRE`, a renewal
never extends another owner's lease, and reports success only if its caller had the lease. -/
theorem lease_safe (lease : Option (LeaseKey ω)) (labels : Schedule ω) :
    (∀ before label after, Occurs system.step (World.idle lease) labels before label after →
      ReleaseSafe before label)
    ∧ (Along system.step Undisturbed (World.idle lease) labels →
      ∀ before label after,
        Occurs system.step (World.idle lease) labels before label after →
        RenewSafe before label) := by
  refine ⟨fun before label _ _ => release_safe before label, ?_⟩
  intro undisturbed before label _ occurs
  have idle : Sound (World.idle lease : Workers ω) :=
    ⟨fun _ _ found => (by cases found), fun _ _ _ found => (by cases found)⟩
  exact occurs_invariant Undisturbed Sound (fun before label _ => RenewSafe before label)
    step_sound (fun _ label sound _ => sound.renew_safe label) idle undisturbed occurs

/-- Worker 1 acquires and renews; before its `EXPIRE` the key expires and worker 2 acquires it. -/
def overtakenRenewal : Schedule Nat :=
  [.start 0 (.acquire 1 30), .resume 0 .answered, .start 1 (.renew 1), .resume 1 .answered,
    .outside .expire, .start 2 (.acquire 2 30), .resume 2 .answered]

/-- **A renewal that extends another worker's lease**, and reports success. -/
theorem renew_extends_foreign_lease :
    (system.run (World.idle none) overtakenRenewal).store = some ⟨2, 30⟩
    ∧ pendingOf (system.run (World.idle none) overtakenRenewal) 1 = some (.expire 1 600)
    ∧ (system.run (World.idle none) (overtakenRenewal ++ [.resume 1 .answered])).store
      = some ⟨2, 600⟩
    ∧ ¬ RenewSafe (system.run (World.idle none) overtakenRenewal) (.resume 1 .answered) := by
  refine ⟨by decide, by decide, by decide, ?_⟩
  intro safe
  have foreign := (safe 1 .answered 1 600 rfl (by decide)).1 rfl ⟨2, 30⟩ (by decide)
  cases foreign

/-- Worker 2 is refused within the renewal of worker 1, and has the lease when that has expired. -/
def contendedRenewal : Schedule Nat :=
  [.start 0 (.acquire 1 30), .resume 0 .answered, .start 1 (.renew 1), .resume 1 .answered,
    .start 2 (.acquire 2 30), .resume 2 .answered, .resume 1 .answered, .outside .expire,
    .start 3 (.acquire 2 30), .resume 3 .answered]

theorem lease_safe_contended :
    ((system.run (World.idle none) contendedRenewal).tasks 1).bind Program.result = some (.ok true)
    ∧ (system.run (World.idle none) contendedRenewal).store = some ⟨2, 30⟩
    ∧ ∀ before label after,
      Occurs system.step (World.idle none) contendedRenewal before label after →
      RenewSafe before label := by
  refine ⟨by decide, by decide, (lease_safe none contendedRenewal).2
    ⟨nofun, nofun, ?_, ?_, ?_, ?_, ?_, ?_, nofun, nofun, trivial⟩⟩
  iterate 5 exact fun _ _ gone => absurd gone (by decide)
  -- worker 1 has finished when its lease expires
  intro _ _ _ task _
  match task with
  | 0 | 1 | 2 | _ + 3 => exact nofun

end ShadowTrace.Lease
