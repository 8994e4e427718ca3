/-
**Coroutines over a shared store.**

A `Program` hands commands to a store and goes on with their replies; everything between two
commands is its own business. A `System` runs any number of such programs: a label starts a task,
lets one task execute its next command, cancels a task, or changes the store from outside. What a
command does not decide itself (a lost reply, a clock) is an `input` of the label, so "for every
interleaving" is again a quantifier over lists of labels.
-/

import ShadowTrace.Lib.Runs

namespace Coroutine

variable {σ γ α β τ ι ε : Type} {ρ : γ → Type}

/-- A program over commands `γ`, where the command `c` is answered by a `ρ c`. -/
inductive Program (γ : Type) (ρ : γ → Type) (α : Type)
  | done (value : α)
  | call (command : γ) (next : ρ command → Program γ ρ α)

namespace Program

def bind : Program γ ρ α → (α → Program γ ρ β) → Program γ ρ β
  | .done value, rest => rest value
  | .call command next, rest => .call command fun reply => (next reply).bind rest

instance : Monad (Program γ ρ) where
  pure := .done
  bind := bind

def request (command : γ) : Program γ ρ (ρ command) := .call command .done

/-- The command a program is about to execute. -/
def pending : Program γ ρ α → Option γ
  | .done _ => none
  | .call command _ => some command

def result : Program γ ρ α → Option α
  | .done value => some value
  | .call _ _ => none

/-- One program alone, under one input for all of its commands. -/
def run (exec : Nat → ι → σ → (command : γ) → σ × ρ command) (task : Nat) (input : ι) :
    Program γ ρ α → σ → σ × α
  | .done value, store => (store, value)
  | .call command next, store =>
    (next (exec task input store command).2).run exec task input (exec task input store command).1

@[simp] theorem pure_eq (value : α) : (pure value : Program γ ρ α) = .done value := rfl

@[simp] theorem bind_eq (first : Program γ ρ α) (rest : α → Program γ ρ β) :
    (first >>= rest) = first.bind rest := rfl

section Run

variable {exec : Nat → ι → σ → (command : γ) → σ × ρ command} {task : Nat} {input : ι}

@[simp] theorem run_done (value : α) (store : σ) :
    (Program.done value : Program γ ρ α).run exec task input store = (store, value) := rfl

@[simp] theorem run_request (command : γ) (store : σ) :
    (request command : Program γ ρ (ρ command)).run exec task input store
      = exec task input store command := rfl

/-- **A sequence alone is its parts one after the other.** -/
@[simp] theorem run_bind (first : Program γ ρ α) (rest : α → Program γ ρ β) (store : σ) :
    (first.bind rest).run exec task input store
      = (rest (first.run exec task input store).2).run exec task input
        (first.run exec task input store).1 := by
  induction first generalizing store with
  | done => rfl
  | call _ _ ih => exact ih ..

end Run

end Program

/-! ### Tasks -/

/-- The store and the programs that run over it. -/
structure World (σ γ : Type) (ρ : γ → Type) (α : Type) where
  store : σ
  tasks : Nat → Option (Program γ ρ α)

def World.idle (store : σ) : World σ γ ρ α := ⟨store, fun _ => none⟩

/-- What the schedule decides at a step. -/
inductive Label (τ ι ε : Type)
  | start (task : Nat) (job : τ)
  | resume (task : Nat) (input : ι)
  | cancel (task : Nat)
  | outside (change : ε)

/-- The programs of the jobs, and what their commands and the outside do to the store. -/
structure System (σ γ : Type) (ρ : γ → Type) (α τ ι ε : Type) where
  exec : Nat → ι → σ → (command : γ) → σ × ρ command
  body : τ → Program γ ρ α
  outside : ε → σ → σ

section

variable (system : System σ γ ρ α τ ι ε) (w : World σ γ ρ α)

def System.step : Label τ ι ε → World σ γ ρ α
  | .start task job =>
    match w.tasks task with
    | none => { w with tasks := Function.update w.tasks task (some (system.body job)) }
    | some _ => w
  | .resume task input =>
    match w.tasks task with
    | some (.call command next) =>
      { store := (system.exec task input w.store command).1
        tasks := Function.update w.tasks task
          (some (next (system.exec task input w.store command).2)) }
    | _ => w
  | .cancel task => { w with tasks := Function.update w.tasks task none }
  | .outside change => { w with store := system.outside change w.store }

def System.run (labels : List (Label τ ι ε)) : World σ γ ρ α := Machine.run system.step w labels

/-- **What a step can do.** A label without effect, a new task, one command, a task that is gone, a
change from outside. -/
theorem System.step_cases (label : Label τ ι ε) : system.step w label = w
    ∨ (∃ task job, label = .start task job ∧ w.tasks task = none
        ∧ system.step w label = ⟨w.store, Function.update w.tasks task (some (system.body job))⟩)
    ∨ (∃ task input command next, label = .resume task input
        ∧ w.tasks task = some (.call command next)
        ∧ system.step w label
          = ⟨(system.exec task input w.store command).1, Function.update w.tasks task
              (some (next (system.exec task input w.store command).2))⟩)
    ∨ (∃ task, label = .cancel task
        ∧ system.step w label = ⟨w.store, Function.update w.tasks task none⟩)
    ∨ ∃ change, label = .outside change
        ∧ system.step w label = ⟨system.outside change w.store, w.tasks⟩ := by
  cases label with
  | start task job =>
    cases found : w.tasks task with
    | some => exact .inl (by simp only [step, found])
    | none => exact .inr (.inl ⟨task, job, rfl, found, by simp only [step, found]⟩)
  | resume task input =>
    cases found : w.tasks task with
    | none => exact .inl (by simp only [step, found])
    | some program =>
      cases program with
      | done => exact .inl (by simp only [step, found])
      | call command next =>
        exact .inr (.inr (.inl
          ⟨task, input, command, next, rfl, found, by simp only [step, found]⟩))
  | cancel task => exact .inr (.inr (.inr (.inl ⟨task, rfl, rfl⟩)))
  | outside change => exact .inr (.inr (.inr (.inr ⟨change, rfl, rfl⟩)))

end

/-! ### Contracts -/

/-- An invariant of the store, and how the store may change between two commands of a task. -/
structure Contract (σ : Type) where
  inv : σ → Prop
  rely : σ → σ → Prop
  refl : ∀ store, rely store store
  trans : ∀ {first second third}, rely first second → rely second third → rely first third

/-- **Safety of a program.** The store moves on by `rely` before each of its commands; the command
keeps the invariant and is itself such a move. -/
def Safe (exec : Nat → ι → σ → (command : γ) → σ × ρ command) (contract : Contract σ) (task : Nat)
    (post : α → σ → Prop) : Program γ ρ α → σ → Prop
  | .done value, store => post value store
  | .call command next, store =>
    ∀ later, contract.rely store later → contract.inv later → ∀ input,
      contract.inv (exec task input later command).1
        ∧ contract.rely later (exec task input later command).1
        ∧ Safe exec contract task post (next (exec task input later command).2)
          (exec task input later command).1

section Safe

variable {exec : Nat → ι → σ → (command : γ) → σ × ρ command} {contract : Contract σ} {task : Nat}
  {store : σ} {program : Program γ ρ α}

theorem Safe.request {command : γ} {post : ρ command → σ → Prop}
    (holds : ∀ later, contract.rely store later → contract.inv later → ∀ input,
      contract.inv (exec task input later command).1
        ∧ contract.rely later (exec task input later command).1
        ∧ post (exec task input later command).2 (exec task input later command).1) :
    Safe exec contract task post (Program.request command) store :=
  holds

/-- **The rule of sequencing.** What is known before the first part and survives every move is known
before the second. -/
theorem Safe.bind {rest : α → Program γ ρ β} {middle : α → σ → Prop} {post : β → σ → Prop}
    (first : Safe exec contract task middle program store)
    (second : ∀ value later, contract.rely store later → middle value later →
      Safe exec contract task post (rest value) later) :
    Safe exec contract task post (program.bind rest) store := by
  induction program generalizing store with
  | done value => exact second value store (contract.refl store) first
  | call _ _ ih =>
    intro later moved holds input
    obtain ⟨kept, guaranteed, after⟩ := first later moved holds input
    refine ⟨kept, guaranteed, ih _ after ?_⟩
    intro value further on known
    exact second value further (contract.trans moved (contract.trans guaranteed on)) known

theorem Safe.mono {middle post : α → σ → Prop}
    (first : Safe exec contract task middle program store)
    (weaker : ∀ value later, middle value later → post value later) :
    Safe exec contract task post program store := by
  induction program generalizing store with
  | done value => exact weaker value store first
  | call _ _ ih =>
    intro later moved holds input
    obtain ⟨kept, guaranteed, after⟩ := first later moved holds input
    exact ⟨kept, guaranteed, ih _ after⟩

theorem Safe.moved {later : σ} (safe : Safe exec contract task (fun _ _ => True) program store)
    (moved : contract.rely store later) :
    Safe exec contract task (fun _ _ => True) program later := by
  cases program with
  | done => trivial
  | call =>
    intro further on holds input
    exact safe further (contract.trans moved on) holds input

end Safe

/-- What a run keeps: the invariant, and the safety of every task. -/
structure World.Meets (exec : Nat → ι → σ → (command : γ) → σ × ρ command) (contract : Contract σ)
    (w : World σ γ ρ α) : Prop where
  inv : contract.inv w.store
  safe : ∀ task program, w.tasks task = some program →
    Safe exec contract task (fun _ _ => True) program w.store

theorem World.Meets.idle {exec : Nat → ι → σ → (command : γ) → σ × ρ command}
    {contract : Contract σ} {store : σ} (holds : contract.inv store) :
    World.Meets exec contract (World.idle store : World σ γ ρ α) :=
  ⟨holds, fun _ _ found => by cases found⟩

section Contract

variable {system : System σ γ ρ α τ ι ε} {contract : Contract σ} {w : World σ γ ρ α}

private theorem meets_update {store : σ} {task : Nat} {next : Option (Program γ ρ α)}
    (meets : w.Meets system.exec contract) (holds : contract.inv store)
    (moved : contract.rely w.store store) (safe : ∀ program, next = some program →
      Safe system.exec contract task (fun _ _ => True) program store) :
    World.Meets system.exec contract ⟨store, Function.update w.tasks task next⟩ := by
  refine ⟨holds, ?_⟩
  intro other program found
  rcases Machine.update_eq_some found with ⟨rfl, replaced⟩ | ⟨-, kept⟩
  · exact safe program replaced
  · exact (meets.safe other program kept).moved moved

variable
  (entry : ∀ task job store, contract.inv store →
    Safe system.exec contract task (fun _ _ => True) (system.body job) store)
  (outside : ∀ change store, contract.inv store → contract.inv (system.outside change store)
    ∧ contract.rely store (system.outside change store))

include entry outside in
theorem System.step_meets (label : Label τ ι ε) (meets : w.Meets system.exec contract) :
    (system.step w label).Meets system.exec contract := by
  obtain same | ⟨task, job, -, -, moved⟩ | ⟨task, input, _, _, -, found, moved⟩
    | ⟨task, -, moved⟩ | ⟨change, -, moved⟩ := system.step_cases w label
  · rw [same]
    exact meets
  · rw [moved]
    refine meets_update meets meets.inv (contract.refl _) ?_
    rintro _ ⟨⟩
    exact entry task job w.store meets.inv
  · obtain ⟨kept, guaranteed, after⟩ :=
      meets.safe task _ found w.store (contract.refl _) meets.inv input
    rw [moved]
    refine meets_update meets kept guaranteed ?_
    rintro _ ⟨⟩
    exact after
  · rw [moved]
    refine meets_update meets meets.inv (contract.refl _) ?_
    rintro _ ⟨⟩
  · obtain ⟨kept, guaranteed⟩ := outside change w.store meets.inv
    rw [moved]
    exact ⟨kept, fun task program found => (meets.safe task program found).moved guaranteed⟩

include outside in
theorem System.step_moves (label : Label τ ι ε) (meets : w.Meets system.exec contract) :
    contract.rely w.store (system.step w label).store := by
  obtain same | ⟨task, _, -, -, moved⟩ | ⟨task, input, _, _, -, found, moved⟩
    | ⟨task, -, moved⟩ | ⟨change, -, moved⟩ := system.step_cases w label
  · rw [same]
    exact contract.refl _
  · rw [moved]
    exact contract.refl _
  · rw [moved]
    exact (meets.safe task _ found w.store (contract.refl _) meets.inv input).2.1
  · rw [moved]
    exact contract.refl _
  · rw [moved]
    exact (outside change w.store meets.inv).2

include entry outside in
theorem System.run_moves (meets : w.Meets system.exec contract)
    (first second : List (Label τ ι ε)) :
    contract.rely (system.run w first).store (system.run w (first ++ second)).store := by
  rw [System.run, System.run, Machine.run_append]
  have start := Machine.run_invariant_of_step (World.Meets system.exec contract)
    (fun _ => System.step_meets entry outside) meets first
  generalize Machine.run system.step w first = reached at start ⊢
  induction second generalizing reached with
  | nil => exact contract.refl _
  | cons label _ ih =>
    exact contract.trans (System.step_moves outside label start)
      (ih _ (System.step_meets entry outside label start))

variable (system contract) in
include entry outside in
/-- **Every run keeps the contract** that its bodies and the outside keep. -/
theorem System.run_contract (meets : w.Meets system.exec contract) (labels : List (Label τ ι ε)) :
    contract.inv (system.run w labels).store :=
  (Machine.run_invariant_of_step (World.Meets system.exec contract)
    (fun _ => System.step_meets entry outside) meets labels).inv

end Contract

end Coroutine
