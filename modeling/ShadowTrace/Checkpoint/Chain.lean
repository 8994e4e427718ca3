/-
**The checkpoints of a thread form a chain.**

Each coroutine of a saver sends only commands that are permitted.
-/

import ShadowTrace.Checkpoint.Fencing

namespace ShadowTrace.Checkpoint

open Coroutine

variable {χ : Type}

/-! ### The commands of a coroutine -/

variable {log : List (Entry χ)} {cmd : RedisCommand χ} {raw : Envelope χ}

section

variable {store : Store χ} {task saver : Nat}

private theorem fenced_savers {savers : Nat → Saver χ} (fenced : Fenced store)
    (basis : ∀ other number, (savers other).basis = some number → Known store.log number) :
    Fenced { store with savers } :=
  ⟨fenced.agrees, fenced.history, basis, fenced.delayed⟩

private theorem basis_update {savers : Nat → Saver χ} {changed : Saver χ}
    (others : ∀ other number, (savers other).basis = some number → Known log number)
    (mine : ∀ number, changed.basis = some number → Known log number) :
    ∀ other number, (Function.update savers saver changed other).basis = some number →
      Known log number := by
  intro other number found
  by_cases same : other = saver
  · subst same
    rw [Function.update_self] at found
    exact mine number found
  · rw [Function.update_of_ne same] at found
    exact others other number found

/-- The coroutine keeps the contract. -/
abbrev Harmless {α : Type} (task : Nat) (program : SaverProgram χ α) (store : Store χ) : Prop :=
  Safe exec contract task (fun _ _ => True) program store

/-- It keeps the contract, and its reply tells what the command is known to tell. -/
abbrev Teaches (task : Nat) (cmd : RedisCommand χ)
    (program : SaverProgram χ (Except Fault cmd.Reply)) (store : Store χ) : Prop :=
  Safe exec contract task (fun reply later =>
    ∀ value, reply = .ok value → Learned later.log task cmd value) program store

theorem redis_safe (permitted : Permitted store.log task cmd) :
    Teaches task cmd (redis cmd) store := by
  refine Safe.request ?_
  intro _ moved fenced transport
  have allowed := permitted.grows moved
  cases transport with
  | replied =>
    refine ⟨fenced.execute allowed, List.suffix_cons _ _, ?_⟩
    rintro _ ⟨⟩
    exact fenced.learned
  | failed _ fate =>
    cases fate with
    | executed =>
      refine ⟨fenced.execute allowed, List.suffix_cons _ _, ?_⟩
      rintro _ ⟨⟩
    | lost =>
      refine ⟨fenced, List.suffix_rfl, ?_⟩
      rintro _ ⟨⟩
    | delayed =>
      refine ⟨⟨fenced.agrees, fenced.history, fenced.basis, ?_⟩, List.suffix_rfl, ?_⟩
      · intro entry mem
        rcases List.mem_append.mp mem with earlier | last
        · exact fenced.delayed entry earlier
        · obtain rfl := List.mem_singleton.mp last
          exact allowed
      · rintro _ ⟨⟩

theorem self_safe :
    Safe exec contract task (fun state later =>
      ∀ number, state.basis = some number → Known later.log number) (self saver) store := by
  refine Safe.request ?_
  intro _ _ fenced _
  exact ⟨fenced, List.suffix_rfl, fenced.basis saver⟩

theorem assign_safe {change : Saver χ → Saver χ}
    (keeps : ∀ state number, (change state).basis = some number →
      state.basis = some number ∨ Known store.log number) :
    Harmless task (assign saver change) store := by
  refine Safe.request ?_
  intro _ moved fenced _
  refine ⟨fenced_savers fenced (basis_update fenced.basis ?_), List.suffix_rfl, trivial⟩
  intro number found
  rcases keeps _ number found with same | known
  · exact fenced.basis saver number same
  · exact known.grows moved

theorem load_safe {basis : Nat} (known : Known store.log basis)
    (read : ∃ entry ∈ store.log, entry.task = task ∧ entry.read = some raw) :
    Harmless task (Program.request (Command.load saver raw basis)) store := by
  refine Safe.request ?_
  intro later moved fenced _
  have grown : later.log <:+ ⟨task, .load raw, later.keys⟩ :: later.log := List.suffix_cons _ _
  refine ⟨⟨fenced.agrees.quiet rfl rfl (fun drops => by cases drops), ⟨?_, fenced.history⟩, ?_, ?_⟩,
    grown, trivial⟩
  · obtain ⟨entry, mem, mine, found⟩ := read
    refine ⟨fenced.agrees.issued, fun _ _ reserved => (by cases reserved),
      fun _ published => (by cases published), fun _ _ other => (by cases other), ?_⟩
    rintro _ ⟨⟩
    exact ⟨entry, moved.subset mem, mine, found⟩
  · refine basis_update (fun other number found => (fenced.basis other number found).grows grown) ?_
    rintro _ ⟨⟩
    exact (known.grows moved).grows grown
  · exact fun entry mem => (fenced.delayed entry mem).grows grown

end

/-! ### The coroutines -/

section

variable {store : Store χ} {task saver : Nat}

theorem redisCallWithLoopRetry_safe (permitted : Permitted store.log task cmd) :
    Teaches task cmd (redisCallWithLoopRetry cmd) store := by
  refine Safe.bind (redis_safe permitted) ?_
  intro reply _ moved learned
  cases reply with
  | ok => exact learned
  | error fault =>
    by_cases loop : fault.eventLoop = true
    · simp only [loop]
      exact redis_safe (permitted.grows moved)
    · simp only [loop]
      rintro _ ⟨⟩

theorem redisCallWithTransientRetry_safe (retries : Nat)
    (permitted : Permitted store.log task cmd) :
    Teaches task cmd (redisCallWithTransientRetry cmd retries) store := by
  induction retries generalizing store with
  | zero => exact redisCallWithLoopRetry_safe permitted
  | succ _ ih =>
    refine Safe.bind (redisCallWithLoopRetry_safe permitted) ?_
    intro reply _ moved learned
    cases reply with
    | ok => exact learned
    | error fault =>
      by_cases transient : fault.transient = true
      · simp only [transient]
        exact ih (permitted.grows moved)
      · simp only [transient]
        rintro _ ⟨⟩

theorem bestEffortDeleteStalePayload_safe :
    Harmless task bestEffortDeleteStalePayload store := by
  refine Safe.bind (redisCallWithLoopRetry_safe trivial) ?_
  intro _ _ _ _
  trivial

theorem markPersistenceFailure_safe :
    Harmless task (assign saver Saver.markPersistenceFailure) store :=
  assign_safe fun _ _ => .inl

theorem reserveGeneration_safe :
    Safe exec contract task (fun reply later => ∀ generation : Int, reply = .ok generation →
      ∃ number : Nat, generation = number ∧ Holds later.log task number)
      (reserveGeneration saver) store := by
  refine Safe.bind self_safe ?_
  intro state later _ known
  have permitted : Permitted later.log task
      (.reserve ((state.basis.getD 0 : Nat) : Int) : RedisCommand χ) := by
    refine .inr ⟨state.basis.getD 0, rfl, ?_⟩
    cases found : state.basis with
    | none => exact .inl rfl
    | some number => exact known number found
  refine Safe.bind (redisCallWithTransientRetry_safe _ permitted) ?_
  intro reply _ _ learned
  cases reply with
  | error =>
    refine Safe.bind bestEffortDeleteStalePayload_safe fun _ _ _ _ => ?_
    refine Safe.bind markPersistenceFailure_safe fun _ _ _ _ => ?_
    rintro _ ⟨⟩
  | ok generation =>
    by_cases negative : generation < 0
    · simp only [negative]
      refine Safe.bind markPersistenceFailure_safe fun _ _ _ _ => ?_
      rintro _ ⟨⟩
    simp only [negative]
    rintro _ ⟨⟩
    obtain ⟨number, rfl⟩ := Int.eq_ofNat_of_zero_le (Int.not_lt.mp negative)
    obtain ⟨entry, mem, mine, found⟩ := learned _ rfl number rfl
    exact ⟨number, rfl, entry, mem, mine, state.basis.getD 0, found⟩

theorem publish_safe {number : Nat} (permitted : Permitted store.log task (.publish number raw)) :
    Safe exec contract task (fun reply later => reply = .ok () → Known later.log number)
      (publish saver number raw) store := by
  refine Safe.bind (redisCallWithTransientRetry_safe _ permitted) ?_
  intro reply _ _ learned
  cases reply with
  | error =>
    refine Safe.bind markPersistenceFailure_safe fun _ _ _ _ => ?_
    rintro ⟨⟩
  | ok published =>
    by_cases one : published = (1 : Int)
    · simp only [one]
      exact fun _ => .inr (learned _ rfl one number rfl)
    · simp only [one, ne_eq]
      refine Safe.bind markPersistenceFailure_safe fun _ _ _ _ => ?_
      rintro ⟨⟩

theorem persistLocked_safe :
    Harmless task (persistLocked saver) store := by
  refine Safe.bind self_safe ?_
  intro _ _ _ _
  split_ifs with failed unused fallback missing
  · trivial
  · exact Safe.bind (assign_safe fun _ _ => .inl) fun _ _ _ _ => trivial
  · trivial
  · trivial
  refine Safe.bind reserveGeneration_safe ?_
  intro reply _ _ holds
  cases reply with
  | error => trivial
  | ok generation =>
    obtain ⟨number, rfl, mine⟩ := holds generation rfl
    refine Safe.bind self_safe ?_
    intro current exported moved _
    cases found : current.exportThread number with
    | none => trivial
    | some =>
      obtain ⟨storage, -, rfl⟩ := Option.map_eq_some_iff.mp found
      have permitted : Permitted exported.log task (.publish number
          ⟨2, some (number : Int).toNat, storage, current.memory.writes⟩) :=
        ⟨rfl, number, rfl, rfl, mine.grows moved⟩
      refine Safe.bind (publish_safe permitted) ?_
      intro outcome _ _ known
      cases outcome with
      | error => trivial
      | ok =>
        refine Safe.bind (assign_safe ?_) fun _ _ _ _ => trivial
        rintro _ _ ⟨⟩
        exact .inr (known rfl)

theorem loadFailed_safe : Harmless task (loadFailed saver) store :=
  assign_safe fun _ _ => .inl

theorem known_of_not_stale {fence : Option Nat} (sound : Sound log raw)
    (fresh : ¬ isStale raw fence = true) :
    Known log (if fence.getD 0 > 0 then fence.getD 0 else raw.payloadGeneration) := by
  unfold isStale at fresh
  rcases sound with ⟨format, untagged⟩ | ⟨format, number, tagged, published⟩
  · rw [if_pos format, decide_eq_true_iff] at fresh
    rw [if_neg fresh]
    unfold Envelope.payloadGeneration
    rw [untagged]
    exact .inl rfl
  rw [if_neg (by rw [format]; decide), decide_eq_true_iff, not_not] at fresh
  have same : raw.payloadGeneration = number := by
    unfold Envelope.payloadGeneration
    rw [tagged]
    rfl
  rw [← fresh, same, ite_self]
  exact .inr published

theorem loadPayload_safe :
    Safe exec contract task (fun reply later => ∀ raw, reply = .ok (some raw) →
      Sound later.log raw ∧ ∃ entry ∈ later.log, entry.task = task ∧ entry.read = some raw)
      loadPayload store := by
  have known : Permitted store.log task (.getPayload : RedisCommand χ) := trivial
  refine (redisCallWithLoopRetry_safe known).mono ?_
  rintro reply later learned raw rfl
  exact learned _ rfl raw rfl

theorem loadGenerationFence_safe :
    Harmless task loadGenerationFence store := by
  have known : Permitted store.log task (.getFence : RedisCommand χ) := trivial
  exact (redisCallWithLoopRetry_safe known).mono fun _ _ _ => trivial

theorem hydrate_safe : Harmless task (hydrate saver) store := by
  refine Safe.bind self_safe ?_
  intro _ _ _ _
  split_ifs with unused
  · trivial
  refine Safe.bind loadPayload_safe ?_
  intro reply _ _ learned
  match reply with
  | .error fault => exact loadFailed_safe
  | .ok none => trivial
  | .ok (some raw) =>
    obtain ⟨sound, read⟩ := learned raw rfl
    refine Safe.bind loadGenerationFence_safe ?_
    intro answer _ moved _
    match answer with
    | .error fault => exact loadFailed_safe
    | .ok fence =>
      dsimp only
      by_cases stale : isStale raw fence = true
      · rw [if_pos stale]
        trivial
      rw [if_neg stale]
      by_cases format : raw.format ≠ 1 ∧ raw.format ≠ 2
      · rw [if_pos format]
        exact loadFailed_safe
      rw [if_neg format]
      obtain ⟨entry, mem, mine, found⟩ := read
      exact load_safe (known_of_not_stale (sound.grows moved) stale)
        ⟨entry, moved.subset mem, mine, found⟩

theorem deleteFailed_safe {hadPersistenceFailure : Bool} :
    Harmless task (deleteFailed saver hadPersistenceFailure) store := by
  cases hadPersistenceFailure with
  | true =>
    refine Safe.bind (assign_safe fun _ _ => .inl) fun _ _ _ _ => ?_
    refine Safe.bind bestEffortDeleteStalePayload_safe fun _ _ _ _ => ?_
    exact assign_safe fun _ _ => .inl
  | false =>
    refine Safe.bind bestEffortDeleteStalePayload_safe fun _ _ _ _ => ?_
    exact assign_safe fun _ _ => .inl

theorem adeleteThreadLocked_safe :
    Harmless task (adeleteThreadLocked saver) store := by
  refine Safe.bind self_safe ?_
  intro _ _ _ _
  refine Safe.bind (assign_safe fun _ _ found => by cases found) ?_
  intro _ further _ _
  split_ifs with unbound
  · trivial
  have forced : Permitted further.log task
      (.reserve forceGenerationExpected : RedisCommand χ) := Or.inl (by decide)
  refine Safe.bind (redisCallWithTransientRetry_safe _ forced) ?_
  intro reply _ _ _
  cases reply with
  | error => exact deleteFailed_safe
  | ok =>
    refine Safe.bind (redisCallWithLoopRetry_safe trivial) ?_
    intro answer _ _ _
    cases answer with
    | error => exact deleteFailed_safe
    | ok => exact assign_safe fun _ _ => .inl

theorem body_safe (job : Job χ) :
    Harmless task (body job) store := by
  cases job with
  | getTuple =>
    refine Safe.bind self_safe ?_
    intro _ _ _ _
    split_ifs with failed
    · trivial
    · exact Safe.bind hydrate_safe fun _ _ _ _ => trivial
  | put | putWrites =>
    exact Safe.bind (assign_safe fun _ _ => .inl) fun _ _ _ _ => persistLocked_safe
  | deleteThread => exact Safe.bind adeleteThreadLocked_safe fun _ _ _ _ => trivial

end

/-! ### Whole schedules -/

variable {store : Store χ}

theorem outside_fenced (change : Outside) (fenced : Fenced store) :
    Fenced (outside change store) ∧ store.log <:+ (outside change store).log := by
  cases change with
  | expireFence =>
    refine ⟨⟨⟨fenced.agrees.issued, ?_, ?_, ?_, fenced.agrees.payload, fenced.agrees.isolated⟩,
      fenced.history, fenced.basis, fenced.delayed⟩, List.suffix_rfl⟩
    all_goals rintro _ ⟨⟩
  | expirePayload =>
    exact ⟨⟨fenced.agrees.without_payload, fenced.history, fenced.basis, fenced.delayed⟩,
      List.suffix_rfl⟩
  | otherThreads =>
    refine ⟨⟨⟨?_, fenced.agrees.fence, fenced.agrees.newest, fenced.agrees.last,
      fenced.agrees.payload, fenced.agrees.isolated⟩, fenced.history, fenced.basis, fenced.delayed⟩,
      List.suffix_rfl⟩
    intro entry mem number reserved
    exact Nat.le_add_right_of_le (fenced.agrees.issued entry mem number reserved)
  | arrive index =>
    simp only [outside]
    cases found : store.delayed[index]? with
    | none => exact ⟨fenced, List.suffix_rfl⟩
    | some sent =>
      have mem : sent ∈ store.delayed := List.mem_of_getElem? found
      have executed := fenced.execute (fenced.delayed sent mem)
      refine ⟨⟨executed.agrees, executed.history, executed.basis, ?_⟩, List.suffix_cons _ _⟩
      intro entry remains
      exact executed.delayed entry (List.mem_of_mem_eraseIdx remains)
  | memoryFallback saver =>
    refine ⟨⟨fenced.agrees, fenced.history, basis_update fenced.basis ?_, fenced.delayed⟩,
      List.suffix_rfl⟩
    exact fenced.basis saver

theorem Store.Untouched.fenced (untouched : store.Untouched) : Fenced store where
  agrees := by
    rw [untouched.log]
    refine ⟨fun _ mem => (by cases mem), ?_, ?_, ?_,
      fun raw stored => .inl (untouched.payload raw stored), fun _ _ _ _ => False.elim⟩
    · intro _ fence
      rw [untouched.fence] at fence
      cases fence
    · intro _ _ _ mem
      cases mem
    · rintro _ _ ⟨_, mem, -⟩
      cases mem
  history := by
    rw [untouched.log]
    trivial
  basis := by
    intro _ _ found
    rw [untouched.basis] at found
    cases found
  delayed := by
    rw [untouched.delayed]
    exact fun entry mem => by cases mem

/-- **Every schedule of any number of savers keeps the invariant of the fence.** -/
theorem reach_fenced (untouched : store.Untouched) (labels : Schedule χ) :
    Fenced (reach store labels) :=
  System.run_contract system contract
    (fun _ job _ _ => body_safe job) (fun change _ => outside_fenced change)
    (World.Meets.idle untouched.fenced) labels

/-! ### The chain -/

section

variable {later older between middle : List (Entry χ)} {entry drop advance : Entry χ}
  {generation : Nat}

theorem History.split (history : History (later ++ entry :: older)) :
    Fits entry older ∧ History older := by
  induction later with
  | nil => exact history
  | cons _ _ ih => exact ih history.2

theorem History.lt_of_later {number newer : Nat} {other : Entry χ}
    (history : History (between ++ entry :: older)) (reserved : entry.reserved = some number)
    (mem : other ∈ between) (found : other.reserved = some newer) : number < newer := by
  obtain ⟨_, _, rfl⟩ := List.append_of_mem mem
  rw [List.append_assoc] at history
  have counted := history.split.1.counted entry (by simp) number reserved
  obtain ⟨-, -, -, rfl⟩ := reserved_eq_some.mp found
  omega

theorem Advanced.of_split (forced : advance.Forces)
    (reserved : ∃ other ∈ older, other.reserved = some generation) :
    Advanced advance.task generation (middle ++ advance :: older) := by
  induction middle with
  | nil => exact .inl ⟨rfl, forced, reserved⟩
  | cons _ _ ih => exact .inr ih

theorem Cleaned.of_split (drops : drop.Drops) (forced : advance.Forces)
    (same : drop.task = advance.task)
    (reserved : ∃ other ∈ older, other.reserved = some generation) :
    Cleaned generation (between ++ drop :: (middle ++ advance :: older)) := by
  induction between with
  | nil => exact .inl ⟨drops, same ▸ Advanced.of_split forced reserved⟩
  | cons _ _ ih => exact .inr ih

theorem History.linked {earlier : List (Entry χ)} (history : History (later ++ entry :: earlier))
    (published : entry.published = some generation) :
    ∃ between reservation older, earlier = between ++ reservation :: older
      ∧ reservation.task = entry.task
      ∧ reservation.reservation = some ((reservation.before.current : Int), generation)
      ∧ (reservation.before.current = 0 ∨ lastPublished older = some reservation.before.current)
      ∧ ∀ other ∈ between, other.reserved = none := by
  obtain ⟨fits, past⟩ := history.split
  obtain ⟨⟨reservation, mem, mine, basis, found⟩, newest⟩ := fits.linked generation published
  obtain ⟨between, older, rfl⟩ := List.append_of_mem mem
  obtain ⟨current, chained⟩ := past.split.1.based basis generation found
  refine ⟨between, reservation, older, rfl, mine, by rw [current]; exact found,
    by rw [current]; exact chained, ?_⟩
  intro other inside
  rw [Option.eq_none_iff_forall_ne_some]
  intro newer reserved
  have above := past.lt_of_later (reserved_of_reservation found) inside reserved
  have below := newest other (List.mem_append_left _ inside) newer reserved
  omega

end

/-- **The fence.** For every schedule of the savers of a thread:

* every payload stored was reserved by the same coroutine, on a basis that was the fence value then;
  nobody has reserved since, and the basis is 0 or the generation published last before;
* a coroutine whose basis is out of date at each of its attempts never publishes;
* once a cleanup has moved the fence and deleted the payload, no coroutine that starts afterwards
  loads a generation that had been reserved before. -/
theorem checkpoints_fenced {store : Store χ} (untouched : store.Untouched) (labels : Schedule χ) :
    (∀ later entry earlier, (reach store labels).log = later ++ entry :: earlier →
      ∀ generation, entry.published = some generation →
        ∃ between reservation older, earlier = between ++ reservation :: older
          ∧ reservation.task = entry.task
          ∧ reservation.reservation = some ((reservation.before.current : Int), generation)
          ∧ (reservation.before.current = 0 ∨ lastPublished older = some reservation.before.current)
          ∧ ∀ other ∈ between, other.reserved = none)
    ∧ (∀ task, (∀ entry ∈ (reach store labels).log, entry.task = task → ∀ basis : Nat,
        entry.action = .command (.reserve basis) → entry.before.current ≠ basis) →
      ∀ entry ∈ (reach store labels).log, entry.task = task → entry.published = none)
    ∧ ∀ later load between drop middle advance older,
        (reach store labels).log
          = later ++ load :: (between ++ drop :: (middle ++ advance :: older)) →
        drop.Drops → advance.Forces → drop.task = advance.task →
        (∀ entry ∈ drop :: (middle ++ advance :: older), entry.task ≠ load.task) →
        ∀ raw generation, load.loaded = some raw →
          (∃ entry ∈ older, entry.reserved = some generation) →
          raw.generation ≠ some generation := by
  have history := (reach_fenced untouched labels).history
  refine ⟨?_, ?_, ?_⟩
  · intro _ _ _ split _ published
    rw [split] at history
    exact history.linked published
  · intro _ stale _ mem mine
    rw [Option.eq_none_iff_forall_ne_some]
    intro _ published
    obtain ⟨_, _, split⟩ := List.append_of_mem mem
    rw [split] at history
    obtain ⟨_, reservation, _, rfl, same, found, -⟩ := history.linked published
    refine stale reservation ?_ (same.trans mine) reservation.before.current
      (reservation_eq_some.mp found).1 rfl
    rw [split]
    simp
  · intro _ _ _ _ _ _ _ split drops forced same starts raw generation
      loaded reserved tagged
    rw [split] at history
    obtain ⟨fits, past⟩ := history.split
    obtain ⟨read, mem, mine, found⟩ := fits.loaded raw loaded
    -- the payload was read after the deletion, when the generation had been cleaned
    rcases List.mem_append.mp mem with inside | before
    · obtain ⟨_, _, rfl⟩ := List.append_of_mem inside
      rw [List.append_assoc] at past
      exact past.split.1.isolated raw generation found tagged
        (Cleaned.of_split drops forced same reserved)
    · exact starts read before mine

/-- Two savers put a checkpoint. The first has reserved when the second tries to, and publishes. -/
def contendedPuts : Schedule Nat :=
  [.start 0 (.put 0 7), .start 1 (.put 1 8)]
    ++ List.replicate 4 (.resume 0 .replied)
    ++ List.replicate 4 (.resume 1 .replied)
    ++ List.replicate 3 (.resume 0 .replied)

theorem checkpoints_fenced_contended :
    lastPublished (reach (Store.fresh 3) contendedPuts).log = some 4
    ∧ ∃ reservation ∈ (reach (Store.fresh 3) contendedPuts).log.tail, reservation.task = 0
      ∧ reservation.reservation = some ((reservation.before.current : Int), 4) := by
  obtain ⟨_, reservation, _, split, mine, found, -⟩ :=
    (checkpoints_fenced (Store.fresh_untouched 3) contendedPuts).1 [] _ _ rfl 4 rfl
  refine ⟨by decide, reservation, ?_, mine, found⟩
  show reservation ∈ List.tail (_ :: _)
  rw [List.tail_cons, split]
  simp

end ShadowTrace.Checkpoint
