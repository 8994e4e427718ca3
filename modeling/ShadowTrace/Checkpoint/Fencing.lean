/-
**What the fence keeps.**

The log of the server is read as a history, to which the keys of the thread and what each task knows
are related.
-/

import ShadowTrace.Checkpoint.Saver

namespace ShadowTrace.Checkpoint

open Coroutine

variable {χ : Type}

/-! ### What the log says -/

section

variable (log : List (Entry χ))

/-- The task has reserved the generation. -/
def Holds (task generation : Nat) : Prop :=
  ∃ entry ∈ log, entry.task = task
    ∧ ∃ basis : Nat, entry.reservation = some ((basis : Int), generation)

/-- A generation that was published, or the first. -/
def Known (generation : Nat) : Prop :=
  generation = 0 ∨ ∃ entry ∈ log, entry.published = some generation

/-- A payload of an older deployment, or one that has been published. -/
def Sound (raw : Envelope χ) : Prop :=
  raw.Legacy ∨ raw.format = 2 ∧ ∃ generation, raw.generation = some generation
    ∧ ∃ entry ∈ log, entry.published = some generation

/-- A reservation that takes the fence whoever has it. -/
def Entry.Forces (entry : Entry χ) : Prop :=
  entry.action = .command (.reserve forceGenerationExpected)

def Entry.Drops (entry : Entry χ) : Prop := entry.action = .command .deletePayload

/-- The task has moved the fence by force, after the generation was reserved. -/
def Advanced (task generation : Nat) : List (Entry χ) → Prop
  | [] => False
  | entry :: earlier =>
    (entry.task = task ∧ entry.Forces ∧ ∃ other ∈ earlier, other.reserved = some generation)
      ∨ Advanced task generation earlier

/-- A cleanup has moved the fence after the generation was reserved, and then deleted the payload.
-/
def Cleaned (generation : Nat) : List (Entry χ) → Prop
  | [] => False
  | entry :: earlier =>
    (entry.Drops ∧ Advanced entry.task generation earlier) ∨ Cleaned generation earlier

/-- What the keys were when an entry was executed fits what came before. -/
structure Fits (entry : Entry χ) (earlier : List (Entry χ)) : Prop where
  counted : ∀ other ∈ earlier, ∀ number, other.reserved = some number →
    number ≤ entry.before.sequence
  /-- The basis is the fence value, and that is what was published last. -/
  based : ∀ basis number : Nat, entry.reservation = some ((basis : Int), number) →
    entry.before.current = basis ∧ (basis = 0 ∨ lastPublished earlier = some basis)
  /-- What is published was reserved by the same task, and is the newest reservation. -/
  linked : ∀ number, entry.published = some number → Holds earlier entry.task number
    ∧ ∀ other ∈ earlier, ∀ newer, other.reserved = some newer → newer ≤ number
  isolated : ∀ raw number, entry.read = some raw → raw.generation = some number →
    ¬ Cleaned number earlier
  loaded : ∀ raw, entry.loaded = some raw →
    ∃ other ∈ earlier, other.task = entry.task ∧ other.read = some raw

def History : List (Entry χ) → Prop
  | [] => True
  | entry :: earlier => Fits entry earlier ∧ History earlier

/-- The keys are what the log says. -/
structure Agrees (keys : Keys χ) (log : List (Entry χ)) : Prop where
  issued : ∀ entry ∈ log, ∀ number, entry.reserved = some number → number ≤ keys.sequence
  fence : ∀ number, keys.fence = some number → ∃ entry ∈ log, entry.reserved = some number
  newest : ∀ number, keys.fence = some number →
    ∀ entry ∈ log, ∀ other, entry.reserved = some other → other ≤ number
  last : ∀ number, keys.fence = some number →
    (∃ entry ∈ log, entry.published = some number) → lastPublished log = some number
  payload : ∀ raw, keys.payload = some raw → Sound log raw
  isolated : ∀ raw number, keys.payload = some raw → raw.generation = some number →
    ¬ Cleaned number log

/-- What a task knows when it sends a command. -/
def Permitted (task : Nat) : RedisCommand χ → Prop
  | .reserve expected => expected < 0 ∨ ∃ basis : Nat, expected = basis ∧ Known log basis
  | .publish generation raw => raw.format = 2 ∧ ∃ number : Nat, generation = number
      ∧ raw.generation = some number ∧ Holds log task number
  | _ => True

/-- What it knows from the reply. -/
def Learned (task : Nat) : (command : RedisCommand χ) → command.Reply → Prop
  | .reserve expected, reply => ∀ number : Nat, reply = (number : Int) →
      ∃ entry ∈ log, entry.task = task ∧ entry.reservation = some (expected, number)
  | .publish generation _, reply => reply = (1 : Int) → ∀ number : Nat, generation = number →
      ∃ entry ∈ log, entry.published = some number
  | .getPayload, reply => ∀ raw, reply = some raw →
      Sound log raw ∧ ∃ entry ∈ log, entry.task = task ∧ entry.read = some raw
  | _, _ => True

end

/-- The invariant of the store. -/
structure Fenced (store : Store χ) : Prop where
  agrees : Agrees store.keys store.log
  history : History store.log
  basis : ∀ saver number, (store.savers saver).basis = some number → Known store.log number
  delayed : ∀ entry ∈ store.delayed, Permitted store.log entry.1 entry.2

def contract : Contract (Store χ) where
  inv := Fenced
  rely := fun before after => before.log <:+ after.log
  refl := fun _ => List.suffix_rfl
  trans := List.IsSuffix.trans

/-! ### What a longer log still says -/

section

variable {log longer : List (Entry χ)} {task generation : Nat}

theorem Holds.grows (holds : Holds log task generation) (grown : log <:+ longer) :
    Holds longer task generation := by
  obtain ⟨entry, mem, facts⟩ := holds
  exact ⟨entry, grown.subset mem, facts⟩

theorem Known.grows (known : Known log generation) (grown : log <:+ longer) :
    Known longer generation := by
  rcases known with zero | ⟨entry, mem, published⟩
  · exact .inl zero
  · exact .inr ⟨entry, grown.subset mem, published⟩

theorem Sound.grows {raw : Envelope χ} (sound : Sound log raw) (grown : log <:+ longer) :
    Sound longer raw := by
  rcases sound with legacy | ⟨format, number, same, entry, mem, published⟩
  · exact .inl legacy
  · exact .inr ⟨format, number, same, entry, grown.subset mem, published⟩

theorem Permitted.grows {command : RedisCommand χ} (permitted : Permitted log task command)
    (grown : log <:+ longer) : Permitted longer task command := by
  cases command with
  | reserve =>
    rcases permitted with forced | ⟨basis, same, known⟩
    · exact .inl forced
    · exact .inr ⟨basis, same, known.grows grown⟩
  | publish =>
    obtain ⟨format, counted, same, tagged, holds⟩ := permitted
    exact ⟨format, counted, same, tagged, holds.grows grown⟩
  | getPayload | getFence | deletePayload => trivial

end

/-! ### Reading entries -/

section

variable {entry : Entry χ} {log : List (Entry χ)} {keys : Keys χ} {task number : Nat}

theorem reserved_of_reservation {expected : Int}
    (found : entry.reservation = some (expected, number)) :
    entry.reserved = some number := by
  unfold Entry.reserved
  rw [found]
  rfl

theorem reservation_eq_some {expected : Int} :
    entry.reservation = some (expected, number)
      ↔ entry.action = .command (.reserve expected) ∧ entry.before.Accepts expected
        ∧ number = entry.before.sequence + 1 := by
  unfold Entry.reservation
  constructor
  · intro found
    split at found
    · rename_i action
      split_ifs at found with accepted
      cases found
      exact ⟨action, accepted, rfl⟩
    · cases found
  · rintro ⟨action, accepted, rfl⟩
    rw [action]
    exact if_pos accepted

theorem reserved_eq_some :
    entry.reserved = some number ↔ ∃ expected, entry.action = .command (.reserve expected)
      ∧ entry.before.Accepts expected ∧ number = entry.before.sequence + 1 := by
  simp only [Entry.reserved, Option.map_eq_some_iff, Prod.exists, exists_eq_right,
    reservation_eq_some]

theorem published_eq_some :
    entry.published = some number
      ↔ (∃ raw, entry.action = .command (.publish number raw))
        ∧ entry.before.fence = some number := by
  unfold Entry.published
  constructor
  · intro found
    split at found
    · rename_i raw action
      split_ifs at found with current
      rw [published_eq_iff.mpr found] at current
      exact ⟨⟨raw, by rw [action, current]⟩, found⟩
    · cases found
  · rintro ⟨⟨_, action⟩, fence⟩
    rw [action]
    simp only [published_eq_iff.mpr fence, if_true, fence]

theorem lastPublished_cons_of_none (quiet : entry.published = none) :
    lastPublished (entry :: log) = lastPublished log := by
  unfold lastPublished
  rw [List.findSome?_cons, quiet]

theorem lastPublished_cons_of_some (found : entry.published = some number) :
    lastPublished (entry :: log) = some number := by
  unfold lastPublished
  rw [List.findSome?_cons, found]

theorem History.reserved_of_published (history : History log) (mem : entry ∈ log)
    (published : entry.published = some number) :
    ∃ other ∈ log, other.reserved = some number := by
  induction log with
  | nil => cases mem
  | cons _ _ ih =>
    rcases List.mem_cons.mp mem with rfl | mem
    · obtain ⟨⟨other, earlier, -, _, found⟩, -⟩ := history.1.linked number published
      exact ⟨other, List.mem_cons_of_mem _ earlier, reserved_of_reservation found⟩
    · obtain ⟨other, earlier, found⟩ := ih history.2 mem
      exact ⟨other, List.mem_cons_of_mem _ earlier, found⟩

theorem Advanced.newer (history : History log) (advanced : Advanced task number log) :
    ∃ entry ∈ log, ∃ newer, number < newer ∧ entry.reserved = some newer := by
  induction log with
  | nil => cases advanced
  | cons first _ ih =>
    rcases advanced with ⟨-, forced, other, mem, reserved⟩ | advanced
    · have before := history.1.counted other mem number reserved
      refine ⟨first, List.mem_cons_self, first.before.sequence + 1, by omega, ?_⟩
      exact reserved_eq_some.mpr ⟨_, forced, fun both => absurd both.1 (by decide), rfl⟩
    · obtain ⟨entry, mem, found⟩ := ih history.2 advanced
      exact ⟨entry, List.mem_cons_of_mem _ mem, found⟩

theorem Cleaned.newer (history : History log) (cleaned : Cleaned number log) :
    ∃ entry ∈ log, ∃ newer, number < newer ∧ entry.reserved = some newer := by
  induction log with
  | nil => cases cleaned
  | cons _ log ih =>
    obtain ⟨entry, mem, found⟩ :
        ∃ entry ∈ log, ∃ newer, number < newer ∧ entry.reserved = some newer := by
      rcases cleaned with ⟨-, advanced⟩ | cleaned
      · exact advanced.newer history.2
      · exact ih history.2 cleaned
    exact ⟨entry, List.mem_cons_of_mem _ mem, found⟩

theorem Agrees.not_cleaned (agrees : Agrees keys log) (history : History log)
    (fence : keys.fence = some number) : ¬ Cleaned number log := by
  intro cleaned
  obtain ⟨entry, mem, newer, above, reserved⟩ := cleaned.newer history
  have bounded := agrees.newest number fence entry mem newer reserved
  omega

end

/-! ### One command -/

section

variable {store : Store χ} {task : Nat} {command : RedisCommand χ}

def Store.entry (store : Store χ) (task : Nat) (command : RedisCommand χ) : Entry χ :=
  ⟨task, .command command, store.keys⟩

variable {keys : Keys χ} {log : List (Entry χ)}

theorem mem_of_reserved {entry other : Entry χ} {number : Nat} (mem : other ∈ entry :: log)
    (reserved : other.reserved = some number) (quiet : entry.reserved = none) :
    other ∈ log := by
  refine (List.mem_cons.mp mem).resolve_left fun same => ?_
  rw [same, quiet] at reserved
  cases reserved

/-- A deletion may complete a cleanup, but there is no payload left. -/
theorem Agrees.quiet {entry : Entry χ} (agrees : Agrees keys log)
    (noReservation : entry.reserved = none) (noPublication : entry.published = none)
    (deletion : entry.Drops → keys.payload = none) : Agrees keys (entry :: log) where
  issued := fun other mem number reserved =>
    agrees.issued other (mem_of_reserved mem reserved noReservation) number reserved
  fence := by
    intro number fence
    obtain ⟨other, mem, reserved⟩ := agrees.fence number fence
    exact ⟨other, List.mem_cons_of_mem _ mem, reserved⟩
  newest := fun number fence other mem =>
    fun newer reserved => agrees.newest number fence other
      (mem_of_reserved mem reserved noReservation) newer reserved
  last := by
    rintro number fence ⟨other, mem, published⟩
    rw [lastPublished_cons_of_none noPublication]
    rcases List.mem_cons.mp mem with rfl | mem
    · rw [noPublication] at published
      cases published
    · exact agrees.last number fence ⟨other, mem, published⟩
  payload := fun raw stored => (agrees.payload raw stored).grows (List.suffix_cons _ _)
  isolated := by
    rintro raw number stored tagged (⟨drops, -⟩ | cleaned)
    · rw [deletion drops] at stored
      cases stored
    · exact agrees.isolated raw number stored tagged cleaned

theorem Fenced.agrees_reserve {expected : Int} (fenced : Fenced store)
    (accepted : store.keys.Accepts expected) :
    Agrees { store.keys with
        sequence := store.keys.sequence + 1, fence := some (store.keys.sequence + 1) }
      (store.entry task (.reserve expected) :: store.log) := by
  have reserved : (store.entry task (.reserve expected)).reserved
      = some (store.keys.sequence + 1) := reserved_eq_some.mpr ⟨expected, rfl, accepted, rfl⟩
  have bounded : ∀ entry ∈ store.entry task (.reserve expected) :: store.log, ∀ number,
      entry.reserved = some number → number ≤ store.keys.sequence + 1 := by
    intro entry mem number found
    rcases List.mem_cons.mp mem with rfl | mem
    · rw [reserved] at found
      exact Nat.le_of_eq (Option.some.inj found).symm
    · exact Nat.le_succ_of_le (fenced.agrees.issued entry mem number found)
  refine ⟨bounded, ?_, ?_, ?_, ?_, ?_⟩
  · rintro _ ⟨⟩
    exact ⟨_, List.mem_cons_self, reserved⟩
  · rintro _ ⟨⟩
    exact bounded
  · -- nothing has been published under the new generation
    rintro _ ⟨⟩ ⟨_, mem, published⟩
    rcases List.mem_cons.mp mem with rfl | mem
    · cases published
    · obtain ⟨other, earlier, found⟩ := fenced.history.reserved_of_published mem published
      have := fenced.agrees.issued other earlier _ found
      omega
  · intro raw stored
    exact (fenced.agrees.payload raw stored).grows (List.suffix_cons _ _)
  · rintro raw number stored tagged (⟨drops, -⟩ | cleaned)
    · cases drops
    · exact fenced.agrees.isolated raw number stored tagged cleaned

theorem Fenced.agrees_publish {raw : Envelope χ} {number : Nat} (fenced : Fenced store)
    (fence : store.keys.fence = some number) (format : raw.format = 2)
    (tagged : raw.generation = some number) :
    Agrees { store.keys with payload := some raw }
      (store.entry task (.publish number raw) :: store.log) := by
  have published : (store.entry task (.publish number raw)).published = some number :=
    published_eq_some.mpr ⟨⟨raw, rfl⟩, fence⟩
  refine ⟨?_, ?_, ?_, ?_, ?_, ?_⟩
  · intro entry mem other reserved
    exact fenced.agrees.issued entry (mem_of_reserved mem reserved rfl) other reserved
  · intro other same
    obtain ⟨entry, mem, reserved⟩ := fenced.agrees.fence other same
    exact ⟨entry, List.mem_cons_of_mem _ mem, reserved⟩
  · intro other same entry mem newer reserved
    exact fenced.agrees.newest other same entry (mem_of_reserved mem reserved rfl) newer reserved
  · intro _ same _
    rw [lastPublished_cons_of_some published, ← fence]
    exact same
  · rintro _ ⟨⟩
    exact .inr ⟨format, number, tagged, _, List.mem_cons_self, published⟩
  · rintro _ _ ⟨⟩ same (⟨drops, -⟩ | cleaned)
    · cases drops
    · obtain rfl := Option.mem_unique same tagged
      exact fenced.agrees.not_cleaned fenced.history fence cleaned

theorem Agrees.without_payload (agrees : Agrees keys log) :
    Agrees { keys with payload := none } log :=
  ⟨agrees.issued, agrees.fence, agrees.newest, agrees.last, fun _ stored => (by cases stored),
    fun _ _ stored => (by cases stored)⟩

section

variable (fenced : Fenced store) (permitted : Permitted store.log task command)

include fenced permitted

theorem Fenced.fits : Fits (store.entry task command) store.log where
  counted := fenced.agrees.issued
  based := by
    intro basis _ reservation
    obtain ⟨action, accepted, -⟩ := reservation_eq_some.mp reservation
    obtain rfl : command = .reserve basis := Action.command.inj action
    have current : store.keys.current = basis := by
      have same := accepts_iff.mp accepted (Int.natCast_nonneg basis)
      exact Int.ofNat_inj.mp same
    refine ⟨current, ?_⟩
    rcases permitted with forced | ⟨other, same, known⟩
    · exact absurd forced (by omega)
    obtain rfl := Int.ofNat_inj.mp same
    rcases known with zero | published
    · exact .inl zero
    rcases Nat.eq_zero_or_pos basis with zero | positive
    · exact .inl zero
    -- a positive fence value is there, and it has been published
    have fence : store.keys.fence = some basis := by
      unfold Keys.current at current
      cases found : store.keys.fence with
      | none => rw [found, Option.getD_none] at current; omega
      | some => rw [found, Option.getD_some] at current; rw [current]
    exact .inr (fenced.agrees.last basis fence published)
  linked := by
    intro number published
    obtain ⟨⟨raw, action⟩, fence⟩ := published_eq_some.mp published
    obtain rfl : command = .publish number raw := Action.command.inj action
    obtain ⟨-, _, same, -, holds⟩ := permitted
    obtain rfl := Int.ofNat_inj.mp same
    exact ⟨holds, fenced.agrees.newest _ fence⟩
  isolated := by
    intro raw number read tagged
    cases command with
    | getPayload => exact fenced.agrees.isolated raw number read tagged
    | reserve | publish | getFence | deletePayload => cases read
  loaded := fun raw loaded => by cases loaded

theorem Fenced.agrees_execute :
    Agrees (command.execute store.keys).1 (store.entry task command :: store.log) := by
  cases command with
  | reserve expected =>
    show Agrees (checkpointReserveScript expected store.keys).1 _
    by_cases accepted : store.keys.Accepts expected
    · rw [checkpointReserveScript_of_accepts accepted]
      exact fenced.agrees_reserve accepted
    rw [checkpointReserveScript_of_refused accepted]
    refine fenced.agrees.quiet ?_ rfl (fun drops => by cases drops)
    rw [Option.eq_none_iff_forall_ne_some]
    intro _ reserved
    obtain ⟨_, action, accepts, -⟩ := reserved_eq_some.mp reserved
    obtain rfl := RedisCommand.reserve.inj (Action.command.inj action)
    exact accepted accepts
  | publish _ raw =>
    obtain ⟨format, number, rfl, tagged, -⟩ := permitted
    show Agrees (checkpointPublishScript number raw store.keys).1 _
    by_cases current : store.keys.published = number
    · rw [checkpointPublishScript_of_current current]
      exact fenced.agrees_publish (published_eq_iff.mp current) format tagged
    · rw [checkpointPublishScript_of_superseded current]
      refine fenced.agrees.quiet rfl ?_ (fun drops => by cases drops)
      exact if_neg current
  | getPayload | getFence => exact fenced.agrees.quiet rfl rfl fun drops => by cases drops
  | deletePayload => exact fenced.agrees.without_payload.quiet rfl rfl fun _ => rfl

/-- **A permitted command keeps the invariant**, whoever it comes from. -/
theorem Fenced.execute : Fenced (store.execute task command) where
  agrees := fenced.agrees_execute permitted
  history := ⟨fenced.fits permitted, fenced.history⟩
  basis := fun saver number found => (fenced.basis saver number found).grows (List.suffix_cons _ _)
  delayed := fun entry mem => (fenced.delayed entry mem).grows (List.suffix_cons _ _)

end

theorem Fenced.learned (fenced : Fenced store) :
    Learned (store.execute task command).log task command (command.execute store.keys).2 := by
  cases command with
  | reserve expected =>
    intro _ replied
    change (checkpointReserveScript expected store.keys).2 = _ at replied
    by_cases accepted : store.keys.Accepts expected
    · rw [checkpointReserveScript_of_accepts accepted] at replied
      refine ⟨store.entry task (.reserve expected), List.mem_cons_self, rfl, ?_⟩
      exact reservation_eq_some.mpr ⟨rfl, accepted, (Int.ofNat_inj.mp replied).symm⟩
    · rw [checkpointReserveScript_of_refused accepted] at replied
      exact absurd replied (by omega)
  | publish _ raw =>
    rintro replied number rfl
    change (checkpointPublishScript number raw store.keys).2 = _ at replied
    by_cases current : store.keys.published = number
    · exact ⟨store.entry task (.publish number raw), List.mem_cons_self,
        published_eq_some.mpr ⟨⟨raw, rfl⟩, published_eq_iff.mp current⟩⟩
    · rw [checkpointPublishScript_of_superseded current] at replied
      cases replied
  | getPayload =>
    intro raw found
    exact ⟨(fenced.agrees.payload raw found).grows (List.suffix_cons _ _),
      store.entry task .getPayload, List.mem_cons_self, rfl, found⟩
  | getFence | deletePayload => trivial

end

end ShadowTrace.Checkpoint
