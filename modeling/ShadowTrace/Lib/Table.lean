/-
**Tables: rows under distinct primary keys.**

`Table κ ρ` is an association list with distinct keys, with the operations of a row-locking
transaction.

`Steps` lifts a relation on keyed rows to tables. `Evolves`, where the key does not matter, is
transitive when the relation is, so the effect of an operation is composed from those of its writes.
-/

import Mathlib.Data.List.AList
import Mathlib.Data.List.Perm.Subperm

namespace Relational

variable {κ ρ : Type} [DecidableEq κ]

/-- Rows under distinct primary keys. -/
def Table (κ ρ : Type) : Type := AList (fun _ : κ => ρ)

namespace Table

def empty : Table κ ρ := (∅ : AList fun _ : κ => ρ)

instance : Inhabited (Table κ ρ) := ⟨empty⟩

section

variable (table : Table κ ρ) (key : κ)

def get : Option ρ := AList.lookup key table

def set (row : ρ) : Table κ ρ := AList.insert key row table

def modify (change : ρ → ρ) : Table κ ρ :=
  match table.get key with
  | none => table
  | some row => table.set key (change row)

def mapRows (change : ρ → ρ) : Table κ ρ :=
  ⟨(AList.entries table).map (.map id fun _ => change),
    List.NodupKeys.map₂ (fun _ => change) _ table.nodupKeys⟩

def deleteWhere (drop : κ → ρ → Bool) : Table κ ρ :=
  ⟨(AList.entries table).filter fun entry => !drop entry.1 entry.2,
    table.nodupKeys.sublist List.filter_sublist⟩

def rows : List (κ × ρ) :=
  (AList.entries table).map fun entry => (entry.1, entry.2)

@[simp] theorem get_empty : (empty : Table κ ρ).get key = none := rfl

end

variable {key : κ} {row : ρ} {table : Table κ ρ} {keys : List κ} {holds : ρ → Bool}

@[simp] theorem get_set_self : (table.set key row).get key = some row :=
  AList.lookup_insert (s := table)

theorem get_set_ne {other : κ} (ne : other ≠ key) :
    (table.set key row).get other = table.get other :=
  AList.lookup_insert_ne (s := table) ne

/-- **The frame of a write**: it changes the row of its key and no other. -/
theorem get_set (table : Table κ ρ) (key other : κ) (row : ρ) :
    (table.set key row).get other = if other = key then some row else table.get other := by
  split_ifs with same
  · subst same
    exact get_set_self
  · exact get_set_ne same

theorem get_modify (table : Table κ ρ) (key other : κ) (change : ρ → ρ) :
    (table.modify key change).get other
      = if other = key then (table.get other).map change else table.get other := by
  unfold modify
  cases found : table.get key with
  | none =>
    split_ifs with same
    · rw [same, found]
      rfl
    · rfl
  | some =>
    simp only [get_set]
    split_ifs with same
    · rw [same, found]
      rfl
    · rfl

theorem get_mapRows (table : Table κ ρ) (change : ρ → ρ) (key : κ) :
    (table.mapRows change).get key = (table.get key).map change :=
  List.dlookup_map₂ key

theorem get_deleteWhere (table : Table κ ρ) (drop : κ → ρ → Bool) (key : κ) :
    (table.deleteWhere drop).get key = (table.get key).filter fun row => !drop key row := by
  ext row
  have kept : (table.deleteWhere drop).get key = some row
      ↔ (⟨key, row⟩ : Sigma fun _ : κ => ρ) ∈ (AList.entries table).filter
        fun entry => !drop entry.1 entry.2 := AList.mem_lookup_iff
  have stored : table.get key = some row
      ↔ (⟨key, row⟩ : Sigma fun _ : κ => ρ) ∈ AList.entries table := AList.mem_lookup_iff
  rw [kept, List.mem_filter, ← stored, Option.filter_eq_some_iff]

theorem mem_rows {row : ρ} :
    (key, row) ∈ table.rows ↔ table.get key = some row := by
  unfold rows get
  rw [List.mem_map]
  constructor
  · rintro ⟨⟨other, value⟩, mem, same⟩
    cases same
    exact AList.mem_lookup_iff.mpr mem
  · intro found
    exact ⟨⟨key, row⟩, AList.mem_lookup_iff.mp found, rfl⟩

/-! ### Selecting by keys -/

def select (table : Table κ ρ) (keys : List κ) (holds : ρ → Bool) : List (κ × ρ) :=
  table.rows.filter fun entry => decide (entry.1 ∈ keys) && holds entry.2

theorem mem_select {row : ρ} :
    (key, row) ∈ table.select keys holds
      ↔ key ∈ keys ∧ table.get key = some row ∧ holds row = true := by
  unfold select
  rw [List.mem_filter, mem_rows, Bool.and_eq_true, decide_eq_true_iff]
  exact and_left_comm

omit [DecidableEq κ] in
theorem nodup_rows (table : Table κ ρ) : (table.rows.map Prod.fst).Nodup := by
  have keys : table.rows.map Prod.fst = AList.keys table := by
    unfold rows
    rw [List.map_map]
    rfl
  rw [keys]
  exact AList.keys_nodup table

theorem nodup_select (table : Table κ ρ) (keys : List κ) (holds : ρ → Bool) :
    ((table.select keys holds).map Prod.fst).Nodup :=
  (nodup_rows table).sublist ((List.filter_sublist).map Prod.fst)

theorem select_subset (table : Table κ ρ) (keys : List κ) (holds : ρ → Bool) :
    (table.select keys holds).map Prod.fst ⊆ keys := by
  intro _ mem
  obtain ⟨⟨_, row⟩, selected, rfl⟩ := List.mem_map.mp mem
  exact (mem_select.mp selected).1

theorem found_of_select_length (count : (table.select keys holds).length = keys.length)
    (asked : key ∈ keys) :
    ∃ row, table.get key = some row ∧ holds row = true := by
  have sub := (nodup_select table keys holds).subperm (select_subset table keys holds)
  have perm := sub.perm_of_length_le (by rw [List.length_map, count])
  obtain ⟨⟨_, row⟩, selected, rfl⟩ := List.mem_map.mp (perm.mem_iff.mpr asked)
  exact ⟨row, (mem_select.mp selected).2⟩

theorem select_length_of_found (distinct : keys.Nodup)
    (found : ∀ key ∈ keys, ∃ row, table.get key = some row ∧ holds row = true) :
    (table.select keys holds).length = keys.length := by
  have back : keys ⊆ (table.select keys holds).map Prod.fst := by
    intro key asked
    obtain ⟨row, there, good⟩ := found key asked
    exact List.mem_map.mpr ⟨(key, row), mem_select.mpr ⟨asked, there, good⟩, rfl⟩
  have first := ((nodup_select table keys holds).subperm (select_subset table keys holds)).length_le
  have second := (distinct.subperm back).length_le
  rw [List.length_map] at first second
  exact le_antisymm first second

def fill (keys : List κ) (row : ρ) : Table κ ρ :=
  keys.foldr (fun key table => table.set key row) empty

theorem get_fill (keys : List κ) (row : ρ) (key : κ) :
    (fill keys row).get key = if key ∈ keys then some row else none := by
  induction keys with
  | nil => rfl
  | cons first keys ih =>
    show ((fill keys row).set first row).get key = _
    rw [get_set, ih]
    by_cases same : key = first
    · simp [same]
    · simp [same]

/-! ### Tables that evolve row by row -/

/-- No row disappears, every row moves as allowed, every new row is born as allowed. What is allowed
may depend on the key. -/
structure Steps (moves : κ → ρ → ρ → Prop) (born : κ → ρ → Prop) (before after : Table κ ρ) :
    Prop where
  old : ∀ key row, before.get key = some row →
    ∃ next, after.get key = some next ∧ moves key row next
  new : ∀ key row, before.get key = none → after.get key = some row → born key row

namespace Steps

variable {moves : κ → ρ → ρ → Prop} {born : κ → ρ → Prop} {before after : Table κ ρ}

theorem refl (still : ∀ key row, moves key row row) :
    Steps moves born before before where
  old key row found := ⟨row, found, still key row⟩
  new key row absent found := by rw [absent] at found; cases found

theorem of_eq (same : after = before) (still : ∀ key row, moves key row row) :
    Steps moves born before after := by
  subst same
  exact refl still

variable {key : κ}

theorem set_at {row next : ρ} (found : before.get key = some row) (moved : moves key row next)
    (still : ∀ other row, other ≠ key → moves other row row) :
    Steps moves born before (before.set key next) where
  old other stored present := by
    by_cases same : other = key
    · subst same
      obtain rfl := Option.mem_unique found present
      exact ⟨next, get_set_self, moved⟩
    · exact ⟨stored, by rw [get_set_ne same, present], still other stored same⟩
  new other stored absent present := by
    by_cases same : other = key
    · subst same
      rw [found] at absent
      cases absent
    · rw [get_set_ne same, absent] at present
      cases present

theorem set {row next : ρ} (found : before.get key = some row) (moved : moves key row next)
    (still : ∀ key row, moves key row row) : Steps moves born before (before.set key next) :=
  set_at found moved fun other row _ => still other row

/-- A row under a fresh key, inserted after the rows there were have moved. -/
theorem insert_after {middle : Table κ ρ} {row : ρ} (steps : Steps moves born before middle)
    (fresh : middle.get key = none) (birth : born key row) :
    Steps moves born before (middle.set key row) where
  old other stored present := by
    obtain ⟨next, reached, moved⟩ := steps.old other stored present
    have different : other ≠ key := by
      rintro rfl
      rw [fresh] at reached
      cases reached
    exact ⟨next, by rw [get_set_ne different, reached], moved⟩
  new other stored absent present := by
    by_cases same : other = key
    · subst same
      rw [get_set_self] at present
      cases present
      exact birth
    · rw [get_set_ne same] at present
      exact steps.new other stored absent present

theorem insert {row : ρ} (fresh : before.get key = none) (birth : born key row)
    (still : ∀ key row, moves key row row) : Steps moves born before (before.set key row) :=
  insert_after (refl still) fresh birth

theorem modify {change : ρ → ρ}
    (moved : ∀ row, before.get key = some row → moves key row (change row))
    (still : ∀ key row, moves key row row) :
    Steps moves born before (before.modify key change) := by
  unfold Table.modify
  cases found : before.get key with
  | none => exact refl still
  | some row => exact set found (moved row found) still

theorem mapRows {change : ρ → ρ} (moved : ∀ key row, before.get key = some row →
    moves key row (change row)) : Steps moves born before (before.mapRows change) where
  old key row found := ⟨change row, by rw [get_mapRows, found]; rfl, moved key row found⟩
  new key row absent found := by
    rw [get_mapRows, absent] at found
    cases found

theorem mono {moves' : κ → ρ → ρ → Prop} {born' : κ → ρ → Prop}
    (weaker : ∀ key row next, moves key row next → moves' key row next)
    (more : ∀ key row, born key row → born' key row) (steps : Steps moves born before after) :
    Steps moves' born' before after where
  old key row found := by
    obtain ⟨next, reached, moved⟩ := steps.old key row found
    exact ⟨next, reached, weaker key row next moved⟩
  new key row absent found := more key row (steps.new key row absent found)

theorem mono_born {born' : κ → ρ → Prop} (more : ∀ key row, born key row → born' key row)
    (steps : Steps moves born before after) : Steps moves born' before after :=
  steps.mono (fun _ _ _ moved => moved) more

theorem moved (steps : Steps moves born before after) {row next : ρ}
    (found : before.get key = some row) (reached : after.get key = some next) :
    moves key row next := by
  obtain ⟨_, here, moved⟩ := steps.old key row found
  obtain rfl := Option.mem_unique reached here
  exact moved

theorem trans {first : κ → ρ → Prop} {middle : Table κ ρ} (start : Steps moves first before middle)
    (rest : Steps moves born middle after)
    (compose : ∀ {key : κ} {row next last : ρ}, moves key row next → moves key next last →
      moves key row last)
    (grow : ∀ key row next, first key row → moves key row next → born key next) :
    Steps moves born before after where
  old key row found := by
    obtain ⟨next, reached, moved⟩ := start.old key row found
    obtain ⟨last, final, movedOn⟩ := rest.old key next reached
    exact ⟨last, final, compose moved movedOn⟩
  new key row absent found := by
    cases met : middle.get key with
    | none => exact rest.new key row met found
    | some next => exact grow key next row (start.new key next absent met) (rest.moved met found)

theorem absent_before (steps : Steps moves born before after) (absent : after.get key = none) :
    before.get key = none := by
  cases earlier : before.get key with
  | none => rfl
  | some row =>
    obtain ⟨_, reached, -⟩ := steps.old key row earlier
    rw [absent] at reached
    cases reached

theorem row_after (steps : Steps moves born before after) {next : ρ}
    (found : after.get key = some next) :
    (∃ row, before.get key = some row ∧ moves key row next)
      ∨ (before.get key = none ∧ born key next) := by
  cases earlier : before.get key with
  | none => exact .inr ⟨rfl, steps.new key next earlier found⟩
  | some row => exact .inl ⟨row, rfl, steps.moved earlier found⟩

theorem row_before (steps : Steps moves (fun _ _ => False) before after) {next : ρ}
    (found : after.get key = some next) : ∃ row, before.get key = some row ∧ moves key row next :=
  (steps.row_after found).resolve_right And.right

end Steps

/-- Rows move and are born alike under every key. -/
abbrev Evolves (moves : ρ → ρ → Prop) (born : ρ → Prop) (before after : Table κ ρ) : Prop :=
  Steps (fun _ => moves) (fun _ => born) before after

namespace Evolves

variable {moves : ρ → ρ → Prop} {born : ρ → Prop} {before middle after : Table κ ρ}

theorem refl (still : ∀ row, moves row row) : Evolves moves born before before :=
  Steps.refl fun _ => still

theorem mono {moves' : ρ → ρ → Prop} {born' : ρ → Prop}
    (weaker : ∀ row next, moves row next → moves' row next) (more : ∀ row, born row → born' row)
    (evolves : Evolves moves born before after) : Evolves moves' born' before after :=
  Steps.mono (fun _ => weaker) (fun _ => more) evolves

theorem trans (first : Evolves moves born before middle) (second : Evolves moves born middle after)
    (compose : ∀ {first second third : ρ}, moves first second → moves second third →
      moves first third) (grow : ∀ row next, born row → moves row next → born next) :
    Evolves moves born before after :=
  Steps.trans first second compose fun _ => grow

theorem set (still : ∀ row, moves row row) {key : κ} {row next : ρ}
    (found : before.get key = some row) (moved : moves row next) :
    Evolves moves born before (before.set key next) :=
  Steps.set found moved fun _ => still

end Evolves

/-- A table whose rows move while none is added. -/
def Updates (moves : ρ → ρ → Prop) (before after : Table κ ρ) : Prop :=
  Evolves moves (fun _ => False) before after

namespace Updates

variable {moves : ρ → ρ → Prop} {before middle after : Table κ ρ}

theorem refl (still : ∀ row, moves row row) : Updates moves before before := Evolves.refl still

theorem trans (first : Updates moves before middle) (second : Updates moves middle after)
    (compose : ∀ {first second third : ρ}, moves first second → moves second third →
      moves first third) : Updates moves before after :=
  Evolves.trans first second compose (fun _ _ impossible _ => impossible)

theorem row_before (updates : Updates moves before after) {key : κ} {next : ρ}
    (found : after.get key = some next) : ∃ row, before.get key = some row ∧ moves row next :=
  Steps.row_before updates found

end Updates

end Table

end Relational
