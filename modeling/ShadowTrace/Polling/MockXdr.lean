/-
**The mock source** (`app/mock_xdr/state.py`, `app/adapters/mock_xdr.py`).

The source keeps one stored object per id, stamped with a virtual clock that never goes back but may
stand still. A listing without a cursor filters by `updated_after`, which is exclusive, sorts, cuts
the result into pages and freezes all of them at once; a listing with a cursor returns a frozen
page. A cursor is a digest of everything that determines the listing, taken to be injective: here it
is that data itself.
-/

import Mathlib.Data.List.Sort
import ShadowTrace.Lib.Table

namespace ShadowTrace.MockXdr

open Relational

/-! ### The state -/

structure StoredObject (ι κ β : Type) where
  objectId : ι
  connector : κ
  body : β
  sourceUpdatedAt : Int
  concurrencyToken : Nat
  deleted : Bool
  deriving DecidableEq

structure Cursor (ι κ β : Type) where
  connector : Option κ
  updatedAfter : Option Int
  index : Nat
  pageSize : Nat
  snapshot : List (ι × β)
  deriving DecidableEq

structure CursorPage (ι κ β : Type) where
  frozenItems : List (StoredObject ι κ β)
  next : Option (Cursor ι κ β)

structure FailureProfile where
  outOfOrderUpdates : Bool
  duplicatePage : Bool

structure MockXDRState (ι κ β : Type) where
  clock : Int
  objects : Table ι (StoredObject ι κ β)
  cursorPages : Cursor ι κ β → Option (CursorPage ι κ β)
  profile : FailureProfile

variable {ι κ β : Type} [LinearOrder ι] [DecidableEq κ]

section

variable (state : MockXDRState ι κ β)

def MockXDRState.upsertObject (objectId : ι) (connector : κ) (body : β) (token : Nat) :
    MockXDRState ι κ β :=
  { state with
    objects := state.objects.set objectId ⟨objectId, connector, body, state.clock, token, false⟩ }

def MockXDRState.deleteObject (objectId : ι) (token : Nat) : MockXDRState ι κ β :=
  { state with
    objects := state.objects.modify objectId fun stored =>
      { stored with deleted := true, sourceUpdatedAt := state.clock, concurrencyToken := token } }

def MockXDRState.advanceClock (seconds : Int) : MockXDRState ι κ β :=
  if seconds < 0 then state else { state with clock := state.clock + seconds }

/-! ### Listings -/

def InScope (connector : Option κ) (stored : StoredObject ι κ β) : Prop :=
  ∀ wanted, connector = some wanted → stored.connector = wanted

def Newer (updatedAfter : Option Int) (stored : StoredObject ι κ β) : Prop :=
  ∀ time, updatedAfter = some time → time < stored.sourceUpdatedAt

instance (connector : Option κ) (stored : StoredObject ι κ β) :
    Decidable (InScope connector stored) :=
  match connector with
  | none => isTrue fun _ absurd => by cases absurd
  | some wanted => decidable_of_iff (stored.connector = wanted)
      ⟨fun same _ eq => Option.some.inj eq ▸ same, fun inside => inside wanted rfl⟩

instance (updatedAfter : Option Int) (stored : StoredObject ι κ β) :
    Decidable (Newer updatedAfter stored) :=
  match updatedAfter with
  | none => isTrue fun _ absurd => by cases absurd
  | some time => decidable_of_iff (time < stored.sourceUpdatedAt)
      ⟨fun later _ eq => Option.some.inj eq ▸ later, fun newer => newer time rfl⟩

def Before (first second : StoredObject ι κ β) : Prop :=
  first.sourceUpdatedAt < second.sourceUpdatedAt
    ∨ first.sourceUpdatedAt = second.sourceUpdatedAt ∧ first.objectId ≤ second.objectId

instance : DecidableRel (Before : StoredObject ι κ β → StoredObject ι κ β → Prop) :=
  fun _ _ => inferInstanceAs (Decidable (_ ∨ _))

def MockXDRState.sortedObjects (updatedAfter : Option Int) (connector : Option κ) :
    List (StoredObject ι κ β) :=
  let items := (state.objects.rows.map Prod.snd).filter fun stored =>
    !stored.deleted && decide (InScope connector stored) && decide (Newer updatedAfter stored)
  let sorted := items.insertionSort Before
  if state.profile.outOfOrderUpdates then sorted.reverse else sorted

end

/-- The number of pages, `len(range(0, max(len(ids), 1), page_size))`. -/
def pageCount (length pageSize : Nat) : Nat := (max length 1 + pageSize - 1) / pageSize

def chunk {α : Type} (pageSize index : Nat) (items : List α) : List α :=
  (items.drop (index * pageSize)).take pageSize

structure Request (κ : Type) where
  pageSize : Nat
  updatedAfter : Option Int
  connector : Option κ

section Listing

variable (state : MockXDRState ι κ β) (request : Request κ)

def MockXDRState.listing : List (StoredObject ι κ β) :=
  state.sortedObjects request.updatedAfter request.connector

def MockXDRState.pages : Nat := pageCount (state.listing request).length request.pageSize

def MockXDRState.cursorAt (index : Nat) : Cursor ι κ β where
  connector := request.connector
  updatedAfter := request.updatedAfter
  index := index
  pageSize := request.pageSize
  snapshot := (state.listing request).map fun stored => (stored.objectId, stored.body)

/-- The items of a page, the first one twice under the profile `duplicate_page`. -/
def MockXDRState.frozenItems (index : Nat) : List (StoredObject ι κ β) :=
  let items := chunk request.pageSize index (state.listing request)
  if state.profile.duplicatePage then items ++ items.head?.toList else items

def MockXDRState.frozenPage (index : Nat) : CursorPage ι κ β where
  frozenItems := state.frozenItems request index
  next :=
    if index + 1 < state.pages request then some (state.cursorAt request (index + 1)) else none

def MockXDRState.freeze [DecidableEq β] : MockXDRState ι κ β :=
  { state with
    cursorPages := fun cursor =>
      if cursor = state.cursorAt request cursor.index ∧ cursor.index < state.pages request then
        some (state.frozenPage request cursor.index)
      else state.cursorPages cursor }

end Listing

/-! ### What a listing selects -/

variable {index : Nat}

section

variable {state : MockXDRState ι κ β} {request : Request κ} {stored item : StoredObject ι κ β}

theorem mem_sortedObjects {updatedAfter : Option Int} {connector : Option κ} :
    stored ∈ state.sortedObjects updatedAfter connector
      ↔ (∃ objectId, state.objects.get objectId = some stored) ∧ stored.deleted = false
        ∧ InScope connector stored ∧ Newer updatedAfter stored := by
  have sorted : stored ∈ state.sortedObjects updatedAfter connector
      ↔ stored ∈ (state.objects.rows.map Prod.snd).filter fun stored =>
        !stored.deleted && decide (InScope connector stored)
          && decide (Newer updatedAfter stored) := by
    unfold MockXDRState.sortedObjects
    split_ifs
    · rw [List.mem_reverse, List.mem_insertionSort]
    · rw [List.mem_insertionSort]
  simp only [sorted, List.mem_filter, List.mem_map, Bool.and_eq_true, Bool.not_eq_true',
    decide_eq_true_eq, and_assoc, Prod.exists, exists_eq_right, Table.mem_rows]

theorem mem_iff_mem_chunk {α : Type} {pageSize : Nat} (positive : 0 < pageSize) {items : List α}
    {item : α} :
    item ∈ items
      ↔ ∃ index < pageCount items.length pageSize, item ∈ chunk pageSize index items := by
  constructor
  · intro mem
    obtain ⟨position, _, rfl⟩ := List.mem_iff_getElem.mp mem
    refine ⟨position / pageSize, ?_, ?_⟩
    · unfold pageCount
      rw [Nat.div_lt_iff_lt_mul positive]
      have le := Nat.lt_div_mul_add positive (a := max items.length 1 + pageSize - 1)
      omega
    unfold chunk
    have parts := Nat.div_add_mod position pageSize
    have small := Nat.mod_lt position positive
    rw [List.mem_iff_getElem]
    refine ⟨position % pageSize, ?_, ?_⟩
    · rw [List.length_take, List.length_drop]
      rw [Nat.mul_comm] at parts
      omega
    rw [List.getElem_take, List.getElem_drop]
    congr 1
    rw [Nat.mul_comm] at parts
    exact parts
  · rintro ⟨_, -, mem⟩
    exact List.mem_of_mem_drop (List.mem_of_mem_take mem)

theorem mem_frozenItems : item ∈ state.frozenItems request index
      ↔ item ∈ chunk request.pageSize index (state.listing request) := by
  unfold MockXDRState.frozenItems
  split_ifs
  · rw [List.mem_append, Option.mem_toList]
    exact ⟨fun either => either.elim id List.mem_of_mem_head?, .inl⟩
  · exact Iff.rfl

theorem pages_pos (positive : 0 < request.pageSize) : 0 < state.pages request := by
  refine Nat.div_pos ?_ positive
  omega

theorem mem_listing_iff (positive : 0 < request.pageSize) :
    item ∈ state.listing request
      ↔ ∃ index < state.pages request, item ∈ state.frozenItems request index := by
  rw [mem_iff_mem_chunk positive]
  refine exists_congr fun index => and_congr_right fun _ => mem_frozenItems.symm

theorem frozenPage_next_eq_some {next : Cursor ι κ β} :
    (state.frozenPage request index).next = some next
      ↔ index + 1 < state.pages request ∧ next = state.cursorAt request (index + 1) := by
  unfold MockXDRState.frozenPage
  by_cases more : index + 1 < state.pages request
  · simp only [more, true_and]
    exact ⟨fun same => (Option.some.inj same).symm, fun same => same ▸ rfl⟩
  · simp [more]

end

/-! ### Requests -/

variable [DecidableEq β]

section

variable (state : MockXDRState ι κ β) (request : Request κ) (cursor : Option (Cursor ι κ β))

/-- `list_page`; `none` is the error `unknown cursor`. -/
def MockXDRState.listPage : Option (MockXDRState ι κ β × CursorPage ι κ β) :=
  match cursor with
  | some cursor => (state.cursorPages cursor).map fun page => (state, page)
  | none => some (state.freeze request, state.frozenPage request 0)

/-- `list_objects`: the route of the source refuses page sizes outside 1 to 1000. -/
def MockXDRState.listObjects : Option (MockXDRState ι κ β × CursorPage ι κ β) :=
  if 1 ≤ request.pageSize ∧ request.pageSize ≤ 1000 then state.listPage request cursor else none

/-- **The chain of a cursor**: the items of its page and of the pages that follow. -/
inductive InChain (pages : Cursor ι κ β → Option (CursorPage ι κ β)) :
    Cursor ι κ β → StoredObject ι κ β → Prop
  | here {cursor : Cursor ι κ β} (found : pages cursor = some page)
      (mem : item ∈ page.frozenItems) : InChain pages cursor item
  | later {cursor : Cursor ι κ β} (found : pages cursor = some page)
      (follows : page.next = some next) (rest : InChain pages next item) : InChain pages cursor item

/-- What a request has still to return: the objects it selects, or the chain of its cursor. -/
def Due (item : StoredObject ι κ β) : Prop :=
  match cursor with
  | none => item ∈ state.listing request
  | some cursor => InChain state.cursorPages cursor item

end

section Chain

variable {state : MockXDRState ι κ β} {request : Request κ} {item : StoredObject ι κ β}
  {after : MockXDRState ι κ β} {page : CursorPage ι κ β}

theorem freeze_cursorPages (bound : index < state.pages request) :
    (state.freeze request).cursorPages (state.cursorAt request index)
      = some (state.frozenPage request index) :=
  if_pos ⟨rfl, bound⟩

theorem inChain_freeze (bound : index < state.pages request) :
    InChain (state.freeze request).cursorPages (state.cursorAt request index) item
      ↔ ∃ later, index ≤ later ∧ later < state.pages request
        ∧ item ∈ state.frozenItems request later := by
  constructor
  · intro chain
    generalize start : state.cursorAt request index = cursor at chain
    induction chain generalizing index with
    | here found mem =>
      rw [← start, freeze_cursorPages bound] at found
      cases found
      exact ⟨index, le_refl _, bound, mem⟩
    | later found follows _ ih =>
      rw [← start, freeze_cursorPages bound] at found
      cases found
      obtain ⟨more, next⟩ := frozenPage_next_eq_some.mp follows
      obtain ⟨later, le, inside, mem⟩ := ih more next.symm
      exact ⟨later, by omega, inside, mem⟩
  · rintro ⟨_, le, inside, mem⟩
    -- downwards from the page of the item to the page of the cursor
    induction le using Nat.decreasingInduction with
    | self => exact .here (freeze_cursorPages inside) mem
    | of_succ middle _ ih =>
      have more : middle + 1 < state.pages request := by omega
      exact .later (freeze_cursorPages bound) (frozenPage_next_eq_some.mpr ⟨more, rfl⟩) (ih more)

variable {cursor : Option (Cursor ι κ β)}

theorem listObjects_due (item : StoredObject ι κ β)
    (listed : state.listObjects request cursor = some (after, page)) : Due state request cursor item
      ↔ item ∈ page.frozenItems ∨ ∃ next, page.next = some next
        ∧ InChain after.cursorPages next item := by
  unfold MockXDRState.listObjects at listed
  split_ifs at listed with allowed
  have positive : 0 < request.pageSize := allowed.1
  cases cursor with
  | some =>
    obtain ⟨_, frozen, same⟩ := Option.map_eq_some_iff.mp listed
    cases same
    constructor
    · intro chain
      cases chain with
      | here stored mem =>
        obtain rfl := Option.mem_unique frozen stored
        exact .inl mem
      | later stored follows rest =>
        obtain rfl := Option.mem_unique frozen stored
        exact .inr ⟨_, follows, rest⟩
    · rintro (mem | ⟨_, follows, rest⟩)
      · exact .here frozen mem
      · exact .later frozen follows rest
  | none =>
    cases listed
    show item ∈ state.listing request ↔ _
    rw [mem_listing_iff positive]
    constructor
    · rintro ⟨index, bound, mem⟩
      cases index with
      | zero => exact .inl mem
      | succ index =>
        have more : 0 + 1 < state.pages request := by omega
        refine .inr ⟨_, frozenPage_next_eq_some.mpr ⟨more, rfl⟩, ?_⟩
        exact (inChain_freeze more).mpr ⟨index + 1, by omega, bound, mem⟩
    · rintro (mem | ⟨_, follows, rest⟩)
      · exact ⟨0, pages_pos positive, mem⟩
      · obtain ⟨more, rfl⟩ := frozenPage_next_eq_some.mp follows
        obtain ⟨later, -, inside, mem⟩ := (inChain_freeze more).mp rest
        exact ⟨later, inside, mem⟩

theorem listObjects_empty (listed : state.listObjects request none = some (after, page))
    (none_there : page.frozenItems = []) : page.next = none := by
  unfold MockXDRState.listObjects at listed
  split_ifs at listed with allowed
  cases listed
  have positive : 0 < request.pageSize := allowed.1
  have empty : state.listing request = [] := by
    have first : chunk request.pageSize 0 (state.listing request) = [] := by
      rw [List.eq_nil_iff_forall_not_mem] at none_there ⊢
      exact fun item mem => none_there item (mem_frozenItems.mpr mem)
    unfold chunk at first
    rw [Nat.zero_mul, List.drop_zero, List.take_eq_nil_iff] at first
    exact first.resolve_left positive.ne'
  have single : state.pages request = 1 := by
    unfold MockXDRState.pages pageCount
    rw [empty]
    show (1 + request.pageSize - 1) / request.pageSize = 1
    rw [Nat.add_sub_cancel_left, Nat.div_self positive]
  unfold MockXDRState.frozenPage
  rw [single]
  rfl

/-- **A listing without a cursor freezes its pages**, one with a cursor changes nothing. -/
theorem listObjects_source (listed : state.listObjects request cursor = some (after, page)) :
    after.objects = state.objects ∧ (cursor = none ∨ after.cursorPages = state.cursorPages) := by
  unfold MockXDRState.listObjects at listed
  split_ifs at listed
  cases cursor with
  | some =>
    obtain ⟨_, -, same⟩ := Option.map_eq_some_iff.mp listed
    cases same
    exact ⟨rfl, .inr rfl⟩
  | none =>
    cases listed
    exact ⟨rfl, .inl rfl⟩

end Chain

end ShadowTrace.MockXdr
