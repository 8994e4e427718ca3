/-
**The poll loop** (`_poll_connector_kind` in `app/ingestion/source_ingester.py`), over the mock
source.

One poll reads the checkpoint of its stream, requests page after page, hands the items to ingestion
and commits the checkpoint after each page. What can go wrong with a page is an argument (`Fate`).

The watermark of a stream is the newest stamp of its last page, and the source lists what is
strictly newer. An object stored under a clock that has not moved since is never listed; a poll that
finds a cursor of an earlier one finishes that frozen listing and looks at nothing newer. What the
checkpoint promises of the objects not yet handed over is `Ahead`; runs keep it (`run_linked`).
-/

import ShadowTrace.Polling.Checkpoints
import ShadowTrace.Polling.MockXdr

namespace ShadowTrace.Ingester

open Relational MockXdr Machine
open Polling (Watermark SourcePage CheckpointRow CheckpointState ConnectorStatus nextWatermark
  commitCheckpoint loadCheckpoint markKindCheckpoint watermarkCursor watermarkTime)

variable {ι κ β : Type}

/-- The source, the checkpoint rows, and every item that ingestion was given. -/
structure World (ι κ β : Type) where
  source : MockXDRState ι κ β
  rows : κ → Option (CheckpointRow (Cursor ι κ β))
  passed : List (StoredObject ι κ β)

/-- What becomes of a page. A page or item of another kind and an unknown schema version end a poll
as a malformed item does. -/
inductive Fate
  | served | unavailable | malformed | rejected | conflicted
  deriving DecidableEq

/-- The local variables of the loop. -/
structure Poll (ι κ β : Type) where
  scope : Option κ
  request : Request κ
  cursor : Option (Cursor ι κ β)
  seenCursors : List (Option (Cursor ι κ β))
  known : CheckpointState (Cursor ι κ β)
  connector : Option κ

/-- How a round of the loop ends. -/
inductive Round (ι κ β : Type)
  | ended (clean : Bool)
  | goesOn (poll : Poll ι κ β)

def itemStamp (item : StoredObject ι κ β) : Option Int := some item.sourceUpdatedAt

section

variable [DecidableEq κ] (w : World ι κ β) (scope : Option κ) (poll : Poll ι κ β) (fate : Fate)
  (page : CursorPage ι κ β)

/-- `_mark_kind_checkpoint` with a degraded status, where a connector is known. -/
def World.degrade (connector : Option κ) (category : String) : World ι κ β :=
  match connector with
  | none => w
  | some connector =>
    { w with
      rows := Function.update w.rows connector
        (some (markKindCheckpoint .degraded category (w.rows connector))) }

/-- The page as the adapter returns it. -/
def sourcePage : SourcePage (Cursor ι κ β) (StoredObject ι κ β) where
  items := page.frozenItems
  nextCursor := page.next
  hasMore := page.next.isSome

/-- The page has an item of another connector, or of two where any will do. -/
def connectorMismatch (items : List (StoredObject ι κ β)) : Bool :=
  match scope with
  | some connector => items.any fun item => item.connector ≠ connector
  | none => items.any fun item => items.any fun other => item.connector ≠ other.connector

/-- The connector whose checkpoint the poll moves: its own, or that of the items. -/
def checkpointConnector (items : List (StoredObject ι κ β)) : Option κ :=
  poll.connector.or (items.head?.map StoredObject.connector)

/-- The watermark after a page. -/
def Poll.next : Watermark (Cursor ι κ β) :=
  nextWatermark itemStamp poll.known.watermark (sourcePage page)

/-- The end of a round: the checkpoint is committed, and the loop goes on to the next page. -/
def World.commit (connector : κ) (page : CursorPage ι κ β) : World ι κ β × Round ι κ β :=
  if fate = .conflicted then (w, .ended false)
  else
    match commitCheckpoint poll.known (poll.next page) (w.rows connector) with
    | .error _ => (w, .ended false)
    | .ok row =>
      let committed := { w with rows := Function.update w.rows connector (some row) }
      if page.next.isSome then
        (committed, .goesOn { poll with
          cursor := page.next, seenCursors := poll.cursor :: poll.seenCursors,
          known := ⟨row.watermark, some row.rowVersion⟩, connector := some connector })
      else (committed, .ended true)

/-- The rest of a round, once the source has returned a page. -/
def World.receive : World ι κ β × Round ι κ β :=
  let connector := checkpointConnector poll page.frozenItems
  if connectorMismatch poll.scope page.frozenItems then
    (w.degrade poll.scope "page_connector_mismatch", .ended false)
  else if fate = .malformed then (w.degrade connector "malformed_payload", .ended false)
  else
    let ingested := { w with passed := w.passed ++ page.frozenItems }
    if fate = .rejected then (ingested.degrade connector "object_rejected", .ended false)
    else
      match connector with
      | none => (ingested, .ended true)
      | some connector => ingested.commit poll fate connector page

/-- One round of the loop. -/
def pollPage [LinearOrder ι] [DecidableEq β] (w : World ι κ β) (poll : Poll ι κ β) :
    World ι κ β × Round ι κ β :=
  if poll.cursor ∈ poll.seenCursors then
    (w.degrade poll.connector "cursor_loop", .ended false)
  else if fate = .unavailable then (w.degrade poll.connector "adapter_unavailable", .ended false)
  else
    match w.source.listObjects poll.request poll.cursor with
    | none => (w.degrade poll.connector "adapter_unavailable", .ended false)
    | some (source, page) => World.receive { w with source } poll fate page

/-- The loop: the world it leaves, and whether it ended without an error. When the fates run out the
process has died. -/
def pollPages [LinearOrder ι] [DecidableEq β] :
    List Fate → World ι κ β → Poll ι κ β → World ι κ β × Bool
  | [], w, _ => (w, false)
  | fate :: fates, w, poll =>
    match pollPage fate w poll with
    | (after, .ended clean) => (after, clean)
    | (after, .goesOn next) => pollPages fates after next

/-- What `_load_checkpoint` finds: nothing for a poll of all connectors. -/
def World.checkpoint : CheckpointState (Cursor ι κ β) :=
  match scope with
  | none => ⟨none, none⟩
  | some connector => loadCheckpoint (w.rows connector)

/-- The poll before its first round. -/
def World.startPoll (limit : Nat) : Poll ι κ β where
  scope := scope
  request := ⟨limit, watermarkTime (w.checkpoint scope).watermark, scope⟩
  cursor := watermarkCursor (w.checkpoint scope).watermark
  seenCursors := []
  known := w.checkpoint scope
  connector := scope

/-- `_poll_connector_kind`. -/
def pollConnectorKind [LinearOrder ι] [DecidableEq β] (limit : Nat) (fates : List Fate) :
    World ι κ β × Bool :=
  pollPages fates w (w.startPoll scope limit)

/-! ### One round -/

/-- The watermark of a stream. -/
def World.mark (connector : κ) : Option (Watermark (Cursor ι κ β)) :=
  (loadCheckpoint (w.rows connector)).watermark

/-- A page has been handed over, and committed where the connector is known. -/
structure Handed [LinearOrder ι] [DecidableEq β] (after : World ι κ β) : Prop where
  listed : w.source.listObjects poll.request poll.cursor = some (after.source, page)
  passed : after.passed = w.passed ++ page.frozenItems
  mark : ∀ {connector}, poll.connector = some connector →
    after.mark connector = some (poll.next page)

/-- **What a round can do**: end with an error, or hand over a page and end or go on. -/
inductive PageMove [LinearOrder ι] [DecidableEq β] : World ι κ β × Round ι κ β → Prop
  | failed (after : World ι κ β)
      (source : after.source.objects = w.source.objects
        ∧ (poll.cursor = none ∨ after.source.cursorPages = w.source.cursorPages))
      (passed : w.passed ⊆ after.passed) (marks : after.mark = w.mark) :
      PageMove (after, .ended false)
  | last (after : World ι κ β) (page : CursorPage ι κ β) (handed : Handed w poll page after)
      (ends : page.next = none ∨ poll.connector = none ∧ page.frozenItems = []) :
      PageMove (after, .ended true)
  | more (after : World ι κ β) (page : CursorPage ι κ β) (connector : κ) (version : Option Nat)
      (handed : Handed w poll page after) (follows : page.next.isSome)
      (mine : ∀ own ∈ poll.connector, own = connector) :
      PageMove (after, .goesOn { poll with
        cursor := page.next, seenCursors := poll.cursor :: poll.seenCursors,
        known := ⟨some (poll.next page), version⟩, connector := some connector })

end

section Rounds

theorem checkpointConnector_eq_none {poll : Poll ι κ β} {items : List (StoredObject ι κ β)}
    (unknown : checkpointConnector poll items = none) : poll.connector = none ∧ items = [] := by
  obtain ⟨absent, empty⟩ := Option.or_eq_none_iff.mp unknown
  refine ⟨absent, ?_⟩
  cases items with
  | nil => rfl
  | cons => cases empty

variable [DecidableEq κ] {w : World ι κ β} {poll : Poll ι κ β} {fate : Fate}
  {source : MockXDRState ι κ β} {page : CursorPage ι κ β}

theorem mark_markKind (connector : κ) (status : ConnectorStatus) (category : String) :
    World.mark { w with
      rows := Function.update w.rows connector
        (some (markKindCheckpoint status category (w.rows connector))) } = w.mark := by
  funext other
  unfold World.mark
  by_cases same : other = connector
  · subst same
    simp only [Function.update_self]
    cases w.rows other with
    | none | some => rfl
  · simp only [Function.update_of_ne same]

variable [LinearOrder ι] [DecidableEq β]

theorem degrade_move (after : World ι κ β)
    (source : after.source.objects = w.source.objects
      ∧ (poll.cursor = none ∨ after.source.cursorPages = w.source.cursorPages))
    (passed : w.passed ⊆ after.passed) (rows : after.rows = w.rows) (connector : Option κ)
    (category : String) : PageMove w poll (after.degrade connector category, .ended false) := by
  have same : after.mark = w.mark := by
    unfold World.mark
    rw [rows]
  cases connector with
  | none => exact .failed _ source passed same
  | some connector => exact .failed _ source passed ((mark_markKind connector _ _).trans same)

theorem commit_move (listed : w.source.listObjects poll.request poll.cursor = some (source, page))
    {connector : κ} (known : checkpointConnector poll page.frozenItems = some connector) :
    PageMove w poll
      (World.commit { w with source, passed := w.passed ++ page.frozenItems } poll fate
        connector page) := by
  have mine : ∀ own ∈ poll.connector, own = connector := by
    intro own same
    rw [checkpointConnector, same] at known
    exact Option.some.inj known
  have failed : PageMove w poll
      ({ w with source, passed := w.passed ++ page.frozenItems }, .ended false) :=
    .failed _ (listObjects_source listed) (List.subset_append_left _ _) rfl
  by_cases conflicted : fate = .conflicted
  · rw [World.commit, if_pos conflicted]
    exact failed
  rw [World.commit, if_neg conflicted]
  split
  case h_1 => exact failed
  case h_2 row done =>
    obtain ⟨-, rfl⟩ := Polling.commitCheckpoint_eq_ok done
    have handed : Handed w poll page
        { source, rows := Function.update w.rows connector (some
            ⟨some (poll.next page), Polling.versionOf (w.rows connector) + 1, .online, none⟩)
          passed := w.passed ++ page.frozenItems } := by
      refine ⟨listed, rfl, fun {own} same => ?_⟩
      simp [mine own same, World.mark, loadCheckpoint]
    by_cases goes_on : page.next.isSome
    · rw [if_pos goes_on]
      exact .more _ page connector _ handed goes_on mine
    · rw [if_neg goes_on]
      exact .last _ page handed (.inl (Option.not_isSome_iff_eq_none.mp goes_on))

theorem receive_move
    (listed : w.source.listObjects poll.request poll.cursor = some (source, page)) :
    PageMove w poll (World.receive { w with source } poll fate page) := by
  have asked := listObjects_source listed
  unfold World.receive
  dsimp only
  split_ifs
  · exact degrade_move { w with source } asked (List.Subset.refl _) rfl _ _
  · exact degrade_move { w with source } asked (List.Subset.refl _) rfl _ _
  · exact degrade_move { w with source, passed := w.passed ++ page.frozenItems } asked
      (List.subset_append_left _ _) rfl _ _
  · split
    case h_1 unknown =>
      obtain ⟨absent, empty⟩ := checkpointConnector_eq_none unknown
      refine .last _ page ⟨listed, rfl, fun known => ?_⟩ (.inr ⟨absent, empty⟩)
      cases absent.symm.trans known
    case h_2 known => exact commit_move listed known

theorem pollPage_move (fate : Fate) (w : World ι κ β) (poll : Poll ι κ β) :
    PageMove w poll (pollPage fate w poll) := by
  have failed := fun category => @degrade_move _ _ _ _ w poll _ _ w ⟨rfl, .inr rfl⟩
    (List.Subset.refl _) rfl poll.connector category
  unfold pollPage
  split_ifs
  · exact failed _
  · exact failed _
  · split
    case h_1 => exact failed _
    case h_2 source page listed => exact receive_move listed

end Rounds

/-! ### Whole polls -/

variable [LinearOrder ι] [DecidableEq κ] [DecidableEq β]

/-- A poll with a cursor knows its connector. -/
def Anchored (poll : Poll ι κ β) : Prop := poll.connector = none → poll.cursor = none

/-- **A poll that ends without an error** has handed over exactly what was due. -/
theorem pollPages_finished {fates : List Fate} {w after : World ι κ β} {poll : Poll ι κ β}
    (anchored : Anchored poll) (finished : pollPages fates w poll = (after, true)) :
    after.source.objects = w.source.objects
      ∧ ∀ item, item ∈ after.passed
        ↔ item ∈ w.passed ∨ Due w.source poll.request poll.cursor item := by
  induction fates generalizing w poll with
  | nil => cases finished
  | cons fate _ ih =>
    unfold pollPages at finished
    have move := pollPage_move fate w poll
    generalize pollPage fate w poll = result at finished move
    cases move with
    | failed => cases finished
    | last _ _ handed ends =>
      cases finished
      have listed := handed.listed
      refine ⟨(listObjects_source listed).1, fun item => ?_⟩
      have due := listObjects_due item listed
      rw [handed.passed, List.mem_append, due]
      obtain ends | ⟨unscoped, empty⟩ := ends
      · simp [ends]
      · rw [anchored unscoped] at listed
        simp [listObjects_empty listed empty]
    | more _ _ _ _ handed follows =>
      obtain ⟨next, follows⟩ := Option.isSome_iff_exists.mp follows
      obtain ⟨objects, passed⟩ := ih (fun absent => by cases absent) finished
      refine ⟨objects.trans (listObjects_source handed.listed).1, fun item => ?_⟩
      have due := listObjects_due item handed.listed
      rw [passed, handed.passed, List.mem_append, due, follows, or_assoc]
      simp [Due]

/-! ### Schedules -/

/-- Nothing stored, nothing polled. -/
def World.fresh (clock : Int) (profile : FailureProfile) : World ι κ β :=
  ⟨⟨clock, .empty, fun _ => none, profile⟩, fun _ => none, []⟩

/-- What happens to source and checkpoints. -/
inductive Label (ι κ β : Type)
  | upsert (objectId : ι) (connector : κ) (body : β) (token : Nat)
  | delete (objectId : ι) (token : Nat)
  | advanceClock (seconds : Int)
  | poll (scope : Option κ) (limit : Nat) (fates : List Fate)
  | markDown (connector : κ) (status : ConnectorStatus) (category : String)

section

variable (w : World ι κ β) (scope : Option κ)

/-- One label: a change of the source, a whole poll, or a status that is written between polls. -/
def step : Label ι κ β → World ι κ β
  | .upsert objectId connector body token =>
    { w with source := w.source.upsertObject objectId connector body token }
  | .delete objectId token => { w with source := w.source.deleteObject objectId token }
  | .advanceClock seconds => { w with source := w.source.advanceClock seconds }
  | .poll scope limit fates => (pollConnectorKind w scope limit fates).1
  | .markDown connector status category =>
    { w with
      rows := Function.update w.rows connector
        (some (markKindCheckpoint status category (w.rows connector))) }

/-! ### Is every object polled? -/

/-- The latest version of an object that is not deleted. -/
def Live (stored : StoredObject ι κ β) : Prop :=
  (∃ objectId, w.source.objects.get objectId = some stored) ∧ stored.deleted = false

/-- **Nothing is missing**: the latest version of every object in the scope was handed over. -/
def Complete : Prop :=
  ∀ stored, Live w stored → InScope scope stored → stored ∈ w.passed

/-- The next poll of the scope will return the object: it is newer than the watermark, or in the
rest of the listing whose cursor is stored. -/
def Awaited (stored : StoredObject ι κ β) : Prop :=
  match watermarkCursor (w.checkpoint scope).watermark with
  | none => Newer (watermarkTime (w.checkpoint scope).watermark) stored
  | some cursor => InChain w.source.cursorPages cursor stored

omit [DecidableEq β] in
theorem awaited_iff_due {w : World ι κ β} {scope : Option κ} (limit : Nat)
    {stored : StoredObject ι κ β} (live : Live w stored) (inside : InScope scope stored) :
    Awaited w scope stored
      ↔ Due w.source (w.startPoll scope limit).request (w.startPoll scope limit).cursor stored := by
  unfold Awaited World.startPoll
  cases watermarkCursor (w.checkpoint scope).watermark with
  | some => exact Iff.rfl
  | none =>
    refine Iff.trans ?_ mem_sortedObjects.symm
    exact ⟨fun newer => ⟨live.1, live.2, inside, newer⟩, fun selected => selected.2.2.2⟩

omit [DecidableEq κ] [DecidableEq β] in
theorem live_congr {w after : World ι κ β} {stored : StoredObject ι κ β}
    (objects : after.source.objects = w.source.objects) :
    Live after stored ↔ Live w stored := by
  unfold Live
  rw [objects]

omit [LinearOrder ι] [DecidableEq κ] [DecidableEq β] in
theorem startPoll_anchored (limit : Nat) : Anchored (w.startPoll scope limit) := by
  intro unscoped
  obtain rfl : scope = none := unscoped
  rfl

end

/-- **Polling.** For every state of source and checkpoints, every scope and page size: a poll that
ends without an error leaves nothing missing in its scope exactly if every live object of the scope
had been handed over, or was newer than the watermark, or lay in the listing whose cursor was
stored. -/
theorem polling_complete (w after : World ι κ β) (scope : Option κ) (limit : Nat)
    (fates : List Fate) (finished : pollConnectorKind w scope limit fates = (after, true)) :
    Complete after scope
      ↔ ∀ stored, Live w stored → InScope scope stored →
        stored ∈ w.passed ∨ Awaited w scope stored := by
  obtain ⟨objects, passed⟩ := pollPages_finished (startPoll_anchored w scope limit) finished
  have same : ∀ stored, Live after stored ↔ Live w stored := fun _ => live_congr objects
  constructor
  · intro complete stored live inside
    rw [awaited_iff_due limit live inside, ← passed]
    exact complete stored ((same stored).mpr live) inside
  intro awaited stored live inside
  have now := (same stored).mp live
  rw [passed, ← awaited_iff_due limit now inside]
  exact awaited stored now inside

def firstUpsert : World Nat Nat Nat :=
  step (World.fresh 0 ⟨false, false⟩) (.upsert 1 7 0 0)

theorem polling_complete_first :
    (pollConnectorKind firstUpsert (some 7) 10 [.served]).2 = true
      ∧ Complete (pollConnectorKind firstUpsert (some 7) 10 [.served]).1 (some 7) := by
  have finished : (pollConnectorKind firstUpsert (some 7) 10 [.served]).2 = true := by decide
  refine ⟨finished,
    (polling_complete firstUpsert _ (some 7) 10 [.served] (Prod.ext rfl finished)).mpr ?_⟩
  intro _ _ _
  exact .inr fun time known => by cases known

def tiedUpsert : World Nat Nat Nat :=
  run step firstUpsert [.poll (some 7) 10 [.served], .upsert 2 7 0 1]

/-- **An object with the stamp of the watermark is missed**: the poll ends without an error and
object 2 has not been handed over. -/
theorem tied_upsert_missed :
    (pollConnectorKind tiedUpsert (some 7) 10 [.served]).2 = true
      ∧ ¬ Complete (pollConnectorKind tiedUpsert (some 7) 10 [.served]).1 (some 7) := by
  refine ⟨by decide, fun complete => ?_⟩
  have handed := complete ⟨2, 7, 0, 0, 1, false⟩ ⟨⟨2, by decide⟩, rfl⟩ (by decide)
  revert handed
  decide

/-! ### Along a run -/

section

variable (connector : κ) (w : World ι κ β)

/-- The object is still to be listed: it is newer than the watermark, or in the rest of the listing
whose cursor is stored, or newer than both. -/
def Ahead (stored : StoredObject ι κ β) : Prop :=
  match watermarkCursor (w.mark connector) with
  | none => Newer (watermarkTime (w.mark connector)) stored
  | some cursor => InChain w.source.cursorPages cursor stored
      ∨ Newer (watermarkTime (w.mark connector)) stored
        ∧ ∀ item, InChain w.source.cursorPages cursor item →
          item.sourceUpdatedAt < stored.sourceUpdatedAt

/-- **The checkpoint and the items passed**: what is not handed over is still to be listed. -/
def Linked : Prop :=
  ∀ stored, Live w stored → stored.connector = connector →
    stored ∈ w.passed ∨ Ahead connector w stored

/-- **A timely step**: no object is stored with a stamp that the checkpoint has reached, and polls
are polls of the connector. -/
def Timely : Label ι κ β → Prop
  | .upsert objectId owner body token => owner = connector →
      Ahead connector w ⟨objectId, owner, body, w.source.clock, token, false⟩
  | .poll scope _ _ => scope = some connector
  | _ => True

/-- A poll of the connector, between two rounds. -/
structure Polls (poll : Poll ι κ β) : Prop where
  linked : Linked connector w
  mine : poll.connector = some connector
  asked : poll.request.connector = some connector
  known : poll.known.watermark = w.mark connector
  cursor : poll.cursor = watermarkCursor (w.mark connector)
  time : poll.request.updatedAfter = watermarkTime (w.mark connector)

end

section

variable {connector : κ} {w after : World ι κ β} {poll : Poll ι κ β}

omit [DecidableEq κ] [DecidableEq β] in
/-- What neither moves the checkpoint nor touches the stored listing keeps the link. -/
theorem Linked.frame (linked : Linked connector w)
    (live : ∀ stored, Live after stored → stored.connector = connector →
      Live w stored ∨ Ahead connector w stored)
    (passed : w.passed ⊆ after.passed) (mark : after.mark = w.mark)
    (pages : watermarkCursor (w.mark connector) = none
      ∨ after.source.cursorPages = w.source.cursorPages) : Linked connector after := by
  intro stored there mine
  have same : Ahead connector after stored ↔ Ahead connector w stored := by
    unfold Ahead
    rw [mark]
    obtain absent | pages := pages
    · rw [absent]
    · rw [pages]
  rw [same]
  obtain before | ahead := live stored there mine
  · exact (linked stored before mine).imp_left (passed ·)
  · exact .inr ahead

omit [LinearOrder ι] [DecidableEq κ] [DecidableEq β] in
/-- The next watermark stays below what is newer than the last one and than the page. -/
theorem newer_next {page : CursorPage ι κ β} {stored : StoredObject ι κ β}
    (newer : Newer (watermarkTime poll.known.watermark) stored)
    (later : ∀ item ∈ page.frozenItems, item.sourceUpdatedAt < stored.sourceUpdatedAt) :
    Newer (poll.next page).updatedAfter stored := by
  unfold Poll.next nextWatermark
  split_ifs
  · exact newer
  · exact newer
  intro time known
  obtain kept | highest := Polling.laterUpdatedAfter_eq_some known
  · exact newer time kept
  · obtain ⟨item, mem, same⟩ := List.mem_filterMap.mp (List.max?_mem highest)
    exact Option.some.inj same ▸ later item mem

/-- **A committed page keeps the link**: what was due is handed over with it or left in the rest of
its listing. -/
theorem Polls.commit (polls : Polls connector w poll) {page : CursorPage ι κ β}
    (handed : Handed w poll page after) : Linked connector after := by
  intro stored live mine
  obtain ⟨listed, passed, mark⟩ := handed
  have mark := mark polls.mine
  have before := (live_congr (listObjects_source listed).1).mp live
  have due := fun item => listObjects_due item listed
  have follows : watermarkCursor (after.mark connector) = page.next := by
    rw [mark]
    rfl
  rw [passed, List.mem_append, or_assoc]
  refine (polls.linked stored before mine).imp_right fun ahead => ?_
  have reached : Due w.source poll.request poll.cursor stored →
      stored ∈ page.frozenItems ∨ Ahead connector after stored := by
    rw [due]
    refine Or.imp_right fun ⟨next, more, chain⟩ => ?_
    unfold Ahead
    rw [follows, more]
    exact .inl chain
  have cursor := polls.cursor
  unfold Ahead at ahead
  split at ahead
  case h_1 fresh =>
    refine reached ?_
    rw [cursor, fresh]
    refine mem_sortedObjects.mpr ⟨before.1, before.2, fun wanted asked => ?_, polls.time ▸ ahead⟩
    exact mine.trans (Option.some.inj (polls.asked.symm.trans asked))
  case h_2 rest =>
    rw [cursor, rest] at due reached
    obtain chain | ⟨newer, later⟩ := ahead
    · exact reached chain
    rw [← polls.known] at newer
    have next := newer_next newer fun item mem => later item ((due item).mpr (.inl mem))
    right
    unfold Ahead
    rw [follows, mark]
    split
    · exact next
    · refine .inr ⟨next, fun item chain => later item ((due item).mpr (.inr ⟨_, ?_, chain⟩))⟩
      assumption

theorem pollPages_linked {fates : List Fate} (polls : Polls connector w poll) :
    Linked connector (pollPages fates w poll).1 := by
  induction fates generalizing w poll with
  | nil => exact polls.linked
  | cons fate _ ih =>
    unfold pollPages
    have move := pollPage_move fate w poll
    generalize pollPage fate w poll = result at move ⊢
    cases move with
    | failed _ source passed marks =>
      refine polls.linked.frame (fun stored live _ => .inl ((live_congr source.1).mp live)) passed
        marks ?_
      rw [← polls.cursor]
      exact source.2
    | last _ _ handed => exact polls.commit handed
    | more _ page own _ handed follows mine =>
      obtain rfl := mine connector polls.mine
      have mark := handed.mark polls.mine
      refine ih ⟨polls.commit handed, rfl, polls.asked, mark.symm, ?_, ?_⟩
      · rw [mark]
        rfl
      · rw [polls.time, ← polls.known, mark]
        simp [watermarkTime, Poll.next, nextWatermark, sourcePage, follows]

theorem step_linked (label : Label ι κ β) (linked : Linked connector w)
    (timely : Timely connector w label) : Linked connector (step w label) := by
  cases label with
  | upsert =>
    refine linked.frame ?_ (List.Subset.refl _) rfl (.inr rfl)
    rintro stored ⟨⟨id, found⟩, kept⟩ mine
    rw [step, MockXDRState.upsertObject, Table.get_set] at found
    split_ifs at found
    · cases found
      exact .inr (timely mine)
    · exact .inl ⟨⟨id, found⟩, kept⟩
  | delete =>
    refine linked.frame ?_ (List.Subset.refl _) rfl (.inr rfl)
    rintro stored ⟨⟨id, found⟩, kept⟩ -
    rw [step, MockXDRState.deleteObject, Table.get_modify] at found
    split_ifs at found
    · obtain ⟨_, -, rfl⟩ := Option.map_eq_some_iff.mp found
      cases kept
    · exact .inl ⟨⟨id, found⟩, kept⟩
  | advanceClock =>
    rw [step, MockXDRState.advanceClock]
    split_ifs
    · exact linked
    · exact linked.frame (fun _ live _ => .inl live) (List.Subset.refl _) rfl (.inr rfl)
  | markDown =>
    exact linked.frame (fun _ live _ => .inl live) (List.Subset.refl _) (mark_markKind ..)
      (.inr rfl)
  | poll =>
    obtain rfl : _ = some connector := timely
    exact pollPages_linked ⟨linked, rfl, rfl, rfl, rfl, rfl⟩

end

/-- **Polling along a run.** Along every sequence of upserts, deletions, clock moves and polls of
the connector, with any page sizes, faults and interruptions, in which no object of it is stored
with a stamp that the checkpoint has reached: every live object has been handed over, or is still to
be listed, and where no cursor is stored, it is what the next poll returns. -/
theorem run_linked (clock : Int) (profile : FailureProfile) (labels : List (Label ι κ β))
    (connector : κ)
    (timely : Along step (Timely connector) (World.fresh clock profile) labels) :
    Linked connector (run step (World.fresh clock profile) labels) := by
  refine run_invariant (Timely connector) (Linked connector)
    (fun _ label => step_linked label) ?_ timely
  rintro _ ⟨⟨_, found⟩, -⟩
  cases found

end ShadowTrace.Ingester
