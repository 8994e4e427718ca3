/-
**Governance decisions** (`app/services/detection_governance_service.py`, and `promote_candidate` of
`app/services/detection_promotion_service.py`).

Decisions are appended and never changed. The active approval of a binding is computed at each look:
the records are sorted by the clock of the server that wrote them, an approval becomes active, its
revocation or expiry ends it. A withdrawal stamped before its approval is passed before there is
anything to end. `_is_superseded`, which guards the withdrawals themselves, has no such order.
-/

import Mathlib.Data.List.Sort
import ShadowTrace.Lib.Fallible
import ShadowTrace.Lib.Runs

namespace ShadowTrace.Governance

open Fallible Machine

/-! ### The records -/

inductive Kind
  | approve | reject | revoke | expire
  deriving DecidableEq

/-- What `compute_binding_hash` hashes; it stands for the hash. -/
structure Binding where
  tenantId : Nat
  artifactHash : Nat
  candidateSetHash : Nat
  candidateRefs : Nat
  manifestVersion : Nat
  policyVersion : Nat
  deriving DecidableEq

/-- A row of the decision log. -/
structure Decision where
  decisionId : Nat
  kind : Kind
  binding : Binding
  decidedAt : Int
  expiresAt : Option Int
  supersedes : Option Nat
  deriving DecidableEq

/-- A `DetectionEvaluationArtifact`; `computedHash` is the hash of its content. -/
structure Artifact where
  tenantId : Nat
  computedHash : Nat
  artifactHash : Nat
  candidateSetHash : Nat
  candidateRefs : Nat
  manifestVersion : Nat

/-- The decisions, and the ledger of promotions: the candidate and the decision of each key. -/
structure World where
  rows : List Decision
  ledger : List (Nat × Nat)

def policyVersion : Nat := 1

def defaultApprovalTtl : Int := 168

section

variable (w : World) (artifact : Artifact) (rows : List Decision) (now : Int)

def Artifact.binding : Binding :=
  ⟨artifact.tenantId, artifact.artifactHash, artifact.candidateSetHash, artifact.candidateRefs,
    artifact.manifestVersion, policyVersion⟩

def validateDecisionArtifactBinding (decision : Decision) (artifact : Artifact) : Bool :=
  artifact.computedHash = decision.binding.artifactHash &&
    artifact.artifactHash = decision.binding.artifactHash &&
    artifact.candidateSetHash = decision.binding.candidateSetHash &&
    artifact.candidateRefs = decision.binding.candidateRefs &&
    decision.binding.policyVersion = policyVersion

/-! ### The active approval -/

def Withdraws (record approval : Decision) : Prop :=
  (record.kind = .revoke ∨ record.kind = .expire) ∧ record.supersedes = some approval.decisionId

instance (record approval : Decision) : Decidable (Withdraws record approval) := by
  unfold Withdraws
  infer_instance

def isSuperseded (target : Decision) (chain : List Decision) : Bool :=
  chain.any fun record => Withdraws record target

def Decision.isExpired (decision : Decision) (now : Int) : Bool :=
  decision.expiresAt.any (· ≤ now)

def byTime (chain : List Decision) : List Decision :=
  chain.insertionSort fun first second => first.decidedAt ≤ second.decidedAt

def nextActive (active : Option Decision) (record : Decision) : Option Decision :=
  match record.kind with
  | .approve => if record.isExpired now then none else some record
  | .reject => none
  | .revoke | .expire =>
    if active.any fun approval => record.supersedes = some approval.decisionId then none else active

def resolveActiveApproval (chain : List Decision) (now : Int) : Option Decision :=
  (byTime chain).foldl (nextActive now) none

/-- **A listing of `list_decisions`** with `limit=200`: newest first, records with one stamp in any
order. -/
def Listed (binding : Binding) (shown : List Decision) : Prop :=
  ∃ all : List Decision, all.Perm (rows.filter (·.binding = binding)) ∧
    all.Pairwise (fun newer older => older.decidedAt ≤ newer.decidedAt) ∧ shown = all.take 200

/-! ### The operations -/

def insertDecision (kind : Kind) (binding : Binding) (decidedAt : Int) (expiresAt : Option Int)
    (supersedes : Option Nat) : List Decision :=
  rows ++ [⟨rows.length, kind, binding, decidedAt, expiresAt, supersedes⟩]

/-- `record_decision` for an approval, after its checks of the reviewer and the artifact: the rows
of the binding are read under a lock, in the order `chain`. -/
def approve (rows : List Decision) (artifact : Artifact) (decidedAt checkedAt : Int)
    (expiresAt : Option Int) (chain : List Decision) : List Decision :=
  if (resolveActiveApproval chain checkedAt).isSome then rows
  else insertDecision rows .approve artifact.binding decidedAt
    (some (expiresAt.getD (decidedAt + defaultApprovalTtl))) none

def revokeDecision (target : Decision) (decidedAt : Int) (chain : List Decision) : List Decision :=
  if target.kind ≠ .approve ∨ isSuperseded target chain ∨
      (resolveActiveApproval chain decidedAt).map (·.decisionId) ≠ some target.decisionId then rows
  else insertDecision rows .revoke target.binding decidedAt none (some target.decisionId)

/-- One record of the loop of `expire_active_approvals`: the chain so far and the rows. -/
def expireRecord (state : List Decision × List Decision) (record : Decision) :
    List Decision × List Decision :=
  if record.kind = .approve ∧ record.isExpired now ∧ ¬isSuperseded record state.1 then
    let rows := insertDecision state.2 .expire record.binding now none (some record.decisionId)
    (state.1 ++ rows.drop state.2.length, rows)
  else state

def expireActiveApprovals (chain : List Decision) : List Decision :=
  ((byTime chain).foldl (expireRecord now) (chain, rows)).2

/-- Why the promotion gate refuses. -/
inductive Blocked
  | tenantMismatch | noActiveApproval | bindingMismatch | decisionNotFound | notAnApproval
  | candidateMismatch | packageMismatch
  deriving DecidableEq

def evaluatePromotionGate (shown : List Decision) (now : Int) : Except Blocked Nat :=
  match resolveActiveApproval shown now with
  | none => .error .noActiveApproval
  | some active =>
    if validateDecisionArtifactBinding active artifact then .ok active.decisionId
    else .error .bindingMismatch

/-- A `DetectionPromotionRequest`; an empty `decision_id` is `none`. -/
structure PromotionRequest where
  tenantId : Nat
  candidate : Nat
  decisionId : Option Nat

/-- The checks of `promote_candidate` that do not look at decisions: the candidate against the
binding, and the package of a promotion that starts. -/
structure Checks where
  candidate : Bool
  package : Bool

/-- A promotion that starts, or that is found in the ledger and goes on. -/
structure Promotion where
  decisionId : Nat
  resumed : Bool
  deriving DecidableEq

def getDecision (decisionId tenantId : Nat) : Except Blocked Decision :=
  match rows.find? (·.decisionId = decisionId) with
  | some decision =>
    if decision.binding.tenantId = tenantId then .ok decision else .error .decisionNotFound
  | none => .error .decisionNotFound

def promoteCandidate (req : PromotionRequest) (shown : List Decision) (now : Int)
    (checks : Checks) : Except Blocked Promotion := do
  check (artifact.tenantId = req.tenantId) .tenantMismatch
  let active ← evaluatePromotionGate artifact shown now
  let decisionId := req.decisionId.getD active
  let decision ← getDecision w.rows decisionId req.tenantId
  check (decision.kind = .approve) .notAnApproval
  check (validateDecisionArtifactBinding decision artifact) .bindingMismatch
  check checks.candidate .candidateMismatch
  let resumed : Bool := (req.candidate, decisionId) ∈ w.ledger
  check (resumed || checks.package) .packageMismatch
  return ⟨decisionId, resumed⟩

/-- An append to the log, with what the caller has read before. -/
inductive Label
  | approve (artifact : Artifact) (decidedAt checkedAt : Int) (expiresAt : Option Int)
      (chain : List Decision)
  | reject (artifact : Artifact) (decidedAt : Int) (expiresAt : Option Int)
  | revoke (target : Decision) (decidedAt : Int) (chain : List Decision)
  | expire (binding : Binding) (now : Int) (chain : List Decision)
  | promote (artifact : Artifact) (req : PromotionRequest) (shown : List Decision) (now : Int)
      (checks : Checks)

def World.chain (binding : Binding) : List Decision :=
  w.rows.filter (·.binding = binding)

def step : Label → World
  | .approve artifact decidedAt checkedAt expiresAt chain =>
    if chain.Perm (w.chain artifact.binding) then
      { w with rows := approve w.rows artifact decidedAt checkedAt expiresAt chain }
    else w
  | .reject artifact decidedAt expiresAt =>
    { w with rows := insertDecision w.rows .reject artifact.binding decidedAt expiresAt none }
  | .revoke target decidedAt chain =>
    if target ∈ w.rows ∧ chain.Perm (w.chain target.binding) then
      { w with rows := revokeDecision w.rows target decidedAt chain }
    else w
  | .expire binding now chain =>
    if chain.Perm (w.chain binding) then { w with rows := expireActiveApprovals w.rows now chain }
    else w
  | .promote artifact req shown now checks =>
    match promoteCandidate w artifact req shown now checks with
    | .ok promotion => { w with ledger := (req.candidate, promotion.decisionId) :: w.ledger }
    | .error _ => w

end

/-! ### A withdrawal with a later stamp -/

section

variable {now : Int} {active : Option Decision} {approval record : Decision}

theorem nextActive_eq_some (result : nextActive now active record = some approval) :
    active = some approval ∨ record = approval := by
  unfold nextActive at result
  split at result
  · split_ifs at result
    exact .inr (Option.some.inj result)
  · cases result
  all_goals
    split_ifs at result
    exact .inl result

theorem foldl_nextActive_eq_some {records : List Decision}
    (result : records.foldl (nextActive now) active = some approval) :
    active = some approval ∨ approval ∈ records := by
  induction records generalizing active with
  | nil => exact .inl result
  | cons _ _ ih =>
    rcases ih result with now_active | later
    · rcases nextActive_eq_some now_active with before | same
      · exact .inl before
      · exact .inr (same ▸ List.mem_cons_self)
    · exact .inr (List.mem_cons_of_mem _ later)

theorem nextActive_ne (withdraws : Withdraws record approval) (distinct : record ≠ approval) :
    nextActive now active record ≠ some approval := by
  intro result
  rcases nextActive_eq_some result with before | same
  · obtain ⟨kind | kind, supersedes⟩ := withdraws
    all_goals simp [nextActive, kind, before, supersedes] at result
  · exact distinct same

/-- **A withdrawal with a later stamp ends its approval**, however the records are listed. -/
theorem resolveActiveApproval_ne {rows shown : List Decision} {binding : Binding}
    (listed : Listed rows binding shown) (present : record ∈ rows)
    (bound : record.binding = binding) (withdraws : Withdraws record approval)
    (later : approval.decidedAt < record.decidedAt) :
    resolveActiveApproval shown now ≠ some approval := by
  intro result
  obtain ⟨all, same, newest, rfl⟩ := listed
  have here : approval ∈ all.take 200 := by
    rcases foldl_nextActive_eq_some result with impossible | mem
    · cases impossible
    · exact (List.mem_insertionSort _).mp mem
  -- the listing shows the approval, so it shows the withdrawal, which is newer
  have shown : record ∈ all.take 200 := by
    have mem : record ∈ all := same.mem_iff.mpr (List.mem_filter.mpr ⟨present, by simpa⟩)
    rw [← List.take_append_drop 200 all] at mem newest
    rcases List.mem_append.mp mem with taken | dropped
    · exact taken
    · exact absurd ((List.pairwise_append.mp newest).2.2 _ here _ dropped) (not_le.mpr later)
  have sorted : (byTime (all.take 200)).Pairwise
      (fun first second => first.decidedAt ≤ second.decidedAt) := List.pairwise_insertionSort _ _
  have found : record ∈ byTime (all.take 200) := (List.mem_insertionSort _).mpr shown
  obtain ⟨_, _, order⟩ := List.append_of_mem found
  rw [resolveActiveApproval, order, List.foldl_append, List.foldl_cons] at result
  rw [order] at sorted
  have distinct : record ≠ approval := fun equal => lt_irrefl _ (equal ▸ later)
  rcases foldl_nextActive_eq_some result with ended | again
  · exact nextActive_ne withdraws distinct ended
  · have newer := (List.pairwise_append.mp sorted).2.1
    exact absurd (List.rel_of_pairwise_cons newer again) (not_le.mpr later)

end

/-! ### The clocks of a run -/

/-- **The records of a run.** Their ids are their places, and every withdrawal of an approval is of
its binding and has a later stamp. -/
structure Dated (rows : List Decision) : Prop where
  ids : rows.map (·.decisionId) = List.range rows.length
  known : ∀ record ∈ rows, ∀ id, record.supersedes = some id → id < rows.length
  later : ∀ record ∈ rows, ∀ approval ∈ rows, Withdraws record approval →
    record.binding = approval.binding ∧ approval.decidedAt < record.decidedAt

namespace Dated

variable {rows : List Decision}

theorem id_lt (dated : Dated rows) {record : Decision} (mem : record ∈ rows) :
    record.decisionId < rows.length := by
  have place : record.decisionId ∈ rows.map (·.decisionId) := List.mem_map_of_mem mem
  rw [dated.ids] at place
  exact List.mem_range.mp place

theorem eq_of_id (dated : Dated rows) {first second : Decision} (here : first ∈ rows)
    (there : second ∈ rows) (same : first.decisionId = second.decisionId) : first = second := by
  have distinct : (rows.map (·.decisionId)).Nodup := dated.ids ▸ List.nodup_range
  exact List.inj_on_of_nodup_map distinct here there same

theorem empty : Dated [] :=
  ⟨rfl, List.forall_mem_nil _, List.forall_mem_nil _⟩

/-- **One more record.** It withdraws nothing, or an approval of its binding that is older. -/
theorem insert (dated : Dated rows) (kind : Kind) (binding : Binding) (decidedAt : Int)
    (expiresAt : Option Int) {supersedes : Option Nat}
    (strict : ∀ id, supersedes = some id → ∃ approval ∈ rows, approval.decisionId = id ∧
      binding = approval.binding ∧ approval.decidedAt < decidedAt) :
    Dated (insertDecision rows kind binding decidedAt expiresAt supersedes) := by
  have before : ∀ id, supersedes = some id → id < rows.length := by
    intro id named
    obtain ⟨_, mem, rfl, -⟩ := strict id named
    exact dated.id_lt mem
  refine ⟨?_, ?_, ?_⟩
  · simp [insertDecision, dated.ids, List.range_succ]
  · intro record mem id named
    simp only [insertDecision, List.length_append]
    rcases List.mem_append.mp mem with old | new
    · exact Nat.lt_succ_of_lt (dated.known record old id named)
    · cases List.mem_singleton.mp new
      exact Nat.lt_succ_of_lt (before id named)
  intro record mem approval target withdraws
  rcases List.mem_append.mp mem with old | new <;>
    rcases List.mem_append.mp target with held | added
  · exact dated.later record old approval held withdraws
  · -- nothing names an id before its row exists
    cases List.mem_singleton.mp added
    exact absurd (dated.known record old _ withdraws.2) (lt_irrefl _)
  · cases List.mem_singleton.mp new
    obtain ⟨_, there, same, bound, earlier⟩ := strict _ withdraws.2
    cases dated.eq_of_id there held same
    exact ⟨bound, earlier⟩
  · cases List.mem_singleton.mp new
    cases List.mem_singleton.mp added
    exact absurd (before _ withdraws.2) (lt_irrefl _)

end Dated

/-- The clock of a withdrawal is ahead of the approvals it withdraws. -/
def Ordered (_ : World) : Label → Prop
  | .revoke target decidedAt _ => target.decidedAt < decidedAt
  | .expire _ now chain =>
    ∀ approval ∈ chain, approval.kind = .approve → approval.isExpired now →
      ¬isSuperseded approval chain → approval.decidedAt < now
  | _ => True

section Steps

variable {rows : List Decision}

theorem approve_dated (dated : Dated rows) (artifact : Artifact) (decidedAt checkedAt : Int)
    (expiresAt : Option Int) (chain : List Decision) :
    Dated (approve rows artifact decidedAt checkedAt expiresAt chain) := by
  unfold approve
  split_ifs
  · exact dated
  · exact dated.insert _ _ _ _ nofun

theorem revokeDecision_dated (dated : Dated rows) {target : Decision} (mem : target ∈ rows)
    {decidedAt : Int} (ahead : target.decidedAt < decidedAt) (chain : List Decision) :
    Dated (revokeDecision rows target decidedAt chain) := by
  unfold revokeDecision
  split_ifs
  · exact dated
  · refine dated.insert _ _ _ _ fun id named => ?_
    exact ⟨target, mem, Option.some.inj named, rfl, ahead⟩

variable {now : Int} {state : List Decision × List Decision}

theorem expireRecord_dated (dated : Dated state.2) {record : Decision} (mem : record ∈ state.2)
    (ahead : record.kind = .approve → record.isExpired now → ¬isSuperseded record state.1 →
      record.decidedAt < now) :
    Dated (expireRecord now state record).2 := by
  unfold expireRecord
  split_ifs with expires
  · refine dated.insert _ _ _ _ fun id named => ?_
    exact ⟨record, mem, Option.some.inj named, rfl, ahead expires.1 expires.2.1 expires.2.2⟩
  · exact dated

theorem expireRecord_subset (record : Decision) :
    state.1 ⊆ (expireRecord now state record).1 ∧ state.2 ⊆ (expireRecord now state record).2 := by
  unfold expireRecord
  split_ifs
  · exact ⟨List.subset_append_left _ _, List.subset_append_left _ _⟩
  · exact ⟨List.Subset.refl _, List.Subset.refl _⟩

theorem isSuperseded_mono {target : Decision} {chain longer : List Decision}
    (within : chain ⊆ longer) (withdrawn : isSuperseded target chain) :
    isSuperseded target longer := by
  obtain ⟨record, mem, withdraws⟩ := List.any_eq_true.mp withdrawn
  exact List.any_eq_true.mpr ⟨record, within mem, withdraws⟩

theorem foldl_expireRecord_dated {chain records : List Decision}
    (ahead : ∀ record ∈ records, record.kind = .approve → record.isExpired now →
      ¬isSuperseded record chain → record.decidedAt < now)
    (grown : chain ⊆ state.1) (dated : Dated state.2) (held : records ⊆ state.2) :
    Dated (records.foldl (expireRecord now) state).2 := by
  induction records generalizing state with
  | nil => exact dated
  | cons record rest ih =>
    obtain ⟨chains, grows⟩ := @expireRecord_subset now state record
    refine ih (fun other mem => ahead other (List.mem_cons_of_mem _ mem))
      (fun _ mem => chains (grown mem)) ?_
      fun other mem => grows (held (List.mem_cons_of_mem _ mem))
    refine expireRecord_dated dated (held List.mem_cons_self) fun approves expired live => ?_
    exact ahead record List.mem_cons_self approves expired fun withdrawn =>
      live (isSuperseded_mono grown withdrawn)

theorem step_dated (w : World) (label : Label) (dated : Dated w.rows)
    (ordered : Ordered w label) : Dated (step w label).rows := by
  cases label with
  | approve =>
    simp only [step]
    split_ifs
    · exact approve_dated dated ..
    · exact dated
  | reject => exact dated.insert _ _ _ _ nofun
  | revoke _ _ chain =>
    simp only [step]
    split_ifs with reads
    · exact revokeDecision_dated dated reads.1 ordered chain
    · exact dated
  | expire _ _ chain =>
    simp only [step]
    split_ifs with reads
    · have held : byTime chain ⊆ w.rows := fun record mem =>
        (List.mem_filter.mp (reads.subset ((List.mem_insertionSort _).mp mem))).1
      refine foldl_expireRecord_dated (fun record mem => ?_) (List.Subset.refl _) dated held
      exact ordered record ((List.mem_insertionSort _).mp mem)
    · exact dated
  | promote =>
    simp only [step]
    split <;> exact dated

end Steps

/-! ### The gate -/

section

variable (w : World) (artifact : Artifact)

/-- No listing shows a withdrawn approval as active. -/
def StaysWithdrawn : Prop :=
  ∀ approval ∈ w.rows, (∃ record ∈ w.rows, Withdraws record approval) →
    ∀ shown now, Listed w.rows approval.binding shown →
      resolveActiveApproval shown now ≠ some approval

/-- **A promotion runs under the active approval** of the moment of its gate. -/
def PromotesActive (req : PromotionRequest) (shown : List Decision) (now : Int) : Prop :=
  ∀ checks promotion,
    promoteCandidate w artifact req shown now checks = .ok promotion →
      (resolveActiveApproval shown now).map (·.decisionId) = some promotion.decisionId

def Approves (id : Nat) : Prop :=
  ∃ decision, getDecision w.rows id artifact.tenantId = .ok decision ∧
    decision.kind = .approve ∧ validateDecisionArtifactBinding decision artifact = true

def NamesNoOther (req : PromotionRequest) (shown : List Decision) (now : Int) : Prop :=
  ∀ active other, evaluatePromotionGate artifact shown now = .ok active →
    artifact.tenantId = req.tenantId → req.decisionId = some other →
    Approves w artifact other → other = active

end

section Gate

variable {w : World} {artifact : Artifact} {req : PromotionRequest} {shown : List Decision}
  {now : Int}

theorem evaluatePromotionGate_eq_ok {active : Nat}
    (allowed : evaluatePromotionGate artifact shown now = .ok active) :
    (resolveActiveApproval shown now).map (·.decisionId) = some active := by
  unfold evaluatePromotionGate at allowed
  split at allowed
  · cases allowed
  next found =>
  split_ifs at allowed
  cases allowed
  rw [found, Option.map_some]

theorem promoteCandidate_eq_ok {checks : Checks} {promotion : Promotion}
    (promoted : promoteCandidate w artifact req shown now checks = .ok promotion) :
    artifact.tenantId = req.tenantId ∧
      ∃ active, evaluatePromotionGate artifact shown now = .ok active ∧
        promotion.decisionId = req.decisionId.getD active ∧
        Approves w artifact promotion.decisionId := by
  rw [promoteCandidate] at promoted
  simp only [↓check_bind, bind_eq_ok, pure_eq_ok, decide_eq_true_eq] at promoted
  obtain ⟨tenant, active, allowed, decision, found, approves, bound, _, _, rfl⟩ := promoted
  exact ⟨tenant, active, allowed, rfl, decision, tenant ▸ found, approves, bound⟩

theorem promoteCandidate_named {active other : Nat}
    (allowed : evaluatePromotionGate artifact shown now = .ok active)
    (tenant : artifact.tenantId = req.tenantId) (named : req.decisionId = some other)
    (approves : Approves w artifact other) :
    promoteCandidate w artifact req shown now ⟨true, true⟩ =
      .ok ⟨other, (req.candidate, other) ∈ w.ledger⟩ := by
  obtain ⟨decision, found, kind, bound⟩ := approves
  rw [promoteCandidate]
  simp only [↓check_bind, bind_eq_ok, pure_eq_ok, decide_eq_true_eq]
  refine ⟨tenant, active, allowed, decision, ?_, kind, bound, trivial, Bool.or_true _, ?_⟩
  · rw [named, Option.getD_some, ← tenant, found]
  · rw [named, Option.getD_some]

theorem promotesActive_iff :
    PromotesActive w artifact req shown now ↔ NamesNoOther w artifact req shown now := by
  constructor
  · intro runs _ _ allowed tenant named approves
    have under := runs ⟨true, true⟩ _ (promoteCandidate_named allowed tenant named approves)
    rw [evaluatePromotionGate_eq_ok allowed] at under
    exact (Option.some.inj under).symm
  intro names _ _ promoted
  obtain ⟨tenant, active, allowed, chosen, approves⟩ := promoteCandidate_eq_ok promoted
  rw [evaluatePromotionGate_eq_ok allowed, chosen]
  cases named : req.decisionId with
  | none => rfl
  | some other =>
    rw [chosen, named] at approves
    exact congrArg some (names active other allowed tenant named approves).symm

end Gate

/-- **Withdrawn approvals stay withdrawn.** On every run whose withdrawals are stamped after their
approvals no withdrawn approval is active again; and a promotion runs under the active approval
exactly if its request names no other approval of the artifact. -/
theorem withdrawn_approvals_governed (labels : List Label)
    (ordered : Along step Ordered ⟨[], []⟩ labels) :
    StaysWithdrawn (run step ⟨[], []⟩ labels) ∧
      ∀ artifact req shown now,
        PromotesActive (run step ⟨[], []⟩ labels) artifact req shown now ↔
          NamesNoOther (run step ⟨[], []⟩ labels) artifact req shown now := by
  have dated := run_invariant Ordered (fun w => Dated w.rows) step_dated Dated.empty ordered
  refine ⟨fun approval held ⟨record, mem, withdraws⟩ shown now listed => ?_,
    fun _ _ _ _ => promotesActive_iff⟩
  obtain ⟨bound, later⟩ := dated.later record mem approval held withdraws
  exact resolveActiveApproval_ne listed mem bound withdraws later

def sampleArtifact : Artifact := ⟨1, 7, 7, 3, 3, 1⟩

def sampleApproval : Decision := ⟨0, .approve, sampleArtifact.binding, 10, some 100, none⟩

/-- An approval, and its revocation by a server whose clock shows `revokedAt`. -/
def revokedAt (decidedAt : Int) : List Label :=
  [.approve sampleArtifact 10 10 (some 100) [], .revoke sampleApproval decidedAt [sampleApproval]]

theorem withdrawn_approvals_governed_revoked :
    StaysWithdrawn (run step ⟨[], []⟩ (revokedAt 11)) :=
  (withdrawn_approvals_governed (revokedAt 11) ⟨trivial, (by decide : (10 : Int) < 11), trivial⟩).1

/-- A revocation by a clock that is behind leaves the approval active; and with a second approval
active, a promotion that names the first one runs under it. -/
theorem revoked_approval_active :
    ¬StaysWithdrawn (run step ⟨[], []⟩ (revokedAt 9)) ∧
      ¬PromotesActive
        ⟨[sampleApproval, ⟨1, .revoke, sampleArtifact.binding, 11, none, some 0⟩,
          ⟨2, .approve, sampleArtifact.binding, 12, some 100, none⟩], []⟩
        sampleArtifact ⟨1, 5, some 0⟩
        [⟨2, .approve, sampleArtifact.binding, 12, some 100, none⟩,
          ⟨1, .revoke, sampleArtifact.binding, 11, none, some 0⟩, sampleApproval] 20 := by
  constructor
  · intro stays
    have listed : Listed (run step ⟨[], []⟩ (revokedAt 9)).rows sampleApproval.binding
        [sampleApproval, ⟨1, .revoke, sampleArtifact.binding, 9, none, some 0⟩] :=
      ⟨_, .refl _, by decide, rfl⟩
    exact stays sampleApproval (by decide) ⟨_, .tail _ (.head _), by decide⟩ _ 20 listed (by decide)
  · intro runs
    exact absurd (runs ⟨true, true⟩ ⟨0, false⟩ (by decide)) (by decide)

end ShadowTrace.Governance
