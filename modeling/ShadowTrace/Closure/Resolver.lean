/-
**The terminal disposition resolver** (`app/services/terminal_disposition_resolver.py`).

The resolver maps the verdict and the verification of an event to the disposition that is written
back. It reads the approved dispositions of the deferred action as a set, in an order of preference
of its own; the gate in front of `CLOSED` compares what was written with the *first* approved
disposition (`approvedDisposition`).
-/

import ShadowTrace.Models.EventFlow

namespace ShadowTrace.Closure

open Fallible

/-- Why there is no terminal disposition. -/
inductive SkippedReason
  | terminalNotInApprovedSet | capabilityBlocked | verdictNotTerminal

structure ResolveResult where
  disposition : Option SourceDisposition := none
  skippedReason : Option SkippedReason := none
  needManualResolution : Bool := false

section

variable (approved : List SourceDisposition)

def prefer (preferences : List SourceDisposition) : Option SourceDisposition :=
  preferences.find? fun disposition => disposition ∈ approved

/-- A skipped effect that does not speak against containment. -/
def threatNonBlocking (item : VerificationActionResult) : Bool :=
  item.skippedWith .nonVerifiableAction || item.skippedWith .writebackNotApplicable

def containmentTerminal (verification : VerificationResult) (approved : List SourceDisposition) :
    Option SourceDisposition :=
  let rawApplicable := applicableEffectResults (some verification)
  let applicable := rawApplicable.filter fun item => !threatNonBlocking item
  if !rawApplicable.isEmpty && applicable.isEmpty then none
  else if applicable.any fun item => item.effectStatus == .failed then
    prefer approved [.suspended]
  else if !applicable.isEmpty && !applicable.all fun item => item.effectStatus == .verified then
    prefer approved [.suspended]
  else prefer approved [.contained, .completed]

def threatTerminal (verification : Option VerificationResult)
    (approved : List SourceDisposition) : Option SourceDisposition :=
  match verification with
  | none => none
  | some result =>
    if result.needActionReplan || result.needManualResolution then none
    else if hasImmediateEffectPending (some result) then none
    else match result.overallStatus with
      | .partialDone => prefer approved [.suspended]
      | .success => containmentTerminal result approved
      | .failed | .waiting | .manualResolution => none

def capabilityBlocked : WritebackReadiness → Bool
  | .capabilityUnsupported | .capabilityUnknown | .notConfigured => true
  | _ => false

/-- What the resolver looks at. -/
structure ResolveInput where
  finalVerdict : FinalVerdict
  verification : Option VerificationResult
  dispositionOnly : Bool
  dispositionPolicy : DispositionPolicy
  writebackReadiness : WritebackReadiness
  eventDispositionSupported : Bool

def approvedResult (disposition : SourceDisposition) : ResolveResult :=
  if disposition ∈ approved then { disposition := some disposition }
  else { skippedReason := some .terminalNotInApprovedSet }

def resolveDispositionOnly (verdict : FinalVerdict) (approved : List SourceDisposition) :
    ResolveResult :=
  match verdict with
  | .falsePositive => approvedResult approved .ignored
  | .none | .possibleFalsePositive =>
    { skippedReason := some .verdictNotTerminal, needManualResolution := true }
  | .confirmedThreat => { needManualResolution := true }

def resolveEffects (verdict : FinalVerdict) (verification : Option VerificationResult)
    (approved : List SourceDisposition) : ResolveResult :=
  match verdict with
  | .falsePositive =>
    if hasImmediateEffectPending verification then { needManualResolution := true }
    else if hasUnverifiedApplicableEffects verification then { needManualResolution := true }
    else approvedResult approved .ignored
  | .confirmedThreat =>
    match threatTerminal verification approved with
    | none => { needManualResolution := true }
    | some resolved => approvedResult approved resolved
  | .none | .possibleFalsePositive =>
    { skippedReason := some .verdictNotTerminal, needManualResolution := true }

def resolve (input : ResolveInput) (approved : List SourceDisposition) : ResolveResult :=
  if input.dispositionPolicy = .notRequired then {}
  else if !input.eventDispositionSupported || capabilityBlocked input.writebackReadiness then
    { skippedReason := some .capabilityBlocked }
  else if input.dispositionOnly then resolveDispositionOnly input.finalVerdict approved
  else resolveEffects input.finalVerdict input.verification approved

/-- The approved disposition that the view of the gate shows: the first of the action's list. -/
def approvedDisposition : SourceDisposition :=
  approved.head?.getD .pending

/-- The gate accepts a confirmed terminal writeback with this disposition, as far as the match of
dispositions goes. -/
def gateMatches (actual : SourceDisposition) : Prop :=
  checkDispositionMatch (approvedDisposition approved) actual = .ok ()

/-! ### What the resolver can choose -/

/-- The dispositions the resolver knows: `completed` only where `contained` is not preferred to it.
-/
def eligible : SourceDisposition → Bool
  | .ignored | .suspended | .contained => true
  | .completed => decide (SourceDisposition.contained ∉ approved)
  | .pending | .processing | .unknown => false

def choosable (disposition : SourceDisposition) : Bool :=
  decide (disposition ∈ approved) && eligible approved disposition

end

section Choices

variable {approved : List SourceDisposition} {disposition : SourceDisposition}

theorem approvedResult_eq {resolved : SourceDisposition}
    (chosen : (approvedResult approved resolved).disposition = some disposition) :
    disposition = resolved ∧ resolved ∈ approved := by
  unfold approvedResult at chosen
  split_ifs at chosen with mem
  exact ⟨(Option.some.inj chosen).symm, mem⟩

theorem prefer_suspended (chosen : prefer approved [.suspended] = some disposition) :
    choosable approved disposition = true := by
  have holds := List.find?_some chosen
  have mem := List.mem_of_find?_eq_some chosen
  obtain rfl := List.mem_singleton.mp mem
  simpa [choosable, eligible] using holds

theorem prefer_contained (chosen : prefer approved [.contained, .completed] = some disposition) :
    choosable approved disposition = true := by
  unfold prefer at chosen
  by_cases contained : SourceDisposition.contained ∈ approved
  · rw [List.find?_cons_of_pos (by simpa using contained)] at chosen
    cases chosen
    simpa [choosable, eligible] using contained
  rw [List.find?_cons_of_neg (by simpa using contained)] at chosen
  have holds := List.find?_some chosen
  obtain rfl := List.mem_singleton.mp (List.mem_of_find?_eq_some chosen)
  simpa [choosable, eligible, contained] using holds

theorem threatTerminal_choosable {verification : Option VerificationResult}
    (chosen : threatTerminal verification approved = some disposition) :
    choosable approved disposition = true := by
  cases verification with
  | none => cases chosen
  | some result =>
    simp only [threatTerminal] at chosen
    split_ifs at chosen
    cases overall : result.overallStatus with
    | partialDone =>
      rw [overall] at chosen
      exact prefer_suspended chosen
    | success =>
      rw [overall] at chosen
      simp only [containmentTerminal] at chosen
      split_ifs at chosen
      iterate 2 exact prefer_suspended chosen
      · exact prefer_contained chosen
    | failed | waiting | manualResolution =>
      rw [overall] at chosen
      cases chosen

theorem approvedResult_ignored
    (chosen : (approvedResult approved .ignored).disposition = some disposition) :
    choosable approved disposition = true := by
  obtain ⟨rfl, mem⟩ := approvedResult_eq chosen
  simpa [choosable, eligible] using mem

/-- **The resolver chooses among the approved dispositions.** -/
theorem resolve_subset {input : ResolveInput}
    (chosen : (resolve input approved).disposition = some disposition) :
    choosable approved disposition = true := by
  unfold resolve at chosen
  split_ifs at chosen with free blocked only
  · unfold resolveDispositionOnly at chosen
    split at chosen
    · exact approvedResult_ignored chosen
    all_goals cases chosen
  unfold resolveEffects at chosen
  split at chosen
  · split_ifs at chosen
    exact approvedResult_ignored chosen
  · split at chosen
    · cases chosen
    · rename_i found
      obtain ⟨rfl, -⟩ := approvedResult_eq chosen
      exact threatTerminal_choosable found
  · cases chosen
  · cases chosen

def emptyVerification (status : VerificationOverallStatus) : VerificationResult where
  results := []
  overallStatus := status
  failedActions := []
  recoverableWritebackIds := []
  pendingWritebackActionIds := []
  blockedWritebacks := []
  needActionReplan := false
  needWritebackRecovery := false
  needManualResolution := false
  verificationPhase := .effect
  deferredNotFailed := List.forall_mem_nil _

def resolvable (verdict : FinalVerdict) (status : VerificationOverallStatus) : ResolveInput where
  finalVerdict := verdict
  verification := some (emptyVerification status)
  dispositionOnly := false
  dispositionPolicy := .required
  writebackReadiness := .ready
  eventDispositionSupported := true

theorem resolve_threat (status : VerificationOverallStatus) (mem : disposition ∈ approved)
    (chosen : threatTerminal (some (emptyVerification status)) approved = some disposition) :
    ∃ input, (resolve input approved).disposition = some disposition := by
  refine ⟨resolvable .confirmedThreat status, ?_⟩
  simp only [resolve, resolvable, resolveEffects, chosen, approvedResult, mem]
  rfl

/-- **And it chooses each of these**, for a verdict and a verification that ask for it. -/
theorem resolve_reaches (choice : choosable approved disposition = true) :
    ∃ input, (resolve input approved).disposition = some disposition := by
  rw [choosable, Bool.and_eq_true, decide_eq_true_eq] at choice
  obtain ⟨mem, kind⟩ := choice
  cases disposition with
  | ignored =>
    refine ⟨resolvable .falsePositive .success, ?_⟩
    show (approvedResult approved .ignored).disposition = some .ignored
    rw [approvedResult, if_pos mem]
  | suspended =>
    refine resolve_threat .partialDone mem ?_
    show prefer approved [.suspended] = some .suspended
    exact List.find?_cons_of_pos (by simpa using mem)
  | contained =>
    refine resolve_threat .success mem ?_
    show prefer approved [.contained, .completed] = some .contained
    exact List.find?_cons_of_pos (by simpa using mem)
  | completed =>
    have preferred : SourceDisposition.contained ∉ approved := of_decide_eq_true kind
    refine resolve_threat .success mem ?_
    show prefer approved [.contained, .completed] = some .completed
    rw [prefer, List.find?_cons_of_neg (by simpa using preferred)]
    exact List.find?_cons_of_pos (by simpa using mem)
  | pending | processing | unknown => cases kind

theorem gateMatches_iff (choice : choosable approved disposition = true) :
    gateMatches approved disposition ↔ approved.head? = some disposition := by
  have terminal : disposition ∈ terminalSourceDispositions := by
    rw [choosable, Bool.and_eq_true] at choice
    cases disposition <;> first | decide | cases choice.2
  simp only [gateMatches, checkDispositionMatch, check_bind, check_eq_ok, decide_eq_true_eq,
    beq_iff_eq]
  constructor
  · rintro ⟨approvedTerminal, -, same⟩
    cases head : approved.head? with
    | none =>
      rw [approvedDisposition, head] at approvedTerminal
      exact absurd approvedTerminal (by decide)
    | some => rw [same, approvedDisposition, head, Option.getD_some]
  · intro head
    rw [approvedDisposition, head, Option.getD_some]
    exact ⟨terminal, terminal, rfl⟩

end Choices

/-! ### Agreement -/

def firstOnly (approved : List SourceDisposition) : Bool :=
  approved.all fun disposition =>
    !choosable approved disposition || approved.head? == some disposition

/-- **Resolver and gate agree** on a list of approved dispositions, for every verdict and every
verification, iff nothing but its first member can be chosen from it. -/
theorem resolver_gate_agree (approved : List SourceDisposition) :
    (∀ input disposition, (resolve input approved).disposition = some disposition →
      gateMatches approved disposition) ↔ firstOnly approved = true := by
  simp only [firstOnly, List.all_eq_true, Bool.or_eq_true, beq_iff_eq]
  constructor
  · intro agree disposition _
    cases choice : choosable approved disposition with
    | false => exact .inl rfl
    | true =>
      obtain ⟨input, chosen⟩ := resolve_reaches choice
      exact .inr ((gateMatches_iff choice).mp (agree input disposition chosen))
  intro first _ disposition chosen
  have choice := resolve_subset chosen
  have mem : disposition ∈ approved := by
    rw [choosable, Bool.and_eq_true, decide_eq_true_eq] at choice
    exact choice.1
  obtain other | head := first disposition mem
  · rw [choice] at other
    cases other
  · exact (gateMatches_iff choice).mpr head

/-- **A partial containment cannot close.** With `contained` and `suspended` approved, a
verification that is partly done resolves to `suspended`; the gate then compares with `contained`.
-/
theorem suspended_not_matched :
    (resolve (resolvable .confirmedThreat .partialDone) [.contained, .suspended]).disposition
        = some .suspended
      ∧ ¬ gateMatches [.contained, .suspended] .suspended := by
  refine ⟨rfl, fun accepted => ?_⟩
  cases accepted

end ShadowTrace.Closure
