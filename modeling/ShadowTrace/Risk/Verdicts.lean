/-
**The published verdict of the risk agent** (`app/agents/risk_agent.py`, `verdict_resolver.py`).

The agent scores the alert, resolves a verdict beside the false-positive inputs it has read, and
demotes and marks a confirmed threat that rests on no evidence. Publication reads those inputs again
and resolves once more. The assessment that scoring hands over and every single read are arbitrary.
-/

import ShadowTrace.Models.Enums
import ShadowTrace.Models.Json

namespace ShadowTrace.Risk

inductive ScoringMode
  | llmAndRule | ruleOnly
  deriving DecidableEq

structure RiskAssessment where
  riskScore : Int
  confidence : Rat
  possibleFalsePositive : Bool
  scoringMode : ScoringMode
  evidenceLimited : Bool
  highSourceEvidenceLimited : Bool
  verdictReasonCodes : List String := []

/-- One round of working-memory reads; `none` is a failed read. -/
structure Reads where
  falsePositiveMatch : Option Json
  fpAdjudication : Option Json

def dictOnly (value : Option Json) : Option Json.Fields := value.bind Json.asDict

section Agent

-- `fpSimilarity` is `rag_output.fp_similarity.max_score` where both are there
variable (texts : Texts) (fpSimilarity : Option Rat) {assessment : RiskAssessment}

/-! ### The resolver -/

/-- `str(adjudication.get("recommendation") or "").strip().lower() == "close_as_fp"`. -/
def closesAsFp (adjudication : Option Json.Fields) : Bool :=
  let recommendation := Json.get (adjudication.getD []) "recommendation"
  lower (strip (if recommendation.truthy then recommendation.text texts else "")) == "close_as_fp"

def above : Option Rat → Option Rat → Bool
  | some left, some right => right < left
  | _, _ => false

def fpScore (fpMatch : Json.Fields) : Option Rat :=
  let candidates := (["max_score", "score", "confidence"].filterMap fun key =>
    (Json.get fpMatch key).toFloat texts) ++ (fpSimilarity.map some).toList
  match candidates with
  | [] => some 0
  | first :: rest => rest.foldl (fun best next => if above next best then next else best) first

def nearThresholdConfirmed (assessment : RiskAssessment) : Bool :=
  decide (70 - 8 ≤ assessment.riskScore) &&
    !(assessment.possibleFalsePositive || assessment.evidenceLimited) &&
    assessment.scoringMode == .llmAndRule && decide (3 / 4 ≤ assessment.confidence)

def blocksAutoFpClose (assessment : RiskAssessment) : Bool :=
  assessment.evidenceLimited && assessment.highSourceEvidenceLimited

def possibleFp (fpMatch : Option Json.Fields) : Bool :=
  (fpScore texts fpSimilarity (fpMatch.getD [])).any fun score => decide (7 / 10 ≤ score)

def resolve (assessment : RiskAssessment) (reads : Reads) : FinalVerdict :=
  if closesAsFp texts (dictOnly reads.fpAdjudication) then
    if blocksAutoFpClose assessment then .none else .falsePositive
  else if possibleFp texts fpSimilarity (dictOnly reads.falsePositiveMatch) then
    .possibleFalsePositive
  else if 70 ≤ assessment.riskScore then .confirmedThreat
  else if nearThresholdConfirmed assessment then .confirmedThreat
  else .none

/-! ### The agent -/

def demotedFromConfirmedThreat : String := "evidence_limited_demoted_from_confirmed_threat"

/-- The end of `_run`: a confirmed threat without evidence is demoted, and the demotion recorded. -/
def run (provisional : RiskAssessment) (reads : Reads) : RiskAssessment :=
  { provisional with
    verdictReasonCodes :=
      if provisional.evidenceLimited &&
          resolve texts fpSimilarity provisional reads == .confirmedThreat
      then [demotedFromConfirmedThreat] else [] }

def resolvePublicationVerdict (assessment : RiskAssessment) (later : Reads) : FinalVerdict :=
  if demotedFromConfirmedThreat ∈ assessment.verdictReasonCodes then .none
  else resolve texts fpSimilarity assessment later

/-- What is published: `approved` is the guard's answer, `later` the reads of the publication. -/
def publishApprovedOutput (approved : Bool) (provisional : RiskAssessment) (first later : Reads) :
    Option (RiskAssessment × FinalVerdict) :=
  if approved then
    let assessment := run texts fpSimilarity provisional first
    some (assessment, resolvePublicationVerdict texts fpSimilarity assessment later)
  else none

/-! ### The restricted verdicts -/

def fpSignal (reads : Reads) : Bool :=
  closesAsFp texts (dictOnly reads.fpAdjudication) ||
    possibleFp texts fpSimilarity (dictOnly reads.falsePositiveMatch)

theorem resolve_confirmed_iff (reads : Reads) (limited : assessment.evidenceLimited = true) :
    resolve texts fpSimilarity assessment reads = .confirmedThreat ↔
      fpSignal texts fpSimilarity reads = false ∧ 70 ≤ assessment.riskScore := by
  have far : nearThresholdConfirmed assessment = false := by simp [nearThresholdConfirmed, limited]
  unfold resolve fpSignal
  rw [far]
  by_cases closes : closesAsFp texts (dictOnly reads.fpAdjudication) = true
  · by_cases blocked : blocksAutoFpClose assessment = true <;> simp [closes, blocked]
  · by_cases signal : possibleFp texts fpSimilarity (dictOnly reads.falsePositiveMatch) = true
      <;> by_cases high : 70 ≤ assessment.riskScore <;> simp [closes, signal]

theorem resolve_ne_falsePositive (reads : Reads) (blocked : blocksAutoFpClose assessment = true) :
    resolve texts fpSimilarity assessment reads ≠ .falsePositive := by
  unfold resolve
  split_ifs <;> simp

/-- Limited evidence publishes no verdict that it cannot carry. -/
def Restricted (published : Option (RiskAssessment × FinalVerdict)) : Prop :=
  ∀ output ∈ published, output.1.evidenceLimited = true →
    output.2 ≠ .confirmedThreat ∧
      (output.1.highSourceEvidenceLimited = true → output.2 ≠ .falsePositive)

/-- A high assessment without evidence, resolved first beside a signal that publication no longer
reads. -/
def SignalVanishes (assessment : RiskAssessment) (first later : Reads) : Prop :=
  assessment.evidenceLimited = true ∧ 70 ≤ assessment.riskScore ∧
    fpSignal texts fpSimilarity first = true ∧ fpSignal texts fpSimilarity later = false

theorem resolvePublicationVerdict_confirmed_iff (provisional : RiskAssessment)
    (first later : Reads) (limited : provisional.evidenceLimited = true) :
    resolvePublicationVerdict texts fpSimilarity (run texts fpSimilarity provisional first) later =
        .confirmedThreat ↔
      SignalVanishes texts fpSimilarity provisional first later := by
  have early := resolve_confirmed_iff texts fpSimilarity first limited
  -- the resolver does not read the reason codes
  have late : resolve texts fpSimilarity (run texts fpSimilarity provisional first) later =
      .confirmedThreat ↔ fpSignal texts fpSimilarity later = false ∧ 70 ≤ provisional.riskScore :=
    resolve_confirmed_iff texts fpSimilarity later limited
  unfold resolvePublicationVerdict SignalVanishes
  by_cases demoted : resolve texts fpSimilarity provisional first = .confirmedThreat
  · obtain ⟨silent, -⟩ := early.mp demoted
    simp [run, limited, demoted, silent]
  have signal : 70 ≤ provisional.riskScore → fpSignal texts fpSimilarity first = true :=
    fun high => (Bool.eq_false_or_eq_true _).resolve_right fun silent =>
      demoted (early.mpr ⟨silent, high⟩)
  rw [if_neg (by simp [run, demoted]), late]
  constructor
  · rintro ⟨silent, high⟩
    exact ⟨limited, high, signal high, silent⟩
  · rintro ⟨_, high, _, silent⟩
    exact ⟨silent, high⟩

theorem resolvePublicationVerdict_ne_falsePositive (later : Reads)
    (blocked : blocksAutoFpClose assessment = true) :
    resolvePublicationVerdict texts fpSimilarity assessment later ≠ .falsePositive := by
  unfold resolvePublicationVerdict
  split_ifs
  · simp
  · exact resolve_ne_falsePositive texts fpSimilarity later blocked

/-- **Restricted verdicts**: an assessment without evidence is published neither as a confirmed
threat nor, with a high source, as a false positive, exactly when no signal vanishes between the two
rounds of reads of an approved publication. -/
theorem publication_restricted_iff (approved : Bool) (provisional : RiskAssessment)
    (first later : Reads) :
    Restricted (publishApprovedOutput texts fpSimilarity approved provisional first later) ↔
      ¬ (approved = true ∧ SignalVanishes texts fpSimilarity provisional first later) := by
  unfold Restricted publishApprovedOutput
  constructor
  · rintro restricted ⟨rfl, vanishes⟩
    refine (restricted _ rfl vanishes.1).1 ?_
    exact (resolvePublicationVerdict_confirmed_iff texts fpSimilarity _ _ _ vanishes.1).mpr vanishes
  intro kept _ published limited
  split_ifs at published with guard
  · cases published
    constructor
    · intro confirmed
      have vanishes :=
        (resolvePublicationVerdict_confirmed_iff texts fpSimilarity _ _ _ limited).mp confirmed
      exact kept ⟨guard, vanishes⟩
    intro highSource
    have blocked : blocksAutoFpClose (run texts fpSimilarity provisional first) = true := by
      rw [blocksAutoFpClose, limited, highSource]
      rfl
    exact resolvePublicationVerdict_ne_falsePositive texts fpSimilarity later blocked
  · cases published

end Agent

/-- A match of score `0.9` at the first read, no answer at the second: the alert without any
evidence becomes a confirmed threat. -/
theorem publication_not_restricted :
    ¬ Restricted (publishApprovedOutput ⟨fun _ => none, fun _ => none, fun _ => ""⟩ none true
      { riskScore := 70, confidence := 35 / 100, possibleFalsePositive := false,
        scoringMode := .ruleOnly, evidenceLimited := true, highSourceEvidenceLimited := true }
      ⟨some (.dict [("max_score", .float (9 / 10))]), none⟩ ⟨none, none⟩) := by
  intro restricted
  refine (restricted _ rfl rfl).1 ?_
  decide +kernel

end ShadowTrace.Risk
