/-
**Quality metrics** (`app/evaluation/quality_metrics.py`, `app/evaluation/detection/metrics.py`).

The two modules share their text, apart from the scorers they read and from what they take for a
prediction. Arithmetic is exact here: rationals, and reals where a root is taken.
-/

import Mathlib.Analysis.Real.Sqrt
import Mathlib.Tactic.Linarith

namespace ShadowTrace.Evaluation

/-! ### The confidence interval -/

section Interval

structure ConfidenceInterval where
  lower : ℝ
  upper : ℝ
  level : ℝ

section

variable (successes total : ℕ) (z : ℝ)

noncomputable def phat : ℝ := successes / total

noncomputable def centre : ℝ := (successes + z ^ 2 / 2) / (total + z ^ 2)

noncomputable def margin : ℝ :=
  z * √((phat successes total * (1 - phat successes total) + z ^ 2 / (4 * total)) / (total + z ^ 2))

/-- The value of `z` that `_wilson_interval` takes. -/
noncomputable def quantile (level : ℝ) : ℝ := if 0.95 ≤ level then 1.96 else 1.645

theorem quantile_pos (level : ℝ) : 0 < quantile level := by
  unfold quantile
  split_ifs <;> norm_num

/-- `_wilson_interval`, in both modules. -/
noncomputable def wilsonInterval (level : ℝ) : Option ConfidenceInterval :=
  if total = 0 then none
  else
    some
      { lower := max 0 (centre successes total (quantile level)
          - margin successes total (quantile level))
        upper := min 1 (centre successes total (quantile level)
          + margin successes total (quantile level))
        level }

noncomputable def wilsonCentre : ℝ :=
  (phat successes total + z ^ 2 / (2 * total)) / (1 + z ^ 2 / total)

noncomputable def wilsonMarginSq : ℝ :=
  z ^ 2 * (phat successes total * (1 - phat successes total) / total + z ^ 2 / (4 * total ^ 2))
    / (1 + z ^ 2 / total) ^ 2

/-- **The interval is Wilson's**: the square of its margin is, and its endpoints are the roots of
the score equation. -/
def IsWilson : Prop :=
  margin successes total z ^ 2 = wilsonMarginSq successes total z
    ∧ ∀ x, total * (phat successes total - x) ^ 2 = z ^ 2 * (x * (1 - x))
      ↔ x = centre successes total z - margin successes total z
        ∨ x = centre successes total z + margin successes total z

end

variable {successes total : ℕ} {z : ℝ} (within : successes ≤ total)

include within

theorem phat_mem : 0 ≤ phat successes total ∧ phat successes total ≤ 1 := by
  have counts : (successes : ℝ) ≤ total := Nat.cast_le.mpr within
  exact ⟨by unfold phat; positivity, div_le_one_of_le₀ counts (Nat.cast_nonneg total)⟩

theorem spread_nonneg : 0 ≤ phat successes total * (1 - phat successes total) := by
  obtain ⟨low, high⟩ := phat_mem within
  exact mul_nonneg low (sub_nonneg.mpr high)

theorem margin_sq : margin successes total z ^ 2
    = z ^ 2 / (total + z ^ 2)
      * (phat successes total * (1 - phat successes total) + z ^ 2 / (4 * total)) := by
  have spread := spread_nonneg within
  rw [margin, mul_pow, Real.sq_sqrt (by positivity)]
  ring

variable (evaluated : 0 < total) (positive : 0 < z)

include evaluated positive

/-- **The margin is too wide**: a factor `total / (total + z²)` is missing under the root. -/
theorem wilsonMarginSq_lt :
    wilsonMarginSq successes total z < margin successes total z ^ 2 := by
  have spread := spread_nonneg within
  have factor : wilsonMarginSq successes total z
      = margin successes total z ^ 2 * (total / (total + z ^ 2)) := by
    rw [margin_sq within, wilsonMarginSq]
    field_simp
  rw [factor]
  refine mul_lt_of_lt_one_right ?_ ((div_lt_one (by positivity)).mpr ?_)
  · rw [margin_sq within]
    positivity
  · linarith [pow_pos positive 2]

theorem abs_sub_centre_le :
    |phat successes total - centre successes total z| ≤ margin successes total z := by
  obtain ⟨low, high⟩ := phat_mem within
  have distance : phat successes total - centre successes total z
      = z ^ 2 / (total + z ^ 2) * (phat successes total - 1 / 2) := by
    unfold centre phat
    field_simp
    ring
  refine abs_le_of_sq_le_sq ?_ (mul_nonneg positive.le (Real.sqrt_nonneg _))
  have half : (phat successes total - 1 / 2) ^ 2 ≤ 1 / 4 := by nlinarith
  rw [distance, margin_sq within]
  calc (z ^ 2 / (total + z ^ 2) * (phat successes total - 1 / 2)) ^ 2
      = z ^ 2 / (total + z ^ 2)
        * (z ^ 2 / (total + z ^ 2) * (phat successes total - 1 / 2) ^ 2) := by ring
    _ ≤ z ^ 2 / (total + z ^ 2) * (z ^ 2 / total * (1 / 4)) := by
      gcongr
      linarith [pow_pos positive 2]
    _ ≤ _ := by
      gcongr
      linarith [show z ^ 2 / total * (1 / 4) = z ^ 2 / (4 * total) by ring]

end Interval

/-- **Is the confidence interval Wilson's?** Its centre is, and the clamped interval contains the
proportion; its margin and its endpoints are those of Wilson only where there is no interval. -/
theorem wilsonInterval_iff {successes total : ℕ} (within : successes ≤ total) (level : ℝ) :
    (0 < total → centre successes total (quantile level)
        = wilsonCentre successes total (quantile level))
      ∧ (∀ interval, wilsonInterval successes total level = some interval →
        interval.lower ≤ phat successes total ∧ phat successes total ≤ interval.upper)
      ∧ ((0 < total → IsWilson successes total (quantile level)) ↔ total = 0) := by
  have positive := quantile_pos level
  refine ⟨fun evaluated => ?_, fun _ computed => ?_, fun wilson => ?_, fun empty evaluated => ?_⟩
  · have sampled : (0 : ℝ) < total := Nat.cast_pos.mpr evaluated
    unfold centre wilsonCentre phat
    field_simp
  · unfold wilsonInterval at computed
    split_ifs at computed with empty
    cases computed
    have near := abs_sub_centre_le within (Nat.pos_of_ne_zero empty) positive
    obtain ⟨low, high⟩ := phat_mem within
    obtain ⟨below, above⟩ := abs_le.mp near
    exact ⟨max_le low (by linarith), le_min high (by linarith)⟩
  · by_contra empty
    have evaluated := Nat.pos_of_ne_zero empty
    exact absurd (wilson evaluated).1 (wilsonMarginSq_lt within evaluated positive).ne'
  · omega

theorem wilsonInterval_iff_half :
    (0 < 2 → IsWilson 1 2 (quantile 0.95)) ↔ 2 = 0 :=
  (wilsonInterval_iff (by decide) 0.95).2.2

/-- One success in two cases: the margin is wider than Wilson's. -/
theorem margin_half_wide : ¬ IsWilson 1 2 (quantile 0.95) := by
  have wide : wilsonMarginSq 1 2 (quantile 0.95) < margin 1 2 (quantile 0.95) ^ 2 :=
    wilsonMarginSq_lt (by decide) (by decide) (quantile_pos 0.95)
  intro wilson
  exact absurd wilson.1 wide.ne'

/-! ### The quality report -/

inductive SliceType
  | threat | benign | unevaluable | security | knowledge | agentic | coordination
  deriving DecidableEq

inductive ScorerOutcome
  | pass | fail | unevaluable | error | skipped
  deriving DecidableEq

/-- Whether a metric has a value, and why not. -/
inductive QualityMetricStatus
  | computed | failClosed | insufficientSample
  deriving DecidableEq

/-- One case of a run, with the outcomes of its scorers. -/
structure CaseResult (ω : Type) where
  sliceType : SliceType
  scorerResults : List (String × ScorerOutcome)
  observation : ω

/-- What the two modules differ in. Some observations are predictions, and some are not. -/
structure Suite (ω : Type) where
  threatScorer : String
  benignScorer : String
  predicts : ω → Bool
  both : ∀ seen, ∃ observation, predicts observation = seen

/-- What the system under evaluation said about a case. -/
structure CaseObservation where
  observedCaseLabel : Option String
  observedFinalVerdict : Option String
  observationAvailable : Bool

def isPredictedThreat (observation : CaseObservation) : Bool :=
  observation.observationAvailable && (observation.observedFinalVerdict == some "confirmed_threat"
    || observation.observedCaseLabel == some "true_positive")

def offline : Suite CaseObservation :=
  ⟨"threat_label", "benign_label", isPredictedThreat, fun seen =>
    ⟨⟨none, some "confirmed_threat", seen⟩, by cases seen <;> rfl⟩⟩

/-- Of an observation the detection report reads the candidates alone. -/
def detection (κ : Type) [Inhabited κ] : Suite (List κ) :=
  ⟨"threat_detection", "benign_detection", fun candidates => !candidates.isEmpty, fun seen =>
    ⟨if seen then [default] else [], by cases seen <;> rfl⟩⟩

/-- `_metric_value`: the value and the status. -/
def metricValue (numerator denominator errors : ℕ) : Option ℚ × QualityMetricStatus :=
  if 0 < errors then (none, .failClosed)
  else if denominator = 0 then (none, .insufficientSample)
  else (some (numerator / denominator), .computed)

/-- One more false alarm is not seen where the metric is withheld, and where it is zero. -/
theorem metricValue_alarm {hits alarms errors : ℕ} :
    metricValue hits (hits + (alarms + 1)) errors = metricValue hits (hits + alarms) errors
      ↔ 0 < errors ∨ hits = 0 ∧ 0 < alarms := by
  unfold metricValue
  by_cases failed : 0 < errors
  · simp [failed]
  obtain rfl | found := Nat.eq_zero_or_pos hits
  · simp [failed]
  · have smaller : (hits : ℚ) / (hits + (alarms + 1)) < hits / (hits + alarms) :=
      div_lt_div_of_pos_left (by positivity) (by positivity) (by linarith)
    simp [failed, found.ne', smaller.ne]

namespace Suite

variable {ω : Type} (suite : Suite ω)

def primaryOutcome (case : CaseResult ω) : Option ScorerOutcome :=
  match case.sliceType with
  | .threat => case.scorerResults.lookup suite.threatScorer
  | .benign => case.scorerResults.lookup suite.benignScorer
  | .unevaluable => case.scorerResults.lookup "unevaluable_coverage"
  | _ => none

variable (cases : List (CaseResult ω)) (slice : SliceType)

/-- A counter of the loop: the cases of a slice whose primary outcome is of some kind. -/
def tally (counted : Option ScorerOutcome → Bool) : ℕ :=
  cases.countP fun case => case.sliceType == slice && counted (suite.primaryOutcome case)

def errors : ℕ := suite.tally cases slice (· == some .error)

def predicted : ℕ :=
  cases.countP fun case => case.sliceType == slice && suite.predicts case.observation

def threatPrecision : Option ℚ × QualityMetricStatus :=
  metricValue (suite.predicted cases .threat)
    (suite.predicted cases .threat + suite.predicted cases .benign) (suite.errors cases .threat)

/-- The metrics of `build_quality_report` and of `build_detection_quality_report`. -/
def qualityReport : List (String × Option ℚ × QualityMetricStatus) :=
  let threatTp := suite.tally cases .threat (· == some .pass)
  let threatFn := suite.tally cases .threat (· ∉ [some .error, some .pass])
  let benignTn := suite.tally cases .benign (· == some .pass)
  let benignFp := suite.tally cases .benign (· ∉ [some .error, some .unevaluable, some .pass])
  let unevaluableOk := suite.tally cases .unevaluable (· == some .unevaluable)
  let unevaluableBad := suite.tally cases .unevaluable (· ∉ [some .error, some .unevaluable])
  [("threat_recall", metricValue threatTp (threatTp + threatFn) (suite.errors cases .threat)),
    ("threat_precision", suite.threatPrecision cases),
    ("benign_specificity", metricValue benignTn (benignTn + benignFp) (suite.errors cases .benign)),
    ("benign_fpr", metricValue benignFp (benignTn + benignFp) (suite.errors cases .benign)),
    ("unevaluable_coverage", metricValue unevaluableOk (unevaluableOk + unevaluableBad)
      (suite.errors cases .unevaluable))]

variable {suite cases}

/-- **Only the precision reads an observation.** -/
theorem qualityReport_eq_iff {before after : List (CaseResult ω)} {case : CaseResult ω}
    {other : ω} :
    suite.qualityReport (before ++ { case with observation := other } :: after)
        = suite.qualityReport (before ++ case :: after)
      ↔ suite.threatPrecision ({ case with observation := other } :: (before ++ after))
        = suite.threatPrecision (case :: (before ++ after)) := by
  simp [qualityReport, threatPrecision, errors, predicted, tally, List.countP_cons, primaryOutcome,
    add_assoc]

theorem threatPrecision_cons {case : CaseResult ω}
    (errored : suite.primaryOutcome case = some .error) :
    suite.threatPrecision (case :: cases)
      = if case.sliceType = .threat then (none, .failClosed)
        else metricValue (suite.predicted cases .threat)
          (suite.predicted cases .threat + (suite.predicted cases .benign
            + if case.sliceType == .benign && suite.predicts case.observation then 1 else 0))
          (suite.errors cases .threat) := by
  by_cases threat : case.sliceType = .threat
  · simp [threatPrecision, metricValue, errors, tally, errored, threat]
  · simp [threatPrecision, predicted, errors, tally, List.countP_cons, threat]

end Suite

/-- **Does an errored case leave the metrics alone?** One of the benign slice does not: its
prediction still counts as a false alarm, and only errored threats withhold the precision. -/
theorem qualityReport_unmoved_iff {ω : Type} (suite : Suite ω) (before after : List (CaseResult ω))
    (case : CaseResult ω) :
    (suite.primaryOutcome case = some .error →
        ∀ other, suite.qualityReport (before ++ { case with observation := other } :: after)
          = suite.qualityReport (before ++ case :: after))
      ↔ (suite.primaryOutcome case = some .error → case.sliceType = .benign →
        0 < suite.errors (before ++ after) .threat
          ∨ suite.predicted (before ++ after) .threat = 0
            ∧ 0 < suite.predicted (before ++ after) .benign) := by
  refine forall_congr' fun errored => ?_
  have still : ∀ other, suite.primaryOutcome { case with observation := other } = some .error :=
    fun _ => errored
  simp only [Suite.qualityReport_eq_iff, Suite.threatPrecision_cons (still _)]
  by_cases benign : case.sliceType = .benign
  · rw [← metricValue_alarm, forall_prop_of_true benign]
    constructor
    · intro unmoved
      obtain ⟨alarm, seen⟩ := suite.both true
      obtain ⟨quiet, unseen⟩ := suite.both false
      have same := (unmoved alarm).trans (unmoved quiet).symm
      simpa [benign, seen, unseen] using same
    · intro same other
      cases suite.predicts other <;> cases suite.predicts case.observation <;> simp [benign, same]
  · simp [benign]

/-- Beside a detected threat, a candidate of an errored benign case halves the precision. -/
theorem qualityReport_moved :
    let threat : CaseResult (List ℕ) := ⟨.threat, [("threat_detection", .pass)], [1]⟩
    let benign : CaseResult (List ℕ) := ⟨.benign, [("benign_detection", .error)], []⟩
    (detection ℕ).primaryOutcome benign = some .error
      ∧ (detection ℕ).qualityReport [threat, { benign with observation := [1] }]
        ≠ (detection ℕ).qualityReport [threat, benign] := by
  decide +kernel

end ShadowTrace.Evaluation
