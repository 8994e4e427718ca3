/-
**Excerpts for citations** (`app/rag/citation_tracer.py`).

The excerpt should be the window of a text with the most hits. The search looks at every `step`-th
window and then at those around the first best of them (`fineBest_iff`).
-/

import Mathlib.Data.List.Infix

namespace ShadowTrace.Knowledge

/-! ### The search -/

section

variable (score : Nat → Nat) (step last : Nat)

/-- The body of both loops: the best start so far, and its score. -/
def look (best : Nat × Nat) (start : Nat) : Nat × Nat :=
  if best.2 < score start then (start, score start) else best

/-- `best_start` and `best_score` after the loop over every `step`-th start. -/
def coarseBest : Nat × Nat :=
  ((List.range (last + 1)).filter (step ∣ ·)).foldl (look score) (0, 0)

/-- The starts of the second loop. -/
def fineStarts : List Nat :=
  let best := (coarseBest score step last).1
  .range' (best - step) (min last (best + step) + 1 - (best - step))

/-- `best_start` and `best_score` after both loops. -/
def fineBest : Nat × Nat :=
  (fineStarts score step last).foldl (look score) (coarseBest score step last)

/-- The starts of the first loop. -/
def Sampled (start : Nat) : Prop := start ≤ last ∧ step ∣ start

/-- Two starts at most one step apart. -/
def Near (this that : Nat) : Prop := this ≤ that + step ∧ that ≤ this + step

/-- A window with more hits than another, or with as many further in front. -/
def Outdoes (this that : Nat) : Prop :=
  score that < score this ∨ score that = score this ∧ this < that

/-- **A best window is in reach** of the sampled ones: each of them that is not near it is outdone
by one that is. -/
def InReach : Prop :=
  ∃ best ≤ last, (∀ start ≤ last, score start ≤ score best) ∧
    ∀ far, Sampled step last far → ¬ Near step far best →
      ∃ near, Sampled step last near ∧ Near step near best ∧ Outdoes score near far

end

section

variable {score : Nat → Nat} {step last : Nat}

/-- What a loop makes of its starts: the best of them, and the first of these where it goes from
left to right. -/
structure Found (score : Nat → Nat) (best : Nat × Nat) (starts : List Nat) (found : Nat × Nat) :
    Prop where
  raised : found = best ∨ best.2 < found.2 ∧ found.2 = score found.1 ∧ found.1 ∈ starts
  most : ∀ start ∈ starts, score start ≤ found.2
  first : (best.1 :: starts).Pairwise (· ≤ ·) →
    ∀ start ∈ starts, start < found.1 → score start < found.2

theorem foldl_look (starts : List Nat) (best : Nat × Nat) :
    Found score best starts (starts.foldl (look score) best) := by
  induction starts generalizing best with
  | nil => exact ⟨.inl rfl, by simp, by simp⟩
  | cons start rest ih =>
    rw [List.foldl_cons]
    obtain ⟨raised, most, first⟩ := ih (look score best start)
    generalize rest.foldl (look score) (look score best start) = found at *
    have grown : (look score best start).2 ≤ found.2 := by
      obtain rfl | ⟨more, -⟩ := raised
      · exact Nat.le_refl _
      · exact Nat.le_of_lt more
    by_cases better : best.2 < score start
    · rw [look, if_pos better] at raised first grown
      refine ⟨.inr ⟨Nat.lt_of_lt_of_le better grown, ?_⟩,
        List.forall_mem_cons.mpr ⟨grown, most⟩, fun sorted => List.forall_mem_cons.mpr ⟨?_, ?_⟩⟩
      · obtain rfl | ⟨-, reached, listed⟩ := raised
        · exact ⟨rfl, .head _⟩
        · exact ⟨reached, .tail _ listed⟩
      · obtain rfl | ⟨more, -⟩ := raised
        · exact fun before => absurd before (Nat.lt_irrefl _)
        · exact fun _ => more
      · exact first sorted.of_cons
    · rw [look, if_neg better] at raised first grown
      have kept := Nat.not_lt.mp better
      refine ⟨raised.imp_right fun ⟨more, reached, listed⟩ => ⟨more, reached, .tail _ listed⟩,
        List.forall_mem_cons.mpr ⟨Nat.le_trans kept grown, most⟩,
        fun sorted => List.forall_mem_cons.mpr ⟨fun before => ?_, ?_⟩⟩
      · obtain rfl | ⟨more, -⟩ := raised
        · exact absurd before (Nat.not_lt.mpr (List.rel_of_pairwise_cons sorted (.head _)))
        · exact Nat.lt_of_le_of_lt kept more
      · exact first (sorted.sublist (.cons_cons _ (List.sublist_cons_self _ _)))

/-- **The first loop ends at the sampled start that outdoes all others.** -/
theorem coarseBest_outdoes :
    (coarseBest score step last).2 = score (coarseBest score step last).1
      ∧ Sampled step last (coarseBest score step last).1
      ∧ ∀ other, Sampled step last other → other ≠ (coarseBest score step last).1 →
        Outdoes score (coarseBest score step last).1 other := by
  have listed : ∀ start, start ∈ (List.range (last + 1)).filter (step ∣ ·)
      ↔ Sampled step last start := by simp [Sampled, Nat.lt_succ_iff]
  obtain ⟨raised, most, first⟩ :=
    @foldl_look score ((List.range (last + 1)).filter (step ∣ ·)) (0, 0)
  rw [← coarseBest] at raised most first
  generalize coarseBest score step last = best at *
  simp only [listed] at raised most first
  have front : Sampled step last 0 := ⟨Nat.zero_le _, Nat.dvd_zero _⟩
  obtain ⟨reached, sampled⟩ : best.2 = score best.1 ∧ Sampled step last best.1 := by
    obtain rfl | ⟨-, reached, sampled⟩ := raised
    · exact ⟨(Nat.le_zero.mp (most 0 front)).symm, front⟩
    · exact ⟨reached, sampled⟩
  refine ⟨reached, sampled, fun other found differs => ?_⟩
  have below := most other found
  have before := first (List.pairwise_cons.mpr
    ⟨fun _ _ => Nat.zero_le _, List.pairwise_le_range.filter _⟩) other found
  unfold Outdoes
  omega

/-- The second loop looks at the starts near the one where the first ends. -/
theorem mem_fineStarts {start : Nat} : start ∈ fineStarts score step last
    ↔ start ≤ last ∧ Near step (coarseBest score step last).1 start := by
  rw [fineStarts, List.mem_range'_1, Near]
  omega

theorem fineBest_near :
    (fineBest score step last).2 = score (fineBest score step last).1
      ∧ (fineBest score step last).1 ≤ last
      ∧ Near step (coarseBest score step last).1 (fineBest score step last).1 := by
  obtain ⟨coarse, sampled, -⟩ := @coarseBest_outdoes score step last
  obtain ⟨same | ⟨-, reached, listed⟩, -, -⟩ :=
    @foldl_look score (fineStarts score step last) (coarseBest score step last)
  · rw [fineBest, same]
    exact ⟨coarse, sampled.1, by simp [Near]⟩
  · exact ⟨reached, mem_fineStarts.mp listed⟩

/-- **The search ends at a best window** exactly where one is in reach. -/
theorem fineBest_iff : (∀ start ≤ last, score start ≤ score (fineBest score step last).1)
    ↔ InReach score step last := by
  obtain ⟨-, sampled, outdoes⟩ := @coarseBest_outdoes score step last
  obtain ⟨reached, inside, close⟩ := @fineBest_near score step last
  constructor
  · refine fun best => ⟨_, inside, best, fun far found away => ⟨_, sampled, close, ?_⟩⟩
    exact outdoes far found fun same => away (same ▸ close)
  · rintro ⟨best, within, better, reachable⟩ start listed
    -- the start where the first loop ends is near: no sampled start outdoes it
    have around : Near step (coarseBest score step last).1 best := by
      by_contra away
      obtain ⟨other, found, beside, above⟩ := reachable _ sampled away
      have below := outdoes other found fun same => away (same ▸ beside)
      unfold Outdoes at above below
      omega
    have most := (@foldl_look score (fineStarts score step last)
      (coarseBest score step last)).most best (mem_fineStarts.mpr ⟨within, around⟩)
    exact reached ▸ Nat.le_trans (better start listed) most

end

/-! ### Excerpts -/

section

-- `terms` are the lowered words of the query; `lower` is `str.lower`, which may lengthen a text
variable (lower : List Char → List Char) (terms : List (List Char)) (content : List Char)
  (maxLen : Nat)

/-- The slice of `maxLen` characters from a start on. -/
def window (text : List Char) (start : Nat) : List Char := (text.drop start).take maxLen

/-- How many of the terms occur in a text. -/
def hits (text : List Char) : Nat := terms.countP fun term => decide (term <:+: text)

/-- The hits of a window as both loops count them, in the lowered text. -/
def score (start : Nat) : Nat := hits terms (window maxLen (lower content) start)

/-- The `step` of the first loop. -/
def stride : Nat := max 1 (maxLen / 4)

/-- `_extract_quoted_text`. -/
def extractQuotedText : List Char :=
  if terms.isEmpty || content.isEmpty then content.take maxLen
  else if content.length ≤ maxLen then content
  else window maxLen content
    (fineBest (score lower terms content maxLen) (stride maxLen) (content.length - maxLen)).1

/-- **Lowering moves no hits**: a window has the hits that the lowered text has in its place. -/
def Aligned : Prop :=
  ∀ start ≤ content.length - maxLen,
    hits terms (lower (window maxLen content start)) = score lower terms content maxLen start

end

/-- A text whose only hit is at its end. -/
def sampleText : List Char := .replicate 14 '.' ++ ['A', 'b']

/-- `aa` at the front, `bb` and `cc` at a distance that only a window between two strides spans. -/
def sampleContent : List Char :=
  ['a', 'a'] ++ .replicate 323 '.' ++ ['b', 'b'] ++ .replicate 195 '.' ++ ['c', 'c']

end ShadowTrace.Knowledge
