/-
**Sequence detection** (`app/detection/operators/event_sequence.py`).

Step by step, the search takes the earliest observation that matches after the last one. It returns
this greedy match if its gaps are small enough, and nothing else: a later start with smaller gaps is
not tried.
-/

import Mathlib.Data.List.Sort
import Mathlib.Data.Prod.Lex
import Mathlib.Data.String.Basic

namespace ShadowTrace.Detection

/-- What a detector has seen. -/
structure Observation where
  observationId : String
  /-- In microseconds. -/
  observedAt : Int
  action : Option String := none
  category : Option String := none
  /-- Types and identifiers. -/
  entityRefs : List (String × String) := []
  deriving DecidableEq

/-- One condition of a step of the pattern. -/
inductive Criterion
  | action (expected : String) | category (expected : String)
  | entityType (expected : String) | entityId (expected : String)
  | unsupported (key : String)

def Criterion.holds (observation : Observation) : Criterion → Bool
  | .action expected => observation.action == some expected
  | .category expected => observation.category == some expected
  | .entityType expected => observation.entityRefs.any (·.1 == expected)
  | .entityId expected => observation.entityRefs.any (·.2 == expected)
  | .unsupported _ => false

abbrev Step := List Criterion

def observationMatchesCriteria (observation : Observation) (criteria : Step) : Bool :=
  criteria.all (Criterion.holds observation)

def sortKey (observation : Observation) : Int ×ₗ String :=
  toLex (observation.observedAt, observation.observationId)

def unseen (seen : List String) : List Observation → List Observation
  | [] => []
  | observation :: later =>
    if observation.observationId ∈ seen then unseen seen later
    else observation :: unseen (observation.observationId :: seen) later

def dedupeObservations (observations : List Observation) : List Observation :=
  unseen [] (observations.insertionSort (sortKey · ≤ sortKey ·))

section

variable (maxGap : Option Int)

def tooFar (last : Option Observation) (candidate : Observation) : Bool :=
  match last, maxGap with
  | some last, some seconds => seconds * 1000000 < candidate.observedAt - last.observedAt
  | _, _ => false

/-- The two loops as one pass: a candidate that does not do leaves the step as it is, one that does
is the last match for the next step. -/
def search (last : Option Observation) :
    List Step → List Observation → Option (List Observation)
  | [], _ => some []
  | _ :: _, [] => none
  | step :: steps, candidate :: later =>
    if !observationMatchesCriteria candidate step then search last (step :: steps) later
    else if tooFar maxGap last candidate then search last (step :: steps) later
    else (search (some candidate) steps later).map (candidate :: ·)

end

/-- `find_ordered_sequence_match`. -/
def findOrderedSequenceMatch (observations : List Observation) (steps : List Step)
    (maxStepGapSeconds : Option Int) : Option (List Observation) :=
  if steps = [] then none
  else search maxStepGapSeconds none steps (dedupeObservations observations)

/-! ### What it finds -/

/-- **The greedy match**: for every step the first observation after the last match that satisfies
it. -/
inductive Earliest : List Observation → List Step → List Observation → Prop
  | done (rest : List Observation) : Earliest rest [] []
  | skip (fails : observationMatchesCriteria candidate step = false)
      (later : Earliest rest (step :: steps) matched) :
      Earliest (candidate :: rest) (step :: steps) matched
  | take (fits : observationMatchesCriteria candidate step = true)
      (later : Earliest rest steps matched) :
      Earliest (candidate :: rest) (step :: steps) (candidate :: matched)

/-- The second observation comes within the gap of the first. -/
def Close (maxGap : Option Int) (this that : Observation) : Prop :=
  ∀ seconds, maxGap = some seconds → that.observedAt - this.observedAt ≤ seconds * 1000000

/-- In the order of their times. -/
abbrev Timed (observations : List Observation) : Prop :=
  observations.Pairwise fun this that => this.observedAt ≤ that.observedAt

variable {maxGap : Option Int} {last : Option Observation} {steps : List Step}
  {observations matched : List Observation}

theorem unseen_sublist (seen : List String) (observations : List Observation) :
    (unseen seen observations).Sublist observations := by
  induction observations generalizing seen with
  | nil => exact .slnil
  | cons observation later ih =>
    rw [unseen]
    split
    · exact (ih seen).cons _
    · exact (ih _).cons_cons _

theorem dedupeObservations_timed (observations : List Observation) :
    Timed (dedupeObservations observations) := by
  let order (this that : Observation) : Prop := sortKey this ≤ sortKey that
  have sorted := (List.pairwise_insertionSort order observations).sublist (unseen_sublist [] _)
  exact sorted.imp fun ordered => (Prod.Lex.le_iff.mp ordered).elim le_of_lt fun same => same.1.le

theorem tooFar_eq_false {candidate : Observation} :
    tooFar maxGap last candidate = false ↔ ∀ this ∈ last, Close maxGap this candidate := by
  unfold tooFar Close
  split
  · simp
  · cases last <;> cases maxGap <;> simp_all

theorem Earliest.starts {step : Step} (earliest : Earliest observations (step :: steps) matched) :
    ∃ first rest, matched = first :: rest ∧ first ∈ observations := by
  generalize all : step :: steps = steps at earliest
  induction earliest with
  | done => cases all
  | skip _ _ ih =>
    obtain ⟨first, rest, starts, later⟩ := ih all
    exact ⟨first, rest, starts, .tail _ later⟩
  | take => exact ⟨_, _, rfl, .head _⟩

theorem isChain_last {first : Observation} {rest : List Observation} :
    (last.toList ++ first :: rest).IsChain (Close maxGap)
      ↔ (∀ this ∈ last, Close maxGap this first) ∧ (first :: rest).IsChain (Close maxGap) := by
  cases last <;> simp

theorem search_done : search maxGap last [] observations = some matched
    ↔ Earliest observations [] matched ∧ (last.toList ++ matched).IsChain (Close maxGap) := by
  rw [search]
  constructor
  · rintro ⟨⟩
    refine ⟨.done _, ?_⟩
    cases last <;> simp
  · rintro ⟨⟨⟩, -⟩
    rfl

theorem search_eq_some (timed : Timed observations) :
    search maxGap last steps observations = some matched
      ↔ Earliest observations steps matched ∧ (last.toList ++ matched).IsChain (Close maxGap) := by
  induction observations generalizing last steps matched with
  | nil =>
    cases steps with
    | nil => exact search_done
    | cons => exact iff_of_false nofun fun both => nomatch both.1
  | cons candidate later ih =>
    cases steps with
    | nil => exact search_done
    | cons step steps =>
      rw [search]
      split
      · rename_i fails
        rw [Bool.not_eq_true'] at fails
        refine (ih timed.of_cons).trans (and_congr_left' ⟨.skip fails, fun earliest => ?_⟩)
        cases earliest with
        | skip _ later => exact later
        | take fits => simp [fits] at fails
      rename_i fits
      rw [Bool.not_eq_true', Bool.not_eq_false] at fits
      have taken : Earliest (candidate :: later) (step :: steps) matched →
          ∃ rest, matched = candidate :: rest ∧ Earliest later steps rest := by
        rintro (_ | ⟨fails, -⟩ | ⟨-, later⟩)
        · rw [fits] at fails
          cases fails
        · exact ⟨_, rfl, later⟩
      split
      · -- the later ones are even further away
        rename_i far
        refine iff_of_false (fun found => ?_) fun ⟨earliest, chain⟩ => ?_
        · obtain ⟨earliest, chain⟩ := (ih timed.of_cons).mp found
          obtain ⟨first, _, rfl, mem⟩ := earliest.starts
          have close : tooFar maxGap last candidate = false :=
            tooFar_eq_false.mpr fun this there seconds bound => by
              have near := (isChain_last.mp chain).1 this there seconds bound
              have ordered := List.rel_of_pairwise_cons timed mem
              omega
          rw [far] at close
          cases close
        · obtain ⟨_, rfl, -⟩ := taken earliest
          rw [tooFar_eq_false.mpr (isChain_last.mp chain).1] at far
          cases far
      · rename_i near
        rw [Bool.not_eq_true] at near
        rw [Option.map_eq_some_iff]
        constructor
        · rintro ⟨rest, found, rfl⟩
          obtain ⟨earliest, chain⟩ := (ih timed.of_cons).mp found
          exact ⟨.take fits earliest, isChain_last.mpr ⟨tooFar_eq_false.mp near, chain⟩⟩
        · rintro ⟨earliest, chain⟩
          obtain ⟨rest, rfl, later⟩ := taken earliest
          exact ⟨rest, (ih timed.of_cons).mpr ⟨later, (isChain_last.mp chain).2⟩, rfl⟩

/-- **What the search returns.** A match is returned exactly when it is the greedy match of the
observations in the order of time, and all its gaps are at most the maximum. -/
theorem findOrderedSequenceMatch_iff (observations : List Observation) (steps : List Step)
    (maxStepGapSeconds : Option Int) (matched : List Observation) (some_ : steps ≠ []) :
    findOrderedSequenceMatch observations steps maxStepGapSeconds = some matched
      ↔ Earliest (dedupeObservations observations) steps matched
        ∧ matched.IsChain (Close maxStepGapSeconds) := by
  rw [findOrderedSequenceMatch, if_neg some_]
  exact search_eq_some (dedupeObservations_timed observations)

def sampleObservation (id : String) (seconds : Int) (action : String) : Observation where
  observationId := id
  observedAt := seconds * 1000000
  action := some action

theorem findOrderedSequenceMatch_iff_login :
    let observations := [sampleObservation "b" 5 "egress", sampleObservation "a" 0 "login"]
    findOrderedSequenceMatch observations [[.action "login"], [.action "egress"]] (some 10)
      = some [sampleObservation "a" 0 "login", sampleObservation "b" 5 "egress"] :=
  (findOrderedSequenceMatch_iff _ _ _ _ (List.cons_ne_nil _ _)).mpr
    ⟨.take rfl (.take rfl (.done _)), by simp [Close, sampleObservation]⟩

/-- **A later start is not tried.** The second login and the egress are close enough; the search
stays with the first login. -/
theorem later_start_not_tried :
    let first := sampleObservation "a" 0 "login"
    let second := sampleObservation "b" 100 "login"
    let egress := sampleObservation "c" 105 "egress"
    findOrderedSequenceMatch [first, second, egress] [[.action "login"], [.action "egress"]]
        (some 10) = none
      ∧ [second, egress].Sublist (dedupeObservations [first, second, egress])
      ∧ observationMatchesCriteria second [.action "login"] = true
      ∧ observationMatchesCriteria egress [.action "egress"] = true
      ∧ Close (some 10) second egress := by
  refine ⟨by decide, by decide, rfl, rfl, ?_⟩
  rintro _ ⟨⟩
  decide

end ShadowTrace.Detection
