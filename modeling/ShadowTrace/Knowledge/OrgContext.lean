/-
**Matching organisation records on destinations** (`app/services/org_context_matcher.py`).

A `data_handling` record names domains and lists its allowed channels. The matcher classifies the
first fact domain that the record names and returns, so an allowed one hides a restricted one after
it.
-/

import ShadowTrace.Models.Json

namespace ShadowTrace.Knowledge

inductive MatchType
  | domainExact | domainSuffix | restrictedDomain
  deriving DecidableEq

def normDomain (value : String) : String :=
  lower (.ofList ((strip value).toList.reverse.dropWhile (· == '.')).reverse)

def domainMatches (candidate allowed : String) : Bool :=
  let c := normDomain candidate
  let a := normDomain allowed
  if c == "" || a == "" then false else c == a || ('.' :: a.toList).isSuffixOf c.toList

variable (texts : Texts) (facts : List String) (metadata : Json.Fields)

def asStrList : Json → List String
  | .str value => if strip value != "" then [value] else []
  | .list items => (items.map (·.text texts)).filter (strip · != "")
  | _ => []

/-- Some domain under the key of the record matches the candidate. -/
def lists (key candidate : String) : Bool :=
  (asStrList texts (Json.get metadata key)).any (domainMatches candidate)

def domainHit (candidate pattern : String) : MatchType × String :=
  (if candidate ≠ normDomain pattern then .domainSuffix else .domainExact, candidate)

/-- `_match_data_handling`; `facts` are the domains of the facts. -/
def matchDataHandling : Option (MatchType × String) :=
  let namedDomains := asStrList texts (Json.get metadata "domains")
  let allowedChannels := asStrList texts (Json.get metadata "allowed_channels")
  (facts.findSome? fun candidate => (namedDomains.find? (domainMatches candidate)).map fun named =>
    if lists texts metadata "allowed_channels" candidate then domainHit candidate named
    else (.restrictedDomain, candidate))
  <|> if !namedDomains.isEmpty then none
    else facts.findSome? fun candidate =>
      (allowedChannels.find? (domainMatches candidate)).map (domainHit candidate)

/-- **A fact domain is named by the record and is not one of its allowed channels.** -/
def Restricted : Prop :=
  ∃ candidate ∈ facts, lists texts metadata "domains" candidate
    ∧ ¬ lists texts metadata "allowed_channels" candidate

variable {texts facts metadata}

theorem domainHit_ne (candidate pattern other : String) :
    domainHit candidate pattern ≠ (.restrictedDomain, other) := by
  unfold domainHit
  split_ifs <;> simp

/-- **The first named domain decides.** -/
theorem matchDataHandling_restricted {candidate : String} :
    matchDataHandling texts facts metadata = some (.restrictedDomain, candidate)
      ↔ facts.find? (lists texts metadata "domains") = some candidate
        ∧ ¬ lists texts metadata "allowed_channels" candidate := by
  unfold matchDataHandling
  rw [Option.orElse_eq_orElse, Option.orElse_eq_or, Option.or_eq_some_iff, or_iff_left]
  · induction facts with
    | nil => simp
    | cons first rest ih =>
      rw [List.findSome?_cons, List.find?_cons]
      cases named : (asStrList texts (Json.get metadata "domains")).find? (domainMatches first) with
      | none =>
        have unnamed : lists texts metadata "domains" first = false := by
          simpa [lists] using named
        rw [unnamed]
        exact ih
      | some pattern =>
        have listed : lists texts metadata "domains" first :=
          List.any_eq_true.mpr ⟨pattern, List.mem_of_find?_eq_some named, List.find?_some named⟩
        by_cases channel : lists texts metadata "allowed_channels" first
        · have hit := domainHit_ne first pattern candidate
          grind
        · simp only [Option.map_some]
          grind
  · rintro ⟨-, fallback⟩
    split_ifs at fallback
    obtain ⟨each, -, found⟩ := List.exists_of_findSome?_eq_some fallback
    obtain ⟨pattern, -, same⟩ := Option.map_eq_some_iff.mp found
    exact domainHit_ne each pattern candidate same

/-- **Is a restricted domain reported?** Exactly where the first of the fact domains that the record
names is not an allowed channel. -/
theorem matchDataHandling_restricted_iff :
    (Restricted texts facts metadata →
        ∃ candidate, matchDataHandling texts facts metadata = some (.restrictedDomain, candidate))
      ↔ (Restricted texts facts metadata →
        ∀ first, facts.find? (lists texts metadata "domains") = some first →
          ¬ lists texts metadata "allowed_channels" first) := by
  simp only [matchDataHandling_restricted]
  refine forall_congr' fun ⟨candidate, mem, named, _⟩ => ⟨?_, fun unlisted => ?_⟩
  · rintro ⟨first, found, channel⟩ other same
    rwa [Option.some.inj (same.symm.trans found)]
  · obtain ⟨first, found⟩ := Option.isSome_iff_exists.mp
      (List.find?_isSome.mpr ⟨candidate, mem, named⟩)
    exact ⟨first, found, unlisted first found⟩

/-- The allowed channel `a.b` comes before `c.d`, which the record restricts. -/
theorem restricted_masked : ∃ texts metadata,
    Restricted texts ["a.b", "c.d"] metadata
      ∧ matchDataHandling texts ["a.b", "c.d"] metadata = some (.domainExact, "a.b") := by
  refine ⟨⟨fun _ => none, fun _ => none, fun _ => ""⟩,
    [("domains", .list [.str "a.b", .str "c.d"]), ("allowed_channels", .str "a.b")],
    ⟨"c.d", ?_, ?_, ?_⟩, ?_⟩ <;> decide +kernel

end ShadowTrace.Knowledge
