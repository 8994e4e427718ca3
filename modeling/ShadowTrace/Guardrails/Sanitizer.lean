/-
**The sanitizer and the leak check.**

Both walk nested data. `sanitizeData` replaces what stands under a sensitive key and redacts texts;
`checkNoPiiLeak` looks at the entries of mappings, down to a smaller depth.

* Nothing about a value under a sensitive key is left in the result, unless a container that the
  sanitizer does not know holds it.
* A change of the sanitizer goes unreported when it is hidden from the check (`Unseen`) and nothing
  else is reported.
-/

import Mathlib.Data.List.Dedup

namespace ShadowTrace.Guardrails

/-- Lists and tuples; sets, frozen or not; and other sequences, such as a `deque`, which the
sanitizer returns as they are. -/
inductive Container
  | sequence | set | kept

/-- Nested data. A mapping is the list of its items, with its keys as texts; a container lists its
members in the order of iteration; bytes are what they decode to. -/
inductive Value (α : Type)
  | atom (value : α)
  | text (content : String)
  | bytes (decoded : String)
  | items (kind : Container) (members : List (Value α))
  | entries (fields : List (String × Value α))
  | model (dump : Value α)

/-- The regular expressions of the module, as the functions of texts that they are used for. -/
structure Policy where
  isSensitiveKey : String → Bool
  redactSensitiveText (replacement : String) : String → String

/-- The policy on a text with a bearer token. -/
def bearerPolicy : Policy where
  isSensitiveKey := fun key => key == "token"
  redactSensitiveText := fun replacement text =>
    if text = "Bearer abcdef" then "Bearer " ++ replacement else text

variable {α : Type} (policy : Policy) (replacement : String)

/-- `_sanitize`, by the number of levels that are left. -/
def sanitize : Nat → Value α → Value α
  | 0, _ => .text replacement
  | left + 1, .entries fields => .entries (fields.map fun entry => (entry.1,
      if policy.isSensitiveKey entry.1 then .text replacement else sanitize left entry.2))
  | _ + 1, .items .kept members => .items .kept members
  | left + 1, .items _ members => .items .sequence (members.map (sanitize left))
  | _ + 1, .text content => .text (policy.redactSensitiveText replacement content)
  | _ + 1, .bytes decoded => .text (policy.redactSensitiveText replacement decoded)
  | _ + 1, value => value

/-- `sanitize_data`. -/
def sanitizeData (maxDepth : Nat) (value : Value α) : Value α :=
  sanitize policy replacement (maxDepth + 1) value

/-! ### Non-interference -/

/-- **The same shape.** Two values that differ in what is stored under sensitive keys only. With
`wide`, also inside the containers that the sanitizer keeps, and with sets in any order. -/
inductive Alike (wide : Bool) : Value α → Value α → Prop
  | refl (value : Value α) : Alike wide value value
  | item (known : kind = .kept → wide = true) (alike : Alike wide this that)
      (rest : Alike wide (.items kind these) (.items kind those)) :
      Alike wide (.items kind (this :: these)) (.items kind (that :: those))
  | order (any : wide = true) (same : these.Perm those) :
      Alike wide (.items .set these) (.items .set those)
  | secret (sensitive : policy.isSensitiveKey key = true)
      (rest : Alike wide (.entries these) (.entries those)) :
      Alike wide (.entries ((key, this) :: these)) (.entries ((key, that) :: those))
  | entry (alike : Alike wide this that) (rest : Alike wide (.entries these) (.entries those)) :
      Alike wide (.entries ((key, this) :: these)) (.entries ((key, that) :: those))

theorem sanitize_alike {this that : Value α} (alike : Alike policy false this that) (left : Nat) :
    sanitize policy replacement left this = sanitize policy replacement left that := by
  induction alike generalizing left with
  | refl => rfl
  | order any => cases any
  | @item kind _ _ _ _ known _ _ same rest =>
    cases left with
    | zero => rfl
    | succ left =>
      have rest := rest (left + 1)
      cases kind with
      | kept => cases known rfl
      | sequence | set =>
        simp only [sanitize, Value.items.injEq, List.map_cons, true_and] at rest ⊢
        rw [rest, same left]
  | entry _ _ same rest =>
    cases left with
    | zero => rfl
    | succ left =>
      have rest := rest (left + 1)
      simp only [sanitize, Value.entries.injEq, List.map_cons] at rest ⊢
      rw [rest, same left]
  | secret sensitive _ rest =>
    cases left with
    | zero => rfl
    | succ left =>
      have rest := rest (left + 1)
      simp only [sanitize, Value.entries.injEq, List.map_cons] at rest ⊢
      rw [rest, if_pos sensitive, if_pos sensitive]

/-- **The sanitizer is non-interfering** in mappings, lists, tuples and sets. Values that differ
under sensitive keys only, at any depth and of any type, have the same sanitized form. -/
theorem sanitizeData_alike (maxDepth : Nat) (this that : Value α)
    (alike : Alike policy false this that) :
    sanitizeData policy replacement maxDepth this = sanitizeData policy replacement maxDepth that :=
  sanitize_alike policy replacement alike (maxDepth + 1)

theorem sanitizeData_alike_token :
    let output : Value Nat → Value Nat := fun secret =>
      .entries [("ids", .items .set [.atom 1, .atom 2]),
        ("users", .items .sequence [.entries [("token", secret), ("name", .text "root")]])]
    sanitizeData bearerPolicy "[REDACTED]" 32 (output (.atom 7))
      = sanitizeData bearerPolicy "[REDACTED]" 32 (output (.entries [("user", .text "root")])) :=
  sanitizeData_alike bearerPolicy "[REDACTED]" 32 _ _
    (.entry (.refl _) (.entry (.item nofun (.secret rfl (.refl _)) (.refl _)) (.refl _)))

/-- **A token inside a `deque` is left in the result**, and the order of a set shows there. -/
theorem sanitizeData_reveals :
    let queue : Nat → Value Nat := fun secret =>
      .entries [("x", .items .kept [.entries [("token", .atom secret)]])]
    let pair : Nat → Nat → Value Nat := fun first second => .items .set [.atom first, .atom second]
    (Alike bearerPolicy true (queue 1) (queue 2)
        ∧ sanitizeData bearerPolicy "[REDACTED]" 32 (queue 1)
          ≠ sanitizeData bearerPolicy "[REDACTED]" 32 (queue 2))
      ∧ Alike bearerPolicy true (pair 0 8) (pair 8 0)
      ∧ sanitizeData bearerPolicy "[REDACTED]" 32 (pair 0 8)
        ≠ sanitizeData bearerPolicy "[REDACTED]" 32 (pair 8 0) := by
  refine ⟨⟨.entry (.item (fun _ => rfl) (.secret rfl (.refl _)) (.refl _)) (.refl _), ?_⟩,
    .order rfl (.swap _ _ _), ?_⟩
  · simp [sanitizeData, sanitize, bearerPolicy]
  · simp [sanitizeData, sanitize]

/-! ### The leak check -/

/-- `_walk_keys`, by the number of levels that are left. -/
def walkKeys : Nat → Value α → List (String × Value α)
  | left + 1, .model dump => walkKeys left dump
  | left + 1, .entries fields => fields.flatMap fun entry => entry :: walkKeys left entry.2
  | left + 1, .items .sequence members | left + 1, .items .kept members =>
    members.flatMap (walkKeys left)
  | _, _ => []

/-- The body of the loop over the entries. -/
def leaks (entry : String × Value α) : Bool :=
  policy.isSensitiveKey entry.1 || match entry.2 with
    | .text content => policy.redactSensitiveText replacement content != content
    | _ => false

structure GuardViolation (Rule : Type) where
  rule : Rule
  detail : String

/-- `_check_no_pii_leak`. -/
def checkNoPiiLeak {Rule : Type} (rule : Rule) (output : Value α) : List (GuardViolation Rule) :=
  match ((walkKeys 25 output).filter (leaks policy replacement)).map Prod.fst with
  | [] => []
  | leaked => [⟨rule, "potential secret/PII leakage in fields: "
      ++ ", ".intercalate ((leaked.dedup.mergeSort (· ≤ ·)).take 12)⟩]

/-- A value as the sanitizer gives it back when there is nothing to hide. -/
def plain : Nat → Value α → Value α
  | left + 1, .entries fields =>
    .entries (fields.map fun entry => (entry.1, plain left entry.2))
  | _ + 1, .items .kept members => .items .kept members
  | left + 1, .items _ members => .items .sequence (members.map (plain left))
  | _ + 1, .bytes decoded => .text decoded
  | _, value => value

/-- What the guard sanitizes: a model as its dump. -/
def dumped : Value α → Value α
  | .model dump => dump
  | output => output

/-- **What the sanitizer changes**: a text that it redacts, a value under a sensitive key other than
the replacement, and what stands below its last level. -/
def Changes : Nat → Value α → Prop
  | 0, value => value ≠ .text replacement
  | left + 1, .entries fields => ∃ entry ∈ fields,
      (policy.isSensitiveKey entry.1 = true ∧ plain left entry.2 ≠ .text replacement)
        ∨ (policy.isSensitiveKey entry.1 = false ∧ Changes left entry.2)
  | left + 1, .items kind members => kind ≠ .kept ∧ ∃ mem ∈ members, Changes left mem
  | _ + 1, .text content | _ + 1, .bytes content =>
    policy.redactSensitiveText replacement content ≠ content
  | _ + 1, _ => False

/-- **A hidden change.** A value changes that is no entry of a mapping: an item, bytes, the value
itself, what is in a set, or anything below the levels that the check walks. -/
def Hidden (deep : Nat) : Nat → Value α → Prop
  | left + 1, .entries fields => ∃ entry ∈ fields, policy.isSensitiveKey entry.1 = false
      ∧ (∀ content, entry.2 ≠ .text content) ∧ Hidden deep left entry.2
  | left + 1, .items .sequence members => ∃ mem ∈ members, Hidden deep left mem
  | left, value => Changes policy replacement (left + (deep + 1)) value

/-- The change that the check does not see, of a model one level further down. -/
def Unseen : Value α → Prop
  | .model dump => Hidden policy replacement 8 24 dump
  | output => Hidden policy replacement 7 25 output

section

variable {policy replacement} {deep left : Nat} {value : Value α}

theorem changes_iff : sanitize policy replacement left value ≠ plain left value
    ↔ Changes policy replacement left value := by
  induction left generalizing value with
  | zero => cases value <;> exact ne_comm
  | succ left ih =>
    cases value with
    | entries fields =>
      simp only [sanitize, plain, ne_eq, Value.entries.injEq, List.map_inj_left, not_forall,
        exists_prop]
      refine exists_congr fun entry => and_congr_right fun _ => ?_
      cases policy.isSensitiveKey entry.1 with
      | true => simp [eq_comm]
      | false => simpa using ih
    | items kind members =>
      cases kind with
      | kept => simp [sanitize, plain, Changes]
      | sequence | set =>
        simp only [sanitize, plain, Changes, ne_eq, Value.items.injEq, List.map_inj_left,
          not_forall, exists_prop, true_and, reduceCtorEq, not_false_eq_true]
        exact exists_congr fun mem => and_congr_right fun _ => ih
    | text | bytes | atom | model => simp [sanitize, plain, Changes]

theorem hidden_changes (hidden : Hidden policy replacement deep left value) :
    Changes policy replacement (left + (deep + 1)) value := by
  induction left generalizing value with
  | zero => cases value <;> exact hidden
  | succ left ih =>
    cases value with
    | entries fields =>
      obtain ⟨entry, mem, open_, -, hidden⟩ := hidden
      rw [Nat.succ_add]
      exact ⟨entry, mem, .inr ⟨open_, ih hidden⟩⟩
    | items kind members =>
      cases kind with
      | set | kept => exact hidden
      | sequence =>
        obtain ⟨mem, listed, hidden⟩ := hidden
        rw [Nat.succ_add]
        exact ⟨nofun, mem, listed, ih hidden⟩
    | _ => exact hidden

/-- **A change is hidden or leaks**: the check walks the levels that it has left. -/
theorem hidden_or_leaks (changed : Changes policy replacement (left + (deep + 1)) value) :
    Hidden policy replacement deep left value
      ∨ ∃ entry ∈ walkKeys left value, leaks policy replacement entry = true := by
  induction left generalizing value with
  | zero => cases value <;> exact .inl changed
  | succ left ih =>
    cases value with
    | entries fields =>
      rw [Nat.succ_add] at changed
      obtain ⟨entry, mem, ⟨sensitive, -⟩ | ⟨open_, changed⟩⟩ := changed
      · refine .inr ⟨entry, List.mem_flatMap.mpr ⟨entry, mem, .head _⟩, ?_⟩
        simp [leaks, sensitive]
      by_cases texts : ∃ content, entry.2 = .text content
      · obtain ⟨content, text⟩ := texts
        rw [text] at changed
        have redacted : policy.redactSensitiveText replacement content ≠ content := changed
        refine .inr ⟨entry, List.mem_flatMap.mpr ⟨entry, mem, .head _⟩, ?_⟩
        simpa [leaks, text, open_] using redacted
      · obtain hidden | ⟨found, listed, leaking⟩ := ih changed
        · exact .inl ⟨entry, mem, open_, not_exists.mp texts, hidden⟩
        · exact .inr ⟨found, List.mem_flatMap.mpr ⟨entry, mem, .tail _ listed⟩, leaking⟩
    | items kind members =>
      cases kind with
      | set | kept => exact .inl changed
      | sequence =>
        rw [Nat.succ_add] at changed
        obtain ⟨-, mem, listed, changed⟩ := changed
        obtain hidden | ⟨found, inside, leaking⟩ := ih changed
        · exact .inl ⟨mem, listed, hidden⟩
        · exact .inr ⟨found, List.mem_flatMap.mpr ⟨mem, listed, inside⟩, leaking⟩
    | _ => exact .inl changed

end

theorem changes_leak_iff (deep left : Nat) (value : Value α) :
    (sanitize policy replacement (left + (deep + 1)) value ≠ plain (left + (deep + 1)) value →
        ∃ entry ∈ walkKeys left value, leaks policy replacement entry = true)
      ↔ (Hidden policy replacement deep left value →
        ∃ entry ∈ walkKeys left value, leaks policy replacement entry = true) := by
  rw [changes_iff]
  exact ⟨fun seen hidden => seen (hidden_changes hidden),
    fun seen changed => (hidden_or_leaks changed).elim seen id⟩

/-- **What the leak check sees.** It reports the output if the sanitizer changes a value in it,
exactly when no change is hidden or there is an entry that is reported anyway. -/
theorem change_reported_iff {Rule : Type} (rule : Rule) (output : Value α) :
    (sanitizeData policy replacement 32 (dumped output) ≠ plain 33 (dumped output) →
        checkNoPiiLeak policy replacement rule output ≠ [])
      ↔ (Unseen policy replacement output →
        ∃ entry ∈ walkKeys 25 output, leaks policy replacement entry = true) := by
  have reported : checkNoPiiLeak policy replacement rule output ≠ []
      ↔ ∃ entry ∈ walkKeys 25 output, leaks policy replacement entry = true := by
    unfold checkNoPiiLeak
    split
    · rename_i none_
      simpa using none_
    · rename_i some_
      simpa using some_
  rw [reported]
  cases output with
  | model dump => exact changes_leak_iff policy replacement 8 24 dump
  | _ => exact changes_leak_iff policy replacement 7 25 _

/-- **A token in a list is not reported.** -/
theorem change_unreported :
    let output : Value Unit :=
      .model (.entries [("items", .items .sequence [.text "Bearer abcdef"])])
    sanitizeData bearerPolicy "[REDACTED]" 32 (dumped output) ≠ plain 33 (dumped output)
      ∧ checkNoPiiLeak bearerPolicy "[REDACTED]" "no_pii_leak" output = [] := by
  refine ⟨?_, rfl⟩
  simp [sanitizeData, sanitize, plain, dumped, bearerPolicy]

end ShadowTrace.Guardrails
