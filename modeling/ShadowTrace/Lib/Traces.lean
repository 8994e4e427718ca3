/-
**Traces of external calls.**

A transaction can be rolled back, a call that left the process cannot. The calls a run makes are
therefore a list that only grows, and "never twice without permission" is a property of that
list.
-/

import Mathlib.Data.List.Induction

namespace Trace

variable {β : Type}

/-- Between any two `send` entries there is a `clear` entry. -/
def Separated (send clear : β → Prop) (trace : List β) : Prop :=
  ∀ before first between second after,
    trace = before ++ first :: between ++ second :: after →
    send first → send second → ∃ permission ∈ between, clear permission

/-- The monitor: a `send` raises it, a `clear` lowers it. -/
def outstanding (send clear : β → Bool) (trace : List β) : Bool :=
  trace.foldl (fun raised entry =>
    if send entry then true else if clear entry then false else raised)
    false

section Monitor

variable {send clear : β → Bool}

theorem outstanding_append_single (trace : List β) (entry : β) :
    outstanding send clear (trace ++ [entry])
      = if send entry then true else if clear entry then false
        else outstanding send clear trace := by
  simp [outstanding]

theorem exists_clear_of_not_outstanding {before after : List β} {first : β}
    (sent : send first = true)
    (low : outstanding send clear (before ++ first :: after) = false) :
    ∃ permission ∈ after, clear permission = true := by
  by_contra none_
  rw [outstanding, List.foldl_append, List.foldl_cons, if_pos sent] at low
  -- nothing lowers the monitor after the send
  refine Bool.false_ne_true (low.symm.trans (List.foldlRecOn (motive := (· = true)) after _ rfl ?_))
  intro _ raised entry mem
  have kept : ¬ clear entry = true := fun cleared => none_ ⟨entry, mem, cleared⟩
  rw [raised, if_neg kept, ite_self]

theorem outstanding_append_quiet {trace quiet : List β} (low : outstanding send clear trace = false)
    (still : ∀ entry ∈ quiet, send entry = false) :
    outstanding send clear (trace ++ quiet) = false := by
  rw [outstanding, List.foldl_append]
  exact List.foldlRecOn (motive := (· = false)) quiet _ low fun _ lower entry mem => by
    simp [still entry mem, lower]

theorem separated_nil : Separated (send · = true) (clear · = true) ([] : List β) := by
  intro _ _ _ _ _ split
  simp at split

/-- **One more entry.** A separated trace stays separated when the entry it grows by is not a send,
or is a send made while nothing is outstanding. -/
theorem Separated.append {trace : List β} {entry : β}
    (separated : Separated (send · = true) (clear · = true) trace)
    (allowed : send entry = true → outstanding send clear trace = false) :
    Separated (send · = true) (clear · = true) (trace ++ [entry]) := by
  intro before first between second after split sentFirst sentSecond
  rcases List.eq_nil_or_concat after with rfl | ⟨rest, last, rfl⟩
  · -- the second send is the new entry
    rw [List.append_assoc, List.cons_append] at split
    have shape : trace ++ [entry] = (before ++ first :: between) ++ [second] := by
      rw [split]
      simp
    obtain ⟨rfl, same⟩ := List.append_inj' shape rfl
    obtain rfl : entry = second := by simpa using same
    exact exists_clear_of_not_outstanding sentFirst (allowed sentSecond)
  · have shape : trace ++ [entry]
        = (before ++ first :: between ++ second :: rest) ++ [last] := by
      rw [split]
      simp
    obtain ⟨rfl, -⟩ := List.append_inj' shape rfl
    exact separated before first between second rest rfl sentFirst sentSecond

theorem Separated.append_quiet {trace quiet : List β}
    (separated : Separated (send · = true) (clear · = true) trace)
    (still : ∀ entry ∈ quiet, send entry = false) :
    Separated (send · = true) (clear · = true) (trace ++ quiet) := by
  induction quiet generalizing trace with
  | nil => simpa using separated
  | cons entry _ ih =>
    have noSend := still entry List.mem_cons_self
    have grown : Separated (send · = true) (clear · = true) (trace ++ [entry]) :=
      separated.append fun sends => by rw [noSend] at sends; cases sends
    have rest := ih grown fun other mem => still other (List.mem_cons_of_mem _ mem)
    simpa using rest

end Monitor

end Trace
