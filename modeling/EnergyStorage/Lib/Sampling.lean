import Mathlib.Data.List.Basic

/-! # What a periodic timer samples

A timer looks at the clock now and then.  The first look at or after the due time runs the
timer, and the next is due a period after that look. -/

namespace Lib

/-- The looks that run the timer. -/
def sample (period : Nat) : Nat → List Nat → List Nat
  | _, [] => []
  | due, t :: ts => if due ≤ t then t :: sample period (t + period) ts else sample period due ts

/-- When the timer is due after the looks. -/
def nextDue (period : Nat) : Nat → List Nat → Nat
  | due, [] => due
  | due, t :: ts => if due ≤ t then nextDue period (t + period) ts else nextDue period due ts

variable (period : Nat)

theorem sample_snoc (due : Nat) (ts : List Nat) (t : Nat) :
    sample period due (ts ++ [t]) =
      sample period due ts ++ if nextDue period due ts ≤ t then [t] else [] := by
  induction ts generalizing due with
  | nil => rfl
  | cons x ts ih =>
    rw [List.cons_append, sample, sample, nextDue]
    by_cases hx : due ≤ x
    · rw [if_pos hx, if_pos hx, if_pos hx, ih]
      rfl
    · rw [if_neg hx, if_neg hx, if_neg hx, ih]

theorem nextDue_snoc (due : Nat) (ts : List Nat) (t : Nat) :
    nextDue period due (ts ++ [t]) =
      if nextDue period due ts ≤ t then t + period else nextDue period due ts := by
  induction ts generalizing due with
  | nil => rfl
  | cons x ts ih =>
    rw [List.cons_append, nextDue, nextDue]
    by_cases hx : due ≤ x
    · rw [if_pos hx, if_pos hx, ih]
    · rw [if_neg hx, if_neg hx, ih]

/-- The timer runs at the due time at the earliest, and then no more than once a period. -/
theorem sample_spaced (due : Nat) (ts : List Nat) :
    (∀ t ∈ sample period due ts, due ≤ t) ∧
      (sample period due ts).Pairwise fun a b => a + period ≤ b := by
  induction ts generalizing due with
  | nil => exact ⟨nofun, List.Pairwise.nil⟩
  | cons x ts ih =>
    rw [sample]
    by_cases hx : due ≤ x
    · rw [if_pos hx]
      obtain ⟨hafter, hspaced⟩ := ih (x + period)
      refine ⟨?_, List.pairwise_cons.mpr ⟨hafter, hspaced⟩⟩
      intro t ht
      obtain rfl | ht := List.mem_cons.mp ht
      · exact hx
      · have hlater := hafter t ht
        omega
    · rw [if_neg hx]
      exact ih due

end Lib
