import Mathlib.Algebra.Order.Floor.Ring
import Mathlib.Tactic.Linarith

/-! # Rounding to the nearest integer

Halves are rounded away from zero.  What a rounded value says about the exact one is
on which side of each half step it lies. -/

namespace Lib
namespace Rounding

variable {K : Type*} [Field K] [LinearOrder K]

/-! ### Saturation -/

def clamp (top : ℤ) (q : K) : K := max 0 (min q top)

theorem clamp_nonneg (top : ℤ) (q : K) : 0 ≤ clamp top q := le_max_left _ _

/-- Inside the range saturation keeps every comparison. -/
theorem le_clamp_iff {top : ℤ} {c : K} (h0 : 0 < c) (hc : c ≤ top) (q : K) :
    c ≤ clamp top q ↔ c ≤ q := by
  rw [clamp, le_max_iff, le_min_iff, and_iff_left hc]
  constructor
  · rintro (h | h)
    · exact absurd h0 (not_lt.mpr h)
    · exact h
  · exact Or.inr

variable [IsStrictOrderedRing K]

theorem clamp_le {top : ℤ} (htop : 0 ≤ top) (q : K) : clamp top q ≤ top :=
  max_le (Int.cast_nonneg htop) (min_le_right _ _)

theorem clamp_eq_min_max {top : ℤ} (htop : 0 ≤ top) (q : K) :
    clamp top q = min (max q 0) top := by
  have hcast : (0 : K) ≤ top := Int.cast_nonneg htop
  rw [clamp, max_min_distrib_left, max_eq_right hcast, max_comm]

/-! ### Rounding -/

variable [FloorRing K]

def nearest (q : K) : ℤ := if 0 ≤ q then ⌊q + 1 / 2⌋ else -⌊-q + 1 / 2⌋

theorem le_nearest_iff {q : K} (hq : 0 ≤ q) (n : ℤ) : n ≤ nearest q ↔ (n : K) - 1 / 2 ≤ q := by
  rw [nearest, if_pos hq, Int.le_floor]
  constructor
  · intro h
    linarith
  · intro h
    linarith

theorem nearest_nonneg {q : K} (hq : 0 ≤ q) : 0 ≤ nearest q := by
  rw [le_nearest_iff hq, Int.cast_zero]
  linarith

theorem nearest_le {q : K} (hq : 0 ≤ q) {top : ℤ} (h : q ≤ top) : nearest q ≤ top := by
  have hnot : ¬ top + 1 ≤ nearest q := by
    rw [le_nearest_iff hq, Int.cast_add, Int.cast_one]
    intro hle
    linarith
  omega

theorem nearest_clamp_range {top : ℤ} (htop : 0 ≤ top) (q : K) :
    0 ≤ nearest (clamp top q) ∧ nearest (clamp top q) ≤ top :=
  ⟨nearest_nonneg (clamp_nonneg top q), nearest_le (clamp_nonneg top q) (clamp_le htop q)⟩

theorem le_nearest_clamp_iff {top n : ℤ} (h1 : 1 ≤ n) (hn : n ≤ top) (q : K) :
    n ≤ nearest (clamp top q) ↔ (n : K) - 1 / 2 ≤ q := by
  have h1' : (1 : K) ≤ n := by exact_mod_cast h1
  have hn' : (n : K) ≤ top := Int.cast_le.mpr hn
  rw [le_nearest_iff (clamp_nonneg top q), le_clamp_iff (by linarith) (by linarith)]

/-- Two values round alike when no half step in the range separates them. -/
theorem nearest_clamp_eq_iff {top : ℤ} (htop : 0 ≤ top) (p q : K) :
    nearest (clamp top p) = nearest (clamp top q) ↔
      ∀ n : ℤ, 1 ≤ n → n ≤ top → ((n : K) - 1 / 2 ≤ p ↔ (n : K) - 1 / 2 ≤ q) := by
  constructor
  · intro h n h1 hn
    rw [← le_nearest_clamp_iff h1 hn p, ← le_nearest_clamp_iff h1 hn q, h]
  · intro h
    have hcompare : ∀ n : ℤ, 1 ≤ n → n ≤ top →
        (n ≤ nearest (clamp top p) ↔ n ≤ nearest (clamp top q)) := by
      intro n h1 hn
      rw [le_nearest_clamp_iff h1 hn p, le_nearest_clamp_iff h1 hn q]
      exact h n h1 hn
    have hp := nearest_clamp_range htop p
    have hq := nearest_clamp_range htop q
    -- each rounded value is compared at the other one
    have hpq := hcompare (nearest (clamp top p))
    have hqp := hcompare (nearest (clamp top q))
    omega

/-! ### Whole bounds -/

theorem le_nearest {n : ℤ} {q : K} (h : (n : K) ≤ q) : n ≤ nearest q := by
  rw [nearest]
  split
  · rw [Int.le_floor]
    linarith
  · have hfloor : ⌊-q + 1 / 2⌋ < -n + 1 := by
      rw [Int.floor_lt, Int.cast_add, Int.cast_neg, Int.cast_one]
      linarith
    omega

theorem nearest_le_of_le {n : ℤ} {q : K} (h : q ≤ n) : nearest q ≤ n := by
  rw [nearest]
  split
  · have hfloor : ⌊q + 1 / 2⌋ < n + 1 := by
      rw [Int.floor_lt, Int.cast_add, Int.cast_one]
      linarith
    omega
  · have hfloor : -n ≤ ⌊-q + 1 / 2⌋ := by
      rw [Int.le_floor, Int.cast_neg]
      linarith
    omega

theorem nearest_cast (n : ℤ) : nearest (n : K) = n :=
  le_antisymm (nearest_le_of_le le_rfl) (le_nearest le_rfl)

theorem nearest_lt {n : ℤ} {q : K} (hq : 0 ≤ q) (h : q < n - 1 / 2) : nearest q < n := by
  have hnot : ¬ n ≤ nearest q := by
    rw [le_nearest_iff hq]
    exact not_le.mpr h
  omega

/-- The nearest number of a range. -/
def saturate (lo hi n : ℤ) : ℤ := if n < lo then lo else if hi < n then hi else n

theorem saturate_of_mem {lo hi n : ℤ} (hlo : lo ≤ n) (hhi : n ≤ hi) : saturate lo hi n = n := by
  rw [saturate, if_neg (by omega), if_neg (by omega)]

theorem saturate_mem {lo hi : ℤ} (h : lo ≤ hi) (n : ℤ) :
    lo ≤ saturate lo hi n ∧ saturate lo hi n ≤ hi := by
  unfold saturate
  split
  · omega
  · split <;> omega

/-- Saturating to a wider range first changes nothing. -/
theorem saturate_saturate {lo hi lo' hi' : ℤ} (hlo : lo' ≤ lo) (h : lo ≤ hi) (hhi : hi ≤ hi')
    (n : ℤ) : saturate lo hi (saturate lo' hi' n) = saturate lo hi n := by
  unfold saturate
  split_ifs <;> omega

end Rounding
end Lib
