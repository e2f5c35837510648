import Mathlib.Algebra.Order.Group.Nat
import Mathlib.Data.List.Nodup

/-! # Pages of a list

A page is a slice of fixed length; pages count from 1. -/

namespace Lib
namespace Paging

variable {α : Type*}

/-- `len` elements from the position `pos` on. -/
def slice (pos len : Nat) (xs : List α) : List α := (xs.drop pos).take len

def pageCount (size n : Nat) : Nat := (n + size - 1) / size

/-- The page number nearest to `k` among `1..count`; 1 if there is no page. -/
def clamp (count k : Nat) : Nat := max 1 (min k count)

/-- The elements `[(k - 1) * size, k * size)`. -/
def page (size k : Nat) (xs : List α) : List α := slice ((k - 1) * size) size xs

@[simp] theorem slice_nil (pos len : Nat) : slice pos len ([] : List α) = [] := by
  rw [slice, List.drop_nil, List.take_nil]

theorem length_slice (pos len : Nat) (xs : List α) :
    (slice pos len xs).length = min len (xs.length - pos) := by
  rw [slice, List.length_take, List.length_drop]

theorem slice_add (pos a b : Nat) (xs : List α) :
    slice pos (a + b) xs = slice pos a xs ++ slice (pos + a) b xs := by
  rw [slice, slice, slice, List.take_add, List.drop_drop]

/-- A slice of a longer slice. -/
theorem slice_slice {b len len' : Nat} (h : b + len ≤ len') (a : Nat) (xs : List α) :
    slice b len (slice a len' xs) = slice (a + b) len xs := by
  rw [slice, slice, slice, List.drop_take, List.take_take, List.drop_drop,
    Nat.min_eq_left (by omega)]

theorem getElem?_slice {i len : Nat} (hi : i < len) (pos : Nat) (xs : List α) :
    (slice pos len xs)[i]? = xs[pos + i]? := by
  rw [slice, List.getElem?_take_of_lt hi, List.getElem?_drop]

theorem filterMap_getElem?_range (len pos : Nat) (xs : List α) :
    (List.range len).filterMap (fun i => xs[pos + i]?) = slice pos len xs := by
  induction len with
  | zero => rw [slice, List.take_zero, List.range_zero, List.filterMap_nil]
  | succ len ih =>
    rw [List.range_succ, List.filterMap_append, ih, slice_add, slice, slice, List.take_one,
      List.head?_drop]
    cases h : xs[pos + len]? with
    | none => simp [h]
    | some x => simp [h]

/-- In a list without repetitions a slice that is not empty tells its position. -/
theorem slice_inj {a b len : Nat} {xs : List α} (hxs : xs.Nodup) (hlen : 0 < len)
    (hb : b < xs.length) : slice a len xs = slice b len xs ↔ a = b := by
  constructor
  · intro h
    have hfirst : xs[a]? = xs[b]? := by
      rw [← Nat.add_zero a, ← getElem?_slice hlen, h, getElem?_slice hlen, Nat.add_zero]
    exact ((List.getElem?_inj hb hxs).mp hfirst.symm).symm
  · intro h
    rw [h]

theorem pageCount_eq_zero {size n : Nat} (hsize : 0 < size) : pageCount size n = 0 ↔ n = 0 := by
  rw [pageCount, Nat.div_eq_zero_iff]
  omega

/-- Every page that is counted has a first element. -/
theorem pos_lt_of_le_pageCount {size n k : Nat} (hsize : 0 < size) (hk : 0 < k)
    (h : k ≤ pageCount size n) : (k - 1) * size < n := by
  have hmul : k * size ≤ n + size - 1 := (Nat.le_div_iff_mul_le hsize).mp h
  have hsplit : (k - 1) * size + size = k * size := by
    rw [← Nat.succ_mul, Nat.succ_eq_add_one, Nat.sub_add_cancel hk]
  omega

theorem clamp_pos (count k : Nat) : 0 < clamp count k := by
  unfold clamp
  omega

theorem clamp_le {count : Nat} (h : count ≠ 0) (k : Nat) : clamp count k ≤ count := by
  unfold clamp
  omega

/-- A page that exists is its own nearest one. -/
theorem clamp_of_le {count k : Nat} (hk : 0 < k) (h : k ≤ count) : clamp count k = k := by
  unfold clamp
  omega

theorem clamp_clamp_le (count old k : Nat) : clamp count (clamp old k) ≤ clamp count k := by
  unfold clamp
  omega

/-- A page after the last one is empty. -/
theorem page_eq_nil_iff {size k : Nat} {xs : List α} (hsize : 0 < size) :
    page size k xs = [] ↔ xs.length ≤ (k - 1) * size := by
  rw [← List.length_eq_zero_iff, page, length_slice]
  omega

/-- Pages in a row are one slice. -/
theorem flatMap_page {start : Nat} (hpos : 0 < start) (size n : Nat) (xs : List α) :
    (List.range' start n).flatMap (fun k => page size k xs) =
      slice ((start - 1) * size) (n * size) xs := by
  induction n with
  | zero => rw [Nat.zero_mul, slice, List.take_zero, List.range'_zero, List.flatMap_nil]
  | succ n ih =>
    have hlast : (start + n - 1) * size = (start - 1) * size + n * size := by
      rw [← Nat.add_mul]
      congr 1
      omega
    rw [List.range'_1_concat, List.flatMap_append, ih, List.flatMap_singleton, Nat.succ_mul,
      slice_add, page, hlast]

end Paging
end Lib
