import Mathlib.Data.List.Basic
import Mathlib.Data.Nat.Find

/-! # Lists of positions

A list that keeps, in order, the positions at which a growing list has the elements of a kind. -/

namespace Lib

variable {α : Type*}

/-- The positions are those of the elements with `p`, in order. -/
structure Positions (p : α → Prop) (xs : List α) (ids : List Nat) : Prop where
  sorted : ids.Pairwise (· < ·)
  mem : ∀ i, i ∈ ids ↔ ∃ x, xs[i]? = some x ∧ p x

/-- The first element with `p`, at the position `i`. -/
structure IsFirst (p : α → Prop) (xs : List α) (i : Nat) (x : α) : Prop where
  get : xs[i]? = some x
  holds : p x
  first : ∀ j y, j < i → xs[j]? = some y → ¬ p y

theorem IsFirst.unique {p : α → Prop} {xs : List α} {i j : Nat} {x y : α}
    (hi : IsFirst p xs i x) (hj : IsFirst p xs j y) : i = j ∧ x = y := by
  have hij : i = j := by
    obtain hlt | heq | hgt := Nat.lt_trichotomy i j
    · exact absurd hi.holds (hj.first i x hlt hi.get)
    · exact heq
    · exact absurd hj.holds (hi.first j y hgt hj.get)
  subst hij
  exact ⟨rfl, Option.some.inj (hi.get.symm.trans hj.get)⟩

open Classical in
theorem exists_isFirst {p : α → Prop} {xs : List α} (h : ∃ x ∈ xs, p x) :
    ∃ i x, IsFirst p xs i x := by
  obtain ⟨x, hx, hp⟩ := h
  obtain ⟨i, hi⟩ := List.getElem?_of_mem hx
  have hsome : ∃ i, ∃ x, xs[i]? = some x ∧ p x := ⟨i, x, hi, hp⟩
  obtain ⟨y, hy, hpy⟩ := Nat.find_spec hsome
  refine ⟨Nat.find hsome, y, hy, hpy, fun j z hj hz hpz => ?_⟩
  exact Nat.find_min hsome hj ⟨z, hz, hpz⟩

namespace Positions

variable {p q : α → Prop} {xs : List α} {ids : List Nat}

theorem nil (p : α → Prop) : Positions p [] [] :=
  ⟨List.Pairwise.nil, fun i => by simp⟩

theorem all (xs : List α) : Positions (fun _ => True) xs (List.range xs.length) := by
  refine ⟨List.pairwise_lt_range, fun i => ?_⟩
  rw [List.mem_range]
  constructor
  · intro h
    exact ⟨xs[i], List.getElem?_eq_getElem h, trivial⟩
  · intro ⟨x, hx, _⟩
    exact (List.getElem?_eq_some_iff.mp hx).1

theorem getElem?_snoc_eq_some {i : Nat} {a x : α} :
    (xs ++ [a])[i]? = some x ↔ xs[i]? = some x ∨ i = xs.length ∧ x = a := by
  obtain hlt | heq | hgt := Nat.lt_trichotomy i xs.length
  · rw [List.getElem?_append_left hlt]
    constructor
    · exact Or.inl
    · intro h
      exact h.resolve_right fun h => by omega
  · subst heq
    simp [eq_comm]
  · have hnone : xs[i]? = none := List.getElem?_eq_none (by omega)
    have hbeyond : (xs ++ [a])[i]? = none :=
      List.getElem?_eq_none (by rw [List.length_append, List.length_singleton]; omega)
    rw [hnone, hbeyond]
    constructor
    · exact nofun
    · intro h
      obtain h | h := h
      · cases h
      · omega

theorem snoc (h : Positions p xs ids) {a : α} (ha : p a) :
    Positions p (xs ++ [a]) (ids ++ [xs.length]) := by
  constructor
  · rw [List.pairwise_append]
    refine ⟨h.sorted, List.pairwise_singleton _ _, fun i hi j hj => ?_⟩
    obtain ⟨x, hx, -⟩ := (h.mem i).mp hi
    rw [List.mem_singleton.mp hj]
    exact (List.getElem?_eq_some_iff.mp hx).1
  · intro i
    rw [List.mem_append, List.mem_singleton, h.mem]
    simp only [getElem?_snoc_eq_some]
    constructor
    · intro hi
      obtain ⟨x, hx, hp⟩ | rfl := hi
      · exact ⟨x, Or.inl hx, hp⟩
      · exact ⟨a, Or.inr ⟨rfl, rfl⟩, ha⟩
    · intro ⟨x, hx, hp⟩
      obtain hx | ⟨hi, -⟩ := hx
      · exact Or.inl ⟨x, hx, hp⟩
      · exact Or.inr hi

theorem snoc_of_not (h : Positions p xs ids) {a : α} (ha : ¬ p a) :
    Positions p (xs ++ [a]) ids := by
  refine ⟨h.sorted, fun i => ?_⟩
  rw [h.mem]
  simp only [getElem?_snoc_eq_some]
  constructor
  · intro ⟨x, hx, hp⟩
    exact ⟨x, Or.inl hx, hp⟩
  · intro ⟨x, hx, hp⟩
    obtain hx | ⟨-, rfl⟩ := hx
    · exact ⟨x, hx, hp⟩
    · exact absurd hp ha

/-- The first of the positions that passes a test is the first place of such an element. -/
theorem find?_eq_some_iff (h : Positions p xs ids) (hq : ∀ x, q x → p x) {test : Nat → Bool}
    (htest : ∀ i x, xs[i]? = some x → p x → (test i = true ↔ q x)) {i : Nat} :
    ids.find? test = some i ↔ ∃ x, IsFirst q xs i x := by
  rw [List.find?_eq_some_iff_append]
  constructor
  · intro ⟨hpass, pre, post, hids, hpre⟩
    have hmem : i ∈ ids := hids ▸ List.mem_append_right pre List.mem_cons_self
    obtain ⟨x, hx, hpx⟩ := (h.mem i).mp hmem
    refine ⟨x, hx, (htest i x hx hpx).mp hpass, fun j y hj hy hqy => ?_⟩
    have hjmem : j ∈ ids := (h.mem j).mpr ⟨y, hy, hq y hqy⟩
    have hsorted := h.sorted
    rw [hids] at hjmem hsorted
    obtain hjpre | hjpost := List.mem_append.mp hjmem
    · have hfail := hpre j hjpre
      rw [(htest j y hy (hq y hqy)).mpr hqy] at hfail
      cases hfail
    · obtain rfl | hjpost := List.mem_cons.mp hjpost
      · exact absurd hj (Nat.lt_irrefl j)
      · have hlater := List.rel_of_pairwise_cons (List.pairwise_append.mp hsorted).2.1 hjpost
        omega
  · intro ⟨x, hx⟩
    have hmem : i ∈ ids := (h.mem i).mpr ⟨x, hx.get, hq x hx.holds⟩
    obtain ⟨pre, post, hids⟩ := List.append_of_mem hmem
    refine ⟨(htest i x hx.get (hq x hx.holds)).mpr hx.holds, pre, post, hids, fun j hj => ?_⟩
    have hsorted := h.sorted
    have hjmem : j ∈ ids := hids ▸ List.mem_append_left _ hj
    rw [hids] at hsorted
    have hlt : j < i := (List.pairwise_append.mp hsorted).2.2 j hj i List.mem_cons_self
    obtain ⟨y, hy, hpy⟩ := (h.mem j).mp hjmem
    rw [Bool.not_eq_true', ← Bool.not_eq_true, htest j y hy hpy]
    exact hx.first j y hlt hy

end Positions
end Lib
