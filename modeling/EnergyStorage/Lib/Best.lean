import Mathlib.Data.List.Basic
import Mathlib.Data.List.Induction
import Mathlib.Data.List.Nodup
import Mathlib.Order.Lattice

/-! # Keeping the best element of each key

Elements arrive one after another.  Of those with one key only the best is kept, and of equals
the first; what is kept stays in the order in which the keys first came. -/

namespace Lib

variable {α κ β : Type*} [DecidableEq κ] [LinearOrder β]

/-- The kept elements, at most one of each key. -/
structure BestOf (key : α → κ) where
  items : List α
  nodup : (items.map key).Nodup

namespace BestOf

variable {key : α → κ}

def empty : BestOf key := ⟨[], List.nodup_nil⟩

def get (b : BestOf key) (k : κ) : Option α := b.items.find? fun x => key x = k

/-- Takes the place of the element with the same key if it is better. -/
def offerItems (key : α → κ) (better : α → α → Bool) (x : α) : List α → List α
  | [] => [x]
  | y :: ys =>
    if key y = key x then (if better x y then x else y) :: ys
    else y :: offerItems key better x ys

variable (better : α → α → Bool)

theorem map_offerItems (x : α) (ys : List α) :
    (offerItems key better x ys).map key =
      if key x ∈ ys.map key then ys.map key else ys.map key ++ [key x] := by
  induction ys with
  | nil => rfl
  | cons y ys ih =>
    rw [offerItems]
    by_cases hy : key y = key x
    · have hkept : key (if better x y then x else y) = key y := by
        split
        · exact hy.symm
        · rfl
      rw [if_pos hy, List.map_cons, List.map_cons, hkept, if_pos]
      rw [hy]
      exact List.mem_cons_self
    · rw [if_neg hy, List.map_cons, List.map_cons, ih]
      by_cases hx : key x ∈ ys.map key
      · rw [if_pos hx, if_pos (List.mem_cons_of_mem _ hx)]
      · rw [if_neg hx, if_neg, List.cons_append]
        rw [List.mem_cons, not_or]
        exact ⟨fun h => hy h.symm, hx⟩

theorem nodup_offerItems {x : α} {ys : List α} (h : (ys.map key).Nodup) :
    ((offerItems key better x ys).map key).Nodup := by
  rw [map_offerItems]
  split
  · exact h
  case isFalse hx => exact h.append (List.nodup_singleton _) (List.disjoint_singleton.mpr hx)

def offer (b : BestOf key) (x : α) : BestOf key :=
  ⟨offerItems key better x b.items, nodup_offerItems better b.nodup⟩

theorem find_offerItems (x : α) (k : κ) (ys : List α) :
    (offerItems key better x ys).find? (fun y => key y = k) =
      if key x = k then
        some (((ys.find? fun y => key y = k).map fun y => if better x y then x else y).getD x)
      else ys.find? fun y => key y = k := by
  induction ys with
  | nil =>
    rw [offerItems, List.find?_singleton]
    by_cases hk : key x = k <;> simp [hk]
  | cons y ys ih =>
    rw [offerItems]
    by_cases hy : key y = key x
    · rw [if_pos hy]
      by_cases hk : key x = k
      · have hyk : key y = k := hy.trans hk
        have hkept : key (if better x y then x else y) = k := by
          split
          · exact hk
          · exact hyk
        simp [hk, hyk, hkept]
      · have hyk : ¬ key y = k := fun h => hk (hy ▸ h)
        have hkept : ¬ key (if better x y then x else y) = k := by
          split
          · exact hk
          · exact hyk
        simp [hk, hyk, hkept]
    · rw [if_neg hy, List.find?_cons, List.find?_cons, ih]
      by_cases hyk : key y = k
      · have hk : ¬ key x = k := fun h => hy (hyk.trans h.symm)
        simp [hyk, hk]
      · simp [hyk]

theorem get_offer (b : BestOf key) (x : α) (k : κ) :
    (b.offer better x).get k =
      if key x = k then some (((b.get k).map fun y => if better x y then x else y).getD x)
      else b.get k :=
  find_offerItems better x k b.items

theorem get_eq_some_iff (b : BestOf key) (k : κ) (x : α) :
    b.get k = some x ↔ x ∈ b.items ∧ key x = k := by
  constructor
  · intro h
    exact ⟨List.mem_of_find?_eq_some h, by simpa using List.find?_some h⟩
  · intro ⟨hx, hk⟩
    obtain ⟨y, hy⟩ : ∃ y, b.get k = some y := by
      rw [← Option.isSome_iff_exists, get, List.find?_isSome]
      exact ⟨x, hx, decide_eq_true hk⟩
    have hmem := List.mem_of_find?_eq_some hy
    have hyk : key y = k := by simpa using List.find?_some hy
    rw [hy, List.inj_on_of_nodup_map b.nodup hmem hx (hyk.trans hk.symm)]

theorem isSome_get_iff (b : BestOf key) (k : κ) :
    (b.get k).isSome ↔ k ∈ b.items.map key := by
  rw [Option.isSome_iff_exists, List.mem_map]
  exact exists_congr fun x => b.get_eq_some_iff k x

/-- The elements offered from the first to the last. -/
def run (l : List α) : BestOf key := l.foldl (offer better) empty

theorem run_concat (l : List α) (x : α) :
    (run better (l ++ [x]) : BestOf key) = (run better l).offer better x := by
  rw [run, List.foldl_append]
  rfl

theorem items_run_eq_nil_iff (l : List α) :
    (run better l : BestOf key).items = [] ↔ l = [] := by
  induction l using List.reverseRecOn with
  | nil => exact ⟨fun _ => rfl, fun _ => rfl⟩
  | append_singleton l x ih =>
    have hne : ∀ ys : List α, offerItems key better x ys ≠ [] := by
      intro ys
      cases ys with
      | nil => exact List.cons_ne_nil _ _
      | cons y ys =>
        rw [offerItems]
        split <;> exact List.cons_ne_nil _ _
    rw [run_concat]
    exact ⟨fun h => absurd h (hne _), fun h => absurd h (by simp)⟩

end BestOf

/-- `x` is the least of the list, and the first of the least. -/
def FirstLeast (rank : α → β) (l : List α) (x : α) : Prop :=
  ∃ before after, l = before ++ x :: after ∧
    (∀ y ∈ before, rank x < rank y) ∧ ∀ y ∈ after, rank x ≤ rank y

namespace FirstLeast

variable {rank : α → β} {l : List α} {x y : α}

theorem singleton (x : α) : FirstLeast rank [x] x :=
  ⟨[], [], rfl, fun _ h => absurd h List.not_mem_nil, fun _ h => absurd h List.not_mem_nil⟩

theorem le (h : FirstLeast rank l y) : ∀ z ∈ l, rank y ≤ rank z := by
  obtain ⟨before, after, rfl, hbefore, hafter⟩ := h
  intro z hz
  obtain hz | hz := List.mem_append.mp hz
  · exact le_of_lt (hbefore z hz)
  · obtain rfl | hz := List.mem_cons.mp hz
    · exact le_rfl
    · exact hafter z hz

/-- One more element that is not better. -/
theorem concat_of_le (h : FirstLeast rank l y) (hle : rank y ≤ rank x) :
    FirstLeast rank (l ++ [x]) y := by
  obtain ⟨before, after, rfl, hbefore, hafter⟩ := h
  refine ⟨before, after ++ [x], by rw [List.append_assoc, List.cons_append], hbefore, ?_⟩
  intro z hz
  obtain hz | hz := List.mem_append.mp hz
  · exact hafter z hz
  · rw [List.mem_singleton.mp hz]
    exact hle

theorem concat_of_lt (h : FirstLeast rank l y) (hlt : rank x < rank y) :
    FirstLeast rank (l ++ [x]) x :=
  ⟨l, [], rfl, fun z hz => lt_of_lt_of_le hlt (h.le z hz), fun _ h => absurd h List.not_mem_nil⟩

end FirstLeast

namespace BestOf

variable {key : α → κ} {better : α → α → Bool} {rank : α → β}

/-- Of every key the first of the least is kept. -/
theorem run_get (hbetter : ∀ x y, better x y = true ↔ rank x < rank y) (l : List α) (k : κ) :
    (l.filter (fun x => key x = k) = [] ∧ (run better l : BestOf key).get k = none) ∨
      ∃ x, (run better l : BestOf key).get k = some x ∧
        FirstLeast rank (l.filter fun x => key x = k) x := by
  induction l using List.reverseRecOn with
  | nil => exact .inl ⟨rfl, rfl⟩
  | append_singleton l x ih =>
    rw [run_concat, get_offer, List.filter_append]
    by_cases hk : key x = k
    · rw [if_pos hk, List.filter_singleton, decide_eq_true hk, cond_true]
      right
      obtain ⟨hnil, hnone⟩ | ⟨y, hy, hleast⟩ := ih
      · rw [hnil, hnone]
        exact ⟨x, rfl, .singleton x⟩
      · rw [hy, Option.map_some, Option.getD_some]
        refine ⟨_, rfl, ?_⟩
        by_cases hb : better x y = true
        · rw [if_pos hb]
          exact hleast.concat_of_lt ((hbetter x y).mp hb)
        · rw [if_neg hb]
          exact hleast.concat_of_le (le_of_not_gt fun h => hb ((hbetter x y).mpr h))
    · rw [if_neg hk, List.filter_singleton, decide_eq_false hk, cond_false, List.append_nil]
      exact ih

end BestOf
end Lib
