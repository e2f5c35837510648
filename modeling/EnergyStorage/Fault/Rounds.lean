import EnergyStorage.Fault.ConditionState
import EnergyStorage.Lib.Machine

/-! # A condition with several writers

In each round a condition takes some samples and then one more, all at the time of the
round.  Only the last writer decides when none of the others ever disagrees: a `false`
from any of them starts the wait anew. -/

namespace EnergyStorage
namespace Fault

open Lib
open FaultConditionState (Rising Waiting)

section Held

variable {π : Type*}

/-- The signal has been on in every round since one that is `d` ago. -/
def HeldFor (now : π → Nat) (raw : π → Bool) (d : Nat) (es : List π) (t : Nat) : Prop :=
  ∃ xs p ys, es = xs ++ p :: ys ∧ (∀ q ∈ p :: ys, raw q = true) ∧ now p + d ≤ t

/-- The rounds are in the order of their times. -/
def Timed (now : π → Nat) (es : List π) : Prop := es.Pairwise fun p q => now p ≤ now q

end Held

/-! ### The samples of one round -/

section Round

variable (d nowMs : Nat)

def sampleAll (st : FaultConditionState) (raws : List Bool) : FaultConditionState :=
  raws.foldl (fun st raw => st.sample raw nowMs d 0) st

variable {d nowMs} {st : FaultConditionState} {t : Nat}

theorem sampleAll_append (xs ys : List Bool) :
    sampleAll d nowMs st (xs ++ ys) = sampleAll d nowMs (sampleAll d nowMs st xs) ys :=
  List.foldl_append

theorem all_true_of_false_notMem {raws : List Bool} (h : false ∉ raws) :
    ∀ b ∈ raws, b = true := by
  intro b hb
  cases b with
  | true => rfl
  | false => exact absurd hb h

theorem all_true_snoc {raws : List Bool} (h : false ∉ raws) :
    ∀ b ∈ raws ++ [true], b = true := by
  intro b hb
  rcases List.mem_append.mp hb with hb | hb
  · exact all_true_of_false_notMem h b hb
  · exact List.mem_singleton.mp hb

theorem sampleAll_since_le (h : st.rawOnSinceMs ≤ nowMs) (raws : List Bool) :
    (sampleAll d nowMs st raws).rawOnSinceMs ≤ nowMs := by
  induction raws generalizing st with
  | nil => exact h
  | cons raw raws ih => exact ih (FaultConditionState.sample_since_le rfl h raw)

theorem FaultConditionState.Rising.sampleAll (h : Rising t st) {raws : List Bool}
    (hraws : ∀ b ∈ raws, b = true) :
    Rising t (sampleAll d nowMs st raws) := by
  induction raws generalizing st with
  | nil => exact h
  | cons raw raws ih =>
    have hraw : raw = true := hraws raw List.mem_cons_self
    subst hraw
    exact ih h.sample_true fun b hb => hraws b (List.mem_cons_of_mem _ hb)

theorem FaultConditionState.Waiting.sampleAll (h : Waiting t st) (hd : 0 < d) (ht : nowMs < t + d)
    {raws : List Bool} (hraws : ∀ b ∈ raws, b = true) :
    Waiting t (sampleAll d nowMs st raws) := by
  induction raws generalizing st with
  | nil => exact h
  | cons raw raws ih =>
    have hraw : raw = true := hraws raw List.mem_cons_self
    subst hraw
    exact ih (h.sample_true hd ht) fun b hb => hraws b (List.mem_cons_of_mem _ hb)

/-- Whatever the writers before said, a final `true` after a `false` has only just
begun to wait. -/
theorem waiting_of_false_mem (hd : 0 < d) {raws : List Bool} (h : false ∈ raws) :
    Waiting nowMs (sampleAll d nowMs st (raws ++ [true])) := by
  induction raws generalizing st with
  | nil => cases h
  | cons raw raws ih =>
    by_cases hmem : false ∈ raws
    · exact ih hmem
    · -- the head is the last `false`
      have hraw : raw = false := by
        rcases List.mem_cons.mp h with h | h
        · exact h.symm
        · exact absurd h hmem
      subst hraw
      have htrue := all_true_of_false_notMem hmem
      cases raws with
      | nil => exact FaultConditionState.waiting_of_restart rfl hd
      | cons raw raws =>
        have hraw : raw = true := htrue raw List.mem_cons_self
        subst hraw
        have hwait : Waiting nowMs ((st.sample false nowMs d 0).sample true nowMs d 0) :=
          FaultConditionState.waiting_of_restart rfl hd
        exact hwait.sampleAll hd (by omega)
          (all_true_snoc fun h => hmem (List.mem_cons_of_mem _ h))

end Round

/-! ### Rounds in sequence -/

section Rounds

variable {π : Type*} (now : π → Nat) (before : π → List Bool) (last : π → Bool) (d : Nat)

/-- The condition alone, round by round. -/
def rounds : Machine FaultConditionState π Empty where
  start := {}
  step st p := (sampleAll d (now p) st (before p ++ [last p]), [])

variable {now before last d}

theorem run_since_le (es : List π) (hs : Timed now es) {t : Nat} (ht : ∀ q ∈ es, now q ≤ t) :
    ((rounds now before last d).run es).rawOnSinceMs ≤ t := by
  revert hs t
  refine (rounds now before last d).run_induction
    (R := fun es st => Timed now es → ∀ {t : Nat}, (∀ q ∈ es, now q ≤ t) → st.rawOnSinceMs ≤ t)
    ?_ ?_ es
  · intro _ t _
    exact Nat.zero_le t
  · intro pre e ih hs t ht
    obtain ⟨hpre, -, hcross⟩ := List.pairwise_append.mp hs
    have hsince := ih hpre (t := now e) fun q hq => hcross q hq e List.mem_cons_self
    have hstep := sampleAll_since_le (d := d) hsince (before e ++ [last e])
    exact Nat.le_trans hstep (ht e (List.mem_append_right _ List.mem_cons_self))

theorem step_rising {st : FaultConditionState} {p : π} (h : st.rawOnSinceMs ≤ now p)
    (hlast : last p = true) : Rising (now p) ((rounds now before last d).step st p).1 := by
  show Rising (now p) (sampleAll d (now p) st (before p ++ [last p]))
  rw [hlast, sampleAll_append]
  exact FaultConditionState.rising_sample_true (sampleAll_since_le h (before p))

theorem step_waiting (hd : 0 < d) {st : FaultConditionState} {p : π} {t : Nat}
    (h : Waiting t st ∨ false ∈ before p) (htp : t ≤ now p) (ht : now p < t + d)
    (hlast : last p = true) : Waiting t ((rounds now before last d).step st p).1 := by
  show Waiting t (sampleAll d (now p) st (before p ++ [last p]))
  rw [hlast]
  by_cases hfalse : false ∈ before p
  · exact (waiting_of_false_mem hd hfalse).mono htp
  · have hwait : Waiting t st := h.resolve_right hfalse
    exact hwait.sampleAll hd ht (all_true_snoc hfalse)

/-- Within the delay after a `false` the condition cannot be confirmed. -/
theorem runFrom_waiting (hd : 0 < d) {t : Nat} {es : List π}
    (hes : ∀ q ∈ es, last q = true ∧ t ≤ now q ∧ now q < t + d) {st : FaultConditionState}
    (h : Waiting t st) : Waiting t ((rounds now before last d).runFrom st es) := by
  induction es generalizing st with
  | nil => exact h
  | cons e es ih =>
    obtain ⟨hlast, hte, het⟩ := hes e List.mem_cons_self
    rw [Machine.runFrom_cons]
    exact ih (fun q hq => hes q (List.mem_cons_of_mem _ hq))
      (step_waiting hd (Or.inl h) hte het hlast)

/-- The wait that ends by `t` has begun, however often it was started anew before. -/
theorem rising_of_held {t : Nat} {xs ys : List π} {p : π} (hs : Timed now (xs ++ p :: ys))
    (hlast : ∀ q ∈ p :: ys, last q = true) (hp : now p + d ≤ t)
    (hbefore : ∀ q ∈ ys, false ∈ before q → now q + d ≤ t) :
    ∃ u, u + d ≤ t ∧ Rising u ((rounds now before last d).run (xs ++ p :: ys)) := by
  have hstart : ∀ zs q, Timed now (zs ++ [q]) → last q = true →
      Rising (now q) ((rounds now before last d).run (zs ++ [q])) := by
    intro zs q hzs hq
    obtain ⟨hpre, -, hcross⟩ := List.pairwise_append.mp hzs
    rw [Machine.run_snoc]
    exact step_rising (run_since_le zs hpre fun r hr => hcross r hr q List.mem_cons_self) hq
  induction ys using List.reverseRecOn with
  | nil => exact ⟨now p, hp, hstart xs p hs (hlast p List.mem_cons_self)⟩
  | append_singleton ys y ih =>
    rw [← List.cons_append, ← List.append_assoc] at hs ⊢
    have hy : last y = true := hlast y (by simp)
    by_cases hfalse : false ∈ before y
    · exact ⟨now y, hbefore y (by simp) hfalse, hstart _ y hs hy⟩
    · obtain ⟨u, hu, hrise⟩ := ih (List.pairwise_append.mp hs).1
        (fun q hq => hlast q (by rw [← List.cons_append]; exact List.mem_append_left _ hq))
        (fun q hq => hbefore q (List.mem_append_left _ hq))
      refine ⟨u, hu, ?_⟩
      rw [Machine.run_snoc]
      show Rising u (sampleAll d (now y) _ (before y ++ [last y]))
      rw [hy]
      exact hrise.sampleAll (all_true_snoc hfalse)

theorem Timed.le_last {es : List π} {cur : π} (hs : Timed now (es ++ [cur])) :
    ∀ q ∈ es ++ [cur], now q ≤ now cur := by
  intro q hq
  rcases List.mem_append.mp hq with hq | hq
  · exact (List.pairwise_append.mp hs).2.2 q hq cur List.mem_cons_self
  · exact Nat.le_of_eq (congrArg now (List.mem_singleton.mp hq))

/-- A `false` within the delay keeps the condition from being confirmed. -/
theorem waiting_of_false {xs ys : List π} {p q : π} {t : Nat} (hd : 0 < d)
    (hs : Timed now (xs ++ p :: ys)) (hlast : ∀ r ∈ p :: ys, last r = true)
    (hle : ∀ r ∈ xs ++ p :: ys, now r ≤ t) (hp : now p + d ≤ t) (hq : q ∈ xs ++ p :: ys)
    (hwin : t < now q + d) (hfalse : false ∈ before q) :
    Waiting (now q) ((rounds now before last d).run (xs ++ p :: ys)) := by
  -- the round lies within the delay, so after `p`
  have hmem : q ∈ p :: ys := by
    rcases List.mem_append.mp hq with hq | hq
    · have hqp := (List.pairwise_append.mp hs).2.2 q hq p List.mem_cons_self
      omega
    · exact hq
  obtain ⟨zs, ws, hzs⟩ := List.append_of_mem hmem
  rw [hzs] at hlast
  rw [hzs, ← List.append_assoc] at hs hle
  have hafter := (List.pairwise_cons.mp (List.pairwise_append.mp hs).2.1).1
  rw [hzs, ← List.append_assoc, Machine.run_append, Machine.runFrom_cons]
  apply runFrom_waiting hd
  · intro r hr
    have hrt := hle r (List.mem_append_right _ (List.mem_cons_of_mem _ hr))
    refine ⟨hlast r (List.mem_append_right _ (List.mem_cons_of_mem _ hr)), hafter r hr, ?_⟩
    omega
  · refine step_waiting hd (Or.inr hfalse) (Nat.le_refl _) (by omega) ?_
    exact hlast q (List.mem_append_right _ List.mem_cons_self)

/-- A signal that its last writer has held on for the delay is confirmed exactly when no
other writer said `false` within the delay. -/
theorem confirmed_iff_of_heldFor (hd : 0 < d) {pre : List π} {cur : π}
    (hs : Timed now (pre ++ [cur])) (h : HeldFor now last d (pre ++ [cur]) (now cur)) :
    ((rounds now before last d).run (pre ++ [cur])).confirmedOn = true ↔
      ∀ q ∈ pre ++ [cur], now cur < now q + d → false ∉ before q := by
  obtain ⟨xs, p, ys, hsplit, hlast, hp⟩ := h
  constructor
  · intro hconf q hq hwin hfalse
    have hle := hs.le_last
    rw [hsplit] at hs hq hle hconf
    have hwait := waiting_of_false hd hs hlast hle hp hq hwin hfalse
    rw [hwait.1] at hconf
    cases hconf
  · intro hwin
    rcases List.eq_nil_or_concat ys with rfl | ⟨ys', y, rfl⟩
    · -- the signal cannot have been held in a single round
      obtain ⟨-, hcur⟩ := List.append_inj' hsplit rfl
      rw [List.singleton_inj.mp hcur] at hp
      omega
    · rw [List.concat_eq_append, ← List.cons_append, ← List.append_assoc] at hsplit
      obtain ⟨rfl, hcur⟩ := List.append_inj' hsplit rfl
      obtain rfl := List.singleton_inj.mp hcur
      rw [List.concat_eq_append, ← List.cons_append] at hlast
      have hbefore : ∀ q ∈ ys', false ∈ before q → now q + d ≤ now cur := by
        intro q hq hfalse
        by_contra hnot
        have hmem : q ∈ xs ++ p :: ys' ++ [cur] := by simp [hq]
        exact hwin q hmem (by omega) hfalse
      obtain ⟨u, hu, hrise⟩ := rising_of_held (List.pairwise_append.mp hs).1
        (fun q hq => hlast q (List.mem_append_left _ hq)) hp hbefore
      have hcur : ∀ b ∈ before cur, b = true :=
        all_true_of_false_notMem (hwin cur (by simp) (by omega))
      rw [Machine.run_snoc]
      show (sampleAll d (now cur) _ (before cur ++ [last cur])).confirmedOn = true
      rw [hlast cur (by simp), sampleAll_append]
      exact (hrise.sampleAll hcur).confirmed hu

end Rounds
end Fault
end EnergyStorage
