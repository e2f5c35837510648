import EnergyStorage.Lib.Dict

/-! # Confirming a condition

A raw condition must hold for a while before it is confirmed, and be absent for a while
before it is dropped.  Which of the two waits counts depends on whether the condition is
confirmed at the moment. -/

namespace EnergyStorage
namespace Fault

open Lib (Dict)

structure FaultConditionState where
  rawOn : Bool := false
  rawClear : Bool := false
  confirmedOn : Bool := false
  rawOnSinceMs : Nat := 0
  rawClearSinceMs : Nat := 0
  lastUpdateMs : Nat := 0
  lastChangeMs : Nat := 0
  assertDelayMs : Nat := 0
  clearDelayMs : Nat := 0
  changedLastUpdate : Bool := false
  lastChangeToOn : Bool := false

namespace FaultConditionState

def configure (st : FaultConditionState) (assertDelay clearDelay : Nat) : FaultConditionState :=
  { st with assertDelayMs := assertDelay, clearDelayMs := clearDelay }

/-- While the condition is not confirmed only its assertion counts. -/
def updateUnconfirmed (st : FaultConditionState) (assertNow : Bool) (nowMs : Nat) :
    FaultConditionState :=
  let st := { st with rawClear := false, rawClearSinceMs := 0 }
  if assertNow then
    let st := if ¬ st.rawOn then { st with rawOn := true, rawOnSinceMs := nowMs } else st
    let heldMs := if nowMs ≥ st.rawOnSinceMs then nowMs - st.rawOnSinceMs else 0
    if st.assertDelayMs = 0 ∨ heldMs ≥ st.assertDelayMs then
      { st with
        confirmedOn := true, lastChangeMs := nowMs, changedLastUpdate := true
        lastChangeToOn := true, rawClear := false, rawClearSinceMs := 0 }
    else st
  else { st with rawOn := false, rawOnSinceMs := 0 }

/-- While it is confirmed only its clearance counts. -/
def updateConfirmed (st : FaultConditionState) (assertNow clearNow : Bool) (nowMs : Nat) :
    FaultConditionState :=
  let st := { st with
    rawOn := assertNow, rawOnSinceMs := if ¬ assertNow then 0 else st.rawOnSinceMs }
  if clearNow then
    let st := if ¬ st.rawClear then { st with rawClear := true, rawClearSinceMs := nowMs } else st
    let heldMs := if nowMs ≥ st.rawClearSinceMs then nowMs - st.rawClearSinceMs else 0
    if st.clearDelayMs = 0 ∨ heldMs ≥ st.clearDelayMs then
      { st with
        confirmedOn := false, lastChangeMs := nowMs, changedLastUpdate := true
        lastChangeToOn := false, rawOn := false, rawOnSinceMs := 0, rawClear := false
        rawClearSinceMs := 0 }
    else st
  else { st with rawClear := false, rawClearSinceMs := 0 }

def updateWithClear (st : FaultConditionState) (assertNow clearNow : Bool) (nowMs : Nat) :
    FaultConditionState :=
  let st := { st with changedLastUpdate := false, lastUpdateMs := nowMs }
  if ¬ st.confirmedOn then st.updateUnconfirmed assertNow nowMs
  else st.updateConfirmed assertNow clearNow nowMs

/-- One sample of a raw signal that is its own negated clearance. -/
def sample (st : FaultConditionState) (raw : Bool) (nowMs assertDelay clearDelay : Nat) :
    FaultConditionState :=
  (st.configure assertDelay clearDelay).updateWithClear raw (!raw) nowMs

/-! ### One sample -/

/-- Confirmed, or asserted since `t` at the latest. -/
def Rising (t : Nat) (st : FaultConditionState) : Prop :=
  st.confirmedOn = true ∨ st.rawOn = true ∧ st.rawOnSinceMs ≤ t

/-- Not confirmed, and asserted since `t` at the earliest. -/
def Waiting (t : Nat) (st : FaultConditionState) : Prop :=
  st.confirmedOn = false ∧ st.rawOn = true ∧ t ≤ st.rawOnSinceMs

section Sample

variable (st : FaultConditionState) (nowMs assertDelay clearDelay : Nat)

theorem sample_true_of_confirmed (h : st.confirmedOn = true) :
    (st.sample true nowMs assertDelay clearDelay).confirmedOn = true ∧
      (st.sample true nowMs assertDelay clearDelay).rawOn = true ∧
      (st.sample true nowMs assertDelay clearDelay).rawOnSinceMs = st.rawOnSinceMs := by
  simp [sample, configure, updateWithClear, updateConfirmed, h]

/-- Since when the assertion has been held once it is sampled at `nowMs`. -/
def heldSince : Nat := if st.rawOn then st.rawOnSinceMs else nowMs

theorem sample_true_of_unconfirmed (h : st.confirmedOn = false) :
    ((st.sample true nowMs assertDelay clearDelay).confirmedOn = true ↔
        assertDelay = 0 ∨ assertDelay ≤ nowMs - st.heldSince nowMs) ∧
      (st.sample true nowMs assertDelay clearDelay).rawOn = true ∧
      (st.sample true nowMs assertDelay clearDelay).rawOnSinceMs = st.heldSince nowMs := by
  obtain ⟨rawOn, rawClear, confirmedOn, since, clearSince, _, _, _, _, _, _⟩ := st
  obtain rfl : confirmedOn = false := h
  have hheld : ∀ n : Nat, (if nowMs ≥ n then nowMs - n else 0) = nowMs - n := by
    intro n
    split <;> omega
  cases rawOn <;>
    simp only [sample, configure, updateWithClear, updateUnconfirmed, heldSince, hheld] <;>
    simp <;> split <;> simp_all

theorem sample_false (h : clearDelay = 0) :
    (st.sample false nowMs assertDelay clearDelay).confirmedOn = false ∧
      (st.sample false nowMs assertDelay clearDelay).rawOn = false ∧
      (st.sample false nowMs assertDelay clearDelay).rawOnSinceMs = 0 := by
  cases hst : st.confirmedOn with
  | false => simp [sample, configure, updateWithClear, updateUnconfirmed, hst]
  | true =>
    cases hclear : st.rawClear <;>
      simp [sample, configure, updateWithClear, updateConfirmed, hst, h, hclear]

end Sample

/-! ### Samples in sequence -/

section Sequence

variable {st : FaultConditionState} {t nowMs assertDelay clearDelay : Nat}

theorem sample_since_le (hclear : clearDelay = 0) (h : st.rawOnSinceMs ≤ nowMs) (raw : Bool) :
    (st.sample raw nowMs assertDelay clearDelay).rawOnSinceMs ≤ nowMs := by
  cases raw with
  | false =>
    rw [(sample_false st nowMs assertDelay clearDelay hclear).2.2]
    exact Nat.zero_le _
  | true =>
    cases hst : st.confirmedOn with
    | true =>
      rw [(sample_true_of_confirmed st nowMs assertDelay clearDelay hst).2.2]
      exact h
    | false =>
      rw [(sample_true_of_unconfirmed st nowMs assertDelay clearDelay hst).2.2, heldSince]
      split
      · exact h
      · exact Nat.le_refl _

theorem rising_sample_true (h : st.rawOnSinceMs ≤ nowMs) :
    Rising nowMs (st.sample true nowMs assertDelay clearDelay) := by
  cases hst : st.confirmedOn with
  | true => exact Or.inl (sample_true_of_confirmed st nowMs assertDelay clearDelay hst).1
  | false =>
    obtain ⟨-, hon, hsince⟩ := sample_true_of_unconfirmed st nowMs assertDelay clearDelay hst
    refine Or.inr ⟨hon, ?_⟩
    rw [hsince, heldSince]
    split
    · exact h
    · exact Nat.le_refl _

/-- A condition on the rise stays so while it is asserted. -/
theorem Rising.sample_true (h : Rising t st) :
    Rising t (st.sample true nowMs assertDelay clearDelay) := by
  cases hst : st.confirmedOn with
  | true => exact Or.inl (sample_true_of_confirmed st nowMs assertDelay clearDelay hst).1
  | false =>
    obtain ⟨-, hon, hsince⟩ := sample_true_of_unconfirmed st nowMs assertDelay clearDelay hst
    rcases h with h | ⟨hraw, hle⟩
    · rw [hst] at h
      cases h
    · refine Or.inr ⟨hon, ?_⟩
      rw [hsince, heldSince, if_pos hraw]
      exact hle

/-- It is confirmed once the delay is over. -/
theorem Rising.confirmed (h : Rising t st) (ht : t + assertDelay ≤ nowMs) :
    (st.sample true nowMs assertDelay clearDelay).confirmedOn = true := by
  cases hst : st.confirmedOn with
  | true => exact (sample_true_of_confirmed st nowMs assertDelay clearDelay hst).1
  | false =>
    obtain ⟨hconf, -, -⟩ := sample_true_of_unconfirmed st nowMs assertDelay clearDelay hst
    rcases h with h | ⟨hraw, hle⟩
    · rw [hst] at h
      cases h
    · refine hconf.mpr (Or.inr ?_)
      rw [heldSince, if_pos hraw]
      omega

/-- A sample without the condition starts the wait anew. -/
theorem waiting_of_restart (hclear : clearDelay = 0) (hdelay : 0 < assertDelay) :
    Waiting nowMs ((st.sample false nowMs assertDelay clearDelay).sample true nowMs
      assertDelay clearDelay) := by
  obtain ⟨hconf, hraw, -⟩ := sample_false st nowMs assertDelay clearDelay hclear
  obtain ⟨hiff, hon, hsince⟩ := sample_true_of_unconfirmed
    (st.sample false nowMs assertDelay clearDelay) nowMs assertDelay clearDelay hconf
  have hheld : (st.sample false nowMs assertDelay clearDelay).heldSince nowMs = nowMs := by
    rw [heldSince, hraw]
    rfl
  rw [hheld] at hiff hsince
  refine ⟨?_, hon, Nat.le_of_eq hsince.symm⟩
  rw [← Bool.not_eq_true, hiff]
  omega

theorem Waiting.sample_true (h : Waiting t st) (hdelay : 0 < assertDelay)
    (ht : nowMs < t + assertDelay) :
    Waiting t (st.sample true nowMs assertDelay clearDelay) := by
  obtain ⟨hconf, hraw, hle⟩ := h
  obtain ⟨hiff, hon, hsince⟩ :=
    sample_true_of_unconfirmed st nowMs assertDelay clearDelay hconf
  have hheld : st.heldSince nowMs = st.rawOnSinceMs := if_pos hraw
  rw [hheld] at hiff hsince
  refine ⟨?_, hon, ?_⟩
  · rw [← Bool.not_eq_true, hiff]
    omega
  · rw [hsince]
    exact hle

theorem Waiting.mono {t t' : Nat} {st : FaultConditionState} (h : Waiting t st) (ht : t' ≤ t) :
    Waiting t' st :=
  ⟨h.1, h.2.1, Nat.le_trans ht h.2.2⟩

end Sequence
end FaultConditionState
end Fault
end EnergyStorage
