import EnergyStorage.Fault.LogicEvaluator
import EnergyStorage.Fault.Rounds

/-! # The emergency stops of the PCUs

The evaluator writes each PCU's stop under the internal name and under the name of the
fault map.  The two schemes share `pcu1_emergency_stop`: inside it is the second PCU,
outside the first. -/

namespace EnergyStorage
namespace Fault

open Lib
open ConfirmedFaults (evalConfirmed)

/-- One pass over the context as it is then. -/
structure FaultPass where
  ctx : FaultContext
  nowMs : Nat

namespace FaultPass

def updates (p : FaultPass) : List SignalUpdate := passUpdates p.ctx p.nowMs

def pcu0Stop (p : FaultPass) : Bool := p.ctx.rawPcu0EmergencyStop

def pcu1Stop (p : FaultPass) : Bool := p.ctx.rawPcu1EmergencyStop

/-- Each condition is driven by one raw truth. -/
def OneRawPerKey (p : FaultPass) : Prop :=
  ∀ u ∈ p.updates, ∀ v ∈ p.updates, u.key = v.key → u.raw = v.raw

end FaultPass

def faultPasses : Machine ConfirmedFaults FaultPass LogicFaultState where
  start := {}
  step s p :=
    let r := s.evaluateAll p.ctx p.nowMs
    (r.2, [r.1])

/-! ### One condition of the table -/

section Condition

theorem condition_evalConfirmed (nowMs : Nat) (s : ConfirmedFaults) (u : SignalUpdate)
    (key : String) : (evalConfirmed nowMs s u).condition key =
      if u.key = key then (s.condition key).sample u.raw nowMs u.triggerMs u.clearMs
      else s.condition key := by
  by_cases h : u.key = key
  · subst h
    rw [if_pos rfl, ConfirmedFaults.condition, evalConfirmed, Dict.get_insert_self]
    rfl
  · rw [if_neg h, ConfirmedFaults.condition, evalConfirmed,
      Dict.get_insert_of_ne _ (Ne.symm h), ConfirmedFaults.condition]

/-- A pass touches a condition with the updates of its key alone. -/
theorem condition_foldl (nowMs : Nat) (key : String) (us : List SignalUpdate)
    (s : ConfirmedFaults) : (us.foldl (evalConfirmed nowMs) s).condition key =
      (us.filter fun u => u.key = key).foldl
        (fun st u => st.sample u.raw nowMs u.triggerMs u.clearMs) (s.condition key) := by
  induction us generalizing s with
  | nil => rfl
  | cons u us ih =>
    rw [List.foldl_cons, ih, condition_evalConfirmed]
    by_cases h : u.key = key
    · rw [if_pos h, List.filter_cons_of_pos (by simpa using h), List.foldl_cons]
    · rw [if_neg h, List.filter_cons_of_neg (by simpa using h)]

/-- The table shows what the conditions have confirmed. -/
def Shown (s : ConfirmedFaults) : Prop :=
  ∀ key, s.isConfirmed key = (s.condition key).confirmedOn

theorem Shown.evalConfirmed {nowMs : Nat} {s : ConfirmedFaults} (h : Shown s)
    (u : SignalUpdate) : Shown (evalConfirmed nowMs s u) := by
  intro key
  by_cases hkey : key = u.key
  · subst hkey
    rw [ConfirmedFaults.isConfirmed, ConfirmedFaults.condition, ConfirmedFaults.evalConfirmed,
      Dict.get_insert_self, Dict.get_insert_self]
    rfl
  · have hold := h key
    rw [ConfirmedFaults.isConfirmed, ConfirmedFaults.condition] at hold ⊢
    rw [ConfirmedFaults.evalConfirmed, Dict.get_insert_of_ne _ hkey,
      Dict.get_insert_of_ne _ hkey]
    exact hold

theorem shown_invariant : faultPasses.Invariant Shown where
  start := fun _ => rfl
  step s p h := by
    show Shown (p.updates.foldl (evalConfirmed p.nowMs) s)
    generalize p.updates = us
    induction us generalizing s with
    | nil => exact h
    | cons u us ih => exact ih _ (h.evalConfirmed u)

/-- A condition whose updates of a pass are `before` and then `last`, all with the same
delays, goes through rounds. -/
theorem condition_run {key : String} {before : FaultPass → List Bool} {last : FaultPass → Bool}
    {d : Nat}
    (h : ∀ p : FaultPass, (p.updates.filter fun u => u.key = key).map
      (fun u => (u.raw, u.triggerMs, u.clearMs)) =
        (before p ++ [last p]).map fun raw => (raw, d, 0))
    (es : List FaultPass) : (faultPasses.run es).condition key =
      (rounds FaultPass.nowMs before last d).run es := by
  refine faultPasses.run_induction
    (R := fun es s => s.condition key = (rounds FaultPass.nowMs before last d).run es) ?_ ?_ es
  · rfl
  · intro pre p ih
    rw [Machine.run_snoc, ← ih]
    show (p.updates.foldl (evalConfirmed p.nowMs) _).condition key =
      sampleAll d p.nowMs _ (before p ++ [last p])
    have hfold : ∀ (us : List SignalUpdate) (st : FaultConditionState),
        us.foldl (fun st u => st.sample u.raw p.nowMs u.triggerMs u.clearMs) st =
          (us.map fun u => (u.raw, u.triggerMs, u.clearMs)).foldl
            (fun st x => st.sample x.1 p.nowMs x.2.1 x.2.2) st := by
      intro us st
      rw [List.foldl_map]
    rw [condition_foldl, hfold, h, List.foldl_map]
    rfl

end Condition

/-! ### The keys of the stops -/

section Keys

/-- The name of PCU0's stop is also the internal name of PCU1's. -/
theorem pcu1EmergencyStop_updates (p : FaultPass) :
    (p.updates.filter fun u => u.key = makeSignalKey "pcu1_emergency_stop").map
        (fun u => (u.raw, u.triggerMs, u.clearMs)) =
      ([p.pcu1Stop] ++ [p.pcu0Stop]).map fun raw => (raw, 300, 0) := by
  rfl

theorem pcu2EmergencyStop_updates (p : FaultPass) :
    (p.updates.filter fun u => u.key = makeSignalKey "pcu2_emergency_stop").map
        (fun u => (u.raw, u.triggerMs, u.clearMs)) =
      ([] ++ [p.pcu1Stop]).map fun raw => (raw, 300, 0) := by
  rfl

/-- What the one writer of each key reads when the two PCUs agree. -/
theorem oneRawPerKey_iff (p : FaultPass) : p.OneRawPerKey ↔ p.pcu0Stop = p.pcu1Stop := by
  constructor
  · intro h
    have hfirst : ⟨"pcu1_emergency_stop", p.pcu0Stop, 300, 0⟩ ∈ p.updates := by
      simp [FaultPass.updates, passUpdates, pcuUpdates, FaultPass.pcu0Stop]
    have hsecond : ⟨"pcu1_emergency_stop", p.pcu1Stop, 300, 0⟩ ∈ p.updates := by
      simp [FaultPass.updates, passUpdates, pcuUpdates, FaultPass.pcu1Stop]
    exact h _ hfirst _ hsecond rfl
  · intro hstop
    -- the first update of a key speaks for all of them
    have hraw : ∀ u ∈ p.updates,
        ((p.updates.find? fun v => v.key = u.key).map SignalUpdate.raw) = some u.raw := by
      have hmeet : some p.pcu1Stop = some p.pcu0Stop := congrArg some hstop.symm
      simp only [FaultPass.updates, passUpdates, pcuUpdates, logicUpdates, List.cons_append,
        List.nil_append, List.forall_mem_cons]
      refine ⟨rfl, rfl, rfl, rfl, rfl, rfl, hmeet, rfl, rfl, rfl, rfl, rfl, rfl, rfl, rfl, rfl,
        rfl, rfl, rfl, rfl, rfl, rfl, rfl, rfl, ?_⟩
      exact List.forall_mem_nil _
    intro u hu v hv hkey
    have hfind := hraw u hu
    rw [hkey, hraw v hv] at hfind
    exact (Option.some_inj.mp hfind).symm

end Keys

/-! ### The stops of a run -/

section Stops

variable {es pre : List FaultPass} {cur : FaultPass} {t : Nat}

theorem isConfirmed_eq (es : List FaultPass) (key : String) :
    (faultPasses.run es).isConfirmed key = ((faultPasses.run es).condition key).confirmedOn :=
  shown_invariant.run es key

/-- PCU0's stop is confirmed exactly when PCU1's was on as well for all of the delay. -/
theorem pcu1EmergencyStop_confirmed_iff (hs : Timed FaultPass.nowMs (pre ++ [cur]))
    (h : HeldFor FaultPass.nowMs FaultPass.pcu0Stop 300 (pre ++ [cur]) cur.nowMs) :
    (faultPasses.run (pre ++ [cur])).isConfirmed (makeSignalKey "pcu1_emergency_stop") = true ↔
      ∀ q ∈ pre ++ [cur], cur.nowMs < q.nowMs + 300 → q.pcu1Stop = true := by
  rw [isConfirmed_eq, condition_run pcu1EmergencyStop_updates,
    confirmed_iff_of_heldFor (by decide) hs h]
  simp

/-- Only PCU1 writes the key of the second PCU. -/
theorem pcu2EmergencyStop_confirmed (hs : Timed FaultPass.nowMs (pre ++ [cur]))
    (h : HeldFor FaultPass.nowMs FaultPass.pcu1Stop 300 (pre ++ [cur]) cur.nowMs) :
    (faultPasses.run (pre ++ [cur])).isConfirmed (makeSignalKey "pcu2_emergency_stop") = true := by
  rw [isConfirmed_eq, condition_run pcu2EmergencyStop_updates,
    confirmed_iff_of_heldFor (by decide) hs h]
  simp

/-- In a pass every key has one writer, and a stop held for the delay is confirmed,
exactly when both PCUs read alike in this pass and, where PCU0's stop has been held for
the delay, PCU1's was on in every pass within it. -/
theorem stops_confirmed_iff (pre : List FaultPass) (cur : FaultPass)
    (hs : Timed FaultPass.nowMs (pre ++ [cur])) :
    (cur.OneRawPerKey ∧
      (HeldFor FaultPass.nowMs FaultPass.pcu0Stop 300 (pre ++ [cur]) cur.nowMs →
        (faultPasses.run (pre ++ [cur])).isConfirmed (makeSignalKey "pcu1_emergency_stop")) ∧
      (HeldFor FaultPass.nowMs FaultPass.pcu1Stop 300 (pre ++ [cur]) cur.nowMs →
        (faultPasses.run (pre ++ [cur])).isConfirmed (makeSignalKey "pcu2_emergency_stop"))) ↔
      cur.pcu0Stop = cur.pcu1Stop ∧
        (HeldFor FaultPass.nowMs FaultPass.pcu0Stop 300 (pre ++ [cur]) cur.nowMs →
          ∀ q ∈ pre ++ [cur], cur.nowMs < q.nowMs + 300 → q.pcu1Stop = true) := by
  rw [oneRawPerKey_iff]
  constructor
  · rintro ⟨hraw, hfirst, -⟩
    exact ⟨hraw, fun h => (pcu1EmergencyStop_confirmed_iff hs h).mp (hfirst h)⟩
  · rintro ⟨hraw, hheld⟩
    refine ⟨hraw, fun h => ?_, pcu2EmergencyStop_confirmed hs⟩
    exact (pcu1EmergencyStop_confirmed_iff hs h).mpr (hheld h)

end Stops

/-- PCU0 stopped, and PCU1 with it or silent. -/
def stopPass (both : Bool) (t : Nat) : FaultPass where
  ctx := { ctx := {
    pcu0State := { online := true, estop := true }
    pcu1State := { online := both, estop := both } } }
  nowMs := t

def stopRun (both : Bool) : List FaultPass := [1000, 1100, 1200, 1300].map (stopPass both)

theorem stops_confirmed_iff_stopRun :
    Timed FaultPass.nowMs (stopRun true ++ [stopPass true 1400]) ∧
      (stopPass true 1400).OneRawPerKey ∧
      (HeldFor FaultPass.nowMs FaultPass.pcu0Stop 300 (stopRun true ++ [stopPass true 1400]) 1400 →
        (faultPasses.run (stopRun true ++ [stopPass true 1400])).isConfirmed
          (makeSignalKey "pcu1_emergency_stop")) ∧
      (HeldFor FaultPass.nowMs FaultPass.pcu1Stop 300 (stopRun true ++ [stopPass true 1400]) 1400 →
        (faultPasses.run (stopRun true ++ [stopPass true 1400])).isConfirmed
          (makeSignalKey "pcu2_emergency_stop")) := by
  have hs : Timed FaultPass.nowMs (stopRun true ++ [stopPass true 1400]) := by
    simp [Timed, stopRun, stopPass]
  refine ⟨hs, (stops_confirmed_iff (stopRun true) (stopPass true 1400) hs).mpr ⟨rfl, ?_⟩⟩
  intro _ q hq _
  obtain ⟨t, rfl⟩ : ∃ t, q = stopPass true t := by
    simp only [stopRun, List.map_cons, List.map_nil, List.cons_append, List.nil_append,
      List.mem_cons, List.not_mem_nil, or_false] at hq
    rcases hq with h | h | h | h | h <;> exact ⟨_, h⟩
  rfl

/-- With PCU1 silent the stop of PCU0, held for 400 ms, is never confirmed. -/
theorem stopRun_not_confirmed :
    let es := stopRun false ++ [stopPass false 1400]
    Timed FaultPass.nowMs es ∧ HeldFor FaultPass.nowMs FaultPass.pcu0Stop 300 es 1400 ∧
      (faultPasses.run es).isConfirmed (makeSignalKey "pcu1_emergency_stop") = false ∧
      ¬ (stopPass false 1400).OneRawPerKey := by
  refine ⟨?_, ⟨[], stopPass false 1000, _, rfl, ?_, ?_⟩, ?_, ?_⟩
  · simp [Timed, stopRun, stopPass]
  · decide
  · decide
  · decide
  · rw [oneRawPerKey_iff]
    decide

end Fault
end EnergyStorage
