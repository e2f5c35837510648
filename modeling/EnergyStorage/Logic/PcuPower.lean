import EnergyStorage.Logic.PcuCommands

/-! # The power the PCUs may draw

The status frame is meant to carry the discharge limit of each battery.  The code
multiplies the voltage by the momentary current instead, so the word is right only
where both products round alike. -/

namespace EnergyStorage
namespace Logic

open Lib
open Bms (BmsPerInstanceCache BusEvent)
open Pcu (powerWordOf calcPcuDischargePowerKwX10 PcuTxRuntimeCfg lround)

/-- The battery is online, both groups are fresh and both values valid. -/
def powerGate (x : BmsPerInstanceCache) : Bool :=
  x.online && x.groupOnline .st2 && x.groupOnline .currentLimit && x.st2.packV.valid &&
    x.currentLimit.dischargeLimitA.valid

/-- The word the status frame is meant to carry. -/
def dischargeLimitPowerKwX10 : Option BmsPerInstanceCache → Nat
  | none => 0
  | some x =>
    if powerGate x then
      (lround (min (max (x.st2.packV.value * x.currentLimit.dischargeLimitA.value / 100) 0)
        10000)).toNat
    else 0

/-- The product the code uses. -/
def momentaryPower (x : BmsPerInstanceCache) : ℚ :=
  if 0 < x.st2.packV.value ∧ 0 < x.st2.packI.value then x.st2.packV.value * x.st2.packI.value
  else 0

/-- No half step of the word, `100 n - 50` volt-amperes, lies between the two. -/
def SameStep (p q : ℚ) : Prop :=
  ∀ n : ℤ, 1 ≤ n → n ≤ 10000 → (100 * (n : ℚ) - 50 ≤ p ↔ 100 * (n : ℚ) - 50 ≤ q)

theorem lround_clamp (q : ℚ) :
    lround (max 0 (min q 10000)) = Rounding.nearest (Rounding.clamp 10000 q) := by
  have hcast : ((10000 : ℤ) : ℚ) = 10000 := by norm_num
  rw [lround, Rounding.clamp, hcast]

theorem calcPcuDischargePowerKwX10_some (x : BmsPerInstanceCache) :
    calcPcuDischargePowerKwX10 (some x) =
      if powerGate x then
        (Rounding.nearest (Rounding.clamp 10000 (momentaryPower x / 100))).toNat
      else 0 := by
  have hcode : calcPcuDischargePowerKwX10 (some x) =
      if powerGate x then
        if ¬ 0 < x.st2.packV.value ∨ ¬ 0 < x.st2.packI.value then 0
        else (lround (max 0 (min (x.st2.packV.value * x.st2.packI.value / 100) 10000)) %
          2 ^ 16).toNat
      else 0 := by
    simp only [calcPcuDischargePowerKwX10, powerGate, ite_not, Bool.and_eq_true, and_assoc,
      ite_and]
  rw [hcode]
  congr 1
  by_cases hpos : 0 < x.st2.packV.value ∧ 0 < x.st2.packI.value
  · have hnot : ¬ (¬ 0 < x.st2.packV.value ∨ ¬ 0 < x.st2.packI.value) := by
      rintro (h | h)
      · exact h hpos.1
      · exact h hpos.2
    have hrange := Rounding.nearest_clamp_range (by decide : (0 : ℤ) ≤ 10000)
      (x.st2.packV.value * x.st2.packI.value / 100)
    rw [if_neg hnot, momentaryPower, if_pos hpos, lround_clamp]
    -- sixteen bits are enough
    rw [Int.emod_eq_of_lt hrange.1 (by omega)]
  · have hzero : Rounding.clamp 10000 (0 / 100 : ℚ) = 0 := by
      simp [Rounding.clamp]
    have hround : Rounding.nearest (0 : ℚ) = 0 := by
      norm_num [Rounding.nearest]
    rw [if_pos (not_and_or.mp hpos), momentaryPower, if_neg hpos, hzero, hround]
    rfl

theorem dischargeLimitPowerKwX10_some (x : BmsPerInstanceCache) :
    dischargeLimitPowerKwX10 (some x) =
      if powerGate x then
        (Rounding.nearest (Rounding.clamp 10000
          (x.st2.packV.value * x.currentLimit.dischargeLimitA.value / 100))).toNat
      else 0 := by
  have hcast : ((10000 : ℤ) : ℚ) = 10000 := by norm_num
  rw [Rounding.clamp_eq_min_max (by decide), hcast]
  rfl

theorem sameStep_iff (p q : ℚ) :
    SameStep p q ↔ Rounding.nearest (Rounding.clamp 10000 (p / 100)) =
      Rounding.nearest (Rounding.clamp 10000 (q / 100)) := by
  rw [Rounding.nearest_clamp_eq_iff (by decide)]
  have hscale : ∀ (n : ℤ) (r : ℚ), 100 * (n : ℚ) - 50 ≤ r ↔ (n : ℚ) - 1 / 2 ≤ r / 100 := by
    intro n r
    constructor
    · intro h
      linarith
    · intro h
      linarith
  unfold SameStep
  simp only [hscale]

/-- The words of a battery agree exactly when its gate is shut or both products round
alike. -/
theorem calc_eq_limit_iff (b : Option BmsPerInstanceCache) :
    calcPcuDischargePowerKwX10 b = dischargeLimitPowerKwX10 b ↔
      ∀ x, b = some x → powerGate x = true →
        SameStep (momentaryPower x) (x.st2.packV.value * x.currentLimit.dischargeLimitA.value) := by
  cases b with
  | none => simp [calcPcuDischargePowerKwX10, dischargeLimitPowerKwX10]
  | some x =>
    rw [calcPcuDischargePowerKwX10_some, dischargeLimitPowerKwX10_some]
    have hcode := Rounding.nearest_clamp_range (by decide : (0 : ℤ) ≤ 10000)
      (momentaryPower x / 100)
    have hlimit := Rounding.nearest_clamp_range (by decide : (0 : ℤ) ≤ 10000)
      (x.st2.packV.value * x.currentLimit.dischargeLimitA.value / 100)
    constructor
    · intro heq y hy hgate
      obtain rfl := Option.some_inj.mp hy
      rw [if_pos hgate, if_pos hgate] at heq
      rw [sameStep_iff]
      omega
    · intro h
      by_cases hgate : powerGate x = true
      · rw [if_pos hgate, if_pos hgate, (sameStep_iff _ _).mp (h x rfl hgate)]
      · rw [if_neg hgate, if_neg hgate]

theorem calcPcuDischargePowerKwX10_lt (b : Option BmsPerInstanceCache) :
    calcPcuDischargePowerKwX10 b < 2 ^ 16 := by
  cases b with
  | none => decide
  | some x =>
    rw [calcPcuDischargePowerKwX10_some]
    split
    · have hrange := Rounding.nearest_clamp_range (by decide : (0 : ℤ) ≤ 10000)
        (momentaryPower x / 100)
      omega
    · decide

/-- What a status frame of a tick carries. -/
theorem powerWordOf_statusFrame {s : LogicState} {t : Nat} {fr : CanFrame}
    (hfr : fr ∈ statusFrames s t) {i : Nat} (hi : i < 2) :
    powerWordOf fr i = calcPcuDischargePowerKwX10 (batteryAt s t (i + 1)) := by
  obtain ⟨cfg, -, hsent⟩ := List.mem_filterMap.mp hfr
  obtain ⟨-, rfl⟩ := PcuTxRuntimeCfg.statusFrame_eq_some_iff.mp hsent
  obtain ⟨hfirst, hsecond⟩ := Pcu.powerWordOf_buildEmuStatus cfg.idEmuStatus
    (calcPcuDischargePowerKwX10_lt (batteryAt s t 1))
    (calcPcuDischargePowerKwX10_lt (batteryAt s t 2)) cfg.batt1Branches cfg.batt2Branches
  obtain rfl | rfl : i = 0 ∨ i = 1 := by omega
  · exact hfirst
  · exact hsecond

section Limit

variable (sys : Option (List CanLinkCfg)) (map : Option HmiMapModel)

/-- A status frame carries the discharge limit of a battery exactly when the power it
delivers at the moment rounds to the same word. -/
theorem powerWord_eq_limit_iff (pre : List Event) (tsMs t : Nat) (c : Command)
    (hc : c ∈ (logicLoop sys map).emitted pre ⟨tsMs, .tick t⟩ ∧
      c.frame ∈ statusFrames ((logicLoop sys map).run pre) t) (i : Nat) (hi : i < 2) :
    powerWordOf c.frame i =
        dischargeLimitPowerKwX10 (batteryAt ((logicLoop sys map).run pre) t (i + 1)) ↔
      ∀ x, batteryAt ((logicLoop sys map).run pre) t (i + 1) = some x → powerGate x = true →
        SameStep (momentaryPower x) (x.st2.packV.value * x.currentLimit.dischargeLimitA.value) := by
  rw [powerWordOf_statusFrame hc.2 hi, calc_eq_limit_iff]

end Limit

/-- A battery at 400 V that may deliver 100 A and delivers none. -/
def idleRun : List Event :=
  ([.frame (Bms.extendedFrame 0x1884E105#32 0x00000FA027100000#64) 100,
    .frame (Bms.extendedFrame 0x18C4E10C#32 0x03E8000000000000#64) 110] : List BusEvent).flatMap
      fromBus

theorem powerWord_eq_limit_iff_idleRun :
    let s := (logicLoop (some systemLinks) none).run idleRun
    ∃ c ∈ (logicLoop (some systemLinks) none).emitted idleRun ⟨200, .tick 200⟩,
      (powerWordOf c.frame 0 = dischargeLimitPowerKwX10 (batteryAt s 200 1) ↔
        ∀ x, batteryAt s 200 1 = some x → powerGate x = true →
          SameStep (momentaryPower x)
            (x.st2.packV.value * x.currentLimit.dischargeLimitA.value)) := by
  have hsent : ∃ c ∈ (logicLoop (some systemLinks) none).emitted idleRun ⟨200, .tick 200⟩,
      c.frame ∈ statusFrames ((logicLoop (some systemLinks) none).run idleRun) 200 := by
    decide +kernel
  obtain ⟨c, hc⟩ := hsent
  exact ⟨c, hc.1, powerWord_eq_limit_iff (some systemLinks) none idleRun 200 200 c hc 0
    (by decide)⟩

/-- Its limit of 40 kW is reported as none. -/
theorem idleRun_powerWord :
    let s := (logicLoop (some systemLinks) none).run idleRun
    ∃ c ∈ (logicLoop (some systemLinks) none).emitted idleRun ⟨200, .tick 200⟩,
      c.frame ∈ statusFrames s 200 ∧ powerWordOf c.frame 0 = 0 ∧
      dischargeLimitPowerKwX10 (batteryAt s 200 1) = 400 := by
  decide +kernel

end Logic
end EnergyStorage
