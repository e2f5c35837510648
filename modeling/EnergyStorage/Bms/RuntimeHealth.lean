import EnergyStorage.Bms.LogicTypes
import Mathlib.Algebra.Group.Nat.Defs

/-! # Ageing

Every tick and every snapshot recompute, from the stamps alone, how old each group
is, which groups and which batteries are fresh, and which are stale. -/

namespace EnergyStorage

def calcFreshByTimeout (nowMs lastMs timeoutMs : Nat) : Bool :=
  decide (lastMs ≠ 0) && decide (lastMs ≤ nowMs) && decide (nowMs - lastMs ≤ timeoutMs)

def calcAgeMs (nowMs lastMs : Nat) : ℚ :=
  if lastMs = 0 ∨ nowMs < lastMs then 0 else ((nowMs - lastMs : Nat) : ℚ)

theorem calcFreshByTimeout_iff {nowMs lastMs timeoutMs : Nat} :
    calcFreshByTimeout nowMs lastMs timeoutMs = true ↔
      lastMs ≠ 0 ∧ lastMs ≤ nowMs ∧ nowMs - lastMs ≤ timeoutMs := by
  simp [calcFreshByTimeout, and_assoc]

namespace Bms

open Lib (Dict)

def instanceTimeoutMs : Nat := 5000

def groupTimeoutMs : BmsGroup → Nat
  | .st1 | .st2 | .st3 | .st4 | .st5 | .st6 | .st7 | .currentLimit => 3000
  | .elecEnergy | .tm2b | .fire2b | .fault1 | .fault2 => 5000

/-- The groups without which a battery counts as stale. -/
def criticalGroups : List BmsGroup := [.st2, .currentLimit, .fault1, .fault2]

def bmsOfflineReasonText (code : Int) : String :=
  if code = 0 then "None"
  else if code = 1 then "NoData"
  else if code = 2 then "RxTimeout"
  else "Unknown"

def offlineCode (nowMs : Nat) (x : BmsPerInstanceCache) : Int :=
  if ¬ x.seenOnce then 1
  else if ¬ calcFreshByTimeout nowMs x.lastRxMs instanceTimeoutMs then 2
  else 0

/-- Ageing of one battery. -/
def ageInstance (nowMs : Nat) (x : BmsPerInstanceCache) : BmsPerInstanceCache :=
  let groupOnline := fun g => calcFreshByTimeout nowMs (x.lastMs g) (groupTimeoutMs g)
  let code := offlineCode nowMs x
  let online := decide (code = 0)
  let changed := online ≠ x.online
  { x with
    ageMs := fun g => calcAgeMs nowMs (x.lastMs g)
    groupOnline := groupOnline
    runtimeFaultStale := criticalGroups.any fun g => decide (x.lastMs g > 0) && !groupOnline g
    online := online
    offlineReasonCode := code
    offlineReasonText := bmsOfflineReasonText code
    lastOnlineChangeMs := if changed then nowMs else x.lastOnlineChangeMs
    lastOfflineMs := if changed ∧ ¬ online then nowMs else x.lastOfflineMs
    disconnectCount :=
      if changed ∧ ¬ online then (x.disconnectCount + 1) % 2 ^ 32 else x.disconnectCount }

def updateBmsRuntimeHealth (cache : BmsLogicCache) (nowMs : Nat) : BmsLogicCache :=
  { cache with items := fun name => (cache.items.get name).map (ageInstance nowMs) }

theorem get_updateBmsRuntimeHealth (cache : BmsLogicCache) (nowMs : Nat) (name : String) :
    (updateBmsRuntimeHealth cache nowMs).items.get name =
      (cache.items.get name).map (ageInstance nowMs) := rfl

theorem ageInstance_groupOnline {nowMs : Nat} {x : BmsPerInstanceCache} {g : BmsGroup} :
    (ageInstance nowMs x).groupOnline g = true ↔
      x.lastMs g ≠ 0 ∧ x.lastMs g ≤ nowMs ∧ nowMs - x.lastMs g ≤ groupTimeoutMs g :=
  calcFreshByTimeout_iff

theorem ageInstance_online {nowMs : Nat} {x : BmsPerInstanceCache} :
    (ageInstance nowMs x).online = true ↔ x.seenOnce = true ∧ x.lastRxMs ≠ 0 ∧
      x.lastRxMs ≤ nowMs ∧ nowMs - x.lastRxMs ≤ instanceTimeoutMs := by
  rw [← calcFreshByTimeout_iff]
  show decide (offlineCode nowMs x = 0) = true ↔ _
  rw [offlineCode]
  by_cases hs : x.seenOnce = true
  · by_cases hf : calcFreshByTimeout nowMs x.lastRxMs instanceTimeoutMs = true
    · simp [hs, hf]
    · simp [hs, hf]
  · simp [hs]

/-- Only groups that have come at all can make a battery stale. -/
theorem ageInstance_runtimeFaultStale {nowMs : Nat} {x : BmsPerInstanceCache} :
    (ageInstance nowMs x).runtimeFaultStale = true ↔
      ∃ g ∈ criticalGroups, 0 < x.lastMs g ∧ (ageInstance nowMs x).groupOnline g = false := by
  simp only [ageInstance, List.any_eq_true, Bool.and_eq_true, decide_eq_true_eq,
    Bool.not_eq_true', gt_iff_lt]

/-- Ageing touches no decoded field. -/
theorem ageInstance_decoded (nowMs : Nat) (x : BmsPerInstanceCache) :
    let y := ageInstance nowMs x
    y.lastMs = x.lastMs ∧ y.lastRxMs = x.lastRxMs ∧ y.seenOnce = x.seenOnce ∧
      y.st1 = x.st1 ∧ y.st2 = x.st2 ∧ y.tm2b = x.tm2b ∧ y.fire2b = x.fire2b ∧
      y.fireFaultLevel = x.fireFaultLevel ∧ y.hvAllowClose = x.hvAllowClose ∧
      y.hvShouldOpen = x.hvShouldOpen :=
  ⟨rfl, rfl, rfl, rfl, rfl, rfl, rfl, rfl, rfl, rfl⟩

end Bms
end EnergyStorage
