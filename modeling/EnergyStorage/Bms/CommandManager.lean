import EnergyStorage.Bms.RuntimeHealth
import EnergyStorage.Bms.Tx
import EnergyStorage.Control.Commands

/-! # The command manager

Per tick the manager proposes a command for each battery from its cache entry, lets
the business layer change it, clamps it to the safety verdict, and sends it when
the period has passed. -/

namespace EnergyStorage
namespace Bms

inductive BmsCmdReason
  | init | noData | offline | rqHvPowerOff | faultLevelBlock | fireFaultBlock
  | tmsFaultBlock | allowClose | fallbackPowerOff | runtimeStale | st2Stale
  | fault1Stale | fault2Stale | currentLimitStale | notReady
  deriving DecidableEq, Repr

structure BmsCommandState where
  lastLife : Nat := 0
  desired : V2bCmdFields := {}
  lastSent : V2bCmdFields := {}
  lastBuildTsMs : Nat := 0
  lastSendTsMs : Nat := 0
  hasLastSent : Bool := false
  reason : BmsCmdReason := .init
  lastFrame : CanFrame := ⟨0, 0, 0⟩
  hasLastFrame : Bool := false

/-- The states are made on first use from the default, so a total function serves
as the map. -/
structure BmsCommandManager where
  tx : BmsTx := {}
  defaultCanIndex : Int := 2
  v2bCmdId29 : BitVec 32 := 0x1802F3EF#32
  states : Nat → BmsCommandState := fun _ => {}

/-- Unsigned 64-bit subtraction. -/
def subU64 (a b : Nat) : Nat := (a + (2 ^ 64 - b % 2 ^ 64)) % 2 ^ 64

namespace BmsCommandManager

open Lib (Dict)

def makeName (instanceIndex : Nat) : String := "BMS_" ++ toString instanceIndex

/-- The transmitter is given the configured identifier and then initialised with its
own default one. -/
def init (m : BmsCommandManager) (defaultCanIndex : Int) (v2bCmdId29 : BitVec 32) :
    BmsCommandManager × Bool :=
  let tx := { m.tx with v2bCmdId29 := v2bCmdId29, v2bMsg := none }
  let bound := tx.init 0x1802F3EF#32
  ({ m with defaultCanIndex := defaultCanIndex, v2bCmdId29 := v2bCmdId29, tx := bound.1 },
    bound.2)

/-- The safety verdict on one battery: the first rule that blocks it. -/
def safetyBlockReason (x : BmsPerInstanceCache) : BmsCmdReason :=
  if ¬ x.seenOnce then .noData
  else if ¬ x.online then .offline
  else if x.runtimeFaultStale then .runtimeStale
  else if x.lastMs .st2 = 0 ∨ ¬ x.groupOnline .st2 then .st2Stale
  else if x.lastMs .fault1 = 0 ∨ ¬ x.groupOnline .fault1 then .fault1Stale
  else if x.lastMs .fault2 = 0 ∨ ¬ x.groupOnline .fault2 then .fault2Stale
  else if x.lastMs .currentLimit = 0 ∨ ¬ x.groupOnline .currentLimit then .currentLimitStale
  else if x.st2.rqHvPowerOff then .rqHvPowerOff
  else if x.fireFaultLevel ≥ 2 then .fireFaultBlock
  else if x.st2.faultLevel ≥ 2 then .faultLevelBlock
  else if x.tm2b.faultLevel ≥ 2 then .tmsFaultBlock
  else if ¬ x.hvAllowClose then .fallbackPowerOff
  else .allowClose

def ensureState (defaultCanIndex : Int) (instanceIndex : Nat) (st : BmsCommandState) :
    BmsCommandState :=
  if st.desired.instanceIndex = 0 then
    let desired := { st.desired with
      instanceIndex := instanceIndex, canIndex := defaultCanIndex, hvOnoff := 2,
      systemEnable := 0, reserved1 := 0, reserved2 := 0, source := "init" }
    { st with desired := desired, lastSent := desired, reason := .init }
  else st

/-- The business layer's handle on a command, with the value it writes. -/
def writeDesiredHv (defaultCanIndex : Int) (idx hv : Nat) (source : String)
    (st : BmsCommandState) : BmsCommandState :=
  let st := ensureState defaultCanIndex idx st
  { st with desired := { st.desired with
      instanceIndex := idx, canIndex := defaultCanIndex, valid := true,
      source := if source ≠ "" then source else st.desired.source, hvOnoff := hv } }

def resetPassiveFields (d : V2bCmdFields) : V2bCmdFields :=
  { d with
    vehicleSpeed := 0
    aux1Onoff := 0, aux2Onoff := 0, aux3Onoff := 0
    mainPosRelaySt := 0, mainPosRelayFlt := 0, mainNegRelaySt := 0, mainNegRelayFlt := 0
    chrgPosRelaySt := 0, chrgPosRelayFlt := 0
    heatPosRelaySt := 0, heatPosRelayFlt := 0, heatNegRelaySt := 0, heatNegRelayFlt := 0
    aux1RelaySt := 0, aux1RelayFlt := 0, aux2RelaySt := 0, aux2RelayFlt := 0
    aux3RelaySt := 0, aux3RelayFlt := 0, aux4RelaySt := 0, aux4RelayFlt := 0
    reserved1 := 0, reserved2 := 0
    prechgRelaySt := 0, prechgRelayFlt := 0, systemEnable := 0 }

def rebuildInstance (defaultCanIndex : Int) (cache : BmsLogicCache) (tsMs idx : Nat)
    (st : BmsCommandState) : BmsCommandState :=
  let st := ensureState defaultCanIndex idx st
  let desired := resetPassiveFields { st.desired with
    instanceIndex := idx, canIndex := defaultCanIndex, requestTsMs := tsMs,
    source := "logic", valid := true }
  match cache.items.get (makeName idx) with
  | none =>
    { st with desired := { desired with hvOnoff := 2 }, reason := .noData,
              lastBuildTsMs := tsMs }
  | some x =>
    let reason := safetyBlockReason x
    { st with desired := { desired with hvOnoff := if reason = .allowClose then 1 else 2 },
              reason := reason, lastBuildTsMs := tsMs }

def enforceInstance (defaultCanIndex : Int) (cache : BmsLogicCache) (tsMs idx : Nat)
    (st : BmsCommandState) : BmsCommandState :=
  let st := ensureState defaultCanIndex idx st
  let desired := { st.desired with
    instanceIndex := idx, canIndex := defaultCanIndex, requestTsMs := tsMs, valid := true }
  match cache.items.get (makeName idx) with
  | none =>
    { st with desired := { desired with hvOnoff := 2 }, reason := .noData,
              lastBuildTsMs := tsMs }
  | some x =>
    let reason := safetyBlockReason x
    if reason ≠ .allowClose then
      { st with desired := { desired with hvOnoff := 2 }, reason := reason,
                lastBuildTsMs := tsMs }
    else
      -- the business layer's choice stands
      { st with desired := desired,
                reason := if desired.hvOnoff = 1 then .allowClose else .fallbackPowerOff,
                lastBuildTsMs := tsMs }

/-- Whether an instance may send again. -/
def isDue (tsMs periodMs : Nat) (st : BmsCommandState) : Bool :=
  !(decide (st.lastSendTsMs ≠ 0) && decide (subU64 tsMs st.lastSendTsMs < periodMs))

def emitInstance (defaultCanIndex : Int) (tx : BmsTx) (tsMs periodMs idx : Nat)
    (st : BmsCommandState) : BmsCommandState × Option Command :=
  let st := ensureState defaultCanIndex idx st
  if ¬ isDue tsMs periodMs st then (st, none)
  else
    let cmdFields := { st.desired with lifeSignal := st.lastLife, requestTsMs := tsMs }
    match tx.buildFrameForInstance cmdFields with
    | none => (st, none)
    | some fr =>
      ({ st with
          lastSent := cmdFields, hasLastSent := true, lastSendTsMs := tsMs,
          lastFrame := fr, hasLastFrame := true, lastLife := (st.lastLife + 1) % 2 ^ 8 },
        some (.sendCan { canIndex := cmdFields.canIndex, frame := fr }))

/-- The loop over the four instances. -/
def instances : List Nat := [1, 2, 3, 4]

def forInstances (f : Nat → BmsCommandState → BmsCommandState)
    (states : Nat → BmsCommandState) : Nat → BmsCommandState :=
  fun idx => if idx ∈ instances then f idx (states idx) else states idx

def rebuildDesiredFromCache (m : BmsCommandManager) (cache : BmsLogicCache) (tsMs : Nat) :
    BmsCommandManager :=
  { m with states := forInstances (rebuildInstance m.defaultCanIndex cache tsMs) m.states }

def enforceSafetyFromCache (m : BmsCommandManager) (cache : BmsLogicCache) (tsMs : Nat) :
    BmsCommandManager :=
  { m with states := forInstances (enforceInstance m.defaultCanIndex cache tsMs) m.states }

/-- What the business layer writes this tick, per instance. -/
def writeBusiness (m : BmsCommandManager) (hv : Nat → Option Nat) : BmsCommandManager :=
  { m with states := forInstances (fun idx st =>
      match hv idx with
      | some v => writeDesiredHv m.defaultCanIndex idx v "business" st
      | none => st) m.states }

def emitPeriodicCommands (m : BmsCommandManager) (tsMs periodMs : Nat) :
    BmsCommandManager × List Command :=
  let emit := emitInstance m.defaultCanIndex m.tx tsMs periodMs
  ({ m with states := forInstances (fun idx st => (emit idx st).1) m.states },
    instances.filterMap fun idx => (emit idx (m.states idx)).2)

/-! ### The verdict -/

/-- A rule that did not fire. -/
theorem not_of_ite_eq {α : Type} {c : Prop} [Decidable c] {a b r : α}
    (h : (if c then a else b) = r) (ha : a ≠ r) : ¬ c ∧ b = r := by
  by_cases hc : c
  · rw [if_pos hc] at h
    exact absurd h ha
  · rw [if_neg hc] at h
    exact ⟨hc, h⟩

theorem safetyBlockReason_eq_allowClose_iff (x : BmsPerInstanceCache) :
    safetyBlockReason x = .allowClose ↔
      x.seenOnce = true ∧ x.online = true ∧ x.runtimeFaultStale = false ∧
      (∀ g ∈ criticalGroups, x.lastMs g ≠ 0 ∧ x.groupOnline g = true) ∧
      x.st2.rqHvPowerOff = false ∧ x.fireFaultLevel < 2 ∧ x.st2.faultLevel < 2 ∧
      x.tm2b.faultLevel < 2 ∧ x.hvAllowClose = true := by
  have hgroups : (∀ g ∈ criticalGroups, x.lastMs g ≠ 0 ∧ x.groupOnline g = true) ↔
      (x.lastMs .st2 ≠ 0 ∧ x.groupOnline .st2 = true) ∧
      (x.lastMs .currentLimit ≠ 0 ∧ x.groupOnline .currentLimit = true) ∧
      (x.lastMs .fault1 ≠ 0 ∧ x.groupOnline .fault1 = true) ∧
      (x.lastMs .fault2 ≠ 0 ∧ x.groupOnline .fault2 = true) := by
    simp [criticalGroups]
  rw [hgroups]
  constructor
  · intro h
    unfold safetyBlockReason at h
    obtain ⟨h1, h⟩ := not_of_ite_eq h (by decide)
    obtain ⟨h2, h⟩ := not_of_ite_eq h (by decide)
    obtain ⟨h3, h⟩ := not_of_ite_eq h (by decide)
    obtain ⟨h4, h⟩ := not_of_ite_eq h (by decide)
    obtain ⟨h5, h⟩ := not_of_ite_eq h (by decide)
    obtain ⟨h6, h⟩ := not_of_ite_eq h (by decide)
    obtain ⟨h7, h⟩ := not_of_ite_eq h (by decide)
    obtain ⟨h8, h⟩ := not_of_ite_eq h (by decide)
    obtain ⟨h9, h⟩ := not_of_ite_eq h (by decide)
    obtain ⟨h10, h⟩ := not_of_ite_eq h (by decide)
    obtain ⟨h11, h⟩ := not_of_ite_eq h (by decide)
    obtain ⟨h12, -⟩ := not_of_ite_eq h (by decide)
    have hgroup : ∀ {a : Nat} {b : Bool}, ¬ (a = 0 ∨ ¬ b = true) → a ≠ 0 ∧ b = true :=
      fun hn => ⟨fun ha => hn (Or.inl ha), not_not.mp fun hb => hn (Or.inr hb)⟩
    exact ⟨not_not.mp h1, not_not.mp h2, Bool.eq_false_of_not_eq_true h3,
      ⟨hgroup h4, hgroup h7, hgroup h5, hgroup h6⟩, Bool.eq_false_of_not_eq_true h8,
      lt_of_not_ge h9, lt_of_not_ge h10, lt_of_not_ge h11, not_not.mp h12⟩
  · rintro ⟨h1, h2, h3, ⟨h4, h5, h6, h7⟩, h8, h9, h10, h11, h12⟩
    unfold safetyBlockReason
    rw [if_neg (by simp [h1]), if_neg (by simp [h2]), if_neg (by simp [h3]),
      if_neg (by simp [h4]), if_neg (by simp [h6]), if_neg (by simp [h7]),
      if_neg (by simp [h5]), if_neg (by simp [h8]), if_neg (by omega), if_neg (by omega),
      if_neg (by omega), if_neg (by simp [h12])]

/-- The cache allows closing for the instance. -/
def Allowed (cache : BmsLogicCache) (idx : Nat) : Prop :=
  ∃ x, cache.items.get (makeName idx) = some x ∧ safetyBlockReason x = .allowClose

instance (cache : BmsLogicCache) (idx : Nat) : Decidable (Allowed cache idx) :=
  match h : cache.items.get (makeName idx) with
  | none => isFalse (by rintro ⟨x, hx, -⟩; rw [h] at hx; cases hx)
  | some x =>
    if hx : safetyBlockReason x = .allowClose then isTrue ⟨x, h, hx⟩
    else isFalse (by
      rintro ⟨y, hy, hy'⟩
      rw [h] at hy
      cases hy
      exact hx hy')

/-! ### One instance through one tick -/

section Instance

variable (can : Int) (cache : BmsLogicCache) (tsMs idx : Nat) (st : BmsCommandState)

theorem ensureState_lastSendTsMs :
    (ensureState can idx st).lastSendTsMs = st.lastSendTsMs := by
  rw [ensureState]
  split <;> rfl

theorem rebuildInstance_lastSendTsMs :
    (rebuildInstance can cache tsMs idx st).lastSendTsMs = st.lastSendTsMs := by
  rw [← ensureState_lastSendTsMs can idx st, rebuildInstance]
  split <;> rfl

theorem writeDesiredHv_lastSendTsMs (hv : Nat) (source : String) :
    (writeDesiredHv can idx hv source st).lastSendTsMs = st.lastSendTsMs :=
  ensureState_lastSendTsMs can idx st

theorem enforceInstance_lastSendTsMs :
    (enforceInstance can cache tsMs idx st).lastSendTsMs = st.lastSendTsMs := by
  rw [← ensureState_lastSendTsMs can idx st, enforceInstance]
  split
  · rfl
  · dsimp only
    split <;> rfl

theorem rebuildInstance_hvOnoff :
    (rebuildInstance can cache tsMs idx st).desired.hvOnoff =
      if Allowed cache idx then 1 else 2 := by
  rw [rebuildInstance]
  cases h : cache.items.get (makeName idx) with
  | none => simp [Allowed, h]
  | some x => simp [Allowed, h]

theorem rebuildInstance_instanceIndex :
    (rebuildInstance can cache tsMs idx st).desired.instanceIndex = idx := by
  rw [rebuildInstance]
  split <;> rfl

theorem enforceInstance_desired :
    (enforceInstance can cache tsMs idx st).desired.instanceIndex = idx ∧
      (enforceInstance can cache tsMs idx st).desired.valid = true := by
  rw [enforceInstance]
  split
  · exact ⟨rfl, rfl⟩
  · dsimp only
    split <;> exact ⟨rfl, rfl⟩

/-- After the clamp the business value stands only where the cache allows closing. -/
theorem enforceInstance_hvOnoff (hidx : st.desired.instanceIndex ≠ 0) :
    (enforceInstance can cache tsMs idx st).desired.hvOnoff =
      if Allowed cache idx then st.desired.hvOnoff else 2 := by
  have hst : ensureState can idx st = st := if_neg hidx
  rw [enforceInstance, hst]
  cases h : cache.items.get (makeName idx) with
  | none => simp [Allowed, h]
  | some x =>
    by_cases hx : safetyBlockReason x = .allowClose
    · simp [Allowed, h, hx]
    · simp [Allowed, h, hx]

theorem emitInstance_eq (tx : BmsTx) (periodMs : Nat) (hidx : st.desired.instanceIndex ≠ 0) :
    (emitInstance can tx tsMs periodMs idx st).2 =
      if isDue tsMs periodMs st then
        (tx.buildFrameForInstance
          { st.desired with lifeSignal := st.lastLife, requestTsMs := tsMs }).map
          fun fr => .sendCan { canIndex := st.desired.canIndex, frame := fr }
      else none := by
  have hst : ensureState can idx st = st := if_neg hidx
  rw [emitInstance, hst]
  by_cases hdue : isDue tsMs periodMs st = true
  · simp only [hdue, not_true_eq_false, if_false, if_true]
    split
    next h => rw [h, Option.map_none]
    next fr h => rw [h, Option.map_some]
  · simp [hdue]

end Instance

end BmsCommandManager
end Bms
end EnergyStorage
