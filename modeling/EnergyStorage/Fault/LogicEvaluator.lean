import EnergyStorage.Bms.CommandManager
import EnergyStorage.Fault.ConditionState
import EnergyStorage.Logic.Context

/-! # Confirming the faults of the logic layer

A pass reads the raw truths out of the context, feeds each into the condition of its
key, and copies the confirmed value to the table the fault pages are mapped from. -/

namespace EnergyStorage
namespace Fault

open Lib (Dict)
open Logic (LogicContext)

/-! ### What a pass reads -/

/-- What the evaluator asks of a device that only has a summary here. -/
structure DeviceSummary where
  online : Bool := false
  alarmAny : Bool := false
  faultAny : Bool := false

structure LogicFaultState where
  anyFault : Bool := false
  pcuAnyOffline : Bool := false
  bmsAnyOffline : Bool := false
  upsOffline : Bool := false
  smokeOffline : Bool := false
  gasOffline : Bool := false
  airOffline : Bool := false
  envAnyAlarm : Bool := false
  hmiCommFault : Bool := false
  remoteCommFault : Bool := false
  sdcardFault : Bool := false

/-- The context with the parts that only the faults depend on. -/
structure FaultContext where
  ctx : LogicContext := {}
  upsFaults : DeviceSummary := {}
  airFaults : DeviceSummary := {}
  logicFaults : LogicFaultState := {}
  hmiCommTimeoutMs : Nat := 10000
  remoteCommTimeoutMs : Nat := 10000

namespace FaultContext

variable (c : FaultContext) (nowMs : Nat)

def rawPcu0Offline : Bool := !c.ctx.pcu0State.online

def rawPcu1Offline : Bool := !c.ctx.pcu1State.online

/-- The bit of a PCU that has gone silent no longer counts. -/
def rawPcu0EmergencyStop : Bool := c.ctx.pcu0State.online && c.ctx.pcu0State.estop

def rawPcu1EmergencyStop : Bool := c.ctx.pcu1State.online && c.ctx.pcu1State.estop

/-- A partner that has been heard of and is silent for longer than allowed. -/
def commTimedOut (seenOnce : Bool) (lastTs timeoutMs nowMs : Nat) : Bool :=
  if ¬ seenOnce then false
  else if lastTs = 0 then false
  else if nowMs < lastTs then false
  else decide (nowMs - lastTs > timeoutMs)

def rawHmiCommFault : Bool :=
  commTimedOut c.ctx.hmi.hmiSeenOnce c.ctx.hmi.lastHmiCommTs c.hmiCommTimeoutMs nowMs

/-- Once set the flag of the remote link holds itself. -/
def rawRemoteCommFault : Bool :=
  if c.logicFaults.remoteCommFault then true
  else commTimedOut c.ctx.remoteSeenOnce c.ctx.lastRemoteRxTs c.remoteCommTimeoutMs nowMs

def rawSdcardFault : Bool := c.logicFaults.sdcardFault

def bmsOffline (idx : Nat) : Bool :=
  match c.ctx.bmsCache.items.get (Bms.BmsCommandManager.makeName idx) with
  | none => true
  | some x => !x.online

/-- The summary flags as a pass leaves them. -/
def refreshLogicFaults : LogicFaultState :=
  let hmi := c.rawHmiCommFault nowMs
  let remote := c.rawRemoteCommFault nowMs
  let sdcard := c.rawSdcardFault
  let f := c.logicFaults
  { f with
    hmiCommFault := hmi
    remoteCommFault := remote
    sdcardFault := sdcard
    envAnyAlarm := c.upsFaults.alarmAny || c.ctx.smokeFaults.alarmAny ||
      c.ctx.gasFaults.alarmAny || c.airFaults.alarmAny
    anyFault := c.ctx.systemEstop || sdcard || hmi || remote ||
      f.pcuAnyOffline || f.bmsAnyOffline || f.upsOffline || f.smokeOffline || f.gasOffline ||
      f.airOffline || c.upsFaults.faultAny || c.ctx.smokeFaults.faultAny ||
      c.ctx.gasFaults.faultAny || c.airFaults.faultAny }

end FaultContext

/-! ### What a pass updates -/

/-- One raw truth for one condition, with its two delays. -/
structure SignalUpdate where
  signal : String
  raw : Bool
  triggerMs : Nat
  clearMs : Nat

def makeSignalKey (signal : String) : String := "logic." ++ signal

def SignalUpdate.key (u : SignalUpdate) : String := makeSignalKey u.signal

/-- The updates of `evaluatePcu`.  PCU_0 is PCU1 to the outside, so each condition
comes once under either name. -/
def pcuUpdates (c : FaultContext) : List SignalUpdate :=
  [ ⟨"pcu0_offline", c.rawPcu0Offline, 3000, 0⟩,
    ⟨"pcu1_offline", c.rawPcu1Offline, 3000, 0⟩,
    ⟨"pcu1_comm_fault", c.rawPcu0Offline, 3000, 0⟩,
    ⟨"pcu2_comm_fault", c.rawPcu1Offline, 3000, 0⟩,
    ⟨"pcu0_emergency_stop", c.rawPcu0EmergencyStop, 300, 0⟩,
    ⟨"pcu1_emergency_stop", c.rawPcu1EmergencyStop, 300, 0⟩,
    -- the names the fault map knows
    ⟨"pcu1_emergency_stop", c.rawPcu0EmergencyStop, 300, 0⟩,
    ⟨"pcu2_emergency_stop", c.rawPcu1EmergencyStop, 300, 0⟩ ]

/-- The updates of `evaluateLogic`. -/
def logicUpdates (c : FaultContext) (nowMs : Nat) : List SignalUpdate :=
  let f := c.refreshLogicFaults nowMs
  let hmi := c.rawHmiCommFault nowMs
  let remote := c.rawRemoteCommFault nowMs
  let sdcard := c.rawSdcardFault
  [ ⟨"env_any_alarm", f.envAnyAlarm, 2000, 1000⟩,
    ⟨"any_fault", f.anyFault, 2000, 1000⟩,
    ⟨"hmi_comm_fault", hmi, 3000, 1000⟩,
    ⟨"remote_comm_fault", remote, 3000, 1000⟩,
    ⟨"aircon_comm_fault", !c.airFaults.online, 3000, 1000⟩,
    ⟨"ups_comm_fault", !c.upsFaults.online, 3000, 1000⟩,
    ⟨"tss_comm_fault", !c.ctx.smokeFaults.online, 3000, 1000⟩,
    ⟨"cgs_comm_fault", !c.ctx.gasFaults.online, 3000, 1000⟩,
    ⟨"pcu1_comm_fault", !c.ctx.pcu0State.online, 3000, 1000⟩,
    ⟨"pcu2_comm_fault", !c.ctx.pcu1State.online, 3000, 1000⟩,
    ⟨"bms1_comm_fault", c.bmsOffline 1, 3000, 1000⟩,
    ⟨"bms2_comm_fault", c.bmsOffline 2, 3000, 1000⟩,
    ⟨"bms3_comm_fault", c.bmsOffline 3, 3000, 1000⟩,
    ⟨"bms4_comm_fault", c.bmsOffline 4, 3000, 1000⟩,
    ⟨"remote_comm_fault", remote, 3000, 1000⟩,
    ⟨"sdcard_fault", sdcard, 3000, 1000⟩ ]

def passUpdates (c : FaultContext) (nowMs : Nat) : List SignalUpdate :=
  pcuUpdates c ++ logicUpdates c nowMs

/-! ### The pass -/

/-- The conditions and the table of confirmed faults. -/
structure ConfirmedFaults where
  engine : Dict String FaultConditionState := Dict.empty
  signals : Dict String Bool := Dict.empty

namespace ConfirmedFaults

def condition (s : ConfirmedFaults) (key : String) : FaultConditionState :=
  (s.engine.get key).getD {}

def isConfirmed (s : ConfirmedFaults) (key : String) : Bool := (s.signals.get key).getD false

/-- One update of a condition, and of its row in the table. -/
def evalConfirmed (nowMs : Nat) (s : ConfirmedFaults) (u : SignalUpdate) : ConfirmedFaults :=
  let st := (s.condition u.key).sample u.raw nowMs u.triggerMs u.clearMs
  { engine := s.engine.insert u.key st, signals := s.signals.insert u.key st.confirmedOn }

/-- A pass leaves the refreshed summary flags and the new table. -/
def evaluateAll (c : FaultContext) (nowMs : Nat) (s : ConfirmedFaults) :
    LogicFaultState × ConfirmedFaults :=
  (c.refreshLogicFaults nowMs, (passUpdates c nowMs).foldl (evalConfirmed nowMs) s)

end ConfirmedFaults
end Fault
end EnergyStorage
