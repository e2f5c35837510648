import EnergyStorage.Bms.LogicAdapter
import EnergyStorage.Bms.RuntimeHealth

/-! # The state of one PCU

Messages only record what was observed; whether a PCU is online is decided by the
ageing pass alone. -/

namespace EnergyStorage
namespace Pcu

open Bms.LogicAdapter (truncToInt)

structure PcuOnlineState where
  seenOnce : Bool := false
  lastRxMs : Nat := 0
  lastHbChangeMs : Nat := 0
  lastHeartbeat : Nat := 0
  hasLastHeartbeat : Bool := false
  /-- `0` standby, `1` charging, `2` fault. -/
  pcuState : Nat := 0
  pcuStateValid : Bool := false
  cabinetId : Nat := 0
  estop : Bool := false
  hbRepeatCount : Nat := 0
  hbJumpErrCount : Nat := 0
  lastHbDelta : Int := 0
  rxAlive : Bool := false
  hbAlive : Bool := false
  online : Bool := false
  lastRxAgeMs : ℚ := 0
  lastHbChangeAgeMs : ℚ := 0
  lastOnlineChangeMs : Nat := 0
  /-- `0` none, `1` no data yet, `2` receive timeout, `3` heartbeat stale. -/
  offlineReasonCode : Nat := 0
  lastOfflineMs : Nat := 0
  disconnectCount : Nat := 0
  offlineReasonText : String := ""

/-! ### Reading a message -/

def readU32FromDeviceData (d : DeviceData) (key : String) : Option Nat :=
  ((d.value.get key).map fun v => (BitVec.ofInt 32 v).toNat).or
    ((d.status.get key).or
      ((d.num.get key).map fun q => (BitVec.ofInt 32 (truncToInt q)).toNat))

def readBoolFromDeviceData (d : DeviceData) (key : String) : Option Bool :=
  (readU32FromDeviceData d key).map fun u => decide (u ≠ 0)

/-- The configured instance number wins over the device name.  Index `0` is PCU1. -/
def tryResolvePcuInstance (d : DeviceData) : Option Nat :=
  let byNumber := (readU32FromDeviceData d "__pcu.instance").or
    (readU32FromDeviceData d "pcu_instance")
  if byNumber = some 1 then some 0
  else if byNumber = some 2 then some 1
  else if d.deviceName = "PCU_0" then some 0
  else if d.deviceName = "PCU_1" then some 1
  else none

def tryGetPcuCabinetId (d : DeviceData) : Option Nat :=
  (readU32FromDeviceData d "cabinet_id").or (readU32FromDeviceData d "__pcu.cabinet_id")

def tryGetPcuHeartbeat (d : DeviceData) : Option Nat :=
  (readU32FromDeviceData d "heartbeat").or (readU32FromDeviceData d "__pcu.heartbeat")

/-! ### Observation -/

/-- The step of a heartbeat that counts modulo 256, as a 32-bit difference. -/
def heartbeatDelta (prev curr : Nat) : Int :=
  if prev > 240 ∧ curr < 16 then (BitVec.ofNat 32 (curr + 256) - BitVec.ofNat 32 prev).toInt
  else (BitVec.ofNat 32 curr - BitVec.ofNat 32 prev).toInt

def observeHeartbeat (heartbeat ts : Nat) (st : PcuOnlineState) : PcuOnlineState :=
  if ¬ st.hasLastHeartbeat then
    { st with
      lastHeartbeat := heartbeat, hasLastHeartbeat := true, lastHbChangeMs := ts,
      hbRepeatCount := 0, lastHbDelta := 0 }
  else if st.lastHeartbeat = heartbeat then
    { st with hbRepeatCount := (st.hbRepeatCount + 1) % 2 ^ 32, lastHbDelta := 0 }
  else
    let delta := heartbeatDelta st.lastHeartbeat heartbeat
    { st with
      lastHbDelta := delta
      hbJumpErrCount :=
        if delta ≠ 1 then (st.hbJumpErrCount + 1) % 2 ^ 32 else st.hbJumpErrCount
      lastHeartbeat := heartbeat, lastHbChangeMs := ts, hbRepeatCount := 0 }

/-- What a message with a heartbeat leaves in the state of its PCU. -/
def observePcu (d : DeviceData) (heartbeat ts : Nat) (st : PcuOnlineState) : PcuOnlineState :=
  let pcuState := (readU32FromDeviceData d "pcu_state").or
    (readU32FromDeviceData d "__pcu.pcu_state_raw")
  let estop := (readBoolFromDeviceData d "estop").or (readBoolFromDeviceData d "__pcu.estop_raw")
  observeHeartbeat heartbeat ts
    { st with
      seenOnce := true
      lastRxMs := ts
      cabinetId := (tryGetPcuCabinetId d).getD st.cabinetId
      pcuState := pcuState.getD st.pcuState
      pcuStateValid := pcuState.isSome || st.pcuStateValid
      estop := estop.getD st.estop }

/-! ### Ageing -/

def pcuRxTimeoutMs : Nat := 1500
def pcuHbStaleMs : Nat := 3000

def pcuOfflineReasonText (code : Nat) : String :=
  if code = 0 then "None"
  else if code = 1 then "NoData"
  else if code = 2 then "RxTimeout"
  else if code = 3 then "HeartbeatStale"
  else "Unknown"

def updateOnePcuRuntimeHealth (st : PcuOnlineState) (nowMs rxTimeoutMs hbStaleTimeoutMs : Nat) :
    PcuOnlineState :=
  let rxAlive := st.seenOnce && calcFreshByTimeout nowMs st.lastRxMs rxTimeoutMs
  let hbAlive := st.hasLastHeartbeat && calcFreshByTimeout nowMs st.lastHbChangeMs hbStaleTimeoutMs
  let code := if ¬ st.seenOnce then 1 else if ¬ rxAlive then 2 else if ¬ hbAlive then 3 else 0
  let online := decide (code = 0)
  let changed := online ≠ st.online
  { st with
    lastRxAgeMs := calcAgeMs nowMs st.lastRxMs
    lastHbChangeAgeMs := calcAgeMs nowMs st.lastHbChangeMs
    rxAlive := rxAlive
    hbAlive := hbAlive
    online := online
    offlineReasonCode := code
    offlineReasonText := pcuOfflineReasonText code
    lastOnlineChangeMs := if changed then nowMs else st.lastOnlineChangeMs
    lastOfflineMs := if changed ∧ ¬ online then nowMs else st.lastOfflineMs
    disconnectCount :=
      if changed ∧ ¬ online then (st.disconnectCount + 1) % 2 ^ 32 else st.disconnectCount }

@[simp] theorem updateOnePcuRuntimeHealth_estop (st : PcuOnlineState) (nowMs rx hb : Nat) :
    (updateOnePcuRuntimeHealth st nowMs rx hb).estop = st.estop := rfl

end Pcu
end EnergyStorage
