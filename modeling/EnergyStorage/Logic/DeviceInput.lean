import EnergyStorage.Logic.Context

/-! # Device messages, samples and snapshots

A message reaches the record of its device by its name.  A snapshot ages the PCUs and
the batteries and rebuilds the alarm records from the aggregated items. -/

namespace EnergyStorage
namespace Logic

open Lib (Dict)
open Bms.LogicAdapter (truncToInt)
open Pcu (PcuOnlineState observePcu tryResolvePcuInstance tryGetPcuHeartbeat
  updateOnePcuRuntimeHealth pcuRxTimeoutMs pcuHbStaleMs)

/-! ### Alarm devices -/

def tssTempAlarmHighC : ℚ := 60

def statusOn (d : DeviceData) (key : String) : Bool :=
  match d.status.get key with
  | some v => v ≠ 0
  | none => false

/-- A measured code cast to a 32-bit word, `0` when it is missing. -/
def numWord (d : DeviceData) (key : String) : BitVec 32 :=
  match d.num.get key with
  | some q => BitVec.ofInt 32 (truncToInt q)
  | none => 0

def onSmokeData (d : DeviceData) (ts : Nat) (s : SmokeFaultState) : SmokeFaultState :=
  let tempC := (d.num.get "temp").getD s.tempC
  let alarm := numWord d "alarm"
  let fault := numWord d "fault"
  let smokeAlarm := statusOn d "TSS_smoke_alarm" || alarm &&& 0xFF#32 == 1#32
  let tempAlarm := decide (tempC ≥ tssTempAlarmHighC)
  let smokeSensorFault := statusOn d "TSS_SS_alarm" || fault.getLsbD 0
  let smokePollutionFault := statusOn d "TSS_SPollution_alarm" || fault.getLsbD 1
  let tempSensorFault := statusOn d "TSS_temp_fault" || fault.getLsbD 2
  { seenOnce := true, online := true, lastRxMs := ts
    smokePercent := (d.num.get "smoke_percent").getD s.smokePercent
    tempC := tempC
    smokeAlarm := smokeAlarm
    tempAlarm := tempAlarm
    smokeSensorFault := smokeSensorFault
    smokePollutionFault := smokePollutionFault
    tempSensorFault := tempSensorFault
    alarmAny := smokeAlarm || tempAlarm
    faultAny := smokeSensorFault || smokePollutionFault || tempSensorFault }

/-- One frame speaks of one gas only, so it can raise the flags but not lower them. -/
def onGasData (d : DeviceData) (ts : Nat) (g : GasFaultState) : GasFaultState :=
  let gasValue := ((d.num.get "gas_value").or
    (if d.gas.valid then some d.gas.value else none)).getD g.gasValue
  let status := ((d.num.get "status").map fun q => (BitVec.ofInt 32 (truncToInt q)).toNat).or
    (if d.gas.valid then some d.gas.status else none)
  let g := { g with seenOnce := true, online := true, lastRxMs := ts, gasValue := gasValue }
  match status with
  | none => g
  | some status =>
    let sensorFault := g.sensorFault || status.testBit 0
    let lowAlarm := g.lowAlarm || status.testBit 1
    let highAlarm := g.highAlarm || status.testBit 2
    { g with
      statusCode := g.statusCode ||| status
      sensorFault := sensorFault
      lowAlarm := lowAlarm
      highAlarm := highAlarm
      alarmAny := lowAlarm || highAlarm
      faultAny := sensorFault }

/-! ### Messages -/

def isRemoteName (name : String) : Bool :=
  name ∈ ["Remote", "REMOTE", "RemoteIO", "REMOTE_IO", "RemoteIo"]

/-- A PCU message without an instance or a heartbeat is dropped. -/
def updatePcuOnlineState (d : DeviceData) (ts : Nat) (ctx : LogicContext) : LogicContext :=
  match tryResolvePcuInstance d, tryGetPcuHeartbeat d with
  | some 0, some heartbeat =>
    { ctx with pcu0State := observePcu d heartbeat ts ctx.pcu0State }
  | some 1, some heartbeat =>
    { ctx with pcu1State := observePcu d heartbeat ts ctx.pcu1State }
  | _, _ => ctx

/-- The UPS and the air conditioner only write records of their own. -/
def onDeviceData (d : DeviceData) (ts : Nat) (ctx : LogicContext) : LogicContext :=
  if isRemoteName d.deviceName then
    { ctx with remoteSeenOnce := true, lastRemoteRxTs := d.timestamp }
  else if d.deviceName = "HMI_SYS_HEARTBEAT" then
    { ctx with hmi := { ctx.hmi with hmiSeenOnce := true, lastHmiCommTs := ts } }
  else if d.deviceName = "BMS" then
    { ctx with bmsCache := Bms.LogicAdapter.onDeviceData d ts ctx.bmsCache }
  else if d.deviceName = "SmokeSensor" then
    { ctx with smokeFaults := onSmokeData d ts ctx.smokeFaults }
  else if d.deviceName = "GasDetector" then
    { ctx with gasFaults := onGasData d ts ctx.gasFaults }
  else if d.deviceName = "PCU" ∨ d.deviceName = "PCU_0" ∨ d.deviceName = "PCU_1" then
    updatePcuOnlineState d ts ctx
  else ctx

/-! ### Samples -/

structure IoSampleEvent where
  tsMs : Nat
  diBits : BitVec 64
  ai : List ℚ := []

def testDi (diBits : BitVec 64) (channelId : Nat) : Bool :=
  decide (1 ≤ channelId) && decide (channelId ≤ 64) && diBits.getLsbD (channelId - 1)

def diChEstop : Nat := 1

def onIoSample (s : IoSampleEvent) (ctx : LogicContext) : LogicContext :=
  { ctx with
    lastIoTs := s.tsMs, diBits := s.diBits, ai := s.ai
    systemEstop := testDi s.diBits diChEstop }

/-! ### Snapshots -/

structure GasChannelState where
  valid : Bool := false
  value : ℚ := 0
  status : Nat := 0
  faultAny : Bool := false
  lowAlarm : Bool := false
  highAlarm : Bool := false
  alarmAny : Bool := false

/-- The channels stand in the order of their gas type. -/
structure SnapshotItem where
  tsMs : Nat := 0
  online : Bool := false
  gasChannels : List GasChannelState := []

structure SnapshotEvent where
  tsMs : Nat
  items : Dict String SnapshotItem := Dict.empty

def clearSmokeFaultPayload (s : SmokeFaultState) : SmokeFaultState :=
  { seenOnce := s.seenOnce, lastRxMs := s.lastRxMs, online := s.online }

def clearGasFaultPayload (g : GasFaultState) : GasFaultState :=
  { seenOnce := g.seenOnce, lastRxMs := g.lastRxMs, online := g.online }

def snapshotSmoke (item : Option SnapshotItem) (s : SmokeFaultState) : SmokeFaultState :=
  match item with
  | none => clearSmokeFaultPayload { s with online := false }
  | some it =>
    let s := { s with seenOnce := true, online := it.online, lastRxMs := it.tsMs }
    if ¬ it.online then clearSmokeFaultPayload s else s

def addGasChannel (g : GasFaultState) (ch : GasChannelState) : GasFaultState :=
  if ¬ ch.valid then g
  else { g with
    statusCode := g.statusCode ||| ch.status
    gasValue := ch.value
    sensorFault := g.sensorFault || ch.faultAny
    lowAlarm := g.lowAlarm || ch.lowAlarm
    highAlarm := g.highAlarm || ch.highAlarm
    alarmAny := g.alarmAny || ch.alarmAny
    faultAny := g.faultAny || ch.faultAny }

/-- The gas record is rebuilt from all channels each time. -/
def snapshotGas (item : Option SnapshotItem) (g : GasFaultState) : GasFaultState :=
  match item with
  | none => clearGasFaultPayload { g with online := false }
  | some it =>
    let g := clearGasFaultPayload
      { g with seenOnce := true, online := it.online, lastRxMs := it.tsMs }
    if it.online then it.gasChannels.foldl addGasChannel g else g

def updatePcuRuntimeHealth (ctx : LogicContext) (nowMs : Nat) : LogicContext :=
  { ctx with
    pcu0State := updateOnePcuRuntimeHealth ctx.pcu0State nowMs pcuRxTimeoutMs pcuHbStaleMs
    pcu1State := updateOnePcuRuntimeHealth ctx.pcu1State nowMs pcuRxTimeoutMs pcuHbStaleMs }

def updateRuntimeHealth (ctx : LogicContext) (nowMs : Nat) : LogicContext :=
  let ctx := updatePcuRuntimeHealth ctx nowMs
  { ctx with bmsCache := Bms.updateBmsRuntimeHealth ctx.bmsCache nowMs }

/-- The snapshot's own stamp becomes the time of the latest event. -/
def onSnapshot (s : SnapshotEvent) (ctx : LogicContext) : LogicContext :=
  let ctx := updateRuntimeHealth { ctx with lastEventTs := s.tsMs } s.tsMs
  { ctx with
    smokeFaults := snapshotSmoke (s.items.get "SmokeSensor") ctx.smokeFaults
    gasFaults := snapshotGas (s.items.get "GasDetector") ctx.gasFaults }

/-! ### What the commands can see of a message -/

theorem updatePcuOnlineState_bmsCache (d : DeviceData) (ts : Nat) (ctx : LogicContext) :
    (updatePcuOnlineState d ts ctx).bmsCache = ctx.bmsCache := by
  unfold updatePcuOnlineState
  split <;> rfl

/-- To the batteries every message is one for the adapter. -/
theorem onDeviceData_bmsCache (d : DeviceData) (ts : Nat) (ctx : LogicContext) :
    (onDeviceData d ts ctx).bmsCache = Bms.LogicAdapter.onDeviceData d ts ctx.bmsCache := by
  by_cases hbms : d.deviceName = "BMS"
  · have hremote : isRemoteName d.deviceName = false := by rw [hbms]; decide
    have hheart : d.deviceName ≠ "HMI_SYS_HEARTBEAT" := by rw [hbms]; decide
    rw [onDeviceData, if_neg (by rw [hremote]; decide), if_neg hheart, if_pos hbms]
  · have hskip : Bms.LogicAdapter.onDeviceData d ts ctx.bmsCache = ctx.bmsCache := by
      rw [Bms.LogicAdapter.onDeviceData, if_pos]
      simp [Bms.LogicAdapter.isBmsDevice, hbms]
    rw [hskip, onDeviceData, if_neg hbms]
    split
    · rfl
    split
    · rfl
    split
    · rfl
    split
    · rfl
    split
    · exact updatePcuOnlineState_bmsCache d ts ctx
    · rfl

end Logic
end EnergyStorage
