import EnergyStorage.Fault.LogicEvaluator
import EnergyStorage.Logic.Engine
import EnergyStorage.Logic.UpsInput

/-! # The summary of the faults

Samples, snapshots and the refresh passes recompute the summary from all flags; a write of the
panel and a message of the remote side leave out those of the devices. -/

namespace EnergyStorage
namespace Fault

open Lib
open Logic

/-! ### The air conditioner -/

structure AirRecord extends AirFaultState where
  seenOnce : Bool := false
  lastRxMs : Nat := 0
  indoorTempC : ℚ := 0
  humidityPercent : ℚ := 0

/-- A message with the keys of its status words. -/
structure ListedData where
  data : DeviceData
  statusKeys : List String
  complete : ∀ k, (data.status.get k).isSome = true → k ∈ statusKeys

def hasStatusPrefix (d : ListedData) (p : String) : Bool :=
  d.statusKeys.any fun k => (d.data.status.get k).isSome && p.toList.isPrefixOf k.toList

/-- A value, a status word or a measured number, whichever there is. -/
def readI32 (d : DeviceData) (key : String) (defv : Int) : Int :=
  (((d.value.get key).or ((d.status.get key).map fun v => (BitVec.ofNat 32 v).toInt)).or
    ((d.num.get key).map Bms.LogicAdapter.truncToInt)).getD defv

def airStage (d : DeviceData) : Int := (d.value.get "__air_stage").getD (-1)

def isAlarmSegment (d : ListedData) : Bool :=
  airStage d.data = 3 || hasStatusPrefix d "alarm."

def applyAirAlarms (d : DeviceData) (a : AirRecord) : AirRecord :=
  let alarm := fun key => decide (readI32 d key 0 ≠ 0)
  { a with
    highTempAlarm := alarm "alarm.high_temp_alarm"
    lowTempAlarm := alarm "alarm.low_temp_alarm"
    highHumidityAlarm := alarm "alarm.high_humidity_alarm"
    lowHumidityAlarm := alarm "alarm.low_humidity_alarm"
    coilFreezeProtect := alarm "alarm.coil_freeze_protect"
    exhaustHighTempAlarm := alarm "alarm.exhaust_high_temp_alarm"
    coilTempSensorFault := alarm "alarm.coil_temp_sensor_fault"
    outdoorTempSensorFault := alarm "alarm.outdoor_temp_sensor_fault"
    condenserTempSensorFault := alarm "alarm.condenser_temp_sensor_fault"
    indoorTempSensorFault := alarm "alarm.indoor_temp_sensor_fault"
    exhaustTempSensorFault := alarm "alarm.exhaust_temp_sensor_fault"
    humiditySensorFault := alarm "alarm.humidity_sensor_fault"
    internalFanFault := alarm "alarm.internal_fan_fault"
    externalFanFault := alarm "alarm.external_fan_fault"
    compressorFault := alarm "alarm.compressor_fault"
    heaterFault := alarm "alarm.heater_fault"
    emergencyFanFault := alarm "alarm.emergency_fan_fault"
    highPressureAlarm := alarm "alarm.high_pressure_alarm"
    lowPressureAlarm := alarm "alarm.low_pressure_alarm"
    waterAlarm := alarm "alarm.water_alarm"
    smokeAlarm := alarm "alarm.smoke_alarm"
    gatingAlarm := alarm "alarm.gating_alarm"
    highPressureLock := alarm "alarm.high_pressure_lock"
    lowPressureLock := alarm "alarm.low_pressure_lock"
    exhaustLock := alarm "alarm.exhaust_lock"
    acOverVoltageAlarm := alarm "alarm.ac_over_voltage_alarm"
    acUnderVoltageAlarm := alarm "alarm.ac_under_voltage_alarm"
    acPowerLoss := alarm "alarm.ac_power_loss"
    losePhaseAlarm := alarm "alarm.lose_phase_alarm"
    freqFault := alarm "alarm.freq_fault"
    antiPhaseAlarm := alarm "alarm.anti_phase_alarm"
    dcOverVoltageAlarm := alarm "alarm.dc_over_voltage_alarm"
    dcUnderVoltageAlarm := alarm "alarm.dc_under_voltage_alarm" }

/-- Whether an alarm, or a fault, of the unit is on, over the flags of the latest segment. -/
def summariseAir (a : AirRecord) : AirRecord :=
  { a with
    alarmAny :=
      a.highTempAlarm || a.lowTempAlarm || a.highHumidityAlarm || a.lowHumidityAlarm ||
      a.coilFreezeProtect || a.exhaustHighTempAlarm || a.highPressureAlarm ||
      a.lowPressureAlarm || a.waterAlarm || a.smokeAlarm || a.gatingAlarm ||
      a.highPressureLock || a.lowPressureLock || a.exhaustLock || a.acOverVoltageAlarm ||
      a.acUnderVoltageAlarm || a.acPowerLoss || a.losePhaseAlarm || a.freqFault ||
      a.antiPhaseAlarm || a.dcOverVoltageAlarm || a.dcUnderVoltageAlarm
    faultAny :=
      a.coilTempSensorFault || a.outdoorTempSensorFault || a.condenserTempSensorFault ||
      a.indoorTempSensorFault || a.exhaustTempSensorFault || a.humiditySensorFault ||
      a.internalFanFault || a.externalFanFault || a.compressorFault || a.heaterFault ||
      a.emergencyFanFault }

/-- A message holds one segment, and only that of the alarms touches the flags. -/
def onAirData (d : ListedData) (ts : Nat) (a : AirRecord) : AirRecord :=
  let m := d.data
  let a := { a with seenOnce := true, lastRxMs := ts, online := true }
  let a := if airStage m = 1 ∨ (m.num.get "run.overall").isSome = true then
    { a with runState := readI32 m "run.overall" a.runState } else a
  let a := if airStage m = 2 ∨ (m.num.get "temp.indoor_c").isSome = true ∨
      (m.num.get "humidity_percent").isSome = true then
    { a with
      indoorTempC := (m.num.get "temp.indoor_c").getD a.indoorTempC
      humidityPercent := (m.num.get "humidity_percent").getD a.humidityPercent } else a
  let a := if (m.num.get "remote.power").isSome = true then
    { a with powerState := readI32 m "remote.power" a.powerState } else a
  if isAlarmSegment d then summariseAir (applyAirAlarms m a) else a

/-! ### Snapshots -/

def clearUpsFaultPayload (u : UpsRecord) : UpsRecord :=
  { seenOnce := u.seenOnce, lastRxMs := u.lastRxMs, online := u.online }

def clearAirFaultPayload (a : AirRecord) : AirRecord :=
  { seenOnce := a.seenOnce, lastRxMs := a.lastRxMs, online := a.online }

def snapshotUps (item : Option SnapshotItem) (u : UpsRecord) : UpsRecord :=
  match item with
  | none => clearUpsFaultPayload { u with online := false }
  | some it =>
    let u := { u with seenOnce := true, online := it.online, lastRxMs := it.tsMs }
    if ¬ it.online then clearUpsFaultPayload u else u

def snapshotAir (item : Option SnapshotItem) (a : AirRecord) : AirRecord :=
  match item with
  | none => clearAirFaultPayload { a with online := false }
  | some it =>
    let a := { a with seenOnce := true, online := it.online, lastRxMs := it.tsMs }
    if ¬ it.online then clearAirFaultPayload a else a

def isOffline (item : Option SnapshotItem) : Bool := item.elim true fun it => !it.online

/-! ### The logic layer with its fault flags -/

structure FaultLayer where
  logic : LogicState
  ups : UpsRecord := {}
  air : AirRecord := {}
  faults : LogicFaultState := {}
  confirmed : ConfirmedFaults := {}

/-- The events of the control thread and the passes of the refresh thread. -/
inductive FaultEvent
  | deviceData (tsMs : Nat) (d : ListedData)
  | snapshot (tsMs : Nat) (s : SnapshotEvent)
  | hmiWrite (tsMs : Nat) (w : Logic.HmiWriteEvent)
  | hmiHeartbeat (tsMs : Nat)
  | ioSample (tsMs : Nat) (smp : IoSampleEvent)
  | tick (tsMs t : Nat)
  | refresh (nowMs : Nat)

namespace FaultLayer

def context (s : FaultLayer) : FaultContext where
  ctx := s.logic.ctx
  upsFaults := { online := s.ups.online, alarmAny := s.ups.alarmAny, faultAny := s.ups.faultAny }
  airFaults := { online := s.air.online, alarmAny := s.air.alarmAny, faultAny := s.air.faultAny }
  logicFaults := s.faults

/-- The system's own flags and those of the links. -/
def systemAnyFault (s : FaultLayer) : Bool :=
  s.logic.ctx.systemEstop || s.faults.sdcardFault || s.faults.hmiCommFault ||
    s.faults.remoteCommFault || s.faults.pcuAnyOffline || s.faults.bmsAnyOffline ||
    s.faults.upsOffline || s.faults.smokeOffline || s.faults.gasOffline || s.faults.airOffline

/-- The flags of the devices. -/
def deviceAnyFault (s : FaultLayer) : Bool :=
  s.ups.faultAny || s.logic.ctx.smokeFaults.faultAny || s.logic.ctx.gasFaults.faultAny ||
    s.air.faultAny

def envAnyAlarm (s : FaultLayer) : Bool :=
  s.ups.alarmAny || s.logic.ctx.smokeFaults.alarmAny || s.logic.ctx.gasFaults.alarmAny ||
    s.air.alarmAny

def engine (s : FaultLayer) (e : Event) : FaultLayer :=
  { s with logic := (LogicEngine.onEvent s.logic e).1 }

/-- The summary as a write of the panel and a message of the remote side recompute it. -/
def syncAnyFault (s : FaultLayer) : FaultLayer :=
  { s with faults := { s.faults with anyFault := s.systemAnyFault } }

/-- The summary as samples and snapshots recompute it. -/
def rebuildLogicFaultSummary (s : FaultLayer) : FaultLayer :=
  { s with faults := { s.faults with
      envAnyAlarm := s.envAnyAlarm, anyFault := s.systemAnyFault || s.deviceAnyFault } }

def onDeviceData (tsMs : Nat) (d : ListedData) (s : FaultLayer) : FaultLayer :=
  let s := s.engine ⟨tsMs, .deviceData d.data⟩
  if isRemoteName d.data.deviceName then
    syncAnyFault { s with faults := { s.faults with remoteCommFault := false } }
  else if d.data.deviceName = "UPS" then { s with ups := onUpsData d.data tsMs s.ups }
  else if d.data.deviceName = "AirConditioner" then { s with air := onAirData d tsMs s.air }
  else s

def onHmiWrite (tsMs : Nat) (w : Logic.HmiWriteEvent) (s : FaultLayer) : FaultLayer :=
  let s := { s with faults := { s.faults with hmiCommFault := false } }
  (syncAnyFault s).engine ⟨tsMs, .hmiWrite w⟩

def onSnapshot (tsMs : Nat) (snap : SnapshotEvent) (s : FaultLayer) : FaultLayer :=
  let s := s.engine ⟨tsMs, .snapshot snap⟩
  rebuildLogicFaultSummary
    { s with
      ups := snapshotUps (snap.items.get "UPS") s.ups
      air := snapshotAir (snap.items.get "AirConditioner") s.air
      faults := { s.faults with
        upsOffline := isOffline (snap.items.get "UPS")
        smokeOffline := isOffline (snap.items.get "SmokeSensor")
        airOffline := isOffline (snap.items.get "AirConditioner")
        gasOffline := isOffline (snap.items.get "GasDetector") } }

def onIoSample (tsMs : Nat) (smp : IoSampleEvent) (s : FaultLayer) : FaultLayer :=
  rebuildLogicFaultSummary (s.engine ⟨tsMs, .ioSample smp⟩)

def refresh (nowMs : Nat) (s : FaultLayer) : FaultLayer :=
  let r := s.confirmed.evaluateAll s.context nowMs
  { s with faults := r.1, confirmed := r.2 }

def step (s : FaultLayer) : FaultEvent → FaultLayer
  | .deviceData tsMs d => s.onDeviceData tsMs d
  | .snapshot tsMs snap => s.onSnapshot tsMs snap
  | .hmiWrite tsMs w => s.onHmiWrite tsMs w
  | .hmiHeartbeat tsMs => s.engine ⟨tsMs, .hmiHeartbeat⟩
  | .ioSample tsMs smp => s.onIoSample tsMs smp
  | .tick tsMs t => s.engine ⟨tsMs, .tick t⟩
  | .refresh nowMs => s.refresh nowMs

/-- The summary is the or of all flags. -/
def Consistent (s : FaultLayer) : Prop := s.faults.anyFault = (s.systemAnyFault || s.deviceAnyFault)

end FaultLayer

def faultLayer (sys : Option (List CanLinkCfg)) (map : Option HmiMapModel) :
    Machine FaultLayer FaultEvent Empty where
  start := { logic := (logicLoop sys map).start }
  step := fun s e => (s.step e, [])

/-! ### When the summary stays what it says -/

namespace FaultLayer

/-- Whether a device has a fault once the message is in the record of its device. -/
def faultAfter (s : FaultLayer) (tsMs : Nat) (d : ListedData) : Bool :=
  (if d.data.deviceName = "UPS" then (onUpsData d.data tsMs s.ups).faultAny else s.ups.faultAny) ||
    (if d.data.deviceName = "SmokeSensor" then
        (onSmokeData d.data tsMs s.logic.ctx.smokeFaults).faultAny
      else s.logic.ctx.smokeFaults.faultAny) ||
    (if d.data.deviceName = "GasDetector" then
        (onGasData d.data tsMs s.logic.ctx.gasFaults).faultAny
      else s.logic.ctx.gasFaults.faultAny) ||
    (if d.data.deviceName = "AirConditioner" then (onAirData d tsMs s.air).faultAny
      else s.air.faultAny)

/-- A write of the panel or a message of the remote side finds no device with a fault, or another
flag set than the one it clears; any other message of a device changes nothing about the faults
of the devices, or finds a flag of the system set. -/
def KeepsSummary (s : FaultLayer) : FaultEvent → Prop
  | .hmiWrite _ _ =>
    s.deviceAnyFault = true →
      systemAnyFault { s with faults := { s.faults with hmiCommFault := false } } = true
  | .deviceData tsMs d =>
    if isRemoteName d.data.deviceName then
      s.deviceAnyFault = true →
        systemAnyFault { s with faults := { s.faults with remoteCommFault := false } } = true
    else s.faultAfter tsMs d = s.deviceAnyFault ∨ s.systemAnyFault = true
  | .snapshot _ _ | .hmiHeartbeat _ | .ioSample _ _ | .tick _ _ | .refresh _ => True

end FaultLayer

/-- What a message does to the flags in the context. -/
theorem flags_onDeviceData (d : DeviceData) (ts : Nat) (ctx : LogicContext)
    (hremote : isRemoteName d.deviceName = false) :
    (Logic.onDeviceData d ts ctx).systemEstop = ctx.systemEstop ∧
      (Logic.onDeviceData d ts ctx).smokeFaults =
        (if d.deviceName = "SmokeSensor" then onSmokeData d ts ctx.smokeFaults
          else ctx.smokeFaults) ∧
      (Logic.onDeviceData d ts ctx).gasFaults =
        (if d.deviceName = "GasDetector" then onGasData d ts ctx.gasFaults
          else ctx.gasFaults) := by
  have hnot : ¬ isRemoteName d.deviceName = true := by
    rw [hremote]
    exact Bool.false_ne_true
  unfold Logic.onDeviceData
  rw [if_neg hnot]
  by_cases hheart : d.deviceName = "HMI_SYS_HEARTBEAT"
  · rw [if_pos hheart, hheart]
    exact ⟨rfl, rfl, rfl⟩
  rw [if_neg hheart]
  by_cases hbms : d.deviceName = "BMS"
  · rw [if_pos hbms, hbms]
    exact ⟨rfl, rfl, rfl⟩
  rw [if_neg hbms]
  by_cases hsmoke : d.deviceName = "SmokeSensor"
  · have hgas : ¬ d.deviceName = "GasDetector" := by
      rw [hsmoke]
      decide
    rw [if_pos hsmoke, if_pos hsmoke, if_neg hgas]
    exact ⟨rfl, rfl, rfl⟩
  rw [if_neg hsmoke, if_neg hsmoke]
  by_cases hgas : d.deviceName = "GasDetector"
  · rw [if_pos hgas, if_pos hgas]
    exact ⟨rfl, rfl, rfl⟩
  rw [if_neg hgas, if_neg hgas]
  split
  · unfold updatePcuOnlineState
    split <;> exact ⟨rfl, rfl, rfl⟩
  · exact ⟨rfl, rfl, rfl⟩

theorem flags_onDeviceData_remote (d : DeviceData) (ts : Nat) (ctx : LogicContext)
    (hremote : isRemoteName d.deviceName = true) :
    (Logic.onDeviceData d ts ctx).systemEstop = ctx.systemEstop ∧
      (Logic.onDeviceData d ts ctx).smokeFaults = ctx.smokeFaults ∧
      (Logic.onDeviceData d ts ctx).gasFaults = ctx.gasFaults := by
  unfold Logic.onDeviceData
  rw [if_pos hremote]
  exact ⟨rfl, rfl, rfl⟩

namespace FaultLayer

theorem consistent_rebuild (s : FaultLayer) : Consistent s.rebuildLogicFaultSummary := rfl

theorem consistent_refresh (s : FaultLayer) (nowMs : Nat) : Consistent (s.refresh nowMs) := by
  unfold Consistent systemAnyFault deviceAnyFault
  show (s.context.refreshLogicFaults nowMs).anyFault = _
  unfold FaultContext.refreshLogicFaults
  simp only [Bool.or_assoc]
  rfl

/-- The summary that leaves out the devices is the or of all flags iff it is set anyway, or no
device has a fault. -/
theorem consistent_sync (s : FaultLayer) :
    Consistent s.syncAnyFault ↔ (s.deviceAnyFault = true → s.systemAnyFault = true) := by
  show s.systemAnyFault = (s.systemAnyFault || s.deviceAnyFault) ↔ _
  cases s.systemAnyFault <;> cases s.deviceAnyFault <;> simp

theorem consistent_engine {s : FaultLayer} {e : Event}
    (hestop : (s.engine e).logic.ctx.systemEstop = s.logic.ctx.systemEstop)
    (hsmoke : (s.engine e).logic.ctx.smokeFaults = s.logic.ctx.smokeFaults)
    (hgas : (s.engine e).logic.ctx.gasFaults = s.logic.ctx.gasFaults) :
    (s.engine e).systemAnyFault = s.systemAnyFault ∧
      (s.engine e).deviceAnyFault = s.deviceAnyFault := by
  constructor
  · unfold systemAnyFault
    rw [hestop]
    rfl
  · unfold deviceAnyFault
    rw [hsmoke, hgas]
    rfl

theorem consistent_of_engine {s : FaultLayer} {e : Event}
    (hestop : (s.engine e).logic.ctx.systemEstop = s.logic.ctx.systemEstop)
    (hsmoke : (s.engine e).logic.ctx.smokeFaults = s.logic.ctx.smokeFaults)
    (hgas : (s.engine e).logic.ctx.gasFaults = s.logic.ctx.gasFaults) :
    Consistent (s.engine e) ↔ Consistent s := by
  obtain ⟨hsystem, hdevice⟩ := consistent_engine hestop hsmoke hgas
  unfold Consistent
  rw [hsystem, hdevice]
  rfl

theorem consistent_deviceData {s : FaultLayer} (hs : Consistent s) (tsMs : Nat) (d : ListedData) :
    Consistent (s.onDeviceData tsMs d) ↔ s.KeepsSummary (.deviceData tsMs d) := by
  unfold onDeviceData KeepsSummary
  dsimp only
  cases hremote : isRemoteName d.data.deviceName with
  | true =>
    rw [if_pos rfl, if_pos rfl, consistent_sync]
    obtain ⟨hestop, hsmoke, hgas⟩ := flags_onDeviceData_remote d.data tsMs
      { s.logic.ctx with lastEventTs := tsMs } hremote
    obtain ⟨hsystem, hdevice⟩ := consistent_engine
      (s := { s with faults := { s.faults with remoteCommFault := false } })
      (e := ⟨tsMs, .deviceData d.data⟩) hestop hsmoke hgas
    exact imp_congr (iff_of_eq (congrArg (· = true) hdevice))
      (iff_of_eq (congrArg (· = true) hsystem))
  | false =>
    rw [if_neg Bool.false_ne_true, if_neg Bool.false_ne_true]
    obtain ⟨hestop, hsmoke, hgas⟩ := flags_onDeviceData d.data tsMs
      { s.logic.ctx with lastEventTs := tsMs } hremote
    suffices hafter : ∀ s' : FaultLayer, s'.faults = s.faults →
        s'.systemAnyFault = s.systemAnyFault → s'.deviceAnyFault = s.faultAfter tsMs d → (Consistent s' ↔
          s.faultAfter tsMs d = s.deviceAnyFault ∨ s.systemAnyFault = true) by
      have hsystem : (s.engine ⟨tsMs, .deviceData d.data⟩).systemAnyFault = s.systemAnyFault := by
        unfold systemAnyFault
        exact congrArg (fun b : Bool => b || _ || _ || _ || _ || _ || _ || _ || _ || _) hestop
      have hsmokeFault : (s.engine ⟨tsMs, .deviceData d.data⟩).logic.ctx.smokeFaults.faultAny =
          if d.data.deviceName = "SmokeSensor" then
            (onSmokeData d.data tsMs s.logic.ctx.smokeFaults).faultAny
          else s.logic.ctx.smokeFaults.faultAny :=
        (congrArg SmokeFaultState.faultAny hsmoke).trans (apply_ite SmokeFaultState.faultAny _ _ _)
      have hgasFault : (s.engine ⟨tsMs, .deviceData d.data⟩).logic.ctx.gasFaults.faultAny =
          if d.data.deviceName = "GasDetector" then
            (onGasData d.data tsMs s.logic.ctx.gasFaults).faultAny
          else s.logic.ctx.gasFaults.faultAny :=
        (congrArg GasFaultState.faultAny hgas).trans (apply_ite GasFaultState.faultAny _ _ _)
      by_cases hups : d.data.deviceName = "UPS"
      · have hair : ¬ d.data.deviceName = "AirConditioner" := by
          rw [hups]
          decide
        rw [if_pos hups]
        refine hafter _ rfl hsystem ?_
        unfold faultAfter
        rw [if_pos hups, if_neg hair, ← hsmokeFault, ← hgasFault]
        rfl
      rw [if_neg hups]
      by_cases hair : d.data.deviceName = "AirConditioner"
      · rw [if_pos hair]
        refine hafter _ rfl hsystem ?_
        unfold faultAfter
        rw [if_neg hups, if_pos hair, ← hsmokeFault, ← hgasFault]
        rfl
      · rw [if_neg hair]
        refine hafter _ rfl hsystem ?_
        unfold faultAfter
        rw [if_neg hups, if_neg hair, ← hsmokeFault, ← hgasFault]
        rfl
    intro s' hfaults hsystem hdevice
    unfold Consistent at hs ⊢
    rw [hfaults, hsystem, hdevice, hs]
    cases s.systemAnyFault <;> cases s.deviceAnyFault <;> cases s.faultAfter tsMs d <;> simp

/-- From a state in which the summary is right, an event leaves it right iff it meets the
condition. -/
theorem consistent_step {s : FaultLayer} (hs : Consistent s) (e : FaultEvent) :
    Consistent (s.step e) ↔ s.KeepsSummary e := by
  cases e with
  | deviceData tsMs d => exact consistent_deviceData hs tsMs d
  | snapshot tsMs snap => exact iff_of_true (consistent_rebuild _) trivial
  | ioSample tsMs smp => exact iff_of_true (consistent_rebuild _) trivial
  | refresh nowMs => exact iff_of_true (consistent_refresh s nowMs) trivial
  | hmiHeartbeat tsMs => exact iff_of_true ((consistent_of_engine rfl rfl rfl).mpr hs) trivial
  | tick tsMs t => exact iff_of_true ((consistent_of_engine rfl rfl rfl).mpr hs) trivial
  | hmiWrite tsMs w =>
    refine (consistent_of_engine rfl rfl rfl).trans ?_
    exact consistent_sync _

end FaultLayer

/-- Along every run the summary is the or of all flags after each event iff each event meets the
condition in the state that it finds. -/
theorem anyFault_iff (sys : Option (List CanLinkCfg)) (map : Option HmiMapModel)
    (es : List FaultEvent) :
    (∀ pre, pre <+: es → ((faultLayer sys map).run pre).Consistent) ↔
      (faultLayer sys map).EveryStep FaultLayer.KeepsSummary es := by
  have hiff : ∀ s e, FaultLayer.Consistent s →
      (FaultLayer.Consistent (s.step e) ↔ s.KeepsSummary e) :=
    fun s e hs => FaultLayer.consistent_step hs e
  exact (faultLayer sys map).along_iff (I := FaultLayer.Consistent) (C := fun _ => True) rfl
    (fun _ hs => hs) (fun s e hs _ hq => (hiff s e hs).mpr hq)
    (fun s e hs _ hp => (hiff s e hs).mp hp) fun _ _ => trivial

/-- A message that reports a fault of the UPS, with the status bits of `Q1`. -/
def upsFaulty : ListedData where
  data :=
    (DeviceData.setValue { deviceName := "UPS" } "__ups_cmd" 1).setStatus "q1.status.bits" 0x10
  statusKeys := ["q1.status.bits"]
  complete := by
    intro k hk
    by_cases heq : k = "q1.status.bits"
    · rw [heq]
      exact List.mem_singleton_self _
    · have hnone : ((DeviceData.setValue { deviceName := "UPS" } "__ups_cmd" 1).setStatus
          "q1.status.bits" 0x10).status.get k = none := Dict.get_insert_of_ne _ heq _
      rw [hnone] at hk
      cases hk

/-- The fault of the UPS is in the summary after a refresh, and a write of the panel takes it
out again. -/
theorem hmi_write_clears_summary :
    let before := (faultLayer none none).run [.deviceData 1 upsFaulty, .refresh 2]
    let after := (faultLayer none none).run [.deviceData 1 upsFaulty, .refresh 2,
      .hmiWrite 3 { startAddr := 0, bits := [], regs := [], tsMs := 3 }]
    before.faults.anyFault = true ∧ after.faults.anyFault = false ∧ after.ups.faultAny = true :=
  ⟨rfl, rfl, rfl⟩

end Fault
end EnergyStorage
