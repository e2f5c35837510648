import EnergyStorage.Fault.LogicEvaluator
import EnergyStorage.Fault.Signals

/-! # What each signal says of its device

A device has a table of signals: those about its link, answered whatever the link is, and
those of its own faults, which count only while it is online.  A signal that no row lists
is never active. -/

namespace EnergyStorage
namespace Fault

open Pcu (PcuOnlineState)
open Logic (SmokeFaultState GasFaultState)

/-- Each row answers the names it lists; the first row that lists a name counts. -/
abbrev Readings (σ : Type) := List (List String × (σ → Bool))

structure SignalTable (σ : Type) where
  link : Readings σ
  online : σ → Bool := fun _ => true
  inner : Readings σ := []

namespace SignalTable

variable {σ : Type} (T : SignalTable σ)

def reading (rows : Readings σ) (s : String) : Option (σ → Bool) :=
  (rows.find? fun row => decide (s ∈ row.1)).map (·.2)

def eval (x : σ) (s : String) : Bool :=
  match reading T.link s with
  | some f => f x
  | none =>
    if !T.online x then false
    else
      match reading T.inner s with
      | some f => f x
      | none => false

/-- The names the table answers. -/
def names : List String := (T.link ++ T.inner).flatMap (·.1)

end SignalTable

/-! ### The devices -/

structure UpsFaultState where
  online : Bool := false
  alarmAny : Bool := false
  faultAny : Bool := false
  faultBits : BitVec 32 := 0
  (mainsAbnormal batteryLowState bypassMode upsFaultState backupMode selfTestActive
   internalWarning epoActive moduleUnlock neutralLost mainsPhaseError lnReverse bypassAbnormal
   bypassPhaseError batteryNotConnected batteryLowWarning batteryOvercharge batteryReverse
   overloadWarning overloadAlarm fanFault bypassCoverOpen chargerFault positionError
   bootConditionNotMet redundancyLost moduleLoose batteryMaintDue inspectionMaintDue
   warrantyMaintDue tempLowWarning tempHighWarning batteryOvertemp fanMaintDue busCapMaintDue
   systemOverload reservedWarning busSoftstartTimeout busOvervoltageFault busUndervoltageFault
   busImbalanceFault busShortCircuit invSoftstartTimeout invOvervoltageFault invUndervoltageFault
   outputShortCircuit rInvShortCircuit sInvShortCircuit tInvShortCircuit rsShortCircuit
   stShortCircuit trShortCircuit reversePowerFault rReversePowerFault sReversePowerFault
   tReversePowerFault totalReversePowerFault currentImbalanceFault overloadFault overtempFault
   invRelayFailClose invRelayStuck mainsScrFault batteryScrFault bypassScrFault rectifierFault
   inputOvercurrentFault wiringError commCableDisconnected hostCableFault canCommFault
   syncSignalFault powerSupplyFault allFanFault dspError chargerSoftstartTimeout allModuleFault
   mainsNtcOpenFault mainsFuseOpenFault outputImbalanceFault inputMismatchFault eepromDataLost
   mainsSupportFailed powerFailed systemOverloadFault ads7869Error bypassModeNoOp
   opBreakerOffParallel rBusFuseFault sBusFuseFault tBusFuseFault ntcFault parallelCableFault
   batteryFault frequentOvercurrentFault batteryOverchargeFault epoCriticalFault : Bool := false)

structure AirFaultState where
  online : Bool := false
  alarmAny : Bool := false
  faultAny : Bool := false
  runState : Int := 0
  powerState : Int := 0
  (highTempAlarm lowTempAlarm highHumidityAlarm lowHumidityAlarm coilFreezeProtect
   exhaustHighTempAlarm coilTempSensorFault outdoorTempSensorFault condenserTempSensorFault
   indoorTempSensorFault exhaustTempSensorFault humiditySensorFault internalFanFault
   externalFanFault compressorFault heaterFault emergencyFanFault highPressureAlarm
   lowPressureAlarm waterAlarm smokeAlarm gatingAlarm highPressureLock lowPressureLock
   exhaustLock acOverVoltageAlarm acUnderVoltageAlarm acPowerLoss losePhaseAlarm freqFault
   antiPhaseAlarm dcOverVoltageAlarm dcUnderVoltageAlarm : Bool := false)

/-- The flags of the logic layer, with the e-stop. -/
structure LogicFaults extends LogicFaultState where
  systemEstop : Bool := false

def pcuSignals : SignalTable PcuOnlineState where
  link :=
    [ (["offline", "runtime_offline", "comm_fault", "communication_fault", "pcu_comm_fault",
        "pcu1_comm_fault", "pcu2_comm_fault"], fun x => !x.online),
      (["online", "runtime_online"], fun x => x.online),
      (["rx_timeout"], fun x => x.seenOnce && !x.rxAlive),
      (["heartbeat_stale"], fun x => x.seenOnce && x.rxAlive && !x.hbAlive),
      (["heartbeat_missing"], fun x => !x.hasLastHeartbeat),
      -- the e-stop bit of a PCU that has gone silent does not count
      (["estop", "emergency_stop", "fault_estop", "pcu_emergency_stop", "pcu1_emergency_stop",
        "pcu2_emergency_stop"], fun x => x.online && x.estop) ]

/-- The flags that the UPS signals read one by one, with their names. -/
def upsFlags : List (String × (UpsFaultState → Bool)) :=
  [ ("mains_abnormal", (·.mainsAbnormal)), ("battery_low_state", (·.batteryLowState)),
    ("bypass_mode", (·.bypassMode)), ("ups_fault_state", (·.upsFaultState)),
    ("backup_mode", (·.backupMode)), ("self_test_active", (·.selfTestActive)),
    ("internal_warning", (·.internalWarning)), ("epo_active", (·.epoActive)),
    ("module_unlock", (·.moduleUnlock)), ("neutral_lost", (·.neutralLost)),
    ("mains_phase_error", (·.mainsPhaseError)), ("ln_reverse", (·.lnReverse)),
    ("bypass_abnormal", (·.bypassAbnormal)), ("bypass_phase_error", (·.bypassPhaseError)),
    ("battery_not_connected", (·.batteryNotConnected)),
    ("battery_low_warning", (·.batteryLowWarning)),
    ("battery_overcharge", (·.batteryOvercharge)), ("battery_reverse", (·.batteryReverse)),
    ("overload_warning", (·.overloadWarning)), ("overload_alarm", (·.overloadAlarm)),
    ("fan_fault", (·.fanFault)), ("bypass_cover_open", (·.bypassCoverOpen)),
    ("charger_fault", (·.chargerFault)), ("position_error", (·.positionError)),
    ("boot_condition_not_met", (·.bootConditionNotMet)),
    ("redundancy_lost", (·.redundancyLost)), ("module_loose", (·.moduleLoose)),
    ("battery_maint_due", (·.batteryMaintDue)),
    ("inspection_maint_due", (·.inspectionMaintDue)),
    ("warranty_maint_due", (·.warrantyMaintDue)), ("temp_low_warning", (·.tempLowWarning)),
    ("temp_high_warning", (·.tempHighWarning)), ("battery_overtemp", (·.batteryOvertemp)),
    ("fan_maint_due", (·.fanMaintDue)), ("bus_cap_maint_due", (·.busCapMaintDue)),
    ("system_overload", (·.systemOverload)), ("reserved_warning", (·.reservedWarning)),
    ("bus_softstart_timeout", (·.busSoftstartTimeout)),
    ("bus_overvoltage_fault", (·.busOvervoltageFault)),
    ("bus_undervoltage_fault", (·.busUndervoltageFault)),
    ("bus_imbalance_fault", (·.busImbalanceFault)), ("bus_short_circuit", (·.busShortCircuit)),
    ("inv_softstart_timeout", (·.invSoftstartTimeout)),
    ("inv_overvoltage_fault", (·.invOvervoltageFault)),
    ("inv_undervoltage_fault", (·.invUndervoltageFault)),
    ("output_short_circuit", (·.outputShortCircuit)),
    ("r_inv_short_circuit", (·.rInvShortCircuit)),
    ("s_inv_short_circuit", (·.sInvShortCircuit)),
    ("t_inv_short_circuit", (·.tInvShortCircuit)), ("rs_short_circuit", (·.rsShortCircuit)),
    ("st_short_circuit", (·.stShortCircuit)), ("tr_short_circuit", (·.trShortCircuit)),
    ("reverse_power_fault", (·.reversePowerFault)),
    ("r_reverse_power_fault", (·.rReversePowerFault)),
    ("s_reverse_power_fault", (·.sReversePowerFault)),
    ("t_reverse_power_fault", (·.tReversePowerFault)),
    ("total_reverse_power_fault", (·.totalReversePowerFault)),
    ("current_imbalance_fault", (·.currentImbalanceFault)),
    ("overload_fault", (·.overloadFault)), ("overtemp_fault", (·.overtempFault)),
    ("inv_relay_fail_close", (·.invRelayFailClose)), ("inv_relay_stuck", (·.invRelayStuck)),
    ("mains_scr_fault", (·.mainsScrFault)), ("battery_scr_fault", (·.batteryScrFault)),
    ("bypass_scr_fault", (·.bypassScrFault)), ("rectifier_fault", (·.rectifierFault)),
    ("input_overcurrent_fault", (·.inputOvercurrentFault)), ("wiring_error", (·.wiringError)),
    ("comm_cable_disconnected", (·.commCableDisconnected)),
    ("host_cable_fault", (·.hostCableFault)), ("can_comm_fault", (·.canCommFault)),
    ("sync_signal_fault", (·.syncSignalFault)), ("power_supply_fault", (·.powerSupplyFault)),
    ("all_fan_fault", (·.allFanFault)), ("dsp_error", (·.dspError)),
    ("charger_softstart_timeout", (·.chargerSoftstartTimeout)),
    ("all_module_fault", (·.allModuleFault)), ("mains_ntc_open_fault", (·.mainsNtcOpenFault)),
    ("mains_fuse_open_fault", (·.mainsFuseOpenFault)),
    ("output_imbalance_fault", (·.outputImbalanceFault)),
    ("input_mismatch_fault", (·.inputMismatchFault)), ("eeprom_data_lost", (·.eepromDataLost)),
    ("mains_support_failed", (·.mainsSupportFailed)), ("power_failed", (·.powerFailed)),
    ("system_overload_fault", (·.systemOverloadFault)), ("ads7869_error", (·.ads7869Error)),
    ("bypass_mode_no_op", (·.bypassModeNoOp)),
    ("op_breaker_off_parallel", (·.opBreakerOffParallel)),
    ("r_bus_fuse_fault", (·.rBusFuseFault)), ("s_bus_fuse_fault", (·.sBusFuseFault)),
    ("t_bus_fuse_fault", (·.tBusFuseFault)), ("ntc_fault", (·.ntcFault)),
    ("parallel_cable_fault", (·.parallelCableFault)), ("battery_fault", (·.batteryFault)),
    ("frequent_overcurrent_fault", (·.frequentOvercurrentFault)),
    ("battery_overcharge_fault", (·.batteryOverchargeFault)),
    ("epo_critical_fault", (·.epoCriticalFault)) ]

def upsSignals : SignalTable UpsFaultState where
  link :=
    [ (["offline", "runtime_offline", "ups_offline", "ups_comm_fault"], fun x => !x.online),
      (["online", "runtime_online", "ups_online"], fun x => x.online) ]
  online := fun x => x.online
  inner :=
    [ (["alarm_any"], fun x => x.alarmAny),
      (["fault_any"], fun x => x.faultAny),
      (["battery_low"], fun x => x.batteryLowState || x.batteryLowWarning),
      (["bypass_active", "bypass"], fun x => x.bypassMode || x.bypassAbnormal),
      (["fault_code_nonzero"], fun x => x.faultBits != 0) ] ++
    upsFlags.map fun f => ([f.1], f.2)

def smokeSignals : SignalTable SmokeFaultState where
  link :=
    [ (["tss_offline", "smoke_offline", "tss_comm_fault", "smoke_comm_fault"],
        fun x => !x.online) ]
  online := fun x => x.online
  inner :=
    [ (["tss_smoke_alarm"], fun x => x.smokeAlarm),
      (["tss_temp_alarm"], fun x => x.tempAlarm),
      (["tss_ss_alarm"], fun x => x.smokeSensorFault),
      (["tss_spollution_alarm"], fun x => x.smokePollutionFault),
      (["tss_temp_fault"], fun x => x.tempSensorFault),
      (["alarm_any"], fun x => x.alarmAny),
      (["fault_any"], fun x => x.faultAny) ]

def gasSignals : SignalTable GasFaultState where
  link :=
    [ (["gas_offline", "cgs_comm_fault", "gas_comm_fault"], fun x => !x.online),
      (["gas_online"], fun x => x.online) ]
  online := fun x => x.online
  inner :=
    [ (["gas_alarm", "gas_alarm_any", "alarm_any"], fun x => x.alarmAny),
      (["gas_sensor_fault", "gas_fault_any", "fault_any"], fun x => x.sensorFault || x.faultAny),
      (["gas_status_nonzero"], fun x => x.statusCode != 0),
      (["gas_low_alarm"], fun x => x.lowAlarm),
      (["gas_high_alarm"], fun x => x.highAlarm) ]

/-- The flags that the air conditioner signals read one by one, with their names. -/
def airFlags : List (String × (AirFaultState → Bool)) :=
  [ ("high_temp_alarm", (·.highTempAlarm)), ("low_temp_alarm", (·.lowTempAlarm)),
    ("high_humidity_alarm", (·.highHumidityAlarm)),
    ("low_humidity_alarm", (·.lowHumidityAlarm)),
    ("coil_freeze_protect", (·.coilFreezeProtect)),
    ("exhaust_high_temp_alarm", (·.exhaustHighTempAlarm)),
    ("coil_temp_sensor_fault", (·.coilTempSensorFault)),
    ("outdoor_temp_sensor_fault", (·.outdoorTempSensorFault)),
    ("condenser_temp_sensor_fault", (·.condenserTempSensorFault)),
    ("indoor_temp_sensor_fault", (·.indoorTempSensorFault)),
    ("exhaust_temp_sensor_fault", (·.exhaustTempSensorFault)),
    ("humidity_sensor_fault", (·.humiditySensorFault)),
    ("internal_fan_fault", (·.internalFanFault)), ("external_fan_fault", (·.externalFanFault)),
    ("compressor_fault", (·.compressorFault)), ("heater_fault", (·.heaterFault)),
    ("emergency_fan_fault", (·.emergencyFanFault)),
    ("high_pressure_alarm", (·.highPressureAlarm)),
    ("low_pressure_alarm", (·.lowPressureAlarm)), ("water_alarm", (·.waterAlarm)),
    ("smoke_alarm", (·.smokeAlarm)), ("gating_alarm", (·.gatingAlarm)),
    ("high_pressure_lock", (·.highPressureLock)), ("low_pressure_lock", (·.lowPressureLock)),
    ("exhaust_lock", (·.exhaustLock)), ("ac_over_voltage_alarm", (·.acOverVoltageAlarm)),
    ("ac_under_voltage_alarm", (·.acUnderVoltageAlarm)), ("ac_power_loss", (·.acPowerLoss)),
    ("lose_phase_alarm", (·.losePhaseAlarm)), ("freq_fault", (·.freqFault)),
    ("anti_phase_alarm", (·.antiPhaseAlarm)), ("dc_over_voltage_alarm", (·.dcOverVoltageAlarm)),
    ("dc_under_voltage_alarm", (·.dcUnderVoltageAlarm)) ]

def airSignals : SignalTable AirFaultState where
  link :=
    [ (["offline", "runtime_offline", "air_offline", "aircon_comm_fault", "air_comm_fault"],
        fun x => !x.online),
      (["online", "runtime_online", "air_online"], fun x => x.online) ]
  online := fun x => x.online
  inner :=
    [ (["alarm_any"], fun x => x.alarmAny),
      (["fault_any"], fun x => x.faultAny),
      (["run_state_zero"], fun x => x.runState == 0),
      (["power_off"], fun x => x.powerState == 0) ] ++
    airFlags.map fun f => ([f.1], f.2)

def logicSignals : SignalTable LogicFaults where
  link :=
    [ (["any_fault"], fun x => x.anyFault),
      (["pcu_any_offline"], fun x => x.pcuAnyOffline),
      (["bms_any_offline"], fun x => x.bmsAnyOffline),
      (["ups_offline"], fun x => x.upsOffline),
      (["smoke_offline"], fun x => x.smokeOffline),
      (["gas_offline"], fun x => x.gasOffline),
      (["air_offline"], fun x => x.airOffline),
      (["env_any_alarm"], fun x => x.envAnyAlarm),
      (["system_estop"], fun x => x.systemEstop),
      (["hmi_comm_fault"], fun x => x.hmiCommFault),
      (["remote_comm_fault"], fun x => x.remoteCommFault),
      (["sdcard_fault"], fun x => x.sdcardFault),
      (["pcu0_offline", "pcu1_comm_fault", "pcu1_offline"], fun x => x.pcuAnyOffline),
      (["pcu1_offline", "pcu2_comm_fault", "pcu2_offline"], fun x => x.pcuAnyOffline),
      (["ups_comm_fault"], fun x => x.upsOffline),
      (["tss_comm_fault", "smoke_comm_fault"], fun x => x.smokeOffline),
      (["cgs_comm_fault", "gas_comm_fault"], fun x => x.gasOffline),
      (["aircon_comm_fault", "air_comm_fault"], fun x => x.airOffline) ]

def evalPcuSignal (x : PcuOnlineState) (signal : String) : Bool :=
  pcuSignals.eval x (normalizeToken signal)

def evalUpsSignal (x : UpsFaultState) (signal : String) : Bool :=
  upsSignals.eval x (normalizeToken signal)

def evalSmokeSignal (x : SmokeFaultState) (signal : String) : Bool :=
  smokeSignals.eval x (normalizeToken signal)

def evalGasSignal (x : GasFaultState) (signal : String) : Bool :=
  gasSignals.eval x (normalizeToken signal)

def evalAirSignal (x : AirFaultState) (signal : String) : Bool :=
  airSignals.eval x (normalizeToken signal)

/-- The only evaluator that renames the signal itself. -/
def evalLogicSignal (x : LogicFaults) (signal : String) : Bool :=
  logicSignals.eval x (normalizeSignal signal)

end Fault
end EnergyStorage
