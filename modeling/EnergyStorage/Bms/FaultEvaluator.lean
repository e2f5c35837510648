import EnergyStorage.Bms.Closing

/-! # The confirmed faults of the batteries

Two functions fold the same protocol bits.  The adapter keeps the unified raw faults
in the cache, the evaluator writes confirmed signals from the groups themselves. -/

namespace EnergyStorage
namespace Bms

open Lib
open LogicAdapter BmsCommandManager

namespace BmsFaultEvaluator

def kImplementedBmsSignals : List String :=
  ["cell_overvoltage_lvl1", "cell_overvoltage_lvl2", "cell_overvoltage_lvl3",
    "cell_undervoltage_lvl1", "cell_undervoltage_lvl2", "cell_undervoltage_lvl3",
    "cell_overdischarge_fault", "total_voltage_overvoltage_lvl1",
    "total_voltage_overvoltage_lvl2", "total_voltage_overvoltage_lvl3",
    "total_voltage_undervoltage_lvl1", "total_voltage_undervoltage_lvl2",
    "total_voltage_undervoltage_lvl3", "cell_overtemp_lvl1", "cell_overtemp_lvl2",
    "cell_overtemp_lvl3", "cell_lowtemp_alarm", "temp_diff_over_lvl1", "temp_diff_over_lvl2",
    "temp_diff_over_lvl3", "fire_alarm", "pulse_discharge_current_overflow_lvl1",
    "pulse_discharge_current_overflow_lvl2", "pulse_discharge_current_overflow_lvl3",
    "pulse_charge_current_overflow_lvl1", "pulse_charge_current_overflow_lvl2",
    "pulse_charge_current_overflow_lvl3", "current_sensor_fault", "low_voltage_supply_alarm",
    "soc_imbalance_alarm", "soc_jump_alarm", "soc_low_lvl1", "soc_low_lvl2", "soc_low_lvl3",
    "tms_unit_fault", "tms_panel_aircon_fault", "tms_ats_water_pump_fault",
    "battery_self_protect_fault", "precharge_fault", "driving_insulation_low_lvl1",
    "driving_insulation_low_lvl2", "driving_insulation_low_lvl3", "charge_insulation_low_alarm",
    "acan_comm_fault", "internal_comm_fault", "branch_circuit_open_fault", "hvil_alarm",
    "heat_relay_open_fault", "heat_relay_weld_fault", "main_pos_relay_open_fault",
    "main_pos_relay_weld_fault", "main_neg_relay_open_fault", "main_neg_relay_weld_fault",
    "dc_chrg_pos1_relay_open_fault", "dc_chrg_pos1_relay_weld_fault",
    "dc_chrg_neg1_relay_open_fault", "dc_chrg_neg1_relay_weld_fault",
    "dc_chrg_pos2_relay_open_fault", "dc_chrg_pos2_relay_weld_fault",
    "dc_chrg_neg2_relay_open_fault", "dc_chrg_neg2_relay_weld_fault",
    "ac_chrg_pos_relay_open_fault", "ac_chrg_pos_relay_weld_fault",
    "ac_chrg_neg_relay_open_fault", "ac_chrg_neg_relay_weld_fault",
    "panto_chrg_pos_relay_open_fault", "panto_chrg_pos_relay_weld_fault",
    "panto_chrg_neg_relay_open_fault", "panto_chrg_neg_relay_weld_fault",
    "charge_gun_connection_abnormal", "storage_mismatch_alarm",
    "charge_discharge_current_overflow", "charge_current_overflow_alarm",
    "charge_connector_ntc_fault", "charge_connector_overtemp_lvl1",
    "charge_connector_overtemp_lvl2", "cell_consistency_poor_alarm", "soc_high_alarm",
    "internal_hv_circuit_open_fault"]

def makeInstName (inst : Nat) : String := "BMS_" ++ toString inst

def makeSignalKey (inst : Nat) (signal : String) : String :=
  makeInstName inst ++ "." ++ signal

/-- `bms_confirmed_faults.signals`. -/
abbrev ConfirmedSignals := Dict String Bool

def setConfirmed (inst : Nat) (signals : ConfirmedSignals) (p : String × Bool) :
    ConfirmedSignals :=
  signals.insert (makeSignalKey inst p.1) p.2

def clearInstSignals (inst : Nat) (signals : ConfirmedSignals) : ConfirmedSignals :=
  (kImplementedBmsSignals.map fun s => (s, false)).foldl (setConfirmed inst) signals

def seenWithin (nowMs seenMs holdMs : Nat) : Bool :=
  if seenMs = 0 then false
  else if nowMs < seenMs then false
  else decide (nowMs - seenMs ≤ holdMs)

/-- `0x03` is the panel air conditioner, `0x1C` the water pump. -/
def tmsCodeLatched (x : BmsPerInstanceCache) (nowMs : Nat) (code : Int) (holdMs : Nat) : Bool :=
  if code = 0x03 then seenWithin nowMs x.tm2b.panelAirconSeenMs holdMs
  else if code = 0x1C then seenWithin nowMs x.tm2b.atsWaterPumpSeenMs holdMs
  else false

def setLevel3 (sigLvl1 sigLvl2 sigLvl3 : String) (level : Int) : List (String × Bool) :=
  [(sigLvl1, decide (level = 1)), (sigLvl2, decide (level = 2)), (sigLvl3, decide (level = 3))]

def setLevel2 (sigLvl1 sigLvl2 : String) (level : Int) : List (String × Bool) :=
  [(sigLvl1, decide (level = 1)), (sigLvl2, decide (level ≥ 2))]

def fault1Levels (x : BmsPerInstanceCache) (fault1Ok : Bool) : List (String × Bool) :=
  setLevel3 "cell_overvoltage_lvl1" "cell_overvoltage_lvl2" "cell_overvoltage_lvl3"
    (if fault1Ok then x.fault1.overUcell else 0) ++
  setLevel3 "cell_undervoltage_lvl1" "cell_undervoltage_lvl2" "cell_undervoltage_lvl3"
    (if fault1Ok then x.fault1.lowUcell else 0) ++
  setLevel3 "total_voltage_overvoltage_lvl1" "total_voltage_overvoltage_lvl2"
    "total_voltage_overvoltage_lvl3"
    (if fault1Ok then x.fault1.packOverHvolt else 0) ++
  setLevel3 "total_voltage_undervoltage_lvl1" "total_voltage_undervoltage_lvl2"
    "total_voltage_undervoltage_lvl3"
    (if fault1Ok then x.fault1.packLowHvolt else 0) ++
  setLevel3 "cell_overtemp_lvl1" "cell_overtemp_lvl2" "cell_overtemp_lvl3"
    (if fault1Ok then x.fault1.overTemp else 0) ++
  setLevel3 "temp_diff_over_lvl1" "temp_diff_over_lvl2" "temp_diff_over_lvl3"
    (if fault1Ok then x.fault1.delTemp else 0) ++
  setLevel3 "soc_low_lvl1" "soc_low_lvl2" "soc_low_lvl3"
    (if fault1Ok then x.fault1.lowSoc else 0) ++
  setLevel3 "driving_insulation_low_lvl1" "driving_insulation_low_lvl2"
    "driving_insulation_low_lvl3"
    (if fault1Ok then x.fault1.lowInsRes else 0)

def fault1Bits (x : BmsPerInstanceCache) (fault1Ok : Bool) : List (String × Bool) :=
  [("soc_jump_alarm", fault1Ok && x.fault1.socChangeFast),
    ("storage_mismatch_alarm", fault1Ok && x.fault1.batSysNotMatch),
    ("hvil_alarm", fault1Ok && x.fault1.hvilFault),
    ("cell_consistency_poor_alarm", fault1Ok && x.fault1.ucellUniformity),
    ("soc_high_alarm", fault1Ok && x.fault1.overSoc)]

def fault2Levels (x : BmsPerInstanceCache) (fault2Ok : Bool) : List (String × Bool) :=
  setLevel3 "pulse_discharge_current_overflow_lvl1" "pulse_discharge_current_overflow_lvl2"
    "pulse_discharge_current_overflow_lvl3"
    (if fault2Ok then x.fault2.overDischrgCurrLevel else 0) ++
  setLevel3 "pulse_charge_current_overflow_lvl1" "pulse_charge_current_overflow_lvl2"
    "pulse_charge_current_overflow_lvl3"
    (if fault2Ok then x.fault2.overChrgCurrInDriveLevel else 0) ++
  setLevel2 "charge_connector_overtemp_lvl1" "charge_connector_overtemp_lvl2"
    (if fault2Ok then x.fault2.chrgNtcTempOverLevel else 0)

def fault2Bits (x : BmsPerInstanceCache) (nowMs : Nat) (directFaultsOk fault2Ok : Bool) :
    List (String × Bool) :=
  let fireAlarmOn := directFaultsOk && (decide (x.fire2b.valueAlarmLevel > 0) ||
    x.fire2b.byStartSts || x.fire2b.sensorErrorSts || x.fire2b.hwErrorSts)
  let tmsUnitFaultOn := directFaultsOk && (decide (x.tm2b.faultCode ≠ 0) ||
    decide (x.tm2b.faultLevel > 0) || (fault2Ok && x.fault2.tmsErr))
  [("cell_overdischarge_fault", fault2Ok && x.fault2.cellOverDischrg),
    ("cell_lowtemp_alarm", fault2Ok && x.fault2.cellLowTemp),
    ("fire_alarm", fireAlarmOn),
    ("tms_unit_fault", tmsUnitFaultOn),
    ("tms_panel_aircon_fault", directFaultsOk && tmsCodeLatched x nowMs 0x03 3000),
    ("tms_ats_water_pump_fault", directFaultsOk && tmsCodeLatched x nowMs 0x1C 3000),
    ("current_sensor_fault", fault2Ok && x.fault2.currSensorErr),
    ("low_voltage_supply_alarm", fault2Ok && x.fault2.powerSupplyErr),
    ("soc_imbalance_alarm", fault2Ok && x.fault2.socDifferErr),
    ("battery_self_protect_fault", fault2Ok && x.fault2.packSelfProtect),
    ("precharge_fault", fault2Ok && x.fault2.mainLoopPrechgErr),
    ("charge_insulation_low_alarm", fault2Ok && x.fault2.chrgInsLowErr),
    ("acan_comm_fault", fault2Ok && x.fault2.acanLost),
    ("internal_comm_fault", fault2Ok && x.fault2.innerCommErr),
    ("branch_circuit_open_fault", fault2Ok && x.fault2.branchBreakErr),
    ("heat_relay_open_fault", fault2Ok && x.fault2.heatRelayOpenErr),
    ("heat_relay_weld_fault", fault2Ok && x.fault2.heatRelayWeldErr),
    ("main_pos_relay_open_fault", fault2Ok && x.fault2.mainPosOpenErr),
    ("main_pos_relay_weld_fault", fault2Ok && x.fault2.mainPosWeldErr),
    ("main_neg_relay_open_fault", fault2Ok && x.fault2.mainNegOpenErr),
    ("main_neg_relay_weld_fault", fault2Ok && x.fault2.mainNegWeldErr),
    ("dc_chrg_pos1_relay_open_fault", fault2Ok && x.fault2.dcChrgPos1OpenErr),
    ("dc_chrg_pos1_relay_weld_fault", fault2Ok && x.fault2.dcChrgPos1WeldErr),
    ("dc_chrg_neg1_relay_open_fault", fault2Ok && x.fault2.dcChrgNeg1OpenErr),
    ("dc_chrg_neg1_relay_weld_fault", fault2Ok && x.fault2.dcChrgNeg1WeldErr),
    ("dc_chrg_pos2_relay_open_fault", fault2Ok && x.fault2.dcChrgPos2OpenErr),
    ("dc_chrg_pos2_relay_weld_fault", fault2Ok && x.fault2.dcChrgPos2WeldErr),
    ("dc_chrg_neg2_relay_open_fault", fault2Ok && x.fault2.dcChrgNeg2OpenErr),
    ("dc_chrg_neg2_relay_weld_fault", fault2Ok && x.fault2.dcChrgNeg2WeldErr),
    ("ac_chrg_pos_relay_open_fault", fault2Ok && x.fault2.acChrgPosOpenErr),
    ("ac_chrg_pos_relay_weld_fault", fault2Ok && x.fault2.acChrgPosWeldErr),
    ("ac_chrg_neg_relay_open_fault", fault2Ok && x.fault2.acChrgNegOpenErr),
    ("ac_chrg_neg_relay_weld_fault", fault2Ok && x.fault2.acChrgNegWeldErr),
    ("panto_chrg_pos_relay_open_fault", fault2Ok && x.fault2.pantoChrgPosOpenErr),
    ("panto_chrg_pos_relay_weld_fault", fault2Ok && x.fault2.pantoChrgPosWeldErr),
    ("panto_chrg_neg_relay_open_fault", fault2Ok && x.fault2.pantoChrgNegOpenErr),
    ("panto_chrg_neg_relay_weld_fault", fault2Ok && x.fault2.pantoChrgNegWeldErr),
    ("charge_gun_connection_abnormal", fault2Ok && x.fault2.chrgConnectErr),
    ("charge_discharge_current_overflow", fault2Ok && x.fault2.overDischrgCurrWhenInChrg),
    ("charge_current_overflow_alarm", fault2Ok && x.fault2.overChrgCurrInTheChrg),
    ("charge_connector_ntc_fault", fault2Ok && x.fault2.chrgNtcErr),
    ("internal_hv_circuit_open_fault", false)]

/-- What is written for a battery that has been seen, in the order of the calls. -/
def evaluated (x : BmsPerInstanceCache) (nowMs : Nat) : List (String × Bool) :=
  let directFaultsOk := x.online
  let fault1Ok := directFaultsOk
  let fault2Ok := directFaultsOk
  fault1Levels x fault1Ok ++ fault1Bits x fault1Ok ++ fault2Levels x fault2Ok ++
    fault2Bits x nowMs directFaultsOk fault2Ok

def evaluateOne (inst : Nat) (x : Option BmsPerInstanceCache) (nowMs : Nat)
    (signals : ConfirmedSignals) : ConfirmedSignals :=
  match x with
  | none => clearInstSignals inst signals
  | some x =>
    if ¬ x.seenOnce then clearInstSignals inst signals
    else (evaluated x nowMs).foldl (setConfirmed inst) signals

def evaluateAll (cache : BmsLogicCache) (nowMs : Nat) (signals : ConfirmedSignals) :
    ConfirmedSignals :=
  instances.foldl
    (fun signals inst =>
      evaluateOne inst (cache.items.get (makeInstName inst)) nowMs signals) signals

end BmsFaultEvaluator

/-! ### The faults both sides know -/

/-- A fault with a `raw_` field and a confirmed signal, in the order of the fields. -/
inductive SharedFault
  | fireAlarm | currentSensorFault | lowVoltageSupplyAlarm | socJumpAlarm | tmsUnitFault
  | batterySelfProtectFault | prechargeFault | chargeInsulationLowAlarm | acanCommFault
  | internalCommFault | branchCircuitOpenFault | hvilAlarm | storageMismatchAlarm
  | chargeGunConnectionAbnormal | chargeDischargeCurrentOverflow | chargeCurrentOverflowAlarm
  | chargeConnectorNtcFault | chargeConnectorOvertempLvl1 | chargeConnectorOvertempLvl2
  | internalHvCircuitOpenFault | heatRelayOpenFault | heatRelayWeldFault
  | mainPosRelayOpenFault | mainPosRelayWeldFault | mainNegRelayOpenFault
  | mainNegRelayWeldFault | dcChrgPos1RelayOpenFault | dcChrgPos1RelayWeldFault
  | dcChrgNeg1RelayOpenFault | dcChrgNeg1RelayWeldFault | dcChrgPos2RelayOpenFault
  | dcChrgPos2RelayWeldFault | dcChrgNeg2RelayOpenFault | dcChrgNeg2RelayWeldFault
  | acChrgPosRelayOpenFault | acChrgPosRelayWeldFault | acChrgNegRelayOpenFault
  | acChrgNegRelayWeldFault | pantoChrgPosRelayOpenFault | pantoChrgPosRelayWeldFault
  | pantoChrgNegRelayOpenFault | pantoChrgNegRelayWeldFault
  deriving DecidableEq

namespace SharedFault

def name : SharedFault → String
  | .fireAlarm => "fire_alarm"
  | .currentSensorFault => "current_sensor_fault"
  | .lowVoltageSupplyAlarm => "low_voltage_supply_alarm"
  | .socJumpAlarm => "soc_jump_alarm"
  | .tmsUnitFault => "tms_unit_fault"
  | .batterySelfProtectFault => "battery_self_protect_fault"
  | .prechargeFault => "precharge_fault"
  | .chargeInsulationLowAlarm => "charge_insulation_low_alarm"
  | .acanCommFault => "acan_comm_fault"
  | .internalCommFault => "internal_comm_fault"
  | .branchCircuitOpenFault => "branch_circuit_open_fault"
  | .hvilAlarm => "hvil_alarm"
  | .storageMismatchAlarm => "storage_mismatch_alarm"
  | .chargeGunConnectionAbnormal => "charge_gun_connection_abnormal"
  | .chargeDischargeCurrentOverflow => "charge_discharge_current_overflow"
  | .chargeCurrentOverflowAlarm => "charge_current_overflow_alarm"
  | .chargeConnectorNtcFault => "charge_connector_ntc_fault"
  | .chargeConnectorOvertempLvl1 => "charge_connector_overtemp_lvl1"
  | .chargeConnectorOvertempLvl2 => "charge_connector_overtemp_lvl2"
  | .internalHvCircuitOpenFault => "internal_hv_circuit_open_fault"
  | .heatRelayOpenFault => "heat_relay_open_fault"
  | .heatRelayWeldFault => "heat_relay_weld_fault"
  | .mainPosRelayOpenFault => "main_pos_relay_open_fault"
  | .mainPosRelayWeldFault => "main_pos_relay_weld_fault"
  | .mainNegRelayOpenFault => "main_neg_relay_open_fault"
  | .mainNegRelayWeldFault => "main_neg_relay_weld_fault"
  | .dcChrgPos1RelayOpenFault => "dc_chrg_pos1_relay_open_fault"
  | .dcChrgPos1RelayWeldFault => "dc_chrg_pos1_relay_weld_fault"
  | .dcChrgNeg1RelayOpenFault => "dc_chrg_neg1_relay_open_fault"
  | .dcChrgNeg1RelayWeldFault => "dc_chrg_neg1_relay_weld_fault"
  | .dcChrgPos2RelayOpenFault => "dc_chrg_pos2_relay_open_fault"
  | .dcChrgPos2RelayWeldFault => "dc_chrg_pos2_relay_weld_fault"
  | .dcChrgNeg2RelayOpenFault => "dc_chrg_neg2_relay_open_fault"
  | .dcChrgNeg2RelayWeldFault => "dc_chrg_neg2_relay_weld_fault"
  | .acChrgPosRelayOpenFault => "ac_chrg_pos_relay_open_fault"
  | .acChrgPosRelayWeldFault => "ac_chrg_pos_relay_weld_fault"
  | .acChrgNegRelayOpenFault => "ac_chrg_neg_relay_open_fault"
  | .acChrgNegRelayWeldFault => "ac_chrg_neg_relay_weld_fault"
  | .pantoChrgPosRelayOpenFault => "panto_chrg_pos_relay_open_fault"
  | .pantoChrgPosRelayWeldFault => "panto_chrg_pos_relay_weld_fault"
  | .pantoChrgNegRelayOpenFault => "panto_chrg_neg_relay_open_fault"
  | .pantoChrgNegRelayWeldFault => "panto_chrg_neg_relay_weld_fault"

/-- The `raw_` field of the fault. -/
def raw (r : RawFaults) : SharedFault → Bool
  | .fireAlarm => r.fireAlarm
  | .currentSensorFault => r.currentSensorFault
  | .lowVoltageSupplyAlarm => r.lowVoltageSupplyAlarm
  | .socJumpAlarm => r.socJumpAlarm
  | .tmsUnitFault => r.tmsUnitFault
  | .batterySelfProtectFault => r.batterySelfProtectFault
  | .prechargeFault => r.prechargeFault
  | .chargeInsulationLowAlarm => r.chargeInsulationLowAlarm
  | .acanCommFault => r.acanCommFault
  | .internalCommFault => r.internalCommFault
  | .branchCircuitOpenFault => r.branchCircuitOpenFault
  | .hvilAlarm => r.hvilAlarm
  | .storageMismatchAlarm => r.storageMismatchAlarm
  | .chargeGunConnectionAbnormal => r.chargeGunConnectionAbnormal
  | .chargeDischargeCurrentOverflow => r.chargeDischargeCurrentOverflow
  | .chargeCurrentOverflowAlarm => r.chargeCurrentOverflowAlarm
  | .chargeConnectorNtcFault => r.chargeConnectorNtcFault
  | .chargeConnectorOvertempLvl1 => r.chargeConnectorOvertempLvl1
  | .chargeConnectorOvertempLvl2 => r.chargeConnectorOvertempLvl2
  | .internalHvCircuitOpenFault => r.internalHvCircuitOpenFault
  | .heatRelayOpenFault => r.heatRelayOpenFault
  | .heatRelayWeldFault => r.heatRelayWeldFault
  | .mainPosRelayOpenFault => r.mainPosRelayOpenFault
  | .mainPosRelayWeldFault => r.mainPosRelayWeldFault
  | .mainNegRelayOpenFault => r.mainNegRelayOpenFault
  | .mainNegRelayWeldFault => r.mainNegRelayWeldFault
  | .dcChrgPos1RelayOpenFault => r.dcChrgPos1RelayOpenFault
  | .dcChrgPos1RelayWeldFault => r.dcChrgPos1RelayWeldFault
  | .dcChrgNeg1RelayOpenFault => r.dcChrgNeg1RelayOpenFault
  | .dcChrgNeg1RelayWeldFault => r.dcChrgNeg1RelayWeldFault
  | .dcChrgPos2RelayOpenFault => r.dcChrgPos2RelayOpenFault
  | .dcChrgPos2RelayWeldFault => r.dcChrgPos2RelayWeldFault
  | .dcChrgNeg2RelayOpenFault => r.dcChrgNeg2RelayOpenFault
  | .dcChrgNeg2RelayWeldFault => r.dcChrgNeg2RelayWeldFault
  | .acChrgPosRelayOpenFault => r.acChrgPosRelayOpenFault
  | .acChrgPosRelayWeldFault => r.acChrgPosRelayWeldFault
  | .acChrgNegRelayOpenFault => r.acChrgNegRelayOpenFault
  | .acChrgNegRelayWeldFault => r.acChrgNegRelayWeldFault
  | .pantoChrgPosRelayOpenFault => r.pantoChrgPosRelayOpenFault
  | .pantoChrgPosRelayWeldFault => r.pantoChrgPosRelayWeldFault
  | .pantoChrgNegRelayOpenFault => r.pantoChrgNegRelayOpenFault
  | .pantoChrgNegRelayWeldFault => r.pantoChrgNegRelayWeldFault

/-- Where `fault2Bits` writes the fault, `0` for those it does not write. -/
def place : SharedFault → Nat
  | .fireAlarm => 2
  | .currentSensorFault => 6
  | .lowVoltageSupplyAlarm => 7
  | .tmsUnitFault => 3
  | .batterySelfProtectFault => 9
  | .prechargeFault => 10
  | .chargeInsulationLowAlarm => 11
  | .acanCommFault => 12
  | .internalCommFault => 13
  | .branchCircuitOpenFault => 14
  | .chargeGunConnectionAbnormal => 37
  | .chargeDischargeCurrentOverflow => 38
  | .chargeCurrentOverflowAlarm => 39
  | .chargeConnectorNtcFault => 40
  | .internalHvCircuitOpenFault => 41
  | .heatRelayOpenFault => 15
  | .heatRelayWeldFault => 16
  | .mainPosRelayOpenFault => 17
  | .mainPosRelayWeldFault => 18
  | .mainNegRelayOpenFault => 19
  | .mainNegRelayWeldFault => 20
  | .dcChrgPos1RelayOpenFault => 21
  | .dcChrgPos1RelayWeldFault => 22
  | .dcChrgNeg1RelayOpenFault => 23
  | .dcChrgNeg1RelayWeldFault => 24
  | .dcChrgPos2RelayOpenFault => 25
  | .dcChrgPos2RelayWeldFault => 26
  | .dcChrgNeg2RelayOpenFault => 27
  | .dcChrgNeg2RelayWeldFault => 28
  | .acChrgPosRelayOpenFault => 29
  | .acChrgPosRelayWeldFault => 30
  | .acChrgNegRelayOpenFault => 31
  | .acChrgNegRelayWeldFault => 32
  | .pantoChrgPosRelayOpenFault => 33
  | .pantoChrgPosRelayWeldFault => 34
  | .pantoChrgNegRelayOpenFault => 35
  | .pantoChrgNegRelayWeldFault => 36
  | _ => 0

end SharedFault

namespace BmsFaultEvaluator

/-! ### What is written under a key -/

/-- The keys of the four instances never meet. -/
theorem makeSignalKey_inj {a b : Nat} (ha : a ∈ instances) (hb : b ∈ instances) {s t : String}
    (h : makeSignalKey a s = makeSignalKey b t) : a = b ∧ s = t := by
  have hlen : ∀ n ∈ instances, (makeInstName n ++ ".").toList.length = 6 := by decide
  have htext : ∀ n u, (makeSignalKey n u).toList = (makeInstName n ++ ".").toList ++ u.toList :=
    fun n u => String.toList_append
  have hchars := congrArg String.toList h
  rw [htext, htext] at hchars
  obtain ⟨hname, hsignal⟩ := List.append_inj hchars ((hlen a ha).trans (hlen b hb).symm)
  have hnames : ∀ m ∈ instances, ∀ n ∈ instances,
      (makeInstName m ++ ".").toList = (makeInstName n ++ ".").toList → m = n := by
    decide
  exact ⟨hnames a ha b hb hname, String.toList_inj.mp hsignal⟩

theorem get_foldl_setConfirmed_of_ne {inst : Nat} {key : String} {l : List (String × Bool)}
    (h : ∀ p ∈ l, key ≠ makeSignalKey inst p.1) (signals : ConfirmedSignals) :
    (l.foldl (setConfirmed inst) signals).get key = signals.get key := by
  induction l generalizing signals with
  | nil => rfl
  | cons p l ih =>
    rw [List.foldl_cons, ih fun q hq => h q (List.mem_cons_of_mem p hq)]
    exact Dict.get_insert_of_ne _ (h p List.mem_cons_self) _

/-- A name that is written under one value only holds it afterwards. -/
theorem get_foldl_setConfirmed {inst : Nat} (hinst : inst ∈ instances)
    {l : List (String × Bool)} {p : String × Bool} (hsame : ∀ q ∈ l, q.1 = p.1 → q.2 = p.2)
    (hp : p ∈ l) (signals : ConfirmedSignals) :
    (l.foldl (setConfirmed inst) signals).get (makeSignalKey inst p.1) = some p.2 := by
  induction l generalizing signals with
  | nil => cases hp
  | cons q l ih =>
    rw [List.foldl_cons]
    by_cases hlater : ∃ r ∈ l, r.1 = p.1
    · obtain ⟨r, hr, hname⟩ := hlater
      have hval := hsame r (List.mem_cons_of_mem q hr) hname
      have hpl : p ∈ l := Prod.ext hname hval ▸ hr
      exact ih (fun r hr => hsame r (List.mem_cons_of_mem q hr)) hpl _
    · have hkey : ∀ r ∈ l, makeSignalKey inst p.1 ≠ makeSignalKey inst r.1 :=
        fun r hr h => hlater ⟨r, hr, (makeSignalKey_inj hinst hinst h).2.symm⟩
      rw [get_foldl_setConfirmed_of_ne hkey]
      obtain rfl | hpl := List.mem_cons.mp hp
      · exact Dict.get_insert_self _ _ _
      · exact absurd ⟨p, hpl, rfl⟩ hlater

theorem get_clearInstSignals {inst : Nat} (hinst : inst ∈ instances) {s : String}
    (hs : s ∈ kImplementedBmsSignals) (signals : ConfirmedSignals) :
    (clearInstSignals inst signals).get (makeSignalKey inst s) = some false := by
  refine get_foldl_setConfirmed hinst (p := (s, false)) ?_
    (List.mem_map_of_mem (f := fun s => (s, false)) hs) signals
  intro q hq _
  obtain ⟨t, -, rfl⟩ := List.mem_map.mp hq
  rfl

theorem evaluated_nodup (x : BmsPerInstanceCache) (nowMs : Nat) :
    ((evaluated x nowMs).map Prod.fst).Nodup := by
  simp only [evaluated, fault1Levels, fault1Bits, fault2Levels, fault2Bits, setLevel3,
    setLevel2, List.map_append, List.map_cons, List.map_nil]
  decide

/-- The evaluator writes each signal of a seen battery once. -/
theorem get_foldl_evaluated {inst : Nat} (hinst : inst ∈ instances) {x : BmsPerInstanceCache}
    {nowMs : Nat} {p : String × Bool} (hp : p ∈ evaluated x nowMs)
    (signals : ConfirmedSignals) :
    ((evaluated x nowMs).foldl (setConfirmed inst) signals).get (makeSignalKey inst p.1) =
      some p.2 := by
  refine get_foldl_setConfirmed hinst ?_ hp signals
  intro q hq hname
  rw [List.inj_on_of_nodup_map (evaluated_nodup x nowMs) hq hp hname]

/-- A pass leaves the other instances' signals alone. -/
theorem get_evaluateOne_of_ne {a b : Nat} (ha : a ∈ instances) (hb : b ∈ instances)
    (hne : b ≠ a) (x : Option BmsPerInstanceCache) (nowMs : Nat) (signals : ConfirmedSignals)
    (s : String) :
    (evaluateOne a x nowMs signals).get (makeSignalKey b s) =
      signals.get (makeSignalKey b s) := by
  have hkey : ∀ p : String × Bool, makeSignalKey b s ≠ makeSignalKey a p.1 :=
    fun p h => hne (makeSignalKey_inj hb ha h).1
  unfold evaluateOne
  split
  · exact get_foldl_setConfirmed_of_ne (fun p _ => hkey p) signals
  · split
    · exact get_foldl_setConfirmed_of_ne (fun p _ => hkey p) signals
    · exact get_foldl_setConfirmed_of_ne (fun p _ => hkey p) signals

/-- What an instance's own pass writes is what all passes together leave. -/
theorem get_evaluateAll {cache : BmsLogicCache} {nowMs inst : Nat} (hinst : inst ∈ instances)
    {s : String} {on : Bool}
    (h : ∀ signals, (evaluateOne inst (cache.items.get (makeInstName inst)) nowMs signals).get
      (makeSignalKey inst s) = some on) (signals : ConfirmedSignals) :
    (evaluateAll cache nowMs signals).get (makeSignalKey inst s) = some on := by
  have hstep : ∀ (signals : ConfirmedSignals) (a : Nat), a ∈ instances →
      (evaluateOne a (cache.items.get (makeInstName a)) nowMs signals).get
        (makeSignalKey inst s) =
      (if a = inst then some on else none).or (signals.get (makeSignalKey inst s)) := by
    intro signals a ha
    by_cases hne : a = inst
    · rw [if_pos hne, hne, h signals]
      rfl
    · rw [if_neg hne, get_evaluateOne_of_ne ha hinst (Ne.symm hne)]
      rfl
  have hwrite : instances.reverse.findSome? (fun a => if a = inst then some on else none) =
      some on := by
    have hcases : inst = 1 ∨ inst = 2 ∨ inst = 3 ∨ inst = 4 := by
      simpa [instances] using hinst
    obtain rfl | rfl | rfl | rfl := hcases
    · rfl
    · rfl
    · rfl
    · rfl
  have hobs := observe_foldl (fun d : ConfirmedSignals => d.get (makeSignalKey inst s))
    signals instances hstep
  rw [hwrite] at hobs
  exact hobs

/-! ### Agreement with the raw faults -/

/-- What the evaluator writes for a fault. -/
def confirmed (x : BmsPerInstanceCache) (f : SharedFault) : Bool :=
  match f with
  | .prechargeFault => x.online && x.fault2.mainLoopPrechgErr
  | .internalHvCircuitOpenFault => false
  | f => x.online && f.raw (rebuildUnifiedRawFaults x)

theorem mem_evaluated (f : SharedFault) (x : BmsPerInstanceCache) (nowMs : Nat) :
    (f.name, confirmed x f) ∈ evaluated x nowMs := by
  have htms : ∀ on a b : Bool, (on && (a || (on && b))) = (on && (a || b)) := by decide
  have hlevel : ∀ (on : Bool) (n : Int),
      decide ((if on then n else 0) = 1) = (on && decide (n = 1)) ∧
      decide ((if on then n else 0) ≥ 2) = (on && decide (n ≥ 2)) := by
    intro on n
    cases on
    · exact ⟨rfl, rfl⟩
    · exact ⟨rfl, rfl⟩
  have hbits : ∀ p ∈ fault1Bits x x.online, p ∈ evaluated x nowMs := fun p hp =>
    List.mem_append_left _ (List.mem_append_left _ (List.mem_append_right _ hp))
  have hlevels : ∀ p ∈ fault2Levels x x.online, p ∈ evaluated x nowMs := fun p hp =>
    List.mem_append_left _ (List.mem_append_right _ hp)
  have hbits2 : ∀ p ∈ fault2Bits x nowMs x.online x.online, p ∈ evaluated x nowMs :=
    fun p hp => List.mem_append_right _ hp
  have hplace : ∀ {f : SharedFault} {on : Bool},
      (fault2Bits x nowMs x.online x.online)[f.place]? = some (f.name, on) →
      (f.name, on) ∈ evaluated x nowMs := fun h => hbits2 _ (List.mem_of_getElem? h)
  cases f
  case socJumpAlarm => exact hbits _ (List.mem_of_getElem? (i := 0) rfl)
  case storageMismatchAlarm => exact hbits _ (List.mem_of_getElem? (i := 1) rfl)
  case hvilAlarm => exact hbits _ (List.mem_of_getElem? (i := 2) rfl)
  case chargeConnectorOvertempLvl1 =>
    rw [show confirmed x .chargeConnectorOvertempLvl1 = _ from (hlevel x.online _).1.symm]
    exact hlevels _ (List.mem_of_getElem? (i := 6) rfl)
  case chargeConnectorOvertempLvl2 =>
    rw [show confirmed x .chargeConnectorOvertempLvl2 = _ from (hlevel x.online _).2.symm]
    exact hlevels _ (List.mem_of_getElem? (i := 7) rfl)
  case tmsUnitFault =>
    rw [show confirmed x .tmsUnitFault = _ from (htms x.online _ _).symm]
    exact hplace rfl
  all_goals exact hplace rfl

end BmsFaultEvaluator

/-! ### Caches in reach -/

/-- The raw faults of every entry are those its groups give. -/
def RawInStep (cache : BmsLogicCache) : Prop :=
  ∀ name x, cache.items.get name = some x → x.raw = rebuildUnifiedRawFaults x

theorem rawInStep_updateBmsRuntimeHealth {cache : BmsLogicCache} (h : RawInStep cache)
    (nowMs : Nat) : RawInStep (updateBmsRuntimeHealth cache nowMs) := by
  intro name x hx
  rw [get_updateBmsRuntimeHealth, Option.map_eq_some_iff] at hx
  obtain ⟨y, hy, rfl⟩ := hx
  exact h name y hy

theorem bmsLoop_rawInStep (cfg : BmsTxConfig) :
    (bmsLoop cfg).Invariant fun s => RawInStep s.cache where
  start name x hx := by cases hx
  step s e h := by
    cases e with
    | message d tsMs =>
      intro name x hx
      rw [show ((bmsLoop cfg).step s (.message d tsMs)).1.cache =
        onDeviceData d tsMs s.cache from rfl, get_onDeviceData] at hx
      split at hx
      · obtain rfl := Option.some_inj.mp hx
        rfl
      · exact h name x hx
    | age tsMs => exact rawInStep_updateBmsRuntimeHealth h tsMs
    | tick tsMs hv => exact rawInStep_updateBmsRuntimeHealth h tsMs

/-- The event is a message about the instance of this name. -/
def Announces (name : String) : BmsEvent → Prop
  | .message d _ => Addressed name d
  | _ => False

def Seen (name : String) (es : List BmsEvent) : Prop := ∃ e ∈ es, Announces name e

/-- The cache has an entry for exactly the instances seen. -/
theorem isSome_get_run_iff (cfg : BmsTxConfig) (name : String) (es : List BmsEvent) :
    (((bmsLoop cfg).run es).cache.items.get name).isSome ↔ Seen name es := by
  refine (bmsLoop cfg).run_induction
    (R := fun es s => (s.cache.items.get name).isSome ↔ Seen name es) ?_ ?_ es
  · constructor
    · intro h
      cases h
    · rintro ⟨e, he, -⟩
      cases he
  · intro pre e ih
    have hsnoc : Seen name (pre ++ [e]) ↔ Seen name pre ∨ Announces name e := by
      simp only [Seen, List.mem_append, List.mem_singleton, or_and_right, exists_or,
        exists_eq_left]
    have hage : ∀ t, ((updateBmsRuntimeHealth ((bmsLoop cfg).run pre).cache t).items.get
        name).isSome ↔ Seen name pre ∨ False := by
      intro t
      rw [get_updateBmsRuntimeHealth, Option.isSome_map, or_false, ih]
    rw [hsnoc]
    cases e with
    | message d tsMs =>
      show ((onDeviceData d tsMs ((bmsLoop cfg).run pre).cache).items.get name).isSome ↔ _
      rw [get_onDeviceData]
      by_cases hd : Addressed name d
      · rw [if_pos hd]
        exact ⟨fun _ => Or.inr hd, fun _ => rfl⟩
      · rw [if_neg hd, ih]
        exact ⟨Or.inl, fun h => h.resolve_right hd⟩
    | age tsMs => exact hage tsMs
    | tick tsMs hv => exact hage tsMs

open BmsFaultEvaluator

/-- The confirmed signal of a shared fault is the raw fault of an online battery, but for
the open high-voltage circuit, which is never confirmed.  Of a precharge fault on the
auxiliary loop alone nothing is said.  A battery never seen has no confirmed signal on. -/
theorem confirmed_eq_raw (cfg : BmsTxConfig) (es : List BmsEvent) (nowMs : Nat)
    (signals : ConfirmedSignals) (inst : Nat) (hinst : inst ∈ instances) :
    (∀ x, ((bmsLoop cfg).run es).cache.items.get (makeInstName inst) = some x →
      ∀ f : SharedFault,
        (f = .prechargeFault → x.fault2.auxLoopPrechgErr = true →
          x.fault2.mainLoopPrechgErr = true) →
        (evaluateAll ((bmsLoop cfg).run es).cache nowMs signals).get
            (makeSignalKey inst f.name) =
          some (if f = .internalHvCircuitOpenFault then false else x.online && f.raw x.raw)) ∧
      (¬ Seen (makeInstName inst) es → ∀ s ∈ kImplementedBmsSignals,
        (evaluateAll ((bmsLoop cfg).run es).cache nowMs signals).get (makeSignalKey inst s) =
          some false) := by
  have hok := (bmsLoop_cacheOk cfg).run es
  have hraw := (bmsLoop_rawInStep cfg).run es
  have hseen := isSome_get_run_iff cfg (makeInstName inst) es
  generalize ((bmsLoop cfg).run es).cache = cache at hok hraw hseen ⊢
  constructor
  · intro x hx f hmain
    have hconf : confirmed x f =
        if f = .internalHvCircuitOpenFault then false else x.online && f.raw x.raw := by
      rw [hraw _ x hx, confirmed.eq_def]
      split
      · have hpre : x.fault2.mainLoopPrechgErr =
            (x.fault2.mainLoopPrechgErr || x.fault2.auxLoopPrechgErr) := by
          cases haux : x.fault2.auxLoopPrechgErr with
          | false => rw [Bool.or_false]
          | true => rw [hmain rfl haux, Bool.or_true]
        rw [hpre]
        rfl
      · rfl
      · next hhv => rw [if_neg hhv]
    rw [← hconf]
    refine get_evaluateAll hinst ?_ signals
    intro signals
    rw [hx]
    show (if ¬ x.seenOnce then _ else _ : ConfirmedSignals).get _ = _
    rw [if_neg (not_not.mpr (hok _ x hx).seen)]
    exact get_foldl_evaluated hinst (mem_evaluated f x nowMs) signals
  · intro hnever s hs
    have hnone : cache.items.get (makeInstName inst) = none := by
      rw [← Option.not_isSome_iff_eq_none, hseen]
      exact hnever
    refine get_evaluateAll hinst ?_ signals
    intro signals
    rw [hnone]
    exact get_clearInstSignals hinst hs signals

/-- A frame of the first battery with the open branch and the auxiliary precharge error. -/
def branchBreak : List BusEvent :=
  [.frame (extendedFrame 0x1882E103#32 0x4200000#64) 100, .tick 110 fun _ => none]

theorem confirmed_eq_raw_branchBreak :
    (evaluateAll ((bmsLoop defaultTx).run (branchBreak.flatMap onBus)).cache 110
      Dict.empty).get (makeSignalKey 1 "branch_circuit_open_fault") = some true := by
  have hentry : (((bmsLoop defaultTx).run (branchBreak.flatMap onBus)).cache.items.get
      (makeInstName 1)).map (fun x => x.online && x.raw.branchCircuitOpenFault) = some true := by
    decide +kernel
  obtain ⟨x, hx, hon⟩ := Option.map_eq_some_iff.mp hentry
  rw [← hon]
  exact (confirmed_eq_raw defaultTx (branchBreak.flatMap onBus) 110 Dict.empty 1
    (by decide)).1 x hx .branchCircuitOpenFault (fun h => by cases h)

/-- The open circuit and the auxiliary precharge error are raw faults of an online battery
that no signal confirms. -/
theorem branchBreak_unconfirmed :
    (((bmsLoop defaultTx).run (branchBreak.flatMap onBus)).cache.items.get
        (makeInstName 1)).map
      (fun x => [x.online, x.raw.internalHvCircuitOpenFault, x.raw.prechargeFault]) =
        some [true, true, true] ∧
      (evaluateAll ((bmsLoop defaultTx).run (branchBreak.flatMap onBus)).cache 110
        Dict.empty).get (makeSignalKey 1 "internal_hv_circuit_open_fault") = some false ∧
      (evaluateAll ((bmsLoop defaultTx).run (branchBreak.flatMap onBus)).cache 110
        Dict.empty).get (makeSignalKey 1 "precharge_fault") = some false := by
  decide +kernel

end Bms
end EnergyStorage
