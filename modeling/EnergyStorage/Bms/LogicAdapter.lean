import EnergyStorage.Bms.LogicTypes
import EnergyStorage.Bms.Proto

/-! # Messages into the cache

The adapter finds the instance and the message name in the parsed data, stamps and
flags the group, moves the group's signals into the cache, and recomputes the
high-voltage verdict and the unified faults. -/

namespace EnergyStorage
namespace Bms
namespace LogicAdapter

open Lib (Dict)

def isBmsDevice (d : DeviceData) : Bool := d.deviceName == "BMS"

/-! ### Instance and message -/

def indexFromValue (d : DeviceData) : Option Nat :=
  (d.value.get "__bms.instance_index").bind fun v =>
    if 1 ≤ v ∧ v ≤ 4 then some v.toNat else none

def indexFromName (d : DeviceData) : Option Nat :=
  (d.str.get "__bms.instance").bind fun s =>
    match s.toList with
    | 'B' :: 'M' :: 'S' :: '_' :: c :: _ =>
      if '1' ≤ c ∧ c ≤ '4' then some (c.toNat - '0'.toNat) else none
    | _ => none

def indexFromId (d : DeviceData) : Option Nat :=
  (d.value.get "__bms.id").bind fun v =>
    let low12 := BitVec.ofInt 32 v &&& 0xFFF#32
    let idx := ((low12 >>> 8) &&& 0xF#32).toNat
    if 1 ≤ idx ∧ idx ≤ 4 then some idx else none

def parseInstanceIndex (d : DeviceData) : Nat :=
  ((indexFromValue d).or ((indexFromName d).or (indexFromId d))).getD 0

def parseInstanceName (d : DeviceData) (idx : Nat) : String :=
  match d.str.get "__bms.instance" with
  | some s => if s ≠ "" then s else FrameRouter.makeInstanceName idx
  | none => FrameRouter.makeInstanceName idx

def parseMsgName (d : DeviceData) : String :=
  match d.str.get "__bms.msg" with
  | some s => if s ≠ "" then s else "UNKNOWN"
  | none => "UNKNOWN"

def parseRawHex (d : DeviceData) : String := (d.str.get "__bms.raw_hex").getD ""

/-! ### Reading signals -/

/-- A floating-point value cast to an integer drops its fraction. -/
def truncToInt (q : ℚ) : Int := q.num.tdiv q.den

def readNum (d : DeviceData) (keys : List String) : Option ℚ :=
  keys.findSome? fun k => d.num.get k

def readInt (d : DeviceData) (keys : List String) : Option Int :=
  keys.findSome? fun k =>
    (d.value.get k).or
      (((d.status.get k).map fun n => (BitVec.ofNat 32 n).toInt).or
        ((d.num.get k).map truncToInt))

/-- The keys a signal of a message is looked up under: full keys first, then the
bare names. -/
def sigKeys (msgName : String) (sigNames : List String) : List String :=
  sigNames.map (BmsProto.fullKey msgName) ++ sigNames

/-- The signals a handler sees. -/
structure Signals where
  int : List String → Option Int
  num : List String → Option ℚ

namespace Signals

def ofDevice (d : DeviceData) (msgName : String) : Signals where
  int names := readInt d (sigKeys msgName names)
  num names := readNum d (sigKeys msgName names)

variable (s : Signals)

/-- A field is overwritten only by a signal that is there. -/
def pickInt (n : String) (old : Int) : Int := (s.int [n]).getD old

/-- As `readBool_` reads it. -/
def bool (n : String) : Option Bool := (s.int [n]).map fun v => decide (v ≠ 0)

def pickBool (n : String) (old : Bool) : Bool := (s.bool n).getD old

/-- A measurement that `invalid` refuses clears the flag and keeps the old value. -/
def pickReading (n : String) (invalid : ℚ → Bool) (old : Reading) : Reading :=
  match s.num [n] with
  | none => old
  | some v => if invalid v then { old with valid := false } else { valid := true, value := v }

end Signals

/-! ### Plausibility of measurements -/

def isSocInvalid (v : ℚ) : Bool :=
  (decide (254.5 ≤ v) && decide (v ≤ 255.5)) || (decide (101.5 ≤ v) && decide (v ≤ 102.5))

def isSohInvalid (v : ℚ) : Bool :=
  (decide (254.5 ≤ v) && decide (v ≤ 255.5)) || (decide (101.5 ≤ v) && decide (v ≤ 102.5))

def isPackCurrentInvalid (v : ℚ) : Bool := decide (60000 < v) || decide (v < -60000)

def isPackVoltageInvalid (v : ℚ) : Bool := decide (60000 < v) || decide (v < -1)

def isTempInvalid (v : ℚ) : Bool := decide (v < -100) || decide (300 < v)

def isCurrentLimitInvalid (v : ℚ) : Bool := decide (v < -1) || decide (5000 < v)

def isInsResInvalid (v : ℚ) : Bool := decide (v < 0) || decide (60000 < v)

/-- The handlers without a plausibility check. -/
def isNeverInvalid (_ : ℚ) : Bool := false

def isEnergyInvalid (max v : ℚ) : Bool := !(decide (0 ≤ v) && decide (v ≤ max))

/-! ### Handlers -/

def updateFromFault1 (s : Signals) (x : Fault1) : Fault1 where
  delTemp := s.pickInt "B2V_Fult1_DelTemp" x.delTemp
  overTemp := s.pickInt "B2V_Fult1_OverTemp" x.overTemp
  overUcell := s.pickInt "B2V_Fult1_OverUcell" x.overUcell
  lowUcell := s.pickInt "B2V_Fult1_LowUcell" x.lowUcell
  packOverHvolt := s.pickInt "B2V_Fult1_PackOverHVolt" x.packOverHvolt
  packLowHvolt := s.pickInt "B2V_Fult1_PackLowHVolt" x.packLowHvolt
  lowSoc := s.pickInt "B2V_Fult1_LowSOC" x.lowSoc
  lowInsRes := s.pickInt "B2V_Fult1_LowInsRes" x.lowInsRes
  ucellUniformity := s.pickBool "B2V_Fult1_UcellUniformity" x.ucellUniformity
  overChg := s.pickBool "B2V_Fult1_OverChg" x.overChg
  overSoc := s.pickBool "B2V_Fult1_OverSOC" x.overSoc
  socChangeFast := s.pickBool "B2V_Fult1_SOCChangeFast" x.socChangeFast
  batSysNotMatch := s.pickBool "B2V_Fult1_BatSysNotMatch" x.batSysNotMatch
  hvilFault := s.pickBool "B2V_Fult1_HVILFault" x.hvilFault
  faultNum := s.pickInt "B2V_Fult1_FaultNum_32960" x.faultNum

/-- Here an absent bit reads as clear. -/
def updateFromFault2 (s : Signals) (x : Fault2) : Fault2 where
  cellOverDischrg := s.pickBool "B2V_Fult2_CellOverDischrg" false
  cellLowTemp := s.pickBool "B2V_Fult2_CellLowTemp" false
  packFireWarning := s.pickBool "B2V_Fult2_PackFireWarning" false
  overDischrgCurrLevel := s.pickInt "B2V_Fult2_OverDischrgCurr" x.overDischrgCurrLevel
  overChrgCurrInDriveLevel := s.pickInt "B2V_Fult2_OverChrgCurrInTheDrive" x.overChrgCurrInDriveLevel
  currSensorErr := s.pickBool "B2V_Fult2_CurrSensorErr" false
  powerSupplyErr := s.pickBool "B2V_Fult2_PowerSupplyErr" false
  socDifferErr := s.pickBool "B2V_Fult2_SOCDifferErr" false
  chrgConnectErr := s.pickBool "B2V_Fult2_ChrgConnectErr" false
  overDischrgCurrWhenInChrg := s.pickBool "B2V_Fult2_OverDischrgCurrWhenInChrg" false
  overChrgCurrInTheChrg := s.pickBool "B2V_Fult2_OverChrgCurrInTheChrg" false
  chrgNtcErr := s.pickBool "B2V_Fult2_ChrgNTCErr" false
  chrgNtcTempOverLevel := s.pickInt "B2V_Fult2_ChrgNTCTempOver" x.chrgNtcTempOverLevel
  tmsErr := s.pickBool "B2V_Fult2_TMSErr" false
  packSelfProtect := s.pickBool "B2V_Fult2_PackSelfProtect" false
  mainLoopPrechgErr := s.pickBool "B2V_Fult2_MainLoopPrechrgErr" false
  auxLoopPrechgErr := s.pickBool "B2V_Fult2_AuxLoopPrechrgErr" false
  chrgInsLowErr := s.pickBool "B2V_Fult2_ChrgInsLowErr" false
  acanLost := s.pickBool "B2V_Fult2_ACANLost" false
  innerCommErr := s.pickBool "B2V_Fult2_InnerCommunicationErr" false
  dcdcErr := s.pickBool "B2V_Fult2_DCDCErr" false
  branchBreakErr := s.pickBool "B2V_Fult2_BranchBreakErr" false
  heatRelayOpenErr := s.pickBool "B2V_Fult2_HeatRelayOpenErr" false
  heatRelayWeldErr := s.pickBool "B2V_Fult2_HeatRelayWeldErr" false
  mainPosOpenErr := s.pickBool "B2V_Fult2_MainPosRelayOpenErr" false
  mainPosWeldErr := s.pickBool "B2V_Fult2_MainPosRelayWeldErr" false
  mainNegOpenErr := s.pickBool "B2V_Fult2_MainNegRelayOpenErr" false
  mainNegWeldErr := s.pickBool "B2V_Fult2_MainNegRelayWeldErr" false
  dcChrgPos1OpenErr := s.pickBool "B2V_Fult2_DCChrgPos1RelayOpenErr" false
  dcChrgPos1WeldErr := s.pickBool "B2V_Fult2_DCChrgPos1RelayWeldErr" false
  dcChrgNeg1OpenErr := s.pickBool "B2V_Fult2_DCChrgNeg1RelayOpenErr" false
  dcChrgNeg1WeldErr := s.pickBool "B2V_Fult2_DCChrgNeg1RelayWeldErr" false
  dcChrgPos2OpenErr := s.pickBool "B2V_Fult2_DCChrgPos2RelayOpenErr" false
  dcChrgPos2WeldErr := s.pickBool "B2V_Fult2_DCChrgPos2RelayWeldErr" false
  dcChrgNeg2OpenErr := s.pickBool "B2V_Fult2_DCChrgNeg2RelayOpenErr" false
  dcChrgNeg2WeldErr := s.pickBool "B2V_Fult2_DCChrgNeg2RelayWeldErr" false
  acChrgPosOpenErr := s.pickBool "B2V_Fult2_ACChrgPosRelayOpenErr" false
  acChrgPosWeldErr := s.pickBool "B2V_Fult2_ACChrgPosRelayWeldErr" false
  acChrgNegOpenErr := s.pickBool "B2V_Fult2_ACChrgNegRelayOpenErr" false
  acChrgNegWeldErr := s.pickBool "B2V_Fult2_ACChrgNegRelayWeldErr" false
  pantoChrgPosOpenErr := s.pickBool "B2V_Fult2_PantoChrgPosRelayOpenErr" false
  pantoChrgPosWeldErr := s.pickBool "B2V_Fult2_PantoChrgPosRelayWeldErr" false
  pantoChrgNegOpenErr := s.pickBool "B2V_Fult2_PantoChrgNegRelayOpenErr" false
  pantoChrgNegWeldErr := s.pickBool "B2V_Fult2_PantoChrgNegRelayWeldErr" false

def updateFromSt1 (s : Signals) (x : St1) : St1 where
  mainPosRelaySt := s.pickInt "B2V_ST1_MainPosRelaySt" x.mainPosRelaySt
  mainNegRelaySt := s.pickInt "B2V_ST1_MainNegRelaySt" x.mainNegRelaySt
  prechrgRelaySt := s.pickInt "B2V_ST1_PrechrgRelaySt" x.prechrgRelaySt
  heatPosRelaySt := s.pickInt "B2V_ST1_HeatPosRelaySt" x.heatPosRelaySt
  heatNegRelaySt := s.pickInt "B2V_ST1_HeatNegRelaySt" x.heatNegRelaySt
  bmsHvStatus := s.pickInt "B2V_ST1_BMS_HVStatus" x.bmsHvStatus
  balanceStatus := s.pickInt "B2V_ST1_BMS_BalanceStatus" x.balanceStatus
  dcChrgConnectSt := s.pickInt "B2V_ST1_DCChrgConnectSt" x.dcChrgConnectSt
  pantoChrgConnectSt := s.pickInt "B2V_ST1_PantoChrgConnectSt" x.pantoChrgConnectSt
  acChrgConnectSt := s.pickInt "B2V_ST1_ACChrgConnectSt" x.acChrgConnectSt
  chrgMode := s.pickInt "B2V_ST1_ChrgMode" x.chrgMode
  chrgStatus := s.pickInt "B2V_ST1_ChrgStatus" x.chrgStatus
  heatingStatus := s.pickInt "B2V_ST1_HeatingStatus" x.heatingStatus
  coolingStatus := s.pickInt "B2V_ST1_CoolingStatus" x.coolingStatus
  rechrgCycles := s.pickInt "B2V_ST1_RechrgCycels" x.rechrgCycles
  dcChrgPos1RelaySt := s.pickInt "B2V_ST1_DCChrgPos1RelaySt" x.dcChrgPos1RelaySt
  dcChrgNeg1RelaySt := s.pickInt "B2V_ST1_DCChrgNeg1RelaySt" x.dcChrgNeg1RelaySt
  dcChrgPos2RelaySt := s.pickInt "B2V_ST1_DCChrgPos2RelaySt" x.dcChrgPos2RelaySt
  dcChrgNeg2RelaySt := s.pickInt "B2V_ST1_DCChrgNeg2RelaySt" x.dcChrgNeg2RelaySt
  pantoChrgPosRelaySt := s.pickInt "B2V_ST1_PantoChrgPosRelaySt" x.pantoChrgPosRelaySt
  pantoChrgNegRelaySt := s.pickInt "B2V_ST1_PantoChrgNegRelaySt" x.pantoChrgNegRelaySt
  acChrgPosRelaySt := s.pickInt "B2V_ST1_ACChrgPosRelaySt" x.acChrgPosRelaySt
  acChrgNegRelaySt := s.pickInt "B2V_ST1_ACChrgNegRelaySt" x.acChrgNegRelaySt
  aux1RelaySt := s.pickInt "B2V_ST1_Aux1RelaySt" x.aux1RelaySt
  aux2RelaySt := s.pickInt "B2V_ST1_Aux2RelaySt" x.aux2RelaySt
  aux3RelaySt := s.pickInt "B2V_ST1_Aux3RelaySt" x.aux3RelaySt

/-- A refused current is also set to zero. -/
def updateFromSt2 (s : Signals) (x : St2) : St2 :=
  let faultLevel := s.pickInt "B2V_ST2_FaultLevel" x.faultLevel
  let rqHvPowerOff := s.pickBool "B2V_ST2_RqHVPoerOff" x.rqHvPowerOff
  { soc := s.pickReading "B2V_ST2_SOC" isSocInvalid x.soc
    soh := s.pickReading "B2V_ST2_SOH" isSohInvalid x.soh
    packV := s.pickReading "B2V_ST2_PackInsideVolt" isPackVoltageInvalid x.packV
    packI :=
      match s.num ["B2V_ST2_PackCurrent"] with
      | none => x.packI
      | some v => if isPackCurrentInvalid v then { valid := false, value := 0 }
        else { valid := true, value := v }
    faultLevel := faultLevel
    faultCode := s.pickInt "B2V_ST2_FaultCode" x.faultCode
    rqHvPowerOff := rqHvPowerOff
    alarmAny := decide (faultLevel > 0) || rqHvPowerOff }

def updateFromSt3 (s : Signals) (x : St3) : St3 where
  insPosRes := s.pickReading "B2V_ST3_PosInsRes" isInsResInvalid x.insPosRes
  insNegRes := s.pickReading "B2V_ST3_NegInsRes" isInsResInvalid x.insNegRes
  insSysRes := s.pickReading "B2V_ST3_SysInsRes" isInsResInvalid x.insSysRes
  insDetectorOn := s.pickBool "B2V_ST3_InsDetectorSt" x.insDetectorOn
  insDetectorValid := (s.bool "B2V_ST3_InsDetectorSt").isSome || x.insDetectorValid

def updateFromSt4 (s : Signals) (x : St4) : St4 where
  tempMax := s.pickReading "B2V_ST4_Max_Temp" isTempInvalid x.tempMax
  tempMin := s.pickReading "B2V_ST4_Min_Temp" isTempInvalid x.tempMin
  tempAvg := s.pickReading "B2V_ST4_Avg_Temp" isTempInvalid x.tempAvg
  maxTempPos := s.pickInt "B2V_ST4_MaxTemp_Position" 0
  maxTempPosValid := (s.int ["B2V_ST4_MaxTemp_Position"]).isSome
  minTempPos := s.pickInt "B2V_ST4_MinTemp_Position" 0
  minTempPosValid := (s.int ["B2V_ST4_MinTemp_Position"]).isSome

def updateFromSt5 (s : Signals) (x : St5) : St5 where
  maxUcell := s.pickReading "B2V_ST5_Max_Ucell" isNeverInvalid x.maxUcell
  minUcell := s.pickReading "B2V_ST5_Min_Ucell" isNeverInvalid x.minUcell
  avgUcell := s.pickReading "B2V_ST5_Avg_Ucell" isNeverInvalid x.avgUcell

def updateFromSt6 (s : Signals) (x : St6) : St6 where
  maxUcellCscNo := s.pickInt "B2V_ST6_MaxUcell_CSCNo" x.maxUcellCscNo
  maxUcellPosition := s.pickInt "B2V_ST6_MaxUcell_Position" x.maxUcellPosition
  minUcellCscNo := s.pickInt "B2V_ST6_MinUcell_CSCNo" x.minUcellCscNo
  minUcellPosition := s.pickInt "B2V_ST6_MinUcell_Position" x.minUcellPosition

def updateFromSt7 (s : Signals) (x : St7) : St7 where
  gun1DcPosTemp := s.pickReading "B2V_ST7_Gun1DCPosTemp" isNeverInvalid x.gun1DcPosTemp
  gun1DcNegTemp := s.pickReading "B2V_ST7_Gun1DCNegTemp" isNeverInvalid x.gun1DcNegTemp
  gun2DcPosTemp := s.pickReading "B2V_ST7_Gun2DCPosTemp" isNeverInvalid x.gun2DcPosTemp
  gun2DcNegTemp := s.pickReading "B2V_ST7_Gun2DCNegTemp" isNeverInvalid x.gun2DcNegTemp
  gunAcPosTemp := s.pickReading "B2V_ST7_GunACPosTemp" isNeverInvalid x.gunAcPosTemp
  gunAcNegTemp := s.pickReading "B2V_ST7_GunACNegTemp" isNeverInvalid x.gunAcNegTemp

def updateFromElecEnergy (s : Signals) (x : ElecEnergy) : ElecEnergy where
  totChgEnergy := s.pickReading "B2V_TotChgEnergy" (isEnergyInvalid 20000000) x.totChgEnergy
  totDischgEnergy :=
    s.pickReading "B2V_TotDischgEnergy" (isEnergyInvalid 20000000) x.totDischgEnergy
  singleChgEnergy :=
    s.pickReading "B2V_SingleChgEnergy" (isEnergyInvalid 6553.5) x.singleChgEnergy

def updateFromCurrentLimit (s : Signals) (x : CurrentLimit) : CurrentLimit where
  pulseDischargeLimitA :=
    s.pickReading "B2V_AvailInpulseDischrgCurr" isCurrentLimitInvalid x.pulseDischargeLimitA
  pulseChargeLimitA :=
    s.pickReading "B2V_AvailInpulseChrgCurr" isCurrentLimitInvalid x.pulseChargeLimitA
  followChargeLimitA :=
    s.pickReading "B2V_AvailFollowChrgCurr" isCurrentLimitInvalid x.followChargeLimitA
  chargeLimitA :=
    s.pickReading "B2V_AvailFollowChrgCurr" isCurrentLimitInvalid x.chargeLimitA
  followDischargeLimitA :=
    s.pickReading "B2V_AvailFollowDishrgCurr" isCurrentLimitInvalid x.followDischargeLimitA
  dischargeLimitA :=
    s.pickReading "B2V_AvailFollowDishrgCurr" isCurrentLimitInvalid x.dischargeLimitA

/-- Two fault codes also leave the time they were last seen. -/
def updateFromTm2b (s : Signals) (lastRxMs : Nat) (x : Tm2b) : Tm2b :=
  let faultCode := s.int ["TM2B_FaultCode_A"]
  { workState := (s.int ["T2B_WorkStatus_A", "TM2B_Info_WorkState"]).getD x.workState
    faultCode := faultCode.getD x.faultCode
    panelAirconSeenMs := if faultCode = some 0x03 then lastRxMs else x.panelAirconSeenMs
    atsWaterPumpSeenMs := if faultCode = some 0x1C then lastRxMs else x.atsWaterPumpSeenMs
    faultLevel := (s.int ["TM2B_FaultLevel_A", "TM2B_Info_FaultLevel"]).getD x.faultLevel }

def updateFromFire2b (s : Signals) (x : Fire2b) : Fire2b where
  valueNumber := s.pickInt "Fire_valueNumber" x.valueNumber
  valueAlarmLevel := s.pickInt "Fire_valueAlarmLevel" x.valueAlarmLevel
  byStartSts := s.pickBool "Fire_byStartSts" x.byStartSts
  sensorErrorSts := s.pickBool "Fire_SnerrrorSts" x.sensorErrorSts
  hwErrorSts := s.pickBool "Fire_HwerrrorSts" x.hwErrorSts
  tempSensor1Err := s.pickBool "Fire_byTempSenor1Err" x.tempSensor1Err
  tempSensor2Err := s.pickBool "Fire_byTempSenor2Err" x.tempSensor2Err
  airSensorErr := s.pickBool "Fire_byAirSenorErr" x.airSensorErr
  samSensorErr := s.pickBool "Fire_bySAMSenorErr" x.samSensorErr
  tempAlarm := s.pickBool "Fire_Tmp_alarm" x.tempAlarm
  gasAlarm := s.pickBool "Fire_Gus_alarm" x.gasAlarm
  fogAlarm := s.pickBool "Fire_Fog_alarm" x.fogAlarm
  leakAlarm := s.pickBool "Fire_Leak_alarm" x.leakAlarm
  maxTemp := s.pickReading "Fire_Max_Tmp" isNeverInvalid x.maxTemp
  maxGas := s.pickReading "Fire_Max_Gus" isNeverInvalid x.maxGas
  maxFog := s.pickReading "Fire_Max_Fog" isNeverInvalid x.maxFog

/-! ### Derived state -/

/-- The alarm bits of the extinguisher message. -/
def fireAny (x : Fire2b) : Bool :=
  decide (x.valueAlarmLevel > 0) || x.byStartSts || x.sensorErrorSts || x.hwErrorSts

def rebuildUnifiedRawFaults (x : BmsPerInstanceCache) : RawFaults where
  currentSensorFault := x.fault2.currSensorErr
  lowVoltageSupplyAlarm := x.fault2.powerSupplyErr
  socJumpAlarm := x.fault1.socChangeFast
  fireAlarm := fireAny x.fire2b
  tmsUnitFault :=
    decide (x.tm2b.faultCode ≠ 0) || decide (x.tm2b.faultLevel > 0) || x.fault2.tmsErr
  batterySelfProtectFault := x.fault2.packSelfProtect
  prechargeFault := x.fault2.mainLoopPrechgErr || x.fault2.auxLoopPrechgErr
  chargeInsulationLowAlarm := x.fault2.chrgInsLowErr
  acanCommFault := x.fault2.acanLost
  internalCommFault := x.fault2.innerCommErr
  branchCircuitOpenFault := x.fault2.branchBreakErr
  hvilAlarm := x.fault1.hvilFault
  storageMismatchAlarm := x.fault1.batSysNotMatch
  chargeGunConnectionAbnormal := x.fault2.chrgConnectErr
  chargeDischargeCurrentOverflow := x.fault2.overDischrgCurrWhenInChrg
  chargeCurrentOverflowAlarm := x.fault2.overChrgCurrInTheChrg
  chargeConnectorNtcFault := x.fault2.chrgNtcErr
  chargeConnectorOvertempLvl1 := decide (x.fault2.chrgNtcTempOverLevel = 1)
  chargeConnectorOvertempLvl2 := decide (x.fault2.chrgNtcTempOverLevel ≥ 2)
  internalHvCircuitOpenFault :=
    x.fault2.branchBreakErr || x.fault2.mainPosOpenErr || x.fault2.mainNegOpenErr
  heatRelayOpenFault := x.fault2.heatRelayOpenErr
  heatRelayWeldFault := x.fault2.heatRelayWeldErr
  mainPosRelayOpenFault := x.fault2.mainPosOpenErr
  mainPosRelayWeldFault := x.fault2.mainPosWeldErr
  mainNegRelayOpenFault := x.fault2.mainNegOpenErr
  mainNegRelayWeldFault := x.fault2.mainNegWeldErr
  dcChrgPos1RelayOpenFault := x.fault2.dcChrgPos1OpenErr
  dcChrgPos1RelayWeldFault := x.fault2.dcChrgPos1WeldErr
  dcChrgNeg1RelayOpenFault := x.fault2.dcChrgNeg1OpenErr
  dcChrgNeg1RelayWeldFault := x.fault2.dcChrgNeg1WeldErr
  dcChrgPos2RelayOpenFault := x.fault2.dcChrgPos2OpenErr
  dcChrgPos2RelayWeldFault := x.fault2.dcChrgPos2WeldErr
  dcChrgNeg2RelayOpenFault := x.fault2.dcChrgNeg2OpenErr
  dcChrgNeg2RelayWeldFault := x.fault2.dcChrgNeg2WeldErr
  acChrgPosRelayOpenFault := x.fault2.acChrgPosOpenErr
  acChrgPosRelayWeldFault := x.fault2.acChrgPosWeldErr
  acChrgNegRelayOpenFault := x.fault2.acChrgNegOpenErr
  acChrgNegRelayWeldFault := x.fault2.acChrgNegWeldErr
  pantoChrgPosRelayOpenFault := x.fault2.pantoChrgPosOpenErr
  pantoChrgPosRelayWeldFault := x.fault2.pantoChrgPosWeldErr
  pantoChrgNegRelayOpenFault := x.fault2.pantoChrgNegOpenErr
  pantoChrgNegRelayWeldFault := x.fault2.pantoChrgNegWeldErr

/-- The high-voltage verdict the messages alone give. -/
def calcHvShouldOpen (x : BmsPerInstanceCache) : Bool :=
  x.st2.rqHvPowerOff || decide (x.st2.faultLevel ≥ 2) || decide (x.fireFaultLevel ≥ 2) ||
    x.fault1.hvilFault || x.fault1.overChg || decide (x.fault1.lowInsRes ≥ 3) ||
    x.fault2.packSelfProtect || x.fault2.mainLoopPrechgErr || x.fault2.auxLoopPrechgErr ||
    x.fault2.chrgInsLowErr

/-! ### Intake of one message -/

/-- The chain that sets a group's freshness flag. -/
def onlineGroup (msgName : String) : Option BmsGroup :=
  match msgName with
  | "B2V_ST1" => some .st1
  | "B2V_ST2" => some .st2
  | "B2V_ST3" => some .st3
  | "B2V_ST4" => some .st4
  | "B2V_ST5" => some .st5
  | "B2V_ST6" => some .st6
  | "B2V_ST7" => some .st7
  | "B2V_ElecEnergy" => some .elecEnergy
  | "B2V_CurrentLimit" => some .currentLimit
  | "TM2B_Info" => some .tm2b
  | "Fire2B_Info" => some .fire2b
  | "B2V_Fault1" => some .fault1
  | "B2V_Fault2" => some .fault2
  | _ => none

/-- The chain that picks a handler. -/
def handlerGroup (msgName : String) : Option BmsGroup :=
  match msgName with
  | "B2V_ST1" => some .st1
  | "B2V_ST2" => some .st2
  | "B2V_ST3" => some .st3
  | "B2V_ST4" => some .st4
  | "B2V_ST5" => some .st5
  | "B2V_ST6" => some .st6
  | "B2V_ST7" => some .st7
  | "B2V_ElecEnergy" => some .elecEnergy
  | "B2V_CurrentLimit" => some .currentLimit
  | "TM2B_Info" => some .tm2b
  | "Fire2B_Info" => some .fire2b
  | "B2V_Fault1" => some .fault1
  | "B2V_Fault2" => some .fault2
  | _ => none

/-- The message name inside the full keys a handler reads. -/
def keyMsgName : BmsGroup → String
  | .st1 => "B2V_ST1"
  | .st2 => "B2V_ST2"
  | .st3 => "B2V_ST3"
  | .st4 => "B2V_ST4"
  | .st5 => "B2V_ST5"
  | .st6 => "B2V_ST6"
  | .st7 => "B2V_ST7"
  | .elecEnergy => "B2V_ElecEnergy"
  | .currentLimit => "B2V_CurrentLimit"
  | .tm2b => "TM2B_Info"
  | .fire2b => "Fire2B_state"
  | .fault1 => "B2V_Fault1"
  | .fault2 => "B2V_Fault2"

/-- The handler of a group. -/
def updateGroup (g : BmsGroup) (s : Signals) (x : BmsPerInstanceCache) :
    BmsPerInstanceCache :=
  match g with
  | .st1 => { x with st1 := updateFromSt1 s x.st1 }
  | .st2 => { x with st2 := updateFromSt2 s x.st2 }
  | .st3 => { x with st3 := updateFromSt3 s x.st3 }
  | .st4 => { x with st4 := updateFromSt4 s x.st4 }
  | .st5 => { x with st5 := updateFromSt5 s x.st5 }
  | .st6 => { x with st6 := updateFromSt6 s x.st6 }
  | .st7 => { x with st7 := updateFromSt7 s x.st7 }
  | .elecEnergy => { x with elecEnergy := updateFromElecEnergy s x.elecEnergy }
  | .currentLimit => { x with currentLimit := updateFromCurrentLimit s x.currentLimit }
  | .tm2b => { x with tm2b := updateFromTm2b s x.lastRxMs x.tm2b }
  | .fire2b => { x with fire2b := updateFromFire2b s x.fire2b }
  | .fault1 => { x with fault1 := updateFromFault1 s x.fault1 }
  | .fault2 => { x with fault2 := updateFromFault2 s x.fault2 }

/-- Stamps of any message of the instance. -/
def stamp (d : DeviceData) (msgName : String) (tsMs : Nat) (x : BmsPerInstanceCache) :
    BmsPerInstanceCache :=
  { x with
    seenOnce := true
    lastRxMs := tsMs
    lastOkMs := tsMs
    lastMsgName := msgName
    lastRawHexByGroup :=
      if msgName ≠ "" ∧ parseRawHex d ≠ "" then
        x.lastRawHexByGroup.insert msgName (parseRawHex d)
      else x.lastRawHexByGroup
    lastGroupRxMs :=
      if msgName ≠ "" then x.lastGroupRxMs.insert msgName tsMs else x.lastGroupRxMs }

def markOnline (msgName : String) (x : BmsPerInstanceCache) : BmsPerInstanceCache :=
  match onlineGroup msgName with
  | some g => { x with groupOnline := Function.update x.groupOnline g true }
  | none => x

def handle (d : DeviceData) (msgName : String) (tsMs : Nat) (x : BmsPerInstanceCache) :
    BmsPerInstanceCache :=
  match handlerGroup msgName with
  | some g =>
    let x := updateGroup g (Signals.ofDevice d (keyMsgName g)) x
    { x with lastMs := Function.update x.lastMs g tsMs }
  | none => x

/-- What is recomputed after every message. -/
def finish (x : BmsPerInstanceCache) : BmsPerInstanceCache :=
  { x with
    hvShouldOpen := calcHvShouldOpen x
    hvAllowClose := !calcHvShouldOpen x
    raw := rebuildUnifiedRawFaults x
    offlineReasonCode := if x.offlineReasonCode = 1 then 0 else x.offlineReasonCode
    offlineReasonText := if x.offlineReasonCode = 1 then "None" else x.offlineReasonText }

def receive (d : DeviceData) (tsMs : Nat) (x : BmsPerInstanceCache) : BmsPerInstanceCache :=
  let msgName := parseMsgName d
  finish (handle d msgName tsMs (markOnline msgName (stamp d msgName tsMs x)))

def instanceOf (d : DeviceData) : String := parseInstanceName d (parseInstanceIndex d)

def onDeviceData (d : DeviceData) (tsMs : Nat) (cache : BmsLogicCache) : BmsLogicCache :=
  if ¬ isBmsDevice d then cache
  else
    let x := cache.ensure (instanceOf d) (parseInstanceIndex d)
    cache.set (instanceOf d) (receive d tsMs x)

/-! ### What one message leaves -/

/-- The group a parsed message updates. -/
def groupOf (d : DeviceData) : Option BmsGroup := handlerGroup (parseMsgName d)

theorem onlineGroup_eq_handlerGroup (msgName : String) :
    onlineGroup msgName = handlerGroup msgName := rfl

section UpdateGroup

variable (g : BmsGroup) (s : Signals) (x : BmsPerInstanceCache)

@[simp] theorem updateGroup_lastMs : (updateGroup g s x).lastMs = x.lastMs := by
  cases g <;> rfl

@[simp] theorem updateGroup_groupOnline : (updateGroup g s x).groupOnline = x.groupOnline := by
  cases g <;> rfl

@[simp] theorem updateGroup_online : (updateGroup g s x).online = x.online := by
  cases g <;> rfl

@[simp] theorem updateGroup_seenOnce : (updateGroup g s x).seenOnce = x.seenOnce := by
  cases g <;> rfl

@[simp] theorem updateGroup_lastRxMs : (updateGroup g s x).lastRxMs = x.lastRxMs := by
  cases g <;> rfl

@[simp] theorem updateGroup_runtimeFaultStale :
    (updateGroup g s x).runtimeFaultStale = x.runtimeFaultStale := by
  cases g <;> rfl

@[simp] theorem updateGroup_fireFaultLevel :
    (updateGroup g s x).fireFaultLevel = x.fireFaultLevel := by
  cases g <;> rfl

end UpdateGroup

section Receive

variable (d : DeviceData) (tsMs : Nat) (x : BmsPerInstanceCache)

theorem markOnline_frame (msgName : String) :
    (markOnline msgName x).seenOnce = x.seenOnce ∧ (markOnline msgName x).lastRxMs = x.lastRxMs ∧
      (markOnline msgName x).online = x.online ∧
      (markOnline msgName x).fireFaultLevel = x.fireFaultLevel := by
  rw [markOnline]
  split
  · exact ⟨rfl, rfl, rfl, rfl⟩
  · exact ⟨rfl, rfl, rfl, rfl⟩

theorem handle_frame (msgName : String) :
    (handle d msgName tsMs x).seenOnce = x.seenOnce ∧
      (handle d msgName tsMs x).lastRxMs = x.lastRxMs ∧
      (handle d msgName tsMs x).online = x.online ∧
      (handle d msgName tsMs x).fireFaultLevel = x.fireFaultLevel := by
  rw [handle]
  split
  · exact ⟨updateGroup_seenOnce _ _ _, updateGroup_lastRxMs _ _ _, updateGroup_online _ _ _,
      updateGroup_fireFaultLevel _ _ _⟩
  · exact ⟨rfl, rfl, rfl, rfl⟩

/-- Of these fields a message sets the first two, by its stamp. -/
theorem receive_frame :
    (receive d tsMs x).seenOnce = true ∧ (receive d tsMs x).lastRxMs = tsMs ∧
      (receive d tsMs x).online = x.online ∧
      (receive d tsMs x).fireFaultLevel = x.fireFaultLevel := by
  obtain ⟨h1, h2, h3, h4⟩ := handle_frame d tsMs
    (markOnline (parseMsgName d) (stamp d (parseMsgName d) tsMs x)) (parseMsgName d)
  obtain ⟨k1, k2, k3, k4⟩ := markOnline_frame (stamp d (parseMsgName d) tsMs x) (parseMsgName d)
  exact ⟨h1.trans k1, h2.trans k2, h3.trans k3, h4.trans k4⟩

@[simp] theorem receive_seenOnce : (receive d tsMs x).seenOnce = true :=
  (receive_frame d tsMs x).1

@[simp] theorem receive_lastRxMs : (receive d tsMs x).lastRxMs = tsMs :=
  (receive_frame d tsMs x).2.1

@[simp] theorem receive_online : (receive d tsMs x).online = x.online :=
  (receive_frame d tsMs x).2.2.1

@[simp] theorem receive_fireFaultLevel :
    (receive d tsMs x).fireFaultLevel = x.fireFaultLevel :=
  (receive_frame d tsMs x).2.2.2

theorem markOnline_groupOnline (msgName : String) (g : BmsGroup) :
    (markOnline msgName x).groupOnline g =
      (decide (handlerGroup msgName = some g) || x.groupOnline g) := by
  rw [markOnline, onlineGroup_eq_handlerGroup]
  cases handlerGroup msgName with
  | none => simp
  | some g' =>
    by_cases h : g' = g
    · subst h
      simp
    · simp [h, Function.update_of_ne (Ne.symm h)]

theorem markOnline_lastMs (msgName : String) : (markOnline msgName x).lastMs = x.lastMs := by
  rw [markOnline]
  split <;> rfl

theorem handle_lastMs (msgName : String) (g : BmsGroup) :
    (handle d msgName tsMs x).lastMs g =
      if handlerGroup msgName = some g then tsMs else x.lastMs g := by
  rw [handle]
  cases handlerGroup msgName with
  | none => simp
  | some g' =>
    by_cases h : g' = g
    · subst h
      simp
    · simp [h, Function.update_of_ne (Ne.symm h)]

theorem handle_groupOnline (msgName : String) :
    (handle d msgName tsMs x).groupOnline = x.groupOnline := by
  rw [handle]
  split
  · exact updateGroup_groupOnline _ _ _
  · rfl

theorem receive_lastMs (g : BmsGroup) :
    (receive d tsMs x).lastMs g = if groupOf d = some g then tsMs else x.lastMs g := by
  show (handle d (parseMsgName d) tsMs _).lastMs g = _
  rw [handle_lastMs, markOnline_lastMs]
  rfl

theorem receive_groupOnline (g : BmsGroup) :
    (receive d tsMs x).groupOnline g = (decide (groupOf d = some g) || x.groupOnline g) := by
  show (handle d (parseMsgName d) tsMs _).groupOnline g = _
  rw [handle_groupOnline, markOnline_groupOnline]
  rfl

/-- The verdict is computed from the groups as the message left them. -/
theorem receive_hv :
    (receive d tsMs x).hvShouldOpen = calcHvShouldOpen (receive d tsMs x) ∧
      (receive d tsMs x).hvAllowClose = !(receive d tsMs x).hvShouldOpen :=
  ⟨rfl, rfl⟩

end Receive

/-! ### The cache after one message -/

/-- The message is about the battery of this name. -/
def Addressed (name : String) (d : DeviceData) : Prop :=
  isBmsDevice d = true ∧ instanceOf d = name

instance (name : String) (d : DeviceData) : Decidable (Addressed name d) :=
  inferInstanceAs (Decidable (_ ∧ _))

theorem get_onDeviceData (d : DeviceData) (tsMs : Nat) (cache : BmsLogicCache)
    (name : String) :
    (onDeviceData d tsMs cache).items.get name =
      if Addressed name d then
        some (receive d tsMs (cache.ensure name (parseInstanceIndex d)))
      else cache.items.get name := by
  rw [onDeviceData]
  by_cases hdev : isBmsDevice d = true
  · rw [if_neg (not_not.mpr hdev)]
    show (cache.items.insert (instanceOf d) _).get name = _
    rw [Dict.get_insert]
    by_cases hname : instanceOf d = name
    · subst hname
      rw [if_pos rfl, if_pos ⟨hdev, rfl⟩]
    · rw [if_neg (Ne.symm hname), if_neg fun h : Addressed name d => hname h.2]
  · rw [if_pos hdev, if_neg fun h : Addressed name d => hdev h.1]

theorem ensure_lastMs (cache : BmsLogicCache) (name : String) (index : Nat) (g : BmsGroup) :
    (cache.ensure name index).lastMs g =
      ((cache.items.get name).map fun x => x.lastMs g).getD 0 := by
  rw [BmsLogicCache.ensure]
  cases cache.items.get name <;> rfl

end LogicAdapter
end Bms
end EnergyStorage
