import EnergyStorage.Lib.Dict
import Mathlib.Data.Rat.Init

/-! # The control-side cache of one battery

One record per message group, so that what a message may touch is visible in its
type, and one record for the unified faults the adapter derives from all groups. -/

namespace EnergyStorage
namespace Bms

open Lib (Dict)

/-- The message groups with a handler, a freshness flag and a time stamp. -/
inductive BmsGroup
  | st1 | st2 | st3 | st4 | st5 | st6 | st7
  | elecEnergy | currentLimit | tm2b | fire2b | fault1 | fault2
  deriving DecidableEq, Repr

/-- A measurement and its `_valid` flag. -/
structure Reading where
  valid : Bool := false
  value : ℚ := 0
  deriving DecidableEq

structure St1 where
  mainPosRelaySt : Int := 0
  mainNegRelaySt : Int := 0
  prechrgRelaySt : Int := 0
  dcChrgPos1RelaySt : Int := 0
  dcChrgNeg1RelaySt : Int := 0
  dcChrgPos2RelaySt : Int := 0
  dcChrgNeg2RelaySt : Int := 0
  heatPosRelaySt : Int := 0
  heatNegRelaySt : Int := 0
  pantoChrgPosRelaySt : Int := 0
  pantoChrgNegRelaySt : Int := 0
  acChrgPosRelaySt : Int := 0
  acChrgNegRelaySt : Int := 0
  aux1RelaySt : Int := 0
  aux2RelaySt : Int := 0
  aux3RelaySt : Int := 0
  bmsHvStatus : Int := 0
  balanceStatus : Int := 0
  dcChrgConnectSt : Int := 0
  pantoChrgConnectSt : Int := 0
  acChrgConnectSt : Int := 0
  chrgMode : Int := 0
  chrgStatus : Int := 0
  heatingStatus : Int := 0
  coolingStatus : Int := 0
  rechrgCycles : Int := 0

structure St2 where
  soc : Reading := {}
  soh : Reading := {}
  packV : Reading := {}
  packI : Reading := {}
  faultLevel : Int := 0
  faultCode : Int := 0
  rqHvPowerOff : Bool := false
  alarmAny : Bool := false

structure St3 where
  insPosRes : Reading := {}
  insNegRes : Reading := {}
  insSysRes : Reading := {}
  insDetectorValid : Bool := false
  insDetectorOn : Bool := false

structure St4 where
  tempMax : Reading := {}
  tempMin : Reading := {}
  tempAvg : Reading := {}
  maxTempPosValid : Bool := false
  maxTempPos : Int := 0
  minTempPosValid : Bool := false
  minTempPos : Int := 0

structure St5 where
  maxUcell : Reading := {}
  minUcell : Reading := {}
  avgUcell : Reading := {}

structure St6 where
  maxUcellCscNo : Int := 0
  maxUcellPosition : Int := 0
  minUcellCscNo : Int := 0
  minUcellPosition : Int := 0

structure St7 where
  gun1DcPosTemp : Reading := {}
  gun1DcNegTemp : Reading := {}
  gun2DcPosTemp : Reading := {}
  gun2DcNegTemp : Reading := {}
  gunAcPosTemp : Reading := {}
  gunAcNegTemp : Reading := {}

structure ElecEnergy where
  totChgEnergy : Reading := {}
  totDischgEnergy : Reading := {}
  singleChgEnergy : Reading := {}

structure CurrentLimit where
  pulseDischargeLimitA : Reading := {}
  pulseChargeLimitA : Reading := {}
  followChargeLimitA : Reading := {}
  followDischargeLimitA : Reading := {}
  /-- Older names of the two follow limits, kept for the command layer. -/
  chargeLimitA : Reading := {}
  dischargeLimitA : Reading := {}

structure Tm2b where
  workState : Int := 0
  faultCode : Int := 0
  faultLevel : Int := 0
  panelAirconSeenMs : Nat := 0
  atsWaterPumpSeenMs : Nat := 0

structure Fire2b where
  valueNumber : Int := 0
  valueAlarmLevel : Int := 0
  byStartSts : Bool := false
  sensorErrorSts : Bool := false
  hwErrorSts : Bool := false
  tempSensor1Err : Bool := false
  tempSensor2Err : Bool := false
  airSensorErr : Bool := false
  samSensorErr : Bool := false
  tempAlarm : Bool := false
  gasAlarm : Bool := false
  fogAlarm : Bool := false
  leakAlarm : Bool := false
  maxTemp : Reading := {}
  maxGas : Reading := {}
  maxFog : Reading := {}
  deriving DecidableEq

structure Fault1 where
  delTemp : Int := 0
  overTemp : Int := 0
  overUcell : Int := 0
  lowUcell : Int := 0
  packOverHvolt : Int := 0
  packLowHvolt : Int := 0
  lowSoc : Int := 0
  lowInsRes : Int := 0
  ucellUniformity : Bool := false
  overChg : Bool := false
  overSoc : Bool := false
  socChangeFast : Bool := false
  batSysNotMatch : Bool := false
  hvilFault : Bool := false
  faultNum : Int := 0

structure Fault2 where
  cellOverDischrg : Bool := false
  cellLowTemp : Bool := false
  packFireWarning : Bool := false
  overDischrgCurrLevel : Int := 0
  overChrgCurrInDriveLevel : Int := 0
  currSensorErr : Bool := false
  powerSupplyErr : Bool := false
  socDifferErr : Bool := false
  tmsErr : Bool := false
  packSelfProtect : Bool := false
  mainLoopPrechgErr : Bool := false
  auxLoopPrechgErr : Bool := false
  chrgInsLowErr : Bool := false
  chrgConnectErr : Bool := false
  overDischrgCurrWhenInChrg : Bool := false
  overChrgCurrInTheChrg : Bool := false
  chrgNtcErr : Bool := false
  chrgNtcTempOverLevel : Int := 0
  acanLost : Bool := false
  innerCommErr : Bool := false
  dcdcErr : Bool := false
  branchBreakErr : Bool := false
  heatRelayOpenErr : Bool := false
  heatRelayWeldErr : Bool := false
  mainPosOpenErr : Bool := false
  mainPosWeldErr : Bool := false
  mainNegOpenErr : Bool := false
  mainNegWeldErr : Bool := false
  dcChrgPos1OpenErr : Bool := false
  dcChrgPos1WeldErr : Bool := false
  dcChrgNeg1OpenErr : Bool := false
  dcChrgNeg1WeldErr : Bool := false
  dcChrgPos2OpenErr : Bool := false
  dcChrgPos2WeldErr : Bool := false
  dcChrgNeg2OpenErr : Bool := false
  dcChrgNeg2WeldErr : Bool := false
  acChrgPosOpenErr : Bool := false
  acChrgPosWeldErr : Bool := false
  acChrgNegOpenErr : Bool := false
  acChrgNegWeldErr : Bool := false
  pantoChrgPosOpenErr : Bool := false
  pantoChrgPosWeldErr : Bool := false
  pantoChrgNegOpenErr : Bool := false
  pantoChrgNegWeldErr : Bool := false

/-- The unified faults, rebuilt from the groups after every message. -/
structure RawFaults where
  fireAlarm : Bool := false
  currentSensorFault : Bool := false
  lowVoltageSupplyAlarm : Bool := false
  socJumpAlarm : Bool := false
  tmsUnitFault : Bool := false
  batterySelfProtectFault : Bool := false
  prechargeFault : Bool := false
  chargeInsulationLowAlarm : Bool := false
  acanCommFault : Bool := false
  internalCommFault : Bool := false
  branchCircuitOpenFault : Bool := false
  hvilAlarm : Bool := false
  storageMismatchAlarm : Bool := false
  chargeGunConnectionAbnormal : Bool := false
  chargeDischargeCurrentOverflow : Bool := false
  chargeCurrentOverflowAlarm : Bool := false
  chargeConnectorNtcFault : Bool := false
  chargeConnectorOvertempLvl1 : Bool := false
  chargeConnectorOvertempLvl2 : Bool := false
  internalHvCircuitOpenFault : Bool := false
  heatRelayOpenFault : Bool := false
  heatRelayWeldFault : Bool := false
  mainPosRelayOpenFault : Bool := false
  mainPosRelayWeldFault : Bool := false
  mainNegRelayOpenFault : Bool := false
  mainNegRelayWeldFault : Bool := false
  dcChrgPos1RelayOpenFault : Bool := false
  dcChrgPos1RelayWeldFault : Bool := false
  dcChrgNeg1RelayOpenFault : Bool := false
  dcChrgNeg1RelayWeldFault : Bool := false
  dcChrgPos2RelayOpenFault : Bool := false
  dcChrgPos2RelayWeldFault : Bool := false
  dcChrgNeg2RelayOpenFault : Bool := false
  dcChrgNeg2RelayWeldFault : Bool := false
  acChrgPosRelayOpenFault : Bool := false
  acChrgPosRelayWeldFault : Bool := false
  acChrgNegRelayOpenFault : Bool := false
  acChrgNegRelayWeldFault : Bool := false
  pantoChrgPosRelayOpenFault : Bool := false
  pantoChrgPosRelayWeldFault : Bool := false
  pantoChrgNegRelayOpenFault : Bool := false
  pantoChrgNegRelayWeldFault : Bool := false

structure BmsPerInstanceCache where
  bmsIndex : Nat := 0
  instanceName : String := ""
  lastMsgName : String := ""
  lastRawHexByGroup : Dict String String := Dict.empty
  seenOnce : Bool := false
  online : Bool := false
  runtimeFaultStale : Bool := false
  disconnectWindowMs : Nat := 3000
  lastRxMs : Nat := 0
  lastOkMs : Nat := 0
  lastOnlineChangeMs : Nat := 0
  lastOfflineMs : Nat := 0
  disconnectCount : Nat := 0
  /-- `0` none, `1` no data yet, `2` receive timeout. -/
  offlineReasonCode : Int := 0
  offlineReasonText : String := ""
  lastGroupRxMs : Dict String Nat := Dict.empty
  /-- The `last_<group>_ms` stamps, `0` while nothing has come. -/
  lastMs : BmsGroup → Nat := fun _ => 0
  groupOnline : BmsGroup → Bool := fun _ => false
  ageMs : BmsGroup → ℚ := fun _ => 0
  st1 : St1 := {}
  st2 : St2 := {}
  st3 : St3 := {}
  st4 : St4 := {}
  st5 : St5 := {}
  st6 : St6 := {}
  st7 : St7 := {}
  elecEnergy : ElecEnergy := {}
  currentLimit : CurrentLimit := {}
  tm2b : Tm2b := {}
  fire2b : Fire2b := {}
  /-- Kept for the command layer. -/
  fireFaultLevel : Int := 0
  fireFaultCode : Int := 0
  fault1 : Fault1 := {}
  fault2 : Fault2 := {}
  hvAllowClose : Bool := true
  hvShouldOpen : Bool := false
  raw : RawFaults := {}

structure BmsLogicCache where
  items : Dict String BmsPerInstanceCache := Dict.empty

namespace BmsLogicCache

/-- The entry of an instance, made on first use. -/
def ensure (cache : BmsLogicCache) (instanceName : String) (index : Nat) :
    BmsPerInstanceCache :=
  let x := (cache.items.get instanceName).getD {}
  { x with
    bmsIndex := if x.bmsIndex = 0 ∧ index ≠ 0 then index else x.bmsIndex
    instanceName := if x.instanceName = "" then instanceName else x.instanceName }

def set (cache : BmsLogicCache) (instanceName : String) (x : BmsPerInstanceCache) :
    BmsLogicCache :=
  { cache with items := cache.items.insert instanceName x }

end BmsLogicCache
end Bms
end EnergyStorage
