import EnergyStorage.Pcu.Runtime

/-! # The context of the logic layer

What the events leave behind and the ticks read.  The displayed view, the fault pages
and the devices no command depends on are not part of it. -/

namespace EnergyStorage
namespace Logic

open Lib (Dict)
open Pcu (PcuOnlineState)

structure SmokeFaultState where
  seenOnce : Bool := false
  lastRxMs : Nat := 0
  online : Bool := false
  alarmAny : Bool := false
  faultAny : Bool := false
  smokePercent : ℚ := 0
  tempC : ℚ := 0
  smokeAlarm : Bool := false
  tempAlarm : Bool := false
  smokeSensorFault : Bool := false
  smokePollutionFault : Bool := false
  tempSensorFault : Bool := false

structure GasFaultState where
  seenOnce : Bool := false
  lastRxMs : Nat := 0
  online : Bool := false
  alarmAny : Bool := false
  faultAny : Bool := false
  statusCode : Nat := 0
  gasValue : ℚ := 0
  sensorFault : Bool := false
  lowAlarm : Bool := false
  highAlarm : Bool := false

/-! ### The map of the operator panel -/

inductive HmiMapType
  | unknown | boolRead | boolRw | intRead | intRw | u16 | s16 | bit
  deriving DecidableEq, Repr

structure HmiMapItem where
  type : HmiMapType := .unknown
  hasAddr : Bool := false
  addr : Nat := 0
  /-- Registers the variable takes; a coil takes one. -/
  words : Nat := 1
  path : String := ""
  name : String := ""
  valueType : String := ""

/-- The indexes point into `items`. -/
structure HmiMapModel where
  items : List HmiMapItem := []
  rwItems : List Nat := []
  byAddr : Dict Nat (List Nat) := Dict.empty

namespace HmiMapModel

def itemAt (m : HmiMapModel) (idx : Nat) : Option HmiMapItem := m.items[idx]?

def findByAddr (m : HmiMapModel) (addr : Nat) : Option (List Nat) := m.byAddr.get addr

end HmiMapModel

/-! ### What the operator panel has written -/

/-- A button acts when it is released after having been pressed. -/
structure HmiButtonState where
  isDown : Bool := false
  armed : Bool := false
  pressTsMs : Nat := 0
  releaseTsMs : Nat := 0

structure HmiControl where
  hmiSeenOnce : Bool := false
  lastHmiCommTs : Nat := 0
  lastHmiAddr : Nat := 0
  lastHmiValue : Nat := 0
  lastHmiButtonTs : Nat := 0
  lastHmiButtonAddr : Nat := 0
  lastHmiButtonPath : String := ""
  lastHmiButtonName : String := ""
  hmiHvOnRequested : Bool := false
  hmiHvOffRequested : Bool := false
  hmiHvOnRequestTs : Nat := 0
  hmiHvOffRequestTs : Nat := 0
  hmiCoilState : Dict Nat Nat := Dict.empty
  hmiRegState : Dict Nat Nat := Dict.empty
  hmiParamValues : Dict String Int := Dict.empty
  hmiParamAddr : Dict String Nat := Dict.empty
  hmiParamName : Dict String String := Dict.empty
  hmiParamTs : Dict String Nat := Dict.empty
  lastHmiParamTs : Nat := 0
  lastHmiParamAddr : Nat := 0
  lastHmiParamValue : Nat := 0
  lastHmiParamPath : String := ""
  lastHmiParamName : String := ""
  hmiButtonStates : Dict Nat HmiButtonState := Dict.empty

structure LogicContext where
  lastEventTs : Nat := 0
  bmsCache : Bms.BmsLogicCache := {}
  pcu0State : PcuOnlineState := {}
  pcu1State : PcuOnlineState := {}
  /-- Present once the map has been loaded. -/
  hmiMap : Option HmiMapModel := none
  smokeFaults : SmokeFaultState := {}
  gasFaults : GasFaultState := {}
  systemEstop : Bool := false
  lastIoTs : Nat := 0
  /-- Channel `n` is bit `n - 1`. -/
  diBits : BitVec 64 := 0
  /-- The voltage of channel `n` is entry `n - 1`. -/
  ai : List ℚ := []
  hmi : HmiControl := {}
  remoteSeenOnce : Bool := false
  lastRemoteRxTs : Nat := 0

end Logic
end EnergyStorage
