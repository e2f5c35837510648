import EnergyStorage.Lib.BitField
import Mathlib.Data.Rat.Init

/-! # The generated protocol table

The messages and signals of the BMS protocol as the generated table lists them,
with the columns the program reads: where a signal lies, how its raw code is
scaled, its range, and the texts of its marked codes. -/

namespace EnergyStorage
namespace Bms

structure SignalDef where
  name : String
  startbitLsb : Nat
  length : Nat
  factor : ℚ
  offset : ℚ
  min : ℚ
  max : ℚ
  /-- Raw codes with a text of their own. -/
  enums : List (Nat × String)
  /-- A signal lies inside the eight data bytes. -/
  fits : 0 < length ∧ length < 64 ∧ startbitLsb + length ≤ 64 := by decide
  deriving DecidableEq

theorem byte_fits : 0 < 8 ∧ 8 < 64 ∧ 0 + 8 ≤ 64 := by decide

theorem word_fits : 0 < 16 ∧ 16 < 64 ∧ 0 + 16 ≤ 64 := by decide

structure MessageDef where
  name : String
  id : BitVec 32
  dlc : Nat
  /-- `0` Intel, `1` Motorola. -/
  byteOrder : Nat
  cycleMs : Int
  sender : String
  receiver : String
  signals : List SignalDef
  deriving DecidableEq

def kSignalsV2BCMD : List SignalDef :=
  [ .mk "V2B_CMD_LifeSignal" 0 8 1 0 0 255
      [(255, "Signal Invalid")],
    .mk "V2B_CMD_HV_OnOff" 8 2 1 0 0 3
      [(0, "Reserved"), (1, "PowerOn"), (2, "PowerOff"), (3, "Invalid")],
    .mk "V2B_CMD_Aux1OnOff" 10 2 1 0 0 3
      [(0, "Reserved"), (1, "PowerOn"), (2, "PowerOff"), (3, "Invalid")],
    .mk "V2B_CMD_Aux2OnOff" 12 2 1 0 0 3
      [(0, "Reserved"), (1, "PowerOn"), (2, "PowerOff"), (3, "Invalid")],
    .mk "V2B_CMD_Aux3OnOff" 14 2 1 0 0 3
      [(0, "Reserved"), (1, "PowerOn"), (2, "PowerOff"), (3, "Invalid")],
    .mk "V2B_CMD_VehicleSpeed" 16 8 1 0 0 255 [],
    .mk "V2B_CMD_MainPosRelayST" 24 2 1 0 0 3
      [(0, "Reserved"), (1, "Opened"), (2, "Closed")],
    .mk "V2B_CMD_MainPosRelayFlt" 26 2 1 0 0 3
      [(0, "Normal"), (1, "Weld"), (2, "Opened Fault")],
    .mk "V2B_CMD_MainNegRelayST" 28 2 1 0 0 3
      [(0, "Reserved"), (1, "Opened"), (2, "Closed")],
    .mk "V2B_CMD_MainNegRelayFlt" 30 2 1 0 0 3
      [(0, "Normal"), (1, "Weld"), (2, "Opened Fault")],
    .mk "V2B_CMD_ChrgPosRelayST" 32 2 1 0 0 3
      [(0, "Reserved"), (1, "Opened"), (2, "Closed")],
    .mk "V2B_CMD_ChrgPosRelayFlt" 34 2 1 0 0 3
      [(0, "Normal"), (1, "Weld"), (2, "Opened Fault")],
    .mk "V2B_CMD_HeatPosRelayST" 36 2 1 0 0 3
      [(0, "Reserved"), (1, "Opened"), (2, "Closed")],
    .mk "V2B_CMD_HeatPosRelayFlt" 38 2 1 0 0 3
      [(0, "Normal"), (1, "Weld"), (2, "Opened Fault")],
    .mk "V2B_CMD_HeatNegRelayST" 40 2 1 0 0 3
      [(0, "Reserved"), (1, "Opened"), (2, "Closed")],
    .mk "V2B_CMD_HeatNegRelayFlt" 42 2 1 0 0 3
      [(0, "Normal"), (1, "Weld"), (2, "Opened Fault")],
    .mk "V2B_CMD_Aux1RelayST" 44 2 1 0 0 3
      [(0, "Reserved"), (1, "Opened"), (2, "Closed")],
    .mk "V2B_CMD_Aux1RelayFlt" 46 2 1 0 0 3
      [(0, "Normal"), (1, "Weld"), (2, "Opened Fault")],
    .mk "V2B_CMD_Aux2RelayST" 48 2 1 0 0 3
      [(0, "Reserved"), (1, "Opened"), (2, "Closed")],
    .mk "V2B_CMD_Aux2RelayFlt" 50 2 1 0 0 3
      [(0, "Normal"), (1, "Weld"), (2, "Opened Fault")],
    .mk "V2B_CMD_Aux3RelayST" 52 2 1 0 0 3
      [(0, "Reserved"), (1, "Opened"), (2, "Closed")],
    .mk "V2B_CMD_Aux3RelayFlt" 54 2 1 0 0 3
      [(0, "Normal"), (1, "Weld"), (2, "Opened Fault")],
    .mk "V2B_CMD_Aux4RelayST" 56 2 1 0 0 3
      [(0, "Reserved"), (1, "Opened"), (2, "Closed")],
    .mk "V2B_CMD_Aux4RelayFlt" 58 2 1 0 0 3
      [(0, "Normal"), (1, "Weld"), (2, "Opened Fault")],
    .mk "V2B_CMD_Reserved1" 60 2 1 0 0 3 [],
    .mk "V2B_CMD_Reserved2" 62 2 1 0 0 3 [] ]

def kSignalsB2VFult132960 : List SignalDef :=
  [ .mk "Reserved" 0 2 1 0 0 3 [],
    .mk "B2V_Fult1_DelTemp" 2 2 1 0 0 3
      [(0, "Normal"), (1, "Level 1-Light fault"), (3, "Level3-Most severe fault")],
    .mk "B2V_Fult1_OverTemp" 4 2 1 0 0 3
      [(0, "Normal"), (1, "Level 1-Light fault"), (3, "Level3-Most severe fault")],
    .mk "B2V_Fult1_PackOverHVolt" 6 2 1 0 0 3
      [(0, "Normal"), (1, "Level 1-Light fault"), (3, "Level3-Most severe fault")],
    .mk "B2V_Fult1_PackLowHVolt" 8 2 1 0 0 3
      [(0, "Normal"), (1, "Level 1-Light fault"), (3, "Level3-Most severe fault")],
    .mk "B2V_Fult1_LowSOC" 10 2 1 0 0 3
      [(0, "Normal"), (1, "Level 1-Light fault"), (3, "Level3-Most severe fault")],
    .mk "B2V_Fult1_OverUcell" 12 2 1 0 0 3
      [(0, "Normal"), (1, "Level 1-Light fault"), (3, "Level3-Most severe fault")],
    .mk "B2V_Fult1_LowUcell" 14 2 1 0 0 3
      [(0, "Normal"), (1, "Level 1-Light fault"), (3, "Level3-Most severe fault")],
    .mk "B2V_Fult1_LowInsRes" 16 2 1 0 0 3
      [(0, "Normal"), (1, "Level 1-Light fault"), (3, "Level3-Most severe fault")],
    .mk "B2V_Fult1_UcellUniformity" 18 2 1 0 0 3
      [(0, "Normal"), (1, "Fault")],
    .mk "B2V_Fult1_OverChg" 20 2 1 0 0 3
      [(0, "Normal"), (1, "Fault")],
    .mk "B2V_Fult1_OverSOC" 22 2 1 0 0 3
      [(0, "Normal"), (1, "Fault")],
    .mk "B2V_Fult1_SOCChangeFast" 24 1 1 0 0 1
      [(0, "Normal"), (1, "Fault")],
    .mk "B2V_Fult1_BatSysNotMatch" 25 1 1 0 0 1
      [(0, "Normal"), (1, "Fault")],
    .mk "B2V_Fult1_HVILFault" 26 1 1 0 0 1
      [(0, "Normal"), (1, "Fault")],
    .mk "B2V_Fult1_FaultNum_32960" 27 5 1 0 0 31 [],
    .mk "Reserved" 32 32 1 0 0 4000000000 [] ]

def kSignalsB2VFult2 : List SignalDef :=
  [ .mk "B2V_Fult2_FaultNum" 0 8 1 0 0 255 [],
    .mk "B2V_Fult2_CellOverDischrg" 8 1 1 0 0 1
      [(0, "Normal"), (1, "Fault")],
    .mk "B2V_Fult2_CellLowTemp" 9 1 1 0 0 1
      [(0, "Normal"), (1, "Fault")],
    .mk "B2V_Fult2_PackFireWarning" 10 1 1 0 0 1
      [(0, "Normal"), (1, "Fault")],
    .mk "B2V_Fult2_OverDischrgCurr" 11 2 1 0 0 3
      [(0, "Normal"), (1, "Level 1-Light fault"), (3, "Level3-Most severe fault")],
    .mk "B2V_Fult2_OverChrgCurrInTheDrive" 13 2 1 0 0 3
      [(0, "Normal"), (1, "Level 1-Light fault"), (3, "Level3-Most severe fault")],
    .mk "B2V_Fult2_CurrSensorErr" 15 1 1 0 0 1
      [(0, "Normal"), (1, "Fault")],
    .mk "B2V_Fult2_PowerSupplyErr" 16 1 1 0 0 1
      [(0, "Normal"), (1, "Fault")],
    .mk "B2V_Fult2_TMSErr" 17 1 1 0 0 1
      [(0, "Normal"), (1, "Fault")],
    .mk "B2V_Fult2_HeatungFilmErr" 18 1 1 0 0 1
      [(0, "Normal"), (1, "Fault")],
    .mk "B2V_Fult2_PackSelfProtect" 19 1 1 0 0 1
      [(0, "Normal"), (1, "Fault")],
    .mk "B2V_Fult2_MainLoopPrechrgErr" 20 1 1 0 0 1
      [(0, "Normal"), (1, "Fault")],
    .mk "B2V_Fult2_AuxLoopPrechrgErr" 21 1 1 0 0 1
      [(0, "Normal"), (1, "Fault")],
    .mk "B2V_Fult2_ChrgInsLowErr" 22 1 1 0 0 1
      [(0, "Normal"), (1, "Fault")],
    .mk "B2V_Fult2_ACANLost" 23 1 1 0 0 1
      [(0, "Normal"), (1, "Fault")],
    .mk "B2V_Fult2_InnerCommunicationErr" 24 1 1 0 0 1
      [(0, "Normal"), (1, "Fault")],
    .mk "B2V_Fult2_DCDCErr" 25 1 1 0 0 1
      [(0, "Normal"), (1, "Fault")],
    .mk "B2V_Fult2_BranchBreakErr" 26 1 1 0 0 1
      [(0, "Normal"), (1, "Fault")],
    .mk "B2V_Fult2_HeatRelayOpenErr" 27 1 1 0 0 1
      [(0, "Normal"), (1, "Fault")],
    .mk "B2V_Fult2_HeatRelayWeldErr" 28 1 1 0 0 1
      [(0, "Normal"), (1, "Fault")],
    .mk "B2V_Fult2_MainPosRelayOpenErr" 29 1 1 0 0 1
      [(0, "Normal"), (1, "Fault")],
    .mk "B2V_Fult2_MainPosRelayWeldErr" 30 1 1 0 0 1
      [(0, "Normal"), (1, "Fault")],
    .mk "B2V_Fult2_MainNegRelayOpenErr" 31 1 1 0 0 1
      [(0, "Normal"), (1, "Fault")],
    .mk "B2V_Fult2_MainNegRelayWeldErr" 32 1 1 0 0 1
      [(0, "Normal"), (1, "Fault")],
    .mk "B2V_Fult2_DCChrgPos1RelayOpenErr" 33 1 1 0 0 1
      [(0, "Normal"), (1, "Fault")],
    .mk "B2V_Fult2_DCChrgPos1RelayWeldErr" 34 1 1 0 0 1
      [(0, "Normal"), (1, "Fault")],
    .mk "B2V_Fult2_DCChrgNeg1RelayOpenErr" 35 1 1 0 0 1
      [(0, "Normal"), (1, "Fault")],
    .mk "B2V_Fult2_DCChrgNeg1RelayWeldErr" 36 1 1 0 0 1
      [(0, "Normal"), (1, "Fault")],
    .mk "B2V_Fult2_DCChrgPos2RelayOpenErr" 37 1 1 0 0 1
      [(0, "Normal"), (1, "Fault")],
    .mk "B2V_Fult2_DCChrgPos2RelayWeldErr" 38 1 1 0 0 1
      [(0, "Normal"), (1, "Fault")],
    .mk "B2V_Fult2_DCChrgNeg2RelayOpenErr" 39 1 1 0 0 1
      [(0, "Normal"), (1, "Fault")],
    .mk "B2V_Fult2_DCChrgNeg2RelayWeldErr" 40 1 1 0 0 1
      [(0, "Normal"), (1, "Fault")],
    .mk "B2V_Fult2_ACChrgPosRelayOpenErr" 41 1 1 0 0 1
      [(0, "Normal"), (1, "Fault")],
    .mk "B2V_Fult2_ACChrgPosRelayWeldErr" 42 1 1 0 0 1
      [(0, "Normal"), (1, "Fault")],
    .mk "B2V_Fult2_ACChrgNegRelayOpenErr" 43 1 1 0 0 1
      [(0, "Normal"), (1, "Fault")],
    .mk "B2V_Fult2_ACChrgNegRelayWeldErr" 44 1 1 0 0 1
      [(0, "Normal"), (1, "Fault")],
    .mk "B2V_Fult2_PantoChrgPosRelayOpenErr" 45 1 1 0 0 1
      [(0, "Normal"), (1, "Fault")],
    .mk "B2V_Fult2_PantoChrgPosRelayWeldErr" 46 1 1 0 0 1
      [(0, "Normal"), (1, "Fault")],
    .mk "B2V_Fult2_PantoChrgNegRelayOpenErr" 47 1 1 0 0 1
      [(0, "Normal"), (1, "Fault")],
    .mk "B2V_Fult2_PantoChrgNegRelayWeldErr" 48 1 1 0 0 1
      [(0, "Normal"), (1, "Fault")],
    .mk "B2V_Fult2_ChrgConnectErr" 49 1 1 0 0 1
      [(0, "Normal"), (1, "Fault")],
    .mk "B2V_Fult2_OverDischrgCurrWhenInChrg" 50 1 1 0 0 1
      [(0, "Normal"), (1, "Fault")],
    .mk "B2V_Fult2_OverChrgCurrInTheChrg" 51 1 1 0 0 1
      [(0, "Normal"), (1, "Fault")],
    .mk "B2V_Fult2_ChrgNTCErr" 52 1 1 0 0 1
      [(0, "Normal"), (1, "Fault")],
    .mk "B2V_Fult2_ChrgNTCTempOver" 53 2 1 0 0 3
      [(0, "Normal"), (1, "Level 1-Light fault"), (3, "Level3-Most severe fault")],
    .mk "B2V_Fult2_ELockErr" 55 1 1 0 0 1
      [(0, "Normal"), (1, "Fault")],
    .mk "B2V_Fult2_FireDetectorErr" 56 1 1 0 0 1
      [(0, "Normal"), (1, "Fault")],
    .mk "B2V_Fult2_ContiChrgCurrOverLoad" 57 2 1 0 0 3
      [(0, "Normal"), (1, "Level 1-Light fault"), (3, "Level3-Most severe fault")],
    .mk "B2V_Fult2_SOCDifferErr" 59 1 1 0 0 1
      [(0, "Normal"), (1, "Fault")],
    .mk "B2V_Fult2_ContiDischrgCurrOverLoad" 60 2 1 0 0 3
      [(0, "Normal"), (1, "Level 1-Light fault"), (3, "Level3-Most severe fault")],
    .mk "B2V_Fult2_Reserved1" 62 1 1 0 0 1 [],
    .mk "B2V_Fult2_Reserved2" 63 1 1 0 0 1 [] ]

def kSignalsB2VST1 : List SignalDef :=
  [ .mk "B2V_ST1_MainPosRelaySt" 0 2 1 0 0 3
      [(0, "Reserved"), (1, "Open"), (2, "Closed")],
    .mk "B2V_ST1_MainNegRelaySt" 2 2 1 0 0 3
      [(0, "Reserved"), (1, "Open"), (2, "Closed")],
    .mk "B2V_ST1_PrechrgRelaySt" 4 2 1 0 0 3
      [(0, "Reserved"), (1, "Open"), (2, "Closed")],
    .mk "B2V_ST1_DCChrgPos1RelaySt" 6 2 1 0 0 3
      [(0, "Reserved"), (1, "Open"), (2, "Closed")],
    .mk "B2V_ST1_DCChrgNeg1RelaySt" 8 2 1 0 0 3
      [(0, "Reserved"), (1, "Open"), (2, "Closed")],
    .mk "B2V_ST1_DCChrgPos2RelaySt" 10 2 1 0 0 3
      [(0, "Reserved"), (1, "Open"), (2, "Closed")],
    .mk "B2V_ST1_DCChrgNeg2RelaySt" 12 2 1 0 0 3
      [(0, "Reserved"), (1, "Open"), (2, "Closed")],
    .mk "B2V_ST1_HeatPosRelaySt" 14 2 1 0 0 3
      [(0, "Reserved"), (1, "Open"), (2, "Closed")],
    .mk "B2V_ST1_HeatNegRelaySt" 16 2 1 0 0 3
      [(0, "Reserved"), (1, "Open"), (2, "Closed")],
    .mk "B2V_ST1_PantoChrgPosRelaySt" 18 2 1 0 0 3
      [(0, "Reserved"), (1, "Open"), (2, "Closed")],
    .mk "B2V_ST1_PantoChrgNegRelaySt" 20 2 1 0 0 3
      [(0, "Reserved"), (1, "Open"), (2, "Closed")],
    .mk "B2V_ST1_ACChrgPosRelaySt" 22 2 1 0 0 3
      [(0, "Reserved"), (1, "Open"), (2, "Closed")],
    .mk "B2V_ST1_ACChrgNegRelaySt" 24 2 1 0 0 3
      [(0, "Reserved"), (1, "Open"), (2, "Closed")],
    .mk "B2V_ST1_Aux1RelaySt" 26 2 1 0 0 3
      [(0, "Reserved"), (1, "Open"), (2, "Closed")],
    .mk "B2V_ST1_Aux2RelaySt" 28 2 1 0 0 3
      [(0, "Reserved"), (1, "Open"), (2, "Closed")],
    .mk "B2V_ST1_Aux3RelaySt" 30 2 1 0 0 3
      [(0, "Reserved"), (1, "Open"), (2, "Closed")],
    .mk "B2V_ST1_BMS_HVStatus" 32 2 1 0 0 3
      [(0, "HV open"), (1, "Precharge or Precheck"), (3, "Fail to HV on")],
    .mk "B2V_ST1_BMS_BalanceStatus" 34 1 1 0 0 1
      [(0, "No Balancing"), (1, "Balancing")],
    .mk "B2V_ST1_DCChrgConnectSt" 35 2 1 0 0 3
      [(0, "Not connected"), (1, "single gun connect"), (2, "double gun connect"),
       (3, "Invalid")],
    .mk "B2V_ST1_PantoChrgConnectSt" 37 1 1 0 0 1
      [(0, "Not connected"), (1, "Connected")],
    .mk "B2V_ST1_ACChrgConnectSt" 38 1 1 0 0 1
      [(0, "Not connected"), (1, "Connected")],
    .mk "B2V_ST1_ChrgMode" 39 2 1 0 0 3
      [(0, "Notcharging"), (1, "DC charging"), (3, "Other charging")],
    .mk "B2V_ST1_ChrgStatus" 41 2 1 0 0 3
      [(0, "not charging"), (1, "Charging"), (3, "Charge error")],
    .mk "B2V_ST1_HeatingStatus" 43 1 1 0 0 1
      [(0, "not heat"), (1, "heating")],
    .mk "B2V_ST1_CoolingStatus" 44 2 1 0 0 3
      [(0, "not cooling"), (1, "cooling")],
    .mk "B2V_ST1_RechrgCycels" 46 18 1 0 0 65535 [] ]

def kSignalsB2VST2 : List SignalDef :=
  [ .mk "B2V_ST2_SOC" 0 8 0.4 0 0 100
      [(255, "Signal Invalid")],
    .mk "B2V_ST2_SOH" 8 8 0.4 0 0 100
      [(255, "Signal Invalid")],
    .mk "B2V_ST2_PackCurrent" 16 16 0.1 (-1000) (-1000) 1000
      [(65535, "Signal Invalid")],
    .mk "B2V_ST2_PackInsideVolt" 32 16 0.1 0 0 65535
      [(65535, "Signal Invalid")],
    .mk "B2V_ST2_FaultCode" 48 8 1 0 0 255
      [(255, "Signal Invalid")],
    .mk "B2V_ST2_FaultLevel" 56 3 1 0 0 7
      [(0, "Normal"), (1, "Level 1-Light fault"), (3, "Level3-Most severe fault")],
    .mk "B2V_ST2_RqHVPoerOff" 59 1 1 0 0 1
      [(0, "not require power off"), (1, "require power off")],
    .mk "B2V_ST2_Life" 60 4 1 0 0 15
      [(15, "Signal Invalid")] ]

def kSignalsB2VST3 : List SignalDef :=
  [ .mk "B2V_ST3_PosInsRes" 0 16 1 0 0 60000
      [(65535, "Signal Invalid")],
    .mk "B2V_ST3_NegInsRes" 16 16 1 0 0 60000
      [(65535, "Signal Invalid")],
    .mk "B2V_ST3_SysInsRes" 32 16 1 0 0 60000
      [(65535, "Signal Invalid")],
    .mk "B2V_ST3_InsDetectorSt" 48 1 1 0 0 1
      [(0, "stop insulation detection")],
    .mk "Reserved" 49 15 1 0 0 32767
      [(65535, "Signal Invalid")] ]

def kSignalsB2VST4 : List SignalDef :=
  [ .mk "B2V_ST4_Max_Temp" 0 8 1 (-40) (-40) 215
      [(254, "Abnormal"), (255, "Signal Invalid")],
    .mk "B2V_ST4_Min_Temp" 8 8 1 (-40) (-40) 215
      [(254, "Abnormal"), (255, "Signal Invalid")],
    .mk "B2V_ST4_Avg_Temp" 16 8 1 (-40) (-40) 215
      [(254, "Abnormal"), (255, "Signal Invalid")],
    .mk "B2V_ST4_MaxTemp_CSCNo" 24 8 1 0 1 255
      [(1, "CSC1"), (2, "CSC2"), (3, "CSC3"), (4, "CSC4"), (5, "CSC5"), (6, "CSC6"),
       (7, "CSC7"), (8, "CSC8"), (9, "CSC9"), (10, "CSC10"), (11, "CSC11"), (12, "CSC12"),
       (13, "CSC13"), (14, "CSC14"), (15, "CSC15"), (16, "CSC16"), (17, "CSC17"),
       (18, "CSC18"), (255, "Signal Invalid")],
    .mk "B2V_ST4_MaxTemp_Position" 32 8 1 0 1 255 [],
    .mk "B2V_ST4_MinTemp_CSCNo" 40 8 1 0 1 255
      [(1, "CSC1"), (2, "CSC2"), (3, "CSC3"), (4, "CSC4"), (5, "CSC5"), (6, "CSC6"),
       (7, "CSC7"), (8, "CSC8"), (9, "CSC9"), (10, "CSC10"), (11, "CSC11"), (12, "CSC12"),
       (13, "CSC13"), (14, "CSC14"), (15, "CSC15"), (16, "CSC16"), (17, "CSC17"),
       (18, "CSC18"), (255, "Signal Invalid")],
    .mk "B2V_ST4_MinTemp_Position" 48 8 1 0 1 255 [],
    .mk "Reserved" 56 8 1 0 1 255 [] ]

def kSignalsB2VST5 : List SignalDef :=
  [ .mk "B2V_ST5_Max_Ucell" 0 16 0.001 0 0 65.535
      [(65535, "Signal Invalid")],
    .mk "B2V_ST5_Min_Ucell" 16 16 0.001 0 0 65.535
      [(65535, "Signal Invalid")],
    .mk "B2V_ST5_Avg_Ucell" 32 16 0.001 0 0 65.535
      [(65535, "Signal Invalid")],
    .mk "Reserved" 48 16 1 0 0 65535
      [(65535, "Signal Invalid")] ]

def kSignalsB2VST6 : List SignalDef :=
  [ .mk "B2V_ST6_MaxUcell_CSCNo" 0 8 1 0 0 255
      [(1, "CSC1"), (2, "CSC2"), (3, "CSC3"), (4, "CSC4"), (5, "CSC5"), (6, "CSC6"),
       (7, "CSC7"), (8, "CSC8"), (9, "CSC9"), (10, "CSC10"), (11, "CSC11"), (12, "CSC12"),
       (13, "CSC13"), (14, "CSC14"), (15, "CSC15"), (16, "CSC16"), (17, "CSC17"),
       (18, "CSC18"), (255, "Signal Invalid")],
    .mk "B2V_ST6_MaxUcell_Position" 8 16 1 0 0 65535 [],
    .mk "B2V_ST6_MinUcell_CSCNo" 24 8 1 0 0 255
      [(1, "CSC1"), (2, "CSC2"), (3, "CSC3"), (4, "CSC4"), (5, "CSC5"), (6, "CSC6"),
       (7, "CSC7"), (8, "CSC8"), (9, "CSC9"), (10, "CSC10"), (11, "CSC11"), (12, "CSC12"),
       (13, "CSC13"), (14, "CSC14"), (15, "CSC15"), (16, "CSC16"), (17, "CSC17"),
       (18, "CSC18"), (255, "Signal Invalid")],
    .mk "B2V_ST6_MinUcell_Position" 32 16 1 0 0 65535 [],
    .mk "Reserved" 48 16 1 0 0 65535 [] ]

def kSignalsB2VST7 : List SignalDef :=
  [ .mk "B2V_ST7_Gun1DCPosTemp" 0 8 1 (-40) (-40) 215
      [(255, "Signal Invalid")],
    .mk "B2V_ST7_Gun1DCNegTemp" 8 8 1 (-40) (-40) 215
      [(255, "Signal Invalid")],
    .mk "B2V_ST7_Gun2DCPosTemp" 16 8 1 (-40) (-40) 215
      [(255, "Signal Invalid")],
    .mk "B2V_ST7_Gun2DCNegTemp" 24 8 1 (-40) (-40) 215
      [(255, "Signal Invalid")],
    .mk "B2V_ST7_GunACPosTemp" 32 8 1 (-40) (-40) 215
      [(255, "Signal Invalid")],
    .mk "B2V_ST7_GunACNegTemp" 40 8 1 (-40) (-40) 215
      [(255, "Signal Invalid")],
    .mk "B2V_ST7_Reserved1" 48 8 1 0 0 255
      [(255, "Signal Invalid")],
    .mk "B2V_ST7_Reserved2" 56 8 1 0 0 255
      [(255, "Signal Invalid")] ]

def kSignalsB2VElecEnergy : List SignalDef :=
  [ .mk "B2V_TotChgEnergy" 0 24 1 0 0 20000000 [],
    .mk "B2V_TotDischgEnergy" 24 24 1 0 0 20000000 [],
    .mk "B2V_SingleChgEnergy" 48 16 0.1 0 0 6553.5 [] ]

def kSignalsB2VCurrentLimit : List SignalDef :=
  [ .mk "B2V_AvailInpulseDischrgCurr" 0 16 0.1 0 0 6553.5 [],
    .mk "B2V_AvailInpulseChrgCurr" 16 16 0.1 0 0 6553.5 [],
    .mk "B2V_AvailFollowChrgCurr" 32 16 0.1 0 0 6553.5 [],
    .mk "B2V_AvailFollowDishrgCurr" 48 16 0.1 0 0 6553.5 [] ]

def kSignalsB2TMInfo : List SignalDef :=
  [ .mk "B2T_RQ_SetMode_A" 0 2 1 0 0 3
      [(0, "Shutdown Mode"), (1, "Cooling Mode"), (3, "Self-Loop Mode")],
    .mk "B2T_RQ_HV_A" 2 2 1 0 0 3
      [(0, "HV On Request"), (1, "HV Off Request"), (2, "Invalid"), (3, "Invalid")],
    .mk "B2T_ChgST_A" 4 2 1 0 0 3
      [(0, "Non-Charging mode"), (1, "Charging mode"), (2, "Invalid"), (3, "Invalid")],
    .mk "B2T_BMS_HVRelayST_A" 6 2 1 0 0 3
      [(0, "Open"), (1, "Closed"), (2, "Invalid"), (3, "Invalid")],
    .mk "B2T_BMS_HVVolt_A" 16 16 1 0 0 65535
      [(65535, "Invalid")],
    .mk "B2T_BMS_R1" 24 8 1 0 0 255 [],
    .mk "B2T_SetTemp_A" 32 8 1 (-40) (-40) 215 [],
    .mk "B2T_BMS_R2" 40 8 1 0 0 255 [],
    .mk "B2TM_BMS_ALIV_A" 48 8 1 0 0 255 [],
    .mk "B2TM_CRC_A" 56 8 1 0 0 255 [] ]

def kSignalsTM2BState : List SignalDef :=
  [ .mk "T2B_WorkStatus_A" 0 2 1 0 0 3
      [(0, "Shutdown Mode"), (1, "Cooling Mode"), (3, "Self-Loop Mode")],
    .mk "T2B_TMS_HVRelayST_A" 2 2 1 0 0 3
      [(0, "Open"), (1, "Close")],
    .mk "Reserved" 4 4 1 0 0 15 [],
    .mk "TM2B_OutletTemp_A" 8 8 1 (-40) (-40) 215
      [(255, "Invalid")],
    .mk "TM2B_InletTemp_A" 16 8 1 (-40) (-40) 215
      [(255, "Invalid")],
    .mk "Reserved" 32 16 1 0 0 65535 [],
    .mk "TM2B_RQPower_A" 48 16 0.1 0 0 6553.5
      [(65535, "Invalid")],
    .mk "TM2B_FaultCode_A" 56 6 1 0 0 63
      [(0, "No fault"), (1, "Bus under voltage,Level 1 Fault"),
       (2, "Bus over voltage,Level 1 Fault"), (6, "Abnormal,Level 2 Fault"),
       (13, "PTC Fault, Level 1 Fault")],
    .mk "TM2B_FaultLevel_A" 62 2 1 0 0 3
      [(1, "Level 1 Fault"), (2, "Level 2 Fault")] ]

def kSignalsFire2BState : List SignalDef :=
  [ .mk "Fire_valueNumber" 0 8 1 0 0 255 [],
    .mk "Fire_valueAlarmLevel" 8 8 1 0 0 255 [],
    .mk "Fire_byStartSts" 16 1 1 0 0 1 [],
    .mk "Fire_SnerrrorSts" 17 1 1 0 0 1 [],
    .mk "Fire_HwerrrorSts" 18 1 1 0 0 1 [],
    .mk "Fire_Reserved" 19 5 1 0 0 31 [],
    .mk "Fire_byTempSenor1Err" 24 1 1 0 0 1 [],
    .mk "Fire_byTempSenor2Err" 25 1 1 0 0 1 [],
    .mk "Fire_byAirSenorErr" 26 1 1 0 0 1 [],
    .mk "Fire_bySAMSenorErr" 27 1 1 0 0 1 [],
    .mk "Fire_Reserved" 28 4 1 0 0 15 [],
    .mk "Fire_Tmp_alarm" 32 1 1 0 0 1 [],
    .mk "Fire_Gus_alarm" 33 1 1 0 0 1 [],
    .mk "Fire_Fog_alarm" 34 1 1 0 0 1 [],
    .mk "Fire_Leak_alarm" 35 1 1 0 0 1 [],
    .mk "Fire_Reserved" 36 4 1 0 0 15 [],
    .mk "Fire_Max_Tmp" 40 8 1 (-40) (-40) 215 [],
    .mk "Fire_Max_Gus" 48 8 10 0 0 2550 [],
    .mk "Fire_Max_Fog" 56 8 10 0 0 2550 [] ]

def kMessages : List MessageDef :=
  [ ⟨"V2B_CMD", 0x1802F3EF#32, 8, 0, 100, "VCU", "BMU", kSignalsV2BCMD⟩,
    ⟨"B2V_Fult1_32960", 0x1881EFF3#32, 8, 0, 500, "BMU", "VCU", kSignalsB2VFult132960⟩,
    ⟨"B2V_Fult2", 0x1882EFF3#32, 8, 0, 500, "BMU", "VCU", kSignalsB2VFult2⟩,
    ⟨"B2V_ST1", 0x1883EFF3#32, 8, 0, 100, "BMU", "VCU", kSignalsB2VST1⟩,
    ⟨"B2V_ST2", 0x1884EFF3#32, 8, 0, 200, "BMU", "VCU", kSignalsB2VST2⟩,
    ⟨"B2V_ST3", 0x1885EFF3#32, 8, 0, 500, "BMU", "VCU", kSignalsB2VST3⟩,
    ⟨"B2V_ST4", 0x1886EFF3#32, 8, 0, 500, "BMU", "VCU", kSignalsB2VST4⟩,
    ⟨"B2V_ST5", 0x1887EFF3#32, 8, 0, 500, "BMU", "VCU", kSignalsB2VST5⟩,
    ⟨"B2V_ST6", 0x1888EFF3#32, 8, 0, 500, "BMU", "VCU", kSignalsB2VST6⟩,
    ⟨"B2V_ST7", 0x1889EFF3#32, 8, 0, 500, "BMU", "VCU", kSignalsB2VST7⟩,
    ⟨"B2V_ElecEnergy", 0x18C3EFF3#32, 8, 0, 1000, "BMU", "VCU", kSignalsB2VElecEnergy⟩,
    ⟨"B2V_CurrentLimit", 0x18C4EFF3#32, 8, 0, 200, "BMU", "VCU", kSignalsB2VCurrentLimit⟩,
    ⟨"B2TM_Info", 0x18FF45F4#32, 8, 1, 500, "BMU", "TMS", kSignalsB2TMInfo⟩,
    ⟨"TM2B_Info", 0x18FFC13A#32, 8, 1, 500, "TMS", "BMU", kSignalsTM2BState⟩,
    ⟨"Fire2B_state", 0x18FFF10F#32, 8, 0, 1000, "Fire", "BMU", kSignalsFire2BState⟩ ]

/-- The table search: the first message with this identifier. -/
def findTableMessage (id : BitVec 32) : Option MessageDef :=
  kMessages.find? (fun m => m.id == id)

end Bms
end EnergyStorage
