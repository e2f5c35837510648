import EnergyStorage.Bms.Closing
import EnergyStorage.Bms.Decoding

/-! # The records a frame stands for

For each message group, the cache fields as a function of what the frame carries.
The handlers of the adapter are proved to compute these records whenever every signal
they ask for is in the message. -/

namespace EnergyStorage
namespace Bms

open LogicAdapter TableRuntime BmsProto
open Lib (Dict)

/-- The decoded values of a frame, by signal name. -/
structure Content where
  code : String → Int
  quantity : String → ℚ

namespace Content

variable (c : Content)

def flag (n : String) : Bool := decide (c.code n ≠ 0)

def measured (n : String) : Reading := { valid := true, value := c.quantity n }

/-- A measurement that is checked: one that the plausibility check refuses is marked and keeps its
old value. -/
def reading (n : String) (refused : ℚ → Bool) (old : Reading) : Reading :=
  if refused (c.quantity n) then { old with valid := false }
  else c.measured n

def st1 : St1 where
  mainPosRelaySt := c.code "B2V_ST1_MainPosRelaySt"
  mainNegRelaySt := c.code "B2V_ST1_MainNegRelaySt"
  prechrgRelaySt := c.code "B2V_ST1_PrechrgRelaySt"
  heatPosRelaySt := c.code "B2V_ST1_HeatPosRelaySt"
  heatNegRelaySt := c.code "B2V_ST1_HeatNegRelaySt"
  bmsHvStatus := c.code "B2V_ST1_BMS_HVStatus"
  balanceStatus := c.code "B2V_ST1_BMS_BalanceStatus"
  dcChrgConnectSt := c.code "B2V_ST1_DCChrgConnectSt"
  pantoChrgConnectSt := c.code "B2V_ST1_PantoChrgConnectSt"
  acChrgConnectSt := c.code "B2V_ST1_ACChrgConnectSt"
  chrgMode := c.code "B2V_ST1_ChrgMode"
  chrgStatus := c.code "B2V_ST1_ChrgStatus"
  heatingStatus := c.code "B2V_ST1_HeatingStatus"
  coolingStatus := c.code "B2V_ST1_CoolingStatus"
  rechrgCycles := c.code "B2V_ST1_RechrgCycels"
  dcChrgPos1RelaySt := c.code "B2V_ST1_DCChrgPos1RelaySt"
  dcChrgNeg1RelaySt := c.code "B2V_ST1_DCChrgNeg1RelaySt"
  dcChrgPos2RelaySt := c.code "B2V_ST1_DCChrgPos2RelaySt"
  dcChrgNeg2RelaySt := c.code "B2V_ST1_DCChrgNeg2RelaySt"
  pantoChrgPosRelaySt := c.code "B2V_ST1_PantoChrgPosRelaySt"
  pantoChrgNegRelaySt := c.code "B2V_ST1_PantoChrgNegRelaySt"
  acChrgPosRelaySt := c.code "B2V_ST1_ACChrgPosRelaySt"
  acChrgNegRelaySt := c.code "B2V_ST1_ACChrgNegRelaySt"
  aux1RelaySt := c.code "B2V_ST1_Aux1RelaySt"
  aux2RelaySt := c.code "B2V_ST1_Aux2RelaySt"
  aux3RelaySt := c.code "B2V_ST1_Aux3RelaySt"

/-- A refused current is set to zero as well. -/
def st2 (x : St2) : St2 where
  soc := c.reading "B2V_ST2_SOC" isSocInvalid x.soc
  soh := c.reading "B2V_ST2_SOH" isSohInvalid x.soh
  packV := c.reading "B2V_ST2_PackInsideVolt" isPackVoltageInvalid x.packV
  packI := c.reading "B2V_ST2_PackCurrent" isPackCurrentInvalid {}
  faultLevel := c.code "B2V_ST2_FaultLevel"
  faultCode := c.code "B2V_ST2_FaultCode"
  rqHvPowerOff := c.flag "B2V_ST2_RqHVPoerOff"
  alarmAny := decide (c.code "B2V_ST2_FaultLevel" > 0) || c.flag "B2V_ST2_RqHVPoerOff"

def st3 (x : St3) : St3 where
  insPosRes := c.reading "B2V_ST3_PosInsRes" isInsResInvalid x.insPosRes
  insNegRes := c.reading "B2V_ST3_NegInsRes" isInsResInvalid x.insNegRes
  insSysRes := c.reading "B2V_ST3_SysInsRes" isInsResInvalid x.insSysRes
  insDetectorOn := c.flag "B2V_ST3_InsDetectorSt"
  insDetectorValid := true

def st4 (x : St4) : St4 where
  tempMax := c.reading "B2V_ST4_Max_Temp" isTempInvalid x.tempMax
  tempMin := c.reading "B2V_ST4_Min_Temp" isTempInvalid x.tempMin
  tempAvg := c.reading "B2V_ST4_Avg_Temp" isTempInvalid x.tempAvg
  maxTempPos := c.code "B2V_ST4_MaxTemp_Position"
  maxTempPosValid := true
  minTempPos := c.code "B2V_ST4_MinTemp_Position"
  minTempPosValid := true

def st5 : St5 where
  maxUcell := c.measured "B2V_ST5_Max_Ucell"
  minUcell := c.measured "B2V_ST5_Min_Ucell"
  avgUcell := c.measured "B2V_ST5_Avg_Ucell"

def st6 : St6 where
  maxUcellCscNo := c.code "B2V_ST6_MaxUcell_CSCNo"
  maxUcellPosition := c.code "B2V_ST6_MaxUcell_Position"
  minUcellCscNo := c.code "B2V_ST6_MinUcell_CSCNo"
  minUcellPosition := c.code "B2V_ST6_MinUcell_Position"

def st7 : St7 where
  gun1DcPosTemp := c.measured "B2V_ST7_Gun1DCPosTemp"
  gun1DcNegTemp := c.measured "B2V_ST7_Gun1DCNegTemp"
  gun2DcPosTemp := c.measured "B2V_ST7_Gun2DCPosTemp"
  gun2DcNegTemp := c.measured "B2V_ST7_Gun2DCNegTemp"
  gunAcPosTemp := c.measured "B2V_ST7_GunACPosTemp"
  gunAcNegTemp := c.measured "B2V_ST7_GunACNegTemp"

def elecEnergy (x : ElecEnergy) : ElecEnergy where
  totChgEnergy := c.reading "B2V_TotChgEnergy" (isEnergyInvalid 20000000) x.totChgEnergy
  totDischgEnergy := c.reading "B2V_TotDischgEnergy" (isEnergyInvalid 20000000) x.totDischgEnergy
  singleChgEnergy := c.reading "B2V_SingleChgEnergy" (isEnergyInvalid 6553.5) x.singleChgEnergy

def currentLimit (x : CurrentLimit) : CurrentLimit where
  pulseDischargeLimitA :=
    c.reading "B2V_AvailInpulseDischrgCurr" isCurrentLimitInvalid x.pulseDischargeLimitA
  pulseChargeLimitA :=
    c.reading "B2V_AvailInpulseChrgCurr" isCurrentLimitInvalid x.pulseChargeLimitA
  followChargeLimitA :=
    c.reading "B2V_AvailFollowChrgCurr" isCurrentLimitInvalid x.followChargeLimitA
  chargeLimitA := c.reading "B2V_AvailFollowChrgCurr" isCurrentLimitInvalid x.chargeLimitA
  followDischargeLimitA :=
    c.reading "B2V_AvailFollowDishrgCurr" isCurrentLimitInvalid x.followDischargeLimitA
  dischargeLimitA := c.reading "B2V_AvailFollowDishrgCurr" isCurrentLimitInvalid x.dischargeLimitA

/-- Two fault codes also leave the time they were last seen. -/
def tm2b (tsMs : Nat) (x : Tm2b) : Tm2b where
  workState := c.code "T2B_WorkStatus_A"
  faultCode := c.code "TM2B_FaultCode_A"
  faultLevel := c.code "TM2B_FaultLevel_A"
  panelAirconSeenMs := if c.code "TM2B_FaultCode_A" = 0x03 then tsMs else x.panelAirconSeenMs
  atsWaterPumpSeenMs := if c.code "TM2B_FaultCode_A" = 0x1C then tsMs else x.atsWaterPumpSeenMs

def fire2b : Fire2b where
  valueNumber := c.code "Fire_valueNumber"
  valueAlarmLevel := c.code "Fire_valueAlarmLevel"
  byStartSts := c.flag "Fire_byStartSts"
  sensorErrorSts := c.flag "Fire_SnerrrorSts"
  hwErrorSts := c.flag "Fire_HwerrrorSts"
  tempSensor1Err := c.flag "Fire_byTempSenor1Err"
  tempSensor2Err := c.flag "Fire_byTempSenor2Err"
  airSensorErr := c.flag "Fire_byAirSenorErr"
  samSensorErr := c.flag "Fire_bySAMSenorErr"
  tempAlarm := c.flag "Fire_Tmp_alarm"
  gasAlarm := c.flag "Fire_Gus_alarm"
  fogAlarm := c.flag "Fire_Fog_alarm"
  leakAlarm := c.flag "Fire_Leak_alarm"
  maxTemp := c.measured "Fire_Max_Tmp"
  maxGas := c.measured "Fire_Max_Gus"
  maxFog := c.measured "Fire_Max_Fog"

def fault1 : Fault1 where
  delTemp := c.code "B2V_Fult1_DelTemp"
  overTemp := c.code "B2V_Fult1_OverTemp"
  overUcell := c.code "B2V_Fult1_OverUcell"
  lowUcell := c.code "B2V_Fult1_LowUcell"
  packOverHvolt := c.code "B2V_Fult1_PackOverHVolt"
  packLowHvolt := c.code "B2V_Fult1_PackLowHVolt"
  lowSoc := c.code "B2V_Fult1_LowSOC"
  lowInsRes := c.code "B2V_Fult1_LowInsRes"
  ucellUniformity := c.flag "B2V_Fult1_UcellUniformity"
  overChg := c.flag "B2V_Fult1_OverChg"
  overSoc := c.flag "B2V_Fult1_OverSOC"
  socChangeFast := c.flag "B2V_Fult1_SOCChangeFast"
  batSysNotMatch := c.flag "B2V_Fult1_BatSysNotMatch"
  hvilFault := c.flag "B2V_Fult1_HVILFault"
  faultNum := c.code "B2V_Fult1_FaultNum_32960"

def fault2 : Fault2 where
  cellOverDischrg := c.flag "B2V_Fult2_CellOverDischrg"
  cellLowTemp := c.flag "B2V_Fult2_CellLowTemp"
  packFireWarning := c.flag "B2V_Fult2_PackFireWarning"
  overDischrgCurrLevel := c.code "B2V_Fult2_OverDischrgCurr"
  overChrgCurrInDriveLevel := c.code "B2V_Fult2_OverChrgCurrInTheDrive"
  currSensorErr := c.flag "B2V_Fult2_CurrSensorErr"
  powerSupplyErr := c.flag "B2V_Fult2_PowerSupplyErr"
  socDifferErr := c.flag "B2V_Fult2_SOCDifferErr"
  chrgConnectErr := c.flag "B2V_Fult2_ChrgConnectErr"
  overDischrgCurrWhenInChrg := c.flag "B2V_Fult2_OverDischrgCurrWhenInChrg"
  overChrgCurrInTheChrg := c.flag "B2V_Fult2_OverChrgCurrInTheChrg"
  chrgNtcErr := c.flag "B2V_Fult2_ChrgNTCErr"
  chrgNtcTempOverLevel := c.code "B2V_Fult2_ChrgNTCTempOver"
  tmsErr := c.flag "B2V_Fult2_TMSErr"
  packSelfProtect := c.flag "B2V_Fult2_PackSelfProtect"
  mainLoopPrechgErr := c.flag "B2V_Fult2_MainLoopPrechrgErr"
  auxLoopPrechgErr := c.flag "B2V_Fult2_AuxLoopPrechrgErr"
  chrgInsLowErr := c.flag "B2V_Fult2_ChrgInsLowErr"
  acanLost := c.flag "B2V_Fult2_ACANLost"
  innerCommErr := c.flag "B2V_Fult2_InnerCommunicationErr"
  dcdcErr := c.flag "B2V_Fult2_DCDCErr"
  branchBreakErr := c.flag "B2V_Fult2_BranchBreakErr"
  heatRelayOpenErr := c.flag "B2V_Fult2_HeatRelayOpenErr"
  heatRelayWeldErr := c.flag "B2V_Fult2_HeatRelayWeldErr"
  mainPosOpenErr := c.flag "B2V_Fult2_MainPosRelayOpenErr"
  mainPosWeldErr := c.flag "B2V_Fult2_MainPosRelayWeldErr"
  mainNegOpenErr := c.flag "B2V_Fult2_MainNegRelayOpenErr"
  mainNegWeldErr := c.flag "B2V_Fult2_MainNegRelayWeldErr"
  dcChrgPos1OpenErr := c.flag "B2V_Fult2_DCChrgPos1RelayOpenErr"
  dcChrgPos1WeldErr := c.flag "B2V_Fult2_DCChrgPos1RelayWeldErr"
  dcChrgNeg1OpenErr := c.flag "B2V_Fult2_DCChrgNeg1RelayOpenErr"
  dcChrgNeg1WeldErr := c.flag "B2V_Fult2_DCChrgNeg1RelayWeldErr"
  dcChrgPos2OpenErr := c.flag "B2V_Fult2_DCChrgPos2RelayOpenErr"
  dcChrgPos2WeldErr := c.flag "B2V_Fult2_DCChrgPos2RelayWeldErr"
  dcChrgNeg2OpenErr := c.flag "B2V_Fult2_DCChrgNeg2RelayOpenErr"
  dcChrgNeg2WeldErr := c.flag "B2V_Fult2_DCChrgNeg2RelayWeldErr"
  acChrgPosOpenErr := c.flag "B2V_Fult2_ACChrgPosRelayOpenErr"
  acChrgPosWeldErr := c.flag "B2V_Fult2_ACChrgPosRelayWeldErr"
  acChrgNegOpenErr := c.flag "B2V_Fult2_ACChrgNegRelayOpenErr"
  acChrgNegWeldErr := c.flag "B2V_Fult2_ACChrgNegRelayWeldErr"
  pantoChrgPosOpenErr := c.flag "B2V_Fult2_PantoChrgPosRelayOpenErr"
  pantoChrgPosWeldErr := c.flag "B2V_Fult2_PantoChrgPosRelayWeldErr"
  pantoChrgNegOpenErr := c.flag "B2V_Fult2_PantoChrgNegRelayOpenErr"
  pantoChrgNegWeldErr := c.flag "B2V_Fult2_PantoChrgNegRelayWeldErr"

end Content

/-- What the parser decodes from the data of a frame of `msg`. -/
def contentOf (msg : MessageDef) (data : BitVec 64) : Content where
  code n := ((lastSignal msg n).bind fun s =>
    (storedValue data s).or ((storedNum data s).map truncToInt)).getD 0
  quantity n := ((lastSignal msg n).bind (storedNum data)).getD 0

def numNames (msg : MessageDef) : List String :=
  (msg.signals.filter fun s => signalKind s = .num).map (fun s => s.name)

/-- A handler sees every signal of `msg` with the value `c` has for it. -/
structure Agrees (s : Signals) (c : Content) (msg : MessageDef) : Prop where
  int : ∀ sig ∈ msg.signals, ∀ rest, s.int (sig.name :: rest) = some (c.code sig.name)
  num : ∀ n ∈ numNames msg, s.num [n] = some (c.quantity n)

/-! ### What the handlers see of a frame -/

section Seen

variable {msg : MessageDef} (hmsg : msg ∈ kMessages) (fr : CanFrame)

include hmsg

theorem readInt_parseMessage {sig : SignalDef} (hsig : sig ∈ msg.signals)
    (rest : List String) :
    readInt (parseMessage fr msg) (fullKey (canonicalMsgName msg.name) sig.name :: rest) =
      some ((contentOf msg fr.data).code sig.name) := by
  obtain ⟨t, ht⟩ := exists_lastSignal hsig
  have hvalue := parseMessage_value hmsg fr sig.name
  have hnum := parseMessage_num hmsg fr sig.name
  rw [lastNamed_storedValue hmsg, ht, Option.bind_some] at hvalue
  rw [lastNamed_storedNum hmsg, ht, Option.bind_some] at hnum
  have hstatus : (parseMessage fr msg).status = Dict.empty := (parseMessage_rest fr).2
  have hfirst : ((parseMessage fr msg).value.get (fullKey (canonicalMsgName msg.name) sig.name)).or
      ((((parseMessage fr msg).status.get (fullKey (canonicalMsgName msg.name) sig.name)).map
        fun n => (BitVec.ofNat 32 n).toInt).or
        (((parseMessage fr msg).num.get (fullKey (canonicalMsgName msg.name) sig.name)).map
          truncToInt)) = some ((contentOf msg fr.data).code sig.name) := by
    rw [hvalue, hnum, hstatus, Dict.get_empty, Option.map_none, Option.none_or]
    simp only [contentOf, ht, Option.bind_some]
    have hkind : (storedValue fr.data t).isSome = true ∨ (storedNum fr.data t).isSome = true := by
      rw [storedValue_isSome, storedNum_isSome]
      cases signalKind t with
      | value => exact Or.inl rfl
      | num => exact Or.inr rfl
    rcases hkind with h | h
    · obtain ⟨v, hv⟩ := Option.isSome_iff_exists.mp h
      rw [hv]
      rfl
    · obtain ⟨q, hq⟩ := Option.isSome_iff_exists.mp h
      rw [hq]
      cases storedValue fr.data t <;> rfl
  rw [readInt, List.findSome?_cons, hfirst]

theorem readNum_parseMessage {n : String} (hn : n ∈ numNames msg) (rest : List String) :
    readNum (parseMessage fr msg) (fullKey (canonicalMsgName msg.name) n :: rest) =
      some ((contentOf msg fr.data).quantity n) := by
  obtain ⟨sig, hsig, rfl⟩ := List.mem_map.mp hn
  obtain ⟨hmem, hkind⟩ := List.mem_filter.mp hsig
  obtain ⟨t, ht⟩ := exists_lastSignal hmem
  have hnum := parseMessage_num hmsg fr sig.name
  rw [lastNamed_storedNum hmsg, ht, Option.bind_some] at hnum
  have hkind' : signalKind t = .num := by
    rw [((kMessages_consistent msg hmsg sig hmem).2 t ht).1]
    exact of_decide_eq_true hkind
  rw [storedNum_of_kind hkind'] at hnum
  rw [readNum, List.findSome?_cons, hnum]
  simp only [contentOf, ht, Option.bind_some, storedNum_of_kind hkind', Option.getD_some]

theorem agrees_parseMessage :
    Agrees (Signals.ofDevice (parseMessage fr msg) (canonicalMsgName msg.name))
      (contentOf msg fr.data) msg where
  int _ hsig _ := readInt_parseMessage hmsg fr hsig _
  num _ hn := readNum_parseMessage hmsg fr hn _

end Seen

/-! ### The handlers -/

def fireMessage : MessageDef :=
  ⟨"Fire2B_state", 0x18FFF10F#32, 8, 0, 1000, "Fire", "BMU", kSignalsFire2BState⟩

/-- The table's message for each group. -/
def groupMessage : BmsGroup → MessageDef
  | .st1 => ⟨"B2V_ST1", 0x1883EFF3#32, 8, 0, 100, "BMU", "VCU", kSignalsB2VST1⟩
  | .st2 => ⟨"B2V_ST2", 0x1884EFF3#32, 8, 0, 200, "BMU", "VCU", kSignalsB2VST2⟩
  | .st3 => ⟨"B2V_ST3", 0x1885EFF3#32, 8, 0, 500, "BMU", "VCU", kSignalsB2VST3⟩
  | .st4 => st4Message
  | .st5 => ⟨"B2V_ST5", 0x1887EFF3#32, 8, 0, 500, "BMU", "VCU", kSignalsB2VST5⟩
  | .st6 => ⟨"B2V_ST6", 0x1888EFF3#32, 8, 0, 500, "BMU", "VCU", kSignalsB2VST6⟩
  | .st7 => ⟨"B2V_ST7", 0x1889EFF3#32, 8, 0, 500, "BMU", "VCU", kSignalsB2VST7⟩
  | .elecEnergy =>
    ⟨"B2V_ElecEnergy", 0x18C3EFF3#32, 8, 0, 1000, "BMU", "VCU", kSignalsB2VElecEnergy⟩
  | .currentLimit =>
    ⟨"B2V_CurrentLimit", 0x18C4EFF3#32, 8, 0, 200, "BMU", "VCU", kSignalsB2VCurrentLimit⟩
  | .tm2b => ⟨"TM2B_Info", 0x18FFC13A#32, 8, 1, 500, "TMS", "BMU", kSignalsTM2BState⟩
  | .fire2b => fireMessage
  | .fault1 => ⟨"B2V_Fult1_32960", 0x1881EFF3#32, 8, 0, 500, "BMU", "VCU", kSignalsB2VFult132960⟩
  | .fault2 => ⟨"B2V_Fult2", 0x1882EFF3#32, 8, 0, 500, "BMU", "VCU", kSignalsB2VFult2⟩

theorem groupMessage_mem (g : BmsGroup) : groupMessage g ∈ kMessages := by
  cases g <;> decide +kernel

/-- The record of a group that a frame with content `c` should leave. -/
def Content.Fills (c : Content) (g : BmsGroup) (tsMs : Nat) (old new : BmsPerInstanceCache) :
    Prop :=
  match g with
  | .st1 => new.st1 = c.st1
  | .st2 => new.st2 = c.st2 old.st2
  | .st3 => new.st3 = c.st3 old.st3
  | .st4 => new.st4 = c.st4 old.st4
  | .st5 => new.st5 = c.st5
  | .st6 => new.st6 = c.st6
  | .st7 => new.st7 = c.st7
  | .elecEnergy => new.elecEnergy = c.elecEnergy old.elecEnergy
  | .currentLimit => new.currentLimit = c.currentLimit old.currentLimit
  | .tm2b => new.tm2b = c.tm2b tsMs old.tm2b
  | .fire2b => new.fire2b = c.fire2b
  | .fault1 => new.fault1 = c.fault1
  | .fault2 => new.fault2 = c.fault2

section Handlers

variable {s : Signals} {c : Content}

/-- The names under which a frame of each of these groups brings a quantity. -/
theorem numNames_groupMessage :
    numNames (groupMessage .st2) =
      ["B2V_ST2_SOC", "B2V_ST2_SOH", "B2V_ST2_PackCurrent", "B2V_ST2_PackInsideVolt",
      "B2V_ST2_FaultCode"] ∧
    numNames (groupMessage .st3) =
      ["B2V_ST3_PosInsRes", "B2V_ST3_NegInsRes", "B2V_ST3_SysInsRes", "Reserved"] ∧
    numNames (groupMessage .st4) =
      ["B2V_ST4_Max_Temp", "B2V_ST4_Min_Temp", "B2V_ST4_Avg_Temp", "B2V_ST4_MaxTemp_CSCNo",
      "B2V_ST4_MaxTemp_Position", "B2V_ST4_MinTemp_CSCNo", "B2V_ST4_MinTemp_Position",
      "Reserved"] ∧
    numNames (groupMessage .st5) =
      ["B2V_ST5_Max_Ucell", "B2V_ST5_Min_Ucell", "B2V_ST5_Avg_Ucell", "Reserved"] ∧
    numNames (groupMessage .st7) =
      ["B2V_ST7_Gun1DCPosTemp", "B2V_ST7_Gun1DCNegTemp", "B2V_ST7_Gun2DCPosTemp",
      "B2V_ST7_Gun2DCNegTemp", "B2V_ST7_GunACPosTemp", "B2V_ST7_GunACNegTemp",
      "B2V_ST7_Reserved1", "B2V_ST7_Reserved2"] ∧
    numNames (groupMessage .elecEnergy) =
      ["B2V_TotChgEnergy", "B2V_TotDischgEnergy", "B2V_SingleChgEnergy"] ∧
    numNames (groupMessage .currentLimit) =
      ["B2V_AvailInpulseDischrgCurr", "B2V_AvailInpulseChrgCurr", "B2V_AvailFollowChrgCurr",
      "B2V_AvailFollowDishrgCurr"] := by
  decide +kernel

theorem updateFromSt1_eq (h : Agrees s c (groupMessage .st1)) (x : St1) :
    updateFromSt1 s x = c.st1 := by
  have hint := h.int
  simp only [groupMessage, kSignalsB2VST1, List.forall_mem_cons] at hint
  simp only [updateFromSt1, Content.st1, Signals.pickInt, hint, Option.getD_some]

theorem updateFromSt2_eq (h : Agrees s c (groupMessage .st2)) (x : St2) :
    updateFromSt2 s x = c.st2 x := by
  have hint := h.int
  have hnum := h.num
  have hnames := numNames_groupMessage.1
  simp only [groupMessage, kSignalsB2VST2, List.forall_mem_cons] at hint
  simp only [hnames, List.forall_mem_cons] at hnum
  simp only [updateFromSt2, Content.st2, Content.reading, Content.measured, Content.flag,
    Signals.pickInt, Signals.pickBool, Signals.bool, Signals.pickReading, hint, hnum,
    Option.getD_some, Option.map_some]

theorem updateFromSt3_eq (h : Agrees s c (groupMessage .st3)) (x : St3) :
    updateFromSt3 s x = c.st3 x := by
  have hint := h.int
  have hnum := h.num
  have hnames := numNames_groupMessage.2.1
  simp only [groupMessage, kSignalsB2VST3, List.forall_mem_cons] at hint
  simp only [hnames, List.forall_mem_cons] at hnum
  simp only [updateFromSt3, Content.st3, Content.reading, Content.measured, Content.flag,
    Signals.pickBool, Signals.bool, Signals.pickReading, hint, hnum, Option.getD_some,
    Option.map_some, Option.isSome_some, Bool.true_or]

theorem updateFromSt4_eq (h : Agrees s c (groupMessage .st4)) (x : St4) :
    updateFromSt4 s x = c.st4 x := by
  have hint := h.int
  have hnum := h.num
  have hnames := numNames_groupMessage.2.2.1
  simp only [groupMessage, st4Message, kSignalsB2VST4, List.forall_mem_cons] at hint
  simp only [hnames, List.forall_mem_cons] at hnum
  simp only [updateFromSt4, Content.st4, Content.reading, Content.measured, Signals.pickInt,
    Signals.pickReading, hint, hnum, Option.getD_some, Option.isSome_some]

theorem updateFromSt5_eq (h : Agrees s c (groupMessage .st5)) (x : St5) :
    updateFromSt5 s x = c.st5 := by
  have hnum := h.num
  have hnames := numNames_groupMessage.2.2.2.1
  simp only [hnames, List.forall_mem_cons] at hnum
  simp only [updateFromSt5, Content.st5, Content.measured, Signals.pickReading, isNeverInvalid,
    Bool.false_eq_true, if_false, hnum]

theorem updateFromSt6_eq (h : Agrees s c (groupMessage .st6)) (x : St6) :
    updateFromSt6 s x = c.st6 := by
  have hint := h.int
  simp only [groupMessage, kSignalsB2VST6, List.forall_mem_cons] at hint
  simp only [updateFromSt6, Content.st6, Signals.pickInt, hint, Option.getD_some]

theorem updateFromSt7_eq (h : Agrees s c (groupMessage .st7)) (x : St7) :
    updateFromSt7 s x = c.st7 := by
  have hnum := h.num
  have hnames := numNames_groupMessage.2.2.2.2.1
  simp only [hnames, List.forall_mem_cons] at hnum
  simp only [updateFromSt7, Content.st7, Content.measured, Signals.pickReading, isNeverInvalid,
    Bool.false_eq_true, if_false, hnum]

theorem updateFromElecEnergy_eq (h : Agrees s c (groupMessage .elecEnergy)) (x : ElecEnergy) :
    updateFromElecEnergy s x = c.elecEnergy x := by
  have hnum := h.num
  have hnames := numNames_groupMessage.2.2.2.2.2.1
  simp only [hnames, List.forall_mem_cons] at hnum
  simp only [updateFromElecEnergy, Content.elecEnergy, Content.reading, Content.measured,
    Signals.pickReading, hnum]

theorem updateFromCurrentLimit_eq (h : Agrees s c (groupMessage .currentLimit)) (x : CurrentLimit) :
    updateFromCurrentLimit s x = c.currentLimit x := by
  have hnum := h.num
  have hnames := numNames_groupMessage.2.2.2.2.2.2
  simp only [hnames, List.forall_mem_cons] at hnum
  simp only [updateFromCurrentLimit, Content.currentLimit, Content.reading, Content.measured,
    Signals.pickReading, hnum]

theorem updateFromTm2b_eq (h : Agrees s c (groupMessage .tm2b)) (tsMs : Nat) (x : Tm2b) :
    updateFromTm2b s tsMs x = c.tm2b tsMs x := by
  have hint := h.int
  simp only [groupMessage, kSignalsTM2BState, List.forall_mem_cons] at hint
  simp only [updateFromTm2b, Content.tm2b, hint, Option.getD_some, Option.some_inj]

theorem updateFromFault1_eq (h : Agrees s c (groupMessage .fault1)) (x : Fault1) :
    updateFromFault1 s x = c.fault1 := by
  have hint := h.int
  simp only [groupMessage, kSignalsB2VFult132960, List.forall_mem_cons] at hint
  simp only [updateFromFault1, Content.fault1, Content.flag, Signals.pickInt, Signals.pickBool,
    Signals.bool, hint, Option.getD_some, Option.map_some]

theorem updateFromFault2_eq (h : Agrees s c (groupMessage .fault2)) (x : Fault2) :
    updateFromFault2 s x = c.fault2 := by
  have hint := h.int
  simp only [groupMessage, kSignalsB2VFult2, List.forall_mem_cons] at hint
  simp only [updateFromFault2, Content.fault2, Content.flag, Signals.pickInt, Signals.pickBool,
    Signals.bool, hint, Option.getD_some, Option.map_some]

theorem updateGroup_fills {g : BmsGroup} (hg : g ≠ .fire2b) (h : Agrees s c (groupMessage g))
    (x : BmsPerInstanceCache) : c.Fills g x.lastRxMs x (updateGroup g s x) := by
  cases g with
  | st1 => exact updateFromSt1_eq h x.st1
  | st2 => exact updateFromSt2_eq h x.st2
  | st3 => exact updateFromSt3_eq h x.st3
  | st4 => exact updateFromSt4_eq h x.st4
  | st5 => exact updateFromSt5_eq h x.st5
  | st6 => exact updateFromSt6_eq h x.st6
  | st7 => exact updateFromSt7_eq h x.st7
  | elecEnergy => exact updateFromElecEnergy_eq h x.elecEnergy
  | currentLimit => exact updateFromCurrentLimit_eq h x.currentLimit
  | tm2b => exact updateFromTm2b_eq h x.lastRxMs x.tm2b
  | fire2b => exact absurd rfl hg
  | fault1 => exact updateFromFault1_eq h x.fault1
  | fault2 => exact updateFromFault2_eq h x.fault2

end Handlers
end Bms
end EnergyStorage
