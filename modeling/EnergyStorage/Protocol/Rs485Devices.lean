import EnergyStorage.Modbus.Crc
import EnergyStorage.Protocol.DeviceData

/-! # The devices on the RS485 master ports

Each protocol takes a frame and either refuses it or accepts it, and then has filled in the
data or left them as they were. -/

namespace EnergyStorage

namespace ModbusCRC

/-- The last two bytes are the checksum of the others, the high one first. -/
def verifyHiLo (frame : List Byte) : Bool :=
  if frame.length < 4 then false
  else
    let recv := be16 (frame.getD (frame.length - 2) 0) (frame.getD (frame.length - 1) 0)
    recv == calcLen frame (frame.length - 2)

end ModbusCRC

/-- The registers of a read answer `[addr][03][count][data...][crc][crc]`. -/
def parseHoldingRegs03 (verify : List Byte → Bool) (addr : Byte) (rx : List Byte) :
    Option (List Word) :=
  if rx.length < 5 then none
  else if rx.getD 0 0 ≠ addr then none
  else if rx.getD 1 0 ≠ 0x03 then none
  else if ¬ verify rx then none
  else
    let byteCount := (rx.getD 2 0).toNat
    if rx.length ≠ 3 + byteCount + 2 then none
    else if byteCount % 2 ≠ 0 then none
    else
      some ((List.range (byteCount / 2)).map fun i =>
        be16 (rx.getD (3 + 2 * i) 0) (rx.getD (3 + 2 * i + 1) 0))

/-! ### The gas detector -/

namespace GasDetectorProto

def applyGasDecimal (raw : Nat) (decimalCode : Nat) : ℚ :=
  if decimalCode = 0 then raw
  else if decimalCode = 1 then raw / 10
  else if decimalCode = 2 then raw / 100
  else raw

def gasTypeName (typeCode : Nat) : String :=
  if typeCode = 0 then "combustible"
  else if typeCode = 1 then "CO"
  else if typeCode = 2 then "O2"
  else if typeCode = 3 then "temperature"
  else if typeCode = 4 then "humidity"
  else if typeCode = 5 then "CO2"
  else "unknown"

def gasUnitName (unitCode : Nat) : String :=
  if unitCode = 0 then "%LEL"
  else if unitCode = 1 then "ppm"
  else if unitCode = 2 then "%VOL"
  else if unitCode = 3 then "C"
  else if unitCode = 4 then "%RH"
  else "unknown"

def decode (regs : List Word) : Option DeviceData :=
  if regs.length < 5 then none
  else
    let gasRaw := (regs.getD 0 0).toNat
    let statusRaw := regs.getD 1 0
    let decimalCode := (regs.getD 2 0).toNat
    let unitCode := (regs.getD 3 0).toNat
    let typeCode := (regs.getD 4 0).toNat
    if 5 < typeCode then none
    else
      let gasValue := applyGasDecimal gasRaw decimalCode
      let faultAny := statusRaw.getLsbD 0
      let lowAlarm := statusRaw.getLsbD 1
      let highAlarm := statusRaw.getLsbD 2
      let d : DeviceData := { deviceName := "GasDetector" }
      let d := d.setNum "gas_raw" gasRaw
      let d := d.setNum "gas_value" gasValue
      let d := d.setNum "status" statusRaw.toNat
      let d := d.setNum "decimal" decimalCode
      let d := d.setNum "unit_code" unitCode
      let d := d.setNum "type_code" typeCode
      let d := { d with gas := { valid := true, status := statusRaw.toNat, value := gasValue } }
      let d := d.setStatus "fault_any" faultAny.toNat
      let d := d.setStatus "low_alarm" lowAlarm.toNat
      let d := d.setStatus "high_alarm" highAlarm.toNat
      let d := d.setStatus "alarm_any" (lowAlarm || highAlarm).toNat
      let d := d.setValue "status_raw" statusRaw.toNat
      let d := d.setValue "type_code" typeCode
      let d := d.setValue "unit_code" unitCode
      let d := d.setStr "gas_type" (gasTypeName typeCode)
      some (d.setStr "gas_unit" (gasUnitName unitCode))

def parse (addr : Byte) (rx : List Byte) : Option DeviceData :=
  (parseHoldingRegs03 ModbusCRC.verifyHiLo addr rx).bind decode

end GasDetectorProto

/-! ### The smoke sensor -/

namespace SmokeSensorProto

/-- A high byte of one is a minus. -/
def applyTemperature (raw : Word) : Int :=
  let lo : Int := (loByte raw).toNat
  if hiByte raw = 0x01 then -lo else lo

def alarmToString (v : Word) : String :=
  if loByte v = 0x00 then "正常" else if loByte v = 0x01 then "烟雾报警" else "未知报警"

def faultToString (v : Word) : String :=
  let f := loByte v
  if f = 0 then "无故障"
  else
    "|".intercalate
      ((if f.getLsbD 0 then ["烟雾传感器故障"] else []) ++
        (if f.getLsbD 1 then ["烟雾检测室污染故障"] else []) ++
        (if f.getLsbD 2 then ["温度传感器故障"] else []) ++
        (if f &&& ~~~0x07 ≠ 0 then ["未知故障位"] else []))

def levelToString (v : Word) : String :=
  if loByte v = 0x01 then "1级(1~2%OBS)"
  else if loByte v = 0x02 then "2级(2~4%OBS)"
  else if loByte v = 0x03 then "3级(4~6%OBS)"
  else if loByte v = 0x04 then "4级(6~8%OBS)"
  else "未知级别"

/-- Written into the data that are passed in. -/
def decode (regs : List Word) (out : DeviceData) : Option DeviceData :=
  if regs.length < 5 then none
  else
    let alarm := regs.getD 0 0
    let fault := regs.getD 1 0
    let warnLevel := regs.getD 2 0
    let smoke := regs.getD 3 0
    let tempC := applyTemperature (regs.getD 4 0)
    let d := { out with deviceName := "SmokeSensor" }
    let d := d.setNum "alarm" alarm.toNat
    let d := d.setNum "fault" fault.toNat
    let d := d.setNum "warn_level" warnLevel.toNat
    let d := d.setNum "smoke_percent" smoke.toNat
    let d := d.setNum "temp" tempC
    let d := d.setStatus "TSS_smoke_alarm" (decide (loByte alarm = 0x01)).toNat
    let d := d.setStatus "TSS_SS_alarm" ((loByte fault).getLsbD 0).toNat
    let d := d.setStatus "TSS_SPollution_alarm" ((loByte fault).getLsbD 1).toNat
    let d := d.setStatus "TSS_temp_fault" ((loByte fault).getLsbD 2).toNat
    let d := d.setValue "alarm_raw" alarm.toNat
    let d := d.setValue "fault_raw" fault.toNat
    let d := d.setValue "warn_level_raw" warnLevel.toNat
    let d := d.setValue "temp_c" tempC
    let d := d.setStr "alarm_text" (alarmToString alarm)
    let d := d.setStr "fault_text" (faultToString fault)
    some (d.setStr "warn_level_text" (levelToString warnLevel))

def parse (addr : Byte) (rx : List Byte) (out : DeviceData) : Option DeviceData :=
  (parseHoldingRegs03 ModbusCRC.verifyHiLo addr rx).bind (decode · out)

end SmokeSensorProto

/-! ### The air conditioner -/

namespace AirConditionerProto

inductive PollStage
  | version | runState | sensors | alarms | params
  deriving DecidableEq, Repr

def PollStage.code : PollStage → Int
  | .version => 0
  | .runState => 1
  | .sensors => 2
  | .alarms => 3
  | .params => 4

def inferStageByRegCount (regCount : Nat) : Option PollStage :=
  if regCount = 1 then some .version
  else if regCount = 6 then some .runState
  else if regCount = 9 then some .sensors
  else if regCount = 33 then some .alarms
  else if regCount = 11 then some .params
  else none

def alarmKeys : List String :=
  ["alarm.high_temp_alarm", "alarm.low_temp_alarm", "alarm.high_humidity_alarm",
    "alarm.low_humidity_alarm", "alarm.coil_freeze_protect", "alarm.exhaust_high_temp_alarm",
    "alarm.coil_temp_sensor_fault", "alarm.outdoor_temp_sensor_fault",
    "alarm.condenser_temp_sensor_fault", "alarm.indoor_temp_sensor_fault",
    "alarm.exhaust_temp_sensor_fault", "alarm.humidity_sensor_fault",
    "alarm.internal_fan_fault", "alarm.external_fan_fault", "alarm.compressor_fault",
    "alarm.heater_fault", "alarm.emergency_fan_fault",
    "alarm.high_pressure_alarm", "alarm.low_pressure_alarm", "alarm.water_alarm",
    "alarm.smoke_alarm", "alarm.gating_alarm",
    "alarm.high_pressure_lock", "alarm.low_pressure_lock", "alarm.exhaust_lock",
    "alarm.ac_over_voltage_alarm", "alarm.ac_under_voltage_alarm", "alarm.ac_power_loss",
    "alarm.lose_phase_alarm", "alarm.freq_fault", "alarm.anti_phase_alarm",
    "alarm.dc_over_voltage_alarm", "alarm.dc_under_voltage_alarm"]

def alarmKeyByOffset (off : Nat) : String := alarmKeys.getD off "alarm.unknown"

/-- What a segment adds to the data. -/
structure SegmentData where
  num : List (String × ℚ) := []
  status : List (String × Nat) := []

def segmentData (s : PollStage) (regs : List Word) : SegmentData :=
  let u (i : Nat) : ℚ := (regs.getD i 0).toNat
  let s16 (i : Nat) : ℚ := (regs.getD i 0).toInt
  match s with
  | .version => if 1 ≤ regs.length then { num := [("version", u 0)] } else {}
  | .runState =>
    if 6 ≤ regs.length then
      { num := [("run.overall", u 0), ("run.inner_fan", u 1), ("run.outer_fan", u 2),
          ("run.compressor", u 3), ("run.heater", u 4), ("run.em_fan", u 5)] }
    else {}
  | .sensors =>
    if 9 ≤ regs.length then
      { num := [("temp.coil_c", s16 0 / 10), ("temp.outdoor_c", s16 1 / 10),
          ("temp.condense_c", s16 2 / 10), ("temp.indoor_c", s16 3 / 10),
          ("humidity_percent", s16 4), ("temp.exhaust_c", s16 5 / 10),
          ("current_a", s16 6 / 1000), ("ac_voltage_v", s16 7), ("dc_voltage_v", s16 8 / 10)] }
    else {}
  | .alarms =>
    let alarms := (regs.take 33).zipIdx.map fun r =>
      (alarmKeyByOffset r.2, (decide (r.1 ≠ 0)).toNat)
    { status := alarms ++ [("alarm.any", (decide (∃ r ∈ regs.take 33, r ≠ 0)).toNat)] }
  | .params =>
    if 11 ≤ regs.length then
      { num := [("param.cool_point_c", s16 0), ("param.cool_hys_c", s16 1),
          ("param.heat_point_c", s16 2), ("param.heat_hys_c", s16 3),
          ("param.high_temp_c", s16 6), ("param.low_temp_c", s16 7),
          ("param.high_hum_pct", s16 8), ("param.inner_fan_stop_c", s16 10)] }
    else {}

def fillSegmentData (seg : SegmentData) (d : DeviceData) : DeviceData :=
  let d := { d with deviceName := "AirConditioner" }
  let d := seg.num.foldl (fun d e => d.setNum e.1 e.2) d
  seg.status.foldl (fun d e => d.setStatus e.1 e.2) d

/-- A segment without data is dropped; the two values are always there. -/
def decode (regs : List Word) : Option DeviceData :=
  match inferStageByRegCount regs.length with
  | none => none
  | some stage =>
    let d : DeviceData := { deviceName := "AirConditioner" }
    let d := d.setValue "__air_stage" stage.code
    let d := d.setValue "__air_regs_count" regs.length
    let seg := segmentData stage regs
    if seg.num.isEmpty && seg.status.isEmpty then none else some (fillSegmentData seg d)

def parseWriteEcho (addr func : Byte) (rx : List Byte) : Bool :=
  if rx.length ≠ 8 then false
  else if rx.getD 0 0 ≠ addr then false
  else if rx.getD 1 0 ≠ func then false
  else ModbusCRC.verify rx

/-- An exception response and a write echo are accepted and leave `out` as it was. -/
def parse (addr : Byte) (rx : List Byte) (out : DeviceData) : Option DeviceData :=
  if rx.length < 5 then none
  else if rx.getD 0 0 ≠ addr then none
  else
    let func := rx.getD 1 0
    if func &&& 0x80 ≠ 0 then
      if ModbusCRC.verify rx then some out else none
    else if func = 0x03 then (parseHoldingRegs03 ModbusCRC.verify addr rx).bind decode
    else if func = 0x06 then if parseWriteEcho addr 0x06 rx then some out else none
    else if func = 0x10 then if parseWriteEcho addr 0x10 rx then some out else none
    else none

def isException (addr : Byte) (rx : List Byte) : Bool :=
  decide (5 ≤ rx.length) && rx.getD 0 0 == addr && rx.getD 1 0 &&& 0x80 != 0 &&
    ModbusCRC.verify rx

def isWriteEcho (addr : Byte) (rx : List Byte) : Bool :=
  parseWriteEcho addr 0x06 rx || parseWriteEcho addr 0x10 rx

/-- A response without data. -/
def isReply (addr : Byte) (rx : List Byte) : Bool := isException addr rx || isWriteEcho addr rx

end AirConditionerProto

/-! ### What is accepted -/

section Accepted

variable {verify : List Byte → Bool} {addr : Byte} {rx : List Byte}

/-- The function code of a frame whose registers are read. -/
theorem func_of_parseHoldingRegs03 {regs : List Word}
    (h : parseHoldingRegs03 verify addr rx = some regs) : rx.getD 1 0 = 0x03 := by
  unfold parseHoldingRegs03 at h
  split at h
  · cases h
  · split at h
    · cases h
    · split at h
      · cases h
      next hfunc => exact not_not.mp hfunc

theorem parseHoldingRegs03_of_func (h : rx.getD 1 0 ≠ 0x03) :
    parseHoldingRegs03 verify addr rx = none := by
  cases hregs : parseHoldingRegs03 verify addr rx with
  | none => rfl
  | some regs => exact absurd (func_of_parseHoldingRegs03 hregs) h

theorem parseHoldingRegs03_of_addr (h : rx.getD 0 0 ≠ addr) :
    parseHoldingRegs03 verify addr rx = none := by
  unfold parseHoldingRegs03
  rw [if_pos h, ite_self]

theorem parseHoldingRegs03_of_short (h : rx.length < 5) :
    parseHoldingRegs03 verify addr rx = none := if_pos h

end Accepted

namespace AirConditionerProto

variable {addr : Byte} {rx : List Byte}

theorem parseWriteEcho_iff {func : Byte} :
    parseWriteEcho addr func rx = true ↔ rx.length = 8 ∧ rx.getD 0 0 = addr ∧
      rx.getD 1 0 = func ∧ ModbusCRC.verify rx = true := by
  simp only [parseWriteEcho, ne_eq, ite_not, Bool.ite_eq_true_distrib, Bool.false_eq_true,
    if_false_right]

theorem isReply_iff :
    isReply addr rx = true ↔ 5 ≤ rx.length ∧ rx.getD 0 0 = addr ∧ ModbusCRC.verify rx = true ∧
      (rx.getD 1 0 &&& 0x80 ≠ 0 ∨ rx.length = 8 ∧ (rx.getD 1 0 = 0x06 ∨ rx.getD 1 0 = 0x10)) := by
  simp only [isReply, isException, isWriteEcho, Bool.or_eq_true, Bool.and_eq_true,
    parseWriteEcho_iff, decide_eq_true_eq, beq_iff_eq, bne_iff_ne]
  constructor
  · rintro (⟨⟨⟨hlen, haddr⟩, hfunc⟩, hcrc⟩ | ⟨hlen, haddr, hfunc, hcrc⟩ |
      ⟨hlen, haddr, hfunc, hcrc⟩)
    · exact ⟨hlen, haddr, hcrc, Or.inl hfunc⟩
    · exact ⟨by omega, haddr, hcrc, Or.inr ⟨hlen, Or.inl hfunc⟩⟩
    · exact ⟨by omega, haddr, hcrc, Or.inr ⟨hlen, Or.inr hfunc⟩⟩
  · rintro ⟨hlen, haddr, hcrc, hfunc | ⟨hlen', hfunc | hfunc⟩⟩
    · exact Or.inl ⟨⟨⟨hlen, haddr⟩, hfunc⟩, hcrc⟩
    · exact Or.inr (Or.inl ⟨hlen', haddr, hfunc, hcrc⟩)
    · exact Or.inr (Or.inr ⟨hlen', haddr, hfunc, hcrc⟩)

/-- Either a response without data, or registers. -/
theorem parse_eq (addr : Byte) (rx : List Byte) (out : DeviceData) :
    parse addr rx out = if isReply addr rx then some out
      else (parseHoldingRegs03 ModbusCRC.verify addr rx).bind decode := by
  unfold parse
  by_cases hlen : rx.length < 5
  · have hreply : ¬ isReply addr rx = true := fun h => by
      have hlong := (isReply_iff.mp h).1
      omega
    rw [if_pos hlen, if_neg hreply, parseHoldingRegs03_of_short hlen]
    rfl
  rw [if_neg hlen]
  by_cases haddr : rx.getD 0 0 = addr
  swap
  · have hreply : ¬ isReply addr rx = true := fun h => haddr (isReply_iff.mp h).2.1
    rw [if_pos haddr, if_neg hreply, parseHoldingRegs03_of_addr haddr]
    rfl
  rw [if_neg (not_not.mpr haddr)]
  dsimp only
  by_cases hexception : rx.getD 1 0 &&& 0x80 ≠ 0
  · -- none of the other function codes has the high bit
    have hread : rx.getD 1 0 ≠ 0x03 := fun h => hexception (by rw [h]; decide)
    have hreply : isReply addr rx = true ↔ ModbusCRC.verify rx = true :=
      ⟨fun h => (isReply_iff.mp h).2.2.1,
        fun h => isReply_iff.mpr ⟨by omega, haddr, h, Or.inl hexception⟩⟩
    rw [if_pos hexception, parseHoldingRegs03_of_func hread]
    simp only [hreply, Option.bind_none]
  rw [if_neg hexception]
  by_cases hread : rx.getD 1 0 = 0x03
  · have hreply : ¬ isReply addr rx = true := fun h => by
      obtain hhigh | ⟨-, hsix | hsixteen⟩ := (isReply_iff.mp h).2.2.2
      · exact hexception hhigh
      · rw [hread] at hsix
        exact absurd hsix (by decide)
      · rw [hread] at hsixteen
        exact absurd hsixteen (by decide)
    rw [if_pos hread, if_neg hreply]
  have hecho : ∀ func : Byte, func = 0x06 ∨ func = 0x10 → rx.getD 1 0 = func →
      (parseWriteEcho addr func rx = true ↔ isReply addr rx = true) := by
    intro func hkind hfunc
    rw [parseWriteEcho_iff, isReply_iff]
    constructor
    · rintro ⟨hlen, -, -, hcrc⟩
      exact ⟨by omega, haddr, hcrc, Or.inr ⟨hlen, by rw [hfunc]; exact hkind⟩⟩
    · rintro ⟨-, -, hcrc, hhigh | ⟨hlen, -⟩⟩
      · exact absurd hhigh hexception
      · exact ⟨hlen, haddr, hfunc, hcrc⟩
  rw [if_neg hread, parseHoldingRegs03_of_func hread, Option.bind_none]
  by_cases hsix : rx.getD 1 0 = 0x06
  · simp only [if_pos hsix, hecho 0x06 (Or.inl rfl) hsix]
  rw [if_neg hsix]
  by_cases hsixteen : rx.getD 1 0 = 0x10
  · simp only [if_pos hsixteen, hecho 0x10 (Or.inr rfl) hsixteen]
  rw [if_neg hsixteen, if_neg]
  intro h
  obtain hhigh | ⟨-, hfunc | hfunc⟩ := (isReply_iff.mp h).2.2.2
  · exact hexception hhigh
  · exact hsix hfunc
  · exact hsixteen hfunc

end AirConditionerProto

end EnergyStorage
