import EnergyStorage.Can.Frame
import EnergyStorage.Pcu.Runtime

/-! # The status frame of a PCU

A PCU reports in one extended frame: heartbeat, emergency stop, state and cabinet number, one byte
each. -/

namespace EnergyStorage
namespace Pcu

def hexDigit (n : Nat) : Char := "0123456789ABCDEF".toList.getD n '0'

def hexByte (b : Nat) : String := String.ofList [hexDigit (b / 16), hexDigit (b % 16)]

def canFrameRawHex (fr : CanFrame) : String :=
  String.intercalate " " ((List.range (min 8 fr.canDlc)).map fun i => hexByte (fr.byte i))

def stateText (st : Nat) : String :=
  if st = 0 then "standby" else if st = 1 then "charging" else if st = 2 then "fault"
  else "unknown"

def parsePcuStatus (expectId29 : BitVec 32) (fr : CanFrame) (out : DeviceData) :
    Option DeviceData :=
  if ¬ fr.isExtended then none
  else if fr.id29 ≠ expectId29 &&& canEffMask then none
  else if fr.canDlc < 8 then none
  else
    let heartbeat := fr.byte 0
    let estopRaw := fr.byte 1
    let pcuState := fr.byte 2
    let cabinetId := fr.byte 3
    let d := { out with deviceName := "PCU" }
    let d := d.setValue "heartbeat" heartbeat
    let d := d.setStatus "estop" (if estopRaw = 0 then 0 else 1)
    let d := d.setValue "pcu_state" pcuState
    let d := d.setValue "cabinet_id" cabinetId
    let d := d.setValue "__pcu.id" fr.id29.toNat
    let d := d.setValue "__pcu.heartbeat" heartbeat
    let d := d.setValue "__pcu.estop_raw" estopRaw
    let d := d.setValue "__pcu.pcu_state_raw" pcuState
    let d := d.setValue "__pcu.cabinet_id" cabinetId
    let d := d.setStr "__pcu.msg" "PCU_STATUS"
    let d := d.setStr "__pcu.raw_hex" (canFrameRawHex fr)
    some (d.setStr "pcu_state_text" (stateText pcuState))

/-- What `parsePcuStatus` accepts. -/
def IsStatus (expectId29 : BitVec 32) (fr : CanFrame) : Prop :=
  fr.isExtended = true ∧ fr.id29 = expectId29 &&& canEffMask ∧ 8 ≤ fr.canDlc

instance (expectId29 : BitVec 32) (fr : CanFrame) : Decidable (IsStatus expectId29 fr) :=
  inferInstanceAs (Decidable (_ ∧ _ ∧ _))

theorem byte_lt (fr : CanFrame) (i : Nat) : fr.byte i < 256 :=
  Lib.BitField.read_lt fr.data (8 * i) 8

theorem toNat_ofInt_byte (fr : CanFrame) (i : Nat) :
    (BitVec.ofInt 32 (fr.byte i : Int)).toNat = fr.byte i := by
  have hlt := byte_lt fr i
  rw [BitVec.toNat_ofInt]
  omega

/-! ### What a message says of its PCU -/

/-- The message reports the four bytes of the frame. -/
structure Reports (d : DeviceData) (fr : CanFrame) : Prop where
  heartbeat : d.value.get "heartbeat" = some (fr.byte 0 : Int)
  estop : d.value.get "estop" = none ∧
    d.status.get "estop" = some (if fr.byte 1 = 0 then 0 else 1)
  pcuState : d.value.get "pcu_state" = some (fr.byte 2 : Int)
  cabinetId : d.value.get "cabinet_id" = some (fr.byte 3 : Int)

/-- What the frame leaves in the state of its PCU. -/
def observeStatus (fr : CanFrame) (ts : Nat) (st : PcuOnlineState) : PcuOnlineState :=
  observeHeartbeat (fr.byte 0) ts
    { st with
      seenOnce := true
      lastRxMs := ts
      cabinetId := fr.byte 3
      pcuState := fr.byte 2
      pcuStateValid := true
      estop := decide (fr.byte 1 ≠ 0) }

theorem readU32_value {d : DeviceData} {fr : CanFrame} {key : String} {i : Nat}
    (h : d.value.get key = some (fr.byte i : Int)) :
    readU32FromDeviceData d key = some (fr.byte i) := by
  rw [readU32FromDeviceData, h]
  show some (BitVec.ofInt 32 (fr.byte i : Int)).toNat = _
  rw [toNat_ofInt_byte]

theorem Reports.tryGetPcuHeartbeat {d : DeviceData} {fr : CanFrame} (h : Reports d fr) :
    tryGetPcuHeartbeat d = some (fr.byte 0) := by
  rw [Pcu.tryGetPcuHeartbeat, readU32_value h.heartbeat, Option.some_or]

theorem Reports.readBool_estop {d : DeviceData} {fr : CanFrame} (h : Reports d fr) :
    readBoolFromDeviceData d "estop" = some (decide (fr.byte 1 ≠ 0)) := by
  rw [readBoolFromDeviceData, readU32FromDeviceData, h.estop.1, h.estop.2]
  by_cases hzero : fr.byte 1 = 0
  · rw [if_pos hzero, hzero]
    rfl
  · rw [if_neg hzero, decide_eq_true hzero]
    rfl

theorem Reports.observePcu {d : DeviceData} {fr : CanFrame} (h : Reports d fr) (ts : Nat)
    (st : PcuOnlineState) : observePcu d (fr.byte 0) ts st = observeStatus fr ts st := by
  rw [Pcu.observePcu, tryGetPcuCabinetId, readU32_value h.cabinetId, readU32_value h.pcuState,
    h.readBool_estop]
  rfl

/-- A change of name and of other keys leaves the report. -/
theorem Reports.congr {d d' : DeviceData} {fr : CanFrame} (h : Reports d fr)
    (hvalue : ∀ k ∈ ["heartbeat", "estop", "pcu_state", "cabinet_id"],
      d'.value.get k = d.value.get k)
    (hstatus : d'.status = d.status) : Reports d' fr := by
  simp only [List.mem_cons, List.not_mem_nil, or_false, forall_eq_or_imp, forall_eq] at hvalue
  obtain ⟨hheartbeat, hestop, hstate, hcabinet⟩ := hvalue
  refine ⟨hheartbeat.trans h.heartbeat, ⟨hestop.trans h.estop.1, ?_⟩, hstate.trans h.pcuState,
    hcabinet.trans h.cabinetId⟩
  rw [hstatus]
  exact h.estop.2

/-! ### The frame observed -/

section Observed

variable (fr : CanFrame) (ts : Nat) (st : PcuOnlineState)

/-- The state shows the bytes of the frame, received at `ts`. -/
structure Shows (fr : CanFrame) (ts : Nat) (st : PcuOnlineState) : Prop where
  seen : st.seenOnce = true
  lastRx : st.lastRxMs = ts
  heartbeat : st.hasLastHeartbeat = true ∧ st.lastHeartbeat = fr.byte 0
  estop : st.estop = decide (fr.byte 1 ≠ 0)
  pcuState : st.pcuStateValid = true ∧ st.pcuState = fr.byte 2
  cabinetId : st.cabinetId = fr.byte 3

theorem shows_observeStatus : Shows fr ts (observeStatus fr ts st) := by
  unfold observeStatus observeHeartbeat
  split_ifs with hhas hsame
  · exact ⟨rfl, rfl, ⟨hhas, hsame⟩, rfl, ⟨rfl, rfl⟩, rfl⟩
  · exact ⟨rfl, rfl, ⟨hhas, rfl⟩, rfl, ⟨rfl, rfl⟩, rfl⟩
  · exact ⟨rfl, rfl, ⟨rfl, rfl⟩, rfl, ⟨rfl, rfl⟩, rfl⟩

theorem Shows.updateOnePcuRuntimeHealth {fr : CanFrame} {ts : Nat} {st : PcuOnlineState}
    (h : Shows fr ts st) (t rx hb : Nat) :
    Shows fr ts (updateOnePcuRuntimeHealth st t rx hb) :=
  ⟨h.seen, h.lastRx, h.heartbeat, h.estop, h.pcuState, h.cabinetId⟩

end Observed

theorem parsePcuStatus_of_status {expectId29 : BitVec 32} {fr : CanFrame}
    (h : IsStatus expectId29 fr) (out : DeviceData) :
    ∃ d, parsePcuStatus expectId29 fr out = some d ∧ d.deviceName = "PCU" := by
  obtain ⟨hext, hid, hlen⟩ := h
  rw [parsePcuStatus, if_neg (not_not.mpr hext), if_neg (not_not.mpr hid), if_neg (by omega)]
  exact ⟨_, rfl, rfl⟩

theorem parsePcuStatus_of_not_status {expectId29 : BitVec 32} {fr : CanFrame}
    (h : ¬ IsStatus expectId29 fr) (out : DeviceData) :
    parsePcuStatus expectId29 fr out = none := by
  unfold parsePcuStatus
  by_cases hext : fr.isExtended = true
  · rw [if_neg (not_not.mpr hext)]
    by_cases hid : fr.id29 = expectId29 &&& canEffMask
    · rw [if_neg (not_not.mpr hid)]
      have hlen : fr.canDlc < 8 := by
        by_contra hlen
        exact h ⟨hext, hid, by omega⟩
      exact if_pos hlen
    · exact if_pos hid
  · exact if_pos hext

/-- An accepted frame is reported. -/
theorem reports_of_parse {expectId29 : BitVec 32} {fr : CanFrame} {out d : DeviceData}
    (h : parsePcuStatus expectId29 fr out = some d) (hout : out.value.get "estop" = none) :
    Reports d fr := by
  rw [parsePcuStatus] at h
  split_ifs at h
  cases h
  refine ⟨rfl, ⟨?_, rfl⟩, rfl, rfl⟩
  exact hout

end Pcu
end EnergyStorage
