import EnergyStorage.App.HealthMerge
import EnergyStorage.Parser.FrameAssembler
import EnergyStorage.Protocol.Rs485Devices

/-! # The messages of the RS485 master ports -/

namespace EnergyStorage
namespace App

open Lib (Dict)

/-! ### Routing -/

/-- A protocol with its slave address. -/
inductive Rs485Proto
  | gas (addr : Byte)
  | smoke (addr : Byte)
  | airConditioner (addr : Byte)
  | hmi (addr : Byte)

namespace Rs485Proto

def slaveAddr : Rs485Proto → Byte
  | gas addr | smoke addr | airConditioner addr | hmi addr => addr

/-- Frames of the panel are not parsed as data. -/
def parse : Rs485Proto → List Byte → DeviceData → Option DeviceData
  | gas addr, rx, _ => GasDetectorProto.parse addr rx
  | smoke addr, rx, out => SmokeSensorProto.parse addr rx out
  | airConditioner addr, rx, out => AirConditionerProto.parse addr rx out
  | hmi _, _, _ => none

end Rs485Proto

/-- The protocols by port, in the order of the ports. -/
structure ProtocolRouter where
  proto : List (Int × Rs485Proto)

namespace ProtocolRouter

/-- The protocol of the port, or else the first with the frame's address. -/
def protoFor (r : ProtocolRouter) (idx : Int) (frame : List Byte) : Option Rs485Proto :=
  match r.proto.lookup idx with
  | some p => some p
  | none => (r.proto.find? fun e => e.2.slaveAddr = frame.getD 0 0).map Prod.snd

def parseRs485 (r : ProtocolRouter) (idx : Int) (frame : List Byte) (out : DeviceData) :
    Option DeviceData :=
  if frame.length < 2 then none else (r.protoFor idx frame).bind fun p => p.parse frame out

/-- What the drain loop posts for a frame of a master port. -/
def message (r : ProtocolRouter) (idx : Int) (frame : List Byte) : ParserMessage :=
  match r.parseRs485 idx frame {} with
  | some d => ⟨.deviceData, .rs485, idx, d⟩
  | none => ⟨.parseError, .rs485, idx, {}⟩

end ProtocolRouter

/-! ### What a frame may lead to -/

namespace Rs485Proto

def deviceName : Rs485Proto → String
  | gas _ => "GasDetector"
  | smoke _ => "SmokeSensor"
  | airConditioner _ => "AirConditioner"
  | hmi _ => ""

/-- The registers that a frame answers with. -/
def registers : Rs485Proto → List Byte → Option (List Word)
  | gas addr, rx | smoke addr, rx => parseHoldingRegs03 ModbusCRC.verifyHiLo addr rx
  | airConditioner addr, rx => parseHoldingRegs03 ModbusCRC.verify addr rx
  | hmi _, _ => none

/-- What the registers say. -/
def decode : Rs485Proto → List Word → Option DeviceData
  | gas _, regs => GasDetectorProto.decode regs
  | smoke _, regs => SmokeSensorProto.decode regs {}
  | airConditioner _, regs => AirConditionerProto.decode regs
  | hmi _, _ => none

end Rs485Proto

/-- Data under the device's own name, decoded from the registers of the frame. -/
structure OwnData (p : Rs485Proto) (frame : List Byte) (d : DeviceData) : Prop where
  name : d.deviceName = p.deviceName
  nonempty : d.deviceName ≠ ""
  decoded : ∃ regs, p.registers frame = some regs ∧ p.decode regs = some d
  data : (∃ k, (d.num.get k).isSome = true) ∨ ∃ k, (d.status.get k).isSome = true

/-- Only own data are posted, and a response without data goes past the scheduler and the
aggregator. -/
structure FrameSound (r : ProtocolRouter) (idx : Int) (frame : List Byte) : Prop where
  own : (r.message idx frame).type = .deviceData →
    ∃ p, r.protoFor idx frame = some p ∧ OwnData p frame (r.message idx frame).deviceData
  quiet : ∀ addr, r.protoFor idx frame = some (.airConditioner addr) →
    AirConditionerProto.isReply addr frame = true →
    (r.message idx frame).type ≠ .deviceData ∧
      ∀ s : HealthMerge, s.step (.onParsed (r.message idx frame)) = s

/-! ### Decoded data -/

theorem gas_decode_own {regs : List Word} {d : DeviceData}
    (h : GasDetectorProto.decode regs = some d) :
    d.deviceName = "GasDetector" ∧ ∃ k, (d.num.get k).isSome = true := by
  unfold GasDetectorProto.decode at h
  split at h
  · cases h
  · dsimp only at h
    split at h
    · cases h
    · obtain rfl := Option.some_inj.mp h
      exact ⟨rfl, "type_code", rfl⟩

theorem smoke_decode_own {regs : List Word} {out d : DeviceData}
    (h : SmokeSensorProto.decode regs out = some d) :
    d.deviceName = "SmokeSensor" ∧ ∃ k, (d.num.get k).isSome = true := by
  unfold SmokeSensorProto.decode at h
  split at h
  · cases h
  · obtain rfl := Option.some_inj.mp h
    exact ⟨rfl, "temp", rfl⟩

section Fill

open AirConditionerProto

theorem deviceName_fillSegmentData (seg : SegmentData) (d : DeviceData) :
    (fillSegmentData seg d).deviceName = "AirConditioner" := by
  have hnum : ∀ (l : List (String × ℚ)) (d : DeviceData),
      (l.foldl (fun d e => d.setNum e.1 e.2) d).deviceName = d.deviceName := by
    intro l
    induction l with
    | nil => exact fun _ => rfl
    | cons e l ih => exact fun d => ih _
  have hstatus : ∀ (l : List (String × Nat)) (d : DeviceData),
      (l.foldl (fun d e => d.setStatus e.1 e.2) d).deviceName = d.deviceName := by
    intro l
    induction l with
    | nil => exact fun _ => rfl
    | cons e l ih => exact fun d => ih _
  unfold fillSegmentData
  rw [hstatus, hnum]

/-- What is filled in stays. -/
theorem get_num_fill {k : String} (l : List (String × ℚ)) {d : DeviceData}
    (h : (d.num.get k).isSome = true ∨ k ∈ l.map Prod.fst) :
    ((l.foldl (fun d e => d.setNum e.1 e.2) d).num.get k).isSome = true := by
  induction l generalizing d with
  | nil => exact h.resolve_right List.not_mem_nil
  | cons e l ih =>
    apply ih
    rw [DeviceData.setNum_num, Dict.get_insert]
    by_cases hk : k = e.1
    · rw [if_pos hk]
      exact Or.inl rfl
    · rw [if_neg hk]
      exact h.imp_right fun hmem => (List.mem_cons.mp hmem).resolve_left hk

theorem get_status_fill {k : String} (l : List (String × Nat)) {d : DeviceData}
    (h : (d.status.get k).isSome = true ∨ k ∈ l.map Prod.fst) :
    ((l.foldl (fun d e => d.setStatus e.1 e.2) d).status.get k).isSome = true := by
  induction l generalizing d with
  | nil => exact h.resolve_right List.not_mem_nil
  | cons e l ih =>
    apply ih
    show ((d.status.insert e.1 e.2).get k).isSome = true ∨ _
    rw [Dict.get_insert]
    by_cases hk : k = e.1
    · rw [if_pos hk]
      exact Or.inl rfl
    · rw [if_neg hk]
      exact h.imp_right fun hmem => (List.mem_cons.mp hmem).resolve_left hk

theorem num_fillStatus (l : List (String × Nat)) (d : DeviceData) :
    (l.foldl (fun d e => d.setStatus e.1 e.2) d).num = d.num := by
  induction l generalizing d with
  | nil => rfl
  | cons e l ih => exact ih _

theorem airConditioner_decode_own {regs : List Word} {d : DeviceData}
    (h : AirConditionerProto.decode regs = some d) :
    d.deviceName = "AirConditioner" ∧
      ((∃ k, (d.num.get k).isSome = true) ∨ ∃ k, (d.status.get k).isSome = true) := by
  unfold AirConditionerProto.decode at h
  split at h
  · cases h
  · dsimp only at h
    split at h
    · cases h
    next hfilled =>
      obtain rfl := Option.some_inj.mp h
      refine ⟨deviceName_fillSegmentData _ _, ?_⟩
      unfold fillSegmentData
      generalize segmentData _ regs = seg at hfilled ⊢
      cases hnum : seg.num with
      | cons e l =>
        refine Or.inl ⟨e.1, ?_⟩
        dsimp only
        rw [num_fillStatus]
        exact get_num_fill (e :: l) (Or.inr List.mem_cons_self)
      | nil =>
        cases hstatus : seg.status with
        | cons e l => exact Or.inr ⟨e.1, get_status_fill (e :: l) (Or.inr List.mem_cons_self)⟩
        | nil => exact absurd (by rw [hnum, hstatus]; rfl) hfilled

end Fill

/-! ### The frames that go right -/

/-- A frame that is no response without data is decoded or refused. -/
theorem parse_own {p : Rs485Proto} {frame : List Byte} {d : DeviceData}
    (hp : ∀ addr, p = .airConditioner addr → ¬ AirConditionerProto.isReply addr frame = true)
    (h : p.parse frame {} = some d) : OwnData p frame d := by
  cases p with
  | gas addr =>
    obtain ⟨regs, hregs, hdecode⟩ := Option.bind_eq_some_iff.mp h
    obtain ⟨hname, hdata⟩ := gas_decode_own hdecode
    exact ⟨hname, by rw [hname]; decide, ⟨regs, hregs, hdecode⟩, Or.inl hdata⟩
  | smoke addr =>
    obtain ⟨regs, hregs, hdecode⟩ := Option.bind_eq_some_iff.mp h
    obtain ⟨hname, hdata⟩ := smoke_decode_own hdecode
    exact ⟨hname, by rw [hname]; decide, ⟨regs, hregs, hdecode⟩, Or.inl hdata⟩
  | airConditioner addr =>
    change AirConditionerProto.parse addr frame {} = some d at h
    rw [AirConditionerProto.parse_eq, if_neg (hp addr rfl)] at h
    obtain ⟨regs, hregs, hdecode⟩ := Option.bind_eq_some_iff.mp h
    obtain ⟨hname, hdata⟩ := airConditioner_decode_own hdecode
    exact ⟨hname, by rw [hname]; decide, ⟨regs, hregs, hdecode⟩, hdata⟩
  | hmi addr => cases h

variable {r : ProtocolRouter} {idx : Int} {frame : List Byte}

/-- What is posted as data comes from the protocol of the frame. -/
theorem message_deviceData (h : (r.message idx frame).type = .deviceData) :
    ∃ p, r.protoFor idx frame = some p ∧
      p.parse frame {} = some (r.message idx frame).deviceData := by
  unfold ProtocolRouter.message at h ⊢
  cases hparse : r.parseRs485 idx frame {} with
  | none =>
    rw [hparse] at h
    cases h
  | some d =>
    unfold ProtocolRouter.parseRs485 at hparse
    split at hparse
    · cases hparse
    · obtain ⟨p, hp, hd⟩ := Option.bind_eq_some_iff.mp hparse
      exact ⟨p, hp, hd⟩

theorem message_of_reply {addr : Byte} (hp : r.protoFor idx frame = some (.airConditioner addr))
    (h : AirConditionerProto.isReply addr frame = true) :
    r.message idx frame = ⟨.deviceData, .rs485, idx, {}⟩ := by
  have hlen := (AirConditionerProto.isReply_iff.mp h).1
  have hparse : r.parseRs485 idx frame {} = some {} := by
    rw [ProtocolRouter.parseRs485, if_neg (by omega), hp]
    show AirConditionerProto.parse addr frame {} = some {}
    rw [AirConditionerProto.parse_eq, if_pos h]
  rw [ProtocolRouter.message, hparse]

/-- A frame leads to what it should exactly when it is no response without data that an air
conditioner's protocol takes. -/
theorem frameSound_iff (r : ProtocolRouter) (idx : Int) (frame : List Byte) :
    FrameSound r idx frame ↔ ∀ addr, r.protoFor idx frame = some (.airConditioner addr) →
      AirConditionerProto.isReply addr frame = false := by
  constructor
  · intro h addr hp
    cases hreply : AirConditionerProto.isReply addr frame with
    | false => rfl
    | true =>
      have hmessage := message_of_reply hp hreply
      exact absurd (congrArg ParserMessage.type hmessage) (h.quiet addr hp hreply).1
  · intro h
    constructor
    · intro hdata
      obtain ⟨p, hp, hparse⟩ := message_deviceData hdata
      refine ⟨p, hp, parse_own ?_ hparse⟩
      intro addr hair
      rw [h addr (hair ▸ hp)]
      exact Bool.false_ne_true
    · intro addr hp hreply
      rw [h addr hp] at hreply
      cases hreply

def airPort : ProtocolRouter := ⟨[(2, .airConditioner 0x01)]⟩

/-- The air conditioner refuses to read. -/
def exceptionResponse : List Byte := appendCrc [0x01, 0x83, 0x02]

theorem message_exceptionResponse :
    airPort.message 2 exceptionResponse = ⟨.deviceData, .rs485, 2, {}⟩ :=
  message_of_reply rfl (by decide +kernel)

/-- The response is cut out of the bytes, posted as data without a name, and gets an entry in
the scheduler and in the aggregator. -/
theorem exceptionResponse_posted :
    (FrameAssembler.empty.receive 2 exceptionResponse).map Prod.fst = some [exceptionResponse] ∧
      airPort.message 2 exceptionResponse = ⟨.deviceData, .rs485, 2, {}⟩ ∧
      "" ∈ ((healthMerge true [] 100).run
        [.onParsed (airPort.message 2 exceptionResponse)]).sched.pollCtx.names ∧
      (((healthMerge true [] 100).run
        [.onParsed (airPort.message 2 exceptionResponse), .onDeviceData]).agg.items.get
          "").isSome = true ∧
      ¬ FrameSound airPort 2 exceptionResponse := by
  refine ⟨by decide +kernel, message_exceptionResponse, ?_, ?_, ?_⟩
  · rw [message_exceptionResponse]
    decide +kernel
  · rw [message_exceptionResponse]
    decide +kernel
  · intro h
    have hquiet := h.quiet 0x01 rfl (by decide +kernel)
    exact hquiet.1 (congrArg ParserMessage.type message_exceptionResponse)

end App
end EnergyStorage
