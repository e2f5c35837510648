import EnergyStorage.App.Rs485Queries

/-! # From a poll to the posted data

The queries of a port, the answers of its device and the reader at this end are put together: each
answer is posted as what the device had in the registers that it was asked for. -/

namespace EnergyStorage
namespace App

open Lib (Dict Framer)
open AirConditionerProto (PollStage segmentOf stageAt alarmKeyByOffset)

/-! ### An answer -/

namespace Rs485Proto

theorem registers_close (p : Rs485Proto) (hp : p.IsPolled) {values : List Word}
    (hmax : values.length ≤ 62) :
    p.registers (p.order.close (registerAnswer p.slaveAddr values)) = some values := by
  cases p with
  | gas addr => exact parseHoldingRegs03_registerAnswer .hiLo addr hmax
  | smoke addr => exact parseHoldingRegs03_registerAnswer .hiLo addr hmax
  | airConditioner addr => exact parseHoldingRegs03_registerAnswer .loHi addr hmax
  | hmi addr => exact absurd rfl (hp addr)

/-- Registers are never taken for a response without data. -/
theorem parse_of_registers {p : Rs485Proto} {frame : List Byte} {values : List Word}
    (h : p.registers frame = some values) : p.parse frame {} = p.decode values := by
  cases p with
  | gas addr =>
    show (parseHoldingRegs03 ModbusCRC.verifyHiLo addr frame).bind GasDetectorProto.decode = _
    rw [show parseHoldingRegs03 ModbusCRC.verifyHiLo addr frame = some values from h]
    rfl
  | smoke addr =>
    show (parseHoldingRegs03 ModbusCRC.verifyHiLo addr frame).bind (SmokeSensorProto.decode · {}) =
      _
    rw [show parseHoldingRegs03 ModbusCRC.verifyHiLo addr frame = some values from h]
    rfl
  | airConditioner addr =>
    have hregs : parseHoldingRegs03 ModbusCRC.verify addr frame = some values := h
    have hfunc := func_of_parseHoldingRegs03 hregs
    have hreply : ¬ AirConditionerProto.isReply addr frame = true := by
      intro hreply
      obtain ⟨-, -, -, hcode⟩ := AirConditionerProto.isReply_iff.mp hreply
      rw [hfunc] at hcode
      rcases hcode with hexc | ⟨-, h6 | h10⟩
      · exact hexc (by decide)
      · exact absurd h6 (by decide)
      · exact absurd h10 (by decide)
    show AirConditionerProto.parse addr frame {} = AirConditionerProto.decode values
    rw [AirConditionerProto.parse_eq, if_neg hreply, hregs]
    rfl
  | hmi addr => cases h

end Rs485Proto

section Message

variable {r : ProtocolRouter} {idx : Int} {p : Rs485Proto}

theorem message_of_registers {frame : List Byte} {values : List Word}
    (hlookup : r.proto.lookup idx = some p) (hlen : 2 ≤ frame.length)
    (h : p.registers frame = some values) : r.message idx frame = p.reported idx values := by
  have hfor : r.protoFor idx frame = some p := by rw [ProtocolRouter.protoFor, hlookup]
  rw [ProtocolRouter.message, ProtocolRouter.parseRs485, if_neg (by omega), hfor,
    Option.bind_some, Rs485Proto.parse_of_registers h]
  rfl

theorem message_answer (hlookup : r.proto.lookup idx = some p) (hp : p.IsPolled) (k : Nat)
    (regs : Word → Word) :
    r.message idx ((p.server regs).answer (p.query k)) = p.reported idx (p.answered k regs) := by
  have hcount := p.asked_count k
  have hvalues := p.length_answered k regs
  rw [p.answer_query]
  apply message_of_registers hlookup
  · rw [CrcOrder.length_close]
    omega
  · exact p.registers_close hp (by omega)

theorem answers_range (p : Rs485Proto) (regs : Nat → Word → Word) (n : Nat) :
    p.answers regs ((List.range n).map p.query) =
      (List.range n).map fun k => (p.server (regs k)).answer (p.query k) := by
  rw [Rs485Proto.answers]
  apply List.ext_getElem
  · rw [List.length_mapIdx, List.length_map, List.length_map]
  · intro k hk hk'
    rw [List.getElem_mapIdx, List.getElem_map, List.getElem_map, List.getElem_range]

theorem isResponse_answer (p : Rs485Proto) (k : Nat) (regs : Word → Word) :
    FrameAssembler.IsResponse ((p.server regs).answer (p.query k)) := by
  have hcount := p.asked_count k
  have hvalues := p.length_answered k regs
  rw [p.answer_query]
  exact isResponse_registerAnswer _ _ (by omega) (by omega)

/-- However the ports are polled, and however the answers come in among the bytes of the other
ports, they are cut one by one. -/
theorem answers_cut (hlookup : r.proto.lookup idx = some p) (hp : p.IsPolled) (polls : List Int)
    (regs : Nat → Word → Word) {cs : List (Int × List Byte)}
    (hcs : (onPort idx cs).flatten =
      (p.answers regs (onPort idx ((⟨r, .empty⟩ : RouterPolls).sent polls))).flatten) :
    ∃ out a, FrameAssembler.feedAll .empty cs = some (out, a) ∧ a.buf idx = [] ∧
      onPort idx out =
        (List.range (polls.count idx)).map fun k => (p.server (regs k)).answer (p.query k) := by
  have hstart : (⟨r, .empty⟩ : RouterPolls).At idx p 0 := ⟨hlookup, fun _ _ => rfl⟩
  have hsent := hstart.sent hp polls
  simp only [Nat.zero_add] at hsent
  rw [hsent, answers_range] at hcs
  obtain ⟨out, a, hfeed⟩ := FrameAssembler.feedAll_isSome .empty cs
  obtain ⟨hout, hbuf⟩ := FrameAssembler.feedAll_eq hfeed idx
  have hlook : ∀ f ∈ (List.range (polls.count idx)).map fun k =>
      (p.server (regs k)).answer (p.query k), FrameAssembler.framer.look f = .take f.length := by
    intro f hf
    obtain ⟨k, -, rfl⟩ := List.mem_map.mp hf
    exact (isResponse_answer p k (regs k)).look
  have hall := (Framer.halts_stopping FrameAssembler.framer).feed_of_frames rfl hlook hcs
  have hempty : FrameAssembler.empty.buf idx = [] := rfl
  rw [hempty, hall] at hout hbuf
  exact ⟨out, a, hfeed, hbuf, hout⟩

end Message

/-- Each answer is posted as the registers that were asked for, in the order of the queries. -/
theorem queries_answered {r : ProtocolRouter} {idx : Int} {p : Rs485Proto}
    (hlookup : r.proto.lookup idx = some p) (hp : p.IsPolled) (polls : List Int)
    (regs : Nat → Word → Word) {cs : List (Int × List Byte)}
    (hcs : (onPort idx cs).flatten =
      (p.answers regs (onPort idx ((⟨r, .empty⟩ : RouterPolls).sent polls))).flatten) :
    ∃ out a, FrameAssembler.feedAll .empty cs = some (out, a) ∧ a.buf idx = [] ∧
      (onPort idx out).map (r.message idx) =
        (List.range (polls.count idx)).map fun k => p.reported idx (p.answered k (regs k)) := by
  obtain ⟨out, a, hfeed, hbuf, hout⟩ := answers_cut hlookup hp polls regs hcs
  refine ⟨out, a, hfeed, hbuf, ?_⟩
  rw [hout, List.map_map]
  apply List.map_congr_left
  intro k _
  exact message_answer hlookup hp k (regs k)

theorem flatten_onPort_split {idx port : Int} (h : port ≠ idx) (s : List Byte) (n : Nat)
    (bytes : List Byte) :
    (onPort idx [(idx, s.take n), (port, bytes), (idx, s.drop n)]).flatten = s := by
  rw [onPort_cons_self, onPort_cons_of_ne h, onPort_cons_self]
  show s.take n ++ (s.drop n ++ []) = s
  rw [List.append_nil, List.take_append_drop]

/-- A gas detector and an air conditioner, with the same address. -/
def gasAndAir : ProtocolRouter := ⟨[(0, .gas 0x01), (2, .airConditioner 0x01)]⟩

/-- What the air conditioner sends when its port is polled twice, with the compressor on in
between. -/
def compressorAnswers : List (List Byte) :=
  (Rs485Proto.airConditioner 0x01).answers
    (fun k a => if a = 0x0103 then BitVec.ofNat 16 k else 0)
    (onPort 2 ((⟨gasAndAir, .empty⟩ : RouterPolls).sent [2, 0, 2]))

/-- The answers with a byte of the gas detector in between. -/
def compressorBytes : List (Int × List Byte) :=
  [(2, compressorAnswers.flatten.take 4), (0, [0x01]), (2, compressorAnswers.flatten.drop 4)]

theorem queries_answered_compressor : ∃ out a,
    FrameAssembler.feedAll .empty compressorBytes = some (out, a) ∧
      (onPort 2 out).map (fun f => (gasAndAir.message 2 f).deviceData.num.get "run.compressor") =
        [some ((0#16).toNat : ℚ), some ((1#16).toNat : ℚ)] := by
  have hcs : (onPort 2 compressorBytes).flatten = compressorAnswers.flatten :=
    flatten_onPort_split (by decide) compressorAnswers.flatten 4 [0x01]
  obtain ⟨out, a, hfeed, -, hout⟩ := queries_answered (r := gasAndAir) (p := .airConditioner 0x01)
    rfl (fun addr h => nomatch h) [2, 0, 2]
    (fun k a => if a = 0x0103 then BitVec.ofNat 16 k else 0) hcs
  have hmap := congrArg (List.map fun m : ParserMessage => m.deviceData.num.get "run.compressor")
    hout
  rw [List.map_map] at hmap
  exact ⟨out, a, hfeed, hmap⟩

/-! ### The segments of an air conditioner -/

theorem stageAt_add (m i : Nat) : stageAt (m + 1 + i) =
    AirConditionerProto.kSeq.getD ((m % 14 + i) % 14) .runState := by
  rw [Nat.add_right_comm]
  show AirConditionerProto.kSeq.getD ((m + i) % 14) .runState = _
  rw [Nat.mod_add_mod]

/-- Of four queries in a row one asks for the alarms. -/
theorem alarms_within_four (k : Nat) : ∃ j, k ≤ j ∧ j < k + 4 ∧ stageAt j = .alarms := by
  have hcycle : ∀ m < 14, ∃ i < 4,
      AirConditionerProto.kSeq.getD ((m + i) % 14) .runState = .alarms := by decide
  cases k with
  | zero => exact ⟨3, by omega, by omega, rfl⟩
  | succ m =>
    obtain ⟨i, hi, hstage⟩ := hcycle (m % 14) (Nat.mod_lt m (by omega))
    exact ⟨m + 1 + i, by omega, by omega, (stageAt_add m i).trans hstage⟩

/-- Of fifteen queries in a row one asks for any given segment. -/
theorem stage_within_fifteen (s : PollStage) (k : Nat) :
    ∃ j, k ≤ j ∧ j < k + 15 ∧ stageAt j = s := by
  have hcycle : ∀ m < 14, ∃ i < 14,
      AirConditionerProto.kSeq.getD ((m + i) % 14) .runState = s := by
    cases s <;> decide
  cases k with
  | zero =>
    obtain ⟨i, hi, hstage⟩ := hcycle 0 (by omega)
    refine ⟨0 + 1 + i, by omega, by omega, (stageAt_add 0 i).trans ?_⟩
    exact hstage
  | succ m =>
    obtain ⟨i, hi, hstage⟩ := hcycle (m % 14) (Nat.mod_lt m (by omega))
    exact ⟨m + 1 + i, by omega, by omega, (stageAt_add m i).trans hstage⟩

/-! ### The data of a segment -/

section Segment

open AirConditionerProto

theorem value_fillSegmentData (seg : SegmentData) (d : DeviceData) :
    (fillSegmentData seg d).value = d.value := by
  have hnum : ∀ (l : List (String × ℚ)) (d : DeviceData),
      (l.foldl (fun d e => d.setNum e.1 e.2) d).value = d.value := by
    intro l
    induction l with
    | nil => exact fun _ => rfl
    | cons e l ih => exact fun d => ih _
  have hstatus : ∀ (l : List (String × Nat)) (d : DeviceData),
      (l.foldl (fun d e => d.setStatus e.1 e.2) d).value = d.value := by
    intro l
    induction l with
    | nil => exact fun _ => rfl
    | cons e l ih => exact fun d => ih _
  rw [fillSegmentData, hstatus, hnum]

/-- A segment is never without data. -/
theorem segmentData_filled (s : PollStage) {values : List Word}
    (h : values.length = (segmentOf s).count.toNat) :
    ((segmentData s values).num.isEmpty && (segmentData s values).status.isEmpty) = false := by
  cases s with
  | version =>
    have hlen : values.length = 1 := h
    rw [segmentData, if_pos (by omega)]
    rfl
  | runState =>
    have hlen : values.length = 6 := h
    rw [segmentData, if_pos (by omega)]
    rfl
  | sensors =>
    have hlen : values.length = 9 := h
    rw [segmentData, if_pos (by omega)]
    rfl
  | alarms => simp [segmentData]
  | params =>
    have hlen : values.length = 11 := h
    rw [segmentData, if_pos (by omega)]
    rfl

/-- The registers of a segment are decoded as that segment. -/
theorem decode_segment (s : PollStage) {values : List Word}
    (h : values.length = (segmentOf s).count.toNat) :
    ∃ base : DeviceData, decode values = some (fillSegmentData (segmentData s values) base) ∧
      base.value.get "__air_stage" = some s.code := by
  rw [decode, h, inferStage_segmentOf]
  dsimp only
  rw [segmentData_filled s h]
  refine ⟨_, rfl, ?_⟩
  rfl

theorem get_status_fill_other {k : String} {l : List (String × Nat)} (h : k ∉ l.map Prod.fst)
    (d : DeviceData) : (l.foldl (fun d e => d.setStatus e.1 e.2) d).status.get k =
      d.status.get k := by
  induction l generalizing d with
  | nil => rfl
  | cons e l ih =>
    rw [List.map_cons, List.mem_cons, not_or] at h
    rw [List.foldl_cons, ih h.2]
    exact d.status.get_insert_of_ne h.1 e.2

theorem get_status_fill_mem {k : String} {n : Nat} {l : List (String × Nat)}
    (hnodup : (l.map Prod.fst).Nodup) (h : (k, n) ∈ l) (d : DeviceData) :
    (l.foldl (fun d e => d.setStatus e.1 e.2) d).status.get k = some n := by
  induction l generalizing d with
  | nil => cases h
  | cons e l ih =>
    rw [List.map_cons, List.nodup_cons] at hnodup
    rw [List.foldl_cons]
    rcases List.mem_cons.mp h with rfl | hmem
    · rw [get_status_fill_other hnodup.1]
      exact Dict.get_insert_self _ k n
    · exact ih hnodup.2 hmem _

theorem get_status_fillSegmentData {k : String} {n : Nat} {seg : SegmentData}
    (hnodup : (seg.status.map Prod.fst).Nodup) (h : (k, n) ∈ seg.status) (d : DeviceData) :
    (fillSegmentData seg d).status.get k = some n := by
  rw [fillSegmentData]
  exact get_status_fill_mem hnodup h _

/-- What the segment of the alarms fills in. -/
theorem status_alarms {values : List Word} (h : values.length = 33) :
    (segmentData .alarms values).status =
      (values.zipIdx.map fun r => (alarmKeyByOffset r.2, (decide (r.1 ≠ 0)).toNat)) ++
        [("alarm.any", (decide (∃ r ∈ values, r ≠ 0)).toNat)] := by
  have htake : values.take 33 = values := List.take_of_length_le (by omega)
  rw [segmentData, htake]

theorem alarmKeys_nodup : (alarmKeys ++ ["alarm.any"]).Nodup := by decide +kernel

/-- The names under which the alarms are filled in. -/
theorem names_alarms {values : List Word} (h : values.length = 33) :
    (segmentData .alarms values).status.map Prod.fst = alarmKeys ++ ["alarm.any"] := by
  have hkeys : (List.range 33).map alarmKeyByOffset = alarmKeys := by decide +kernel
  rw [status_alarms h, List.map_append, List.map_map]
  refine congrArg₂ (· ++ ·) ?_ rfl
  rw [← hkeys, ← h]
  apply List.ext_getElem
  · simp
  · intro i hi hi'
    simp

end Segment

/-- The alarms of an air conditioner with the given registers. -/
structure AlarmsOf (regs : Word → Word) (d : DeviceData) : Prop where
  each : ∀ i < 33, d.status.get (alarmKeyByOffset i) =
    some (decide (regs (0x0600 + BitVec.ofNat 16 i) ≠ 0)).toNat
  any : d.status.get "alarm.any" =
    some (decide (∃ i ∈ List.range 33, regs (0x0600 + BitVec.ofNat 16 i) ≠ 0)).toNat

theorem alarmsOf_fill (s : ModbusServer) (base : DeviceData) :
    AlarmsOf s.regs (AirConditionerProto.fillSegmentData
      (AirConditionerProto.segmentData .alarms (s.values 0x0600 0x21)) base) := by
  have hlen : (s.values 0x0600 0x21).length = 33 := s.length_values _ _
  have hnodup : ((AirConditionerProto.segmentData .alarms (s.values 0x0600 0x21)).status.map
      Prod.fst).Nodup := by
    rw [names_alarms hlen]
    exact alarmKeys_nodup
  have hstatus := status_alarms hlen
  constructor
  · intro i hi
    apply get_status_fillSegmentData hnodup
    rw [hstatus]
    have hmem : (s.regs (0x0600 + BitVec.ofNat 16 i), i) ∈ (s.values 0x0600 0x21).zipIdx := by
      have hcount : i < (0x21 : Word).toNat := hi
      rw [List.mem_zipIdx_iff_getElem?, ModbusServer.values, List.getElem?_map,
        List.getElem?_range hcount]
      rfl
    exact List.mem_append_left _ (List.mem_map_of_mem hmem)
  · apply get_status_fillSegmentData hnodup
    rw [hstatus]
    have hany : (∃ v ∈ s.values 0x0600 0x21, v ≠ 0) ↔
        ∃ i ∈ List.range 33, s.regs (0x0600 + BitVec.ofNat 16 i) ≠ 0 := by
      constructor
      · rintro ⟨v, hv, hne⟩
        obtain ⟨i, hi, rfl⟩ := List.mem_map.mp hv
        exact ⟨i, hi, hne⟩
      · rintro ⟨i, hi, hne⟩
        exact ⟨_, List.mem_map_of_mem hi, hne⟩
    simp only [hany]
    exact List.mem_append_right _ (List.mem_singleton_self _)

/-- However the ports are polled and the answers come in, fifteen answers of an air conditioner in
a row bring all its segments, and four of them its alarms as they are. -/
theorem alarms_reported {r : ProtocolRouter} {idx : Int} {addr : Byte}
    (hlookup : r.proto.lookup idx = some (.airConditioner addr)) (polls : List Int)
    (regs : Nat → Word → Word) {cs : List (Int × List Byte)}
    (hcs : (onPort idx cs).flatten = ((Rs485Proto.airConditioner addr).answers regs
      (onPort idx ((⟨r, .empty⟩ : RouterPolls).sent polls))).flatten) :
    ∃ out a, FrameAssembler.feedAll .empty cs = some (out, a) ∧
      (onPort idx out).length = polls.count idx ∧
      (∀ k s, k + 15 ≤ polls.count idx → ∃ j f, k ≤ j ∧ j < k + 15 ∧
        (onPort idx out)[j]? = some f ∧ (r.message idx f).type = .deviceData ∧
        (r.message idx f).deviceData.value.get "__air_stage" =
          some (AirConditionerProto.PollStage.code s)) ∧
      ∀ k, k + 4 ≤ polls.count idx → ∃ j f, k ≤ j ∧ j < k + 4 ∧
        (onPort idx out)[j]? = some f ∧ (r.message idx f).type = .deviceData ∧
        AlarmsOf (regs j) (r.message idx f).deviceData := by
  have hp : (Rs485Proto.airConditioner addr).IsPolled := fun addr' h => nomatch h
  obtain ⟨out, a, hfeed, -, hout⟩ := answers_cut hlookup hp polls regs hcs
  -- the message of the answer to a query is that of the stage asked for
  have hmessage : ∀ j < polls.count idx, ∃ (f : List Byte) (base : DeviceData),
      (onPort idx out)[j]? = some f ∧
      base.value.get "__air_stage" = some (stageAt j).code ∧
      r.message idx f = ⟨.deviceData, .rs485, idx, AirConditionerProto.fillSegmentData
        (AirConditionerProto.segmentData (stageAt j)
          ((Rs485Proto.airConditioner addr).answered j (regs j))) base⟩ := by
    intro j hj
    obtain ⟨base, hdecode, hstage⟩ := decode_segment (stageAt j)
      ((Rs485Proto.airConditioner addr).length_answered j (regs j))
    refine ⟨((Rs485Proto.airConditioner addr).server (regs j)).answer
      ((Rs485Proto.airConditioner addr).query j), base, ?_, hstage, ?_⟩
    · rw [hout, List.getElem?_map, List.getElem?_range hj]
      rfl
    · have hdecoded : (Rs485Proto.airConditioner addr).decode
          ((Rs485Proto.airConditioner addr).answered j (regs j)) = some _ := hdecode
      rw [message_answer hlookup hp j (regs j), Rs485Proto.reported, hdecoded]
  refine ⟨out, a, hfeed, ?_, ?_, ?_⟩
  · rw [hout, List.length_map, List.length_range]
  · intro k s hk
    obtain ⟨j, hkj, hjk, hstage⟩ := stage_within_fifteen s k
    obtain ⟨f, base, hf, hbase, hmsg⟩ := hmessage j (by omega)
    refine ⟨j, f, hkj, hjk, hf, by rw [hmsg], ?_⟩
    rw [hmsg, ← hstage]
    dsimp only
    rw [value_fillSegmentData]
    exact hbase
  · intro k hk
    obtain ⟨j, hkj, hjk, hstage⟩ := alarms_within_four k
    obtain ⟨f, base, hf, -, hmsg⟩ := hmessage j (by omega)
    refine ⟨j, f, hkj, hjk, hf, by rw [hmsg], ?_⟩
    rw [hmsg]
    dsimp only
    rw [Rs485Proto.answered, Rs485Proto.asked, hstage]
    exact alarmsOf_fill ((Rs485Proto.airConditioner addr).server (regs j)) base

/-- What the air conditioner sends when its port is polled four times, with smoke about. -/
def smokeAnswers : List (List Byte) :=
  (Rs485Proto.airConditioner 0x01).answers (fun _ a => if a = 0x0614 then 1 else 0)
    (onPort 2 ((⟨gasAndAir, .empty⟩ : RouterPolls).sent [2, 2, 2, 2]))

def smokeBytes : List (Int × List Byte) :=
  [(2, smokeAnswers.flatten.take 7), (0, [0x01]), (2, smokeAnswers.flatten.drop 7)]

theorem alarms_reported_smoke : ∃ out a,
    FrameAssembler.feedAll .empty smokeBytes = some (out, a) ∧
      ∃ j f, j < 4 ∧ (onPort 2 out)[j]? = some f ∧
        (gasAndAir.message 2 f).deviceData.status.get "alarm.smoke_alarm" = some 1 := by
  have hcs : (onPort 2 smokeBytes).flatten = smokeAnswers.flatten :=
    flatten_onPort_split (by decide) smokeAnswers.flatten 7 [0x01]
  have hlookup : gasAndAir.proto.lookup 2 = some (.airConditioner 0x01) := rfl
  obtain ⟨out, a, hfeed, -, -, halarms⟩ := alarms_reported hlookup
    [2, 2, 2, 2] (fun _ a => if a = 0x0614 then 1 else 0) hcs
  obtain ⟨j, f, -, hj, hf, -, hfilled⟩ := halarms 0 (Nat.le_refl 4)
  exact ⟨out, a, hfeed, j, f, by omega, hf, hfilled.each 0x14 (by omega)⟩

end App
end EnergyStorage
