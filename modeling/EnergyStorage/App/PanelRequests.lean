import EnergyStorage.Hmi.Map
import EnergyStorage.Parser.ReqAssembler

/-! # From the bytes of the panel to its answers

The bytes of a request come in any pieces, and the controller writes to the tables in between.
The loop of the slave's port does with the pieces what the slave does with the requests. -/

namespace EnergyStorage

open Lib

def HmiOp.request? : HmiOp → Option HmiRequest
  | .request r => some r
  | .setBoolRw _ _ | .setIntRw _ _ | .setBoolRead _ _ | .setIntRead _ _ => none

namespace App

/-- A write by the controller. -/
structure LocalOp where
  op : HmiOp
  isLocal : op.request? = none

/-- The part of the parser's thread that serves the port, and its slave. -/
structure SlavePort where
  assembler : ModbusRtuReqAssembler := .empty
  proto : HMIProto

inductive SlaveStep
  | bytes (chunk : List Byte)
  | control (op : LocalOp)

namespace SlaveStep

def chunk : SlaveStep → List Byte
  | bytes c => c
  | control _ => []

def op? : SlaveStep → Option HmiOp
  | bytes _ => none
  | control c => some c.op

end SlaveStep

/-- The body of the loop for one request: the slave after it, and what is sent. -/
def serve (p : HMIProto) (frame : List Byte) : HMIProto × List (List Byte) :=
  let o := p.handleRequest frame
  (o.proto, if o.handled = true ∧ o.resp ≠ [] then [o.resp] else [])

def serveAll : HMIProto → List (List Byte) → HMIProto × List (List Byte)
  | p, [] => (p, [])
  | p, frame :: frames =>
    let rest := serveAll (serve p frame).1 frames
    (rest.1, (serve p frame).2 ++ rest.2)

namespace SlavePort

def step (idx : Int) (s : SlavePort) : SlaveStep → SlavePort × List (List Byte)
  | .bytes chunk =>
    match s.assembler.receive idx chunk with
    | none => (s, [])
    | some (frames, a) => (⟨a, (serveAll s.proto frames).1⟩, (serveAll s.proto frames).2)
  | .control c => ({ s with proto := (s.proto.step c.op).1 }, [])

end SlavePort

def slavePort (idx : Int) (slaveId : Byte) (onWrite : Bool) :
    Machine SlavePort SlaveStep (List Byte) :=
  ⟨{ proto := .start slaveId onWrite }, SlavePort.step idx⟩

/-- What the slave sends for an operation. -/
def replies (p : HMIProto) (op : HmiOp) : List (List Byte) :=
  match op.request? with
  | some r => (serve p r.bytes).2
  | none => []

/-! ### The requests in the stream -/

/-- The loop takes the bytes of the request when they are all there. -/
structure WellFormed (r : HmiRequest) : Prop where
  length : RequestLength r.bytes
  crc : ModbusCRC.verify r.bytes = true

section Stream

open ModbusRtuReqAssembler

theorem expectedLen_of_requestLength {f : List Byte} (h : RequestLength f) :
    expectedLen f = f.length := by
  rcases h with ⟨hfunc, hlen⟩ | ⟨hfunc, hlen⟩
  · have hfix : f.getD 1 0 = 0x01 ∨ f.getD 1 0 = 0x02 ∨ f.getD 1 0 = 0x03 ∨
        f.getD 1 0 = 0x04 ∨ f.getD 1 0 = 0x05 ∨ f.getD 1 0 = 0x06 := by simpa using hfunc
    rw [expectedLen, if_neg (by omega)]
    simp only
    rw [if_pos hfix, hlen]
    rfl
  · have hvar : f.getD 1 0 = 0x0F ∨ f.getD 1 0 = 0x10 := by simpa using hfunc
    have hfix : ¬ (f.getD 1 0 = 0x01 ∨ f.getD 1 0 = 0x02 ∨ f.getD 1 0 = 0x03 ∨
        f.getD 1 0 = 0x04 ∨ f.getD 1 0 = 0x05 ∨ f.getD 1 0 = 0x06) := by
      rcases hvar with h | h <;> rw [h] <;> decide
    rw [expectedLen, if_neg (by omega)]
    simp only
    rw [if_neg hfix, if_pos hvar, if_neg (by omega), hlen]
    push_cast
    rfl

theorem eight_le_of_requestLength {f : List Byte} (h : RequestLength f) : 8 ≤ f.length := by
  rcases h with ⟨-, hlen⟩ | ⟨-, hlen⟩ <;> omega

theorem WellFormed.look {r : HmiRequest} (h : WellFormed r) :
    framer.look r.bytes = .take r.bytes.length := by
  have hexp := expectedLen_of_requestLength h.length
  have hlen := eight_le_of_requestLength h.length
  show ModbusRtuReqAssembler.look r.bytes = _
  rw [ModbusRtuReqAssembler.look, if_neg (by omega), if_neg (by omega), if_neg (by omega), hexp,
    Int.toNat_natCast, List.take_length, if_pos h.crc]

/-- A request of which bytes are missing is waited for. -/
theorem look_part {r : HmiRequest} (h : WellFormed r) {part : List Byte}
    (hpart : part <+: r.bytes) (hne : part ≠ r.bytes) : framer.look part = .wait := by
  obtain ⟨rest, hrest⟩ := hpart
  have hmore : rest ≠ [] := by
    rintro rfl
    exact hne (by rw [← hrest, List.append_nil])
  have hlen : part.length < r.bytes.length := by
    have hpos := List.length_pos_iff.mpr hmore
    rw [← hrest, List.length_append]
    omega
  show ModbusRtuReqAssembler.look part = _
  by_cases hshort : part.length < 4 ∨ expectedLen part = -1
  · rw [ModbusRtuReqAssembler.look, if_pos hshort]
  · have hexp : expectedLen part = r.bytes.length := by
      have happ := expectedLen_append (fun he => hshort (Or.inr he)) rest
      rw [hrest, expectedLen_of_requestLength h.length] at happ
      exact happ.symm
    rw [ModbusRtuReqAssembler.look, if_neg hshort, if_neg (by omega), if_pos (by omega)]

end Stream

/-! ### The loop and the slave -/

section Run

variable (idx : Int) (slaveId : Byte) (onWrite : Bool)

theorem serveAll_requests (p : HMIProto) (rs : List HmiRequest) :
    serveAll p (rs.map HmiRequest.bytes) =
      ((hmiSlave slaveId onWrite).runFrom p (rs.map .request),
        (hmiSlave slaveId onWrite).traceFrom replies p (rs.map .request)) := by
  induction rs generalizing p with
  | nil => rfl
  | cons r rs ih =>
    rw [List.map_cons, serveAll, ih]
    rfl

/-- What the bytes come to that have come so far: operations of the slave. -/
structure Served (all : List HmiRequest) (es : List SlaveStep) (ops : List HmiOp) : Prop where
  requests : ops.filterMap HmiOp.request? =
    all.take ((ModbusRtuReqAssembler.framer.cut (es.flatMap SlaveStep.chunk)).1.length)
  locals : (ops.filter fun op => op.request?.isNone) = es.filterMap SlaveStep.op?
  proto : ((slavePort idx slaveId onWrite).run es).proto = (hmiSlave slaveId onWrite).run ops
  sent : (slavePort idx slaveId onWrite).trace (fun s e => (s.step idx e).2) es =
    (hmiSlave slaveId onWrite).trace replies ops
  rest : ((slavePort idx slaveId onWrite).run es).assembler.buf idx =
    (ModbusRtuReqAssembler.framer.cut (es.flatMap SlaveStep.chunk)).2

variable {idx slaveId onWrite} {all : List HmiRequest} {es : List SlaveStep} {ops : List HmiOp}

theorem Served.control (h : Served idx slaveId onWrite all es ops) (c : LocalOp) :
    Served idx slaveId onWrite all (es ++ [.control c]) (ops ++ [c.op]) := by
  have hstream : (es ++ [SlaveStep.control c]).flatMap SlaveStep.chunk =
      es.flatMap SlaveStep.chunk := by
    rw [List.flatMap_append]
    exact List.append_nil _
  have hreplies : ∀ p, replies p c.op = [] := by
    intro p
    rw [replies, c.isLocal]
  constructor
  · rw [hstream, List.filterMap_append, h.requests, List.filterMap_cons, c.isLocal]
    exact List.append_nil _
  · rw [List.filter_append, List.filterMap_append, h.locals, List.filter_cons, c.isLocal]
    rfl
  · rw [Machine.run_snoc, Machine.run_snoc, ← h.proto]
    rfl
  · rw [Machine.trace_snoc, Machine.trace_snoc, h.sent, hreplies]
    rfl
  · rw [hstream, Machine.run_snoc]
    exact h.rest

theorem Served.bytes (h : Served idx slaveId onWrite all es ops) (chunk : List Byte)
    (hall : (ModbusRtuReqAssembler.framer.cut
      ((es ++ [SlaveStep.bytes chunk]).flatMap SlaveStep.chunk)).1 <+: all.map HmiRequest.bytes) :
    ∃ ops', Served idx slaveId onWrite all (es ++ [.bytes chunk]) ops' := by
  have hstream : (es ++ [SlaveStep.bytes chunk]).flatMap SlaveStep.chunk =
      es.flatMap SlaveStep.chunk ++ chunk := by
    rw [List.flatMap_append, List.flatMap_singleton]
    rfl
  have hcut := ModbusRtuReqAssembler.framer.cut_append (es.flatMap SlaveStep.chunk) chunk
  rw [hstream, hcut] at hall
  have hrest := h.rest
  have hreq := h.requests
  generalize hbefore : ModbusRtuReqAssembler.framer.cut (es.flatMap SlaveStep.chunk) = before
    at hcut hall hrest hreq
  generalize hnow : ModbusRtuReqAssembler.framer.cut (before.2 ++ chunk) = now at hcut hall
  -- the frames of this chunk are the next requests
  have hsplit : now.1 = ((all.drop before.1.length).take now.1.length).map HmiRequest.bytes := by
    have hfull := List.prefix_iff_eq_take.mp hall
    have hold := List.prefix_iff_eq_take.mp ((List.prefix_append before.1 now.1).trans hall)
    rw [List.length_append, List.take_add, ← hold] at hfull
    rw [List.map_take, List.map_drop]
    exact List.append_cancel_left hfull
  have hreceive := ((slavePort idx slaveId onWrite).run es).assembler.receive_spec idx chunk
  rw [hrest, hnow] at hreceive
  have hserve := serveAll_requests slaveId onWrite ((slavePort idx slaveId onWrite).run es).proto
    ((all.drop before.1.length).take now.1.length)
  rw [← hsplit] at hserve
  have hstep : ((slavePort idx slaveId onWrite).run es).step idx (.bytes chunk) =
      (⟨⟨((slavePort idx slaveId onWrite).run es).assembler.bufs.insert idx now.2⟩,
        (serveAll ((slavePort idx slaveId onWrite).run es).proto now.1).1⟩,
        (serveAll ((slavePort idx slaveId onWrite).run es).proto now.1).2) := by
    rw [SlavePort.step, hreceive]
  refine ⟨ops ++ ((all.drop before.1.length).take now.1.length).map .request, ?_⟩
  constructor
  · rw [hstream, hcut, List.filterMap_append, hreq, List.length_append, List.take_add,
      List.filterMap_map]
    exact congrArg _ List.filterMap_some
  · have hnone : ∀ op ∈ ((all.drop before.1.length).take now.1.length).map HmiOp.request,
        ¬ op.request?.isNone = true := by
      intro op hop
      obtain ⟨r, -, rfl⟩ := List.mem_map.mp hop
      exact Bool.false_ne_true
    rw [List.filter_append, List.filterMap_append, h.locals, List.filter_eq_nil_iff.mpr hnone]
    rfl
  · rw [Machine.run_snoc, Machine.run_append, ← h.proto]
    show (SlavePort.step idx _ _).1.proto = _
    rw [hstep, hserve]
  · rw [Machine.trace_snoc, Machine.trace, Machine.trace, Machine.traceFrom_append, hstep, hserve,
      h.proto]
    exact congrArg (· ++ _) h.sent
  · rw [hstream, hcut, Machine.run_snoc]
    show ((SlavePort.step idx _ _).1.assembler.bufs.get idx).getD [] = _
    rw [hstep]
    show (((_ : Dict Int (List Byte)).insert idx now.2).get idx).getD [] = _
    rw [Dict.get_insert_self]
    rfl

theorem exists_served (hall : (ModbusRtuReqAssembler.framer.cut
      (es.flatMap SlaveStep.chunk)).1 <+: all.map HmiRequest.bytes) :
    ∃ ops, Served idx slaveId onWrite all es ops := by
  induction es using List.reverseRecOn with
  | nil =>
    have hnil : ModbusRtuReqAssembler.framer.cut [] = ([], []) := Framer.cut_of_wait rfl
    refine ⟨[], ?_, rfl, rfl, rfl, ?_⟩
    · rw [List.flatMap_nil, hnil]
      rfl
    · rw [List.flatMap_nil, hnil]
      rfl
  | append_singleton es e ih =>
    have hbefore : (ModbusRtuReqAssembler.framer.cut (es.flatMap SlaveStep.chunk)).1 <+:
        all.map HmiRequest.bytes := by
      rw [List.flatMap_append, Framer.cut_append] at hall
      exact (List.prefix_append _ _).trans hall
    obtain ⟨ops, hops⟩ := ih hbefore
    cases e with
    | bytes chunk => exact hops.bytes chunk hall
    | control c => exact ⟨_, hops.control c⟩

variable (idx slaveId onWrite) in
/-- In whatever pieces the requests of the panel come, and whatever the controller writes in
between: each request is carried out once, in the order in which they were sent and as soon as
its last byte has come, the answers are those of the slave, and what its tables hold afterwards is
what a map holds after the writes. -/
theorem panel_served {reqs : List HmiRequest} {next : HmiRequest} {part : List Byte}
    (hreqs : ∀ r ∈ reqs, WellFormed r) (hnext : WellFormed next) (hpart : part <+: next.bytes)
    (hne : part ≠ next.bytes)
    (hes : es.flatMap SlaveStep.chunk = reqs.flatMap HmiRequest.bytes ++ part) :
    let M := hmiSlave slaveId onWrite
    let s := (slavePort idx slaveId onWrite).run es
    ∃ ops : List HmiOp, ops.filterMap HmiOp.request? = reqs ∧
      (ops.filter fun op => op.request?.isNone) = es.filterMap SlaveStep.op? ∧
      s.proto = M.run ops ∧
      (slavePort idx slaveId onWrite).trace (fun s e => (s.step idx e).2) es =
        M.trace replies ops ∧
      s.proto.toMap = HmiMap.machine.run (M.trace HMIProto.writes ops) ∧
      s.assembler.buf idx = part := by
  intro M s
  have hcut : ModbusRtuReqAssembler.framer.cut (es.flatMap SlaveStep.chunk) =
      (reqs.map HmiRequest.bytes, part) := by
    rw [hes, List.flatMap_def]
    refine Framer.cut_frames rfl ?_ (look_part hnext hpart hne)
    intro f hf
    obtain ⟨r, hr, rfl⟩ := List.mem_map.mp hf
    exact (hreqs r hr).look
  have hall : (ModbusRtuReqAssembler.framer.cut (es.flatMap SlaveStep.chunk)).1 <+:
      reqs.map HmiRequest.bytes := by
    have hframes := congrArg Prod.fst hcut
    exact hframes ▸ List.prefix_refl _
  obtain ⟨ops, h⟩ : ∃ ops, Served idx slaveId onWrite reqs es ops := exists_served hall
  refine ⟨ops, ?_, h.locals, h.proto, h.sent, ?_, ?_⟩
  · rw [h.requests, hcut, List.length_map, List.take_length]
  · rw [h.proto]
    exact toMap_run slaveId onWrite ops
  · rw [h.rest, hcut]

end Run

/-- A write of one register and the beginning of a read. -/
def writeThenRead : List HmiRequest :=
  [⟨[0x03, 0x10, 0x20, 0x00, 0x00, 0x01, 0x02, 0x00, 0x07, 0xDF, 0x30], by decide⟩,
    ⟨[0x03, 0x03, 0x20, 0x00, 0x00, 0x01, 0x8E, 0x28], by decide⟩]

/-- The write comes in two pieces, and the controller writes in between. -/
def piecesOfWrite : List SlaveStep :=
  [.bytes [0x03, 0x10, 0x20, 0x00], .control ⟨.setIntRw 0x2000 9, rfl⟩,
    .bytes [0x00, 0x01, 0x02, 0x00, 0x07, 0xDF, 0x30, 0x03, 0x03]]

theorem panel_served_pieces :
    ∃ ops : List HmiOp, ops.filterMap HmiOp.request? = writeThenRead.take 1 ∧
      (ops.filter fun op => op.request?.isNone) = [.setIntRw 0x2000 9] ∧
      ((slavePort 3 0x03 true).run piecesOfWrite).proto = (hmiSlave 0x03 true).run ops ∧
      ((slavePort 3 0x03 true).run piecesOfWrite).assembler.buf 3 = [0x03, 0x03] := by
  have hwell : ∀ r ∈ writeThenRead, WellFormed r := by
    have hall : ∀ r ∈ writeThenRead, RequestLength r.bytes ∧ ModbusCRC.verify r.bytes = true := by
      simp only [RequestLength]
      decide +kernel
    exact fun r hr => ⟨(hall r hr).1, (hall r hr).2⟩
  have hnext : WellFormed writeThenRead[1] := hwell _ (List.getElem_mem _)
  have hpart : ([0x03, 0x03] : List Byte) <+: writeThenRead[1].bytes :=
    ⟨[0x20, 0x00, 0x00, 0x01, 0x8E, 0x28], rfl⟩
  have hstream : piecesOfWrite.flatMap SlaveStep.chunk =
      (writeThenRead.take 1).flatMap HmiRequest.bytes ++ [0x03, 0x03] := rfl
  obtain ⟨ops, hreqs, hlocals, hproto, -, -, hbuf⟩ := panel_served 3 0x03 true
    (fun r hr => hwell r (List.mem_of_mem_take hr)) hnext hpart (by decide) hstream
  exact ⟨ops, hreqs, hlocals, hproto, hbuf⟩

end App
end EnergyStorage
