import EnergyStorage.Hmi.AddressTable

/-! # The slave that answers the HMI -/

namespace EnergyStorage

structure HmiWriteEvent where
  addr : Word
  isBool : Bool
  valueU16 : Word
  isMulti : Bool
  deriving DecidableEq

/-- The slave, with whether a listener for writes is installed. -/
structure HMIProto where
  addr : Byte
  table : HmiAddressTable
  onWrite : Bool

/-- Whether the request was handled, the answer, and what it leaves and reports. -/
structure HmiOutcome where
  handled : Bool
  resp : List Byte
  proto : HMIProto
  events : List HmiWriteEvent

namespace HMIProto

open HmiAddressTable

def start (slaveId : Byte) (onWrite : Bool) : HMIProto := ⟨slaveId, .empty, onWrite⟩

/-! ### The tables as the controller writes them -/

def setBoolRead (p : HMIProto) (addr : Word) (v : Bool) : HMIProto :=
  { p with table := p.table.setBoolRead addr v }

def setIntRead (p : HMIProto) (addr v : Word) : HMIProto :=
  { p with table := p.table.setIntRead addr v }

def setBoolRw (p : HMIProto) (addr : Word) (v : Bool) : HMIProto :=
  { p with table := p.table.writeBoolRw addr v }

def setIntRw (p : HMIProto) (addr v : Word) : HMIProto :=
  { p with table := p.table.writeIntRw addr v }

/-! ### Reads -/

def bitAt (p : HMIProto) (func : Byte) (addr : Word) : Bool :=
  if func = 0x01 then
    match mapCoilAddr addr with
    | none => false
    | some _ => p.table.readBoolRw addr
  else
    match mapDiscreteAddr addr with
    | none => false
    | some _ => p.table.readBoolRead addr

def regAt (p : HMIProto) (func : Byte) (addr : Word) : Word :=
  if func = 0x03 then
    match mapHoldingAddr addr with
    | none => 0
    | some _ => p.table.readIntRw addr
  else
    match mapInputRegAddr addr with
    | none => 0
    | some _ => p.table.readIntRead addr

/-- Sets bit `i` of the data, which starts at the fourth byte. -/
def setBit (resp : List Byte) (i : Nat) : List Byte :=
  resp.modify (3 + i / 8) fun b => b ||| (1 : Byte) <<< (i % 8)

/-- The answer to a read of bits, before any bit is set. -/
def clearBits (p : HMIProto) (func : Byte) (byteCount : Word) : List Byte :=
  [p.addr, func, loByte byteCount] ++ List.replicate byteCount.toNat 0

def handleReadBits (p : HMIProto) (func : Byte) (start qty : Word) : List Byte :=
  let byteCount : Word := BitVec.ofNat 16 ((qty.toNat + 7) / 8)
  appendCrc ((List.range qty.toNat).foldl
    (fun resp i => if p.bitAt func (start + BitVec.ofNat 16 i) then setBit resp i else resp)
    (p.clearBits func byteCount))

def handleReadRegs (p : HMIProto) (func : Byte) (start qty : Word) : List Byte :=
  let byteCount : Word := qty * 2
  let data := (List.range qty.toNat).flatMap fun i =>
    let v := p.regAt func (start + BitVec.ofNat 16 i)
    [hiByte v, loByte v]
  appendCrc ([p.addr, func, loByte byteCount] ++ data)

/-! ### Writes -/

/-- The listener's calls. -/
def report (p : HMIProto) (ev : HmiWriteEvent) : List HmiWriteEvent :=
  if p.onWrite then [ev] else []

def writeCoil (p : HMIProto) (addr : Word) (v isMulti : Bool) :
    HMIProto × List HmiWriteEvent :=
  ({ p with table := p.table.writeBoolRw addr v },
    p.report ⟨addr, true, if v then 1 else 0, isMulti⟩)

def writeReg (p : HMIProto) (addr v : Word) (isMulti : Bool) : HMIProto × List HmiWriteEvent :=
  ({ p with table := p.table.writeIntRw addr v }, p.report ⟨addr, false, v, isMulti⟩)

/-- The answer to a write: the first six bytes of the request. -/
def handleWriteSingleCoil (p : HMIProto) (req : List Byte) (addr value : Word) : HmiOutcome :=
  match mapCoilAddr addr with
  | none => ⟨true, [], p, []⟩
  | some _ =>
    let w := p.writeCoil addr (value = 0xFF00) false
    ⟨true, appendCrc (req.take 6), w.1, w.2⟩

def handleWriteSingleReg (p : HMIProto) (req : List Byte) (addr value : Word) : HmiOutcome :=
  match mapHoldingAddr addr with
  | none => ⟨true, [], p, []⟩
  | some _ =>
    let w := p.writeReg addr value false
    ⟨true, appendCrc (req.take 6), w.1, w.2⟩

/-- One pass of the loop over the coils; addresses out of range are left out. -/
def coilPass (req : List Byte) (start : Word) (s : HMIProto × List HmiWriteEvent) (i : Nat) :
    HMIProto × List HmiWriteEvent :=
  let addr := start + BitVec.ofNat 16 i
  let v := (req.getD (7 + i / 8) 0).getLsbD (i % 8)
  match mapCoilAddr addr with
  | none => s
  | some _ => ((s.1.writeCoil addr v true).1, s.2 ++ (s.1.writeCoil addr v true).2)

def regPass (req : List Byte) (start : Word) (s : HMIProto × List HmiWriteEvent) (i : Nat) :
    HMIProto × List HmiWriteEvent :=
  let addr := start + BitVec.ofNat 16 i
  let v := be16 (req.getD (7 + i * 2) 0) (req.getD (7 + i * 2 + 1) 0)
  match mapHoldingAddr addr with
  | none => s
  | some _ => ((s.1.writeReg addr v true).1, s.2 ++ (s.1.writeReg addr v true).2)

/-- The answer to a write of several values: the start and the quantity asked for. -/
def ack (p : HMIProto) (func : Byte) (start qty : Word) : List Byte :=
  appendCrc [p.addr, func, hiByte start, loByte start, hiByte qty, loByte qty]

def handleWriteMultiCoils (p : HMIProto) (req : List Byte) (start qty : Word) : HmiOutcome :=
  if req.length < 9 then ⟨true, [], p, []⟩
  else
    let bytecount := (req.getD 6 0).toNat
    if req.length < 7 + bytecount + 2 then ⟨true, [], p, []⟩
    else
      -- the loop breaks at the first bit that lies behind the data
      let passes := (List.range qty.toNat).takeWhile fun i => i / 8 < bytecount
      let s := passes.foldl (coilPass req start) (p, [])
      ⟨true, p.ack 0x0F start qty, s.1, s.2⟩

def handleWriteMultiRegs (p : HMIProto) (req : List Byte) (start qty : Word) : HmiOutcome :=
  if req.length < 9 then ⟨true, [], p, []⟩
  else
    let bytecount := (req.getD 6 0).toNat
    if req.length < 7 + bytecount + 2 then ⟨true, [], p, []⟩
    else
      let regN := bytecount / 2
      let n := if qty.toNat < regN then qty.toNat else regN
      let s := (List.range n).foldl (regPass req start) (p, [])
      ⟨true, p.ack 0x10 start qty, s.1, s.2⟩

/-- A wrong checksum or an unknown function code gets no answer. -/
def handleRequest (p : HMIProto) (req : List Byte) : HmiOutcome :=
  if req.length < 8 then ⟨false, [], p, []⟩
  else
    let ra := req.getD 0 0
    let func := req.getD 1 0
    if ra ≠ p.addr then ⟨false, [], p, []⟩
    else if ModbusCRC.verify req = false then ⟨true, [], p, []⟩
    else
      let start := be16 (req.getD 2 0) (req.getD 3 0)
      let vOrQty := be16 (req.getD 4 0) (req.getD 5 0)
      if func = 0x01 ∨ func = 0x02 then
        if vOrQty = 0 then ⟨true, [], p, []⟩
        else ⟨true, p.handleReadBits func start vOrQty, p, []⟩
      else if func = 0x03 ∨ func = 0x04 then
        if vOrQty = 0 then ⟨true, [], p, []⟩
        else ⟨true, p.handleReadRegs func start vOrQty, p, []⟩
      else if func = 0x05 then p.handleWriteSingleCoil req start vOrQty
      else if func = 0x06 then p.handleWriteSingleReg req start vOrQty
      else if func = 0x0F then p.handleWriteMultiCoils req start vOrQty
      else if func = 0x10 then p.handleWriteMultiRegs req start vOrQty
      else ⟨true, [], p, []⟩

end HMIProto
end EnergyStorage
