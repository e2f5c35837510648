import EnergyStorage.Parser.FrameAssembler
import EnergyStorage.Protocol.Rs485Devices

/-! # A device that serves its registers

The other end of a master port: it takes a read query and sends its registers back.  Some devices
close their frames with the high byte of the checksum first, some with the low one. -/

namespace EnergyStorage

inductive CrcOrder
  | hiLo | loHi
  deriving DecidableEq, Repr

namespace CrcOrder

/-- A body with its checksum behind it. -/
def close : CrcOrder → List Byte → List Byte
  | hiLo, body => body ++ [hiByte (ModbusCRC.calcCrc body), loByte (ModbusCRC.calcCrc body)]
  | loHi, body => appendCrc body

def verify : CrcOrder → List Byte → Bool
  | hiLo => ModbusCRC.verifyHiLo
  | loHi => ModbusCRC.verify

theorem close_eq (o : CrcOrder) (body : List Byte) :
    ∃ c c', o.close body = body ++ [c, c'] := by
  cases o with
  | hiLo => exact ⟨_, _, rfl⟩
  | loHi => exact ⟨_, _, rfl⟩

theorem length_close (o : CrcOrder) (body : List Byte) :
    (o.close body).length = body.length + 2 := by
  obtain ⟨c, c', h⟩ := o.close_eq body
  rw [h, List.length_append]
  rfl

theorem getD_close (o : CrcOrder) {body : List Byte} {i : Nat} (h : i < body.length) :
    (o.close body).getD i 0 = body.getD i 0 := by
  obtain ⟨c, c', hclose⟩ := o.close_eq body
  rw [hclose, List.getD_append body [c, c'] 0 i h]

theorem verifyHiLo_close {body : List Byte} (h : 2 ≤ body.length) (h' : body.length < 2 ^ 16) :
    ModbusCRC.verifyHiLo (hiLo.close body) = true := by
  have hlen := hiLo.length_close body
  have hne : body ≠ [] := by
    rintro rfl
    cases h
  rw [ModbusCRC.verifyHiLo, if_neg (by omega), hlen]
  have hlast : (hiLo.close body).getD (body.length + 1) 0 =
      loByte (ModbusCRC.calcCrc body) := by
    rw [close, List.getD_append_right _ _ _ _ (by omega), Nat.add_sub_cancel_left]
    rfl
  have hprev : (hiLo.close body).getD body.length 0 = hiByte (ModbusCRC.calcCrc body) := by
    rw [close, List.getD_append_right _ _ _ _ (Nat.le_refl _), Nat.sub_self]
    rfl
  have hcalc : ModbusCRC.calcLen (hiLo.close body) body.length = ModbusCRC.calcCrc body := by
    rw [ModbusCRC.calcCrc, if_neg hne, ModbusCRC.calcLen, ModbusCRC.calcLen,
      Nat.mod_eq_of_lt h', close, List.take_left, List.take_length]
  show (be16 ((hiLo.close body).getD body.length 0) ((hiLo.close body).getD (body.length + 1) 0) ==
    ModbusCRC.calcLen (hiLo.close body) body.length) = true
  rw [hlast, hprev, be16_hiByte_loByte, hcalc, beq_self_eq_true]

/-- What is closed is accepted. -/
theorem verify_close (o : CrcOrder) (body : List Byte) (h : 2 ≤ body.length)
    (h' : body.length < 2 ^ 16) : o.verify (o.close body) = true := by
  cases o with
  | hiLo => exact verifyHiLo_close h h'
  | loHi => exact verify_appendCrc h h'

end CrcOrder

/-! ### Queries and answers -/

/-- The body of a query for registers. -/
def readHolding (slave : Byte) (start count : Word) : List Byte :=
  [slave, 0x03, hiByte start, loByte start, hiByte count, loByte count]

def registerBytes (values : List Word) : List Byte :=
  values.flatMap fun v => [hiByte v, loByte v]

/-- The body of an answer with registers. -/
def registerAnswer (slave : Byte) (values : List Word) : List Byte :=
  [slave, 0x03, BitVec.ofNat 8 (2 * values.length)] ++ registerBytes values

/-- A device with its address, the order of its checksums and its registers. -/
structure ModbusServer where
  addr : Byte
  order : CrcOrder
  regs : Word → Word

namespace ModbusServer

/-- The registers from `start` on. -/
def values (s : ModbusServer) (start count : Word) : List Word :=
  (List.range count.toNat).map fun i => s.regs (start + BitVec.ofNat 16 i)

/-- What it sends for a query; nothing when the query is for another device or damaged, and an
exception when the count is out of range. -/
def answer (s : ModbusServer) (query : List Byte) : List Byte :=
  if query.length = 8 ∧ query.getD 0 0 = s.addr ∧ query.getD 1 0 = 0x03 ∧
      s.order.verify query = true then
    let start := be16 (query.getD 2 0) (query.getD 3 0)
    let count := be16 (query.getD 4 0) (query.getD 5 0)
    if 1 ≤ count.toNat ∧ count.toNat ≤ 125 then
      s.order.close (registerAnswer s.addr (s.values start count))
    else s.order.close [s.addr, 0x83, 0x03]
  else []

theorem length_values (s : ModbusServer) (start count : Word) :
    (s.values start count).length = count.toNat := by
  rw [values, List.length_map, List.length_range]

/-- The query for some registers is answered with them. -/
theorem answer_readHolding (s : ModbusServer) (start : Word) {count : Word}
    (hpos : 1 ≤ count.toNat) (hmax : count.toNat ≤ 125) :
    s.answer (s.order.close (readHolding s.addr start count)) =
      s.order.close (registerAnswer s.addr (s.values start count)) := by
  have hbody : (readHolding s.addr start count).length = 6 := rfl
  have hlen := s.order.length_close (readHolding s.addr start count)
  have hread : ∀ i < 6, (s.order.close (readHolding s.addr start count)).getD i 0 =
      (readHolding s.addr start count).getD i 0 := fun i hi => s.order.getD_close hi
  have hcrc := s.order.verify_close (readHolding s.addr start count)
    (by rw [hbody]; omega) (by rw [hbody]; omega)
  rw [answer, if_pos ⟨hlen, hread 0 (by omega), hread 1 (by omega), hcrc⟩, hread 2 (by omega),
    hread 3 (by omega), hread 4 (by omega), hread 5 (by omega)]
  show (if 1 ≤ (be16 (hiByte count) (loByte count)).toNat ∧
      (be16 (hiByte count) (loByte count)).toNat ≤ 125 then
    s.order.close (registerAnswer s.addr
      (s.values (be16 (hiByte start) (loByte start)) (be16 (hiByte count) (loByte count))))
    else _) = _
  rw [be16_hiByte_loByte, be16_hiByte_loByte, if_pos ⟨hpos, hmax⟩]

end ModbusServer

/-! ### Reading an answer -/

theorem length_registerBytes (values : List Word) :
    (registerBytes values).length = 2 * values.length := by
  induction values with
  | nil => rfl
  | cons v values ih =>
    show (hiByte v :: loByte v :: registerBytes values).length = 2 * (values.length + 1)
    rw [List.length_cons, List.length_cons, ih]
    omega

/-- The bytes give the registers back. -/
theorem be16_registerBytes (values : List Word) :
    ((List.range values.length).map fun i =>
      be16 ((registerBytes values).getD (2 * i) 0) ((registerBytes values).getD (2 * i + 1) 0)) =
      values := by
  induction values with
  | nil => rfl
  | cons v values ih =>
    rw [List.length_cons, List.range_succ_eq_map, List.map_cons, List.map_map]
    refine List.cons_eq_cons.mpr ⟨be16_hiByte_loByte v, Eq.trans ?_ ih⟩
    apply List.map_congr_left
    intro i _
    rfl

theorem length_registerAnswer (slave : Byte) (values : List Word) :
    (registerAnswer slave values).length = 3 + 2 * values.length := by
  rw [registerAnswer, List.length_append, length_registerBytes]
  rfl

section Answer

variable (o : CrcOrder) (slave : Byte) {values : List Word}

theorem toNat_count (h : values.length ≤ 62) :
    (BitVec.ofNat 8 (2 * values.length)).toNat = 2 * values.length := by
  rw [BitVec.toNat_ofNat, Nat.mod_eq_of_lt (by omega)]

/-- An answer is one of the frames that are cut whole. -/
theorem isResponse_registerAnswer (hpos : 1 ≤ values.length) (hmax : values.length ≤ 62) :
    FrameAssembler.IsResponse (o.close (registerAnswer slave values)) := by
  have hcount := toNat_count hmax
  obtain ⟨c, c', hclose⟩ := o.close_eq (registerAnswer slave values)
  rw [hclose]
  apply FrameAssembler.IsResponse.read
  · intro hzero
    rw [hzero] at hcount
    change 0 = _ at hcount
    omega
  · rw [BitVec.le_def, hcount]
    show 2 * values.length ≤ 125
    omega
  · rw [hcount]
    exact length_registerBytes values

/-- An answer is read back as the registers. -/
theorem parseHoldingRegs03_registerAnswer (hmax : values.length ≤ 62) :
    parseHoldingRegs03 o.verify slave (o.close (registerAnswer slave values)) = some values := by
  have hcount := toNat_count hmax
  have hlen := o.length_close (registerAnswer slave values)
  have hbody := length_registerAnswer slave values
  have hread : ∀ i < 3 + 2 * values.length, (o.close (registerAnswer slave values)).getD i 0 =
      (registerAnswer slave values).getD i 0 := fun i hi => o.getD_close (by omega)
  have hcrc := o.verify_close (registerAnswer slave values) (by omega) (by omega)
  have hdata : ∀ i, (registerAnswer slave values).getD (3 + i) 0 =
      (registerBytes values).getD i 0 := by
    intro i
    rw [registerAnswer, List.getD_append_right _ _ _ _ (Nat.le_add_right 3 i)]
    show (registerBytes values).getD (3 + i - 3) 0 = _
    rw [Nat.add_sub_cancel_left]
  have haddr : (o.close (registerAnswer slave values)).getD 0 0 = slave := hread 0 (by omega)
  have hfunc : (o.close (registerAnswer slave values)).getD 1 0 = 0x03 := hread 1 (by omega)
  have hbytes : ((o.close (registerAnswer slave values)).getD 2 0).toNat = 2 * values.length :=
    (congrArg BitVec.toNat (hread 2 (by omega))).trans hcount
  have heven : ¬ 2 * values.length % 2 ≠ 0 := by omega
  have hhalf : 2 * values.length / 2 = values.length := by omega
  rw [parseHoldingRegs03, if_neg (by omega), if_neg (not_not.mpr haddr),
    if_neg (not_not.mpr hfunc), if_neg (not_not.mpr hcrc)]
  show (if (o.close (registerAnswer slave values)).length ≠
      3 + ((o.close (registerAnswer slave values)).getD 2 0).toNat + 2 then none else _) = _
  rw [hbytes, if_neg (by omega), if_neg heven, hhalf]
  apply congrArg some
  refine Eq.trans ?_ (be16_registerBytes values)
  apply List.map_congr_left
  intro i hi
  have hin := List.mem_range.mp hi
  rw [hread _ (by omega), hread _ (by omega), hdata, Nat.add_assoc, hdata]

end Answer

end EnergyStorage
