import EnergyStorage.Hmi.Writes

/-! # The HMI slave is a map

What the slave is for: a map from addresses to values that the HMI and the controller
write, and that reads give back.  Every run of the slave, through any mix of requests and
local writes, is a run of such a map over the writes that the requests ask for. -/

namespace EnergyStorage

open Lib

/-! ### The map -/

/-- A value for every address. -/
structure HmiMap where
  coil : Word → Bool
  holding : Word → Word

namespace HmiMap

def write (m : HmiMap) : HmiWrite → HmiMap
  | .coil a v => { m with coil := Function.update m.coil a v }
  | .holding a v => { m with holding := Function.update m.holding a v }

/-- The map that starts with zero everywhere. -/
def machine : Machine HmiMap HmiWrite Empty :=
  ⟨⟨fun _ => false, fun _ => 0⟩, fun m w => (m.write w, [])⟩

end HmiMap

/-- What a table holds. -/
def HmiAddressTable.toMap (t : HmiAddressTable) : HmiMap := ⟨t.readBoolRw, t.readIntRw⟩

theorem HmiAddressTable.toMap_put {w : HmiWrite} (h : w.InRange) (t : HmiAddressTable) :
    (HmiWrite.put t w).toMap = t.toMap.write w := by
  cases w with
  | coil a v =>
    have hcoil : (t.writeBoolRw a v).readBoolRw = Function.update t.readBoolRw a v := by
      funext b
      rw [readBoolRw_writeBoolRw, Function.update_apply]
      by_cases hb : b = a
      · rw [if_pos ⟨h, hb⟩, if_pos hb]
      · rw [if_neg (fun hc => hb hc.2), if_neg hb]
    have hholding : (t.writeBoolRw a v).readIntRw = t.readIntRw := by
      funext b
      exact readIntRw_writeBoolRw t a b v
    show HmiMap.mk (t.writeBoolRw a v).readBoolRw (t.writeBoolRw a v).readIntRw = _
    rw [hcoil, hholding]
    rfl
  | holding a v =>
    have hholding : (t.writeIntRw a v).readIntRw = Function.update t.readIntRw a v := by
      funext b
      rw [readIntRw_writeIntRw, Function.update_apply]
      by_cases hb : b = a
      · rw [if_pos ⟨h, hb⟩, if_pos hb]
      · rw [if_neg (fun hc => hb hc.2), if_neg hb]
    have hcoil : (t.writeIntRw a v).readBoolRw = t.readBoolRw := by
      funext b
      exact readBoolRw_writeIntRw t a b v
    show HmiMap.mk (t.writeIntRw a v).readBoolRw (t.writeIntRw a v).readIntRw = _
    rw [hcoil, hholding]
    rfl

theorem HmiAddressTable.toMap_foldl_put {ws : List HmiWrite} (h : ∀ w ∈ ws, w.InRange)
    (t : HmiAddressTable) :
    (ws.foldl HmiWrite.put t).toMap = HmiMap.machine.runFrom t.toMap ws := by
  induction ws generalizing t with
  | nil => rfl
  | cons w ws ih =>
    rw [List.foldl_cons, ih (fun x hx => h x (List.mem_cons_of_mem w hx)),
      toMap_put (h w List.mem_cons_self), Machine.runFrom_cons]
    rfl

/-! ### The slave over a run -/

/-- A request; one for several values carries them all. -/
structure HmiRequest where
  bytes : List Byte
  carried : IsMultiWrite (requestFunc bytes) →
    LongEnough bytes ∧ (requestQty bytes).toNat ≤ valuesCarried bytes

inductive HmiOp
  | request (r : HmiRequest)
  | setBoolRw (addr : Word) (v : Bool)
  | setIntRw (addr v : Word)
  | setBoolRead (addr : Word) (v : Bool)
  | setIntRead (addr v : Word)

def HMIProto.toMap (p : HMIProto) : HmiMap := p.table.toMap

def HMIProto.step (p : HMIProto) : HmiOp → HMIProto × List HmiWriteEvent
  | .request r => ((p.handleRequest r.bytes).proto, (p.handleRequest r.bytes).events)
  | .setBoolRw a v => (p.setBoolRw a v, [])
  | .setIntRw a v => (p.setIntRw a v, [])
  | .setBoolRead a v => (p.setBoolRead a v, [])
  | .setIntRead a v => (p.setIntRead a v, [])

/-- The slave with the calls of its listener. -/
def hmiSlave (slaveId : Byte) (onWrite : Bool) : Machine HMIProto HmiOp HmiWriteEvent :=
  ⟨.start slaveId onWrite, HMIProto.step⟩

/-- The writes that a request asks for, by its function code. -/
def requestWrites (req : List Byte) : List HmiWrite :=
  if requestFunc req = 0x05 then [.coil (requestStart req) (requestQty req = 0xFF00)]
  else if requestFunc req = 0x06 then [.holding (requestStart req) (requestQty req)]
  else if IsMultiWrite (requestFunc req) then writesAsked req
  else []

/-- The writes of an operation, without those out of range. -/
def HMIProto.writes (p : HMIProto) (op : HmiOp) : List HmiWrite :=
  (match op with
    | .request r => if p.Accepted r.bytes then requestWrites r.bytes else []
    | .setBoolRw a v => [.coil a v]
    | .setIntRw a v => [.holding a v]
    | .setBoolRead _ _ => []
    | .setIntRead _ _ => []).filter fun w => w.InRange

namespace HMIProto

variable {p : HMIProto}

theorem filter_single (w : HmiWrite) :
    ([w].filter fun w => w.InRange) = if w.InRange then [w] else [] := by
  rw [List.filter_singleton]
  by_cases h : w.InRange
  · rw [if_pos h, decide_eq_true h]
    rfl
  · rw [if_neg h, decide_eq_false h]
    rfl

theorem writes_request (p : HMIProto) (r : HmiRequest) :
    p.writes (.request r) =
      (if p.Accepted r.bytes then requestWrites r.bytes else []).filter fun w => w.InRange := rfl

theorem handleWriteSingleCoil_writes (p : HMIProto) (req : List Byte) (a value : Word) :
    (p.handleWriteSingleCoil req a value).proto =
        p.writeAll ([.coil a (value = 0xFF00)].filter fun w => w.InRange) ∧
      (p.handleWriteSingleCoil req a value).events =
        p.reports false ([.coil a (value = 0xFF00)].filter fun w => w.InRange) := by
  rw [filter_single, handleWriteSingleCoil, HmiAddressTable.mapCoilAddr_eq]
  by_cases h : HmiAddressTable.IsCoil a
  · rw [if_pos h, if_pos (show HmiWrite.InRange (.coil _ _) from h)]
    exact ⟨rfl, rfl⟩
  · rw [if_neg h, if_neg (show ¬ HmiWrite.InRange (.coil _ _) from h), reports_nil]
    exact ⟨rfl, rfl⟩

theorem handleWriteSingleReg_writes (p : HMIProto) (req : List Byte) (a value : Word) :
    (p.handleWriteSingleReg req a value).proto =
        p.writeAll ([.holding a value].filter fun w => w.InRange) ∧
      (p.handleWriteSingleReg req a value).events =
        p.reports false ([.holding a value].filter fun w => w.InRange) := by
  rw [filter_single, handleWriteSingleReg, HmiAddressTable.mapHoldingAddr_eq]
  by_cases h : HmiAddressTable.IsHolding a
  · rw [if_pos h, if_pos (show HmiWrite.InRange (.holding _ _) from h)]
    exact ⟨rfl, rfl⟩
  · rw [if_neg h, if_neg (show ¬ HmiWrite.InRange (.holding _ _) from h), reports_nil]
    exact ⟨rfl, rfl⟩

theorem handleRequest_multi_writes {req : List Byte} (h : p.Accepted req)
    (hm : IsMultiWrite (requestFunc req)) (hlong : LongEnough req)
    (hcarried : (requestQty req).toNat ≤ valuesCarried req) :
    (p.handleRequest req).proto = p.writeAll ((writesAsked req).filter fun w => w.InRange) ∧
      (p.handleRequest req).events =
        p.reports true ((writesAsked req).filter fun w => w.InRange) := by
  have hdone : writesDone req = (writesAsked req).filter fun w => w.InRange := by
    rw [writesDone, Nat.min_eq_left hcarried, writesAsked]
  rw [handleRequest_multi h hm, if_pos hlong, hdone]
  exact ⟨rfl, rfl⟩

/-- A request makes the writes that it asks for and reports them. -/
theorem handleRequest_writes (p : HMIProto) (r : HmiRequest) :
    (p.handleRequest r.bytes).proto = p.writeAll (p.writes (.request r)) ∧
      (p.handleRequest r.bytes).events =
        p.reports (IsMultiWrite (requestFunc r.bytes)) (p.writes (.request r)) := by
  rw [writes_request]
  by_cases h : p.Accepted r.bytes
  · rw [if_pos h]
    by_cases hm : IsMultiWrite (requestFunc r.bytes)
    · obtain ⟨hlong, hcarried⟩ := r.carried hm
      have hnot : ¬ requestFunc r.bytes = 0x05 ∧ ¬ requestFunc r.bytes = 0x06 := by
        obtain hf | hf := hm <;> rw [hf] <;> decide
      rw [requestWrites, if_neg hnot.1, if_neg hnot.2, if_pos hm, decide_eq_true hm]
      exact handleRequest_multi_writes h hm hlong hcarried
    · rw [decide_eq_false hm, handleRequest_of_accepted h, requestWrites]
      by_cases h5 : requestFunc r.bytes = 0x05
      · rw [if_neg (by rw [h5]; decide), if_neg (by rw [h5]; decide), if_pos h5, if_pos h5]
        exact p.handleWriteSingleCoil_writes _ _ _
      · by_cases h6 : requestFunc r.bytes = 0x06
        · rw [if_neg (by rw [h6]; decide), if_neg (by rw [h6]; decide), if_neg h5, if_neg h5,
            if_pos h6, if_pos h6]
          exact p.handleWriteSingleReg_writes _ _ _
        · have hm' := not_or.mp hm
          rw [if_neg h5, if_neg h6, if_neg h5, if_neg h6, if_neg hm, if_neg hm'.1, if_neg hm'.2,
            List.filter_nil, reports_nil]
          split_ifs <;> exact ⟨rfl, rfl⟩
  · obtain ⟨-, hproto, hevents⟩ := handleRequest_of_not h
    rw [if_neg h, List.filter_nil, reports_nil]
    exact ⟨hproto, hevents⟩

theorem inRange_of_mem_writes {op : HmiOp} {w : HmiWrite} (h : w ∈ p.writes op) : w.InRange :=
  of_decide_eq_true (List.mem_filter.mp h).2

theorem put_of_not_inRange {w : HmiWrite} (h : ¬ w.InRange) (t : HmiAddressTable) :
    HmiWrite.put t w = t := by
  cases w with
  | coil a v =>
    have hc : ¬ HmiAddressTable.IsCoil a := h
    show t.writeBoolRw a v = t
    rw [HmiAddressTable.writeBoolRw_eq, if_neg hc]
  | holding a v =>
    have hr : ¬ HmiAddressTable.IsHolding a := h
    show t.writeIntRw a v = t
    rw [HmiAddressTable.writeIntRw_eq, if_neg hr]

/-- A write by the controller. -/
theorem toMap_local (t : HmiAddressTable) (w : HmiWrite) :
    (HmiWrite.put t w).toMap =
      HmiMap.machine.runFrom t.toMap ([w].filter fun w => w.InRange) := by
  rw [filter_single]
  by_cases h : w.InRange
  · rw [if_pos h, HmiAddressTable.toMap_put h]
    rfl
  · rw [if_neg h, put_of_not_inRange h]
    rfl

/-- One operation, read through the map, makes its writes. -/
theorem toMap_step (p : HMIProto) (op : HmiOp) :
    (p.step op).1.toMap = HmiMap.machine.runFrom p.toMap (p.writes op) := by
  cases op with
  | request r =>
    show (p.handleRequest r.bytes).proto.table.toMap = _
    rw [(p.handleRequest_writes r).1]
    exact HmiAddressTable.toMap_foldl_put (fun w hw => inRange_of_mem_writes hw) p.table
  | setBoolRw a v => exact toMap_local p.table (.coil a v)
  | setIntRw a v => exact toMap_local p.table (.holding a v)
  | setBoolRead a v =>
    show (p.table.setBoolRead a v).toMap = p.table.toMap
    rw [HmiAddressTable.setBoolRead]
    split <;> rfl
  | setIntRead a v =>
    show (p.table.setIntRead a v).toMap = p.table.toMap
    rw [HmiAddressTable.setIntRead]
    split <;> rfl

theorem step_onWrite (p : HMIProto) (op : HmiOp) : (p.step op).1.onWrite = p.onWrite := by
  cases op with
  | request r =>
    show (p.handleRequest r.bytes).proto.onWrite = p.onWrite
    rw [(p.handleRequest_writes r).1]
    rfl
  | _ => rfl

theorem pairwise_filter_single (w : HmiWrite) :
    ([w].filter fun w => w.InRange).Pairwise fun w w' => w.addr.toNat < w'.addr.toNat :=
  (List.pairwise_singleton _ w).filter _

/-- The addresses in range of a request for several come in order: one that is in range is
far enough from the end not to wrap. -/
theorem pairwise_writesAsked {req : List Byte} (h : (requestQty req).toNat ≤ valuesCarried req) :
    ((writesAsked req).filter fun w => w.InRange).Pairwise
      fun w w' => w.addr.toNat < w'.addr.toNat := by
  have hle := valuesCarried_le req
  rw [List.pairwise_filter, writesAsked, List.pairwise_map]
  apply List.Pairwise.imp_of_mem _ List.pairwise_lt_range
  intro i j hi hj hlt hi' hj'
  have hbound := List.mem_range.mp hj
  have hri := HmiWrite.addr_of_inRange (of_decide_eq_true hi')
  have hrj := HmiWrite.addr_of_inRange (of_decide_eq_true hj')
  rw [toNat_addr_dataWrite] at hri hrj ⊢
  rw [toNat_addr_dataWrite]
  omega

/-- The addresses that a request writes come in order. -/
theorem pairwise_writes (p : HMIProto) (r : HmiRequest) :
    (p.writes (.request r)).Pairwise fun w w' => w.addr.toNat < w'.addr.toNat := by
  rw [writes_request]
  by_cases h : p.Accepted r.bytes
  · rw [if_pos h, requestWrites]
    split_ifs with h5 h6 hm
    · exact pairwise_filter_single _
    · exact pairwise_filter_single _
    · exact pairwise_writesAsked (r.carried hm).2
    · exact List.Pairwise.nil
  · rw [if_neg h]
    exact List.Pairwise.nil

/-! ### Reads -/

theorem getLsbD_one_shiftLeft {j k : Nat} (hk : k < 8) :
    ((1 : Byte) <<< k).getLsbD j = decide (j = k) := by
  rw [BitVec.getLsbD_shiftLeft]
  by_cases hj : j = k
  · subst hj
    simp [hk]
  · by_cases hlt : j < k
    · simp [hlt, hj]
    · have hone : (1 : Byte).getLsbD (j - k) = false := by
        show (1#8).getLsbD (j - k) = false
        rw [BitVec.getLsbD_one, decide_eq_false (show ¬ j - k = 0 by omega), Bool.and_false]
      rw [hone, Bool.and_false, decide_eq_false hj]

/-- Bit `i` of the data of an answer. -/
def replyBit (resp : List Byte) (i : Nat) : Bool := (resp.getD (3 + i / 8) 0).getLsbD (i % 8)

/-- Register `i` of the data of an answer. -/
def replyReg (resp : List Byte) (i : Nat) : Word :=
  be16 (resp.getD (3 + 2 * i) 0) (resp.getD (3 + 2 * i + 1) 0)

theorem replyBit_setBit {resp : List Byte} {i j : Nat} (hj : 3 + j / 8 < resp.length) :
    replyBit (setBit resp i) j = (replyBit resp j || decide (j = i)) := by
  rw [replyBit, getD_setBit i hj]
  by_cases hbyte : 3 + i / 8 = 3 + j / 8
  · rw [if_pos hbyte, BitVec.getLsbD_or, getLsbD_one_shiftLeft (by omega), replyBit]
    congr 1
    exact decide_eq_decide.mpr (by omega)
  · rw [if_neg hbyte, decide_eq_false (show ¬ j = i by omega), Bool.or_false, replyBit]

/-- The loop over the bits sets those that it finds set. -/
theorem replyBit_foldl {f : Nat → Bool} {resp : List Byte} {n : Nat}
    (hlen : 3 + (n + 7) / 8 ≤ resp.length) (hzero : ∀ j, replyBit resp j = false) {j : Nat}
    (hj : 3 + j / 8 < resp.length) :
    replyBit ((List.range n).foldl (fun r i => if f i then setBit r i else r) resp) j =
      (decide (j < n) && f j) := by
  induction n with
  | zero =>
    rw [List.range_zero, List.foldl_nil, hzero, decide_eq_false (Nat.not_lt_zero j),
      Bool.false_and]
  | succ n ih =>
    have hprev := ih (by omega)
    have hlength := (foldl_setBit_head f (List.range n) resp).1
    rw [List.range_succ, List.foldl_append, List.foldl_cons, List.foldl_nil]
    by_cases hf : f n
    · rw [if_pos hf, replyBit_setBit (by rw [hlength]; exact hj), hprev]
      by_cases hjn : j = n
      · subst hjn
        simp [hf]
      · have hsame : decide (j < n + 1) = decide (j < n) := decide_eq_decide.mpr (by omega)
        rw [hsame, decide_eq_false hjn, Bool.or_false]
    · rw [if_neg hf, hprev]
      by_cases hjn : j = n
      · subst hjn
        simp [hf]
      · have hsame : decide (j < n + 1) = decide (j < n) := decide_eq_decide.mpr (by omega)
        rw [hsame]

theorem replyBit_clearBits (p : HMIProto) (func : Byte) (byteCount : Word) (j : Nat) :
    replyBit (p.clearBits func byteCount) j = false := by
  have hzero : (List.replicate byteCount.toNat (0 : Byte)).getD (3 + j / 8 - 3) 0 = 0 := by
    rw [List.getD_eq_getElem?_getD, List.getElem?_replicate]
    split <;> rfl
  rw [replyBit, clearBits, List.getD_append_right _ _ _ _ (Nat.le_add_right 3 _)]
  show ((List.replicate byteCount.toNat (0 : Byte)).getD (3 + j / 8 - 3) 0).getLsbD _ = false
  rw [hzero]
  exact BitVec.getLsbD_zero

/-- Bit `i` of the answer is the bit at address `start + i`. -/
theorem replyBit_handleReadBits (p : HMIProto) (func : Byte) (start qty : Word) {i : Nat}
    (hi : i < qty.toNat) :
    replyBit (p.handleReadBits func start qty) i = p.bitAt func (start + BitVec.ofNat 16 i) := by
  have hhead := p.length_clearBits func qty
  have hlength := (foldl_setBit_head (fun i => p.bitAt func (start + BitVec.ofNat 16 i))
    (List.range qty.toNat) (p.clearBits func (BitVec.ofNat 16 ((qty.toNat + 7) / 8)))).1
  have hbit := replyBit_foldl (f := fun i => p.bitAt func (start + BitVec.ofNat 16 i))
    (n := qty.toNat) (Nat.le_of_eq hhead.symm) (p.replyBit_clearBits func _) (j := i)
    (by rw [hhead]; omega)
  rw [decide_eq_true hi, Bool.true_and] at hbit
  rw [← hbit, replyBit, replyBit, handleReadBits]
  congr 1
  exact getD_appendCrc (by rw [hlength, hhead]; omega)

theorem getD_flatMap_pair (f g : Nat → Byte) (is : List Nat) {k : Nat} (h : k < is.length) :
    (is.flatMap fun i => [f i, g i]).getD (2 * k) 0 = f is[k] ∧
      (is.flatMap fun i => [f i, g i]).getD (2 * k + 1) 0 = g is[k] := by
  induction is generalizing k with
  | nil => exact absurd h (Nat.not_lt_zero k)
  | cons i is ih =>
    cases k with
    | zero => exact ⟨rfl, rfl⟩
    | succ k => exact ih (Nat.lt_of_succ_lt_succ h)

/-- Register `i` of the answer is the one at address `start + i`. -/
theorem replyReg_handleReadRegs (p : HMIProto) (func : Byte) (start qty : Word) {i : Nat}
    (hi : i < qty.toNat) :
    replyReg (p.handleReadRegs func start qty) i = p.regAt func (start + BitVec.ofNat 16 i) := by
  have hlen : (List.range qty.toNat).length = qty.toNat := List.length_range
  obtain ⟨hhi, hlo⟩ := getD_flatMap_pair
    (fun i => hiByte (p.regAt func (start + BitVec.ofNat 16 i)))
    (fun i => loByte (p.regAt func (start + BitVec.ofNat 16 i))) (List.range qty.toNat)
    (k := i) (by rw [hlen]; exact hi)
  rw [List.getElem_range] at hhi hlo
  have hget : ∀ k, k < 2 * qty.toNat → (p.handleReadRegs func start qty).getD (3 + k) 0 =
      ((List.range qty.toNat).flatMap fun i => [hiByte (p.regAt func (start + BitVec.ofNat 16 i)),
        loByte (p.regAt func (start + BitVec.ofNat 16 i))]).getD k 0 := by
    intro k hk
    rw [handleReadRegs]
    simp only
    rw [getD_appendCrc, List.getD_append_right _ _ _ _ (by simp)]
    · congr 1
      simp
    · rw [List.length_append, length_flatMap_pair, hlen]
      simp only [List.length_cons, List.length_nil]
      omega
  rw [replyReg, hget _ (by omega), Nat.add_assoc, hget _ (by omega), hhi, hlo, be16_hiByte_loByte]

theorem bitAt_of_isCoil (p : HMIProto) {a : Word} (h : HmiAddressTable.IsCoil a) :
    p.bitAt 0x01 a = p.table.toMap.coil a := by
  rw [bitAt, if_pos rfl, HmiAddressTable.mapCoilAddr_eq, if_pos h]
  rfl

theorem regAt_of_isHolding (p : HMIProto) {a : Word} (h : HmiAddressTable.IsHolding a) :
    p.regAt 0x03 a = p.table.toMap.holding a := by
  rw [regAt, if_pos rfl, HmiAddressTable.mapHoldingAddr_eq, if_pos h]
  rfl

end HMIProto

/-! ### Every run -/

section Run

variable (slaveId : Byte) (onWrite : Bool)

/-- After any run the table holds what the map holds after the writes of the run. -/
theorem toMap_run (ops : List HmiOp) :
    ((hmiSlave slaveId onWrite).run ops).toMap =
      HmiMap.machine.run ((hmiSlave slaveId onWrite).trace HMIProto.writes ops) := by
  have hstart : HMIProto.toMap (hmiSlave slaveId onWrite).start = HmiMap.machine.start := rfl
  exact (hmiSlave slaveId onWrite).refines HmiMap.machine hstart
    (fun pre op => HMIProto.toMap_step _ op) ops

theorem onWrite_run (ops : List HmiOp) :
    ((hmiSlave slaveId onWrite).run ops).onWrite = onWrite := by
  apply Machine.Invariant.run (I := fun p : HMIProto => p.onWrite = onWrite)
  constructor
  · rfl
  · intro p op h
    exact (HMIProto.step_onWrite p op).trans h

/-- In every run the reads of coils and of holding registers give what was last written,
and each request reports the writes that it asks for in range, in the order of their
addresses. -/
theorem slave_is_map (ops : List HmiOp) :
    let M := hmiSlave slaveId onWrite
    let p := M.run ops
    let m := HmiMap.machine.run (M.trace HMIProto.writes ops)
    (∀ req i, p.Accepted req → requestFunc req = 0x01 → i < (requestQty req).toNat →
        HmiAddressTable.IsCoil (requestStart req + BitVec.ofNat 16 i) →
        HMIProto.replyBit (p.handleRequest req).resp i =
          m.coil (requestStart req + BitVec.ofNat 16 i)) ∧
      (∀ req i, p.Accepted req → requestFunc req = 0x03 → i < (requestQty req).toNat →
        HmiAddressTable.IsHolding (requestStart req + BitVec.ofNat 16 i) →
        HMIProto.replyReg (p.handleRequest req).resp i =
          m.holding (requestStart req + BitVec.ofNat 16 i)) ∧
      ∀ r : HmiRequest,
        M.emitted ops (.request r) =
            (if onWrite then (p.writes (.request r)).map
              (HmiWrite.event (IsMultiWrite (requestFunc r.bytes))) else []) ∧
          (p.writes (.request r)).Pairwise fun w w' => w.addr.toNat < w'.addr.toNat := by
  intro M p m
  have hmap : p.table.toMap = m := toMap_run slaveId onWrite ops
  have hqty : ∀ req i, i < (requestQty req).toNat → requestQty req ≠ 0 := by
    intro req i hi h0
    rw [h0] at hi
    exact Nat.not_lt_zero i hi
  refine ⟨?_, ?_, ?_⟩
  · intro req i hacc hf hi hcoil
    have hb : IsBitRead (requestFunc req) := Or.inl hf
    rw [HMIProto.handleRequest_of_accepted hacc, if_pos hb, if_neg (hqty req i hi), hf]
    show HMIProto.replyBit (p.handleReadBits 0x01 _ _) i = _
    rw [HMIProto.replyBit_handleReadBits p 0x01 _ _ hi, p.bitAt_of_isCoil hcoil, hmap]
  · intro req i hacc hf hi hholding
    have hr : IsRegRead (requestFunc req) := Or.inl hf
    rw [HMIProto.handleRequest_of_accepted hacc, if_neg (by rw [hf]; decide), if_pos hr,
      if_neg (hqty req i hi), hf]
    show HMIProto.replyReg (p.handleReadRegs 0x03 _ _) i = _
    rw [HMIProto.replyReg_handleReadRegs p 0x03 _ _ hi, p.regAt_of_isHolding hholding, hmap]
  · intro r
    refine ⟨?_, p.pairwise_writes r⟩
    have hevents := (p.handleRequest_writes r).2
    rw [HMIProto.reports, show p.onWrite = onWrite from onWrite_run slaveId onWrite ops] at hevents
    exact hevents

end Run

/-- A register written by the HMI and then overwritten by the controller is read back with
the value of the controller. -/
theorem slave_is_map_overwritten :
    let r : HmiRequest :=
      ⟨[0x03, 0x10, 0x20, 0x00, 0x00, 0x01, 0x02, 0x00, 0x07, 0xDF, 0x30], by decide⟩
    let p := (hmiSlave 0x03 true).run [.request r, .setIntRw 0x2000 9]
    let req : List Byte := [0x03, 0x03, 0x20, 0x00, 0x00, 0x01, 0x8E, 0x28]
    HMIProto.replyReg (p.handleRequest req).resp 0 = 9 := by
  intro r p req
  obtain ⟨-, hread, -⟩ := slave_is_map 0x03 true [.request r, .setIntRw 0x2000 9]
  refine (hread req 0 ?_ ?_ ?_ ?_).trans ?_
  · exact ⟨by decide +kernel, by decide +kernel, by decide +kernel⟩
  · decide
  · decide
  · decide
  · decide +kernel

end EnergyStorage
