import Mathlib.Data.List.GetD
import EnergyStorage.Hmi.Proto

/-! # The form of the answers to the HMI -/

namespace EnergyStorage

/-- The function code of a request. -/
def requestFunc (req : List Byte) : Byte := req.getD 1 0

def requestStart (req : List Byte) : Word := be16 (req.getD 2 0) (req.getD 3 0)

/-- The quantity of a request, or its value where it writes a single one. -/
def requestQty (req : List Byte) : Word := be16 (req.getD 4 0) (req.getD 5 0)

def IsBitRead (func : Byte) : Prop := func = 0x01 ∨ func = 0x02

def IsRegRead (func : Byte) : Prop := func = 0x03 ∨ func = 0x04

instance (func : Byte) : Decidable (IsBitRead func) := inferInstanceAs (Decidable (_ ∨ _))

instance (func : Byte) : Decidable (IsRegRead func) := inferInstanceAs (Decidable (_ ∨ _))

/-- The answer repeats the function code; a read is followed by as many bytes as it
counts, and they hold the quantity asked for. -/
structure NormalReply (req resp : List Byte) : Prop where
  func : resp.getD 1 0 = requestFunc req
  count : IsBitRead (requestFunc req) ∨ IsRegRead (requestFunc req) →
    resp.length = 3 + (resp.getD 2 0).toNat + 2
  bits : IsBitRead (requestFunc req) → (requestQty req).toNat ≤ 8 * (resp.getD 2 0).toNat
  regs : IsRegRead (requestFunc req) → 2 * (requestQty req).toNat ≤ (resp.getD 2 0).toNat

/-- The answer to a request that failed: one byte that says why. -/
structure ExceptionReply (req resp : List Byte) : Prop where
  func : resp.getD 1 0 = requestFunc req ||| 0x80
  length : resp.length = 5

structure WellFormedReply (req resp : List Byte) : Prop where
  length_le : resp.length ≤ 256
  addr : resp.getD 0 0 = req.getD 0 0
  body : NormalReply req resp ∨ ExceptionReply req resp
  crc : ModbusCRC.verify resp = true

namespace HMIProto

/-- A request that gets past the checks on its address and its checksum. -/
structure Accepted (p : HMIProto) (req : List Byte) : Prop where
  length : 8 ≤ req.length
  addr : req.getD 0 0 = p.addr
  crc : ModbusCRC.verify req = true

instance (p : HMIProto) (req : List Byte) : Decidable (p.Accepted req) :=
  decidable_of_iff (8 ≤ req.length ∧ req.getD 0 0 = p.addr ∧ ModbusCRC.verify req = true)
    ⟨fun h => ⟨h.1, h.2.1, h.2.2⟩, fun h => ⟨h.1, h.2, h.3⟩⟩

/-- Such a request for more than an answer can hold. -/
def Overlong (p : HMIProto) (req : List Byte) : Prop :=
  p.Accepted req ∧
    (IsBitRead (requestFunc req) ∧ 2008 < (requestQty req).toNat ∨
      IsRegRead (requestFunc req) ∧ 125 < (requestQty req).toNat)

/-! ### Requests that are not accepted -/

theorem handleRequest_of_not {p : HMIProto} {req : List Byte} (h : ¬ p.Accepted req) :
    (p.handleRequest req).resp = [] ∧ (p.handleRequest req).proto = p ∧
      (p.handleRequest req).events = [] := by
  rw [handleRequest]
  by_cases hlen : req.length < 8
  · rw [if_pos hlen]
    exact ⟨rfl, rfl, rfl⟩
  · rw [if_neg hlen]
    simp only
    by_cases haddr : req.getD 0 0 ≠ p.addr
    · rw [if_pos haddr]
      exact ⟨rfl, rfl, rfl⟩
    · have hcrc : ModbusCRC.verify req = false := by
        rw [Bool.eq_false_iff]
        intro hv
        exact h ⟨by omega, not_not.mp haddr, hv⟩
      rw [if_neg haddr, if_pos hcrc]
      exact ⟨rfl, rfl, rfl⟩

section Accepted

variable {p : HMIProto} {req : List Byte}

theorem handleRequest_of_accepted (h : p.Accepted req) :
    p.handleRequest req =
      if IsBitRead (requestFunc req) then
        if requestQty req = 0 then ⟨true, [], p, []⟩
        else ⟨true, p.handleReadBits (requestFunc req) (requestStart req) (requestQty req), p, []⟩
      else if IsRegRead (requestFunc req) then
        if requestQty req = 0 then ⟨true, [], p, []⟩
        else ⟨true, p.handleReadRegs (requestFunc req) (requestStart req) (requestQty req), p, []⟩
      else if requestFunc req = 0x05 then
        p.handleWriteSingleCoil req (requestStart req) (requestQty req)
      else if requestFunc req = 0x06 then
        p.handleWriteSingleReg req (requestStart req) (requestQty req)
      else if requestFunc req = 0x0F then
        p.handleWriteMultiCoils req (requestStart req) (requestQty req)
      else if requestFunc req = 0x10 then
        p.handleWriteMultiRegs req (requestStart req) (requestQty req)
      else ⟨true, [], p, []⟩ := by
  have hlen := h.length
  have haddr : ¬ req.getD 0 0 ≠ p.addr := not_not.mpr h.addr
  rw [handleRequest, if_neg (by omega)]
  simp only
  rw [if_neg haddr, if_neg (by rw [h.crc]; exact Bool.noConfusion)]
  rfl

end Accepted

/-! ### The answers, byte by byte -/

theorem getD_appendCrc {out : List Byte} {i : Nat} (h : i < out.length) :
    (appendCrc out).getD i 0 = out.getD i 0 := List.getD_append out _ 0 i h

theorem getD_setBit {resp : List Byte} (i : Nat) {j : Nat} (hj : j < resp.length) :
    (setBit resp i).getD j 0 =
      if 3 + i / 8 = j then resp.getD j 0 ||| (1 : Byte) <<< (i % 8) else resp.getD j 0 := by
  rw [setBit, List.getD_eq_getElem?_getD, List.getElem?_modify, List.getD_eq_getElem _ _ hj,
    List.getElem?_eq_getElem hj]
  split <;> rfl

theorem getD_setBit_of_ne (resp : List Byte) {i j : Nat} (h : 3 + i / 8 ≠ j) :
    (setBit resp i).getD j 0 = resp.getD j 0 := by
  by_cases hj : j < resp.length
  · rw [getD_setBit i hj, if_neg h]
  · have hlen : (setBit resp i).length = resp.length := List.length_modify _ _ _
    rw [List.getD_eq_default _ _ (by omega), List.getD_eq_default _ _ (by omega)]

/-- Setting bits changes neither the length nor the head. -/
theorem foldl_setBit_head (f : Nat → Bool) (is : List Nat) (resp : List Byte) :
    (is.foldl (fun r i => if f i then setBit r i else r) resp).length = resp.length ∧
      ∀ j, j < 3 → (is.foldl (fun r i => if f i then setBit r i else r) resp).getD j 0 =
        resp.getD j 0 := by
  induction is generalizing resp with
  | nil => exact ⟨rfl, fun j hj => rfl⟩
  | cons i is ih =>
    rw [List.foldl_cons]
    obtain ⟨hlen, hhead⟩ := ih (if f i then setBit resp i else resp)
    have hset : (if f i then setBit resp i else resp).length = resp.length := by
      split
      · exact List.length_modify _ _ _
      · rfl
    refine ⟨hlen.trans hset, ?_⟩
    intro j hj
    rw [hhead j hj]
    split
    · exact getD_setBit_of_ne resp (by omega)
    · rfl

theorem toNat_byteCount (qty : Word) :
    (BitVec.ofNat 16 ((qty.toNat + 7) / 8) : Word).toNat = (qty.toNat + 7) / 8 := by
  have hqty := qty.isLt
  rw [BitVec.toNat_ofNat]
  exact Nat.mod_eq_of_lt (by omega)

theorem length_clearBits (p : HMIProto) (func : Byte) (qty : Word) :
    (p.clearBits func (BitVec.ofNat 16 ((qty.toNat + 7) / 8))).length =
      3 + (qty.toNat + 7) / 8 := by
  rw [clearBits, List.length_append, List.length_replicate, toNat_byteCount]
  rfl

/-- The answer to a read of bits, before its checksum. -/
theorem handleReadBits_eq (p : HMIProto) (func : Byte) (start qty : Word) :
    ∃ out, p.handleReadBits func start qty = appendCrc out ∧
      out.length = 3 + (qty.toNat + 7) / 8 ∧ out.getD 0 0 = p.addr ∧ out.getD 1 0 = func ∧
      (out.getD 2 0).toNat = (qty.toNat + 7) / 8 % 256 := by
  obtain ⟨hlen, hhead⟩ := foldl_setBit_head
    (fun i => p.bitAt func (start + BitVec.ofNat 16 i)) (List.range qty.toNat)
    (p.clearBits func (BitVec.ofNat 16 ((qty.toNat + 7) / 8)))
  refine ⟨_, rfl, ?_, hhead 0 (by omega), hhead 1 (by omega), ?_⟩
  · rw [hlen, length_clearBits]
  · rw [hhead 2 (by omega)]
    show (loByte _).toNat = _
    rw [toNat_loByte, toNat_byteCount]

theorem length_flatMap_pair (f g : Nat → Byte) (is : List Nat) :
    (is.flatMap fun i => [f i, g i]).length = 2 * is.length := by
  induction is with
  | nil => rfl
  | cons i is ih =>
    rw [List.flatMap_cons, List.length_append, ih, List.length_cons]
    simp only [List.length_cons, List.length_nil]
    omega

/-- The answer to a read of registers, before its checksum. -/
theorem handleReadRegs_eq (p : HMIProto) (func : Byte) (start qty : Word) :
    ∃ out, p.handleReadRegs func start qty = appendCrc out ∧
      out.length = 3 + 2 * qty.toNat ∧ out.getD 0 0 = p.addr ∧ out.getD 1 0 = func ∧
      (out.getD 2 0).toNat = 2 * qty.toNat % 256 := by
  refine ⟨_, rfl, ?_, rfl, rfl, ?_⟩
  · rw [List.length_append, length_flatMap_pair, List.length_range]
    rfl
  · show (loByte (qty * 2)).toNat = _
    rw [toNat_loByte, BitVec.toNat_mul]
    have htwo : (2 : Word).toNat = 2 := rfl
    rw [htwo]
    omega

/-- An answer of six bytes before its checksum is as the request began. -/
theorem wellFormed_six {req out : List Byte} (hlen : out.length = 6)
    (haddr : out.getD 0 0 = req.getD 0 0) (hfunc : out.getD 1 0 = requestFunc req)
    (hw : ¬ IsBitRead (requestFunc req) ∧ ¬ IsRegRead (requestFunc req)) :
    WellFormedReply req (appendCrc out) := by
  refine ⟨?_, ?_, Or.inl ⟨?_, ?_, ?_, ?_⟩, ?_⟩
  · rw [length_appendCrc, hlen]
    omega
  · rw [getD_appendCrc (by omega), haddr]
  · rw [getD_appendCrc (by omega), hfunc]
  · intro h
    obtain h | h := h
    · exact absurd h hw.1
    · exact absurd h hw.2
  · exact fun h => absurd h hw.1
  · exact fun h => absurd h hw.2
  · exact verify_appendCrc (by omega) (by omega)

/-! ### Every answer is well formed, but for reads of too much -/

theorem not_isRegRead_of_isBitRead {func : Byte} (h : IsBitRead func) : ¬ IsRegRead func := by
  obtain rfl | rfl := h <;> decide

variable {p : HMIProto} {req : List Byte}

/-- An answer with `n` bytes of data, counted in one byte, is well formed as long as it
fits into 256 bytes. -/
theorem wellFormed_data_iff {out : List Byte} {n : Nat} (hlen : out.length = 3 + n)
    (haddr : out.getD 0 0 = req.getD 0 0) (hfunc : out.getD 1 0 = requestFunc req)
    (hcount : (out.getD 2 0).toNat = n % 256)
    (hbits : IsBitRead (requestFunc req) → (requestQty req).toNat ≤ 8 * n)
    (hregs : IsRegRead (requestFunc req) → 2 * (requestQty req).toNat ≤ n) :
    WellFormedReply req (appendCrc out) ↔ n ≤ 251 := by
  constructor
  · intro hw
    have hle := hw.length_le
    rw [length_appendCrc, hlen] at hle
    omega
  · intro hn
    have hdata : ((appendCrc out).getD 2 0).toNat = n := by
      rw [getD_appendCrc (by omega), hcount]
      omega
    refine ⟨?_, ?_, Or.inl ⟨?_, ?_, ?_, ?_⟩, ?_⟩
    · rw [length_appendCrc, hlen]
      omega
    · rw [getD_appendCrc (by omega), haddr]
    · rw [getD_appendCrc (by omega), hfunc]
    · intro _
      rw [length_appendCrc, hlen, hdata]
    · rw [hdata]
      exact hbits
    · rw [hdata]
      exact hregs
    · exact verify_appendCrc (by omega) (by omega)

theorem readBits_wellFormed_iff (h : p.Accepted req) (hf : IsBitRead (requestFunc req)) :
    WellFormedReply req (p.handleReadBits (requestFunc req) (requestStart req) (requestQty req)) ↔
      (requestQty req).toNat ≤ 2008 := by
  obtain ⟨out, heq, hlen, haddr, hfunc, hcount⟩ :=
    p.handleReadBits_eq (requestFunc req) (requestStart req) (requestQty req)
  rw [heq, wellFormed_data_iff hlen (haddr.trans h.addr.symm) hfunc hcount]
  · omega
  · intro _
    omega
  · exact fun hr => absurd hr (not_isRegRead_of_isBitRead hf)

theorem readRegs_wellFormed_iff (h : p.Accepted req) (hf : IsRegRead (requestFunc req)) :
    WellFormedReply req (p.handleReadRegs (requestFunc req) (requestStart req) (requestQty req)) ↔
      (requestQty req).toNat ≤ 125 := by
  obtain ⟨out, heq, hlen, haddr, hfunc, hcount⟩ :=
    p.handleReadRegs_eq (requestFunc req) (requestStart req) (requestQty req)
  rw [heq, wellFormed_data_iff hlen (haddr.trans h.addr.symm) hfunc hcount]
  · omega
  · exact fun hb => absurd hf (not_isRegRead_of_isBitRead hb)
  · exact fun _ => Nat.le_refl _

theorem appendCrc_ne_nil (out : List Byte) : appendCrc out ≠ [] := by
  intro h
  have hlen := length_appendCrc out
  rw [h] at hlen
  exact absurd hlen (by simp)

theorem reply_take_six (h : p.Accepted req)
    (hw : ¬ IsBitRead (requestFunc req) ∧ ¬ IsRegRead (requestFunc req)) :
    WellFormedReply req (appendCrc (req.take 6)) := by
  have hlen := h.length
  have hget : ∀ i, i < 6 → (req.take 6).getD i 0 = req.getD i 0 := by
    intro i hi
    rw [List.getD_eq_getElem?_getD, List.getElem?_take_of_lt hi, ← List.getD_eq_getElem?_getD]
  exact wellFormed_six (List.length_take_of_le (by omega)) (hget 0 (by omega))
    (hget 1 (by omega)) hw

theorem reply_ack (h : p.Accepted req) {func : Byte} (hf : requestFunc req = func)
    (hw : ¬ IsBitRead func ∧ ¬ IsRegRead func) (start qty : Word) :
    WellFormedReply req (p.ack func start qty) := by
  refine wellFormed_six rfl ?_ hf.symm ?_
  · exact h.addr.symm
  · rw [hf]
    exact hw

/-- A request that is not a read gets a well-formed answer or none. -/
theorem reply_of_not_read (h : p.Accepted req)
    (hw : ¬ IsBitRead (requestFunc req) ∧ ¬ IsRegRead (requestFunc req)) :
    (p.handleRequest req).resp = [] ∨ WellFormedReply req (p.handleRequest req).resp := by
  rw [handleRequest_of_accepted h, if_neg hw.1, if_neg hw.2]
  split_ifs with h5 h6 h15 h16
  · rw [handleWriteSingleCoil]
    cases HmiAddressTable.mapCoilAddr (requestStart req)
    · exact Or.inl rfl
    · exact Or.inr (reply_take_six h hw)
  · rw [handleWriteSingleReg]
    cases HmiAddressTable.mapHoldingAddr (requestStart req)
    · exact Or.inl rfl
    · exact Or.inr (reply_take_six h hw)
  · rw [handleWriteMultiCoils]
    split
    · exact Or.inl rfl
    · simp only
      split
      · exact Or.inl rfl
      · exact Or.inr (reply_ack h h15 (by decide) _ _)
  · rw [handleWriteMultiRegs]
    split
    · exact Or.inl rfl
    · simp only
      split
      · exact Or.inl rfl
      · exact Or.inr (reply_ack h h16 (by decide) _ _)
  · exact Or.inl rfl

theorem reply_bits_iff (h : p.Accepted req) (hb : IsBitRead (requestFunc req)) :
    (p.handleRequest req).resp = [] ∨ WellFormedReply req (p.handleRequest req).resp ↔
      (requestQty req).toNat ≤ 2008 := by
  rw [handleRequest_of_accepted h, if_pos hb]
  by_cases hq : requestQty req = 0
  · rw [if_pos hq]
    refine iff_of_true (Or.inl rfl) ?_
    rw [hq]
    decide
  · rw [if_neg hq]
    show p.handleReadBits _ _ _ = [] ∨ WellFormedReply req (p.handleReadBits _ _ _) ↔ _
    rw [or_iff_right (show p.handleReadBits _ _ _ ≠ [] from appendCrc_ne_nil _),
      readBits_wellFormed_iff h hb]

theorem reply_regs_iff (h : p.Accepted req) (hr : IsRegRead (requestFunc req)) :
    (p.handleRequest req).resp = [] ∨ WellFormedReply req (p.handleRequest req).resp ↔
      (requestQty req).toNat ≤ 125 := by
  have hb : ¬ IsBitRead (requestFunc req) := fun hb => not_isRegRead_of_isBitRead hb hr
  rw [handleRequest_of_accepted h, if_neg hb, if_pos hr]
  by_cases hq : requestQty req = 0
  · rw [if_pos hq]
    refine iff_of_true (Or.inl rfl) ?_
    rw [hq]
    decide
  · rw [if_neg hq]
    show p.handleReadRegs _ _ _ = [] ∨ WellFormedReply req (p.handleReadRegs _ _ _) ↔ _
    rw [or_iff_right (show p.handleReadRegs _ _ _ ≠ [] from appendCrc_ne_nil _),
      readRegs_wellFormed_iff h hr]

/-- No answer, or a well-formed one, except to a read of more than an answer holds. -/
theorem reply_wellFormed_iff (p : HMIProto) (req : List Byte) :
    (p.handleRequest req).resp = [] ∨ WellFormedReply req (p.handleRequest req).resp ↔
      ¬ p.Overlong req := by
  by_cases h : p.Accepted req
  · by_cases hb : IsBitRead (requestFunc req)
    · have hr := not_isRegRead_of_isBitRead hb
      rw [reply_bits_iff h hb, Overlong, and_iff_right h]
      constructor
      · intro hle hover
        obtain ⟨-, hlt⟩ | ⟨hr', -⟩ := hover
        · omega
        · exact hr hr'
      · intro hnot
        by_contra hgt
        exact hnot (Or.inl ⟨hb, by omega⟩)
    · by_cases hr : IsRegRead (requestFunc req)
      · rw [reply_regs_iff h hr, Overlong, and_iff_right h]
        constructor
        · intro hle hover
          obtain ⟨hb', -⟩ | ⟨-, hlt⟩ := hover
          · exact hb hb'
          · omega
        · intro hnot
          by_contra hgt
          exact hnot (Or.inr ⟨hr, by omega⟩)
      · refine iff_of_true (reply_of_not_read h ⟨hb, hr⟩) ?_
        intro hover
        obtain ⟨-, ⟨hb', -⟩ | ⟨hr', -⟩⟩ := hover
        · exact hb hb'
        · exact hr hr'
  · refine iff_of_true (Or.inl (handleRequest_of_not h).1) ?_
    exact fun hover => h hover.1

/-- A read of 128 registers: 256 bytes follow a count of none. -/
theorem reply_of_128_registers :
    let req : List Byte := [0x03, 0x03, 0x20, 0x00, 0x00, 0x80, 0x4E, 0x48]
    let resp := ((start 0x03 true).handleRequest req).resp
    ¬ (resp = [] ∨ WellFormedReply req resp) ∧ resp.length = 261 ∧ resp.getD 2 0 = 0 := by
  intro req resp
  refine ⟨?_, by decide +kernel, by decide +kernel⟩
  have hacc : (start 0x03 true).Accepted req := by decide +kernel
  have hr : IsRegRead (requestFunc req) := by decide
  rw [reply_regs_iff hacc hr]
  decide

end HMIProto
end EnergyStorage
