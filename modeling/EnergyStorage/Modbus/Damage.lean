import EnergyStorage.Hmi.Proto
import EnergyStorage.Lib.ShiftRegister

/-! # What the checksum finds

The checksum is a shift register with feedback that takes the bits of each byte lowest first.
With its own checksum behind it a frame brings the register to zero, and a burst of up to sixteen
damaged bits anywhere in the frame does not. -/

namespace EnergyStorage
namespace ModbusCRC

open Lib

def polynomial : Word := 0xA001

/-- The bits of a byte in the order in which they are sent. -/
def bits (b : Byte) : List Bool := (List.range 8).map b.getLsbD

def bitsOf (frame : List Byte) : List Bool := frame.flatMap bits

/-- Two frames differ, but only within sixteen bits in a row. -/
def Burst (f g : List Byte) : Prop :=
  ∃ before mid mid' after, bitsOf f = before ++ mid ++ after ∧ bitsOf g = before ++ mid' ++ after ∧
    mid.length = mid'.length ∧ mid.length ≤ 16 ∧ mid ≠ mid'

/-! ### The register -/

theorem polynomial_top : polynomial.getLsbD (16 - 1) = true := by decide

theorem shiftBit_eq (crc : Word) : shiftBit crc = ShiftRegister.shift polynomial crc := by
  have hbit : crc &&& 1 ≠ 0 ↔ crc.getLsbD 0 = true := by
    have hand : crc &&& 1#16 = BitVec.setWidth 16 (BitVec.ofBool (crc.getLsbD 0)) :=
      BitVec.and_one_eq_setWidth_ofBool_getLsbD
    show crc &&& 1#16 ≠ 0#16 ↔ _
    rw [hand]
    cases crc.getLsbD 0 <;> decide
  unfold shiftBit ShiftRegister.shift
  by_cases h : crc.getLsbD 0 = true
  · rw [if_pos (hbit.mpr h), if_pos h]
    rfl
  · rw [if_neg (fun hand => h (hbit.mp hand)), if_neg h]

theorem getD_bits (b : Byte) (i : Nat) : (bits b).getD i false = b.getLsbD i := by
  unfold bits
  rw [List.getD_eq_getElem?_getD, List.getElem?_map]
  by_cases hi : i < 8
  · rw [List.getElem?_range hi]
    rfl
  · rw [List.getElem?_eq_none (by rw [List.length_range]; omega),
      BitVec.getLsbD_of_ge b i (by omega)]
    rfl

@[simp] theorem length_bits (b : Byte) : (bits b).length = 8 := by simp [bits]

theorem word_bits (b : Byte) : ShiftRegister.word 16 (bits b) = b.setWidth 16 := by
  apply BitVec.eq_of_getLsbD_eq
  intro i hi
  rw [ShiftRegister.getLsbD_word, getD_bits, BitVec.getLsbD_setWidth]

theorem word_bits_append (lo hi : Byte) :
    ShiftRegister.word 16 (bits lo ++ bits hi) = be16 hi lo := by
  apply BitVec.eq_of_getLsbD_eq
  intro i hi'
  rw [ShiftRegister.getLsbD_word, decide_eq_true hi', Bool.true_and, be16, BitVec.getLsbD_or,
    BitVec.getLsbD_shiftLeft, BitVec.getLsbD_setWidth, BitVec.getLsbD_setWidth, decide_eq_true hi',
    Bool.true_and, Bool.true_and, List.getD_eq_getElem?_getD]
  by_cases hlt : i < 8
  · rw [List.getElem?_append_left (by rw [length_bits]; exact hlt),
      ← List.getD_eq_getElem?_getD, getD_bits, decide_eq_true hlt]
    simp
  · rw [List.getElem?_append_right (by rw [length_bits]; omega), length_bits,
      ← List.getD_eq_getElem?_getD, getD_bits, decide_eq_false hlt,
      BitVec.getLsbD_of_ge lo i (by omega), decide_eq_true (show i - 8 < 16 by omega)]
    simp

theorem addByte_eq (crc : Word) (b : Byte) :
    addByte crc b = ShiftRegister.feed polynomial crc (bits b) := by
  have hshift : shiftBit = ShiftRegister.shift polynomial := funext shiftBit_eq
  rw [ShiftRegister.feed_eq _ _ (by rw [length_bits]; decide), length_bits, word_bits, addByte,
    hshift]

theorem foldl_addByte (crc : Word) (frame : List Byte) :
    frame.foldl addByte crc = ShiftRegister.feed polynomial crc (bitsOf frame) := by
  induction frame generalizing crc with
  | nil => rfl
  | cons b frame ih =>
    have hcons : bitsOf (b :: frame) = bits b ++ bitsOf frame := List.flatMap_cons
    rw [List.foldl_cons, ih, addByte_eq, hcons, ShiftRegister.feed_append]

theorem shift_zero : ShiftRegister.shift polynomial 0#16 = 0#16 := by decide

/-- The register ends at zero behind exactly one checksum. -/
theorem feed_checksum_eq_zero_iff (crc : Word) (lo hi : Byte) :
    ShiftRegister.feed polynomial crc (bits lo ++ bits hi) = 0#16 ↔ be16 hi lo = crc := by
  have hlen : (bits lo ++ bits hi).length = 16 := by
    rw [List.length_append, length_bits, length_bits]
  have hinj := (ShiftRegister.shift_injective polynomial polynomial_top).iterate 16
  rw [ShiftRegister.feed_eq _ _ (Nat.le_of_eq hlen), hlen, word_bits_append]
  constructor
  · intro h
    have hzero : (ShiftRegister.shift polynomial)^[16] 0#16 = 0#16 :=
      Function.iterate_fixed shift_zero 16
    have heq := hinj (h.trans hzero.symm)
    exact (BitVec.xor_eq_zero_iff.mp heq).symm
  · intro h
    rw [h, BitVec.xor_self]
    exact Function.iterate_fixed shift_zero 16

/-- A frame is accepted exactly if it brings the register to zero. -/
theorem verify_iff {frame : List Byte} (hlen : 4 ≤ frame.length)
    (hmax : frame.length < 2 ^ 16 + 2) :
    verify frame = true ↔ ShiftRegister.feed polynomial 0xFFFF (bitsOf frame) = 0#16 := by
  obtain ⟨body, lo, hi, rfl⟩ : ∃ body lo hi, frame = body ++ [lo, hi] := by
    refine ⟨frame.take (frame.length - 2), frame[frame.length - 2], frame[frame.length - 1], ?_⟩
    have hdrop : frame.drop (frame.length - 2) =
        [frame[frame.length - 2], frame[frame.length - 1]] := by
      rw [List.drop_eq_getElem_cons (by omega), List.drop_eq_getElem_cons (by omega),
        List.drop_eq_nil_of_le (by omega)]
      simp only [show frame.length - 2 + 1 = frame.length - 1 by omega]
    rw [← hdrop, List.take_append_drop]
  have hbody : (body ++ [lo, hi]).length = body.length + 2 := List.length_append
  have hlast : (body ++ [lo, hi]).getD (body.length + 1) 0 = hi := by
    rw [List.getD_eq_getElem?_getD, List.getElem?_append_right (by omega),
      Nat.add_sub_cancel_left]
    rfl
  have hprev : (body ++ [lo, hi]).getD body.length 0 = lo := by
    rw [List.getD_eq_getElem?_getD, List.getElem?_append_right (Nat.le_refl _), Nat.sub_self]
    rfl
  have hcalc : calcLen (body ++ [lo, hi]) body.length = body.foldl addByte 0xFFFF := by
    rw [calcLen, Nat.mod_eq_of_lt (by omega), List.take_left]
  have hbits : bitsOf (body ++ [lo, hi]) = bitsOf body ++ (bits lo ++ bits hi) := by
    rw [bitsOf, List.flatMap_append]
    simp only [List.flatMap_cons, List.flatMap_nil, List.append_nil]
    rfl
  rw [hbits, ShiftRegister.feed_append, ← foldl_addByte, feed_checksum_eq_zero_iff, verify,
    if_neg (by omega), hbody]
  show (be16 ((body ++ [lo, hi]).getD (body.length + 1) 0)
    ((body ++ [lo, hi]).getD body.length 0) == calcLen (body ++ [lo, hi]) body.length) = true ↔ _
  rw [hlast, hprev, hcalc, beq_iff_eq]

theorem length_bitsOf (frame : List Byte) : (bitsOf frame).length = 8 * frame.length := by
  induction frame with
  | nil => rfl
  | cons b frame ih =>
    rw [bitsOf, List.flatMap_cons, List.length_append, length_bits, List.length_cons]
    have : (frame.flatMap bits).length = 8 * frame.length := ih
    omega

theorem Burst.length_eq {f g : List Byte} (h : Burst f g) : g.length = f.length := by
  obtain ⟨before, mid, mid', after, hf, hg, hlen, -⟩ := h
  have hfl := congrArg List.length hf
  have hgl := congrArg List.length hg
  simp only [List.length_append, length_bitsOf] at hfl hgl
  omega

theorem verify_of_burst {f g : List Byte} (hf : verify f = true) (hmax : f.length < 2 ^ 16 + 2)
    (h : Burst f g) : verify g = false := by
  have hlen := h.length_eq
  have hmin : 4 ≤ f.length := by
    by_contra hshort
    rw [verify, if_pos (by omega)] at hf
    cases hf
  rw [verify_iff hmin hmax] at hf
  rw [Bool.eq_false_iff]
  intro hg
  rw [verify_iff (by omega) (by omega)] at hg
  obtain ⟨before, mid, mid', after, hbf, hbg, hmid, hw, hne⟩ := h
  rw [hbf] at hf
  rw [hbg] at hg
  exact ShiftRegister.feed_ne_of_burst polynomial_top 0xFFFF before after hmid hw hne
    (hf.trans hg.symm)

end ModbusCRC

/-- A request that was sent with its checksum and has been damaged within sixteen bits in a row,
wherever they are and however many of them, is neither answered nor does it change a register. -/
theorem damaged_request_ignored (p : HMIProto) {sent received : List Byte}
    (hsent : ModbusCRC.verify sent = true) (hmax : sent.length < 2 ^ 16 + 2)
    (hburst : ModbusCRC.Burst sent received) :
    (p.handleRequest received).resp = [] ∧ (p.handleRequest received).proto = p ∧
      (p.handleRequest received).events = [] := by
  have hbad : ModbusCRC.verify received = false := ModbusCRC.verify_of_burst hsent hmax hburst
  unfold HMIProto.handleRequest
  dsimp only
  split_ifs
  all_goals exact ⟨rfl, rfl, rfl⟩

/-- A read of ten registers. -/
def readTen : List Byte := [0x01, 0x03, 0x00, 0x00, 0x00, 0x0A, 0xC5, 0xCD]

/-- The same with its function and start address damaged: it would write a register. -/
def readTenDamaged : List Byte := [0x01, 0x06, 0xFF, 0x00, 0x00, 0x0A, 0xC5, 0xCD]

theorem damaged_request_ignored_write :
    ((HMIProto.start 0x01 true).handleRequest readTenDamaged).resp = [] ∧
      ((HMIProto.start 0x01 true).handleRequest readTenDamaged).proto =
        HMIProto.start 0x01 true ∧
      ((HMIProto.start 0x01 true).handleRequest readTenDamaged).events = [] :=
  damaged_request_ignored (HMIProto.start 0x01 true)
    (show ModbusCRC.verify readTen = true by decide +kernel) (by decide)
    ⟨ModbusCRC.bitsOf [0x01], ModbusCRC.bitsOf [0x03, 0x00], ModbusCRC.bitsOf [0x06, 0xFF],
      ModbusCRC.bitsOf [0x00, 0x00, 0x0A, 0xC5, 0xCD], by decide, by decide, by decide, by decide,
      by decide⟩

end EnergyStorage
