import Mathlib.Logic.Function.Iterate
import Mathlib.Algebra.Group.Nat.Defs
import Mathlib.Data.List.Basic

/-! # The checksum of a Modbus frame -/

namespace EnergyStorage

abbrev Byte := BitVec 8

abbrev Word := BitVec 16

/-- Two bytes, the high one first. -/
def be16 (hi lo : Byte) : Word := hi.setWidth 16 <<< 8 ||| lo.setWidth 16

def hiByte (w : Word) : Byte := (w >>> 8).setWidth 8

def loByte (w : Word) : Byte := w.setWidth 8

theorem toNat_be16 (hi lo : Byte) : (be16 hi lo).toNat = hi.toNat * 256 + lo.toNat := by
  have hhi := hi.isLt
  have hlo := lo.isLt
  rw [be16, BitVec.toNat_or, BitVec.toNat_shiftLeft, BitVec.toNat_setWidth,
    BitVec.toNat_setWidth, Nat.mod_eq_of_lt (a := hi.toNat) (by omega),
    Nat.mod_eq_of_lt (a := lo.toNat) (by omega), Nat.shiftLeft_eq,
    Nat.mod_eq_of_lt (by omega), ← Nat.shiftLeft_eq, ← Nat.shiftLeft_add_eq_or_of_lt hlo,
    Nat.shiftLeft_eq]

theorem toNat_hiByte (w : Word) : (hiByte w).toNat = w.toNat / 256 := by
  have hw := w.isLt
  rw [hiByte, BitVec.toNat_setWidth, BitVec.toNat_ushiftRight, Nat.shiftRight_eq_div_pow]
  omega

theorem toNat_loByte (w : Word) : (loByte w).toNat = w.toNat % 256 :=
  BitVec.toNat_setWidth 8 w

@[simp] theorem be16_hiByte_loByte (w : Word) : be16 (hiByte w) (loByte w) = w := by
  apply BitVec.eq_of_toNat_eq
  rw [toNat_be16, toNat_hiByte, toNat_loByte]
  omega

namespace ModbusCRC

def shiftBit (crc : Word) : Word :=
  if crc &&& 1 ≠ 0 then (crc >>> 1) ^^^ 0xA001 else crc >>> 1

def addByte (crc : Word) (b : Byte) : Word := shiftBit^[8] (crc ^^^ b.setWidth 16)

/-- The length is passed in sixteen bits. -/
def calcLen (data : List Byte) (len : Nat) : Word :=
  (data.take (len % 2 ^ 16)).foldl addByte 0xFFFF

def calcCrc (data : List Byte) : Word := if data = [] then 0 else calcLen data data.length

/-- The last two bytes are the checksum of the others, the low one first. -/
def verify (frame : List Byte) : Bool :=
  if frame.length < 4 then false
  else
    let recv := be16 (frame.getD (frame.length - 1) 0) (frame.getD (frame.length - 2) 0)
    recv == calcLen frame (frame.length - 2)

end ModbusCRC

def appendCrc (out : List Byte) : List Byte :=
  out ++ [loByte (ModbusCRC.calcCrc out), hiByte (ModbusCRC.calcCrc out)]

theorem length_appendCrc (out : List Byte) : (appendCrc out).length = out.length + 2 :=
  List.length_append

/-- A frame that has been closed is accepted. -/
theorem verify_appendCrc {out : List Byte} (h : 2 ≤ out.length) (h' : out.length < 2 ^ 16) :
    ModbusCRC.verify (appendCrc out) = true := by
  have hlen := length_appendCrc out
  have hne : out ≠ [] := by
    rintro rfl
    cases h
  rw [ModbusCRC.verify, if_neg (by omega), hlen]
  have hlast : (appendCrc out).getD (out.length + 1) 0 = hiByte (ModbusCRC.calcCrc out) := by
    rw [appendCrc, List.getD_eq_getElem?_getD, List.getElem?_append_right (by omega),
      Nat.add_sub_cancel_left]
    rfl
  have hprev : (appendCrc out).getD out.length 0 = loByte (ModbusCRC.calcCrc out) := by
    rw [appendCrc, List.getD_eq_getElem?_getD, List.getElem?_append_right (Nat.le_refl _),
      Nat.sub_self]
    rfl
  have hcalc : ModbusCRC.calcLen (appendCrc out) out.length = ModbusCRC.calcCrc out := by
    rw [ModbusCRC.calcCrc, if_neg hne, ModbusCRC.calcLen, ModbusCRC.calcLen,
      Nat.mod_eq_of_lt h', appendCrc, List.take_left, List.take_length]
  show (be16 ((appendCrc out).getD (out.length + 1) 0) ((appendCrc out).getD out.length 0) ==
    ModbusCRC.calcLen (appendCrc out) out.length) = true
  rw [hlast, hprev, be16_hiByte_loByte, hcalc, beq_self_eq_true]

example : ModbusCRC.calcCrc [0x01, 0x03, 0x00, 0x00, 0x00, 0x0A] = 0xCDC5 := by decide +kernel

end EnergyStorage
