import EnergyStorage.Bms.Table
import EnergyStorage.Bms.FrameRouter
import Mathlib.Tactic.Ring
import Mathlib.Tactic.NormNum
import Mathlib.Tactic.Linarith

/-! # Looking up and scaling signals -/

namespace EnergyStorage
namespace Bms

/-- The internal name of a message: the table spells two of them differently. -/
def canonicalMsgName (protoName : String) : String :=
  if protoName = "" then "UNKNOWN"
  else if protoName = "B2V_Fult1" ∨ protoName = "B2V_Fult1_32960" then "B2V_Fault1"
  else if protoName = "B2V_Fult2" ∨ protoName = "B2V_Fult2_32961" then "B2V_Fault2"
  else protoName

namespace TableRuntime

open FrameRouter

/-- The message of a table identifier or, failing that, of the identifier the
router translates a runtime identifier back to. -/
def findMessage (runtimeId29 : BitVec 32) : Option MessageDef :=
  match findTableMessage (runtimeId29 &&& 0x1FFFFFFF#32) with
  | some msg => some msg
  | none =>
    let protoId29 := normalizeToProtoId runtimeId29
    if protoId29 = runtimeId29 &&& 0x1FFFFFFF#32 then none
    else findTableMessage protoId29

def findSignal (msg : MessageDef) (sigName : String) : Option SignalDef :=
  msg.signals.find? (fun s => s.name == sigName)

def enumText (sig : SignalDef) (raw : Nat) : Option String :=
  (sig.enums.find? (fun e => e.1 == raw)).map (fun e => e.2)

def signExtend (raw : BitVec 64) (bitLen : Nat) : BitVec 64 :=
  if bitLen = 0 ∨ 64 ≤ bitLen then raw
  else if raw &&& (1#64 <<< (bitLen - 1)) = 0#64 then raw
  else raw ||| ~~~((1#64 <<< bitLen) - 1#64)

/-- A negative offset selects sign extension. -/
def rawToPhys (sig : SignalDef) (raw : BitVec 64) : ℚ :=
  let v := if sig.offset < 0 then signExtend raw sig.length else raw
  (v.toInt : ℚ) * sig.factor + sig.offset

def isBoolLikeSignal (sig : SignalDef) : Bool := sig.length == 1

def isEnumLikeSignal (sig : SignalDef) : Bool := !sig.enums.isEmpty

def shouldParseAsPhysical (sig : SignalDef) : Bool :=
  if isBoolLikeSignal sig then false
  else if |sig.factor - 1| > 1 / 10 ^ 12 then true
  else if |sig.offset - 0| > 1 / 10 ^ 12 then true
  else if sig.enums.isEmpty then true
  else decide (8 ≤ sig.length)

/-! ### Sign extension -/

theorem and_signBit_eq_zero_iff {raw : BitVec 64} {n : Nat} (hn : n < 64) :
    raw &&& (1#64 <<< n) = 0#64 ↔ raw.getLsbD n = false := by
  constructor
  · intro h
    have hbit := congrArg (fun x => BitVec.getLsbD x n) h
    simpa [BitVec.getLsbD_and, BitVec.getLsbD_shiftLeft, BitVec.getLsbD_ofNat, hn] using hbit
  · intro h
    apply BitVec.eq_of_getLsbD_eq
    intro i hi
    by_cases hin : i = n
    · subst hin
      simp [h]
    · have : ¬ (n ≤ i ∧ i - n = 0) := by omega
      simp only [BitVec.getLsbD_and, BitVec.getLsbD_shiftLeft, BitVec.getLsbD_one,
        BitVec.getLsbD_zero]
      simp
      omega

theorem getLsbD_highMask {n i : Nat} (hn : n < 64) (hi : i < 64) :
    (~~~((1#64 <<< n) - 1#64)).getLsbD i = decide (n ≤ i) := by
  have hmask : (1#64 <<< n) - 1#64 = BitVec.ofNat 64 (2 ^ n - 1) := by
    apply BitVec.eq_of_toNat_eq
    have hpow : 2 ^ n < 2 ^ 64 := Nat.pow_lt_pow_right (by decide) hn
    have hpos : 0 < 2 ^ n := Nat.two_pow_pos n
    rw [BitVec.toNat_sub, BitVec.toNat_shiftLeft, BitVec.toNat_ofNat, BitVec.toNat_ofNat,
      Nat.shiftLeft_eq]
    omega
  rw [hmask, BitVec.getLsbD_not, BitVec.getLsbD_ofNat, Nat.testBit_two_pow_sub_one]
  by_cases h : n ≤ i
  · simp [hi, h]
  · simp [hi, h]
    omega

/-- The program's sign extension is the one of the `n`-bit word. -/
theorem signExtend_eq {raw : BitVec 64} {n : Nat} (hn : 0 < n) (hn' : n < 64)
    (hraw : raw.toNat < 2 ^ n) : signExtend raw n = (raw.setWidth n).signExtend 64 := by
  have hcut : ∀ i, n ≤ i → raw.getLsbD i = false := by
    intro i hi
    rw [← BitVec.testBit_toNat]
    exact Nat.testBit_lt_two_pow (lt_of_lt_of_le hraw (Nat.pow_le_pow_right (by decide) hi))
  have hmsb : (raw.setWidth n).msb = raw.getLsbD (n - 1) := by
    rw [BitVec.msb_eq_getLsbD_last, BitVec.getLsbD_setWidth]
    simp [hn]
  apply BitVec.eq_of_getLsbD_eq
  intro i hi
  rw [signExtend, if_neg (by omega), BitVec.getLsbD_signExtend, hmsb, BitVec.getLsbD_setWidth]
  simp only [and_signBit_eq_zero_iff (show n - 1 < 64 by omega)]
  cases raw.getLsbD (n - 1) with
  | false =>
    by_cases hin : i < n
    · simp [hi, hin]
    · simp [hin, hcut i (by omega)]
  | true =>
    rw [if_neg (by decide), BitVec.getLsbD_or, getLsbD_highMask hn' hi]
    by_cases hin : i < n
    · simp [hi, hin]
    · simp [hi, hin, Nat.le_of_not_lt hin]

/-- Below the sign bit sign extension does nothing; from it on it takes `2 ^ n`
off. -/
theorem toInt_signExtend {raw : BitVec 64} {n : Nat} (hn : 0 < n) (hn' : n < 64)
    (hraw : raw.toNat < 2 ^ n) :
    (signExtend raw n).toInt =
      if raw.toNat < 2 ^ (n - 1) then (raw.toNat : Int) else (raw.toNat : Int) - 2 ^ n := by
  have hpow : 2 ^ n = 2 * 2 ^ (n - 1) := by
    rw [← Nat.pow_succ', Nat.succ_eq_add_one, Nat.sub_add_cancel hn]
  rw [signExtend_eq hn hn' hraw, BitVec.toInt_signExtend_of_le hn'.le,
    BitVec.toInt_eq_toNat_cond, BitVec.toNat_setWidth, Nat.mod_eq_of_lt hraw]
  by_cases h : raw.toNat < 2 ^ (n - 1)
  · rw [if_pos (by omega), if_pos h]
  · rw [if_neg (by omega), if_neg h]
    norm_cast

/-! ### Decoded values -/

/-- The value a raw code stands for. -/
def physOf (sig : SignalDef) (raw : Nat) : ℚ := (raw : ℚ) * sig.factor + sig.offset

/-- Whether a code is one that sign extension would move. -/
def SignFolded (sig : SignalDef) (raw : Nat) : Prop :=
  sig.offset < 0 ∧ 2 ^ (sig.length - 1) ≤ raw

instance (sig : SignalDef) (raw : Nat) : Decidable (SignFolded sig raw) :=
  inferInstanceAs (Decidable (_ ∧ _))

theorem rawToPhys_eq {sig : SignalDef} {raw : BitVec 64} (hraw : raw.toNat < 2 ^ sig.length) :
    rawToPhys sig raw =
      if SignFolded sig raw.toNat then physOf sig raw.toNat - 2 ^ sig.length * sig.factor
      else physOf sig raw.toNat := by
  obtain ⟨hn, hn', -⟩ := sig.fits
  simp only [rawToPhys, physOf]
  by_cases hoff : sig.offset < 0
  · rw [if_pos hoff, toInt_signExtend hn hn' hraw]
    by_cases hs : raw.toNat < 2 ^ (sig.length - 1)
    · rw [if_pos hs, if_neg (fun h : SignFolded sig raw.toNat => absurd h.2 (by omega))]
      norm_cast
    · rw [if_neg hs, if_pos (show SignFolded sig raw.toNat from ⟨hoff, by omega⟩)]
      push_cast
      ring
  · have hlt : raw.toNat < 2 ^ 63 :=
      lt_of_lt_of_le hraw (Nat.pow_le_pow_right (by decide) (by omega))
    rw [if_neg hoff, if_neg (fun h : SignFolded sig raw.toNat => hoff h.1),
      BitVec.toInt_eq_toNat_cond, if_pos (by omega)]
    norm_cast

/-- The stored value is the one the code stands for exactly on the codes sign
extension leaves alone. -/
theorem rawToPhys_eq_physOf_iff {sig : SignalDef} {raw : BitVec 64}
    (hraw : raw.toNat < 2 ^ sig.length) (hfac : sig.factor ≠ 0) :
    rawToPhys sig raw = physOf sig raw.toNat ↔ ¬ SignFolded sig raw.toNat := by
  rw [rawToPhys_eq hraw]
  by_cases h : SignFolded sig raw.toNat
  · have hne : (2 : ℚ) ^ sig.length * sig.factor ≠ 0 :=
      mul_ne_zero (pow_ne_zero _ two_ne_zero) hfac
    simp [h, hne]
  · simp [h]

theorem physOf_strictMono {sig : SignalDef} (hfac : 0 < sig.factor) :
    StrictMono (physOf sig) := by
  intro a b hab
  have hcast : (a : ℚ) < b := by exact_mod_cast hab
  have hmul := mul_lt_mul_of_pos_right hcast hfac
  simp only [physOf]
  linarith

end TableRuntime
end Bms
end EnergyStorage
