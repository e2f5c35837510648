import EnergyStorage.Fault.Catalog

/-! # The texts of codes

A code is read by two conversions in turn.  Each passes over blanks and a sign and stops at the
first character that is no digit to it. -/

namespace EnergyStorage
namespace Fault

open Lib.Numeral

/-- The text behind `0x`, or all of it. -/
def behindPrefix (cs : List Char) : List Char :=
  if cs.take 2 = ['0', 'x'] ∨ cs.take 2 = ['0', 'X'] then cs.drop 2 else cs

/-- The whole text is a numeral of the code. -/
def Denotes (s : String) (code : BitVec 16) : Prop :=
  (IsNumeral 16 (behindPrefix s.toList) ∧
      numeralValue 16 (behindPrefix s.toList) = code.toNat) ∨
    (IsNumeral 10 s.toList ∧ numeralValue 10 s.toList = code.toNat)

def CodeExact (s : String) : Prop := ∀ code, parseCode s = some code → Denotes s code

/-- The number at the front of the text is one that a code has room for. -/
def BeginsWithCode (base : Nat) (cs : List Char) : Prop :=
  ∃ n, stoul base (cs.dropWhile isSpace) = some n ∧ n ≤ 0xFFFF

theorem to16_eq_some_iff {n : Nat} {code : BitVec 16} : to16 n = some code ↔ n = code.toNat := by
  have hlt := code.isLt
  unfold to16
  constructor
  · intro h
    split at h
    · cases h
    · rename_i hle
      rw [← Option.some.inj h, BitVec.toNat_ofNat, Nat.mod_eq_of_lt (by omega)]
  · intro h
    rw [if_neg (by omega), h, BitVec.ofNat_toNat, BitVec.setWidth_eq]

theorem bind_to16_eq_none_iff {base : Nat} {cs : List Char} :
    (stoul base (cs.dropWhile isSpace)).bind to16 = none ↔ ¬ BeginsWithCode base cs := by
  unfold BeginsWithCode
  cases stoul base (cs.dropWhile isSpace) with
  | none => simp
  | some n =>
    rw [Option.bind_some, to16]
    split
    · simp
      omega
    · simp
      omega

theorem dropWhile_isSpace_of_isNumeral {base : Nat} {cs : List Char} (h : IsNumeral base cs) :
    cs.dropWhile isSpace = cs := by
  obtain ⟨c, rest, rfl, hc⟩ := h.head
  apply List.dropWhile_cons_of_neg
  intro hspace
  obtain ⟨d, hd, -⟩ := isDigitOf_iff.mp hc
  apply isAlphanum_of_isSpace hspace
  rw [Char.isAlphanum, Bool.or_eq_true]
  unfold digitVal at hd
  split at hd
  · rename_i hdigit
    exact Or.inr hdigit
  · split at hd
    · rename_i halpha
      exact Or.inl halpha
    · cases hd

/-- No digit is an `x`, so a numeral has no prefix. -/
theorem behindPrefix_of_isNumeral {cs : List Char} (h : IsNumeral 16 cs) :
    behindPrefix cs = cs := by
  have hletters : isDigitOf 16 'x' = false ∧ isDigitOf 16 'X' = false := by decide
  have hnot : ∀ x : Char, isDigitOf 16 x = false → cs.take 2 ≠ ['0', x] := by
    intro x hx htake
    have hmem : x ∈ cs.take 2 := by
      rw [htake]
      exact List.mem_cons_of_mem _ List.mem_cons_self
    rw [h.digits x (List.mem_of_mem_take hmem)] at hx
    cases hx
  rw [behindPrefix, if_neg]
  rintro (h | h)
  · exact hnot 'x' hletters.1 h
  · exact hnot 'X' hletters.2 h

/-- A numeral gives the code that it denotes. -/
theorem stoul_bind_to16 {base : Nat} {cs : List Char} {code : BitVec 16} (h : IsNumeral base cs)
    (hbase : base ≤ 16) :
    (stoul base (cs.dropWhile isSpace)).bind to16 = some code ↔
      numeralValue base cs = code.toNat := by
  have hlt := code.isLt
  rw [dropWhile_isSpace_of_isNumeral h, stoul_of_isNumeral h hbase]
  split
  · constructor
    · exact nofun
    · omega
  · rw [Option.bind_some, to16_eq_some_iff]

theorem parseHexU16_eq (s : String) :
    parseHexU16 s = (stoul 16 ((behindPrefix s.toList).dropWhile isSpace)).bind to16 := by
  unfold parseHexU16
  dsimp only
  rw [← behindPrefix]
  split
  · rename_i hnil
    rw [hnil]
    rfl
  · rfl

theorem parseCode_eq_none_iff (s : String) :
    parseCode s = none ↔
      ¬ BeginsWithCode 16 (behindPrefix s.toList) ∧ ¬ BeginsWithCode 10 s.toList := by
  rw [parseCode, Option.or_eq_none_iff, parseHexU16_eq, bind_to16_eq_none_iff,
    bind_to16_eq_none_iff]

/-- No text is taken for another's code if it is a hexadecimal numeral up to `0xFFFF` or a
decimal numeral, or begins with no such number of either base. -/
theorem codeExact_iff (s : String) :
    CodeExact s ↔
      (IsNumeral 16 (behindPrefix s.toList) ∧ numeralValue 16 (behindPrefix s.toList) ≤ 0xFFFF) ∨
        IsNumeral 10 s.toList ∨
        ¬ BeginsWithCode 16 (behindPrefix s.toList) ∧ ¬ BeginsWithCode 10 s.toList := by
  constructor
  · intro h
    cases hparse : parseCode s with
    | none => exact Or.inr (Or.inr ((parseCode_eq_none_iff s).mp hparse))
    | some code =>
      have hlt := code.isLt
      obtain ⟨hhex, hvalue⟩ | ⟨hdec, -⟩ := h code hparse
      · exact Or.inl ⟨hhex, by omega⟩
      · exact Or.inr (Or.inl hdec)
  · intro h code hparse
    obtain ⟨hhex, hvalue⟩ | hdec | hnone := h
    · -- the first conversion takes the whole text
      have hcode : (BitVec.ofNat 16 (numeralValue 16 (behindPrefix s.toList))).toNat =
          numeralValue 16 (behindPrefix s.toList) := by
        rw [BitVec.toNat_ofNat]
        exact Nat.mod_eq_of_lt (by omega)
      have hread := (stoul_bind_to16 hhex (Nat.le_refl 16)).mpr hcode.symm
      rw [parseCode, parseHexU16_eq, hread, Option.some_or] at hparse
      rw [← Option.some.inj hparse]
      exact Or.inl ⟨hhex, hcode.symm⟩
    · rw [parseCode, Option.or_eq_some_iff] at hparse
      obtain hhex | ⟨-, hread⟩ := hparse
      · have hhex' := hdec.mono (show 10 ≤ 16 by decide)
        rw [parseHexU16_eq] at hhex
        refine Or.inl ⟨?_, ?_⟩
        · rw [behindPrefix_of_isNumeral hhex']
          exact hhex'
        · rw [behindPrefix_of_isNumeral hhex'] at hhex ⊢
          exact (stoul_bind_to16 hhex' (Nat.le_refl 16)).mp hhex
      · exact Or.inr ⟨hdec, (stoul_bind_to16 hdec (by decide)).mp hread⟩
    · rw [(parseCode_eq_none_iff s).mpr hnone] at hparse
      cases hparse

/-- The first conversion finds the number too large, and the second one takes the `0` before the
`x` for the whole of it; a text that goes on behind its digits is cut there. -/
theorem large_code_taken_for_zero :
    parseCode "0x12345" = some 0 ∧ ¬ CodeExact "0x12345" ∧
      parseCode "10G4" = some 0x10 ∧ ¬ CodeExact "10G4" := by
  have hzero : parseCode "0x12345" = some 0 := by decide
  have hcut : parseCode "10G4" = some 0x10 := by decide
  refine ⟨hzero, ?_, hcut, ?_⟩
  · intro h
    obtain ⟨-, hvalue⟩ | ⟨hdec, -⟩ := h 0 hzero
    · exact absurd hvalue (by decide)
    · exact absurd hdec (by decide)
  · intro h
    obtain ⟨hhex, -⟩ | ⟨hdec, -⟩ := h 0x10 hcut
    · exact absurd hhex (by decide)
    · exact absurd hdec (by decide)

end Fault
end EnergyStorage
