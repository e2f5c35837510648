import Mathlib.Data.Nat.Bitwise
import Mathlib.Data.BitVec

/-! # Bit fields of a word

Reading and writing the field of `len` bits that starts at bit `start` of a
fixed-width word.  A field is read back as it was written, and writing one field
leaves every disjoint field alone. -/

namespace Lib
namespace BitField

variable {w : Nat}

def read (x : BitVec w) (start len : Nat) : Nat := (x.toNat >>> start) % 2 ^ len

def write (x : BitVec w) (start len v : Nat) : BitVec w :=
  x &&& ~~~(BitVec.ofNat w (2 ^ len - 1) <<< start) |||
    BitVec.ofNat w (v % 2 ^ len) <<< start

def Disjoint (s l s' l' : Nat) : Prop := s + l ≤ s' ∨ s' + l' ≤ s

instance (s l s' l' : Nat) : Decidable (Disjoint s l s' l') :=
  inferInstanceAs (Decidable (_ ∨ _))

theorem read_lt (x : BitVec w) (start len : Nat) : read x start len < 2 ^ len :=
  Nat.mod_lt _ (Nat.two_pow_pos len)

theorem testBit_read (x : BitVec w) (start len i : Nat) :
    (read x start len).testBit i = (decide (i < len) && x.getLsbD (start + i)) := by
  rw [read, Nat.testBit_mod_two_pow, Nat.testBit_shiftRight, BitVec.testBit_toNat]

theorem getLsbD_write (x : BitVec w) (start len v i : Nat) (hi : i < w) :
    (write x start len v).getLsbD i =
      if start ≤ i ∧ i < start + len then v.testBit (i - start) else x.getLsbD i := by
  simp only [write, BitVec.getLsbD_or, BitVec.getLsbD_and, BitVec.getLsbD_not,
    BitVec.getLsbD_shiftLeft, BitVec.getLsbD_ofNat, Nat.testBit_mod_two_pow,
    Nat.testBit_two_pow_sub_one, hi, decide_true, Bool.true_and]
  by_cases hs : start ≤ i
  · have hw : i - start < w := by omega
    by_cases hl : i < start + len
    · have hl' : i - start < len := by omega
      simp [hs, hl, hl', hw, Nat.not_lt.mpr hs]
    · have hl' : ¬ i - start < len := by omega
      simp [hl, hl']
  · have hs' : i < start := by omega
    simp [hs, hs']

theorem read_write_same (x : BitVec w) {start len : Nat} (h : start + len ≤ w) (v : Nat) :
    read (write x start len v) start len = v % 2 ^ len := by
  apply Nat.eq_of_testBit_eq
  intro i
  rw [testBit_read, Nat.testBit_mod_two_pow]
  by_cases hi : i < len
  · rw [getLsbD_write _ _ _ _ _ (by omega), if_pos (by omega), Nat.add_sub_cancel_left]
  · simp [hi]

theorem read_write_disjoint (x : BitVec w) {start len start' len' : Nat}
    (h : Disjoint start len start' len') (v : Nat) :
    read (write x start' len' v) start len = read x start len := by
  apply Nat.eq_of_testBit_eq
  intro i
  rw [testBit_read, testBit_read]
  by_cases hi : i < len
  · by_cases hw : start + i < w
    · rw [getLsbD_write _ _ _ _ _ hw, if_neg]
      rcases h with h | h <;> omega
    · rw [BitVec.getLsbD_of_ge _ _ (by omega), BitVec.getLsbD_of_ge _ _ (by omega)]
  · simp [hi]

/-- A list of fields to write, as `(start, len, value)`, first entry first. -/
def writeAll (x : BitVec w) (fs : List (Nat × Nat × Nat)) : BitVec w :=
  fs.foldl (fun x f => write x f.1 f.2.1 f.2.2) x

theorem read_writeAll_disjoint (x : BitVec w) {start len : Nat}
    {fs : List (Nat × Nat × Nat)} (h : ∀ f ∈ fs, Disjoint start len f.1 f.2.1) :
    read (writeAll x fs) start len = read x start len := by
  induction fs generalizing x with
  | nil => rfl
  | cons f fs ih =>
    rw [writeAll, List.foldl_cons, ← writeAll, ih _ fun g hg => h g (List.mem_cons_of_mem f hg)]
    exact read_write_disjoint x (h f List.mem_cons_self) _

/-- A field that no later entry overlaps is read back as written. -/
theorem read_writeAll (x : BitVec w) {pre post : List (Nat × Nat × Nat)} {start len v : Nat}
    (hw : start + len ≤ w) (h : ∀ f ∈ post, Disjoint start len f.1 f.2.1) :
    read (writeAll x (pre ++ (start, len, v) :: post)) start len = v % 2 ^ len := by
  rw [writeAll, List.foldl_append, List.foldl_cons, ← writeAll, read_writeAll_disjoint _ h]
  exact read_write_same _ hw v

/-- Bytes from the lowest upwards. -/
def ofBytes (bytes : List Nat) : BitVec w :=
  writeAll 0 (bytes.zipIdx.map fun b => (8 * b.2, 8, b.1))

theorem read_ofBytes {bytes : List Nat} (hw : 8 * bytes.length ≤ w) {i : Nat}
    (hi : i < bytes.length) :
    read (ofBytes bytes : BitVec w) (8 * i) 8 = bytes[i] % 2 ^ 8 := by
  have hsplit : bytes = bytes.take i ++ bytes[i] :: bytes.drop (i + 1) := by
    rw [List.cons_getElem_drop_succ, List.take_append_drop]
  have hlen : (bytes.take i).length = i := by
    rw [List.length_take]
    omega
  have hwrites : bytes.zipIdx.map (fun b => (8 * b.2, 8, b.1)) =
      ((bytes.take i).zipIdx.map fun b => (8 * b.2, 8, b.1)) ++ (8 * i, 8, bytes[i]) ::
        ((bytes.drop (i + 1)).zipIdx (i + 1)).map fun b => (8 * b.2, 8, b.1) := by
    conv => lhs; rw [hsplit]
    rw [List.zipIdx_append, List.map_append, List.zipIdx_cons, List.map_cons, hlen, Nat.zero_add]
  rw [ofBytes, hwrites]
  refine read_writeAll _ (by omega) fun f hf => ?_
  obtain ⟨⟨b, k⟩, hb, rfl⟩ := List.mem_map.mp hf
  have hk : i + 1 ≤ k := (List.mem_zipIdx hb).1
  exact Or.inl (by show 8 * i + 8 ≤ 8 * k; omega)

end BitField
end Lib
