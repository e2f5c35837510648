import Mathlib.Algebra.Group.Nat.Defs
import Mathlib.Data.BitVec
import Mathlib.Logic.Function.Iterate

/-! # Shift registers with feedback

A register takes in one bit at a time, shifts towards its low end, and mixes the polynomial in
when a one falls out.  If the top bit of the polynomial is set, no shift loses anything, and two
streams that differ only within as many bits as the register has leave different states. -/

namespace Lib
namespace ShiftRegister

variable {w : Nat} (p : BitVec w)

def shift (s : BitVec w) : BitVec w :=
  if s.getLsbD 0 = true then (s >>> 1) ^^^ p else s >>> 1

/-- A bit at the low end. -/
def low (w : Nat) (b : Bool) : BitVec w := (BitVec.ofBool b).setWidth w

def feed (s : BitVec w) (bs : List Bool) : BitVec w :=
  bs.foldl (fun s b => shift p (s ^^^ low w b)) s

/-- The word with the given bits, lowest first. -/
def word (w : Nat) : List Bool → BitVec w
  | [] => 0#w
  | b :: bs => (word w bs <<< 1) ^^^ low w b

@[simp] theorem feed_nil (s : BitVec w) : feed p s [] = s := rfl

@[simp] theorem feed_cons (s : BitVec w) (b : Bool) (bs : List Bool) :
    feed p s (b :: bs) = feed p (shift p (s ^^^ low w b)) bs := rfl

theorem feed_append (s : BitVec w) (bs cs : List Bool) :
    feed p s (bs ++ cs) = feed p (feed p s bs) cs := List.foldl_append

/-! ### One shift -/

theorem getLsbD_low (b : Bool) (i : Nat) :
    (low w b).getLsbD i = (decide (i < w) && (decide (i = 0) && b)) := by
  rw [low, BitVec.getLsbD_setWidth, BitVec.getLsbD_ofBool]

theorem getLsbD_shift (s : BitVec w) (i : Nat) :
    (shift p s).getLsbD i = ((s.getLsbD 0 && p.getLsbD i) ^^ s.getLsbD (1 + i)) := by
  unfold shift
  cases h : s.getLsbD 0 with
  | false => simp
  | true =>
    rw [if_pos rfl, BitVec.getLsbD_xor, BitVec.getLsbD_ushiftRight, Bool.true_and, Bool.xor_comm]

theorem shift_xor (s t : BitVec w) : shift p (s ^^^ t) = shift p s ^^^ shift p t := by
  apply BitVec.eq_of_getLsbD_eq
  intro i _
  simp only [getLsbD_shift, BitVec.getLsbD_xor]
  cases s.getLsbD 0 <;> cases t.getLsbD 0 <;> cases p.getLsbD i <;>
    cases s.getLsbD (1 + i) <;> cases t.getLsbD (1 + i) <;> rfl

theorem shift_injective (hp : p.getLsbD (w - 1) = true) : Function.Injective (shift p) := by
  intro s t h
  have hbit : ∀ i, (shift p s).getLsbD i = (shift p t).getLsbD i := by
    intro i
    rw [h]
  simp only [getLsbD_shift] at hbit
  -- the top bit tells which bit fell out
  have hout : s.getLsbD 0 = t.getLsbD 0 := by
    have htop := hbit (w - 1)
    rw [hp, BitVec.getLsbD_of_ge s (1 + (w - 1)) (by omega),
      BitVec.getLsbD_of_ge t (1 + (w - 1)) (by omega)] at htop
    simpa using htop
  apply BitVec.eq_of_getLsbD_eq
  intro i _
  cases i with
  | zero => exact hout
  | succ i =>
    have hi := hbit i
    rw [hout, Nat.add_comm 1 i] at hi
    exact Bool.xor_right_inj.mp hi

/-- A word whose low bit is clear only moves down. -/
theorem shift_shiftLeft {s : BitVec w} (h : s.getLsbD (w - 1) = false) :
    shift p (s <<< 1) = s := by
  apply BitVec.eq_of_getLsbD_eq
  intro i hi
  rw [getLsbD_shift, BitVec.getLsbD_shiftLeft, BitVec.getLsbD_shiftLeft]
  have hlow : (decide (0 < w) && !decide (0 < 1) && s.getLsbD (0 - 1)) = false := by simp
  rw [hlow, Bool.false_and, Bool.false_xor]
  by_cases hlt : 1 + i < w
  · simp [hlt]
  · have hlast : i = w - 1 := by omega
    rw [decide_eq_false hlt, Bool.false_and, Bool.false_and, hlast, h]

/-! ### Up to as many bits as the register has -/

theorem getLsbD_word (bs : List Bool) (i : Nat) :
    (word w bs).getLsbD i = (decide (i < w) && bs.getD i false) := by
  induction bs generalizing i with
  | nil => simp [word]
  | cons b bs ih =>
    rw [word, BitVec.getLsbD_xor, BitVec.getLsbD_shiftLeft, getLsbD_low]
    cases i with
    | zero => simp
    | succ i =>
      rw [Nat.add_sub_cancel, ih]
      by_cases hi : i + 1 < w
      · have hi' : i < w := by omega
        simp [hi, hi']
      · simp [hi]

theorem word_inj {bs cs : List Bool} (hlen : bs.length = cs.length) (hw : bs.length ≤ w)
    (h : word w bs = word w cs) : bs = cs := by
  apply List.ext_getElem hlen
  intro i hi hi'
  have hbit : (word w bs).getLsbD i = (word w cs).getLsbD i := by rw [h]
  rw [getLsbD_word, getLsbD_word, decide_eq_true (show i < w by omega), Bool.true_and,
    Bool.true_and] at hbit
  rw [List.getD_eq_getElem?_getD, List.getD_eq_getElem?_getD, List.getElem?_eq_getElem hi,
    List.getElem?_eq_getElem hi'] at hbit
  exact hbit

/-- Bits that fit into the register may be mixed in all at once. -/
theorem feed_eq (s : BitVec w) {bs : List Bool} (h : bs.length ≤ w) :
    feed p s bs = (shift p)^[bs.length] (s ^^^ word w bs) := by
  induction bs generalizing s with
  | nil =>
    rw [word, BitVec.xor_zero]
    rfl
  | cons b bs ih =>
    have hlen : bs.length + 1 ≤ w := h
    have htop : (word w bs).getLsbD (w - 1) = false := by
      rw [getLsbD_word, List.getD_eq_getElem?_getD, List.getElem?_eq_none (by omega)]
      exact Bool.and_false _
    have hstep : shift p (s ^^^ word w (b :: bs)) = shift p (s ^^^ low w b) ^^^ word w bs := by
      rw [word, BitVec.xor_comm (word w bs <<< 1), ← BitVec.xor_assoc, shift_xor,
        shift_shiftLeft p htop]
    rw [feed_cons, ih _ (by omega), ← hstep, List.length_cons, Function.iterate_succ_apply]

/-! ### Whole streams -/

variable {p} (hp : p.getLsbD (w - 1) = true)
include hp

theorem feed_left_injective (bs : List Bool) : Function.Injective fun s => feed p s bs := by
  induction bs with
  | nil => exact Function.injective_id
  | cons b bs ih =>
    intro s t h
    have hshift := shift_injective p hp (ih h)
    exact (BitVec.xor_left_inj _).mp hshift

/-- Streams that differ, but only within as many bits as the register has. -/
theorem feed_ne_of_burst (s : BitVec w) (bs : List Bool) {mid mid' : List Bool} (cs : List Bool)
    (hlen : mid.length = mid'.length) (hw : mid.length ≤ w) (hne : mid ≠ mid') :
    feed p s (bs ++ mid ++ cs) ≠ feed p s (bs ++ mid' ++ cs) := by
  intro heq
  simp only [feed_append] at heq
  have hmid := feed_left_injective hp cs heq
  have hw' : mid'.length ≤ w := by omega
  revert hmid
  generalize feed p s bs = t
  intro hmid
  rw [feed_eq p t hw, feed_eq p t hw', ← hlen] at hmid
  have hword := (shift_injective p hp).iterate mid.length hmid
  exact hne (word_inj hlen hw ((BitVec.xor_right_inj _).mp hword))

end ShiftRegister
end Lib
