import Mathlib.Algebra.Group.Int.Defs
import Mathlib.Algebra.Group.Nat.Defs
import Mathlib.Data.List.Basic

/-! # Numerals as the C library reads them -/

namespace Lib
namespace Numeral

/-- The value of a digit; letters go on where the ten digits end. -/
def digitVal (c : Char) : Option Nat :=
  if c.isDigit then some (c.toNat - '0'.toNat)
  else if c.isAlpha then some (c.toLower.toNat - 'a'.toNat + 10)
  else none

/-- Takes the digits of the base off the front, after a number already read. -/
def readDigits (base : Nat) : Nat → List Char → Nat × List Char
  | acc, [] => (acc, [])
  | acc, c :: cs =>
    match digitVal c with
    | none => (acc, c :: cs)
    | some d => if d < base then readDigits base (acc * base + d) cs else (acc, c :: cs)

/-- Whether the text begins with a digit of the base. -/
def startsDigit (base : Nat) (cs : List Char) : Bool :=
  ((cs.head?.bind digitVal).map fun d => decide (d < base)).getD false

/-- The digits behind a sign; their prefix tells the base. -/
def readMagnitude : List Char → Option (Nat × List Char)
  | '0' :: x :: cs =>
    if (x = 'x' ∨ x = 'X') ∧ startsDigit 16 cs = true then some (readDigits 16 0 cs)
    else some (readDigits 8 0 (x :: cs))
  | cs => if startsDigit 10 cs then some (readDigits 10 0 cs) else none

/-- `strtoul` with base 0 on 64 bits, from behind the leading blanks, with what is left of the
text; none for no digits or too large a number.  A sign negates modulo `2 ^ 64`. -/
def strtoul (cs : List Char) : Option (Nat × List Char) :=
  let signed := match cs with
    | '-' :: rest => (true, rest)
    | '+' :: rest => (false, rest)
    | _ => (false, cs)
  (readMagnitude signed.2).bind fun r =>
    if 2 ^ 64 ≤ r.1 then none
    else some (if signed.1 then (2 ^ 64 - r.1) % 2 ^ 64 else r.1, r.2)

def takeSign : List Char → Bool × List Char
  | '-' :: rest => (true, rest)
  | '+' :: rest => (false, rest)
  | cs => (false, cs)

/-- The digits of a given base behind a sign; base 16 passes over its prefix. -/
def readIn (base : Nat) : List Char → Option Nat
  | '0' :: x :: cs =>
    if base = 16 ∧ (x = 'x' ∨ x = 'X') ∧ startsDigit 16 cs = true then some (readDigits 16 0 cs).1
    else some (readDigits base 0 (x :: cs)).1
  | cs => if startsDigit base cs then some (readDigits base 0 cs).1 else none

/-- `std::stoul` with a given base, from behind the leading blanks; none where it throws. -/
def stoul (base : Nat) (cs : List Char) : Option Nat :=
  (readIn base (takeSign cs).2).bind fun n =>
    if 2 ^ 64 ≤ n then none else some (if (takeSign cs).1 then (2 ^ 64 - n) % 2 ^ 64 else n)

/-- `std::stoi`, from behind the leading blanks. -/
def stoi (cs : List Char) : Option Int :=
  (readIn 10 (takeSign cs).2).bind fun n =>
    let v : Int := if (takeSign cs).1 then -n else n
    if -2 ^ 31 ≤ v ∧ v < 2 ^ 31 then some v else none

/-- `strtol` with base 10 on 64 bits, from behind the leading blanks, with what is left of the
text; what is out of range becomes the bound, no digits 0. -/
def strtol (cs : List Char) : Int × List Char :=
  let signed := takeSign cs
  if startsDigit 10 signed.2 then
    let r := readDigits 10 0 signed.2
    let v : Int := if signed.1 then -r.1 else r.1
    (if v < -2 ^ 63 then -2 ^ 63 else if 2 ^ 63 ≤ v then 2 ^ 63 - 1 else v, r.2)
  else (0, cs)

/-- The number when the whole text is one. -/
def strtoulAll (s : String) : Option Nat :=
  (strtoul s.toList).bind fun r => if r.2 = [] then some r.1 else none

example : strtoulAll "0x411B" = some 0x411B ∧ strtoulAll "16" = some 16 ∧
    strtoulAll "010" = some 8 ∧ strtoulAll "0x" = none ∧ strtoulAll "7a" = none := by decide

/-- The integer that a text states in the notation of the C library, if it is nothing else. -/
def stated (cs : List Char) : Option Int :=
  (readMagnitude (takeSign cs).2).bind fun r =>
    if r.2 = [] then some (if (takeSign cs).1 then -(r.1 : Int) else r.1) else none

/-- `std::stoll` with base 0, where it takes the whole text. -/
def stollAll (s : String) : Option Int :=
  (stated s.toList).filter fun z => decide (-2 ^ 63 ≤ z ∧ z < 2 ^ 63)

theorem strtoul_eq (cs : List Char) :
    strtoul cs = (readMagnitude (takeSign cs).2).bind fun r =>
      if 2 ^ 64 ≤ r.1 then none
      else some (if (takeSign cs).1 then (2 ^ 64 - r.1) % 2 ^ 64 else r.1, r.2) := by
  unfold strtoul takeSign
  split
  · rfl
  · rfl
  · rfl

/-- What `strtoul` makes of a whole text is the integer that it states, in 64 bits. -/
theorem strtoulAll_eq (s : String) :
    strtoulAll s = (stated s.toList).bind fun z =>
      if z.natAbs < 2 ^ 64 then some (z % 2 ^ 64).toNat else none := by
  rw [strtoulAll, strtoul_eq, stated]
  cases readMagnitude (takeSign s.toList).2 with
  | none => rfl
  | some r =>
    rw [Option.bind_some, Option.bind_some]
    by_cases hrest : r.2 = []
    · rw [if_pos hrest, Option.bind_some]
      cases (takeSign s.toList).1 with
      | true =>
        simp only [if_true, Int.natAbs_neg, Int.natAbs_natCast]
        by_cases hlarge : 2 ^ 64 ≤ r.1
        · rw [if_pos hlarge, if_neg (by omega)]
          rfl
        · rw [if_neg hlarge, if_pos (by omega), Option.bind_some, if_pos hrest]
          congr 1
          omega
      | false =>
        simp only [Bool.false_eq_true, if_false, Int.natAbs_natCast]
        by_cases hlarge : 2 ^ 64 ≤ r.1
        · rw [if_pos hlarge, if_neg (by omega)]
          rfl
        · rw [if_neg hlarge, if_pos (by omega), Option.bind_some, if_pos hrest]
          congr 1
          omega
    · rw [if_neg hrest, Option.bind_none]
      split
      · rfl
      · rw [Option.bind_some, if_neg hrest]

/-! ### Whole numerals -/

def isDigitOf (base : Nat) (c : Char) : Bool :=
  ((digitVal c).map fun d => decide (d < base)).getD false

/-- The text is nothing but digits of the base. -/
structure IsNumeral (base : Nat) (cs : List Char) : Prop where
  ne_nil : cs ≠ []
  digits : ∀ c ∈ cs, isDigitOf base c = true

instance (base : Nat) (cs : List Char) : Decidable (IsNumeral base cs) :=
  decidable_of_iff (cs ≠ [] ∧ cs.all (isDigitOf base) = true)
    ⟨fun h => ⟨h.1, List.all_eq_true.mp h.2⟩, fun h => ⟨h.ne_nil, List.all_eq_true.mpr h.digits⟩⟩

/-- What the digits come to behind a number already read. -/
def digitsFrom (base acc : Nat) (cs : List Char) : Nat :=
  cs.foldl (fun n c => n * base + (digitVal c).getD 0) acc

def numeralValue (base : Nat) (cs : List Char) : Nat := digitsFrom base 0 cs

section

variable {base : Nat} {cs : List Char}

theorem isDigitOf_iff {c : Char} :
    isDigitOf base c = true ↔ ∃ d, digitVal c = some d ∧ d < base := by
  unfold isDigitOf
  cases digitVal c <;> simp

theorem readDigits_of_digits (h : ∀ c ∈ cs, isDigitOf base c = true) (acc : Nat) :
    readDigits base acc cs = (digitsFrom base acc cs, []) := by
  induction cs generalizing acc with
  | nil => rfl
  | cons c cs ih =>
    obtain ⟨d, hd, hlt⟩ := isDigitOf_iff.mp (h c List.mem_cons_self)
    rw [readDigits, hd]
    dsimp only
    rw [if_pos hlt, ih fun x hx => h x (List.mem_cons_of_mem c hx), digitsFrom, digitsFrom,
      List.foldl_cons, hd]
    rfl

theorem IsNumeral.mono (h : IsNumeral base cs) {base' : Nat} (hle : base ≤ base') :
    IsNumeral base' cs := by
  refine ⟨h.ne_nil, fun c hc => ?_⟩
  obtain ⟨d, hd, hlt⟩ := isDigitOf_iff.mp (h.digits c hc)
  exact isDigitOf_iff.mpr ⟨d, hd, Nat.lt_of_lt_of_le hlt hle⟩

theorem IsNumeral.head (h : IsNumeral base cs) :
    ∃ c rest, cs = c :: rest ∧ isDigitOf base c = true := by
  cases cs with
  | nil => exact absurd rfl h.ne_nil
  | cons c rest => exact ⟨c, rest, rfl, h.digits c List.mem_cons_self⟩

/-- A digit is no sign. -/
theorem takeSign_of_isNumeral (h : IsNumeral base cs) : takeSign cs = (false, cs) := by
  obtain ⟨c, rest, rfl, hc⟩ := h.head
  obtain ⟨d, hd, -⟩ := isDigitOf_iff.mp hc
  have hsigns : digitVal '-' = none ∧ digitVal '+' = none := by decide
  unfold takeSign
  split
  · rename_i heq
    rw [(List.cons.inj heq).1, hsigns.1] at hd
    cases hd
  · rename_i heq
    rw [(List.cons.inj heq).1, hsigns.2] at hd
    cases hd
  · rfl

theorem startsDigit_of_isNumeral (h : IsNumeral base cs) : startsDigit base cs = true := by
  obtain ⟨c, rest, rfl, hc⟩ := h.head
  obtain ⟨d, hd, hlt⟩ := isDigitOf_iff.mp hc
  rw [startsDigit, List.head?_cons, Option.bind_some, hd]
  exact decide_eq_true hlt

theorem readIn_of_isNumeral (h : IsNumeral base cs) (hbase : base ≤ 16) :
    readIn base cs = some (numeralValue base cs) := by
  have hread := readDigits_of_digits h.digits 0
  have hstart := startsDigit_of_isNumeral h
  obtain ⟨c, rest, rfl, hc⟩ := h.head
  obtain ⟨d, hd, hlt⟩ := isDigitOf_iff.mp hc
  unfold readIn
  split
  · rename_i x rest' heq
    obtain ⟨rfl, rfl⟩ := List.cons.inj heq
    -- no letter beyond the digits of base 16
    have hx : ¬ (base = 16 ∧ (x = 'x' ∨ x = 'X') ∧ startsDigit 16 rest' = true) := by
      rintro ⟨-, hx, -⟩
      obtain ⟨e, he, hlt'⟩ := isDigitOf_iff.mp (h.digits x (by simp))
      obtain rfl | rfl := hx
      · have hvalue : digitVal 'x' = some 33 := by decide
        rw [hvalue] at he
        cases he
        omega
      · have hvalue : digitVal 'X' = some 33 := by decide
        rw [hvalue] at he
        cases he
        omega
    rw [if_neg hx]
    have hzero : digitVal '0' = some 0 := by decide
    have hstep : readDigits base 0 ('0' :: x :: rest') = readDigits base 0 (x :: rest') := by
      rw [hd] at hzero
      cases hzero
      rw [readDigits, hd]
      dsimp only
      rw [if_pos hlt, Nat.zero_mul]
    rw [← hstep, hread]
    rfl
  · rw [if_pos hstart, hread]
    rfl

theorem stoul_of_isNumeral (h : IsNumeral base cs) (hbase : base ≤ 16) :
    stoul base cs =
      if 2 ^ 64 ≤ numeralValue base cs then none else some (numeralValue base cs) := by
  rw [stoul, takeSign_of_isNumeral h, readIn_of_isNumeral h hbase]
  rfl

end

end Numeral
end Lib
