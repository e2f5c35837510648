import EnergyStorage.Fault.Tokens
import EnergyStorage.Lib.Strtod

/-! # The numbers in the answers of the UPS

The parsers check a token by hand and leave the rest to the C library, which cuts, saturates and
knows more notations than the protocol. -/

namespace EnergyStorage
namespace Ups232AsciiProto

open Lib.Numeral
open Lib.Strtod

/-! ### The parsers -/

/-- Dashes stand for a missing value. -/
def isDashDouble (tok : String) : Bool :=
  '-' ∈ tok.toList && tok.toList.all (· ∈ ['-', '.', '_'])

def isDashInt (tok : String) : Bool := '-' ∈ tok.toList && tok.toList.all (· = '-')

/-- What `c_str` shows of a text: it ends before the first NUL. -/
def cStr (tok : String) : List Char := tok.toList.takeWhile (· ≠ '\x00')

/-- The number before it is rounded to a double, with its sign. -/
def parseDoubleToken (tok : String) : Option (Bool × Scanned) :=
  if tok = "" ∨ isDashDouble tok = true then none
  else
    match strtod ((cStr tok).dropWhile Fault.isSpace) with
    | some (neg, x, []) => some (neg, x)
    | _ => none

/-- The digits are checked, not the range: a `long` is cut to an `int`. -/
def parseIntToken (tok : String) : Option Int :=
  if tok = "" ∨ isDashInt tok = true then none
  else
    let digits := (takeSign tok.toList).2
    if digits = [] ∨ ¬ digits.all Char.isDigit then none
    else
      let v := strtol (cStr tok)
      if v.2 = [] then some (BitVec.ofInt 32 v.1).toInt else none

example : parseIntToken "-0075" = some (-75) ∧ parseIntToken "--" = none ∧
    parseIntToken "4294967297" = some 1 ∧
    parseDoubleToken "+024.6" = some (false, .decimal 246 (-1)) ∧
    parseDoubleToken "---.-" = none ∧ parseDoubleToken "24.6V" = none := by decide +kernel

/-! ### The numerals of the protocol -/

/-- An optionally signed decimal integer. -/
inductive IntegerText : List Char → Int → Prop
  | mk {sgn ds : List Char} (hsgn : IsSign sgn) (hds : IsNumeral 10 ds) :
      IntegerText (sgn ++ ds)
        (if sgn = ['-'] then -(numeralValue 10 ds : Int) else numeralValue 10 ds)

/-- An optionally signed decimal number, digits with at most one point. -/
inductive DecimalText : List Char → Bool × Scanned → Prop
  | whole {sgn ds : List Char} (hsgn : IsSign sgn) (hds : IsNumeral 10 ds) :
      DecimalText (sgn ++ ds) (sgn == ['-'], .decimal (numeralValue 10 ds) 0)
  | point {sgn ds frac : List Char} (hsgn : IsSign sgn) (hds : IsNumeral 10 (ds ++ frac)) :
      DecimalText (sgn ++ (ds ++ '.' :: frac))
        (sgn == ['-'], .decimal (numeralValue 10 (ds ++ frac)) (-frac.length))

def InInt (v : Int) : Prop := -2 ^ 31 ≤ v ∧ v < 2 ^ 31

instance (v : Int) : Decidable (InInt v) := inferInstanceAs (Decidable (_ ∧ _))

/-- The parsers take the numerals of the protocol, no others, and give their values. -/
structure TokenSound (tok : String) : Prop where
  int : ∀ v, parseIntToken tok = some v ↔ IntegerText tok.toList v ∧ InInt v
  double : ∀ v, parseDoubleToken tok = some v ↔ DecimalText tok.toList v

/-- Behind blanks and in front of a NUL the text is a number, and it has blanks, or a NUL, or
another notation than digits with a point. -/
def OtherNotation (tok : String) : Prop :=
  ∃ blanks sgn body rest, tok.toList = blanks ++ (sgn ++ body) ++ rest ∧
    (∀ c ∈ blanks, Fault.isSpace c = true) ∧ (∀ c ∈ rest.head?, c = '\x00') ∧ IsSign sgn ∧
    (IsSpecial body ∨ IsPointed 10 body ∧ (blanks ≠ [] ∨ rest ≠ []))

/-! ### Integers -/

theorem isDigitOf_of_isDigit {c : Char} (h : c.isDigit = true) : isDigitOf 10 c = true := by
  have hrange : 48 ≤ c.toNat ∧ c.toNat ≤ 57 := by
    simpa [Char.isDigit, UInt32.le_iff_toNat_le] using h
  have hzero : '0'.toNat = 48 := rfl
  refine isDigitOf_iff.mpr ⟨c.toNat - 48, ?_, by omega⟩
  rw [digitVal, if_pos h, hzero]

theorem isNumeral_iff {cs : List Char} :
    IsNumeral 10 cs ↔ ¬ (cs = [] ∨ ¬ cs.all Char.isDigit) := by
  rw [not_or, not_not, List.all_eq_true]
  constructor
  · intro h
    exact ⟨h.ne_nil, fun c hc => isDigit_of_isDigitOf (h.digits c hc)⟩
  · intro ⟨hne, hall⟩
    exact ⟨hne, fun c hc => isDigitOf_of_isDigit (hall c hc)⟩

def integerValue (cs : List Char) : Int :=
  if (takeSign cs).1 then -(numeralValue 10 (takeSign cs).2 : Int)
  else numeralValue 10 (takeSign cs).2

theorem takeSign_numeral {sgn ds : List Char} (hsgn : IsSign sgn) (hds : IsNumeral 10 ds) :
    takeSign (sgn ++ ds) = (sgn == ['-'], ds) := by
  refine takeSign_append hsgn fun c hc => ?_
  have hplain : IsPlain c := Or.inl (hds.digits c (List.mem_of_mem_head? hc))
  exact hplain.not_isAlpha.2.2

theorem integerText_iff {cs : List Char} {v : Int} :
    IntegerText cs v ↔ IsNumeral 10 (takeSign cs).2 ∧ v = integerValue cs := by
  constructor
  · intro h
    cases h with
    | @mk sgn ds hsgn hds =>
      rw [integerValue, takeSign_numeral hsgn hds]
      refine ⟨hds, ?_⟩
      simp only [beq_iff_eq]
  · intro ⟨hnum, hv⟩
    obtain ⟨sgn, hsgn, hcs⟩ := takeSign_split cs
    have htext := IntegerText.mk hsgn hnum
    have hsigned := takeSign_numeral hsgn hnum
    rw [← hcs] at htext hsigned
    have hneg : (takeSign cs).1 = true ↔ sgn = ['-'] := by
      rw [hsigned]
      exact beq_iff_eq
    rw [hv, integerValue]
    simp only [hneg]
    exact htext

/-- A text of signs, digits and other characters of numbers is what `c_str` shows. -/
theorem cStr_of_chars {tok : String} (h : ∀ c ∈ tok.toList, isNumberChar c = true) :
    cStr tok = tok.toList := by
  refine List.takeWhile_eq_self_iff.mpr fun c hc => ?_
  have hchar := h c hc
  refine decide_eq_true ?_
  rintro rfl
  exact absurd hchar (by decide)

def saturated (v : Int) : Int :=
  if v < -2 ^ 63 then -2 ^ 63 else if 2 ^ 63 ≤ v then 2 ^ 63 - 1 else v

theorem parseIntToken_eq (tok : String) :
    parseIntToken tok =
      if IsNumeral 10 (takeSign tok.toList).2 then
        some (BitVec.ofInt 32 (saturated (integerValue tok.toList))).toInt
      else none := by
  by_cases hnum : IsNumeral 10 (takeSign tok.toList).2
  · obtain ⟨c, rest, hdigits, hc⟩ := hnum.head
    obtain ⟨sgn, hsgn, htok⟩ := takeSign_split tok.toList
    have hmem : c ∈ tok.toList := by
      rw [htok, hdigits]
      exact List.mem_append_right sgn List.mem_cons_self
    have hempty : ¬ (tok = "" ∨ isDashInt tok = true) := by
      intro h
      obtain rfl | hdash := h
      · exact List.not_mem_nil hmem
      · have hall := (Bool.and_eq_true_iff.mp hdash).2
        have hc' := of_decide_eq_true (List.all_eq_true.mp hall c hmem)
        exact (IsPlain.not_isAlpha (Or.inl hc)).2.2.1 hc'
    have hchars : ∀ c ∈ tok.toList, isNumberChar c = true := by
      rw [htok]
      exact List.forall_mem_append.mpr
        ⟨hsgn.chars, fun c hc => isNumberChar_of_isDigitOf (hnum.digits c hc)⟩
    have hread := readDigits_of_digits hnum.digits 0
    rw [parseIntToken, if_neg hempty, if_neg (isNumeral_iff.mp hnum), if_pos hnum,
      cStr_of_chars hchars, strtol, if_pos (startsDigit_of_isNumeral hnum), hread]
    rfl
  · rw [if_neg hnum, parseIntToken]
    split
    · rfl
    · rw [if_pos (not_not.mp (mt isNumeral_iff.mpr hnum))]

theorem int_sound_iff (tok : String) :
    (∀ v, parseIntToken tok = some v ↔ IntegerText tok.toList v ∧ InInt v) ↔
      ∀ v, IntegerText tok.toList v → InInt v := by
  rw [parseIntToken_eq]
  by_cases hnum : IsNumeral 10 (takeSign tok.toList).2
  · rw [if_pos hnum]
    simp only [integerText_iff, hnum, true_and, forall_eq]
    constructor
    · intro h
      obtain ⟨hvalue, hin⟩ := (h _).mp rfl
      rwa [hvalue] at hin
    · intro hin v
      have hkept : saturated (integerValue tok.toList) = integerValue tok.toList := by
        obtain ⟨hlow, hhigh⟩ := hin
        rw [saturated, if_neg (by omega), if_neg (by omega)]
      rw [hkept, BitVec.toInt_ofInt_eq_self (by decide) hin.1 hin.2, Option.some.injEq]
      constructor
      · rintro rfl
        exact ⟨rfl, hin⟩
      · exact fun h => h.1.symm
  · rw [if_neg hnum]
    simp [integerText_iff, hnum]

/-! ### Numbers with a point -/

theorem decimalText_unfold {cs : List Char} {v : Bool × Scanned} (h : DecimalText cs v) :
    ∃ sgn body, cs = sgn ++ body ∧ IsSign sgn ∧ IsPointed 10 body ∧
      strtod cs = some (v.1, v.2, []) := by
  cases h with
  | whole hsgn hds => exact ⟨_, _, rfl, hsgn, IsPointed.whole hds, strtod_whole_number hsgn hds⟩
  | point hsgn hds => exact ⟨_, _, rfl, hsgn, IsPointed.point hds, strtod_point_number hsgn hds⟩

theorem exists_decimalText {sgn body : List Char} (hsgn : IsSign sgn) (h : IsPointed 10 body) :
    ∃ v, DecimalText (sgn ++ body) v := by
  cases h with
  | whole h => exact ⟨_, DecimalText.whole hsgn h⟩
  | point h => exact ⟨_, DecimalText.point hsgn h⟩

/-- No numeral of the protocol has it. -/
def IsForeign (c : Char) : Prop := ¬ IsPlain c ∧ c ≠ '-' ∧ c ≠ '+'

theorem IsForeign.not_decimalText {c : Char} (h : IsForeign c) {cs : List Char} (hc : c ∈ cs) :
    ¬ ∃ v, DecimalText cs v := by
  intro ⟨v, hv⟩
  obtain ⟨sgn, body, rfl, hsgn, hbody, -⟩ := decimalText_unfold hv
  obtain hc | hc := List.mem_append.mp hc
  · rcases hsgn with rfl | rfl | rfl
    · cases hc
    · exact h.2.1 (List.mem_singleton.mp hc)
    · exact h.2.2 (List.mem_singleton.mp hc)
  · exact h.1 (hbody.plain c hc)

theorem isForeign_of_isAlpha {c : Char} (h : c.isAlpha = true) : IsForeign c := by
  refine ⟨fun hplain => ?_, ?_, ?_⟩
  · rw [hplain.not_isAlpha.1] at h
    cases h
  · rintro rfl
    cases h
  · rintro rfl
    cases h

theorem isSpace_not_numberChar {c : Char} (h : Fault.isSpace c = true) :
    isNumberChar c = false ∧ IsForeign c := by
  simp only [Fault.isSpace, Bool.or_eq_true, decide_eq_true_eq] at h
  obtain ((((h | h) | h) | h) | h) | h := h
  all_goals
    rw [h]
    show _ ∧ ¬ (isDigitOf 10 _ = true ∨ _) ∧ _
    decide

/-- What `strtod` gets of a token that is a number between blanks and a NUL. -/
theorem unblanked_cStr {tok : String} {blanks text rest : List Char}
    (htok : tok.toList = blanks ++ text ++ rest)
    (hblanks : ∀ c ∈ blanks, Fault.isSpace c = true) (hrest : ∀ c ∈ rest.head?, c = '\x00')
    (htext : ∀ c ∈ text, isNumberChar c = true) (hne : text ≠ []) :
    (cStr tok).dropWhile Fault.isSpace = text := by
  have hshown : ∀ c ∈ blanks ++ text, decide (c ≠ '\x00') = true := by
    intro c hc
    refine decide_eq_true ?_
    rintro rfl
    obtain hc | hc := List.mem_append.mp hc
    · exact absurd (hblanks _ hc) (by decide)
    · exact absurd (htext _ hc) (by decide)
  have hcut : rest.takeWhile (fun c => decide (c ≠ '\x00')) = [] := by
    cases rest with
    | nil => rfl
    | cons c rest =>
      rw [hrest c rfl]
      rfl
  rw [cStr, htok, List.takeWhile_append_of_pos hshown, hcut, List.append_nil,
    List.dropWhile_append_of_pos hblanks]
  obtain ⟨c, text, rfl⟩ := List.exists_cons_of_ne_nil hne
  refine List.dropWhile_cons_of_neg fun hspace => ?_
  exact absurd (isSpace_not_numberChar hspace).1 (by simp [htext c List.mem_cons_self])

/-- A token whose number shows more than dashes goes to `strtod`. -/
theorem parseDoubleToken_eq {tok : String} {blanks sgn body rest : List Char}
    (htok : tok.toList = blanks ++ (sgn ++ body) ++ rest)
    (hblanks : ∀ c ∈ blanks, Fault.isSpace c = true) (hrest : ∀ c ∈ rest.head?, c = '\x00')
    (hsgn : IsSign sgn) (hbody : IsPointed 10 body ∨ IsSpecial body) {neg : Bool} {x : Scanned}
    (h : strtod (sgn ++ body) = some (neg, x, [])) : parseDoubleToken tok = some (neg, x) := by
  have hchars : ∀ c ∈ sgn ++ body, isNumberChar c = true := by
    refine List.forall_mem_append.mpr ⟨hsgn.chars, ?_⟩
    obtain hbody | hbody := hbody
    · exact hbody.chars
    · exact hbody.chars
  have hshown : ∃ c ∈ body, c ∉ ['-', '.', '_'] := by
    have hall : ∀ x ∈ ['-', '.', '_'], isDigitOf 10 x = false ∧ x.isAlpha = false := by
      intro x hx
      simp only [List.mem_cons, List.not_mem_nil, or_false] at hx
      rcases hx with rfl | rfl | rfl <;> decide
    obtain hbody | hbody := hbody
    · obtain ⟨c, hc, hdigit⟩ := hbody.exists_digit
      refine ⟨c, hc, fun hdash => ?_⟩
      rw [(hall c hdash).1] at hdigit
      cases hdigit
    · obtain ⟨c, hc, halpha⟩ := hbody.exists_isAlpha
      refine ⟨c, hc, fun hdash => ?_⟩
      rw [(hall c hdash).2] at halpha
      cases halpha
  obtain ⟨c, hc, hdash⟩ := hshown
  have hmem : c ∈ tok.toList := by
    rw [htok]
    exact List.mem_append_left rest (List.mem_append_right blanks (List.mem_append_right sgn hc))
  have hempty : ¬ (tok = "" ∨ isDashDouble tok = true) := by
    intro h
    obtain rfl | hall := h
    · exact List.not_mem_nil hmem
    · have hall := List.all_eq_true.mp (Bool.and_eq_true_iff.mp hall).2 c hmem
      exact hdash (of_decide_eq_true hall)
  have hne : sgn ++ body ≠ [] := List.ne_nil_of_mem (List.mem_append_right sgn hc)
  rw [parseDoubleToken, if_neg hempty, unblanked_cStr htok hblanks hrest hchars hne, h]

/-- What a token is that `strtod` takes whole. -/
theorem of_parseDoubleToken {tok : String} {v : Bool × Scanned}
    (h : parseDoubleToken tok = some v) :
    ∃ blanks sgn body rest, tok.toList = blanks ++ (sgn ++ body) ++ rest ∧
      (∀ c ∈ blanks, Fault.isSpace c = true) ∧ (∀ c ∈ rest.head?, c = '\x00') ∧ IsSign sgn ∧
      (IsPointed 10 body ∨ IsSpecial body) ∧ strtod (sgn ++ body) = some (v.1, v.2, []) := by
  rw [parseDoubleToken] at h
  split at h
  · cases h
  split at h
  · rename_i neg x hscan
    cases h
    obtain ⟨sgn, body, htext, hsgn, hbody⟩ := strtod_whole_iff.mp ⟨neg, x, hscan⟩
    refine ⟨(cStr tok).takeWhile Fault.isSpace, sgn, body,
      tok.toList.dropWhile (· ≠ '\x00'), ?_, List.all_eq_true.mp List.all_takeWhile, ?_, hsgn,
      hbody, htext ▸ hscan⟩
    · rw [← htext, List.takeWhile_append_dropWhile, cStr, List.takeWhile_append_dropWhile]
    · intro c hc
      have hnot := List.head?_dropWhile_not (fun c => decide (c ≠ '\x00')) tok.toList
      rw [Option.mem_def.mp hc] at hnot
      simpa using hnot
  · cases h

theorem double_sound_iff (tok : String) :
    (∀ v, parseDoubleToken tok = some v ↔ DecimalText tok.toList v) ↔ ¬ OtherNotation tok := by
  constructor
  · intro h ⟨blanks, sgn, body, rest, htok, hblanks, hrest, hsgn, hother⟩
    have hbody : IsPointed 10 body ∨ IsSpecial body := hother.symm.imp_left And.left
    obtain ⟨neg, x, hscan⟩ := strtod_whole_iff.mpr ⟨sgn, body, rfl, hsgn, hbody⟩
    have hdecimal := (h _).mp (parseDoubleToken_eq htok hblanks hrest hsgn hbody hscan)
    have hforeign : ∃ c ∈ tok.toList, IsForeign c := by
      rw [htok]
      obtain hspecial | ⟨-, hmore⟩ := hother
      · obtain ⟨c, hc, halpha⟩ := hspecial.exists_isAlpha
        refine ⟨c, ?_, isForeign_of_isAlpha halpha⟩
        exact List.mem_append_left rest (List.mem_append_right blanks
          (List.mem_append_right sgn hc))
      obtain hne | hne := hmore
      · obtain ⟨c, more, rfl⟩ := List.exists_cons_of_ne_nil hne
        have hspace := isSpace_not_numberChar (hblanks c List.mem_cons_self)
        exact ⟨c, by simp, hspace.2⟩
      · obtain ⟨c, more, rfl⟩ := List.exists_cons_of_ne_nil hne
        refine ⟨c, by simp, ?_⟩
        rw [hrest c rfl]
        show ¬ (isDigitOf 10 _ = true ∨ _) ∧ _
        decide
    obtain ⟨c, hc, hforeign⟩ := hforeign
    exact hforeign.not_decimalText hc ⟨_, hdecimal⟩
  · intro hother v
    constructor
    · intro h
      obtain ⟨blanks, sgn, body, rest, htok, hblanks, hrest, hsgn, hbody, hscan⟩ :=
        of_parseDoubleToken h
      have hplain : IsPointed 10 body ∧ ¬ (blanks ≠ [] ∨ rest ≠ []) := by
        obtain hpointed | hspecial := hbody
        · refine ⟨hpointed, fun hmore => hother ?_⟩
          exact ⟨blanks, sgn, body, rest, htok, hblanks, hrest, hsgn, Or.inr ⟨hpointed, hmore⟩⟩
        · exact absurd ⟨blanks, sgn, body, rest, htok, hblanks, hrest, hsgn, Or.inl hspecial⟩ hother
      obtain ⟨hpointed, hmore⟩ := hplain
      rw [not_or, not_not, not_not] at hmore
      rw [hmore.1, hmore.2, List.nil_append, List.append_nil] at htok
      obtain ⟨v', hv'⟩ := exists_decimalText hsgn hpointed
      obtain ⟨-, -, -, -, -, hscan'⟩ := decimalText_unfold hv'
      have hpair := Option.some.inj (hscan.symm.trans hscan')
      have hsame : v = v' := Prod.ext (Prod.mk.inj hpair).1 (Prod.mk.inj (Prod.mk.inj hpair).2).1
      rw [htok, hsame]
      exact hv'
    · intro h
      obtain ⟨sgn, body, htok, hsgn, hbody, hscan⟩ := decimalText_unfold h
      rw [htok] at hscan
      have hframed : tok.toList = [] ++ (sgn ++ body) ++ [] := by
        rw [htok, List.nil_append, List.append_nil]
      exact parseDoubleToken_eq hframed nofun nofun hsgn (Or.inl hbody) hscan

/-- The parsers are sound on a token exactly if it is no integer out of range and its number, if
it has one, is in no other notation. -/
theorem tokenSound_iff (tok : String) :
    TokenSound tok ↔ (∀ v, IntegerText tok.toList v → InInt v) ∧ ¬ OtherNotation tok := by
  rw [← int_sound_iff, ← double_sound_iff]
  exact ⟨fun h => ⟨h.int, h.double⟩, fun h => ⟨h.1, h.2⟩⟩

/-- A number of seconds beyond 32 bits is cut to 1, and `nan` is taken for a number. -/
theorem cut_and_nan_taken :
    parseIntToken "4294967297" = some 1 ∧ ¬ TokenSound "4294967297" ∧
      parseDoubleToken "nan" = some (false, .nan) ∧ ¬ TokenSound "nan" := by
  have hcut : parseIntToken "4294967297" = some 1 := by decide +kernel
  have hnan : parseDoubleToken "nan" = some (false, .nan) := by decide +kernel
  refine ⟨hcut, fun h => ?_, hnan, fun h => ?_⟩
  · have hvalue := ((integerText_iff.mp ((h.int 1).mp hcut).1)).2
    revert hvalue
    decide +kernel
  · have hforeign : IsForeign 'n' := isForeign_of_isAlpha (by decide)
    exact hforeign.not_decimalText (by decide +kernel) ⟨_, (h.double _).mp hnan⟩

end Ups232AsciiProto
end EnergyStorage
