import EnergyStorage.Lib.Numeral

/-! # Floating-point texts as the C library reads them

`strtod` takes the longest front of a text that is a number in one of its notations: digits with
a point, these with an exponent, base 16, and the words for infinity and for no number. -/

namespace Lib
namespace Strtod

open Numeral

/-- What a text says before it is rounded: digits times a power of 10, or of 2. -/
inductive Scanned where
  | decimal (digits : Nat) (exponent : Int)
  | hex (digits : Nat) (exponent : Int)
  | infinity
  | nan
  deriving DecidableEq, Repr

/-- Digits with at most one point among them, how many stand behind it, and the rest. -/
def scanDigits (base : Nat) (cs : List Char) : Option (List Char × Nat × List Char) :=
  let whole := cs.takeWhile (isDigitOf base)
  match cs.dropWhile (isDigitOf base) with
  | '.' :: r =>
    let frac := r.takeWhile (isDigitOf base)
    if whole ++ frac = [] then none
    else some (whole ++ frac, frac.length, r.dropWhile (isDigitOf base))
  | r => if whole = [] then none else some (whole, 0, r)

/-- An exponent behind one of its letters; without digits it is none. -/
def scanExponent (lower upper : Char) : List Char → Int × List Char
  | [] => (0, [])
  | c :: r =>
    let signed := takeSign r
    let ds := signed.2.takeWhile (isDigitOf 10)
    if (c = lower ∨ c = upper) ∧ ds ≠ [] then
      (if signed.1 then -(numeralValue 10 ds : Int) else numeralValue 10 ds,
        signed.2.dropWhile (isDigitOf 10))
    else (0, c :: r)

def scanDecimal (cs : List Char) : Option (Scanned × List Char) :=
  (scanDigits 10 cs).map fun d =>
    let e := scanExponent 'e' 'E' d.2.2
    (.decimal (numeralValue 10 d.1) (e.1 - d.2.1), e.2)

/-- A prefix without digits behind it is a zero, and its letter is left. -/
def scanHex : List Char → Option (Scanned × List Char)
  | '0' :: x :: cs =>
    if x = 'x' ∨ x = 'X' then
      (scanDigits 16 cs).map fun d =>
        let e := scanExponent 'p' 'P' d.2.2
        (.hex (numeralValue 16 d.1) (e.1 - 4 * d.2.1), e.2)
    else none
  | _ => none

def isWordChar (c : Char) : Bool := c.isAlphanum || c == '_'

/-- Behind `nan` a word in parentheses is taken too. -/
def skipPayload (r : List Char) : List Char :=
  match r with
  | '(' :: w =>
    match w.dropWhile isWordChar with
    | ')' :: rest => rest
    | _ => r
  | _ => r

def startsWord (word : String) (cs : List Char) : Bool :=
  (cs.take word.length).map Char.toLower == word.toList

def scanWord (cs : List Char) : Option (Scanned × List Char) :=
  if startsWord "infinity" cs then some (.infinity, cs.drop 8)
  else if startsWord "inf" cs then some (.infinity, cs.drop 3)
  else if startsWord "nan" cs then some (.nan, skipPayload (cs.drop 3))
  else none

/-- From behind the leading blanks: the sign, the number and what is left; none where no front is
a number. -/
def strtod (cs : List Char) : Option (Bool × Scanned × List Char) :=
  let signed := takeSign cs
  ((scanWord signed.2).or ((scanHex signed.2).or (scanDecimal signed.2))).map fun r =>
    (signed.1, r.1, r.2)

example : strtod "-12.50e1 V".toList = some (true, .decimal 1250 (-1), [' ', 'V']) ∧
    strtod "0x.8".toList = some (false, .hex 8 (-4), []) ∧
    strtod "0x".toList = some (false, .decimal 0 0, ['x']) ∧
    strtod "NaN(1)".toList = some (false, .nan, []) ∧
    strtod "+.".toList = none := by decide +kernel

/-! ### The notations -/

def IsSign (cs : List Char) : Prop := cs = [] ∨ cs = ['-'] ∨ cs = ['+']

/-- Digits with at most one point among them. -/
inductive IsPointed (base : Nat) : List Char → Prop
  | whole {ds : List Char} (h : IsNumeral base ds) : IsPointed base ds
  | point {ds frac : List Char} (h : IsNumeral base (ds ++ frac)) :
      IsPointed base (ds ++ '.' :: frac)

inductive IsExponent (lower upper : Char) : List Char → Prop
  | mk {c : Char} {sgn ds : List Char} (hc : c = lower ∨ c = upper) (hsgn : IsSign sgn)
      (hds : IsNumeral 10 ds) : IsExponent lower upper (c :: (sgn ++ ds))

/-- The notations other than digits with a point. -/
inductive IsSpecial : List Char → Prop
  | exponent {m e : List Char} (hm : IsPointed 10 m) (he : IsExponent 'e' 'E' e) :
      IsSpecial (m ++ e)
  | hex {x : Char} {m e : List Char} (hx : x = 'x' ∨ x = 'X') (hm : IsPointed 16 m)
      (he : e = [] ∨ IsExponent 'p' 'P' e) : IsSpecial ('0' :: x :: (m ++ e))
  | word {cs : List Char} (h : cs.map Char.toLower ∈ ["inf".toList, "infinity".toList,
      "nan".toList]) : IsSpecial cs
  | payload {cs w : List Char} (h : cs.map Char.toLower = "nan".toList)
      (hw : ∀ c ∈ w, isWordChar c = true) : IsSpecial (cs ++ '(' :: (w ++ [')']))

/-! ### Digits -/

section Digits

variable {base : Nat} {ds frac r : List Char}

/-- No digit goes on at the front. -/
def Stops (base : Nat) (r : List Char) : Prop := ∀ c ∈ r.head?, isDigitOf base c = false

theorem isDigitOf_point (base : Nat) : isDigitOf base '.' = false := by
  have hvalue : digitVal '.' = none := by decide
  rw [isDigitOf, hvalue]
  rfl

theorem span_digits (h : ∀ c ∈ ds, isDigitOf base c = true) (hr : Stops base r) :
    (ds ++ r).takeWhile (isDigitOf base) = ds ∧ (ds ++ r).dropWhile (isDigitOf base) = r := by
  rw [List.takeWhile_append_of_pos h, List.dropWhile_append_of_pos h]
  cases r with
  | nil => exact ⟨List.append_nil ds, rfl⟩
  | cons c r =>
    have hc := hr c rfl
    rw [List.takeWhile_cons_of_neg (by simp [hc]), List.dropWhile_cons_of_neg (by simp [hc])]
    exact ⟨List.append_nil ds, rfl⟩

theorem digits_takeWhile (base : Nat) (cs : List Char) :
    ∀ c ∈ cs.takeWhile (isDigitOf base), isDigitOf base c = true :=
  List.all_eq_true.mp List.all_takeWhile

theorem scanDigits_whole (h : IsNumeral base ds) (hr : Stops base r) (hpoint : r.head? ≠ some '.') :
    scanDigits base (ds ++ r) = some (ds, 0, r) := by
  obtain ⟨htake, hdrop⟩ := span_digits h.digits hr
  unfold scanDigits
  rw [htake, hdrop]
  split
  · exact absurd rfl hpoint
  · rw [if_neg h.ne_nil]

theorem scanDigits_point (h : IsNumeral base (ds ++ frac)) (hr : Stops base r) :
    scanDigits base (ds ++ '.' :: (frac ++ r)) = some (ds ++ frac, frac.length, r) := by
  obtain ⟨hds, hfrac⟩ := List.forall_mem_append.mp h.digits
  have hstop : Stops base ('.' :: (frac ++ r)) := by
    intro c hc
    cases hc
    exact isDigitOf_point base
  obtain ⟨htake, hdrop⟩ := span_digits hds hstop
  obtain ⟨htake', hdrop'⟩ := span_digits hfrac hr
  unfold scanDigits
  simp only [htake, hdrop, htake', hdrop', if_neg h.ne_nil]

/-- The two at once. -/
theorem scanDigits_of_isPointed {body : List Char} (h : IsPointed base body) (hr : Stops base r)
    (hpoint : r.head? ≠ some '.') : ∃ d n, scanDigits base (body ++ r) = some (d, n, r) := by
  cases h with
  | whole h => exact ⟨_, _, scanDigits_whole h hr hpoint⟩
  | point h =>
    rw [List.append_assoc, List.cons_append]
    exact ⟨_, _, scanDigits_point h hr⟩

theorem isPointed_of_scanDigits {cs d : List Char} {n : Nat}
    (h : scanDigits base cs = some (d, n, r)) : ∃ body, IsPointed base body ∧ cs = body ++ r := by
  have hsplit : cs.takeWhile (isDigitOf base) ++ cs.dropWhile (isDigitOf base) = cs :=
    List.takeWhile_append_dropWhile
  unfold scanDigits at h
  dsimp only at h
  split at h
  · rename_i r' hdrop
    split at h
    · cases h
    · rename_i hne
      cases h
      refine ⟨_, IsPointed.point ⟨hne, ?_⟩, ?_⟩
      · exact List.forall_mem_append.mpr ⟨digits_takeWhile base cs, digits_takeWhile base r'⟩
      · rw [List.append_assoc, List.cons_append, List.takeWhile_append_dropWhile, ← hdrop, hsplit]
  · split at h
    · cases h
    · rename_i hne
      cases h
      exact ⟨_, IsPointed.whole ⟨hne, digits_takeWhile base cs⟩, hsplit.symm⟩

end Digits

/-! ### Exponents -/

theorem takeSign_split (cs : List Char) : ∃ sgn, IsSign sgn ∧ cs = sgn ++ (takeSign cs).2 := by
  unfold takeSign
  split
  · exact ⟨['-'], Or.inr (Or.inl rfl), rfl⟩
  · exact ⟨['+'], Or.inr (Or.inr rfl), rfl⟩
  · exact ⟨[], Or.inl rfl, rfl⟩

theorem takeSign_append {sgn cs : List Char} (hsgn : IsSign sgn)
    (hcs : ∀ c ∈ cs.head?, c ≠ '-' ∧ c ≠ '+') : takeSign (sgn ++ cs) = (sgn == ['-'], cs) := by
  rcases hsgn with rfl | rfl | rfl
  · rw [List.nil_append]
    unfold takeSign
    split
    · exact absurd rfl (hcs _ rfl).1
    · exact absurd rfl (hcs _ rfl).2
    · rfl
  · rfl
  · rfl

section Exponents

variable {lower upper : Char}

theorem scanExponent_of_isExponent {e : List Char} (h : IsExponent lower upper e) :
    (scanExponent lower upper e).2 = [] := by
  cases h with
  | @mk c sgn ds hc hsgn hds =>
    have hsigned : takeSign (sgn ++ ds) = (sgn == ['-'], ds) := by
      refine takeSign_append hsgn fun c hc => ?_
      have hdigit := hds.digits c (List.mem_of_mem_head? hc)
      constructor
      · rintro rfl
        exact absurd hdigit (by decide)
      · rintro rfl
        exact absurd hdigit (by decide)
    obtain ⟨htake, hdrop⟩ := span_digits (r := []) hds.digits nofun
    rw [List.append_nil] at htake hdrop
    rw [scanExponent, hsigned]
    dsimp only
    rw [htake, hdrop, if_pos ⟨hc, hds.ne_nil⟩]

theorem isExponent_of_scanExponent {r : List Char} (h : (scanExponent lower upper r).2 = []) :
    r = [] ∨ IsExponent lower upper r := by
  cases r with
  | nil => exact Or.inl rfl
  | cons c r =>
    right
    rw [scanExponent] at h
    split at h
    · rename_i hexp
      dsimp only at h
      obtain ⟨sgn, hsgn, hr⟩ := takeSign_split r
      have hsplit : (takeSign r).2 = (takeSign r).2.takeWhile (isDigitOf 10) := by
        conv_lhs => rw [← List.takeWhile_append_dropWhile (p := isDigitOf 10) (l := (takeSign r).2)]
        rw [h, List.append_nil]
      rw [hr, hsplit]
      exact IsExponent.mk hexp.1 hsgn ⟨hexp.2, digits_takeWhile 10 _⟩
    · cases h

end Exponents

/-! ### Words -/

section Words

variable {cs : List Char}

theorem startsWord_iff (word : String) :
    startsWord word cs = true ↔ (cs.take word.length).map Char.toLower = word.toList := by
  rw [startsWord, beq_iff_eq]

theorem map_toLower_of_startsWord {word : String} (h : startsWord word cs = true)
    (hdrop : cs.drop word.length = []) : cs.map Char.toLower = word.toList := by
  rw [startsWord_iff] at h
  rwa [List.take_of_length_le (List.drop_eq_nil_iff.mp hdrop)] at h

theorem startsWord_self {word : String} (h : cs.map Char.toLower = word.toList) (r : List Char) :
    startsWord word (cs ++ r) = true ∧ (cs ++ r).drop word.length = r := by
  have hlength : cs.length = word.length := by
    rw [← List.length_map, h, String.length_toList]
  rw [startsWord_iff, ← hlength, List.take_left, List.drop_left]
  exact ⟨h, rfl⟩

/-- Another word of another beginning. -/
theorem startsWord_of_head {word : String} {a : Char} (hword : word.toList.head? = some a)
    (h : ∀ c ∈ cs.head?, c.toLower ≠ a) : startsWord word cs = false := by
  rw [← Bool.not_eq_true, startsWord_iff]
  intro hmap
  rw [← hmap, List.head?_map, List.head?_take] at hword
  split at hword
  · cases hword
  · obtain ⟨c, hc, rfl⟩ := Option.map_eq_some_iff.mp hword
    exact h c hc rfl

theorem scanWord_eq_none (h : ∀ c ∈ cs.head?, c.toLower ≠ 'i' ∧ c.toLower ≠ 'n') :
    scanWord cs = none := by
  have hinf : ∀ word ∈ ["infinity", "inf"], startsWord word cs = false := by
    intro word hword
    refine startsWord_of_head (a := 'i') ?_ fun c hc => (h c hc).1
    revert word
    decide +kernel
  have hnan : startsWord "nan" cs = false :=
    startsWord_of_head (a := 'n') (by decide +kernel) fun c hc => (h c hc).2
  rw [scanWord, hinf "infinity" (by simp), hinf "inf" (by simp), hnan]
  rfl

theorem skipPayload_eq_nil_iff {r : List Char} :
    skipPayload r = [] ↔ r = [] ∨ ∃ w, r = '(' :: (w ++ [')']) ∧ ∀ c ∈ w, isWordChar c = true := by
  constructor
  · intro h
    unfold skipPayload at h
    split at h
    · rename_i w
      split at h
      · rename_i rest hrest
        right
        refine ⟨w.takeWhile isWordChar, ?_, List.all_eq_true.mp List.all_takeWhile⟩
        rw [← h, ← hrest, List.takeWhile_append_dropWhile]
      · cases h
    · exact Or.inl h
  · intro h
    obtain rfl | ⟨w, rfl, hw⟩ := h
    · rfl
    · have hparen : isWordChar ')' = false := by decide
      have hrest : (w ++ [')']).dropWhile isWordChar = [')'] := by
        rw [List.dropWhile_append_of_pos hw, List.dropWhile_cons_of_neg (by simp [hparen])]
      simp only [skipPayload, hrest]

/-- A whole text is a word or has none of them in front. -/
theorem scanWord_whole_iff :
    (∃ x, scanWord cs = some (x, [])) ↔
      cs.map Char.toLower ∈ ["inf".toList, "infinity".toList, "nan".toList] ∨
        ∃ d w, cs = d ++ '(' :: (w ++ [')']) ∧ d.map Char.toLower = "nan".toList ∧
          ∀ c ∈ w, isWordChar c = true := by
  constructor
  · intro ⟨x, h⟩
    unfold scanWord at h
    split at h
    · rename_i hword
      have hdrop := (Prod.mk.inj (Option.some.inj h)).2
      exact Or.inl (by simp [map_toLower_of_startsWord hword hdrop])
    split at h
    · rename_i hword
      have hdrop := (Prod.mk.inj (Option.some.inj h)).2
      exact Or.inl (by simp [map_toLower_of_startsWord hword hdrop])
    split at h
    · rename_i hword
      have hskip := (Prod.mk.inj (Option.some.inj h)).2
      obtain hdrop | ⟨w, hdrop, hw⟩ := skipPayload_eq_nil_iff.mp hskip
      · exact Or.inl (by simp [map_toLower_of_startsWord hword hdrop])
      · refine Or.inr ⟨cs.take 3, w, ?_, (startsWord_iff _).mp hword, hw⟩
        rw [← hdrop, List.take_append_drop]
    · cases h
  · intro h
    have hnan : ∀ d r, d.map Char.toLower = "nan".toList → skipPayload r = [] →
        ∃ x, scanWord (d ++ r) = some (x, []) := by
      intro d r hd hr
      have hother : ∀ word ∈ ["infinity", "inf"], startsWord word (d ++ r) = false := by
        intro word hword
        refine startsWord_of_head (a := 'i') ?_ fun c hc => ?_
        · revert word
          decide +kernel
        · cases d with
          | nil => cases hd
          | cons x d =>
            cases hc
            rw [(List.cons.inj hd).1]
            decide
      obtain ⟨hstart, hdrop⟩ := startsWord_self hd r
      rw [scanWord, hother "infinity" (by simp), hother "inf" (by simp), hstart, if_pos rfl]
      refine ⟨.nan, ?_⟩
      show some (Scanned.nan, skipPayload ((d ++ r).drop "nan".length)) = _
      rw [hdrop, hr]
    obtain hword | ⟨d, w, rfl, hd, hw⟩ := h
    · simp only [List.mem_cons, List.not_mem_nil, or_false] at hword
      obtain hinf | hinfinity | hword := hword
      · have hlong : startsWord "infinity" cs = false := by
          rw [startsWord, List.map_take, hinf]
          decide +kernel
        obtain ⟨hstart, hdrop⟩ := startsWord_self hinf []
        rw [List.append_nil] at hstart hdrop
        refine ⟨.infinity, ?_⟩
        rw [scanWord, hlong, hstart, if_neg (by decide), if_pos rfl]
        exact congrArg (fun r => some (Scanned.infinity, r)) hdrop
      · obtain ⟨hstart, hdrop⟩ := startsWord_self hinfinity []
        rw [List.append_nil] at hstart hdrop
        refine ⟨.infinity, ?_⟩
        rw [scanWord, hstart, if_pos rfl]
        exact congrArg (fun r => some (Scanned.infinity, r)) hdrop
      · have h := hnan cs [] hword rfl
        rwa [List.append_nil] at h
    · exact hnan d _ hd (skipPayload_eq_nil_iff.mpr (Or.inr ⟨w, rfl, hw⟩))

end Words

/-! ### Whole texts -/

/-- What a number with a point begins with. -/
theorem IsPointed.head {base : Nat} {body : List Char} (h : IsPointed base body) :
    ∃ c rest, body = c :: rest ∧ (isDigitOf base c = true ∨ c = '.') := by
  cases h with
  | whole h =>
    obtain ⟨c, rest, rfl, hc⟩ := h.head
    exact ⟨c, rest, rfl, Or.inl hc⟩
  | @point ds frac h =>
    cases ds with
    | nil => exact ⟨'.', frac, rfl, Or.inr rfl⟩
    | cons c ds => exact ⟨c, ds ++ '.' :: frac, rfl, Or.inl (h.digits c List.mem_cons_self)⟩


/-- A decimal digit or the point. -/
def IsPlain (c : Char) : Prop := isDigitOf 10 c = true ∨ c = '.'

theorem isDigit_of_isDigitOf {c : Char} (h : isDigitOf 10 c = true) : c.isDigit = true := by
  obtain ⟨d, hd, hlt⟩ := isDigitOf_iff.mp h
  unfold digitVal at hd
  split at hd
  · assumption
  split at hd
  · cases hd
    omega
  · cases hd

/-- No letter is plain, and no sign. -/
theorem IsPlain.not_isAlpha {c : Char} (h : IsPlain c) :
    c.isAlpha = false ∧ c.toLower = c ∧ c ≠ '-' ∧ c ≠ '+' := by
  obtain h | rfl := h
  · have hall : ∀ k : Fin 10, (Char.ofNat (48 + k)).isAlpha = false ∧
        (Char.ofNat (48 + k)).toLower = Char.ofNat (48 + k) ∧ Char.ofNat (48 + k) ≠ '-' ∧
          Char.ofNat (48 + k) ≠ '+' := by decide
    have hdigit : 48 ≤ c.toNat ∧ c.toNat ≤ 57 := by
      simpa [Char.isDigit, UInt32.le_iff_toNat_le] using isDigit_of_isDigitOf h
    have hc : c = Char.ofNat (48 + (c.toNat - 48)) := by
      rw [Nat.add_sub_cancel' hdigit.1, Char.ofNat_toNat]
    rw [hc]
    exact hall ⟨c.toNat - 48, by omega⟩
  · decide

theorem IsPointed.plain {body : List Char} (h : IsPointed 10 body) : ∀ c ∈ body, IsPlain c := by
  cases h with
  | whole h => exact fun c hc => Or.inl (h.digits c hc)
  | @point ds frac h =>
    obtain ⟨hds, hfrac⟩ := List.forall_mem_append.mp h.digits
    intro c hc
    obtain hc | hc := List.mem_append.mp hc
    · exact Or.inl (hds c hc)
    obtain rfl | hc := List.mem_cons.mp hc
    · exact Or.inr rfl
    · exact Or.inl (hfrac c hc)

theorem IsExponent.chars {lower upper : Char} {e : List Char} (h : IsExponent lower upper e) :
    ∀ c ∈ e, (c = lower ∨ c = upper) ∨ c = '-' ∨ c = '+' ∨ IsPlain c := by
  cases h with
  | @mk x sgn ds hx hsgn hds =>
    intro c hc
    obtain rfl | hc := List.mem_cons.mp hc
    · exact Or.inl hx
    obtain hc | hc := List.mem_append.mp hc
    · rcases hsgn with rfl | rfl | rfl
      · cases hc
      · exact Or.inr (Or.inl (List.mem_singleton.mp hc))
      · exact Or.inr (Or.inr (Or.inl (List.mem_singleton.mp hc)))
    · exact Or.inr (Or.inr (Or.inr (Or.inl (hds.digits c hc))))

theorem IsExponent.stops {lower upper : Char} {e : List Char} (base : Nat)
    (h : e = [] ∨ IsExponent lower upper e) (hlower : isDigitOf base lower = false)
    (hupper : isDigitOf base upper = false) (hpoint : lower ≠ '.' ∧ upper ≠ '.') :
    Stops base e ∧ e.head? ≠ some '.' := by
  obtain rfl | h := h
  · exact ⟨nofun, nofun⟩
  cases h with
  | @mk x sgn ds hx hsgn hds =>
    constructor
    · intro c hc
      cases hc
      rcases hx with rfl | rfl
      · exact hlower
      · exact hupper
    · intro hc
      cases hc
      rcases hx with rfl | rfl
      · exact hpoint.1 rfl
      · exact hpoint.2 rfl

/-- With an exponent or without one. -/
theorem scanDecimal_whole {m e : List Char} (hm : IsPointed 10 m)
    (he : e = [] ∨ IsExponent 'e' 'E' e) : ∃ x, scanDecimal (m ++ e) = some (x, []) := by
  obtain ⟨hstops, hpoint⟩ := IsExponent.stops 10 he (by decide) (by decide) (by decide)
  obtain ⟨d, n, hscan⟩ := scanDigits_of_isPointed hm hstops hpoint
  have hend : (scanExponent 'e' 'E' e).2 = [] := by
    obtain rfl | he := he
    · rfl
    · exact scanExponent_of_isExponent he
  refine ⟨.decimal (numeralValue 10 d) ((scanExponent 'e' 'E' e).1 - n), ?_⟩
  rw [scanDecimal, hscan, Option.map_some]
  dsimp only
  rw [hend]

theorem scanHex_whole {x : Char} {m e : List Char} (hx : x = 'x' ∨ x = 'X') (hm : IsPointed 16 m)
    (he : e = [] ∨ IsExponent 'p' 'P' e) : ∃ y, scanHex ('0' :: x :: (m ++ e)) = some (y, []) := by
  obtain ⟨hstops, hpoint⟩ := IsExponent.stops 16 he (by decide) (by decide) (by decide)
  obtain ⟨d, n, hscan⟩ := scanDigits_of_isPointed hm hstops hpoint
  have hend : (scanExponent 'p' 'P' e).2 = [] := by
    obtain rfl | he := he
    · rfl
    · exact scanExponent_of_isExponent he
  refine ⟨.hex (numeralValue 16 d) ((scanExponent 'p' 'P' e).1 - 4 * n), ?_⟩
  rw [scanHex, if_pos hx, hscan, Option.map_some]
  dsimp only
  rw [hend]

theorem of_scanDecimal {body : List Char} {x : Scanned} (h : scanDecimal body = some (x, [])) :
    ∃ m e, body = m ++ e ∧ IsPointed 10 m ∧ (e = [] ∨ IsExponent 'e' 'E' e) := by
  obtain ⟨⟨d, n, r⟩, hscan, hd⟩ := Option.map_eq_some_iff.mp h
  obtain ⟨m, hm, hbody⟩ := isPointed_of_scanDigits hscan
  exact ⟨m, r, hbody, hm, isExponent_of_scanExponent (Prod.mk.inj hd).2⟩

theorem of_scanHex {body : List Char} {y : Scanned} (h : scanHex body = some (y, [])) :
    IsSpecial body := by
  unfold scanHex at h
  split at h
  · split at h
    · rename_i hx
      obtain ⟨⟨d, n, r⟩, hscan, hd⟩ := Option.map_eq_some_iff.mp h
      obtain ⟨m, hm, rfl⟩ := isPointed_of_scanDigits hscan
      exact IsSpecial.hex hx hm (isExponent_of_scanExponent (Prod.mk.inj hd).2)
    · cases h
  · cases h

/-- In a decimal number no letter stands but that of the exponent. -/
theorem decimal_chars {m e : List Char} (hm : IsPointed 10 m) (he : e = [] ∨ IsExponent 'e' 'E' e) :
    'x' ∉ m ++ e ∧ 'X' ∉ m ++ e := by
  have hletters : ∀ x, x.isAlpha = true → x ≠ 'e' → x ≠ 'E' → x ∉ m ++ e := by
    intro x hx hlower hupper hmem
    have hplain : ¬ IsPlain x := fun h => by
      rw [h.not_isAlpha.1] at hx
      cases hx
    obtain hmem | hmem := List.mem_append.mp hmem
    · exact hplain (hm.plain x hmem)
    obtain rfl | he := he
    · cases hmem
    obtain (h | h) | rfl | rfl | h := he.chars x hmem
    · exact hlower h
    · exact hupper h
    · cases hx
    · cases hx
    · exact hplain h
  exact ⟨hletters 'x' (by decide) (by decide) (by decide),
    hletters 'X' (by decide) (by decide) (by decide)⟩

theorem scanHex_eq_none {body : List Char} (h : 'x' ∉ body ∧ 'X' ∉ body) : scanHex body = none := by
  unfold scanHex
  split
  · rw [if_neg]
    intro hx
    rcases hx with rfl | rfl
    · exact h.1 (by simp)
    · exact h.2 (by simp)
  · rfl

theorem strtod_append {sgn body : List Char} (hsgn : IsSign sgn)
    (hbody : ∀ c ∈ body.head?, c ≠ '-' ∧ c ≠ '+') :
    strtod (sgn ++ body) = ((scanWord body).or ((scanHex body).or (scanDecimal body))).map fun r =>
      (sgn == ['-'], r.1, r.2) := by
  rw [strtod, takeSign_append hsgn hbody]

theorem strtod_decimal {sgn m e : List Char} (hsgn : IsSign sgn) (hm : IsPointed 10 m)
    (he : e = [] ∨ IsExponent 'e' 'E' e) :
    strtod (sgn ++ (m ++ e)) = (scanDecimal (m ++ e)).map fun r => (sgn == ['-'], r.1, r.2) := by
  obtain ⟨c, rest, hm', hc⟩ := hm.head
  have hhead : (m ++ e).head? = some c := by
    rw [hm']
    rfl
  obtain ⟨halpha, hlower, hminus, hplus⟩ := IsPlain.not_isAlpha hc
  have hword : scanWord (m ++ e) = none := by
    refine scanWord_eq_none fun x hx => ?_
    cases hhead.symm.trans hx
    rw [hlower]
    constructor
    · rintro rfl
      cases halpha
    · rintro rfl
      cases halpha
  rw [strtod_append hsgn, hword, scanHex_eq_none (decimal_chars hm he), Option.none_or,
    Option.none_or]
  intro x hx
  cases hhead.symm.trans hx
  exact ⟨hminus, hplus⟩

/-- The texts that are taken whole are those of the notations, behind a sign or none. -/
theorem strtod_whole_iff {cs : List Char} :
    (∃ neg x, strtod cs = some (neg, x, [])) ↔
      ∃ sgn body, cs = sgn ++ body ∧ IsSign sgn ∧ (IsPointed 10 body ∨ IsSpecial body) := by
  constructor
  · intro ⟨neg, x, h⟩
    obtain ⟨sgn, hsgn, hcs⟩ := takeSign_split cs
    obtain ⟨⟨y, r⟩, hscan, hr⟩ := Option.map_eq_some_iff.mp h
    obtain rfl : r = [] := (Prod.mk.inj (Prod.mk.inj hr).2).2
    refine ⟨sgn, _, hcs, hsgn, ?_⟩
    cases hword : scanWord (takeSign cs).2 with
    | some w =>
      rw [hword, Option.some_or] at hscan
      cases hscan
      obtain hname | ⟨d, w, hbody, hd, hw⟩ := scanWord_whole_iff.mp ⟨_, hword⟩
      · exact Or.inr (IsSpecial.word hname)
      · rw [hbody]
        exact Or.inr (IsSpecial.payload hd hw)
    | none =>
      rw [hword, Option.none_or] at hscan
      cases hhex : scanHex (takeSign cs).2 with
      | some w =>
        rw [hhex, Option.some_or] at hscan
        cases hscan
        exact Or.inr (of_scanHex hhex)
      | none =>
        rw [hhex, Option.none_or] at hscan
        obtain ⟨m, e, hbody, hm, he⟩ := of_scanDecimal hscan
        rw [hbody]
        obtain rfl | he := he
        · rw [List.append_nil]
          exact Or.inl hm
        · exact Or.inr (IsSpecial.exponent hm he)
  · intro ⟨sgn, body, hcs, hsgn, hbody⟩
    have hplain : ∀ m e, IsPointed 10 m → (e = [] ∨ IsExponent 'e' 'E' e) → body = m ++ e →
        ∃ neg x, strtod cs = some (neg, x, []) := by
      intro m e hm he hsplit
      obtain ⟨x, hx⟩ := scanDecimal_whole hm he
      refine ⟨sgn == ['-'], x, ?_⟩
      rw [hcs, hsplit, strtod_decimal hsgn hm he, hx]
      rfl
    have hnamed : (∃ x, scanWord body = some (x, [])) → (∀ c ∈ body.head?, c ≠ '-' ∧ c ≠ '+') →
        ∃ neg x, strtod cs = some (neg, x, []) := by
      intro ⟨x, hx⟩ hhead
      refine ⟨sgn == ['-'], x, ?_⟩
      rw [hcs, strtod_append hsgn hhead, hx]
      rfl
    have hletter : ∀ c : Char, c.toLower = 'i' ∨ c.toLower = 'n' → c ≠ '-' ∧ c ≠ '+' := by
      intro c hc
      constructor
      · rintro rfl
        exact absurd hc (by decide)
      · rintro rfl
        exact absurd hc (by decide)
    obtain hm | hspecial := hbody
    · exact hplain body [] hm (Or.inl rfl) (List.append_nil body).symm
    cases hspecial with
    | exponent hm he => exact hplain _ _ hm (Or.inr he) rfl
    | hex hx hm he =>
      have hword : ∀ r, scanWord ('0' :: r) = none := by
        intro r
        refine scanWord_eq_none fun c hc => ?_
        cases hc
        decide
      obtain ⟨y, hy⟩ := scanHex_whole hx hm he
      refine ⟨sgn == ['-'], y, ?_⟩
      rw [hcs, strtod_append hsgn, hword, hy]
      · rfl
      · intro c hc
        cases hc
        decide
    | word hname =>
      refine hnamed (scanWord_whole_iff.mpr (Or.inl hname)) fun c hc => hletter c ?_
      have hhead : (body.map Char.toLower).head? = some c.toLower := by
        rw [List.head?_map, Option.mem_def.mp hc]
        rfl
      have hall : ∀ word ∈ ["inf".toList, "infinity".toList, "nan".toList],
          word.head? = some 'i' ∨ word.head? = some 'n' := by decide +kernel
      have hfirst := hall _ hname
      rw [hhead, Option.some.injEq, Option.some.injEq] at hfirst
      exact hfirst
    | @payload d w hd hw =>
      refine hnamed (scanWord_whole_iff.mpr (Or.inr ⟨d, w, rfl, hd, hw⟩)) fun c hc => hletter c ?_
      cases d with
      | nil => cases hd
      | cons x d =>
        cases hc
        exact Or.inr (List.cons.inj hd).1

/-- The value of digits with a point, or without one. -/
theorem strtod_whole_number {sgn ds : List Char} (hsgn : IsSign sgn) (h : IsNumeral 10 ds) :
    strtod (sgn ++ ds) = some (sgn == ['-'], .decimal (numeralValue 10 ds) 0, []) := by
  have hscan := scanDigits_whole (r := []) h nofun nofun
  have hstrtod := strtod_decimal hsgn (IsPointed.whole h) (Or.inl rfl)
  rw [scanDecimal, hscan, List.append_nil] at hstrtod
  exact hstrtod

theorem strtod_point_number {sgn ds frac : List Char} (hsgn : IsSign sgn)
    (h : IsNumeral 10 (ds ++ frac)) :
    strtod (sgn ++ (ds ++ '.' :: frac)) =
      some (sgn == ['-'], .decimal (numeralValue 10 (ds ++ frac)) (-frac.length), []) := by
  have hscan := scanDigits_point (r := []) h nofun
  have hstrtod := strtod_decimal hsgn (IsPointed.point h) (Or.inl rfl)
  rw [List.append_nil] at hscan hstrtod
  rw [hstrtod, scanDecimal, hscan]
  simp [scanExponent]

/-! ### The characters of a number -/

/-- Letters and digits, and what stands among them. -/
def isNumberChar (c : Char) : Bool := c.isAlphanum || c ∈ ['.', '-', '+', '_', '(', ')']

theorem isNumberChar_of_isDigitOf {base : Nat} {c : Char} (h : isDigitOf base c = true) :
    isNumberChar c = true := by
  obtain ⟨d, hd, -⟩ := isDigitOf_iff.mp h
  unfold digitVal at hd
  unfold isNumberChar Char.isAlphanum
  split at hd
  · simp [*]
  split at hd
  · simp [*]
  · cases hd

theorem isAlpha_of_toLower {c : Char} (h : c.toLower.isAlpha = true) : c.isAlpha = true := by
  unfold Char.toLower at h
  split at h
  · rename_i hrange
    have hupper : c.isUpper = true := decide_eq_true hrange
    show (c.isUpper || c.isLower) = true
    rw [hupper, Bool.true_or]
  · exact h

theorem IsPointed.chars {base : Nat} {body : List Char} (h : IsPointed base body) :
    ∀ c ∈ body, isNumberChar c = true := by
  cases h with
  | whole h => exact fun c hc => isNumberChar_of_isDigitOf (h.digits c hc)
  | @point ds frac h =>
    obtain ⟨hds, hfrac⟩ := List.forall_mem_append.mp h.digits
    refine List.forall_mem_append.mpr ⟨fun c hc => isNumberChar_of_isDigitOf (hds c hc), ?_⟩
    exact List.forall_mem_cons.mpr ⟨by decide, fun c hc => isNumberChar_of_isDigitOf (hfrac c hc)⟩

theorem IsSign.chars {sgn : List Char} (h : IsSign sgn) : ∀ c ∈ sgn, isNumberChar c = true := by
  rcases h with rfl | rfl | rfl
  · exact nofun
  · exact List.forall_mem_singleton.mpr (by decide)
  · exact List.forall_mem_singleton.mpr (by decide)

theorem IsExponent.numberChars {lower upper : Char} {e : List Char}
    (h : IsExponent lower upper e) (hlower : isNumberChar lower = true)
    (hupper : isNumberChar upper = true) : ∀ c ∈ e, isNumberChar c = true := by
  intro c hc
  obtain (rfl | rfl) | rfl | rfl | hplain | rfl := h.chars c hc
  · exact hlower
  · exact hupper
  · decide
  · decide
  · exact isNumberChar_of_isDigitOf hplain
  · decide

theorem word_letters {word : List Char}
    (h : word ∈ ["inf".toList, "infinity".toList, "nan".toList]) :
    ∀ c ∈ word, c.isAlpha = true := by
  have hall : word.all Char.isAlpha = true := by
    revert word
    decide +kernel
  exact List.all_eq_true.mp hall

theorem word_chars {cs : List Char} (h : ∀ c ∈ cs.map Char.toLower, c.isAlpha = true) :
    ∀ c ∈ cs, isNumberChar c = true := by
  intro c hc
  have halpha := isAlpha_of_toLower (h _ (List.mem_map_of_mem hc))
  simp [isNumberChar, Char.isAlphanum, halpha]

theorem IsSpecial.chars {body : List Char} (h : IsSpecial body) :
    ∀ c ∈ body, isNumberChar c = true := by
  cases h with
  | exponent hm he =>
    exact List.forall_mem_append.mpr ⟨hm.chars, he.numberChars (by decide) (by decide)⟩
  | hex hx hm he =>
    refine List.forall_mem_cons.mpr ⟨by decide, List.forall_mem_cons.mpr ⟨?_, ?_⟩⟩
    · rcases hx with rfl | rfl <;> decide
    · refine List.forall_mem_append.mpr ⟨hm.chars, ?_⟩
      obtain rfl | he := he
      · exact nofun
      · exact he.numberChars (by decide) (by decide)
  | word hname => exact word_chars (word_letters hname)
  | payload hd hw =>
    refine List.forall_mem_append.mpr ⟨word_chars (word_letters (by simp [hd])), ?_⟩
    · refine List.forall_mem_cons.mpr ⟨by decide, List.forall_mem_append.mpr
        ⟨?_, List.forall_mem_singleton.mpr (by decide)⟩⟩
      intro c hc
      have hword := hw c hc
      unfold isWordChar at hword
      obtain h | h := Bool.or_eq_true_iff.mp hword
      · simp [isNumberChar, h]
      · rw [beq_iff_eq.mp h]
        decide

theorem IsPointed.exists_digit {base : Nat} {body : List Char} (h : IsPointed base body) :
    ∃ c ∈ body, isDigitOf base c = true := by
  cases h with
  | whole h =>
    obtain ⟨c, rest, rfl, hc⟩ := h.head
    exact ⟨c, List.mem_cons_self, hc⟩
  | @point ds frac h =>
    obtain ⟨c, rest, hsplit, hc⟩ := h.head
    have hmem : c ∈ ds ++ frac := hsplit ▸ List.mem_cons_self
    refine ⟨c, ?_, hc⟩
    obtain hds | hfrac := List.mem_append.mp hmem
    · exact List.mem_append_left _ hds
    · exact List.mem_append_right ds (List.mem_cons_of_mem '.' hfrac)

/-- Each of the other notations has a letter. -/
theorem IsSpecial.exists_isAlpha {body : List Char} (h : IsSpecial body) :
    ∃ c ∈ body, c.isAlpha = true := by
  have hfirst : ∀ cs : List Char, cs ≠ [] → (∀ c ∈ cs.map Char.toLower, c.isAlpha = true) →
      ∃ c ∈ cs, c.isAlpha = true := by
    intro cs hne hall
    obtain ⟨c, rest, rfl⟩ := List.exists_cons_of_ne_nil hne
    exact ⟨c, List.mem_cons_self, isAlpha_of_toLower (hall _ List.mem_cons_self)⟩
  cases h with
  | @exponent m e hm he =>
    cases he with
    | @mk c sgn ds hc hsgn hds =>
      refine ⟨c, List.mem_append_right m List.mem_cons_self, ?_⟩
      rcases hc with rfl | rfl <;> decide
  | @hex x m e hx hm he =>
    refine ⟨x, by simp, ?_⟩
    rcases hx with rfl | rfl <;> decide
  | word hname =>
    refine hfirst body ?_ (word_letters hname)
    rintro rfl
    revert hname
    decide +kernel
  | @payload cs w hd hw =>
    have hletter : ∃ c ∈ cs, c.isAlpha = true := by
      refine hfirst cs ?_ (word_letters (by simp [hd]))
      rintro rfl
      cases hd
    obtain ⟨c, hc, halpha⟩ := hletter
    exact ⟨c, List.mem_append_left _ hc, halpha⟩

end Strtod
end Lib
