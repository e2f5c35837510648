import Mathlib.Data.List.DropRight
import EnergyStorage.Modbus.Crc
import EnergyStorage.Protocol.DeviceData
import EnergyStorage.Protocol.UpsTokens

/-! # The answers of the UPS

A line is told from the number of its tokens: eight make a `Q1`, thirteen a `WA`, and any other
number is read as a `Q6`. -/

namespace EnergyStorage

namespace Ups232AsciiProto

open Lib.Numeral
open Lib.Strtod (Scanned)
open Fault (isSpace)

inductive PollKind
  | q1 | q6 | wa
  deriving DecidableEq, Repr

def PollKind.code : PollKind → Int
  | .q1 => 1
  | .q6 => 2
  | .wa => 3

/-- A query, with the kind of the next one. -/
def buildReadCmd : PollKind → List Char × PollKind
  | .q1 => ("Q1".toList ++ ['\x0d'], .q6)
  | .q6 => ("Q6".toList ++ ['\x0d'], .wa)
  | .wa => ("WA".toList ++ ['\x0d'], .q1)

/-! ### Lines and tokens -/

def toString (rx : List Byte) : List Char := rx.map fun b => Char.ofNat b.toNat

def stripWrapper (s : List Char) : List Char :=
  let t := s.dropWhile isSpace
  let t := if t.head? = some '(' then t.tail else t
  let t := t.rdropWhile isSpace
  let t := if t.getLast? = some ')' then t.dropLast else t
  t.rdropWhile isSpace

def splitTokens (s : List Char) : List String :=
  ((s.splitOnP isSpace).filter fun tok => !tok.isEmpty).map String.ofList

def isBits01 (tok : String) : Bool :=
  tok.toList.length == 8 && tok.toList.all fun c => c == '0' || c == '1'

def parseHexU32Token (tok : String) : Option (BitVec 32) :=
  if tok.toList = [] ∨ ¬ tok.toList.all (isDigitOf 16) then none
  else
    (stoul 16 tok.toList).bind fun v => if 0xFFFFFFFF < v then none else some (BitVec.ofNat 32 v)

def statusStep (r : BitVec 32) (c : Char) : BitVec 32 :=
  r <<< 1 ||| (BitVec.ofBool (c == '1')).setWidth 32

/-- The word of the status bits, the first one on top. -/
def statusWord (bits01 : List Char) : BitVec 32 := bits01.foldl statusStep 0

def fillBits8 (bits01 : String) (out : DeviceData) (pre : String) : Option DeviceData :=
  if ¬ isBits01 bits01 then none
  else
    let bit (i : Nat) : Nat := (bits01.toList.getD i '0' == '1').toNat
    let d := out.setStatus (pre ++ "status.bits") (statusWord bits01.toList).toNat
    let d := d.setStatus (pre ++ "mains_abnormal") (bit 0)
    let d := d.setStatus (pre ++ "battery_low") (bit 1)
    let d := d.setStatus (pre ++ "bypass") (bit 2)
    let d := d.setStatus (pre ++ "fault") (bit 3)
    let d := d.setStatus (pre ++ "backup_mode") (bit 4)
    some (d.setStatus (pre ++ "testing") (bit 5))

def markCmd (kind : PollKind) (out : DeviceData) : DeviceData := out.setValue "__ups_cmd" kind.code

/-! ### The three kinds -/

section Parse

/- The double that a scanned number is rounded to. -/
variable (double : Bool × Scanned → ℚ)

def parseQ1 (t : List String) (out : DeviceData) : Option DeviceData :=
  if t.length ≠ 8 then none
  else do
    let vin ← parseDoubleToken (t.getD 0 "")
    let vinLast ← parseDoubleToken (t.getD 1 "")
    let vout ← parseDoubleToken (t.getD 2 "")
    let load ← parseIntToken (t.getD 3 "")
    let fin ← parseDoubleToken (t.getD 4 "")
    let cell ← parseDoubleToken (t.getD 5 "")
    let temp ← parseDoubleToken (t.getD 6 "")
    let d ← fillBits8 (t.getD 7 "") out "q1."
    let d := d.setNum "input.v" (double vin)
    let d := d.setNum "input.last.v" (double vinLast)
    let d := d.setNum "output.v" (double vout)
    let d := d.setNum "load.pct" load
    let d := d.setNum "input.freq.hz" (double fin)
    let d := d.setNum "battery.cell.v" (double cell)
    let d := d.setNum "battery.12v.v" (double cell * 6)
    some (d.setNum "temp.c" (double temp))

def waKeys : List String :=
  ["power.kw.r", "power.kw.s", "power.kw.t", "apparent.kva.r", "apparent.kva.s",
    "apparent.kva.t", "power.total.kw", "apparent.total.kva", "output.i.r", "output.i.s",
    "output.i.t"]

def parseWA (t : List String) (out : DeviceData) : Option DeviceData :=
  if t.length ≠ 13 then none
  else do
    let nums ← (t.take 11).mapM parseDoubleToken
    let load ← parseIntToken (t.getD 11 "")
    let d ← fillBits8 (t.getD 12 "") out "wa."
    let d := (waKeys.zip nums).foldl (fun d e => d.setNum e.1 (double e.2)) d
    some (d.setNum "load.pct" load)

/-- A number of a `Q6`; dashes stand for none. -/
def readDouble (tok k : String) (out : DeviceData) : Option DeviceData :=
  if isDashDouble tok then some (out.setStatus (k ++ ".valid") 0)
  else
    (parseDoubleToken tok).map fun v => (out.setStatus (k ++ ".valid") 1).setNum k (double v)

def readInt (tok k : String) (out : DeviceData) : Option DeviceData :=
  if isDashInt tok then some (out.setStatus (k ++ ".valid") 0)
  else (parseIntToken tok).map fun v => (out.setStatus (k ++ ".valid") 1).setValue k v

def q6Doubles : List String :=
  ["input.v.r", "input.v.s", "input.v.t", "input.freq.hz", "output.v.r", "output.v.s",
    "output.v.t", "output.freq.hz", "output.i.r", "output.i.s", "output.i.t", "battery.v.pos",
    "battery.v.neg", "temp.c"]

def q6Ints : List String := ["battery.remain.sec", "battery.capacity"]

/-- The two digits of a token. -/
def twoDigits (tok : String) : Option (Int × Int) :=
  match tok.toList with
  | c :: c' :: _ =>
    if c.isDigit ∧ c'.isDigit then some ((c.toNat : Int) - 48, (c'.toNat : Int) - 48) else none
  | _ => none

/-- The two flags of a token. -/
def twoFlags (tok : String) : Option (Bool × Bool) :=
  match tok.toList with
  | c :: c' :: _ =>
    if (c = '0' ∨ c = '1') ∧ (c' = '0' ∨ c' = '1') then some (c == '1', c' == '1') else none
  | _ => none

def faultCode (faultRaw : BitVec 32) (shift : Nat) : Int := ((faultRaw >>> shift) &&& 0xFF#32).toInt

def parseQ6 (t : List String) (out : DeviceData) : Option DeviceData :=
  if t.length < 20 then none
  else do
    let d ← (q6Doubles.zip t).foldlM (fun d e => readDouble double e.2 e.1 d) out
    let d ← (q6Ints.zip (t.drop 14)).foldlM (fun d e => readInt e.2 e.1 d) d
    let kb ← twoDigits (t.getD 16 "")
    let d := d.setValue "system.mode" kb.1
    let d := d.setValue "battery.test.state" kb.2
    let faultRaw ← parseHexU32Token (t.getD 17 "")
    let warningBits ← parseHexU32Token (t.getD 18 "")
    let d := d.setStatus "fault.bits" faultRaw.toNat
    let d := d.setStatus "warning.bits" warningBits.toNat
    let d := d.setValue "fault.raw" faultRaw.toInt
    let d := d.setValue "fault.code.1" (faultCode faultRaw 24)
    let d := d.setValue "fault.code.2" (faultCode faultRaw 16)
    let d := d.setValue "fault.code.3" (faultCode faultRaw 8)
    let d := d.setValue "fault.code.4" (faultCode faultRaw 0)
    let yo ← twoFlags (t.getD 19 "")
    let d := d.setStatus "transformer.y" yo.1.toNat
    some (d.setStatus "lcd.phase.v" yo.2.toNat)

def parse (rx : List Byte) : Option DeviceData :=
  let s := stripWrapper (toString rx)
  if s = [] then none
  else
    let tokens := splitTokens s
    if tokens = [] then none
    else
      let out : DeviceData := { deviceName := "UPS" }
      if tokens.length = 8 then parseQ1 double tokens (markCmd .q1 out)
      else if tokens.length = 13 then parseWA double tokens (markCmd .wa out)
      else parseQ6 double tokens (markCmd .q6 out)

end Parse

/-! ### What a line states -/

/-- The words of an answer. -/
inductive UpsWords
  | q1 (bits : BitVec 8)
  | wa (bits : BitVec 8)
  | q6 (mode : Int) (faults warnings : BitVec 32)

/-- Eight binary digits, the highest bit first. -/
structure IsBits (tok : String) (bits : BitVec 8) : Prop where
  length : tok.toList.length = 8
  digits : ∀ c ∈ tok.toList, c = '0' ∨ c = '1'
  value : ∀ i < 8, (tok.toList.getD i '0' == '1') = bits.getLsbD (7 - i)

/-- A hexadecimal number. -/
structure IsHex (tok : String) (w : BitVec 32) : Prop where
  digits : IsNumeral 16 tok.toList
  value : numeralValue 16 tok.toList = w.toNat

def IsDecimal (tok : String) : Prop := ∃ v, DecimalText tok.toList v

def IsInteger (tok : String) : Prop := ∃ v, IntegerText tok.toList v

/-- The tokens of an answer, with the words in it. -/
inductive States : List String → UpsWords → Prop
  | q1 {t : List String} {bits : BitVec 8} (hlen : t.length = 8)
      (hnums : ∀ i ∈ [0, 1, 2, 4, 5, 6], IsDecimal (t.getD i ""))
      (hload : IsInteger (t.getD 3 "")) (hbits : IsBits (t.getD 7 "") bits) : States t (.q1 bits)
  | wa {t : List String} {bits : BitVec 8} (hlen : t.length = 13)
      (hnums : ∀ i < 11, IsDecimal (t.getD i "")) (hload : IsInteger (t.getD 11 ""))
      (hbits : IsBits (t.getD 12 "") bits) : States t (.wa bits)
  | q6 {t : List String} {k b : Char} {more : List Char} {y o : Bool}
      {faults warnings : BitVec 32} (hlen : 20 ≤ t.length)
      (hnums : ∀ i < 14, IsDecimal (t.getD i "") ∨ isDashDouble (t.getD i "") = true)
      (hints : ∀ i ∈ [14, 15], IsInteger (t.getD i "") ∨ isDashInt (t.getD i "") = true)
      (hmode : (t.getD 16 "").toList = k :: b :: more) (hk : k.isDigit = true)
      (hb : b.isDigit = true) (hfaults : IsHex (t.getD 17 "") faults)
      (hwarnings : IsHex (t.getD 18 "") warnings) (hyo : twoFlags (t.getD 19 "") = some (y, o)) :
      States t (.q6 ((k.toNat : Int) - 48) faults warnings)

/-! ### Tokens that are taken -/

theorem exists_parseDoubleToken {tok : String} (h : IsDecimal tok) :
    ∃ v, parseDoubleToken tok = some v := by
  obtain ⟨v, hv⟩ := h
  obtain ⟨sgn, body, htok, hsgn, hbody, hscan⟩ := decimalText_unfold hv
  rw [htok] at hscan
  have hframed : tok.toList = [] ++ (sgn ++ body) ++ [] := by
    rw [htok, List.nil_append, List.append_nil]
  exact ⟨v, parseDoubleToken_eq hframed nofun nofun hsgn (Or.inl hbody) hscan⟩

theorem exists_parseIntToken {tok : String} (h : IsInteger tok) :
    ∃ v, parseIntToken tok = some v := by
  obtain ⟨v, hv⟩ := h
  rw [parseIntToken_eq, if_pos (integerText_iff.mp hv).1]
  exact ⟨_, rfl⟩

theorem parseHexU32Token_of_isHex {tok : String} {w : BitVec 32} (h : IsHex tok w) :
    parseHexU32Token tok = some w := by
  have hall : tok.toList.all (isDigitOf 16) = true := List.all_eq_true.mpr h.digits.digits
  have hlt := w.isLt
  have hempty : ¬ (tok.toList = [] ∨ ¬ tok.toList.all (isDigitOf 16) = true) := by
    rintro (hnil | hnot)
    · exact h.digits.ne_nil hnil
    · exact hnot hall
  rw [parseHexU32Token, if_neg hempty, stoul_of_isNumeral h.digits (Nat.le_refl 16), h.value,
    if_neg (by omega), Option.bind_some, if_neg (by omega), BitVec.ofNat_toNat,
    BitVec.setWidth_eq]

theorem getLsbD_statusStep (r : BitVec 32) (c : Char) {i : Nat} (hi : i < 32) :
    (statusStep r c).getLsbD i = if i = 0 then c == '1' else r.getLsbD (i - 1) := by
  rw [statusStep, BitVec.getLsbD_or, BitVec.getLsbD_shiftLeft, BitVec.getLsbD_setWidth,
    BitVec.getLsbD_ofBool]
  by_cases hzero : i = 0
  · rw [if_pos hzero, hzero]
    simp
  · rw [if_neg hzero]
    simp [hi, hzero]

/-- The word that a run of binary digits makes of another. -/
theorem getLsbD_statusFold (l : List Char) (r : BitVec 32) {i : Nat} (hi : i < 32) :
    (l.foldl statusStep r).getLsbD i =
      if i < l.length then l.getD (l.length - 1 - i) '0' == '1' else r.getLsbD (i - l.length) := by
  induction l generalizing r with
  | nil => rfl
  | cons c l ih =>
    rw [List.foldl_cons, ih, List.length_cons]
    by_cases hlt : i < l.length
    · rw [if_pos hlt, if_pos (by omega), show l.length + 1 - 1 - i = l.length - 1 - i + 1 by omega]
      rfl
    · rw [if_neg hlt, getLsbD_statusStep _ _ (by omega)]
      by_cases heq : i = l.length
      · have hlast : l.length + 1 - 1 - l.length = 0 := by omega
        rw [if_pos (by omega), if_pos (by omega), heq, hlast]
        rfl
      · rw [if_neg (by omega), if_neg (by omega), Nat.sub_sub]

theorem statusWord_of_isBits {tok : String} {bits : BitVec 8} (h : IsBits tok bits) :
    statusWord tok.toList = bits.setWidth 32 := by
  apply BitVec.eq_of_getLsbD_eq
  intro i hi
  rw [statusWord, getLsbD_statusFold _ _ hi, BitVec.getLsbD_setWidth, h.length]
  by_cases hlow : i < 8
  · rw [if_pos hlow, h.value (8 - 1 - i) (by omega), show 7 - (8 - 1 - i) = i by omega]
    simp [hi]
  · rw [if_neg hlow, BitVec.getLsbD_of_ge bits i (by omega)]
    simp

theorem isBits01_of_isBits {tok : String} {bits : BitVec 8} (h : IsBits tok bits) :
    isBits01 tok = true := by
  rw [isBits01, Bool.and_eq_true, beq_iff_eq, List.all_eq_true]
  refine ⟨h.length, ?_⟩
  intro c hc
  rcases h.digits c hc with rfl | rfl <;> rfl

/-! ### The data of an answer -/

section Data

variable (double : Bool × Scanned → ℚ) {out : DeviceData}

theorem fillBits8_of_isBits {tok : String} {bits : BitVec 8} (h : IsBits tok bits)
    (out : DeviceData) (pre : String) : ∃ d, fillBits8 tok out pre = some d ∧
      d.value = out.value ∧
      d.status.get (pre ++ "status.bits") = some (bits.setWidth 32).toNat := by
  have hbits : ¬ ¬ isBits01 tok = true := not_not.mpr (isBits01_of_isBits h)
  rw [fillBits8, if_neg hbits]
  dsimp only
  refine ⟨_, rfl, ?_, ?_⟩
  · simp only [DeviceData.setStatus]
  · simp only [DeviceData.setStatus, Lib.Dict.get_insert, String.append_right_inj]
    rw [statusWord_of_isBits h]
    rfl

theorem parseQ1_of_states {t : List String} {bits : BitVec 8} (h : States t (.q1 bits))
    (out : DeviceData) : ∃ d, parseQ1 double t out = some d ∧ d.value = out.value ∧
      d.status.get "q1.status.bits" = some (bits.setWidth 32).toNat := by
  cases h with
  | q1 hlen hnums hload hbits =>
    obtain ⟨v0, h0⟩ := exists_parseDoubleToken (hnums 0 (by simp))
    obtain ⟨v1, h1⟩ := exists_parseDoubleToken (hnums 1 (by simp))
    obtain ⟨v2, h2⟩ := exists_parseDoubleToken (hnums 2 (by simp))
    obtain ⟨v3, h3⟩ := exists_parseIntToken hload
    obtain ⟨v4, h4⟩ := exists_parseDoubleToken (hnums 4 (by simp))
    obtain ⟨v5, h5⟩ := exists_parseDoubleToken (hnums 5 (by simp))
    obtain ⟨v6, h6⟩ := exists_parseDoubleToken (hnums 6 (by simp))
    obtain ⟨d, hd, hvalue, hstatus⟩ := fillBits8_of_isBits hbits out "q1."
    have hkey : "q1." ++ "status.bits" = "q1.status.bits" := by decide +kernel
    rw [hkey] at hstatus
    rw [parseQ1, if_neg (not_not.mpr hlen), h0, h1, h2, h3, h4, h5, h6, hd]
    refine ⟨_, rfl, ?_, ?_⟩
    · simpa only [DeviceData.setNum_value] using hvalue
    · simpa only [DeviceData.setNum_status] using hstatus

theorem exists_mapM {l : List String} (h : ∀ tok ∈ l, IsDecimal tok) :
    ∃ vs, l.mapM parseDoubleToken = some vs := by
  induction l with
  | nil => exact ⟨[], rfl⟩
  | cons tok l ih =>
    obtain ⟨v, hv⟩ := exists_parseDoubleToken (h tok List.mem_cons_self)
    obtain ⟨vs, hvs⟩ := ih fun tok' htok => h tok' (List.mem_cons_of_mem tok htok)
    refine ⟨v :: vs, ?_⟩
    rw [List.mapM_cons, hv, hvs]
    rfl

theorem setNums (l : List (String × (Bool × Scanned))) (d : DeviceData) :
    (l.foldl (fun d e => d.setNum e.1 (double e.2)) d).value = d.value ∧
      (l.foldl (fun d e => d.setNum e.1 (double e.2)) d).status = d.status := by
  induction l generalizing d with
  | nil => exact ⟨rfl, rfl⟩
  | cons e l ih => exact ih _

theorem parseWA_of_states {t : List String} {bits : BitVec 8} (h : States t (.wa bits))
    (out : DeviceData) : ∃ d, parseWA double t out = some d ∧ d.value = out.value ∧
      d.status.get "wa.status.bits" = some (bits.setWidth 32).toNat := by
  cases h with
  | wa hlen hnums hload hbits =>
    have hall : ∀ tok ∈ t.take 11, IsDecimal tok := by
      intro tok htok
      obtain ⟨i, hi, rfl⟩ := List.mem_iff_getElem.mp htok
      rw [List.length_take] at hi
      have hnum := hnums i (by omega)
      rw [List.getD_eq_getElem t "" (by omega)] at hnum
      rw [List.getElem_take]
      exact hnum
    obtain ⟨vs, hvs⟩ := exists_mapM hall
    obtain ⟨v, hv⟩ := exists_parseIntToken hload
    obtain ⟨d, hd, hvalue, hstatus⟩ := fillBits8_of_isBits hbits out "wa."
    obtain ⟨hsame, hkept⟩ := setNums double (waKeys.zip vs) d
    have hkey : "wa." ++ "status.bits" = "wa.status.bits" := by decide +kernel
    rw [hkey] at hstatus
    rw [parseWA, if_neg (not_not.mpr hlen), hvs, hv, hd]
    refine ⟨_, rfl, ?_, ?_⟩
    · show (List.foldl _ d _).value = out.value
      rw [hsame, hvalue]
    · show (List.foldl _ d _).status.get "wa.status.bits" = _
      rw [hkept]
      exact hstatus

theorem readDouble_value {tok : String} (h : IsDecimal tok ∨ isDashDouble tok = true) (k : String)
    (out : DeviceData) : ∃ d, readDouble double tok k out = some d ∧ d.value = out.value := by
  rw [readDouble]
  split
  · exact ⟨_, rfl, rfl⟩
  · next hdash =>
    obtain ⟨v, hv⟩ := exists_parseDoubleToken (h.resolve_right hdash)
    rw [hv]
    exact ⟨_, rfl, rfl⟩

theorem readDoubles_value {l : List (String × String)}
    (h : ∀ e ∈ l, IsDecimal e.2 ∨ isDashDouble e.2 = true) (out : DeviceData) :
    ∃ d, l.foldlM (fun d e => readDouble double e.2 e.1 d) out = some d ∧ d.value = out.value := by
  induction l generalizing out with
  | nil => exact ⟨out, rfl, rfl⟩
  | cons e l ih =>
    obtain ⟨d, hd, hvalue⟩ := readDouble_value double (h e List.mem_cons_self) e.1 out
    obtain ⟨d', hd', hvalue'⟩ := ih (fun e' he => h e' (List.mem_cons_of_mem e he)) d
    refine ⟨d', ?_, hvalue'.trans hvalue⟩
    rw [List.foldlM_cons, hd]
    exact hd'

theorem readInt_value {tok : String} (h : IsInteger tok ∨ isDashInt tok = true) {k n : String}
    (hne : n ≠ k) (out : DeviceData) :
    ∃ d, readInt tok k out = some d ∧ d.value.get n = out.value.get n := by
  rw [readInt]
  split
  · exact ⟨_, rfl, rfl⟩
  · next hdash =>
    obtain ⟨v, hv⟩ := exists_parseIntToken (h.resolve_right hdash)
    rw [hv]
    exact ⟨_, rfl, Lib.Dict.get_insert_of_ne _ hne v⟩

theorem readInts_value {l : List (String × String)}
    (h : ∀ e ∈ l, IsInteger e.2 ∨ isDashInt e.2 = true) {n : String} (hne : n ∉ l.map Prod.fst)
    (out : DeviceData) : ∃ d, l.foldlM (fun d e => readInt e.2 e.1 d) out = some d ∧
      d.value.get n = out.value.get n := by
  induction l generalizing out with
  | nil => exact ⟨out, rfl, rfl⟩
  | cons e l ih =>
    rw [List.map_cons, List.mem_cons, not_or] at hne
    obtain ⟨d, hd, hvalue⟩ := readInt_value (h e List.mem_cons_self) hne.1 out
    obtain ⟨d', hd', hvalue'⟩ := ih (fun e' he => h e' (List.mem_cons_of_mem e he)) hne.2 d
    refine ⟨d', ?_, hvalue'.trans hvalue⟩
    rw [List.foldlM_cons, hd]
    exact hd'

/-- A token under its name in a list that begins further on. -/
theorem of_mem_zip {P : String → Prop} {names t : List String} {n : Nat}
    (h : ∀ i < names.length, P (t.getD (n + i) "")) {e : String × String}
    (he : e ∈ names.zip (t.drop n)) : P e.2 := by
  obtain ⟨i, hi, rfl⟩ := List.mem_iff_getElem.mp he
  rw [List.length_zip, List.length_drop] at hi
  have hread := h i (by omega)
  rw [List.getD_eq_getElem t "" (by omega)] at hread
  rw [List.getElem_zip, List.getElem_drop]
  exact hread

/-- The words of a `Q6` in the data. -/
structure Q6Data (mode : Int) (faults warnings : BitVec 32) (d : DeviceData) : Prop where
  mode : d.value.get "system.mode" = some mode
  faultBits : d.status.get "fault.bits" = some faults.toNat
  warningBits : d.status.get "warning.bits" = some warnings.toNat
  code1 : d.value.get "fault.code.1" = some (faultCode faults 24)
  code2 : d.value.get "fault.code.2" = some (faultCode faults 16)
  code3 : d.value.get "fault.code.3" = some (faultCode faults 8)
  code4 : d.value.get "fault.code.4" = some (faultCode faults 0)

theorem twoDigits_eq {tok : String} {k b : Char} {more : List Char}
    (h : tok.toList = k :: b :: more) (hk : k.isDigit = true) (hb : b.isDigit = true) :
    twoDigits tok = some ((k.toNat : Int) - 48, (b.toNat : Int) - 48) := by
  rw [twoDigits, h]
  exact if_pos ⟨hk, hb⟩

theorem parseQ6_of_states {t : List String} {mode : Int} {faults warnings : BitVec 32}
    (h : States t (.q6 mode faults warnings)) (out : DeviceData) :
    ∃ d, parseQ6 double t out = some d ∧
      d.value.get "__ups_cmd" = out.value.get "__ups_cmd" ∧ Q6Data mode faults warnings d := by
  cases h with
  | q6 hlen hnums hints hmode hk hb hfaults hwarnings hyo =>
    have hdoubles : ∀ e ∈ q6Doubles.zip t, IsDecimal e.2 ∨ isDashDouble e.2 = true := by
      intro e he
      refine of_mem_zip (P := fun tok => IsDecimal tok ∨ isDashDouble tok = true) (n := 0) ?_ he
      intro i hi
      rw [Nat.zero_add]
      exact hnums i hi
    have hinteger : ∀ e ∈ q6Ints.zip (t.drop 14), IsInteger e.2 ∨ isDashInt e.2 = true := by
      intro e he
      refine of_mem_zip (P := fun tok => IsInteger tok ∨ isDashInt tok = true) (n := 14) ?_ he
      intro i hi
      have hi' : i < 2 := hi
      exact hints (14 + i) (by simp; omega)
    have hother : "__ups_cmd" ∉ (q6Ints.zip (t.drop 14)).map Prod.fst := by
      intro hmem
      obtain ⟨e, he, hname⟩ := List.mem_map.mp hmem
      have hin := (List.of_mem_zip he).1
      rw [hname] at hin
      exact absurd hin (by decide +kernel)
    obtain ⟨d, hd, hvalue⟩ := readDoubles_value double hdoubles out
    obtain ⟨d', hd', hkept⟩ := readInts_value hinteger hother d
    rw [parseQ6, if_neg (by omega), hd]
    simp only [Option.bind_eq_bind, Option.bind_some]
    rw [hd', twoDigits_eq hmode hk hb, parseHexU32Token_of_isHex hfaults,
      parseHexU32Token_of_isHex hwarnings, hyo]
    simp only [Option.bind_some]
    refine ⟨_, rfl, ?_, ?_⟩
    · simp [DeviceData.setValue, DeviceData.setStatus, Lib.Dict.get_insert, hkept, hvalue]
    · constructor <;> simp [DeviceData.setValue, DeviceData.setStatus, Lib.Dict.get_insert]

/-- The words of an answer in the data. -/
def HasWords (d : DeviceData) : UpsWords → Prop
  | .q1 bits => d.value.get "__ups_cmd" = some PollKind.q1.code ∧
      d.status.get "q1.status.bits" = some (bits.setWidth 32).toNat
  | .wa bits => d.value.get "__ups_cmd" = some PollKind.wa.code ∧
      d.status.get "wa.status.bits" = some (bits.setWidth 32).toNat
  | .q6 mode faults warnings => d.value.get "__ups_cmd" = some PollKind.q6.code ∧
      Q6Data mode faults warnings d

end Data

/-! ### Lines -/

/-- What may stand between two blanks. -/
structure IsWord (tok : String) : Prop where
  ne_nil : tok.toList ≠ []
  chars : ∀ c ∈ tok.toList, isSpace c = false ∧ c ≠ ')'

/-- The tokens as the UPS sends them. -/
def lineOf (t : List String) : List Char := '(' :: [' '].intercalate (t.map String.toList)

theorem intercalate_cons_cons (tok tok' : String) (t : List String) :
    [' '].intercalate ((tok :: tok' :: t).map String.toList) =
      tok.toList ++ ' ' :: [' '].intercalate ((tok' :: t).map String.toList) := by
  simp [List.intercalate]

theorem intercalate_singleton (tok : String) :
    [' '].intercalate ([tok].map String.toList) = tok.toList := by
  simp [List.intercalate]

theorem splitTokens_eq {s : List Char} {ws : List (List Char)} (h : s.splitOnP isSpace = ws) :
    splitTokens s = (ws.filter fun tok => !tok.isEmpty).map String.ofList := by
  rw [splitTokens, h]

theorem ofList_filter {tok : String} (h : IsWord tok) (ws : List (List Char)) :
    ((tok.toList :: ws).filter fun w => !w.isEmpty).map String.ofList =
      tok :: (ws.filter fun w => !w.isEmpty).map String.ofList := by
  have hne : (!tok.toList.isEmpty) = true := by simpa using h.ne_nil
  rw [List.filter_cons, if_pos hne, List.map_cons, String.ofList_toList]

theorem splitTokens_line {t : List String} (hne : t ≠ []) (h : ∀ tok ∈ t, IsWord tok) :
    splitTokens ([' '].intercalate (t.map String.toList)) = t := by
  induction t with
  | nil => exact absurd rfl hne
  | cons tok t ih =>
    have hword := h tok List.mem_cons_self
    have hchars : ∀ c ∈ tok.toList, isSpace c = false := fun c hc => (hword.chars c hc).1
    cases t with
    | nil =>
      rw [intercalate_singleton, splitTokens_eq (List.splitOnP_eq_singleton hchars),
        ofList_filter hword]
      rfl
    | cons tok' t =>
      rw [intercalate_cons_cons, splitTokens_eq
        (List.splitOnP_append_cons_of_forall_mem hchars ' ' (by decide) _), ofList_filter hword]
      have hrest := ih (List.cons_ne_nil tok' t) fun w hw => h w (List.mem_cons_of_mem tok hw)
      rw [splitTokens] at hrest
      rw [hrest]

/-- A line ends with a character of its last token. -/
theorem exists_last {t : List String} (hne : t ≠ []) (h : ∀ tok ∈ t, IsWord tok) :
    ∃ l c, [' '].intercalate (t.map String.toList) = l ++ [c] ∧ isSpace c = false ∧ c ≠ ')' := by
  induction t with
  | nil => exact absurd rfl hne
  | cons tok t ih =>
    have hword := h tok List.mem_cons_self
    cases t with
    | nil =>
      refine ⟨tok.toList.dropLast, tok.toList.getLast hword.ne_nil, ?_,
        hword.chars _ (List.getLast_mem hword.ne_nil)⟩
      rw [intercalate_singleton, List.dropLast_append_getLast]
    | cons tok' t =>
      obtain ⟨l, c, hl, hc⟩ :=
        ih (List.cons_ne_nil tok' t) fun w hw => h w (List.mem_cons_of_mem tok hw)
      refine ⟨tok.toList ++ ' ' :: l, c, ?_, hc⟩
      rw [intercalate_cons_cons, hl, List.append_assoc]
      rfl

theorem stripWrapper_line {l : List Char} {c : Char} (hspace : isSpace c = false) (hc : c ≠ ')') :
    stripWrapper ('(' :: (l ++ [c])) = l ++ [c] := by
  have hopen : isSpace '(' = false := by decide
  have hkeep : (l ++ [c]).rdropWhile isSpace = l ++ [c] := by
    rw [List.rdropWhile_eq_self_iff]
    intro hne
    rw [List.getLast_append_singleton, hspace]
    exact Bool.false_ne_true
  have hclose : ¬ some c = some ')' := fun h => hc (Option.some.inj h)
  rw [stripWrapper, List.dropWhile_cons_of_neg (by rw [hopen]; exact Bool.false_ne_true)]
  rw [List.head?_cons, if_pos rfl, List.tail_cons, hkeep, List.getLast?_concat, if_neg hclose,
    hkeep]

/-- The line of an answer is read as the words it states. -/
theorem parse_of_states (double : Bool × Scanned → ℚ) {rx : List Byte} {t : List String}
    {w : UpsWords} (hline : toString rx = lineOf t) (hwords : ∀ tok ∈ t, IsWord tok)
    (h : States t w) : ∃ d, parse double rx = some d ∧ HasWords d w := by
  have hne : t ≠ [] := by
    rintro rfl
    cases h with
    | q1 hlen => cases hlen
    | wa hlen => cases hlen
    | q6 hlen => exact absurd hlen (by decide)
  obtain ⟨l, c, hbody, hspace, hc⟩ := exists_last hne hwords
  have hstrip : stripWrapper (toString rx) = [' '].intercalate (t.map String.toList) := by
    rw [hline, lineOf, hbody]
    exact stripWrapper_line hspace hc
  have hbodyne : ¬ [' '].intercalate (t.map String.toList) = [] := by
    rw [hbody]
    exact List.append_ne_nil_of_right_ne_nil l (List.cons_ne_nil c [])
  rw [parse, hstrip, if_neg hbodyne, splitTokens_line hne hwords, if_neg hne]
  cases h with
  | q1 hlen hnums hload hbits =>
    obtain ⟨d, hd, hvalue, hstatus⟩ := parseQ1_of_states double
      (.q1 hlen hnums hload hbits) (markCmd .q1 { deviceName := "UPS" })
    rw [if_pos hlen]
    refine ⟨d, hd, ?_, hstatus⟩
    rw [hvalue]
    exact Lib.Dict.get_insert_self _ _ _
  | wa hlen hnums hload hbits =>
    obtain ⟨d, hd, hvalue, hstatus⟩ := parseWA_of_states double
      (.wa hlen hnums hload hbits) (markCmd .wa { deviceName := "UPS" })
    rw [if_neg (by omega), if_pos hlen]
    refine ⟨d, hd, ?_, hstatus⟩
    rw [hvalue]
    exact Lib.Dict.get_insert_self _ _ _
  | q6 hlen hnums hints hmode hk hb hfaults hwarnings hyo =>
    obtain ⟨d, hd, hvalue, hdata⟩ := parseQ6_of_states double
      (.q6 hlen hnums hints hmode hk hb hfaults hwarnings hyo) (markCmd .q6 { deviceName := "UPS" })
    rw [if_neg (by omega), if_neg (by omega)]
    refine ⟨d, hd, ?_, hdata⟩
    rw [hvalue]
    exact Lib.Dict.get_insert_self _ _ _

end Ups232AsciiProto
end EnergyStorage
