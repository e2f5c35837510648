import EnergyStorage.Lib.BitField
import EnergyStorage.Lib.Json
import Mathlib.Data.List.DropRight

/-! # The validator of protocol documents

The tables of the protocol are generated from a document, and a tool checks the document first.
Where the tool would raise an exception there is no report. -/

namespace EnergyStorage
namespace Bms
namespace ProtoTools

open Lib (Json)

/-! ### Numbers as Python reads them -/

/-- What the tools know of characters and of the texts of values that are none, and the longest
number they read (0 for any). -/
structure PythonText where
  isspace : Char → Bool
  isalnum : Char → Bool
  isdigit : Char → Bool
  decimal : Char → Option Nat
  maxStrDigits : Nat
  str : Json → String

/-- Characters beyond the first 128 are taken for other signs, and values that no name or enum
text should have for `None`. -/
def asciiText : PythonText where
  isspace c := c = ' ' || c = '\t' || c = '\n' || c = '\x0b' || c = '\x0c' || c = '\r'
  isalnum := Char.isAlphanum
  isdigit := Char.isDigit
  decimal c := if c.isDigit then some (c.toNat - '0'.toNat) else none
  maxStrDigits := 4300
  str
    | .unsigned n => toString n
    | .integer i => toString i
    | .boolean b => if b then "True" else "False"
    | .null | .float _ | .string _ | .array _ | .object _ => "None"

namespace PythonText

variable (py : PythonText)

def digitValue (base : Nat) (c : Char) : Option Nat :=
  ((py.decimal c).or (if c.isAlpha then some (c.toLower.toNat - 'a'.toNat + 10) else none)).filter
    (· < base)

/-- Digits with single underscores between them; `digit` tells whether one came before. -/
def readDigits (base : Nat) : Nat → Bool → List Char → Option Nat
  | acc, digit, [] => if digit then some acc else none
  | acc, digit, c :: cs =>
    if c = '_' then (if digit then readDigits base acc false cs else none)
    else (py.digitValue base c).bind fun d => readDigits base (acc * base + d) true cs

def takeSign : List Char → Bool × List Char
  | '-' :: rest => (true, rest)
  | '+' :: rest => (false, rest)
  | cs => (false, cs)

/-- `str(v)`. -/
def strOf : Json → String
  | .string s => s
  | v => py.str v

/-- A hexadecimal number may have a prefix, and an underscore behind it. -/
def dropHexPrefix (cs : List Char) : List Char :=
  if cs.take 2 = ['0', 'x'] ∨ cs.take 2 = ['0', 'X'] then
    if (cs.drop 2).take 1 = ['_'] then cs.drop 3 else cs.drop 2
  else cs

def strip (s : String) : List Char := (s.toList.dropWhile py.isspace).rdropWhile py.isspace

/-- `int(s, base)`; none where it raises. -/
def int (base : Nat) (s : String) : Option Int :=
  let signed := takeSign (py.strip s)
  let cs := if base = 16 then dropHexPrefix signed.2 else signed.2
  if base = 10 ∧ py.maxStrDigits ≠ 0 ∧ py.maxStrDigits < (cs.filter (· ≠ '_')).length then none
  else (py.readDigits base 0 false cs).map fun n => if signed.1 then -(n : Int) else n

example : asciiText.int 10 " +1_0 " = some 10 ∧ asciiText.int 10 "FF" = none ∧
    asciiText.int 16 "FF" = some 255 ∧ asciiText.int 16 "0x_1" = some 1 := by decide

end PythonText

/-! ### The checks -/

/-- A truth value is an integer as well. -/
def asInteger : Json → Option Int
  | .unsigned n => some n
  | .integer i => some i
  | .boolean b => some (if b then 1 else 0)
  | .null | .float _ | .string _ | .array _ | .object _ => none

def intAt (j : Json) (key : String) : Option Int := (j.find key).bind asInteger

def textAt (j : Json) (key : String) : String :=
  match j.find key with
  | some (.string s) => s
  | _ => ""

inductive Detail where
  | messagesMissing
  | messageNameMissing
  | idNotInt
  | duplicateId
  | dlcInvalid
  | byteOrderInvalid
  | signalsNotList
  | signalNameMissing
  | startInvalid
  | lengthInvalid
  | rangeOutOfDlc
  | overlapsBit (b : Nat)
  | valTableNotDict
  | keyNotIntLike (key : String)
  | valueNotString (key : String)
  deriving DecidableEq, Repr

structure Report where
  errors : List Detail := []
  warnings : List Detail := []
  deriving DecidableEq, Repr

def Report.append (r r' : Report) : Report := ⟨r.errors ++ r'.errors, r.warnings ++ r'.warnings⟩

def isIntLike (py : PythonText) (s : String) : Bool := (py.int 10 s).isSome || (py.int 16 s).isSome

def checkKey (py : PythonText) (kv : String × Json) : List Detail :=
  (if isIntLike py kv.1 then [] else [.keyNotIntLike kv.1]) ++
    match kv.2 with
    | .string _ => []
    | _ => [.valueNotString kv.1]

def checkTable (py : PythonText) : Option Json → Report
  | none | some .null => {}
  | some (.object fields) => { warnings := fields.flatMap (checkKey py) }
  | some _ => { errors := [.valTableNotDict] }

/-- The first bit of the range that another signal has. -/
def firstUsed (used : List Bool) (start len : Nat) : Option Nat :=
  ((List.range len).map (start + ·)).find? fun b => used.getD b false

def mark (used : List Bool) (start len : Nat) : List Bool :=
  used.mapIdx fun b u => u || decide (start ≤ b ∧ b < start + len)

/-- The report about a signal, and the bits that are used after it. -/
def checkSignal (py : PythonText) (allowOverlap : Bool) (bitLimit : Int) (used : List Bool)
    (s : Json) : Option (Report × List Bool) :=
  if !s.isObject then none
  else
    let name := if textAt s "name" = "" then [Detail.signalNameMissing] else []
    match (intAt s "startbit_lsb").filter (0 ≤ ·) with
    | none => some ({ errors := name ++ [.startInvalid] }, used)
    | some start =>
      match (intAt s "length").filter (0 < ·) with
      | none => some ({ errors := name ++ [.lengthInvalid] }, used)
      | some len =>
        let out := if bitLimit < start + len then [Detail.rangeOutOfDlc] else []
        let bit := if allowOverlap then none else firstUsed used start.toNat len.toNat
        some
          (Report.append { errors := name ++ out ++ bit.toList.map .overlapsBit }
            (checkTable py (s.find "val_table")),
          if allowOverlap || bit.isSome then used else mark used start.toNat len.toNat)

def checkSignals (py : PythonText) (allowOverlap : Bool) (bitLimit : Int) :
    List Bool → List Json → Option Report
  | _, [] => some {}
  | used, s :: rest =>
    (checkSignal py allowOverlap bitLimit used s).bind fun r =>
      (checkSignals py allowOverlap bitLimit r.2 rest).map r.1.append

/-- The signals of a message, if they are a list. -/
def signalsOf (m : Json) : Option (List Json) :=
  match m.find "signals" with
  | none | some .null => some []
  | some (.array sigs) => some sigs
  | some _ => none

/-- Whether the identifier was seen is checked before it is kept. -/
def checkId (allowDuplicateId : Bool) (seen : List Int) (m : Json) : List Detail × List Int :=
  match intAt m "id" with
  | none => ([.idNotInt], seen)
  | some mid =>
    if allowDuplicateId then ([], seen)
    else if mid ∈ seen then ([.duplicateId], seen)
    else ([], mid :: seen)

def checkHead (allowDuplicateId : Bool) (seen : List Int) (m : Json) : List Detail × List Int :=
  let ids := checkId allowDuplicateId seen m
  ((if textAt m "name" = "" then [.messageNameMissing] else []) ++ ids.1 ++
    (if ((intAt m "dlc").filter fun d => 0 ≤ d ∧ d ≤ 64).isSome then [] else [.dlcInvalid]) ++
    (if textAt m "byte_order" = "Intel" ∨ textAt m "byte_order" = "Motorola" then []
      else [.byteOrderInvalid]),
    ids.2)

def checkMessage (py : PythonText) (allowOverlap allowDuplicateId : Bool) (seen : List Int)
    (m : Json) : Option (Report × List Int) :=
  if !m.isObject then none
  else
    let head := checkHead allowDuplicateId seen m
    match signalsOf m with
    | none => some ({ errors := head.1 ++ [.signalsNotList] }, head.2)
    | some sigs =>
      let bitLimit := ((intAt m "dlc").map (· * 8)).getD 64
      let used := List.replicate (max bitLimit 64).toNat false
      (checkSignals py allowOverlap bitLimit used sigs).map fun r =>
        (Report.append { errors := head.1 } r, head.2)

def checkMessages (py : PythonText) (allowOverlap allowDuplicateId : Bool) :
    List Int → List Json → Option Report
  | _, [] => some {}
  | seen, m :: rest =>
    (checkMessage py allowOverlap allowDuplicateId seen m).bind fun r =>
      (checkMessages py allowOverlap allowDuplicateId r.2 rest).map r.1.append

def validate (py : PythonText) (proto : Json) (allowOverlap allowDuplicateId : Bool) :
    Option Report :=
  if !proto.isObject then none
  else
    match proto.find "messages" with
    | some (.array (m :: rest)) =>
      checkMessages py allowOverlap allowDuplicateId [] (m :: rest)
    | _ => some { errors := [.messagesMissing] }

def Accepts (py : PythonText) (proto : Json) (allowOverlap allowDuplicateId : Bool) : Prop :=
  ∃ r, validate py proto allowOverlap allowDuplicateId = some r ∧ r.errors = []

/-! ### What an accepted document is -/

/-- The range of a signal, as start and length. -/
def span (s : Json) : Nat × Nat :=
  (((intAt s "startbit_lsb").getD 0).toNat, ((intAt s "length").getD 0).toNat)

def SpansDisjoint (s t : Json) : Prop :=
  Lib.BitField.Disjoint (span s).1 (span s).2 (span t).1 (span t).2

structure SignalOk (bitLimit : Int) (s : Json) : Prop where
  object : s.isObject = true
  name : textAt s "name" ≠ ""
  start : intAt s "startbit_lsb" = some ((span s).1 : Int)
  length : intAt s "length" = some ((span s).2 : Int)
  pos : 0 < (span s).2
  fits : ((span s).1 + (span s).2 : Int) ≤ bitLimit

/-- All that is needed of a message; `bits` is the length of its data. -/
structure MessageOk (m : Json) : Prop where
  object : m.isObject = true
  name : textAt m "name" ≠ ""
  id : (intAt m "id").isSome
  signals : ∃ dlc sigs, intAt m "dlc" = some dlc ∧ 0 ≤ dlc ∧ dlc ≤ 64 ∧ signalsOf m = some sigs ∧
    (∀ s ∈ sigs, SignalOk (dlc * 8) s) ∧ sigs.Pairwise SpansDisjoint

/-- None of the bits of a range is used. -/
def Free (used : List Bool) (r : Nat × Nat) : Prop :=
  ∀ b, r.1 ≤ b → b < r.1 + r.2 → used.getD b false = false

theorem firstUsed_eq_none_iff (used : List Bool) (start len : Nat) :
    firstUsed used start len = none ↔ Free used (start, len) := by
  rw [firstUsed, List.find?_eq_none]
  constructor
  · intro h b hlo hhi
    have hmem : b ∈ (List.range len).map (start + ·) :=
      List.mem_map.mpr ⟨b - start, List.mem_range.mpr (by dsimp only at hlo hhi; omega),
        by dsimp only at hlo; omega⟩
    simpa using h b hmem
  · intro h b hb
    obtain ⟨k, hk, rfl⟩ := List.mem_map.mp hb
    have hk := List.mem_range.mp hk
    rw [h (start + k) (Nat.le_add_right start k) (Nat.add_lt_add_left hk start)]
    decide

theorem length_mark (used : List Bool) (start len : Nat) :
    (mark used start len).length = used.length :=
  List.length_mapIdx

theorem getD_mark (used : List Bool) (start len b : Nat) (hb : b < used.length) :
    (mark used start len).getD b false =
      (used.getD b false || decide (start ≤ b ∧ b < start + len)) := by
  rw [mark, List.getD_eq_getElem?_getD, List.getElem?_mapIdx, List.getD_eq_getElem?_getD,
    List.getElem?_eq_getElem hb]
  rfl

/-- Ranges without a common bit lie one behind the other. -/
theorem disjoint_of_no_common {s l s' l' : Nat} (hl : 0 < l) (hl' : 0 < l')
    (h : ∀ b, s ≤ b → b < s + l → s' ≤ b → b < s' + l' → False) :
    Lib.BitField.Disjoint s l s' l' := by
  by_contra hnot
  rw [Lib.BitField.Disjoint, not_or] at hnot
  exact h (max s s') (le_max_left _ _) (by omega) (le_max_right _ _) (by omega)

section Accepted

variable {py : PythonText} {bitLimit : Int} {used : List Bool}

theorem append_errors_eq_nil {r r' : Report} :
    (r.append r').errors = [] ↔ r.errors = [] ∧ r'.errors = [] :=
  List.append_eq_nil_iff

theorem checkSignal_ok {s : Json} {r : Report × List Bool}
    (h : checkSignal py false bitLimit used s = some r) (hr : r.1.errors = []) :
    SignalOk bitLimit s ∧ Free used (span s) ∧ r.2 = mark used (span s).1 (span s).2 := by
  unfold checkSignal at h
  split at h
  · cases h
  rename_i hobj
  dsimp only at h
  split at h
  · cases Option.some.inj h
    simp at hr
  rename_i start hstart
  split at h
  · cases Option.some.inj h
    simp at hr
  rename_i len hlen
  obtain ⟨hstart, hstart0⟩ := Option.filter_eq_some_iff.mp hstart
  obtain ⟨hlen, hlen0⟩ := Option.filter_eq_some_iff.mp hlen
  have hstart0 : 0 ≤ start := by simpa using hstart0
  have hlen0 : 0 < len := by simpa using hlen0
  have hspan : span s = (start.toNat, len.toNat) := by
    rw [span, hstart, hlen, Option.getD_some, Option.getD_some]
  cases Option.some.inj h
  rw [append_errors_eq_nil, List.append_eq_nil_iff, List.append_eq_nil_iff] at hr
  obtain ⟨⟨⟨hname, hout⟩, hbit⟩, -⟩ := hr
  have hname : textAt s "name" ≠ "" := by
    intro he
    rw [if_pos he] at hname
    cases hname
  have hout : (start : Int) + len ≤ bitLimit := by
    by_contra hlt
    rw [if_pos (not_le.mp hlt)] at hout
    cases hout
  have hfree : firstUsed used start.toNat len.toNat = none := by
    cases hb : firstUsed used start.toNat len.toNat with
    | none => rfl
    | some b =>
      rw [hb] at hbit
      cases hbit
  rw [hspan]
  refine ⟨?_, (firstUsed_eq_none_iff used _ _).mp hfree, ?_⟩
  · exact
      { object := by simpa using hobj
        name := hname
        start := by rw [hspan, hstart, Int.toNat_of_nonneg hstart0]
        length := by rw [hspan, hlen, Int.toNat_of_nonneg hlen0.le]
        pos := by
          rw [hspan]
          dsimp only
          omega
        fits := by
          rw [hspan, Int.toNat_of_nonneg hstart0, Int.toNat_of_nonneg hlen0.le]
          exact hout }
  · simp [hfree]

/-- The signals keep out of what is used before them and of each other. -/
theorem checkSignals_ok {sigs : List Json} {r : Report}
    (h : checkSignals py false bitLimit used sigs = some r) (hr : r.errors = [])
    (hused : bitLimit ≤ used.length) :
    (∀ s ∈ sigs, SignalOk bitLimit s ∧ Free used (span s)) ∧ sigs.Pairwise SpansDisjoint := by
  induction sigs generalizing used r with
  | nil => exact ⟨nofun, List.Pairwise.nil⟩
  | cons s rest ih =>
    obtain ⟨rs, hs, h⟩ := Option.bind_eq_some_iff.mp h
    obtain ⟨rrest, hrest, rfl⟩ := Option.map_eq_some_iff.mp h
    obtain ⟨herrs, herrest⟩ := append_errors_eq_nil.mp hr
    obtain ⟨hok, hfree, hmark⟩ := checkSignal_ok hs herrs
    rw [hmark] at hrest
    obtain ⟨hall, hpair⟩ := ih hrest herrest (by rw [length_mark]; exact hused)
    -- a later signal is free of the bits before it and of those of this one
    have hlater : ∀ t ∈ rest, ∀ b, (span t).1 ≤ b → b < (span t).1 + (span t).2 →
        (used.getD b false || decide ((span s).1 ≤ b ∧ b < (span s).1 + (span s).2)) = false := by
      intro t ht b hlo hhi
      have hfits := (hall t ht).1.fits
      rw [← getD_mark used _ _ b (by omega)]
      exact (hall t ht).2 b hlo hhi
    refine ⟨?_, List.Pairwise.cons ?_ hpair⟩
    · intro t ht
      obtain rfl | ht := List.mem_cons.mp ht
      · exact ⟨hok, hfree⟩
      · refine ⟨(hall t ht).1, fun b hlo hhi => ?_⟩
        exact (Bool.or_eq_false_iff.mp (hlater t ht b hlo hhi)).1
    · intro t ht
      refine disjoint_of_no_common hok.pos (hall t ht).1.pos ?_
      intro b hslo hshi htlo hthi
      have hfalse := (Bool.or_eq_false_iff.mp (hlater t ht b htlo hthi)).2
      exact absurd ⟨hslo, hshi⟩ (of_decide_eq_false hfalse)

variable {allowDuplicateId : Bool} {seen : List Int}

theorem checkHead_ok {m : Json} (h : (checkHead allowDuplicateId seen m).1 = []) :
    textAt m "name" ≠ "" ∧ (intAt m "id").isSome ∧
      ∃ dlc, intAt m "dlc" = some dlc ∧ 0 ≤ dlc ∧ dlc ≤ 64 := by
  rw [checkHead, List.append_eq_nil_iff, List.append_eq_nil_iff, List.append_eq_nil_iff] at h
  obtain ⟨⟨⟨hname, hid⟩, hdlc⟩, -⟩ := h
  refine ⟨?_, ?_, ?_⟩
  · intro he
    rw [if_pos he] at hname
    cases hname
  · cases hmid : intAt m "id" with
    | none =>
      rw [checkId, hmid] at hid
      cases hid
    | some mid => rfl
  · cases hsome : (intAt m "dlc").filter fun d => 0 ≤ d ∧ d ≤ 64 with
    | none =>
      rw [hsome] at hdlc
      cases hdlc
    | some dlc =>
      obtain ⟨hdlc, hrange⟩ := Option.filter_eq_some_iff.mp hsome
      obtain ⟨hlo, hhi⟩ : 0 ≤ dlc ∧ dlc ≤ 64 := by simpa using hrange
      exact ⟨dlc, hdlc, hlo, hhi⟩

theorem checkMessage_ok {m : Json} {r : Report × List Int}
    (h : checkMessage py false allowDuplicateId seen m = some r) (hr : r.1.errors = []) :
    MessageOk m := by
  unfold checkMessage at h
  split at h
  · cases h
  rename_i hobj
  dsimp only at h
  split at h
  · cases Option.some.inj h
    simp at hr
  rename_i sigs hsigs
  obtain ⟨rs, hchecked, rfl⟩ := Option.map_eq_some_iff.mp h
  obtain ⟨hhead, herrs⟩ := append_errors_eq_nil.mp hr
  obtain ⟨hname, hid, dlc, hdlc, hlo, hhi⟩ := checkHead_ok hhead
  rw [hdlc, Option.map_some, Option.getD_some] at hchecked
  obtain ⟨hall, hpair⟩ := checkSignals_ok hchecked herrs (by rw [List.length_replicate]; omega)
  exact
    { object := by simpa using hobj
      name := hname
      id := hid
      signals := ⟨dlc, sigs, hdlc, hlo, hhi, hsigs, fun s hs => (hall s hs).1, hpair⟩ }

theorem checkMessages_ok {ms : List Json} {r : Report}
    (h : checkMessages py false allowDuplicateId seen ms = some r) (hr : r.errors = []) :
    ∀ m ∈ ms, MessageOk m := by
  induction ms generalizing seen r with
  | nil => exact nofun
  | cons m rest ih =>
    obtain ⟨rm, hm, h⟩ := Option.bind_eq_some_iff.mp h
    obtain ⟨rrest, hrest, rfl⟩ := Option.map_eq_some_iff.mp h
    obtain ⟨herrs, herrest⟩ := append_errors_eq_nil.mp hr
    rw [List.forall_mem_cons]
    exact ⟨checkMessage_ok hm herrs, ih hrest herrest⟩

theorem messages_of_accepts {proto : Json} (h : Accepts py proto false allowDuplicateId) :
    ∃ ms, proto.find "messages" = some (.array ms) ∧ ∀ m ∈ ms, MessageOk m := by
  obtain ⟨r, hr, herrs⟩ := h
  unfold validate at hr
  split at hr
  · cases hr
  split at hr
  · rename_i m rest hms
    exact ⟨m :: rest, hms, checkMessages_ok hr herrs⟩
  · cases Option.some.inj hr
    cases herrs

end Accepted

end ProtoTools
end Bms
end EnergyStorage
